import Confine.Machine.Amd64
import Confine.Proofs.Sandbox.Custody
import Confine.Proofs.Sandbox.Supervision

set_option autoImplicit false

/-! # What a sandbox remembers

A sandbox remembers which process its last command had and how that command ended, what machine code
has returned, and the code itself. `Remembers` says what each of these is in terms of the past
alone: of the operations with their replies, and of the requests with their answers. Neither the
descriptor on the way nor the backend occurs in it.

`Learns` and `Hears` say what a single operation adds. How a command ended is the delicate part,
since a report must be told of the right child; here the discipline of `Custody` is used, by which
nothing is asked about a child before it is started or after it has ended.
-/

namespace Confine.Sandbox

variable {σ : Type}

/-! ## The past -/

/-- What was done with a sandbox: the operations with their replies, in order. -/
abbrev History := List (Operation × Reply)

/-- The process of the command that was started, if one was. -/
def startedBy : Operation × Reply → Option UInt32
  | (.exec _, .pid pid) => some pid
  | _ => none

/-- The machine code that was run, with what it returned, if any was. -/
def ranBy : Operation × Reply → Option (List UInt8 × Int32)
  | (.execCode _ bytes, .value value) => some (bytes, value)
  | _ => none

namespace History

/-- The processes of the commands that were started, in order. -/
def started (H : History) : List UInt32 := H.filterMap startedBy

/-- The machine code that was run, with what it returned, in order. -/
def ran (H : History) : List (List UInt8 × Int32) := H.filterMap ranBy

/-- `H.Newest n i`: the last command that was started had the child number `i`, where the first one
had the number `n`. -/
def Newest (n : Nat) (H : History) (i : Nat) : Prop := n ≤ i ∧ i + 1 = n + H.started.length

variable {n i : Nat} {H : History} {turn : Operation × Reply}

theorem filterMap_concat {α β : Type} (f : α → Option β) (xs : List α) (x : α) :
    (xs ++ [x]).filterMap f = xs.filterMap f ++ (f x).toList := by
  rw [List.filterMap_append]
  cases h : f x <;> simp [h]

theorem getLast?_filterMap_concat {α β : Type} (f : α → Option β) (xs : List α) (x : α) :
    ((xs ++ [x]).filterMap f).getLast? = (f x).or (xs.filterMap f).getLast? := by
  rw [filterMap_concat, List.getLast?_append]
  cases f x <;> rfl

theorem last_started_concat :
    (H ++ [turn]).started.getLast? = (startedBy turn).or H.started.getLast? :=
  getLast?_filterMap_concat startedBy H turn

theorem last_ran_concat : (H ++ [turn]).ran.getLast? = (ranBy turn).or H.ran.getLast? :=
  getLast?_filterMap_concat ranBy H turn

theorem started_concat (h : startedBy turn = none) : (H ++ [turn]).started = H.started := by
  simp [started, h]

theorem newest_concat (h : startedBy turn = none) : Newest n (H ++ [turn]) i ↔ Newest n H i := by
  simp [Newest, started_concat h]

theorem Newest.eq {j : Nat} (hi : Newest n H i) (hj : Newest n H j) : i = j := by
  unfold Newest at hi hj
  omega

end History

/-- The process that a request started, if it did. -/
def Exchange.started? : Exchange → Option UInt32
  | .spawn _ _ (.ok pid) => some pid
  | _ => none

theorem length_started? (xs : List Exchange) :
    (xs.filterMap Exchange.started?).length = xs.countP Exchange.starts := by
  rw [List.length_filterMap_eq_countP]
  congr 1
  funext x
  cases x with
  | spawn _ _ answer => cases answer <;> rfl
  | _ => rfl

/-- **What a sandbox remembers**, in terms of what was done with it and what it asked for, since `n`
children were started. -/
structure Remembers (n : Nat) (H : History) (xs : List Exchange) (d : Descriptor) : Prop where
  /-- The commands that were started are the children that the backend has started. -/
  started : H.started = xs.filterMap Exchange.started?
  /-- A sandbox is destroyed when destroying it has succeeded. -/
  destroyed : d.destroyed = true ↔ (.destroy, .done) ∈ H
  /-- The process is that of the last command that was started, until the sandbox is destroyed. -/
  pid : d.destroyed = false → d.pid = H.started.getLast?.getD 0
  /-- The exit is what the backend has reported of the last child that was started. -/
  lastExit : ∀ report,
    d.lastExit = some report ↔ ∃ i, H.Newest n i ∧ ∃ x ∈ xs, x.Delivers i report
  /-- The result is that of the last machine code that ran. -/
  lastResult : d.lastResult = H.ran.getLast?.map Prod.snd
  /-- The code is that machine code, until the sandbox is destroyed. -/
  code : d.destroyed = false →
    d.code.map Code.ExecutableRegion.bytes = H.ran.getLast?.map Prod.fst

/-! ## What an operation adds -/

/-- **What an operation adds to the memory**, apart from the exit: `turn` is the operation with its
reply, and `xs` are its requests. -/
structure Learns (d : Descriptor) (turn : Operation × Reply) (xs : List Exchange)
    (d' : Descriptor) : Prop where
  started : xs.filterMap Exchange.started? = (startedBy turn).toList
  destroyed : d'.destroyed = true ↔ d.destroyed = true ∨ turn = (.destroy, .done)
  pid : d'.destroyed = false → d'.pid = (startedBy turn).getD d.pid
  lastResult : d'.lastResult = ((ranBy turn).map Prod.snd).or d.lastResult
  code : d'.destroyed = false → d'.code.map Code.ExecutableRegion.bytes
    = ((ranBy turn).map Prod.fst).or (d.code.map Code.ExecutableRegion.bytes)

/-- A turn that starts nothing, runs nothing and does not destroy the sandbox. -/
def Idles (turn : Operation × Reply) : Prop :=
  startedBy turn = none ∧ ranBy turn = none ∧ turn ≠ (.destroy, .done)

/-- The memory stays as it is, apart from the exit, and no child is started. -/
structure Retains (d : Descriptor) (xs : List Exchange) (d' : Descriptor) : Prop where
  started : xs.filterMap Exchange.started? = []
  destroyed : d'.destroyed = d.destroyed
  pid : d'.pid = d.pid
  lastResult : d'.lastResult = d.lastResult
  code : d'.code = d.code

section Learning

variable {n : Nat} {d d' d'' : Descriptor} {xs ys : List Exchange}
  {turn : Operation × Reply}

theorem Retains.refl (d : Descriptor) : Retains d [] d := ⟨rfl, rfl, rfl, rfl, rfl⟩

theorem Retains.trans (h : Retains d xs d') (h' : Retains d' ys d'') :
    Retains d (xs ++ ys) d'' := by
  refine ⟨?_, h'.destroyed.trans h.destroyed, h'.pid.trans h.pid,
    h'.lastResult.trans h.lastResult, h'.code.trans h.code⟩
  rw [List.filterMap_append, h.started, h'.started]
  rfl

/-- Requests that start no child add nothing. -/
theorem Retains.append (h : Retains d xs d') (hy : ys.filterMap Exchange.started? = []) :
    Retains d (xs ++ ys) d' :=
  h.trans ⟨hy, rfl, rfl, rfl, rfl⟩

theorem Retains.learns (h : Retains d xs d') (ht : Idles turn) : Learns d turn xs d' := by
  obtain ⟨hstarted, hran, hdone⟩ := ht
  refine ⟨?_, ?_, fun _ => ?_, ?_, fun _ => ?_⟩
  · rw [h.started, hstarted]
    rfl
  · rw [h.destroyed]
    exact (or_iff_left hdone).symm
  · rw [h.pid, hstarted]
    rfl
  · rw [h.lastResult, hran]
    rfl
  · rw [h.code, hran]
    rfl

theorem Polls.retains (hp : Polls d xs d') : Retains d xs d' := by
  cases hp <;> exact ⟨rfl, rfl, rfl, rfl, rfl⟩

theorem Reads.retains {ask : UInt32 → UInt64 → Exchange} {amount : UInt64}
    (hx : Reads ask d xs amount d') (hask : ∀ pid amount, (ask pid amount).started? = none) :
    Retains d xs d' := by
  cases hx with
  | nothing hp _ => exact hp.retains
  | read hp _ _ => exact hp.retains.append (by simp [hask])

theorem Reports.retains {report : Report} (hx : Reports d xs report d') : Retains d xs d' := by
  cases hx with
  | mk hp hm hc =>
      have hm' := hm.retains fun _ _ => rfl
      have hc' := hc.retains fun _ _ => rfl
      exact hp.retains.trans (hm'.trans hc')

theorem Execs.learns {command : String} {result : Except Error UInt32}
    (hx : Execs n command d xs result d') :
    Learns d (.exec command, .ofExcept .pid result) xs d' := by
  cases hx with
  | destroyed => exact (Retains.refl d).learns ⟨rfl, rfl, by simp⟩
  | busy _ hp _ => exact hp.retains.learns ⟨rfl, rfl, by simp⟩
  | refused _ hp _ => exact (hp.retains.append rfl).learns ⟨rfl, rfl, by simp⟩
  | started _ hp _ =>
      have hkept := hp.retains
      refine ⟨?_, ?_, fun _ => rfl, hkept.lastResult, fun _ => ?_⟩
      · rw [List.filterMap_append, hkept.started]
        rfl
      · rw [hkept.destroyed]
        simp
      · rw [hkept.code]
        rfl

theorem ExecsCode.learns {m : Machine} {bytes : List UInt8} {result : Except Error Int32}
    (hx : ExecsCode m bytes d xs result d') :
    Learns d (.execCode m bytes, .ofExcept .value result) xs d' := by
  cases hx with
  | destroyed | unsupported => exact (Retains.refl d).learns ⟨rfl, rfl, by simp⟩
  | busy _ _ hp _ | empty _ _ hp _ _ | unmapped _ _ hp _ _ _ | unsealed _ _ hp _ _ _ _ =>
      exact hp.retains.learns ⟨rfl, rfl, by simp⟩
  | ran _ _ hp _ _ ha _ =>
      -- The region that is kept holds the bytes that were given, and nothing else.
      have hkept := hp.retains
      refine ⟨hkept.started, ?_, fun _ => hkept.pid, rfl, fun _ => ?_⟩
      · rw [hkept.destroyed]
        simp
      · rw [Option.map_some, Code.regionOf_bytes ha]
        rfl

theorem Stops.learns {result : Except Error Unit} (hx : Stops d xs result d') :
    Learns d (.stop, .ofExcept (fun _ => .done) result) xs d' := by
  cases hx with
  | destroyed => exact (Retains.refl d).learns ⟨rfl, rfl, by simp⟩
  | idle _ hp _ => exact hp.retains.learns ⟨rfl, rfl, by simp⟩
  | released _ hp _ _ =>
      have hkept := hp.retains
      exact Retains.learns ⟨hkept.started, hkept.destroyed, hkept.pid, hkept.lastResult, hkept.code⟩
        ⟨rfl, rfl, by simp⟩
  | unkilled _ hp _ _ => exact (hp.retains.append rfl).learns ⟨rfl, rfl, by simp⟩
  | unreaped _ hp _ _ | reaped _ hp _ _ =>
      refine Retains.learns (hp.retains.trans ?_) ⟨rfl, rfl, by simp⟩
      exact ⟨rfl, rfl, rfl, rfl, rfl⟩

theorem Reaps.started_nil {child : Option Child} {report : Option ExitReport}
    (hr : Reaps child xs report) : xs.filterMap Exchange.started? = [] := by
  cases hr <;> rfl

theorem Destroys.learns {result : Except Error Unit} (hx : Destroys d xs result d') :
    Learns d (.destroy, .ofExcept (fun _ => .done) result) xs d' := by
  cases hx with
  | destroyed => exact (Retains.refl d).learns ⟨rfl, rfl, by simp [Reply.ofExcept]⟩
  | done _ hr => exact ⟨hr.started_nil, iff_of_true rfl (.inr rfl), nofun, rfl, nofun⟩

/-- **What any operation adds.** -/
theorem Performs.learns {operation : Operation} {reply : Reply}
    (hx : Performs n d operation xs reply d') : Learns d (operation, reply) xs d' := by
  cases hx with
  | exec hx | execCode hx | stop hx | destroy hx => exact hx.learns
  | status hp | lastExit hp => exact hp.retains.learns ⟨rfl, rfl, by simp⟩
  | memory hx | cpuTime hx => exact (hx.retains fun _ _ => rfl).learns ⟨rfl, rfl, by simp⟩
  | report hx => exact hx.retains.learns ⟨rfl, rfl, by simp⟩
  | pid | mode | limits | lastResult | flags =>
      exact (Retains.refl d).learns ⟨rfl, rfl, by simp⟩

end Learning

/-! ## What an operation hears of a child -/

theorem Exchange.Delivers.unique {x : Exchange} {i : Nat} {r r' : ExitReport}
    (h : x.Delivers i r) (h' : x.Delivers i r') : r = r' := by
  rcases h with rfl | rfl <;> rcases h' with h' | h' <;> cases h' <;> rfl

theorem Exchange.Delivers.ends {x : Exchange} {i : Nat} {report : ExitReport}
    (h : x.Delivers i report) : x.Ends i := by
  rcases h with rfl | rfl
  · exact ⟨rfl, rfl⟩
  · rfl

/-- **What becomes known of the exit of child number `i`**: just what the requests deliver. -/
def Hears (i : Nat) (d : Descriptor) (xs : List Exchange) (d' : Descriptor) : Prop :=
  ∀ report, d'.lastExit = some report ↔
    d.lastExit = some report ∨ ∃ x ∈ xs, x.Delivers i report

section Hearing

variable {n i : Nat} {d d' d'' : Descriptor} {x : Exchange} {xs ys : List Exchange}

theorem Hears.nil (h : d'.lastExit = d.lastExit) : Hears i d [] d' := by
  intro report
  rw [h]
  simp

theorem Hears.trans (h : Hears i d xs d') (h' : Hears i d' ys d'') :
    Hears i d (xs ++ ys) d'' := by
  intro report
  rw [h' report, h report, or_assoc]
  simp only [List.mem_append, or_and_right, exists_or]

/-- A request that delivers nothing. -/
theorem Hears.cons (h : Hears i d xs d') (hx : ∀ report, ¬ x.Delivers i report) :
    Hears i d (x :: xs) d' := by
  intro report
  rw [h report]
  simp [hx report]

/-- A request that delivers the first report of a child. -/
theorem Hears.told {report : ExitReport} (hx : x.Delivers i report) (hd : d.lastExit = none)
    (hd' : d'.lastExit = some report) : Hears i d [x] d' := by
  intro r
  rw [hd, hd']
  constructor
  · rintro ⟨⟩
    exact .inr ⟨x, List.mem_singleton_self x, hx⟩
  · rintro (hr | ⟨y, hy, hr⟩)
    · cases hr
    · cases List.mem_singleton.mp hy
      rw [hx.unique hr]

theorem not_delivers_of_reported {answer : Except String (Option ExitReport)} {j : Nat}
    (h : reported answer = none) (report : ExitReport) :
    ¬ (Exchange.tryWait j answer).Delivers i report := by
  rintro (hx | hx)
  · cases hx
    cases h
  · cases hx

/-- Every child that is owned has this number. -/
def Descriptor.OwnsOnly (d : Descriptor) (i : Nat) : Prop :=
  ∀ child, d.process = some child → child.index = i

theorem Polls.hears (hp : Polls d xs d') (h : d.Coherent) (hi : d.OwnsOnly i) :
    Hears i d xs d' := by
  cases hp with
  | still => exact .nil rfl
  | exited _ hc =>
      cases hi _ hc
      exact .told (.inl rfl) (h.owned _ hc).2.2.1 rfl
  | alive _ _ ha => exact (Hears.nil rfl).cons (not_delivers_of_reported ha)

/-- A poll takes children away and brings none. -/
theorem Polls.ownsOnly (hp : Polls d xs d') (hi : d.OwnsOnly i) : d'.OwnsOnly i := by
  cases hp with
  | still | alive => exact hi
  | exited => exact nofun

theorem Reads.hears {ask : UInt32 → UInt64 → Exchange} {amount : UInt64}
    (hx : Reads ask d xs amount d') (h : d.Coherent) (hi : d.OwnsOnly i)
    (hask : ∀ pid amount report, ¬ (ask pid amount).Delivers i report) : Hears i d xs d' := by
  cases hx with
  | nothing hp _ => exact hp.hears h hi
  | read hp _ _ => exact (hp.hears h hi).trans ((Hears.nil rfl).cons (hask _ _))

theorem Reads.ownsOnly {ask : UInt32 → UInt64 → Exchange} {amount : UInt64}
    (hx : Reads ask d xs amount d') (hi : d.OwnsOnly i) : d'.OwnsOnly i := by
  cases hx with
  | nothing hp _ | read hp _ _ => exact hp.ownsOnly hi

theorem Reports.hears {report : Report} (hx : Reports d xs report d') (h : d.Coherent)
    (hi : d.OwnsOnly i) : Hears i d xs d' := by
  cases hx with
  | mk hp hm hc =>
      have h₁ := hp.coherent h
      have hi₁ := hp.ownsOnly hi
      have hm' := hm.hears h₁ hi₁ (by simp [Exchange.Delivers])
      have hc' := hc.hears (hm.coherent h₁) (hm.ownsOnly hi₁) (by simp [Exchange.Delivers])
      exact (hp.hears h hi).trans (hm'.trans hc')

theorem Execs.hears {command : String} {cause : Error}
    (hx : Execs n command d xs (.error cause) d') (h : d.Coherent) (hi : d.OwnsOnly i) :
    Hears i d xs d' := by
  cases hx with
  | destroyed => exact .nil rfl
  | busy _ hp _ => exact hp.hears h hi
  | refused _ hp _ =>
      exact (hp.hears h hi).trans ((Hears.nil rfl).cons (by simp [Exchange.Delivers]))

theorem ExecsCode.hears {m : Machine} {bytes : List UInt8} {result : Except Error Int32}
    (hx : ExecsCode m bytes d xs result d') (h : d.Coherent) (hi : d.OwnsOnly i) :
    Hears i d xs d' := by
  cases hx with
  | destroyed | unsupported => exact .nil rfl
  | busy _ _ hp _ | empty _ _ hp _ _ | unmapped _ _ hp _ _ _ | unsealed _ _ hp _ _ _ _
  | ran _ _ hp _ _ _ _ => exact hp.hears h hi

theorem Stops.hears {result : Except Error Unit} (hx : Stops d xs result d') (h : d.Coherent)
    (hi : d.OwnsOnly i) : Hears i d xs d' := by
  cases hx with
  | destroyed => exact .nil rfl
  | idle _ hp _ | released _ hp _ _ => exact hp.hears h hi
  | unkilled _ hp _ _ =>
      exact (hp.hears h hi).trans ((Hears.nil rfl).cons (by simp [Exchange.Delivers]))
  | unreaped _ hp _ _ =>
      refine (hp.hears h hi).trans (Hears.cons (Hears.cons (.nil rfl) ?_) ?_)
      · simp [Exchange.Delivers]
      · simp [Exchange.Delivers]
  | reaped _ hp _ hc =>
      cases hp.ownsOnly hi _ hc
      have hnone := ((hp.coherent h).owned _ hc).2.2.1
      exact (hp.hears h hi).trans
        ((Hears.told (.inr rfl) hnone rfl).cons (by simp [Exchange.Delivers]))

/-- Of a child that is given up the sandbox hears what the poll or the wait says. -/
theorem Destroys.hears {result : Except Error Unit} (hx : Destroys d xs result d')
    (h : d.Coherent) (hi : d.OwnsOnly i) : Hears i d xs d' := by
  cases hx with
  | destroyed => exact .nil rfl
  | done _ hr =>
      cases hc : d.process with
      | none =>
          rw [hc] at hr
          cases hr
          exact .nil rfl
      | some child =>
          have hnone := (h.owned child hc).2.2.1
          cases hi child hc
          rw [hc] at hr
          cases hr with
          | exited => exact .told (.inl rfl) hnone rfl
          | @forced _ _ _ waited ha =>
              refine Hears.cons ?_ (not_delivers_of_reported ha)
              refine Hears.cons ?_ (by simp [Exchange.Delivers])
              cases waited with
              | error reason => exact (Hears.nil rfl).cons (by simp [Exchange.Delivers])
              | ok report => exact .told (.inr rfl) hnone rfl

/-- **What any operation hears** of the child that is owned, unless it starts another one. -/
theorem Performs.hears {operation : Operation} {reply : Reply}
    (hx : Performs n d operation xs reply d') (h : d.Coherent) (hi : d.OwnsOnly i)
    (hs : startedBy (operation, reply) = none) : Hears i d xs d' := by
  cases hx with
  | @exec _ _ result _ hx =>
      cases result with
      | ok pid => cases hs
      | error => exact hx.hears h hi
  | execCode hx | stop hx | destroy hx | report hx => exact hx.hears h hi
  | status hp | lastExit hp => exact hp.hears h hi
  | memory hx | cpuTime hx => exact hx.hears h hi (by simp [Exchange.Delivers])
  | pid | mode | limits | lastResult | flags => exact .nil rfl

end Hearing

/-! ## Ended children -/

theorem Exchange.Ends.child? {x : Exchange} {i : Nat} (h : x.Ends i) : x.child? = some i := by
  cases x with
  | tryWait => exact congrArg some h.1
  | wait => exact congrArg some h
  | createContainer | spawn | kill | memoryUsage | cpuTime => exact h.elim

namespace Custody

variable {c c' : Custody} {x y : Exchange} {xs : List Exchange} {i : Nat}

/-- What a request has ended is ended from then on. -/
theorem Run.lt_ended (h : Run c xs c') (hx : x ∈ xs) (hi : x.Ends i) : i < c'.ended := by
  obtain ⟨before, after, rfl⟩ := List.append_of_mem hx
  obtain ⟨c₁, c₂, -, hstep, hafter⟩ := h.split
  have hlt : i < c₂.ended := hstep.ended_iff.mpr (.inr hi)
  have hle := hafter.ended_le
  omega

/-- **No child is ended by two requests.** -/
theorem Run.ends_unique (h : Run c xs c') (hx : x ∈ xs) (hxi : x.Ends i) (hy : y ∈ xs)
    (hyi : y.Ends i) : x = y := by
  obtain ⟨before, z, after, rfl, -, hbefore, hafter⟩ :=
    h.disposed (h.ended_le_child hx hxi.child?) (h.lt_ended hx hxi)
  have honly : ∀ u ∈ before ++ z :: after, u.Ends i → u = z := by
    intro u hu hui
    rcases List.mem_append.mp hu with hu | hu
    · exact absurd hui (hbefore u hu)
    · rcases List.mem_cons.mp hu with rfl | hu
      · rfl
      · exact absurd hui.child? (hafter u hu)
  rw [honly x hx hxi, honly y hy hyi]

/-- What is asked about is one of the children that were started. -/
theorem Run.mem_started {n : Nat} (h : Run (.free n) xs c') (hx : x ∈ xs)
    (hi : x.child? = some i) : n ≤ i ∧ i + 1 ≤ n + xs.countP Exchange.starts := by
  obtain ⟨before, after, rfl⟩ := List.append_of_mem hx
  obtain ⟨hle, hnumber⟩ := h.handled hi
  rw [List.countP_append]
  omega

end Custody

/-! ## A course of operations -/

section Course

variable {n k : Nat} {H : History} {d d' : Descriptor} {xs ys : List Exchange}
  {operation : Operation} {reply : Reply}

/-- The child that is owned is the one that was started last. -/
theorem Custody.Run.newest {c : Custody} {child : Child} (h : (Custody.free n).Run xs c)
    (hc : c.Shows d) (hs : H.started = xs.filterMap Exchange.started?)
    (hd : d.process = some child) : H.Newest n child.index := by
  obtain ⟨polled, rfl⟩ := hc.eq_held hd
  have hle : n ≤ child.index := h.ended_le
  have hnumber : child.index + 1 = n + xs.countP Exchange.starts := h.started_eq
  rw [← length_started?, ← hs] at hnumber
  exact ⟨hle, hnumber⟩

/-- Nothing has been delivered about a child that is still owned. -/
theorem Custody.Run.not_delivers {c : Custody} {child : Child} {x : Exchange}
    {report : ExitReport} (h : (Custody.free n).Run xs c) (hc : c.Shows d)
    (hd : d.process = some child) (hx : x ∈ xs) : ¬ x.Delivers child.index report := by
  intro hdel
  obtain ⟨polled, rfl⟩ := hc.eq_held hd
  have hlt : child.index < child.index := h.lt_ended hx hdel.ends
  omega

/-- An operation that starts a command leaves a sandbox that owns the child. -/
theorem Performs.owned_of_started {pid : UInt32} (hx : Performs k d operation xs reply d')
    (hs : startedBy (operation, reply) = some pid) : d'.process = some ⟨k, pid⟩ := by
  cases hx with
  | @exec _ _ result _ hx =>
      cases result with
      | error => cases hs
      | ok =>
          cases hs
          exact hx.owned
  | execCode | stop | destroy | status | memory | cpuTime | lastExit | report | pid | mode | limits
  | lastResult | flags => cases hs

/-- What is remembered of the exit stays right. If the operation starts a command then nothing can
be known of the new child, and otherwise the last child is the one that the operation hears of. -/
theorem Remembers.lastExit_concat (hr : Remembers n H xs d)
    (hx : Performs k d operation ys reply d') (h : d.Coherent)
    {c c' : Custody} (hc : (Custody.free n).Run xs c) (hshows : c.Shows d)
    (hc' : (Custody.free n).Run (xs ++ ys) c') (hshows' : c'.Shows d')
    (hstarted : (H ++ [(operation, reply)]).started = (xs ++ ys).filterMap Exchange.started?)
    (report : ExitReport) :
    d'.lastExit = some report ↔ ∃ i, (H ++ [(operation, reply)]).Newest n i
      ∧ ∃ x ∈ xs ++ ys, x.Delivers i report := by
  cases hs : startedBy (operation, reply) with
  | some pid =>
      have hown := hx.owned_of_started hs
      have hnone := ((hx.coherent h).owned _ hown).2.2.1
      rw [hnone]
      refine iff_of_false nofun ?_
      rintro ⟨i, hi, x, hmem, hdel⟩
      cases hi.eq (hc'.newest hshows' hstarted hown)
      exact hc'.not_delivers hshows' hown hmem hdel
  | none =>
      -- This is the number of the last child, if there is one.
      have hnewest : ∀ i, H.Newest n i → i = n + H.started.length - 1 := by
        intro i hi
        unfold History.Newest at hi
        omega
      have hi : d.OwnsOnly (n + H.started.length - 1) := fun child hown =>
        hnewest child.index (hc.newest hshows hr.started hown)
      have hhears := hx.hears h hi hs report
      simp only [History.newest_concat hs]
      rw [hhears, hr.lastExit report]
      constructor
      · rintro (⟨i, hi, x, hmem, hdel⟩ | ⟨x, hmem, hdel⟩)
        · exact ⟨i, hi, x, List.mem_append_left _ hmem, hdel⟩
        · have hmem' := List.mem_append_right xs hmem
          obtain ⟨hle, hlt⟩ := hc'.mem_started hmem' hdel.ends.child?
          rw [← length_started?, ← hstarted, History.started_concat hs] at hlt
          exact ⟨_, ⟨hle, by omega⟩, x, hmem', hdel⟩
      · rintro ⟨i, hi, x, hmem, hdel⟩
        rcases List.mem_append.mp hmem with hmem | hmem
        · exact .inl ⟨i, hi, x, hmem, hdel⟩
        · rw [hnewest i hi] at hdel
          exact .inr ⟨x, hmem, hdel⟩

/-- **What an operation does to the memory** is what its reply and its requests say. -/
theorem Performs.remembers (hx : Performs k d operation ys reply d') (h : d.Coherent)
    (hc : (Custody.free n).Keeps xs d) (hk : n + xs.countP Exchange.starts = k)
    (hr : Remembers n H xs d) : Remembers n (H ++ [(operation, reply)]) (xs ++ ys) d' := by
  obtain ⟨c, hrun, hshows⟩ := hc
  have hn : c.started = k := by
    rw [hrun.started_eq]
    exact hk
  obtain ⟨c', hrun', hshows'⟩ := hx.keeps h hshows hn
  have hl := hx.learns
  have hstarted :
      (H ++ [(operation, reply)]).started = (xs ++ ys).filterMap Exchange.started? := by
    rw [List.filterMap_append, ← hr.started, hl.started]
    exact History.filterMap_concat startedBy H _
  have hkept : d'.destroyed = false → d.destroyed = false := by
    intro hd
    by_contra hne
    rw [Bool.not_eq_false] at hne
    rw [hl.destroyed.mpr (.inl hne)] at hd
    cases hd
  refine ⟨hstarted, ?_, fun hd => ?_, ?_, ?_, fun hd => ?_⟩
  · rw [hl.destroyed, hr.destroyed, List.mem_append, List.mem_singleton]
    exact or_congr_right eq_comm
  · rw [hl.pid hd, hr.pid (hkept hd), History.last_started_concat, Option.getD_or]
  · exact hr.lastExit_concat hx h hrun hshows (hrun.append hrun') hshows' hstarted
  · rw [hl.lastResult, hr.lastResult, History.last_ran_concat, Option.map_or]
  · rw [hl.code hd, hr.code (hkept hd), History.last_ran_concat, Option.map_or]

end Course

/-! ## Created sandboxes -/

/-- **What a sandbox remembers is a function of its past, and is never stale.** -/
structure Recalls (n : Nat) (H : History) (xs : List Exchange) (d : Descriptor) : Prop
    extends Remembers n H xs d where
  /-- After destruction there is no process and no code. -/
  gone : (.destroy, .done) ∈ H → d.pid = 0 ∧ d.code = none
  /-- An owned child is the one that was started last, and no exit is remembered meanwhile. -/
  owned : ∀ child, d.process = some child → H.Newest n child.index
    ∧ H.started.getLast? = some child.pid ∧ d.lastExit = none
  /-- No exit is remembered of a child for which it was waited in vain. -/
  unreaped : ∀ i reason, H.Newest n i → .wait i (.error reason) ∈ xs → d.lastExit = none

theorem Remembers.recalls {n : Nat} {H : History} {xs : List Exchange} {d : Descriptor}
    (hr : Remembers n H xs d) (h : d.Coherent) (hc : (Custody.free n).Keeps xs d) :
    Recalls n H xs d := by
  obtain ⟨c, hrun, hshows⟩ := hc
  refine ⟨hr, fun hd => ?_, fun child hown => ?_, fun i reason hi hw => ?_⟩
  · obtain ⟨-, hpid, -, -, hcode⟩ := h.destroyed (hr.destroyed.mpr hd)
    exact ⟨hpid, hcode⟩
  · obtain ⟨-, hpid, hnone, hd⟩ := h.owned child hown
    have hi := hrun.newest hshows hr.started hown
    refine ⟨hi, ?_, hnone⟩
    -- The last command is there, since the child has a number.
    cases hlast : H.started.getLast? with
    | none =>
        rw [List.getLast?_eq_none_iff] at hlast
        rw [History.Newest, hlast, List.length_nil] at hi
        omega
    | some pid =>
        have he := hr.pid hd
        rw [hpid, hlast] at he
        rw [he]
        rfl
  · cases hlast : d.lastExit with
    | none => rfl
    | some report =>
        obtain ⟨j, hj, x, hx, hdel⟩ := (hr.lastExit report).mp hlast
        cases hj.eq hi
        cases hrun.ends_unique hx hdel.ends hw rfl
        rcases hdel with hdel | hdel <;> cases hdel

/-- A new sandbox remembers nothing. -/
theorem remembers_create {b : Backend σ} {mode : Mode} {limits : Limits} {w w' : World σ}
    {s : Sandbox σ} (h : create b mode limits w = (.ok s, w')) (n : Nat) :
    Remembers n [] [] s.descriptor := by
  obtain ⟨xs, container, -, hd, -, -⟩ := create_spec h
  rw [hd]
  refine ⟨rfl, by simp, fun _ => rfl, by simp, rfl, fun _ => rfl⟩

section Runs

variable {b : Backend σ}

/-- What is remembered after further operations. -/
theorem remembers_performAll {n : Nat} {H : History} {xs : List Exchange} {s : Sandbox σ}
    (h : s.descriptor.Coherent) (hc : (Custody.free n).Keeps xs s.descriptor)
    (hn : n + xs.countP Exchange.starts = s.world.spawned)
    (hr : Remembers n H xs s.descriptor) (operations : List Operation) :
    ∃ ys, s.world.Extends b ys (s.performAll b operations).2.world
      ∧ Recalls n (H ++ operations.zip (s.performAll b operations).1) (xs ++ ys)
        (s.performAll b operations).2.descriptor := by
  induction operations generalizing s H xs with
  | nil =>
      refine ⟨[], .refl b s.world, ?_⟩
      show Recalls n (H ++ []) (xs ++ []) s.descriptor
      rw [List.append_nil, List.append_nil]
      exact hr.recalls h hc
  | cons operation rest ih =>
      obtain ⟨ys, hx, he⟩ := perform_spec b s operation
      have hr' := hx.remembers h hc hn hr
      obtain ⟨c, hrun, hshows⟩ := hc
      have hstarted : c.started = s.world.spawned := by
        rw [hrun.started_eq]
        exact hn
      obtain ⟨c', hrun', hshows'⟩ := hx.keeps h hshows hstarted
      have hn' : n + (xs ++ ys).countP Exchange.starts
          = (s.perform b operation).2.world.spawned := by
        rw [he.spawned, ← hn, List.countP_append, Nat.add_assoc]
      obtain ⟨zs, hz, hall⟩ :=
        ih (hx.coherent h) ⟨c', hrun.append hrun', hshows'⟩ hn' hr'
      rw [List.append_assoc, List.append_assoc] at hall
      exact ⟨ys ++ zs, he.trans hz, hall⟩

/-- **The memory of a sandbox tells its past**, after any operations on a sandbox that was created
and whatever the backend answers to the requests. -/
theorem recalls_of_create {mode : Mode} {limits : Limits} {w w' : World σ} {s : Sandbox σ}
    (h : create b mode limits w = (.ok s, w')) (operations : List Operation) :
    ∃ xs, (s.performAll b operations).2.world.exchanges = s.world.exchanges ++ xs
      ∧ Answers b s.world.state xs (s.performAll b operations).2.world.state
      ∧ Recalls s.world.spawned (operations.zip (s.performAll b operations).1) xs
        (s.performAll b operations).2.descriptor := by
  obtain ⟨-, container, -, hd, -, -⟩ := create_spec h
  have hkeeps : (Custody.free s.world.spawned).Keeps [] s.descriptor := by
    refine ⟨_, .nil, ?_⟩
    rw [hd]
    rfl
  obtain ⟨xs, he, hr⟩ :=
    remembers_performAll (coherent_of_create h) hkeeps rfl (remembers_create h _) operations
  exact ⟨xs, he.exchanges, he.answered, hr⟩

end Runs

/-- Machine code and two commands. The first command exits by itself; the second is killed, but
not even then can it be waited for. No exit is remembered in the end, and not that of the first
command either. -/
theorem recalls_of_two_commands :
    ∃ s w t H xs, create Scripted.backend .vm {} { state := { scripts :=
          [{ exit := some ⟨some 0, none⟩ }, { failWait := some "interrupted" }] } } = (.ok s, w)
      ∧ s.performAll Scripted.backend [.execCode Machine.Amd64.host [0x31, 0xc0, 0xc3], .stop,
          .exec "first", .lastExit, .exec "second", .stop]
        = ([.value 0, .done, .pid 1001, .lastExit (some ⟨some 0, none⟩), .pid 1002,
            .failed (.process "interrupted")], t)
      ∧ t.world.exchanges = s.world.exchanges ++ xs
      ∧ Recalls 0 H xs t.descriptor ∧ H.started = [1001, 1002]
      ∧ H.ran = [([0x31, 0xc0, 0xc3], 0)] ∧ t.descriptor.lastExit = none := by
  have h : create Scripted.backend .vm {} { state := { scripts :=
      [{ exit := some ⟨some 0, none⟩ }, { failWait := some "interrupted" }] } } = _ := rfl
  obtain ⟨xs, hx, -, hr⟩ := recalls_of_create h
    [.execCode Machine.Amd64.host [0x31, 0xc0, 0xc3], .stop, .exec "first", .lastExit,
      .exec "second", .stop]
  exact ⟨_, _, _, _, xs, h, rfl, hx, hr, rfl, rfl, rfl⟩

end Confine.Sandbox

import Confine.Proofs.Sandbox.Spawning
import Confine.Proofs.Sandbox.Waiting

set_option autoImplicit false

/-! # Usage is read of living children

The number of a process is remembered after the process has ended, and may belong to another one by
then. So the usage of a process must not be read because its number is there, but only while the
child is known to be alive: right after a poll that has found it so.

`Living` says which child lives after some requests, and `ReadsLiving` that each reading among them
is of the child that lives just then. The order of requests is followed by `Sighted`, which every
operation keeps to (`Performs.attends`), and that the child has not ended is known from the
discipline of `Custody`. What a single reading comes to, also when there is nothing to read, is
`ReadsOwned`.
-/

namespace Confine.Sandbox

variable {σ : Type}

/-! ## Readings -/

/-- The process whose usage a request asks for, if it asks for one. -/
def Exchange.reads? : Exchange → Option UInt32
  | .memoryUsage pid _ | .cpuTime pid _ => some pid
  | _ => none

/-- The process that was started last, where `p` was the last one before. -/
def lastStarted (p : Option UInt32) (xs : List Exchange) : Option UInt32 :=
  (xs.filterMap Exchange.started?).getLast?.or p

/-- **Each reading comes right after a poll that has found a child alive**, and it is of the process
that was started last, where `p` was the last one before. -/
inductive Sighted : Option UInt32 → List Exchange → Prop
  | nil {p : Option UInt32} : Sighted p []
  | other {p : Option UInt32} {x : Exchange} {xs : List Exchange} (hx : x.reads? = none)
      (h : Sighted (x.started?.or p) xs) : Sighted p (x :: xs)
  | read {pid : UInt32} {i : Nat} {answer : Except String (Option ExitReport)} {x : Exchange}
      {xs : List Exchange} (ha : reported answer = none) (hx : x.reads? = some pid)
      (h : Sighted (some pid) xs) : Sighted (some pid) (.tryWait i answer :: x :: xs)

section Requests

variable {p : Option UInt32} {pid : UInt32} {x : Exchange} {xs ys before after : List Exchange}

theorem started?_of_reads? (hx : x.reads? = some pid) : x.started? = none := by
  cases x with
  | memoryUsage | cpuTime => rfl
  | createContainer | spawn | tryWait | kill | wait => cases hx

theorem lastStarted_cons (p : Option UInt32) (x : Exchange) (xs : List Exchange) :
    lastStarted p (x :: xs) = lastStarted (x.started?.or p) xs := by
  unfold lastStarted
  cases hx : x.started? with
  | none => rw [List.filterMap_cons_none hx, Option.none_or]
  | some pid =>
      rw [List.filterMap_cons_some hx, List.getLast?_cons, Option.some_or, Option.some_or]
      cases (xs.filterMap Exchange.started?).getLast? <;> rfl

theorem lastStarted_append (p : Option UInt32) (xs ys : List Exchange) :
    lastStarted p (xs ++ ys) = lastStarted (lastStarted p xs) ys := by
  unfold lastStarted
  rw [List.filterMap_append, List.getLast?_append, Option.or_assoc]

theorem lastStarted_eq (p : Option UInt32) (h : xs.filterMap Exchange.started? = []) :
    lastStarted p xs = p := by
  rw [lastStarted, h]
  rfl

theorem Sighted.append (h : Sighted p xs) (h' : Sighted (lastStarted p xs) ys) :
    Sighted p (xs ++ ys) := by
  induction h with
  | nil => exact h'
  | other hx _ ih =>
      rw [lastStarted_cons] at h'
      exact .other hx (ih h')
  | read ha hx _ ih =>
      rw [lastStarted_cons, lastStarted_cons, started?_of_reads? hx] at h'
      exact .read ha hx (ih h')

/-- Where nothing is read there is nothing to be seen. -/
theorem sighted_of_unread (h : ∀ x ∈ xs, x.reads? = none) : Sighted p xs := by
  induction xs generalizing p with
  | nil => exact .nil
  | cons x xs ih =>
      obtain ⟨hx, hxs⟩ := List.forall_mem_cons.mp h
      exact .other hx (ih hxs)

/-- **What comes before a reading**: the poll, and what has started the process before that. -/
theorem Sighted.seen (h : Sighted p (before ++ x :: after)) (hx : x.reads? = some pid) :
    ∃ earlier i answer, before = earlier ++ [.tryWait i answer] ∧ reported answer = none
      ∧ lastStarted p earlier = some pid := by
  generalize hxs : before ++ x :: after = xs at h
  induction h generalizing before with
  | nil => simp at hxs
  | @other p y ys hy _ ih =>
      rcases before with _ | ⟨z, before⟩
      · cases hxs
        rw [hx] at hy
        cases hy
      · cases hxs
        obtain ⟨earlier, i, answer, rfl, ha, hlast⟩ := ih rfl
        exact ⟨y :: earlier, i, answer, rfl, ha, by rw [lastStarted_cons, hlast]⟩
  | @read pid' i answer y ys ha hy _ ih =>
      rcases before with _ | ⟨z, _ | ⟨z', before⟩⟩
      · cases hxs
        cases hx
      · cases hxs
        rw [hx] at hy
        cases hy
        exact ⟨[], i, answer, rfl, ha, rfl⟩
      · cases hxs
        obtain ⟨earlier, j, answer', rfl, ha', hlast⟩ := ih rfl
        refine ⟨.tryWait i answer :: y :: earlier, j, answer', rfl, ha', ?_⟩
        rw [lastStarted_cons, lastStarted_cons, started?_of_reads? hy]
        exact hlast

end Requests

/-! ## What the operations read -/

/-- The child that is owned, if there is one, has the process `p`. -/
def Names (p : Option UInt32) (d : Descriptor) : Prop :=
  ∀ child, d.process = some child → p = some child.pid

/-- **The requests attend to the child that is owned**, from where the process `p` was started last,
and lead to a descriptor that owns no other child than the one that was started last. -/
structure Attends (p : Option UInt32) (xs : List Exchange) (d : Descriptor) : Prop where
  sighted : Sighted p xs
  names : Names (lastStarted p xs) d

section Operations

variable {n : Nat} {d d' d'' : Descriptor} {p : Option UInt32}
  {xs ys : List Exchange}

theorem names_of_vacant (h : d.process = none) : Names p d := by
  intro child hc
  rw [h] at hc
  cases hc

theorem Attends.nil (h : Names p d) : Attends p [] d := ⟨.nil, h⟩

theorem Attends.trans (h : Attends p xs d) (h' : Attends (lastStarted p xs) ys d') :
    Attends p (xs ++ ys) d' := by
  refine ⟨h.sighted.append h'.sighted, ?_⟩
  rw [lastStarted_append]
  exact h'.names

/-- Requests that read nothing and leave no child behind. -/
theorem attends_of_vacant (hxs : ∀ x ∈ xs, x.reads? = none) (h : d.process = none) :
    Attends p xs d :=
  ⟨sighted_of_unread hxs, names_of_vacant h⟩

/-- Requests after which the child is the same. -/
theorem Attends.concat {x : Exchange} (h : Attends p xs d) (hx : x.reads? = none)
    (hs : x.started? = none) (hd : d'.process = d.process) : Attends p (xs ++ [x]) d' := by
  refine h.trans ⟨.other hx .nil, ?_⟩
  rw [lastStarted_eq _ (List.filterMap_cons_none hs)]
  intro child hc
  rw [hd] at hc
  exact h.names child hc

theorem Polls.unread (hp : Polls d xs d') : ∀ x ∈ xs, x.reads? = none := by
  cases hp with
  | still => nofun
  | exited | alive => exact List.forall_mem_singleton.mpr rfl

theorem Polls.attends (hp : Polls d xs d') (h : Names p d) : Attends p xs d' := by
  refine ⟨sighted_of_unread hp.unread, ?_⟩
  rw [lastStarted_eq _ hp.retains.started]
  cases hp with
  | still | alive => exact h
  | exited => exact names_of_vacant rfl

/-- A poll that leaves a child has found it alive. -/
theorem Polls.of_owned_after (hp : Polls d xs d') (h : d.Coherent) {child : Child}
    (hc : d'.process = some child) :
    d' = d ∧ ∃ answer, reported answer = none ∧ xs = [.tryWait child.index answer] := by
  cases hown : d.process with
  | none =>
      obtain ⟨-, rfl⟩ := hp.eq_of_vacant hown
      rw [hown] at hc
      cases hc
  | some child' =>
      rcases hp.of_owned h hown with ⟨report, -, rfl⟩ | ⟨answer, ha, rfl, rfl⟩
      · cases hc
      · rw [hown] at hc
        cases hc
        exact ⟨rfl, answer, ha, rfl⟩

theorem Execs.attends {command : String} {result : Except Error UInt32}
    (hx : Execs n command d xs result d') (h : Names p d) : Attends p xs d' := by
  cases hx with
  | destroyed => exact .nil h
  | busy _ hp _ => exact hp.attends h
  | refused _ hp _ => exact (hp.attends h).concat rfl rfl rfl
  | started _ hp _ =>
      refine (hp.attends h).trans ⟨.other rfl .nil, ?_⟩
      rintro child ⟨⟩
      rfl

theorem ExecsCode.attends {m : Machine} {bytes : List UInt8} {result : Except Error Int32}
    (hx : ExecsCode m bytes d xs result d') (h : Names p d) : Attends p xs d' := by
  cases hx with
  | destroyed | unsupported => exact .nil h
  | busy _ _ hp _ | empty _ _ hp _ _ | unmapped _ _ hp _ _ _ | unsealed _ _ hp _ _ _ _ =>
      exact hp.attends h
  | ran _ _ hp hc _ _ _ => exact attends_of_vacant hp.unread hc

theorem Stops.attends {result : Except Error Unit} (hx : Stops d xs result d') (h : Names p d) :
    Attends p xs d' := by
  cases hx with
  | destroyed => exact .nil h
  | idle _ hp _ => exact hp.attends h
  | released _ hp _ hc => exact attends_of_vacant hp.unread hc
  | unkilled _ hp _ _ => exact (hp.attends h).concat rfl rfl rfl
  | unreaped _ hp _ _ | reaped _ hp _ _ =>
      refine attends_of_vacant (List.forall_mem_append.mpr ⟨hp.unread, ?_⟩) rfl
      simp [Exchange.reads?]

theorem Destroys.attends {result : Except Error Unit} (hx : Destroys d xs result d')
    (h : Names p d) : Attends p xs d' := by
  cases hx with
  | destroyed => exact .nil h
  | done _ hr =>
      refine attends_of_vacant ?_ rfl
      generalize d.process = child at hr
      cases hr <;> simp [Exchange.reads?]

/-- **A reading attends to the child**: its poll comes right before it, and the number that it takes
from the descriptor is that of the child. -/
theorem Reads.attends {ask : UInt32 → UInt64 → Exchange} {amount : UInt64}
    (hx : Reads ask d xs amount d') (h : d.Coherent) (hn : Names p d)
    (hask : ∀ pid amount, (ask pid amount).reads? = some pid) : Attends p xs d' := by
  cases hx with
  | nothing hp _ => exact hp.attends hn
  | @read _ _ child amount hp hc _ =>
      obtain ⟨rfl, answer, ha, rfl⟩ := hp.of_owned_after h hc
      obtain rfl := hn child hc
      rw [(h.owned child hc).2.1]
      have hread := hask child.pid amount
      refine ⟨.read ha hread .nil, ?_⟩
      rw [List.singleton_append, lastStarted_cons, lastStarted_cons, started?_of_reads? hread]
      exact hn

theorem Reports.attends {report : Report} (hx : Reports d xs report d') (h : d.Coherent)
    (hn : Names p d) : Attends p xs d' := by
  cases hx with
  | mk hp hm hc =>
      have h₁ := hp.coherent h
      have hp' := hp.attends hn
      have hm' := hm.attends h₁ hp'.names fun _ _ => rfl
      have hc' := hc.attends (hm.coherent h₁) hm'.names fun _ _ => rfl
      exact hp'.trans (hm'.trans hc')

/-- **Every operation attends to the child that is owned**, whatever the backend answers. -/
theorem Performs.attends {operation : Operation} {reply : Reply}
    (hx : Performs n d operation xs reply d') (h : d.Coherent) (hn : Names p d) :
    Attends p xs d' := by
  cases hx with
  | exec hx | execCode hx | stop hx | destroy hx => exact hx.attends hn
  | status hp | lastExit hp => exact hp.attends hn
  | memory hx | cpuTime hx => exact hx.attends h hn fun _ _ => rfl
  | report hx => exact hx.attends h hn
  | pid | mode | limits | lastResult | flags => exact .nil hn

end Operations

/-! ## One reading -/

/-- **What a reading of the owned child comes to**: the requests, the answer, and the child that is
owned after it. A child that is found alive is asked about by its number, just once, and what the
backend says is the answer. Otherwise nothing is asked for, and the answer is zero: when there is no
child, when the poll finds that it has exited, and when its number is zero, which is that of no
process. -/
inductive ReadsOwned (ask : UInt32 → UInt64 → Exchange) :
    Option Child → List Exchange → UInt64 → Option Child → Prop
  | vacant : ReadsOwned ask none [] 0 none
  | exited {child : Child} {report : ExitReport} :
      ReadsOwned ask (some child) [.tryWait child.index (.ok (some report))] 0 none
  | alive {child : Child} {answer : Except String (Option ExitReport)} {amount : UInt64}
      (ha : reported answer = none) (hpid : child.pid ≠ 0) :
      ReadsOwned ask (some child) [.tryWait child.index answer, ask child.pid amount] amount
        (some child)
  | unnumbered {child : Child} {answer : Except String (Option ExitReport)}
      (ha : reported answer = none) (hpid : child.pid = 0) :
      ReadsOwned ask (some child) [.tryWait child.index answer] 0 (some child)

/-- A reading of an owned child, by what its poll finds. -/
theorem Reads.cases_of_owned {ask : UInt32 → UInt64 → Exchange} {amount : UInt64}
    {d d' : Descriptor} {xs : List Exchange} (hx : Reads ask d xs amount d') (h : d.Coherent)
    {child : Child} (hown : d.process = some child) :
    (∃ report, xs = [.tryWait child.index (.ok (some report))] ∧ amount = 0
        ∧ d' = d.exited report)
      ∨ ∃ answer, reported answer = none ∧ d' = d
        ∧ (child.pid ≠ 0 ∧ xs = [.tryWait child.index answer, ask child.pid amount]
          ∨ child.pid = 0 ∧ xs = [.tryWait child.index answer] ∧ amount = 0) := by
  have hpid := (h.owned child hown).2.1
  cases hx with
  | nothing hp hc =>
      rcases hp.of_owned h hown with ⟨report, rfl, rfl⟩ | ⟨answer, ha, rfl, rfl⟩
      · exact .inl ⟨report, rfl, rfl, rfl⟩
      · -- The child is still owned, so that it must be the number that is missing.
        rw [hown, hpid] at hc
        exact .inr ⟨answer, ha, rfl, .inr ⟨hc.resolve_left nofun, rfl, rfl⟩⟩
  | read hp hc hne =>
      obtain ⟨rfl, answer, ha, rfl⟩ := hp.of_owned_after h hc
      rw [hown] at hc
      cases hc
      rw [hpid] at hne ⊢
      exact .inr ⟨answer, ha, rfl, .inl ⟨hne, rfl⟩⟩

theorem Reads.readsOwned {ask : UInt32 → UInt64 → Exchange} {amount : UInt64} {d d' : Descriptor}
    {xs : List Exchange} (hx : Reads ask d xs amount d') (h : d.Coherent) :
    ReadsOwned ask d.process xs amount d'.process := by
  cases hown : d.process with
  | none =>
      obtain ⟨rfl, rfl, rfl⟩ := hx.eq_of_vacant hown
      rw [hown]
      exact .vacant
  | some child =>
      rcases hx.cases_of_owned h hown with ⟨report, rfl, rfl, rfl⟩ | ⟨answer, ha, rfl, hread⟩
      · exact .exited
      · rw [hown]
        rcases hread with ⟨hpid, rfl⟩ | ⟨hpid, rfl, rfl⟩
        · exact .alive ha hpid
        · exact .unnumbered ha hpid

/-! ## Whatever becomes of a sandbox -/

/-- **The child that lives** after the requests `xs`, before which `n` children were started: it was
started last, and none of the requests has ended it. -/
structure Living (n : Nat) (xs : List Exchange) (child : Child) : Prop where
  newest : n + xs.countP Exchange.starts = child.index + 1
  started : (xs.filterMap Exchange.started?).getLast? = some child.pid
  unended : ∀ x ∈ xs, ¬ x.Ends child.index

theorem Living.eq {n : Nat} {xs : List Exchange} {child child' : Child} (h : Living n xs child)
    (h' : Living n xs child') : child = child' := by
  have hindex : child.index = child'.index :=
    Nat.succ.inj (h.newest.symm.trans h'.newest)
  have hpid : child.pid = child'.pid := Option.some.inj (h.started.symm.trans h'.started)
  cases child
  cases child'
  cases hindex
  cases hpid
  rfl

/-- **Only living children are read**: each reading is of a child that lives, and the request right
before it is a poll that has found this child alive. -/
def ReadsLiving (n : Nat) (xs : List Exchange) : Prop :=
  ∀ before x after pid, xs = before ++ x :: after → x.reads? = some pid →
    ∃ earlier child answer, before = earlier ++ [.tryWait child.index answer]
      ∧ reported answer = none ∧ Living n earlier child ∧ child.pid = pid

section Runs

variable {b : Backend σ} {n : Nat} {c : Custody} {d : Descriptor}
  {xs : List Exchange} {s t : Sandbox σ}

/-- A child that is held is one that lives. -/
theorem Custody.Run.living {i : Nat} {pid : UInt32} {polled : Bool}
    (h : (Custody.free n).Run xs (.held i polled)) (hs : lastStarted none xs = some pid) :
    Living n xs ⟨i, pid⟩ := by
  refine ⟨h.started_eq.symm, ?_, fun x hx hends => ?_⟩
  · rwa [lastStarted, Option.or_none] at hs
  · have hlt : i < i := h.lt_ended hx hends
    omega

/-- **Requests that keep to the discipline and follow sightings read only living children.** -/
theorem Custody.Run.readsLiving (h : (Custody.free n).Run xs c) (hs : Sighted none xs) :
    ReadsLiving n xs := by
  rintro before x after pid rfl hx
  obtain ⟨earlier, i, answer, rfl, ha, hlast⟩ := hs.seen hx
  obtain ⟨c₁, -, hbefore, -, -⟩ := h.split
  obtain ⟨c₀, c₂, hearlier, hpoll, -⟩ := hbefore.split
  obtain ⟨polled, rfl⟩ := hpoll.held_of_child rfl
  exact ⟨earlier, ⟨i, pid⟩, answer, rfl, ha, hearlier.living hlast, rfl⟩

/-- What is owned is what lives. -/
theorem Custody.Run.owned_iff (h : (Custody.free n).Run xs c) (hc : c.Shows d)
    (hn : Names (lastStarted none xs) d) (child : Child) :
    d.process = some child ↔ Living n xs child := by
  constructor
  · intro hown
    obtain ⟨polled, rfl⟩ := hc.eq_held hown
    exact h.living (hn child hown)
  · intro hl
    have hcount := h.started_eq
    cases hown : d.process with
    | none =>
        -- All children that were started have ended, and this is one of them.
        obtain hfree := hc.eq_free hown
        rw [hfree] at h
        have hstarts : 0 < xs.countP Exchange.starts := by
          rw [← length_started?]
          refine List.length_pos_of_ne_nil fun hnil => ?_
          have hstarted := hl.started
          rw [hnil] at hstarted
          cases hstarted
        have hnewest := hl.newest
        change c.started = n + xs.countP Exchange.starts at hcount
        obtain ⟨before, x, after, rfl, hends, -⟩ := h.disposed (i := child.index)
          (by show n ≤ _; omega) (by show _ < c.started; omega)
        exact absurd hends (hl.unended x (by simp))
    | some child' =>
        obtain ⟨polled, rfl⟩ := hc.eq_held hown
        have hl' : Living n xs child' := h.living (hn child' hown)
        rw [hl.eq hl']

theorem Becomes.coherent (h : Becomes b s t) (hs : s.descriptor.Coherent) :
    t.descriptor.Coherent := by
  induction h using preserves with
  | start => exact hs
  | perform t operation _ ih => exact coherent_perform ih operation
  | elapse t state journal _ ih => exact ih

/-- **Whatever becomes of a sandbox**, its requests keep to the discipline and attend to the
child. -/
theorem Becomes.attends {p : Option UInt32} (h : Becomes b s t) (hs : s.descriptor.Coherent)
    (hc : c.Shows s.descriptor) (hn : c.started = s.world.spawned) (hp : Names p s.descriptor) :
    ∃ xs, t.world.exchanges = s.world.exchanges ++ xs ∧ Attends p xs t.descriptor
      ∧ ∃ c', c.Run xs c' ∧ c'.Shows t.descriptor ∧ c'.started = t.world.spawned := by
  induction h using preserves with
  | start => exact ⟨[], (List.append_nil _).symm, .nil hp, c, .nil, hc, hn⟩
  | perform t operation h ih =>
      obtain ⟨xs, hxs, ha, c₁, hr, hc₁, hn₁⟩ := ih
      have ht := h.coherent hs
      obtain ⟨ys, hx, he⟩ := perform_spec b t operation
      obtain ⟨c₂, hr', hc₂⟩ := hx.keeps ht hc₁ hn₁
      refine ⟨xs ++ ys, ?_, ha.trans (hx.attends ht ha.names), c₂, hr.append hr', hc₂, ?_⟩
      · rw [he.exchanges, hxs, List.append_assoc]
      · rw [hr'.started_eq, hn₁, he.spawned]
  | elapse t state journal _ ih => exact ih

/-- When a sandbox is created nothing is read. -/
theorem attends_of_create {mode : Mode} {limits : Limits} {w w' : World σ}
    (h : create b mode limits w = (.ok s, w')) :
    ∃ xs, w.Extends b xs s.world ∧ (Custody.free w.spawned).Run xs (.free w.spawned)
      ∧ (Custody.free w.spawned).Shows s.descriptor ∧ w.spawned = s.world.spawned
      ∧ Attends none xs s.descriptor := by
  obtain ⟨xs, he, hrun, hshows, hn, -⟩ := custody_of_create h
  obtain ⟨ys, container, -, -, hys, he'⟩ := create_spec h
  have hsame : ys = xs := List.append_cancel_left (he'.exchanges.symm.trans he.exchanges)
  have hunread : ∀ x ∈ ys, x.reads? = none := by
    rcases hys with rfl | ⟨answer, rfl⟩
    · nofun
    · exact List.forall_mem_singleton.mpr rfl
  rw [hsame] at hunread
  exact ⟨xs, he, hrun, hshows, hn, attends_of_vacant hunread hshows⟩

/-- **Usage is only read of a living child.** Whatever becomes of a sandbox from its creation on,
each reading is of the child that lives, which is the one that is owned, and comes right after a
poll that has found it alive, as the backend has answered it. To ask for a usage is to read it once
of the owned child if the poll leaves one, and otherwise the answer is zero and nothing is read,
whatever process is remembered. -/
theorem reads_living_of_create {mode : Mode} {limits : Limits} {w w' : World σ}
    (h : create b mode limits w = (.ok s, w')) (ht : Becomes b s t) :
    (∃ xs, t.world.exchanges = w.exchanges ++ xs ∧ AnswersEach b xs ∧ ReadsLiving w.spawned xs
        ∧ ∀ child, t.descriptor.process = some child ↔ Living w.spawned xs child)
      ∧ (∃ xs, (t.memory b).2.world.exchanges = t.world.exchanges ++ xs
        ∧ Answers b t.world.state xs (t.memory b).2.world.state
        ∧ ReadsOwned .memoryUsage t.descriptor.process xs (t.memory b).1
            (t.memory b).2.descriptor.process)
      ∧ ∃ xs, (t.cpuTime b).2.world.exchanges = t.world.exchanges ++ xs
        ∧ Answers b t.world.state xs (t.cpuTime b).2.world.state
        ∧ ReadsOwned .cpuTime t.descriptor.process xs (t.cpuTime b).1
            (t.cpuTime b).2.descriptor.process := by
  have hs := coherent_of_create h
  have hcoh := ht.coherent hs
  refine ⟨?_, ?_, ?_⟩
  · obtain ⟨xs₀, he₀, hrun₀, hshows, hn, ha₀⟩ := attends_of_create h
    obtain ⟨xs, hxs, ha, c, hrun, hc, -⟩ := ht.attends hs hshows hn ha₀.names
    have hwhole := hrun₀.append hrun
    have hattends := ha₀.trans ha
    obtain ⟨ys, hys, heach⟩ := ht.answersEach
    obtain rfl : ys = xs := List.append_cancel_left (hys.symm.trans hxs)
    refine ⟨xs₀ ++ ys, ?_, he₀.answered.each.append heach, hwhole.readsLiving hattends.sighted,
      hwhole.owned_iff hc hattends.names⟩
    rw [hxs, he₀.exchanges, List.append_assoc]
  · obtain ⟨xs, hx, he⟩ := memory_spec b t
    exact ⟨xs, he.exchanges, he.answered, hx.readsOwned hcoh⟩
  · obtain ⟨xs, hx, he⟩ := cpuTime_spec b t
    exact ⟨xs, he.exchanges, he.answered, hx.readsOwned hcoh⟩

end Runs

/-- A command that is read, reported on and stopped. Its process is still remembered afterwards, but
there is nothing left to read. -/
theorem reads_living_of_stopped :
    ∃ s w t, create Scripted.backend .process {} (lingering 9) = (.ok s, w)
      ∧ (s.performAll Scripted.backend [.exec "job", .memory, .report, .stop]).2
        = t
      ∧ t.descriptor.pid = 1001
      ∧ (∃ xs, t.world.exchanges = [] ++ xs ∧ ReadsLiving 0 xs
        ∧ ∀ child, none = some child ↔ Living 0 xs child)
      ∧ ∃ xs, (t.memory Scripted.backend).2.world.exchanges = t.world.exchanges ++ xs
        ∧ ReadsOwned .memoryUsage none xs (t.memory Scripted.backend).1 none := by
  have h : create Scripted.backend .process {} (lingering 9) = _ := rfl
  obtain ⟨hxs, hmemory, -⟩ := reads_living_of_create h
    (Becomes.refl.performAll [.exec "job", .memory, .report, .stop])
  obtain ⟨xs, hxs, -, hreads, howned⟩ := hxs
  obtain ⟨ys, hys, -, hread⟩ := hmemory
  exact ⟨_, _, _, h, rfl, rfl, ⟨xs, hxs, hreads, howned⟩, ys, hys, hread⟩

end Confine.Sandbox

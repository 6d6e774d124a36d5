import Confine.Proofs.Code.Loading
import Confine.Proofs.Sandbox.Exchange
import Confine.Sandbox.Operation

set_option autoImplicit false

/-! # What an operation can do

Every operation of a sandbox, described by what can be seen of it: the descriptor before, the
requests that it makes of the backend together with their answers, its result, and the
descriptor after. There is one relation for each operation and one rule for each of its
outcomes, and the backend itself does not occur in them: an answer is whatever was answered.

The `…_spec` theorems say that the operations obey their relations. Everything that is proved
about sandboxes starts from the relations, so that the definitions of the operations are
opened here only.
-/

namespace Confine.Sandbox

variable {σ : Type}

/-! ## The relations -/

/-- The descriptor of a sandbox that has let its child go and has learnt how it ended. -/
def Descriptor.exited (d : Descriptor) (report : ExitReport) : Descriptor :=
  { d with lastExit := some report, process := none, status := .idle }

/-- **A poll.** A child that is found to have exited is let go; any other answer changes
nothing. -/
inductive Polls (d : Descriptor) : List Exchange → Descriptor → Prop
  | still (h : d.status = .running → d.process = none) : Polls d [] d
  | exited {child : Child} {report : ExitReport} (hs : d.status = .running)
      (hc : d.process = some child) :
      Polls d [.tryWait child.index (.ok (some report))] (d.exited report)
  | alive {child : Child} {answer : Except String (Option ExitReport)}
      (hs : d.status = .running) (hc : d.process = some child) (ha : reported answer = none) :
      Polls d [.tryWait child.index answer] d

/-- **Starting a command** as child number `n`. -/
inductive Execs (n : Nat) (command : String) (d : Descriptor) :
    List Exchange → Except Error UInt32 → Descriptor → Prop
  | destroyed (h : d.destroyed = true) : Execs n command d [] (.error .destroyed) d
  | busy {xs : List Exchange} {d' : Descriptor} (h : d.destroyed = false) (hp : Polls d xs d')
      (hs : d'.status = .running) : Execs n command d xs (.error .alreadyRunning) d'
  | refused {xs : List Exchange} {d' : Descriptor} {reason : String} (h : d.destroyed = false)
      (hp : Polls d xs d') (hs : d'.status = .idle) :
      Execs n command d (xs ++ [.spawn command (Plan.native d'.limits) (.error reason)])
        (.error (.spawn reason)) d'
  | started {xs : List Exchange} {d' : Descriptor} {pid : UInt32} (h : d.destroyed = false)
      (hp : Polls d xs d') (hs : d'.status = .idle) :
      Execs n command d (xs ++ [.spawn command (Plan.native d'.limits) (.ok pid)]) (.ok pid)
        { d' with pid := pid, process := some ⟨n, pid⟩, lastExit := none, status := .running }

/-- **Running machine code.** Nothing is asked of the backend but the poll. -/
inductive ExecsCode (m : Machine) (bytes : List UInt8) (d : Descriptor) :
    List Exchange → Except Error Int32 → Descriptor → Prop
  | destroyed (h : d.destroyed = true) : ExecsCode m bytes d [] (.error .destroyed) d
  | unsupported (h : d.destroyed = false) (hm : d.mode ≠ .vm) :
      ExecsCode m bytes d [] (.error (.unsupportedMode d.mode)) d
  | busy {xs : List Exchange} {d' : Descriptor} {child : Child} (h : d.destroyed = false)
      (hm : d.mode = .vm) (hp : Polls d xs d') (hc : d'.process = some child) :
      ExecsCode m bytes d xs (.error .alreadyRunning) d'
  | empty {xs : List Exchange} {d' : Descriptor} (h : d.destroyed = false) (hm : d.mode = .vm)
      (hp : Polls d xs d') (hc : d'.process = none) (hb : bytes = []) :
      ExecsCode m bytes d xs (.error (.code (.emptyInput .code))) d'
  | unmapped {xs : List Exchange} {d' : Descriptor} {fault : Code.AllocFault}
      (h : d.destroyed = false) (hm : d.mode = .vm) (hp : Polls d xs d') (hc : d'.process = none)
      (hb : bytes ≠ []) (ha : m.mapping bytes.length = .error fault) :
      ExecsCode m bytes d xs (.error (.code (.alloc fault))) d'
  | unsealed {xs : List Exchange} {d' : Descriptor} {pages : UInt64} {reason : String}
      (h : d.destroyed = false) (hm : d.mode = .vm) (hp : Polls d xs d') (hc : d'.process = none)
      (hb : bytes ≠ []) (ha : m.mapping bytes.length = .ok pages)
      (hr : m.protect pages = .error reason) :
      ExecsCode m bytes d xs (.error (.code (.protect reason))) d'
  | ran {xs : List Exchange} {d' : Descriptor} {pages : UInt64} (h : d.destroyed = false)
      (hm : d.mode = .vm) (hp : Polls d xs d') (hc : d'.process = none) (hb : bytes ≠ [])
      (ha : m.mapping bytes.length = .ok pages) (hr : m.protect pages = .ok ()) :
      ExecsCode m bytes d xs (.ok (m.run bytes (Machine.Call.ofArguments [])))
        { d' with
          code := some (Code.regionOf pages bytes)
          lastResult := some (m.run bytes (Machine.Call.ofArguments []))
          status := .running }

/-- **Stopping what runs.** -/
inductive Stops (d : Descriptor) : List Exchange → Except Error Unit → Descriptor → Prop
  | destroyed (h : d.destroyed = true) : Stops d [] (.error .destroyed) d
  | idle {xs : List Exchange} {d' : Descriptor} (h : d.destroyed = false) (hp : Polls d xs d')
      (hs : d'.status = .idle) : Stops d xs (.error .notRunning) d'
  | released {xs : List Exchange} {d' : Descriptor} (h : d.destroyed = false)
      (hp : Polls d xs d') (hs : d'.status = .running) (hc : d'.process = none) :
      Stops d xs (.ok ()) { d' with status := .idle }
  | unkilled {xs : List Exchange} {d' : Descriptor} {child : Child} {reason : String}
      (h : d.destroyed = false) (hp : Polls d xs d') (hs : d'.status = .running)
      (hc : d'.process = some child) :
      Stops d (xs ++ [.kill child.index (.error reason)]) (.error (.process reason)) d'
  | unreaped {xs : List Exchange} {d' : Descriptor} {child : Child} {reason : String}
      (h : d.destroyed = false) (hp : Polls d xs d') (hs : d'.status = .running)
      (hc : d'.process = some child) :
      Stops d (xs ++ [.kill child.index (.ok ()), .wait child.index (.error reason)])
        (.error (.process reason)) { d' with process := none, status := .idle }
  | reaped {xs : List Exchange} {d' : Descriptor} {child : Child} {report : ExitReport}
      (h : d.destroyed = false) (hp : Polls d xs d') (hs : d'.status = .running)
      (hc : d'.process = some child) :
      Stops d (xs ++ [.kill child.index (.ok ()), .wait child.index (.ok report)]) (.ok ())
        (d'.exited report)

/-- **Giving up a child**, if there is one: unless a poll finds that it has exited, it is
killed and waited for, whatever the answers are. -/
inductive Reaps : Option Child → List Exchange → Option ExitReport → Prop
  | nothing : Reaps none [] none
  | exited {child : Child} {report : ExitReport} :
      Reaps (some child) [.tryWait child.index (.ok (some report))] (some report)
  | forced {child : Child} {answer : Except String (Option ExitReport)}
      {killed : Except String Unit} {waited : Except String ExitReport}
      (ha : reported answer = none) :
      Reaps (some child)
        [.tryWait child.index answer, .kill child.index killed, .wait child.index waited]
        waited.toOption

/-- The descriptor of a sandbox that has given up everything, and has learnt how its last child
ended if there was a report. -/
def Descriptor.tornDown (d : Descriptor) (report : Option ExitReport) : Descriptor :=
  { d with
    process := none
    lastExit := report <|> d.lastExit
    container := false
    code := none
    pid := 0
    status := .idle
    destroyed := true }

/-- **Destroying the sandbox.** -/
inductive Destroys (d : Descriptor) : List Exchange → Except Error Unit → Descriptor → Prop
  | destroyed (h : d.destroyed = true) : Destroys d [] (.error .destroyed) d
  | done {xs : List Exchange} {report : Option ExitReport} (h : d.destroyed = false)
      (hr : Reaps d.process xs report) : Destroys d xs (.ok ()) (d.tornDown report)

/-- **Reading a usage** by the request `ask`, after a poll. Nothing is asked for when no child
is left, and the answer is zero then. -/
inductive Reads (ask : UInt32 → UInt64 → Exchange) (d : Descriptor) :
    List Exchange → UInt64 → Descriptor → Prop
  | nothing {xs : List Exchange} {d' : Descriptor} (hp : Polls d xs d')
      (hc : d'.process = none ∨ d'.pid = 0) : Reads ask d xs 0 d'
  | read {xs : List Exchange} {d' : Descriptor} {child : Child} {amount : UInt64}
      (hp : Polls d xs d') (hc : d'.process = some child) (hpid : d'.pid ≠ 0) :
      Reads ask d (xs ++ [ask d'.pid amount]) amount d'

/-- The report that is put together from three answers and from what is remembered. -/
def Descriptor.view (d : Descriptor) (status : Status) (memory cpuTime : UInt64) : Report where
  mode := d.mode
  limits := d.limits
  pid := d.pid
  status := status
  memory := memory
  cpuTime := cpuTime
  lastExit := d.lastExit
  lastResult := d.lastResult

/-- **Reporting**: the status, the two usages, and what is remembered after that. -/
inductive Reports (d : Descriptor) : List Exchange → Report → Descriptor → Prop
  | mk {xs ys zs : List Exchange} {d₁ d₂ d₃ : Descriptor} {memory cpuTime : UInt64}
      (hp : Polls d xs d₁) (hm : Reads .memoryUsage d₁ ys memory d₂)
      (hc : Reads .cpuTime d₂ zs cpuTime d₃) :
      Reports d (xs ++ (ys ++ zs)) (d₃.view d₁.status memory cpuTime) d₃

/-- **Any operation**, where `n` children were started before. -/
inductive Performs (n : Nat) (d : Descriptor) :
    Operation → List Exchange → Reply → Descriptor → Prop
  | exec {command : String} {xs : List Exchange} {result : Except Error UInt32}
      {d' : Descriptor} (h : Execs n command d xs result d') :
      Performs n d (.exec command) xs (.ofExcept .pid result) d'
  | execCode {m : Machine} {bytes : List UInt8} {xs : List Exchange}
      {result : Except Error Int32} {d' : Descriptor} (h : ExecsCode m bytes d xs result d') :
      Performs n d (.execCode m bytes) xs (.ofExcept .value result) d'
  | stop {xs : List Exchange} {result : Except Error Unit} {d' : Descriptor}
      (h : Stops d xs result d') :
      Performs n d .stop xs (.ofExcept (fun _ => .done) result) d'
  | destroy {xs : List Exchange} {result : Except Error Unit} {d' : Descriptor}
      (h : Destroys d xs result d') :
      Performs n d .destroy xs (.ofExcept (fun _ => .done) result) d'
  | status {xs : List Exchange} {d' : Descriptor} (h : Polls d xs d') :
      Performs n d .status xs (.status d'.status) d'
  | memory {xs : List Exchange} {amount : UInt64} {d' : Descriptor}
      (h : Reads .memoryUsage d xs amount d') : Performs n d .memory xs (.usage amount) d'
  | cpuTime {xs : List Exchange} {amount : UInt64} {d' : Descriptor}
      (h : Reads .cpuTime d xs amount d') : Performs n d .cpuTime xs (.usage amount) d'
  | lastExit {xs : List Exchange} {d' : Descriptor} (h : Polls d xs d') :
      Performs n d .lastExit xs (.lastExit d'.lastExit) d'
  | report {xs : List Exchange} {report : Report} {d' : Descriptor}
      (h : Reports d xs report d') : Performs n d .report xs (.report report) d'
  | pid : Performs n d .pid [] (.pid d.pid) d
  | mode : Performs n d .mode [] (.mode d.mode) d
  | limits : Performs n d .limits [] (.limits d.limits) d
  | lastResult : Performs n d .lastResult [] (.lastResult d.lastResult) d
  | flags : Performs n d .flags [] (.flags d.container d.destroyed) d

/-! ## The operations obey their relations -/

section Specifications

variable (b : Backend σ) (s : Sandbox σ)

/-- A poll starts no child. -/
theorem Polls.countP_starts {d d' : Descriptor} {xs : List Exchange} (h : Polls d xs d') :
    xs.countP Exchange.starts = 0 := by
  cases h <;> rfl

theorem refresh_spec :
    ∃ xs, Polls s.descriptor xs (s.refresh b).descriptor
      ∧ s.world.Extends b xs (s.refresh b).world := by
  unfold refresh
  by_cases hs : s.descriptor.status = .running
  · rw [if_neg (not_not_intro hs)]
    cases hc : s.descriptor.process with
    | none => exact ⟨[], .still fun _ => hc, .refl b s.world⟩
    | some child =>
        dsimp only
        rcases ha : s.world.tryWait b child.index with ⟨reason | _ | report, w⟩
        · exact ⟨_, .alive hs hc rfl, (World.tryWait_extends ha).note _⟩
        · exact ⟨_, .alive hs hc rfl, World.tryWait_extends ha⟩
        · exact ⟨_, .exited hs hc, (World.tryWait_extends ha).note _⟩
  · rw [if_pos hs]
    exact ⟨[], .still fun h => absurd h hs, .refl b s.world⟩

theorem exec_spec (command : String) :
    ∃ xs, Execs s.world.spawned command s.descriptor xs (s.exec b command).1
        (s.exec b command).2.descriptor
      ∧ s.world.Extends b xs (s.exec b command).2.world := by
  unfold exec
  by_cases h : s.descriptor.destroyed = true
  · rw [if_pos h]
    exact ⟨[], .destroyed h, .refl b s.world⟩
  rw [if_neg h]
  rw [Bool.not_eq_true] at h
  obtain ⟨xs, hp, hx⟩ := refresh_spec b s
  -- The poll starts no child, so that the number of the new one is known before it.
  have hn : (s.refresh b).world.spawned = s.world.spawned := by
    rw [hx.spawned, hp.countP_starts, Nat.add_zero]
  rw [← hn]
  generalize s.refresh b = t at hp hx
  cases hs : t.descriptor.status with
  | running =>
      simp only [hs, if_true]
      exact ⟨xs, .busy h hp hs, hx⟩
  | idle =>
      simp only [hs, reduceCtorEq, if_false]
      rcases ha : (t.world.note (planEvents (Plan.native t.descriptor.limits))).spawn b command
        (Plan.native t.descriptor.limits) t.descriptor.container with ⟨reason | pid, w⟩
      · exact ⟨_, .refused h hp hs, hx.trans (World.spawn_extends ha).ofNote⟩
      · exact ⟨_, .started h hp hs, (hx.trans (World.spawn_extends ha).ofNote).note _⟩

theorem execCode_spec (m : Machine) (bytes : List UInt8) :
    ∃ xs, ExecsCode m bytes s.descriptor xs (s.execCode b m bytes).1
        (s.execCode b m bytes).2.descriptor
      ∧ s.world.Extends b xs (s.execCode b m bytes).2.world := by
  unfold execCode
  by_cases h : s.descriptor.destroyed = true
  · rw [if_pos h]
    exact ⟨[], .destroyed h, .refl b s.world⟩
  rw [if_neg h]
  rw [Bool.not_eq_true] at h
  by_cases hm : s.descriptor.mode = .vm
  swap
  · rw [if_pos hm]
    exact ⟨[], .unsupported h hm, .refl b s.world⟩
  rw [if_neg (not_not_intro hm)]
  obtain ⟨xs, hp, hx⟩ := refresh_spec b s
  generalize s.refresh b = t at hp hx
  cases hc : t.descriptor.process with
  | some child =>
      simp only [hc, Option.isSome_some, if_true]
      exact ⟨xs, .busy h hm hp hc, hx⟩
  | none =>
      simp only [hc, Option.isSome_none, Bool.false_eq_true, if_false]
      have hl := Code.load_result m bytes
      by_cases hb : bytes = []
      · rw [if_pos hb] at hl
        rw [Code.Attempt.bind_result_error hl]
        exact ⟨xs, .empty h hm hp hc hb, hx.note _⟩
      rw [if_neg hb] at hl
      unfold Machine.loading at hl
      cases ha : m.mapping bytes.length with
      | error fault =>
          rw [ha] at hl
          rw [Code.Attempt.bind_result_error hl]
          exact ⟨xs, .unmapped h hm hp hc hb ha, hx.note _⟩
      | ok pages =>
          rw [ha] at hl
          dsimp only at hl
          cases hr : m.protect pages with
          | error reason =>
              rw [hr] at hl
              rw [Code.Attempt.bind_result_error hl]
              exact ⟨xs, .unsealed h hm hp hc hb ha hr, hx.note _⟩
          | ok done =>
              rw [hr] at hl
              rw [Code.Attempt.bind_result_ok hl,
                Code.Attempt.bind_result_ok (Code.invoke_result m _), Code.regionOf_bytes ha]
              exact ⟨xs, .ran h hm hp hc hb ha hr, (hx.note _).note _⟩

theorem stop_spec :
    ∃ xs, Stops s.descriptor xs (s.stop b).1 (s.stop b).2.descriptor
      ∧ s.world.Extends b xs (s.stop b).2.world := by
  unfold stop
  by_cases h : s.descriptor.destroyed = true
  · rw [if_pos h]
    exact ⟨[], .destroyed h, .refl b s.world⟩
  rw [if_neg h]
  rw [Bool.not_eq_true] at h
  obtain ⟨xs, hp, hx⟩ := refresh_spec b s
  generalize s.refresh b = t at hp hx
  cases hs : t.descriptor.status with
  | idle =>
      simp only [hs, ne_eq, reduceCtorEq, not_false_eq_true, if_true]
      exact ⟨xs, .idle h hp hs, hx⟩
  | running =>
      simp only [hs, ne_eq, not_true_eq_false, if_false]
      cases hc : t.descriptor.process with
      | none => exact ⟨xs, .released h hp hs hc, hx⟩
      | some child =>
          dsimp only
          rcases hk : t.world.kill b child.index with ⟨reason | ⟨⟩, w⟩
          · exact ⟨_, .unkilled h hp hs hc, hx.trans (World.kill_extends hk)⟩
          dsimp only
          have hy := hx.trans (World.kill_extends hk)
          rcases hw : w.wait b child.index with ⟨reason | report, w'⟩
          · refine ⟨_, .unreaped h hp hs hc, ?_⟩
            simpa using hy.trans (World.wait_extends hw)
          · refine ⟨_, .reaped h hp hs hc, World.Extends.note ?_ _⟩
            simpa using hy.trans (World.wait_extends hw)

theorem reap_spec (child : Child) (pid : UInt32) (w : World σ) :
    ∃ xs, Reaps (some child) xs (reap b child pid w).1
      ∧ w.Extends b xs (reap b child pid w).2 := by
  unfold reap
  rcases hp : w.tryWait b child.index with ⟨answer, w₁⟩
  have h₁ := World.tryWait_extends hp
  dsimp only
  split
  · exact ⟨_, .exited, h₁⟩
  rename_i hne
  have ha : reported answer = none := by
    rcases answer with reason | _ | report
    · rfl
    · rfl
    · exact (hne report rfl).elim
  -- Whether the kill was granted decides only what is noted: the child is waited for anyway.
  have finish : ∀ {w₂ w₃ : World σ} {killed : Except String Unit}
      {waited : Except String ExitReport}, w₁.Extends b [.kill child.index killed] w₂ →
      w₂.wait b child.index = (waited, w₃) → w.Extends b
        [.tryWait child.index answer, .kill child.index killed, .wait child.index waited] w₃ :=
    fun h₂ hw => h₁.trans (h₂.trans (World.wait_extends hw))
  rcases hk : w₁.kill b child.index with ⟨reason | ⟨⟩, w₂⟩
  · have h₂ := (World.kill_extends hk).note [.killFailed pid reason]
    dsimp only
    rcases hw : (w₂.note [.killFailed pid reason]).wait b child.index with ⟨_ | report, w₃⟩
    · exact ⟨_, .forced ha, (finish h₂ hw).note _⟩
    · exact ⟨_, .forced ha, finish h₂ hw⟩
  · have h₂ := World.kill_extends hk
    dsimp only
    rcases hw : w₂.wait b child.index with ⟨_ | report, w₃⟩
    · exact ⟨_, .forced ha, (finish h₂ hw).note _⟩
    · exact ⟨_, .forced ha, finish h₂ hw⟩

theorem teardown_spec :
    ∃ xs report, Reaps s.descriptor.process xs report
      ∧ (s.teardown b).descriptor = s.descriptor.tornDown report
      ∧ s.world.Extends b xs (s.teardown b).world := by
  unfold teardown
  cases hc : s.descriptor.process with
  | none => exact ⟨[], none, .nothing, rfl, (World.Extends.refl b s.world).note _⟩
  | some child =>
      obtain ⟨xs, hr, hx⟩ := reap_spec b child s.descriptor.pid s.world
      exact ⟨xs, _, hr, rfl, hx.note _⟩

theorem destroy_spec :
    ∃ xs, Destroys s.descriptor xs (s.destroy b).1 (s.destroy b).2.descriptor
      ∧ s.world.Extends b xs (s.destroy b).2.world := by
  unfold destroy
  by_cases h : s.descriptor.destroyed = true
  · rw [if_pos h]
    exact ⟨[], .destroyed h, .refl b s.world⟩
  rw [if_neg h]
  rw [Bool.not_eq_true] at h
  obtain ⟨xs, report, hr, hd, hx⟩ := teardown_spec b s
  refine ⟨xs, ?_, hx⟩
  show Destroys s.descriptor xs (.ok ()) (s.teardown b).descriptor
  rw [hd]
  exact .done h hr

/-- The number that a reading starts from is zero, or it is the number of a child's process. -/
theorem livePid_spec {pid : UInt32} {t : Sandbox σ} (h : s.livePid b = (pid, t)) :
    ∃ xs, Polls s.descriptor xs t.descriptor ∧ s.world.Extends b xs t.world
      ∧ (pid = 0 ∧ (t.descriptor.process = none ∨ t.descriptor.pid = 0)
        ∨ pid ≠ 0 ∧ pid = t.descriptor.pid ∧ ∃ child, t.descriptor.process = some child) := by
  obtain ⟨xs, hp, hx⟩ := refresh_spec b s
  unfold livePid at h
  cases h
  refine ⟨xs, hp, hx, ?_⟩
  cases hc : (s.refresh b).descriptor.process with
  | none => simp
  | some child =>
      by_cases hz : (s.refresh b).descriptor.pid = 0
      · simp [hz]
      · simp [hz]

theorem usage_spec {ask : World σ → UInt32 → UInt64 × World σ}
    {request : UInt32 → UInt64 → Exchange}
    (hask : ∀ {w w' : World σ} {pid : UInt32} {amount : UInt64},
      ask w pid = (amount, w') → w.Extends b [request pid amount] w') :
    ∃ xs, Reads request s.descriptor xs (s.usage b ask).1 (s.usage b ask).2.descriptor
      ∧ s.world.Extends b xs (s.usage b ask).2.world := by
  unfold usage
  rcases hl : s.livePid b with ⟨pid, t⟩
  obtain ⟨xs, hp, hx, ⟨h0, hc⟩ | ⟨hne, he, child, hc⟩⟩ := livePid_spec b s hl
  · simp only [h0, if_true]
    exact ⟨xs, .nothing hp hc, hx⟩
  · simp only [hne, if_false]
    rcases ha : ask t.world pid with ⟨amount, w⟩
    refine ⟨xs ++ [request pid amount], ?_, hx.trans (hask ha)⟩
    rw [he] at hne ⊢
    exact .read hp hc hne

theorem memory_spec :
    ∃ xs, Reads .memoryUsage s.descriptor xs (s.memory b).1 (s.memory b).2.descriptor
      ∧ s.world.Extends b xs (s.memory b).2.world :=
  usage_spec b s World.memoryUsage_extends

theorem cpuTime_spec :
    ∃ xs, Reads .cpuTime s.descriptor xs (s.cpuTime b).1 (s.cpuTime b).2.descriptor
      ∧ s.world.Extends b xs (s.cpuTime b).2.world :=
  usage_spec b s World.cpuTime_extends

theorem report_spec :
    ∃ xs, Reports s.descriptor xs (s.report b).1 (s.report b).2.descriptor
      ∧ s.world.Extends b xs (s.report b).2.world := by
  obtain ⟨xs, hp, hx⟩ := refresh_spec b s
  unfold report status
  dsimp only
  generalize s.refresh b = t at hp hx ⊢
  obtain ⟨ys, hm, hy⟩ := memory_spec b t
  generalize t.memory b = u at hm hy ⊢
  obtain ⟨zs, hc, hz⟩ := cpuTime_spec b u.2
  exact ⟨xs ++ (ys ++ zs), .mk hp hm hc, hx.trans (hy.trans hz)⟩

/-- **Every operation obeys its relation**, and the world records its requests. -/
theorem perform_spec (operation : Operation) :
    ∃ xs, Performs s.world.spawned s.descriptor operation xs (s.perform b operation).1
        (s.perform b operation).2.descriptor
      ∧ s.world.Extends b xs (s.perform b operation).2.world := by
  have hnone : s.world.Extends b [] s.world := .refl b s.world
  cases operation with
  | exec command =>
      obtain ⟨xs, h, hx⟩ := exec_spec b s command
      exact ⟨xs, .exec h, hx⟩
  | execCode m bytes =>
      obtain ⟨xs, h, hx⟩ := execCode_spec b s m bytes
      exact ⟨xs, .execCode h, hx⟩
  | stop =>
      obtain ⟨xs, h, hx⟩ := stop_spec b s
      exact ⟨xs, .stop h, hx⟩
  | destroy =>
      obtain ⟨xs, h, hx⟩ := destroy_spec b s
      exact ⟨xs, .destroy h, hx⟩
  | status =>
      obtain ⟨xs, h, hx⟩ := refresh_spec b s
      exact ⟨xs, .status h, hx⟩
  | memory =>
      obtain ⟨xs, h, hx⟩ := memory_spec b s
      exact ⟨xs, .memory h, hx⟩
  | cpuTime =>
      obtain ⟨xs, h, hx⟩ := cpuTime_spec b s
      exact ⟨xs, .cpuTime h, hx⟩
  | lastExit =>
      obtain ⟨xs, h, hx⟩ := refresh_spec b s
      exact ⟨xs, .lastExit h, hx⟩
  | report =>
      obtain ⟨xs, h, hx⟩ := report_spec b s
      exact ⟨xs, .report h, hx⟩
  | pid => exact ⟨[], .pid, hnone⟩
  | mode => exact ⟨[], .mode, hnone⟩
  | limits => exact ⟨[], .limits, hnone⟩
  | lastResult => exact ⟨[], .lastResult, hnone⟩
  | flags => exact ⟨[], .flags, hnone⟩

end Specifications

end Confine.Sandbox

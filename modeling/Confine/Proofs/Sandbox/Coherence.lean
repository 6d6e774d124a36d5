import Confine.Machine.Amd64
import Confine.Proofs.Sandbox.Transition
import Confine.Sandbox.Scripted

set_option autoImplicit false

/-! # What always holds of a sandbox

The fields of a descriptor depend on each other, and no operation may leave them in
disagreement. `Coherent` collects what ties them together; it holds of a new sandbox, every
operation keeps it (`Performs.coherent`), and so it holds of every sandbox there can be
(`Reachable.coherent`). It is what makes a poll of an owned child really happen, and what keeps
a new command from taking the place of one that still runs.
-/

namespace Confine.Sandbox

variable {σ : Type}

/-! ## Coherent descriptors -/

/-- The fields of a descriptor agree with each other. -/
structure Descriptor.Coherent (d : Descriptor) : Prop where
  /-- An owned child is the running command, and nothing is known of its end yet. -/
  owned : ∀ child, d.process = some child →
    d.status = .running ∧ d.pid = child.pid ∧ d.lastExit = none ∧ d.destroyed = false
  /-- What runs without a child is machine code. -/
  busy : d.status = .running → d.process = none →
    d.mode = .vm ∧ d.code.isSome ∧ d.lastResult.isSome
  /-- Machine code is only kept where it may run, and it has run. -/
  code : d.code.isSome → d.mode = .vm ∧ d.destroyed = false ∧ d.lastResult.isSome
  /-- A destroyed sandbox owns nothing. -/
  destroyed : d.destroyed = true → d.status = .idle ∧ d.pid = 0 ∧ d.process = none
    ∧ d.container = false ∧ d.code = none
  /-- Only some modes have a container. -/
  container : d.container = true → d.mode.usesContainer = true

namespace Descriptor.Coherent

variable {d : Descriptor}

theorem not_destroyed_of_running (h : d.Coherent) (hs : d.status = .running) :
    d.destroyed = false := by
  by_contra hd
  rw [Bool.not_eq_false] at hd
  rw [(h.destroyed hd).1] at hs
  cases hs

/-- An idle sandbox owns no child. -/
theorem process_of_idle (h : d.Coherent) (hs : d.status = .idle) : d.process = none := by
  cases hc : d.process with
  | none => rfl
  | some child =>
      have hr := (h.owned child hc).1
      rw [hs] at hr
      cases hr

theorem exited (h : d.Coherent) (hd : d.destroyed = false) (report : ExitReport) :
    (d.exited report).Coherent :=
  ⟨by simp [Descriptor.exited], by simp [Descriptor.exited], h.code,
    by simp [Descriptor.exited, hd], h.container⟩

end Descriptor.Coherent

/-! ## Operations keep coherence -/

section Kept

variable {n : Nat} {d d' : Descriptor} {xs : List Exchange}

theorem Polls.destroyed_eq (hp : Polls d xs d') : d'.destroyed = d.destroyed := by
  cases hp <;> rfl

theorem Polls.mode_eq (hp : Polls d xs d') : d'.mode = d.mode := by
  cases hp <;> rfl

theorem Polls.limits_eq (hp : Polls d xs d') : d'.limits = d.limits := by
  cases hp <;> rfl

theorem Polls.coherent (hp : Polls d xs d') (h : d.Coherent) : d'.Coherent := by
  cases hp with
  | still | alive => exact h
  | exited hs hc =>
      have hd := h.not_destroyed_of_running hs
      exact h.exited hd _

theorem Execs.coherent {command : String} {result : Except Error UInt32}
    (hx : Execs n command d xs result d') (h : d.Coherent) : d'.Coherent := by
  cases hx with
  | destroyed => exact h
  | busy _ hp _ | refused _ hp _ => exact hp.coherent h
  | started hd hp hs =>
      -- What is known of an earlier end is forgotten, as `owned` wants it.
      have h' := hp.coherent h
      rw [← hp.destroyed_eq] at hd
      exact ⟨by simp [hd], by simp, h'.code, by simp [hd], h'.container⟩

/-- A command that was started is owned. -/
theorem Execs.owned {command : String} {pid : UInt32}
    (hx : Execs n command d xs (.ok pid) d') : d'.process = some ⟨n, pid⟩ := by
  cases hx with
  | started => rfl

theorem ExecsCode.coherent {m : Machine} {bytes : List UInt8} {result : Except Error Int32}
    (hx : ExecsCode m bytes d xs result d') (h : d.Coherent) : d'.Coherent := by
  cases hx with
  | destroyed | unsupported => exact h
  | busy _ _ hp _ | empty _ _ hp _ _ | unmapped _ _ hp _ _ _ | unsealed _ _ hp _ _ _ _ =>
      exact hp.coherent h
  | ran hd hm hp hc hb ha hr =>
      have h' := hp.coherent h
      rw [← hp.destroyed_eq] at hd
      rw [← hp.mode_eq] at hm
      exact ⟨by simp [hc], by simp [hm], by simp [hm, hd], by simp [hd], h'.container⟩

theorem Stops.coherent {result : Except Error Unit} (hx : Stops d xs result d')
    (h : d.Coherent) : d'.Coherent := by
  cases hx with
  | destroyed => exact h
  | idle _ hp _ | unkilled _ hp _ _ => exact hp.coherent h
  | released hd hp hs hc =>
      have h' := hp.coherent h
      rw [← hp.destroyed_eq] at hd
      exact ⟨by simp [hc], by simp, h'.code, by simp [hd], h'.container⟩
  | unreaped hd hp hs hc =>
      have h' := hp.coherent h
      rw [← hp.destroyed_eq] at hd
      exact ⟨by simp, by simp, h'.code, by simp [hd], h'.container⟩
  | reaped hd hp hs hc =>
      rw [← hp.destroyed_eq] at hd
      exact (hp.coherent h).exited hd _

theorem Descriptor.coherent_tornDown (d : Descriptor) (report : Option ExitReport) :
    (d.tornDown report).Coherent := by
  constructor <;> simp [Descriptor.tornDown]

theorem Destroys.coherent {result : Except Error Unit} (hx : Destroys d xs result d')
    (h : d.Coherent) : d'.Coherent := by
  cases hx with
  | destroyed => exact h
  | done => exact d.coherent_tornDown _

theorem Reads.coherent {ask : UInt32 → UInt64 → Exchange} {amount : UInt64}
    (hx : Reads ask d xs amount d') (h : d.Coherent) : d'.Coherent := by
  cases hx with
  | nothing hp _ | read hp _ _ => exact hp.coherent h

theorem Reports.coherent {report : Report} (hx : Reports d xs report d') (h : d.Coherent) :
    d'.Coherent := by
  cases hx with
  | mk hp hm hc => exact hc.coherent (hm.coherent (hp.coherent h))

/-- **Every operation keeps coherence**, whatever the backend answers. -/
theorem Performs.coherent {operation : Operation} {reply : Reply}
    (hx : Performs n d operation xs reply d') (h : d.Coherent) : d'.Coherent := by
  cases hx with
  | exec hx | execCode hx | stop hx | destroy hx | memory hx | cpuTime hx | report hx =>
      exact hx.coherent h
  | status hp | lastExit hp => exact hp.coherent h
  | pid | mode | limits | lastResult | flags => exact h

/-- A poll in a sandbox that owns no child. -/
theorem Polls.eq_of_vacant (hp : Polls d xs d') (hc : d.process = none) : xs = [] ∧ d' = d := by
  cases hp with
  | still => exact ⟨rfl, rfl⟩
  | exited _ hc' | alive _ hc' =>
      rw [hc] at hc'
      cases hc'

/-- A poll of an owned child. -/
theorem Polls.of_owned (hp : Polls d xs d') (h : d.Coherent) {child : Child}
    (hc : d.process = some child) :
    (∃ report, xs = [.tryWait child.index (.ok (some report))] ∧ d' = d.exited report)
      ∨ ∃ answer, reported answer = none ∧ xs = [.tryWait child.index answer] ∧ d' = d := by
  cases hp with
  | still hq =>
      rw [hq (h.owned child hc).1] at hc
      cases hc
  | @exited _ report _ hc' =>
      rw [hc] at hc'
      cases hc'
      exact .inl ⟨report, rfl, rfl⟩
  | @alive _ answer _ hc' ha =>
      rw [hc] at hc'
      cases hc'
      exact .inr ⟨answer, ha, rfl, rfl⟩

/-- Nothing is read in a sandbox that owns no child. -/
theorem Reads.eq_of_vacant {ask : UInt32 → UInt64 → Exchange} {amount : UInt64}
    (hx : Reads ask d xs amount d') (hc : d.process = none) :
    xs = [] ∧ amount = 0 ∧ d' = d := by
  cases hx with
  | nothing hp _ =>
      obtain ⟨rfl, rfl⟩ := hp.eq_of_vacant hc
      exact ⟨rfl, rfl, rfl⟩
  | read hp hc' _ =>
      obtain ⟨rfl, rfl⟩ := hp.eq_of_vacant hc
      rw [hc] at hc'
      cases hc'

end Kept

/-! ## The mode and the limits never change -/

section Setup

variable {n : Nat} {d d' : Descriptor} {xs : List Exchange}

/-- Two descriptors of sandboxes that were created alike. -/
def Descriptor.SameSetup (d d' : Descriptor) : Prop :=
  d'.mode = d.mode ∧ d'.limits = d.limits

theorem Polls.sameSetup (hp : Polls d xs d') : d.SameSetup d' :=
  ⟨hp.mode_eq, hp.limits_eq⟩

theorem Reads.sameSetup {ask : UInt32 → UInt64 → Exchange} {amount : UInt64}
    (hx : Reads ask d xs amount d') : d.SameSetup d' := by
  cases hx with
  | nothing hp _ | read hp _ _ => exact hp.sameSetup

theorem Descriptor.SameSetup.trans {d₁ d₂ d₃ : Descriptor} (h : d₁.SameSetup d₂)
    (h' : d₂.SameSetup d₃) : d₁.SameSetup d₃ :=
  ⟨h'.1.trans h.1, h'.2.trans h.2⟩

theorem Performs.sameSetup {operation : Operation} {reply : Reply}
    (hx : Performs n d operation xs reply d') : d.SameSetup d' := by
  have hrefl : d.SameSetup d := ⟨rfl, rfl⟩
  cases hx with
  | exec hx =>
      cases hx with
      | destroyed => exact hrefl
      | busy _ hp _ | refused _ hp _ | started _ hp _ => exact hp.sameSetup
  | execCode hx =>
      cases hx with
      | destroyed | unsupported => exact hrefl
      | busy _ _ hp _ | empty _ _ hp _ _ | unmapped _ _ hp _ _ _ | unsealed _ _ hp _ _ _ _
      | ran _ _ hp _ _ _ _ => exact hp.sameSetup
  | stop hx =>
      cases hx with
      | destroyed => exact hrefl
      | idle _ hp _ | released _ hp _ _ | unkilled _ hp _ _ | unreaped _ hp _ _
      | reaped _ hp _ _ => exact hp.sameSetup
  | destroy hx => cases hx <;> exact hrefl
  | memory hx | cpuTime hx => exact hx.sameSetup
  | report hx =>
      cases hx with
      | mk hp hm hc => exact hp.sameSetup.trans (hm.sameSetup.trans hc.sameSetup)
  | status hp | lastExit hp => exact hp.sameSetup
  | pid | mode | limits | lastResult | flags => exact hrefl

end Setup

/-! ## Sandboxes that there can be -/

/-- **The sandboxes that there can be**: a new one, what an operation makes of one, and one
around which the outside has changed. -/
inductive Reachable (b : Backend σ) : Sandbox σ → Prop
  | created {mode : Mode} {limits : Limits} {w w' : World σ} {s : Sandbox σ}
      (h : create b mode limits w = (.ok s, w')) : Reachable b s
  | performed {s : Sandbox σ} (h : Reachable b s) (operation : Operation) :
      Reachable b (s.perform b operation).2
  | elapsed {s : Sandbox σ} (h : Reachable b s) (state : σ) :
      Reachable b { s with world := { s.world with state := state } }

section Runs

variable {b : Backend σ}

/-- A new sandbox has the mode and the limits that were asked for, and nothing has happened to
it. Only a container may have been asked for, and only in a mode that uses one. -/
theorem create_spec {mode : Mode} {limits : Limits} {w w' : World σ} {s : Sandbox σ}
    (h : create b mode limits w = (.ok s, w')) :
    ∃ xs container, (container = true → mode.usesContainer = true)
      ∧ s.descriptor = { mode, limits, container }
      ∧ (xs = [] ∨ ∃ answer, xs = [.createContainer answer]) ∧ w.Extends b xs s.world := by
  unfold create at h
  by_cases hu : mode.usesContainer = true
  · rw [if_pos hu] at h
    rcases hc : w.createContainer b limits with ⟨reason | container, w₁⟩
    · rw [hc] at h
      cases h
    · rw [hc] at h
      cases h
      exact ⟨_, container, fun _ => hu, rfl, .inr ⟨_, rfl⟩,
        (World.createContainer_extends hc).note _⟩
  · rw [if_neg hu] at h
    cases h
    exact ⟨[], false, by simp, rfl, .inl rfl, (World.Extends.refl b w).note _⟩

theorem coherent_of_create {mode : Mode} {limits : Limits} {w w' : World σ} {s : Sandbox σ}
    (h : create b mode limits w = (.ok s, w')) : s.descriptor.Coherent := by
  obtain ⟨xs, container, hu, hd, -, -⟩ := create_spec h
  rw [hd]
  exact ⟨by simp, by simp, by simp, by simp, hu⟩

theorem coherent_perform {s : Sandbox σ} (h : s.descriptor.Coherent) (operation : Operation) :
    (s.perform b operation).2.descriptor.Coherent := by
  obtain ⟨xs, hx, -⟩ := perform_spec b s operation
  exact hx.coherent h

/-- **Coherence is an invariant.** -/
theorem Reachable.coherent {s : Sandbox σ} (h : Reachable b s) : s.descriptor.Coherent := by
  induction h with
  | created h => exact coherent_of_create h
  | performed _ operation ih => exact coherent_perform ih operation
  | elapsed _ _ ih => exact ih

theorem coherent_performAll {s : Sandbox σ} (h : s.descriptor.Coherent)
    (operations : List Operation) : (s.performAll b operations).2.descriptor.Coherent := by
  induction operations generalizing s with
  | nil => exact h
  | cons operation rest ih => exact ih (coherent_perform h operation)

theorem sameSetup_performAll (s : Sandbox σ) (operations : List Operation) :
    s.descriptor.SameSetup (s.performAll b operations).2.descriptor := by
  induction operations generalizing s with
  | nil => exact ⟨rfl, rfl⟩
  | cons operation rest ih =>
      obtain ⟨xs, hx, -⟩ := perform_spec b s operation
      exact hx.sameSetup.trans (ih (s.perform b operation).2)

end Runs

/-- A world in which the first child exits by itself, which shows after so many more polls. -/
def lingering (polls : Nat) : World Scripted where
  state := { scripts := [{ exit := some ⟨some 0, none⟩, exitAfter := polls }] }

/-! ## Sandboxes as they were created -/

/-- **What holds of a sandbox at all times** if it was created in this mode and with these
limits. -/
structure Descriptor.Intact (mode : Mode) (limits : Limits) (d : Descriptor) : Prop
    extends d.Coherent where
  /-- A container belongs to a sandbox in one of two modes, until it is destroyed. -/
  contained : d.container = true →
    (d.mode = .process ∨ d.mode = .restricted) ∧ d.destroyed = false
  mode_eq : d.mode = mode
  limits_eq : d.limits = limits

theorem Descriptor.Coherent.intact {d : Descriptor} (h : d.Coherent) :
    d.Intact d.mode d.limits := by
  refine ⟨h, fun hc => ⟨?_, ?_⟩, rfl, rfl⟩
  · have hu := h.container hc
    cases hm : d.mode with
    | process => exact .inl rfl
    | restricted => exact .inr rfl
    | none | vm =>
        rw [hm] at hu
        cases hu
  · by_contra hd
    rw [Bool.not_eq_false] at hd
    obtain ⟨-, -, -, hnone, -⟩ := h.destroyed hd
    rw [hc] at hnone
    cases hnone

/-- Going out of use keeps what holds at all times. -/
theorem Descriptor.Intact.drop {b : Backend σ} {mode : Mode} {limits : Limits} {s : Sandbox σ}
    (h : s.descriptor.Intact mode limits) : (s.drop b).descriptor.Intact mode limits := by
  unfold Sandbox.drop
  by_cases hd : s.descriptor.destroyed = true
  · rw [if_pos hd]
    exact h
  · rw [if_neg hd]
    obtain ⟨xs, report, -, ht, -⟩ := teardown_spec b s
    have hi := (s.descriptor.coherent_tornDown report).intact
    rw [ht, ← h.mode_eq, ← h.limits_eq]
    exact hi

/-- **The representation invariant of sandboxes.** It holds after any operations on a sandbox
that was created, whatever the backend answers, and still when the sandbox has gone out of
use. -/
theorem intact_of_create {b : Backend σ} {mode : Mode} {limits : Limits}
    {w w' : World σ} {s : Sandbox σ} (h : create b mode limits w = (.ok s, w'))
    (operations : List Operation) :
    (s.performAll b operations).2.descriptor.Intact mode limits
      ∧ ((s.performAll b operations).2.drop b).descriptor.Intact mode limits := by
  obtain ⟨xs, container, -, hd, -, -⟩ := create_spec h
  have hcoh := coherent_performAll (b := b) (coherent_of_create h) operations
  obtain ⟨hmode, hlimits⟩ := sameSetup_performAll (b := b) s operations
  have hi := hcoh.intact
  rw [hmode, hlimits, hd] at hi
  exact ⟨hi, hi.drop⟩

/-- A command that runs in a sandbox in which machine code has run before: the child is owned, and
the code and its result are still there. -/
theorem intact_of_exec_after_code :
    ∃ s w t, create Scripted.backend .vm {} (lingering 2) = (.ok s, w)
      ∧ (s.performAll Scripted.backend
          [.execCode Machine.Amd64.host [0x31, 0xc0, 0xc3], .stop, .exec "job"]).2 = t
      ∧ t.descriptor.process = some ⟨0, 1001⟩ ∧ t.descriptor.code.isSome = true
      ∧ t.descriptor.lastResult = some 0
      ∧ t.descriptor.Intact .vm {} ∧ (t.drop Scripted.backend).descriptor.Intact .vm {} := by
  have h : create Scripted.backend .vm {} (lingering 2) = _ := rfl
  have hi := intact_of_create h
    [.execCode Machine.Amd64.host [0x31, 0xc0, 0xc3], .stop, .exec "job"]
  exact ⟨_, _, _, h, rfl, rfl, rfl, rfl, hi.1, hi.2⟩

end Confine.Sandbox

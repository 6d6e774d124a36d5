import Confine.Proofs.Code.Recording
import Confine.Sandbox.Native
import Confine.Sandbox.Scripted
import Confine.Workshop

set_option autoImplicit false

/-! # What a sandbox leaves in the slot

A sandbox notes all kinds of events, and only one operation passes through the code layer. What it
leaves in the slot of the thread that operates it is therefore a failure of that layer, if the
operation hands back one, and nothing otherwise: a refusal by the sandbox itself leaves no trace
(`perform_tells`). Backends are strangers here, and all that is asked of them is that they announce
no failures of the code layer (`Backend.Quiet`).
-/

namespace Confine.Sandbox

variable {σ : Type}

/-- The failure of the code layer in a failure of a sandbox. -/
def Error.recorded? : Error → Option Code.Error
  | .code cause => some cause
  | _ => none

/-- The failure of the code layer that a reply hands back. -/
def Reply.failure? : Reply → Option Code.Error
  | .failed cause => cause.recorded?
  | _ => none

/-- **A quiet backend**: what it announces does not touch a slot. -/
def Backend.Quiet (b : Backend σ) : Prop :=
  ∀ command pid (slot : Slot), slot.noteAll (b.announce command pid) = slot

theorem Scripted.backend_quiet : Scripted.backend.Quiet := fun _ _ _ => rfl

/-- The backend of the host announces each process that it has started, and nothing else. -/
theorem Host.backend_quiet : Host.backend.Quiet := fun _ _ _ => rfl

namespace World

variable {b : Backend σ} {w w' w'' : World σ} {failure : Option Code.Error}

/-- `w.Tells failure w'`: between the world `w` and the later world `w'` events were noted that
leave a slot with the failure, or leave it alone if there is none. -/
def Tells (w : World σ) (failure : Option Code.Error) (w' : World σ) : Prop :=
  ∃ events, w'.journal = w.journal ++ events
    ∧ ∀ slot : Slot, slot.noteAll events = slot.after failure

theorem Tells.refl (w : World σ) : w.Tells none w := ⟨[], by simp, fun _ => rfl⟩

/-- What was noted last decides, if nothing was to tell before. -/
theorem Tells.trans (h : w.Tells none w') (h' : w'.Tells failure w'') : w.Tells failure w'' := by
  obtain ⟨xs, hxs, hslot⟩ := h
  obtain ⟨ys, hys, hslot'⟩ := h'
  refine ⟨xs ++ ys, by rw [hys, hxs, List.append_assoc], fun slot => ?_⟩
  rw [Slot.noteAll_append, hslot]
  exact hslot' slot

theorem tells_note (w : World σ) {events : List Event}
    (h : ∀ slot : Slot, slot.noteAll events = slot.after failure) :
    w.Tells failure (w.note events) := ⟨events, rfl, h⟩

/-- Noting something that is no failure. -/
theorem Tells.note (h : w.Tells none w') {event : Event}
    (hevent : ∀ slot : Slot, slot.note event = slot) : w.Tells none (w'.note [event]) :=
  h.trans (w'.tells_note hevent)

theorem Tells.noteAll_noted (h : w.Tells failure w') (slot : Slot) :
    slot.noteAll (w.noted w') = slot.after failure := by
  obtain ⟨events, hevents, hslot⟩ := h
  rw [noted, hevents, List.drop_left]
  exact hslot slot

/-! ### Requests -/

theorem tells_record (w : World σ) (state : σ) (x : Exchange) : w.Tells none (w.record state x) :=
  ⟨[], by simp [record], fun _ => rfl⟩

variable (b w)

theorem tells_createContainer (limits : Limits) : w.Tells none (w.createContainer b limits).2 :=
  w.tells_record _ _

theorem tells_tryWait (child : Nat) : w.Tells none (w.tryWait b child).2 := w.tells_record _ _

theorem tells_kill (child : Nat) : w.Tells none (w.kill b child).2 := w.tells_record _ _

theorem tells_wait (child : Nat) : w.Tells none (w.wait b child).2 := w.tells_record _ _

theorem tells_memoryUsage (pid : UInt32) : w.Tells none (w.memoryUsage b pid).2 :=
  w.tells_record _ _

theorem tells_cpuTime (pid : UInt32) : w.Tells none (w.cpuTime b pid).2 := w.tells_record _ _

/-- Only here does the backend have a say in what is noted. -/
theorem tells_spawn (hb : b.Quiet) (command : String) (plan : Plan) (container : Bool) :
    w.Tells none (w.spawn b command plan container).2 := by
  unfold spawn
  rcases b.spawn command plan container w.state with ⟨reason | pid, state⟩
  · exact w.tells_record _ _
  · have hrecord := w.tells_record state (.spawn command plan (.ok pid))
    exact hrecord.trans ⟨b.announce command pid, rfl, hb command pid⟩

end World

/-! ## The operations -/

section Operations

variable (b : Backend σ) (s : Sandbox σ)

open World

theorem refresh_tells : s.world.Tells none (s.refresh b).world := by
  unfold refresh
  by_cases hs : s.descriptor.status ≠ .running
  · rw [if_pos hs]
    exact .refl s.world
  rw [if_neg hs]
  cases s.descriptor.process with
  | none => exact .refl s.world
  | some child =>
      have hpoll := tells_tryWait b s.world child.index
      dsimp only
      rcases ha : s.world.tryWait b child.index with ⟨reason | _ | report, w⟩ <;> rw [ha] at hpoll
      · exact hpoll.note fun _ => rfl
      · exact hpoll
      · exact hpoll.note fun _ => rfl

/-- Translating limits is no failure of the code layer. -/
theorem noteAll_planEvents (plan : Plan) (slot : Slot) : slot.noteAll (planEvents plan) = slot := by
  unfold planEvents
  rw [Slot.noteAll_append]
  induction plan.ignored with
  | nil => rfl
  | cons kind rest ih => exact ih

theorem exec_tells (hb : b.Quiet) (command : String) :
    s.world.Tells (Reply.ofExcept .pid (s.exec b command).1).failure?
      (s.exec b command).2.world := by
  unfold exec
  by_cases hd : s.descriptor.destroyed = true
  · rw [if_pos hd]
    exact .refl s.world
  rw [if_neg hd]
  have hpoll := refresh_tells b s
  generalize s.refresh b = t at hpoll ⊢
  dsimp only
  by_cases hs : t.descriptor.status = .running
  · rw [if_pos hs]
    exact hpoll
  rw [if_neg hs]
  have hplan : s.world.Tells none (t.world.note (planEvents (Plan.native t.descriptor.limits))) :=
    hpoll.trans (t.world.tells_note (noteAll_planEvents (Plan.native t.descriptor.limits)))
  generalize t.world.note (planEvents (Plan.native t.descriptor.limits)) = w at hplan ⊢
  have hspawn := hplan.trans (tells_spawn b w hb command (Plan.native t.descriptor.limits)
    t.descriptor.container)
  rcases ha : w.spawn b command (Plan.native t.descriptor.limits) t.descriptor.container
    with ⟨reason | pid, w'⟩ <;> rw [ha] at hspawn
  · exact hspawn
  · exact hspawn.note fun _ => rfl

/-- **Running machine code** passes through the code layer, and hands back what that layer has
recorded. -/
theorem execCode_tells (m : Machine) (bytes : List UInt8) :
    s.world.Tells (Reply.ofExcept .value (s.execCode b m bytes).1).failure?
      (s.execCode b m bytes).2.world := by
  unfold execCode
  by_cases hd : s.descriptor.destroyed = true
  · rw [if_pos hd]
    exact .refl s.world
  rw [if_neg hd]
  by_cases hm : s.descriptor.mode ≠ .vm
  · rw [if_pos hm]
    exact .refl s.world
  rw [if_neg hm]
  have hpoll := refresh_tells b s
  generalize s.refresh b = t at hpoll ⊢
  dsimp only
  by_cases hc : t.descriptor.process.isSome = true
  · rw [if_pos hc]
    exact hpoll
  rw [if_neg hc]
  -- The three steps in the code layer are one attempt, whose events are noted all at once.
  have hrecords : (Code.load m bytes >>= fun region => Code.invoke m region [] >>= fun result =>
      pure (region, result)).Records :=
    (Code.records_load m bytes).bind fun region =>
      (Code.records_invoke m region []).bind fun _ => Code.Attempt.records_pure _
  generalize (Code.load m bytes >>= fun region => Code.invoke m region [] >>= fun result =>
    pure (region, result)) = attempt at hrecords ⊢
  have hnote := hpoll.trans (t.world.tells_note hrecords)
  rcases attempt with ⟨cause | ⟨region, result⟩, events⟩
  · exact hnote
  · exact hnote.note fun _ => rfl

theorem stop_tells :
    s.world.Tells (Reply.ofExcept (fun _ => .done) (s.stop b).1).failure?
      (s.stop b).2.world := by
  unfold stop
  by_cases hd : s.descriptor.destroyed = true
  · rw [if_pos hd]
    exact .refl s.world
  rw [if_neg hd]
  have hpoll := refresh_tells b s
  generalize s.refresh b = t at hpoll ⊢
  dsimp only
  by_cases hs : t.descriptor.status ≠ .running
  · rw [if_pos hs]
    exact hpoll
  rw [if_neg hs]
  cases t.descriptor.process with
  | none => exact hpoll
  | some child =>
      have hkill := hpoll.trans (tells_kill b t.world child.index)
      dsimp only
      rcases hk : t.world.kill b child.index with ⟨reason | ⟨⟩, w⟩ <;> rw [hk] at hkill
      · exact hkill
      have hwait := hkill.trans (tells_wait b w child.index)
      dsimp only
      rcases hw : w.wait b child.index with ⟨reason | report, w'⟩ <;> rw [hw] at hwait
      · exact hwait
      · exact hwait.note fun _ => rfl

theorem reap_tells (child : Child) (pid : UInt32) (w : World σ) :
    w.Tells none (reap b child pid w).2 := by
  unfold reap
  have hpoll := tells_tryWait b w child.index
  generalize w.tryWait b child.index = polled at hpoll ⊢
  dsimp only
  split
  · exact hpoll
  have hkill := hpoll.trans (tells_kill b polled.2 child.index)
  generalize polled.2.kill b child.index = killed at hkill ⊢
  -- In both cases the child is waited for, and a report of its exit is noted.
  have finish : ∀ {w₃ w₄ : World σ} {waited : Except String ExitReport}, w.Tells none w₃ →
      w₃.wait b child.index = (waited, w₄) → w.Tells none w₄ := by
    intro w₃ w₄ waited h₃ hw
    have hwait := h₃.trans (tells_wait b w₃ child.index)
    rwa [hw] at hwait
  rcases killed with ⟨reason | ⟨⟩, w₂⟩
  · -- A kill that is refused is noted, which is no failure of the code layer either.
    have hrefused : w.Tells none (w₂.note [.killFailed pid reason]) := hkill.note fun _ => rfl
    dsimp only
    rcases hw : (w₂.note [.killFailed pid reason]).wait b child.index with ⟨_ | report, w₃⟩
    · exact (finish hrefused hw).note fun _ => rfl
    · exact finish hrefused hw
  · dsimp only
    rcases hw : w₂.wait b child.index with ⟨_ | report, w₃⟩
    · exact (finish hkill hw).note fun _ => rfl
    · exact finish hkill hw

theorem teardown_tells : s.world.Tells none (s.teardown b).world := by
  unfold teardown
  cases s.descriptor.process with
  | none => exact (World.Tells.refl s.world).note fun _ => rfl
  | some child => exact (reap_tells b child s.descriptor.pid s.world).note fun _ => rfl

theorem destroy_tells :
    s.world.Tells (Reply.ofExcept (fun _ => .done) (s.destroy b).1).failure?
      (s.destroy b).2.world := by
  unfold destroy
  by_cases hd : s.descriptor.destroyed = true
  · rw [if_pos hd]
    exact .refl s.world
  · rw [if_neg hd]
    exact teardown_tells b s

theorem drop_tells : s.world.Tells none (s.drop b).world := by
  unfold drop
  by_cases hd : s.descriptor.destroyed = true
  · rw [if_pos hd]
    exact .refl s.world
  · rw [if_neg hd]
    exact teardown_tells b s

theorem usage_tells {ask : World σ → UInt32 → UInt64 × World σ}
    (hask : ∀ w pid, World.Tells w none (ask w pid).2) :
    s.world.Tells none (s.usage b ask).2.world := by
  unfold usage livePid
  have hpoll := refresh_tells b s
  generalize s.refresh b = t at hpoll ⊢
  dsimp only
  generalize (if t.descriptor.process.isSome = true then t.descriptor.pid else 0) = pid
  by_cases hz : pid = 0
  · rw [if_pos hz]
    exact hpoll
  · rw [if_neg hz]
    exact hpoll.trans (hask t.world pid)

theorem memory_tells : s.world.Tells none (s.memory b).2.world :=
  usage_tells b s fun w pid => tells_memoryUsage b w pid

theorem cpuTime_tells : s.world.Tells none (s.cpuTime b).2.world :=
  usage_tells b s fun w pid => tells_cpuTime b w pid

theorem report_tells : s.world.Tells none (s.report b).2.world := by
  have hstatus := refresh_tells b s
  have hmemory := hstatus.trans (memory_tells b (s.refresh b))
  exact hmemory.trans (cpuTime_tells b ((s.refresh b).memory b).2)

theorem create_tells (mode : Mode) (limits : Limits) (w : World σ) :
    w.Tells none (create b mode limits w).2 := by
  unfold create
  have hask : w.Tells none
      (if mode.usesContainer then w.createContainer b limits else (.ok false, w)).2 := by
    split
    · exact tells_createContainer b w limits
    · exact .refl w
  generalize (if mode.usesContainer then w.createContainer b limits else (.ok false, w)) = asked
    at hask ⊢
  rcases asked with ⟨reason | container, w'⟩
  · exact hask
  · exact hask.note fun _ => rfl

/-- A sandbox that cannot be created fails by itself, not in the code layer. -/
theorem create_error_recorded (mode : Mode) (limits : Limits) (w : World σ) (cause : Error)
    (h : (create b mode limits w).1 = .error cause) : cause.recorded? = none := by
  unfold create at h
  generalize (if mode.usesContainer then w.createContainer b limits else (.ok false, w)) = asked
    at h
  rcases asked with ⟨reason | container, w'⟩
  · rw [← Except.error.inj h]
    rfl
  · nomatch h

/-- **What an operation leaves in a slot** is the failure of the code layer that it hands back, and
nothing if it hands back none. -/
theorem perform_tells (hb : b.Quiet) (operation : Operation) :
    s.world.Tells (s.perform b operation).1.failure? (s.perform b operation).2.world := by
  cases operation with
  | exec command => exact exec_tells b s hb command
  | execCode m bytes => exact execCode_tells b s m bytes
  | stop => exact stop_tells b s
  | destroy => exact destroy_tells b s
  | status | lastExit => exact refresh_tells b s
  | memory => exact memory_tells b s
  | cpuTime => exact cpuTime_tells b s
  | report => exact report_tells b s
  | pid | mode | limits | lastResult | flags => exact .refl s.world

end Operations

end Confine.Sandbox

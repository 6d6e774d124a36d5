import Confine.Machine.Amd64
import Confine.Proofs.Sandbox.Recording

set_option autoImplicit false

/-! # The slots of a workshop

What a thread finds in its slot can be told from what its own operations have handed back to it: go
back to where it last emptied the slot, and take the latest failure of the code layer since then.
Nothing else counts. Successes and refusals by a sandbox leave the slot alone, a failure that comes
up through a sandbox counts like any other, and other threads do not matter, even if they work with
the same blocks and sandboxes (`slot_eq_latestFailure`).
-/

namespace Confine.Workshop

variable {σ : Type}

/-! ## The law -/

/-- Whether a piece of work empties the slot. -/
def Work.clears : Work σ → Bool
  | .code command => command.clears
  | _ => false

/-- The failure of the code layer that a piece of work hands back. -/
def Outcome.failure? : Outcome → Option Code.Error
  | .code answer => answer.failure?
  | .created (.error cause) => cause.recorded?
  | .reply answer => answer.failure?
  | _ => none

/-- **The latest failure** of the code layer in some turns since the slot was emptied. -/
def latestFailure (turns : List (Turn σ)) : Option Code.Error :=
  (turns.reverse.takeWhile fun turn => !turn.work.clears).findSome? fun turn =>
    turn.outcome.failure?

/-- The turns of a thread. -/
def turnsOf (thread : Nat) (turns : List (Turn σ)) : List (Turn σ) :=
  turns.filter fun turn => turn.thread = thread

/-- The slots hold what the turns so far say. -/
def Mirrors (w : Workshop σ) (turns : List (Turn σ)) : Prop :=
  ∀ thread, w.slots thread = (latestFailure (turnsOf thread turns)).map Code.Error.message

/-- One more turn: it decides by itself unless it is silent. -/
theorem latestFailure_concat (turns : List (Turn σ)) (turn : Turn σ) :
    latestFailure (turns ++ [turn])
      = if turn.work.clears then none else turn.outcome.failure?.or (latestFailure turns) := by
  unfold latestFailure
  rw [List.reverse_append, List.reverse_singleton, List.singleton_append]
  by_cases hc : turn.work.clears = true
  · rw [if_pos hc, List.takeWhile_cons_of_neg (by simp [hc])]
    rfl
  · rw [if_neg hc, List.takeWhile_cons_of_pos (by simpa using hc), List.findSome?_cons]
    cases turn.outcome.failure? <;> rfl

/-! ## Turns -/

section Turns

variable {b : Sandbox.Backend σ} (w : Workshop σ)

theorem note_slots {before after : Sandbox.World σ} {failure : Option Code.Error}
    (h : before.Tells failure after) (thread t : Nat) :
    (w.note thread (before.noted after)).slots t
      = if t = thread then (w.slots thread).after failure else w.slots t := by
  rw [← h.noteAll_noted]
  rfl

/-- A turn in which there is nothing to do. -/
theorem slots_eq_after_none (thread t : Nat) :
    w.slots t = if t = thread then (w.slots thread).after none else w.slots t := by
  split
  case isTrue h => rw [h]; rfl
  case isFalse => rfl

/-- **What a turn does to the slots**: the thread's own slot takes up the failure that is handed
back, or is emptied, and no other slot changes. -/
theorem perform_slots (hb : b.Quiet) (thread : Nat) (work : Work σ) (t : Nat) :
    (w.perform b thread work).2.slots t
      = if t = thread then
          if work.clears then none
          else (w.slots thread).after (w.perform b thread work).1.failure?
        else w.slots t := by
  cases work with
  | code command =>
      have hslot := Code.Workbench.perform_slot ⟨w.slots thread, w.blocks⟩ command
      by_cases ht : t = thread
      · rw [if_pos ht]
        show (if t = thread then _ else _) = _
        rw [if_pos ht]
        exact hslot
      · rw [if_neg ht]
        exact if_neg ht
  | create name mode limits state =>
      have hnote := note_slots w (Sandbox.create_tells b mode limits { state }) thread t
      have hcause := Sandbox.create_error_recorded b mode limits { state }
      unfold perform
      dsimp only
      rcases hc : Sandbox.create b mode limits { state } with ⟨cause | s, after⟩ <;>
        rw [hc] at hnote hcause
      · rw [← hcause cause rfl] at hnote
        exact hnote
      · exact hnote
  | operate name operation =>
      unfold perform
      dsimp only
      cases w.sandboxes.lookup name with
      | none => exact slots_eq_after_none w thread t
      | some s =>
          have hnote := note_slots w (Sandbox.perform_tells b s hb operation) thread t
          dsimp only
          rcases hp : s.perform b operation with ⟨answer, after⟩
          rw [hp] at hnote
          exact hnote
  | drop name =>
      unfold perform
      dsimp only
      cases w.sandboxes.lookup name with
      | none => exact slots_eq_after_none w thread t
      | some s => exact note_slots w (Sandbox.drop_tells b s) thread t

end Turns

/-! ## Courses of work -/

/-- The workshop at the beginning: every slot is empty, and there were no turns. -/
theorem mirrors_nil : ({} : Workshop σ).Mirrors [] := fun _ => rfl

theorem turnsOf_append (thread : Nat) (turns turns' : List (Turn σ)) :
    turnsOf thread (turns ++ turns') = turnsOf thread turns ++ turnsOf thread turns' :=
  List.filter_append turns turns'

/-- A failure that is handed back is what the slot holds, whatever was there before. -/
theorem after_map_message (failure former : Option Code.Error) :
    Slot.after (former.map Code.Error.message) failure
      = (failure.or former).map Code.Error.message := by
  cases failure <;> rfl

/-- One turn keeps the slots in accordance with the turns. -/
theorem Mirrors.perform {b : Sandbox.Backend σ} (hb : b.Quiet) {w : Workshop σ}
    {turns : List (Turn σ)} (h : w.Mirrors turns) (thread : Nat) (work : Work σ) :
    (w.perform b thread work).2.Mirrors
      (turns ++ [⟨thread, work, (w.perform b thread work).1⟩]) := by
  intro t
  rw [perform_slots w hb thread work t, turnsOf_append]
  by_cases ht : t = thread
  · subst ht
    -- The new turn is the last one of the thread, and decides by itself or leaves it to those before.
    have hown : ∀ outcome, turnsOf t [(⟨t, work, outcome⟩ : Turn σ)] = [⟨t, work, outcome⟩] :=
      fun _ => List.filter_cons_of_pos (decide_eq_true rfl)
    rw [if_pos rfl, hown, latestFailure_concat]
    by_cases hc : work.clears = true
    · rw [if_pos hc, if_pos hc]
      rfl
    · rw [if_neg hc, if_neg hc, h t, after_map_message]
  · have hother : ∀ outcome, turnsOf t [(⟨thread, work, outcome⟩ : Turn σ)] = [] :=
      fun _ => List.filter_cons_of_neg (by simpa using Ne.symm ht)
    rw [if_neg ht, hother, List.append_nil, h t]

/-- A course of work keeps them in accordance. -/
theorem Mirrors.performAll {b : Sandbox.Backend σ} (hb : b.Quiet)
    (works : List (Nat × Work σ)) {w : Workshop σ} {turns : List (Turn σ)} (h : w.Mirrors turns) :
    (w.performAll b works).2.Mirrors (turns ++ (w.performAll b works).1) := by
  induction works generalizing w turns with
  | nil =>
      rw [show turns ++ (w.performAll b []).1 = turns from List.append_nil turns]
      exact h
  | cons item rest ih =>
      have hrest := ih (h.perform hb item.1 item.2)
      rw [List.append_assoc] at hrest
      exact hrest

/-- The work of others leaves a slot alone. -/
theorem performAll_slots_others {b : Sandbox.Backend σ} (hb : b.Quiet)
    (works : List (Nat × Work σ)) (w : Workshop σ) {t : Nat} (h : ∀ item ∈ works, item.1 ≠ t) :
    (w.performAll b works).2.slots t = w.slots t := by
  induction works generalizing w with
  | nil => rfl
  | cons item rest ih =>
      have hitem := perform_slots w hb item.1 item.2 t
      rw [if_neg (h item List.mem_cons_self).symm] at hitem
      exact (ih _ fun other hother => h other (List.mem_cons_of_mem item hother)).trans hitem

/-- **A slot holds the latest failure.** Let threads work one after another, in whatever order and
with whatever blocks and sandboxes they share. Then the slot of each thread holds the wording of the
latest failure of the code layer that the thread's own turns have handed back since the last one
that emptied the slot, and is empty if there is none; and whatever the other threads do next, it
stays as it is. -/
theorem slot_eq_latestFailure {b : Sandbox.Backend σ} (hb : b.Quiet)
    (works : List (Nat × Work σ)) (thread : Nat) :
    (({} : Workshop σ).performAll b works).2.slots thread
        = (latestFailure (turnsOf thread (({} : Workshop σ).performAll b works).1)).map
            Code.Error.message
      ∧ ∀ others : List (Nat × Work σ), (∀ item ∈ others, item.1 ≠ thread) →
          ((({} : Workshop σ).performAll b works).2.performAll b others).2.slots thread
            = (({} : Workshop σ).performAll b works).2.slots thread := by
  constructor
  · have hmirrors := mirrors_nil.performAll hb works
    rw [List.nil_append] at hmirrors
    exact hmirrors thread
  · intro others hothers
    exact performAll_slots_others hb others _ hothers

/-- A host that maps memory but never makes it executable. -/
def hardened : Machine :=
  { Machine.Amd64.host with protect := fun _ => .error "Permission denied (os error 13)" }

/-- A thread meets a lone digit, clears its slot, runs empty code in a sandbox, and is then refused
by the sandbox, which another thread has destroyed in between. This one cannot seal a region. -/
def intertwined : List (Nat × Work Sandbox.Scripted) :=
  [(0, .code (.decode "1")), (0, .code .clear), (0, .create "box" .vm {} {}),
    (0, .operate "box" (.execCode Machine.Amd64.host [])), (1, .operate "box" .destroy),
    (1, .code (.seal hardened 1 [0xc3])), (0, .operate "box" (.exec "job"))]

/-- The empty code is what the first thread remembers, and the refusal to seal what the second. -/
theorem slot_eq_latestFailure_intertwined :
    Sandbox.Scripted.backend.Quiet
      ∧ (({} : Workshop Sandbox.Scripted).performAll Sandbox.Scripted.backend
        intertwined).2.slots 0 = some "empty input: empty code"
      ∧ (({} : Workshop Sandbox.Scripted).performAll Sandbox.Scripted.backend
        intertwined).2.slots 1 = some "exec protect failed: Permission denied (os error 13)"
      ∧ ((({} : Workshop Sandbox.Scripted).performAll Sandbox.Scripted.backend
          intertwined).2.performAll Sandbox.Scripted.backend
          [(1, .code .clear)]).2.slots 0
        = (({} : Workshop Sandbox.Scripted).performAll Sandbox.Scripted.backend
            intertwined).2.slots 0 := by
  have h := slot_eq_latestFailure Sandbox.Scripted.backend_quiet intertwined
  have hempty : (latestFailure (turnsOf 0 (({} : Workshop Sandbox.Scripted).performAll
      Sandbox.Scripted.backend intertwined).1)).map Code.Error.message
      = some "empty input: empty code" := by rfl
  have hrefused : (latestFailure (turnsOf 1 (({} : Workshop Sandbox.Scripted).performAll
      Sandbox.Scripted.backend intertwined).1)).map Code.Error.message
      = some "exec protect failed: Permission denied (os error 13)" := by rfl
  exact ⟨Sandbox.Scripted.backend_quiet, (h 0).1.trans hempty, (h 1).1.trans hrefused,
    (h 0).2 [(1, .code .clear)] (by simp)⟩

end Confine.Workshop

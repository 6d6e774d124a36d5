import Confine.Code.Workbench

set_option autoImplicit false

/-! # What the slot of a thread holds

Every failure of the code layer is noted where it arises, far below the operation that hands it
back. `Attempt.Records` says that nothing is lost and nothing is made up on the way: the slot holds
the failure after an attempt that failed, and is as before after one that did not. It is kept when
attempts run one after another, and so it holds of every operation of the layer
(`Workbench.perform_slot`).
-/

namespace Confine

/-- The slot after an operation, by the failure that it hands back, if it hands back one. -/
def Slot.after (slot : Slot) : Option Code.Error → Slot
  | none => slot
  | some cause => some cause.message

theorem Slot.noteAll_append (slot : Slot) (xs ys : List Event) :
    slot.noteAll (xs ++ ys) = (slot.noteAll xs).noteAll ys :=
  List.foldl_append

namespace Code

/-! ## Attempts -/

namespace Attempt

variable {α β : Type}

/-- The failure of an attempt, if it failed. -/
def failure? (a : Attempt α) : Option Error :=
  match a.result with
  | .ok _ => none
  | .error cause => some cause

/-- **An attempt records its failure**: its events leave the slot with the failure if there is one,
and as it was if there is none. -/
def Records (a : Attempt α) : Prop :=
  ∀ slot : Slot, slot.noteAll a.events = slot.after a.failure?

theorem records_pure (a : α) : (pure a : Attempt α).Records := fun _ => rfl

theorem records_fail (cause : Error) : (fail cause : Attempt α).Records := fun _ => rfl

theorem Records.bind {first : Attempt α} {next : α → Attempt β} (h : first.Records)
    (h' : ∀ a, (next a).Records) : (first >>= next).Records := by
  intro slot
  show slot.noteAll (Attempt.bind first next).events = slot.after (Attempt.bind first next).failure?
  have hfirst := h slot
  rcases first with ⟨cause | a, events⟩
  · exact hfirst
  · -- The first attempt has left the slot alone.
    have hnext : slot.noteAll (events ++ (next a).events) = slot.after (next a).failure? := by
      rw [Slot.noteAll_append, hfirst]
      exact h' a slot
    exact hnext

/-- Events other than failures leave the slot alone. -/
theorem records_note {event : Event} (h : ∀ slot : Slot, slot.note event = slot) :
    (note event).Records := h

end Attempt

open Attempt

theorem records_decode (text : String) : (decode text).Records := by
  unfold decode
  cases Hex.decode text with
  | ok bytes => exact records_pure bytes
  | error fault => exact records_fail _

theorem records_allocate (m : Machine) (size : UInt64) :
    (WritableRegion.allocate m size).Records := by
  unfold WritableRegion.allocate
  by_cases hz : size = 0
  · rw [if_pos hz]
    exact records_fail _
  rw [if_neg hz]
  cases m.roundUp size with
  | none => exact records_fail _
  | some pages =>
      dsimp only
      cases m.map pages with
      | error reason => exact records_fail _
      | ok done => exact (records_note fun _ => rfl).bind fun _ => records_pure _

/-- A refusal to seal is recorded like any other failure. -/
theorem records_makeExecutable (m : Machine) (r : WritableRegion) :
    (r.makeExecutable m).Records := by
  unfold WritableRegion.makeExecutable
  cases m.protect r.extent.mapped with
  | error reason => exact records_fail _
  | ok done => exact (records_note fun _ => rfl).bind fun _ => records_pure _

theorem records_load (m : Machine) (bytes : List UInt8) : (load m bytes).Records := by
  unfold load
  by_cases hb : bytes.isEmpty = true
  · rw [if_pos hb]
    exact records_fail _
  rw [if_neg hb]
  by_cases hl : UInt64.size ≤ bytes.length
  · rw [if_pos hl]
    exact records_fail _
  · rw [if_neg hl]
    exact (records_allocate m _).bind fun region => records_makeExecutable m _

theorem records_invoke (m : Machine) (region : ExecutableRegion) (args : List String) :
    (invoke m region args).Records := by
  unfold invoke
  cases args.find? holdsTerminator with
  | some argument => exact records_fail _
  | none => exact (records_note fun _ => rfl).bind fun _ => records_pure _

namespace Block

theorem records_assemble (m : Machine) (architecture backend listing : String) :
    (assemble m architecture backend listing).Records :=
  (records_decode listing).bind fun bytes => (records_load m bytes).bind fun _ =>
    (records_note fun _ => rfl).bind fun _ => records_pure _

theorem records_assembleStream (s : Stream) (backend : String) :
    (assembleStream s backend).Records := by
  unfold assembleStream
  by_cases he : s.instructions.isEmpty = true
  · rw [if_pos he]
    exact records_fail _
  · rw [if_neg he]
    exact (records_note fun _ => rfl).bind fun _ => records_fail _

theorem records_execute (m : Machine) (b : Block) (args : Option (List String)) :
    (b.execute m args).Records := by
  unfold execute
  cases b.region with
  | none => exact records_fail _
  | some region =>
      dsimp only
      by_cases hz : region.len = 0
      · rw [if_pos hz]
        exact records_fail _
      · rw [if_neg hz]
        exact records_invoke m region _

theorem records_dump (b : Block) : b.dump.Records := by
  unfold dump
  rcases b.code? with _ | _ | ⟨byte, rest⟩
  · exact records_fail _
  · exact records_fail _
  · exact records_pure _

/-- Freeing a block is no failure. -/
theorem noteAll_freeEvents (b : Block) (slot : Slot) : slot.noteAll b.freeEvents = slot := by
  unfold freeEvents
  cases b.region <;> rfl

end Block

/-! ## Workbenches -/

/-- The failure that an answer hands back. -/
def Answer.failure? : Answer → Option Error
  | .failed cause => some cause
  | _ => none

/-- Whether a command empties the slot. -/
def Command.clears : Command → Bool
  | .clear => true
  | _ => false

namespace Workbench

variable {α : Type} (w : Workbench)

theorem attempt_slot {a : Attempt α} (h : a.Records) {answer : α → Answer}
    (hanswer : ∀ value, (answer value).failure? = none) :
    (w.attempt a answer).2.slot = w.slot.after (w.attempt a answer).1.failure? := by
  have hnote := h w.slot
  unfold attempt
  cases hr : a.result with
  | ok value =>
      show w.slot.noteAll a.events = w.slot.after (answer value).failure?
      rw [hanswer, hnote, failure?, hr]
  | error cause =>
      show w.slot.noteAll a.events = w.slot.after (some cause)
      rw [hnote, failure?, hr]

theorem withBlock_slot {name : String} {work : Block → Answer × Workbench}
    (h : ∀ block, (work block).2.slot = w.slot.after (work block).1.failure?) :
    (w.withBlock name work).2.slot = w.slot.after (w.withBlock name work).1.failure? := by
  unfold withBlock
  cases w.find? name with
  | none => rfl
  | some block => exact h block

/-- **After a command the slot holds the failure that was handed back**, and if there was none it is
as before, or empty after the command that empties it. -/
theorem perform_slot (command : Command) :
    (w.perform command).2.slot
      = if command.clears then none else w.slot.after (w.perform command).1.failure? := by
  cases command with
  | assemble host name architecture backend listing =>
      -- A success puts the block on the bench, so `attempt_slot` does not apply.
      have hnote := Block.records_assemble host architecture backend listing w.slot
      unfold perform
      dsimp only
      cases hr : (Block.assemble host architecture backend listing).result with
      | ok block =>
          rw [failure?, hr] at hnote
          exact hnote
      | error cause =>
          rw [failure?, hr] at hnote
          exact hnote
  | inspect name => exact withBlock_slot w fun _ => rfl
  | dump name =>
      exact withBlock_slot w fun block => attempt_slot w block.records_dump fun _ => rfl
  | execute host name args =>
      exact withBlock_slot w fun block =>
        attempt_slot w (block.records_execute host args) fun _ => rfl
  | free name => exact withBlock_slot w fun block => block.noteAll_freeEvents w.slot
  | decode listing => exact attempt_slot w (records_decode listing) fun _ => rfl
  | assembleStream architecture text backend =>
      exact attempt_slot w (Block.records_assembleStream _ backend) fun _ => rfl
  | «seal» host size bytes =>
      exact attempt_slot w ((records_allocate host size).bind fun _ =>
        (records_makeExecutable host _).bind fun _ => records_pure _) fun _ => rfl
  | map host size bytes =>
      exact attempt_slot w ((records_allocate host size).bind fun _ => records_pure _) fun _ => rfl
  | clear => rfl
  | thread commands => rfl

end Workbench

end Code

end Confine

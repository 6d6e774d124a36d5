import Confine.Code.Workbench
import Confine.Sandbox.Operation

set_option autoImplicit false

/-! # Workshops

A workshop is a program in which several threads work with code and with sandboxes. The threads
share the blocks and the sandboxes, but each has a slot of its own for the most recent failure of
the code layer, and what a sandbox notes goes to the thread that operates it. A thread that has not
done anything yet has an empty slot. -/

namespace Confine

/-- The threads of a program and what they share. -/
structure Workshop (σ : Type) where
  /-- The slots of the threads, by their numbers. -/
  slots : Nat → Slot := fun _ => none
  /-- The blocks by their names, the latest first. -/
  blocks : List (String × Code.Block) := []
  /-- The sandboxes by their names, the latest first. -/
  sandboxes : List (String × Sandbox σ) := []

/-- A piece of work. -/
inductive Workshop.Work (σ : Type) where
  /-- Work with code. -/
  | code (command : Code.Command)
  /-- Create a sandbox, with a backend in this state, and keep it under a name. -/
  | create (name : String) (mode : Mode) (limits : Limits) (state : σ)
  /-- Operate a sandbox. -/
  | operate (name : String) (operation : Sandbox.Operation)
  /-- Let a sandbox go out of use. -/
  | drop (name : String)

/-- What comes of a piece of work. -/
inductive Workshop.Outcome where
  /-- An answer about code. -/
  | code (answer : Code.Answer)
  /-- A sandbox was created, or was not. -/
  | created (result : Except Sandbox.Error Unit)
  /-- A sandbox has replied. -/
  | reply (reply : Sandbox.Reply)
  /-- A sandbox has gone out of use. -/
  | dropped
  /-- There is no sandbox with the name. -/
  | noSuchSandbox

/-- A piece of work that a thread has done, and what came of it. -/
structure Workshop.Turn (σ : Type) where
  /-- The number of the thread. -/
  thread : Nat
  /-- The work. -/
  work : Workshop.Work σ
  /-- What came of it. -/
  outcome : Workshop.Outcome

/-- The events that a world has noted since it was in an earlier state. -/
def Sandbox.World.noted {σ : Type} (before after : World σ) : List Event :=
  after.journal.drop before.journal.length

namespace Workshop

variable {σ : Type}

/-- The workshop with another slot for a thread. -/
def withSlot (w : Workshop σ) (thread : Nat) (slot : Slot) : Workshop σ :=
  { w with slots := fun t => if t = thread then slot else w.slots t }

/-- Note events for a thread. -/
def note (w : Workshop σ) (thread : Nat) (events : List Event) : Workshop σ :=
  w.withSlot thread ((w.slots thread).noteAll events)

/-- Let a thread do a piece of work. -/
def perform (b : Sandbox.Backend σ) (w : Workshop σ) (thread : Nat) :
    Work σ → Outcome × Workshop σ
  | .code command =>
    let (answer, bench) := Code.Workbench.perform ⟨w.slots thread, w.blocks⟩ command
    (.code answer, { w.withSlot thread bench.slot with blocks := bench.blocks })
  | .create name mode limits state =>
    let before : Sandbox.World σ := { state }
    let (result, after) := Sandbox.create b mode limits before
    let w := w.note thread (before.noted after)
    match result with
    | .error cause => (.created (.error cause), w)
    | .ok s => (.created (.ok ()), { w with sandboxes := (name, s) :: w.sandboxes })
  | .operate name operation =>
    match w.sandboxes.lookup name with
    | none => (.noSuchSandbox, w)
    | some s =>
      let (reply, after) := s.perform b operation
      let w := w.note thread (s.world.noted after.world)
      (.reply reply, { w with sandboxes := (name, after) :: w.sandboxes })
  | .drop name =>
    match w.sandboxes.lookup name with
    | none => (.noSuchSandbox, w)
    | some s =>
      let w := w.note thread (s.world.noted (s.drop b).world)
      (.dropped, { w with sandboxes := w.sandboxes.filter fun entry => entry.1 ≠ name })

/-- Let threads work one after another, each item with the number of its thread. -/
def performAll (b : Sandbox.Backend σ) (w : Workshop σ) :
    List (Nat × Work σ) → List (Turn σ) × Workshop σ
  | [] => ([], w)
  | (thread, work) :: rest =>
    let (outcome, w) := w.perform b thread work
    let (turns, w) := performAll b w rest
    (⟨thread, work, outcome⟩ :: turns, w)

end Workshop

end Confine

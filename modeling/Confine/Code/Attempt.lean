import Confine.Journal

set_option autoImplicit false

/-! # Attempts

An `Attempt` is what an operation of the code layer hands back: its result, and the events
that it caused on the way. Attempts run one after another and stop at the first failure, and
the events of what ran before are kept. -/

namespace Confine.Code

/-- A result of the code layer with the events that led to it. -/
structure Attempt (α : Type) where
  /-- The value, or why there is none. -/
  result : Except Error α
  /-- What happened on the way, in order. -/
  events : List Event

namespace Attempt

variable {α β : Type}

/-- The attempt that succeeds and tells nothing. -/
protected def pure (a : α) : Attempt α :=
  ⟨.ok a, []⟩

/-- Run one attempt after another. -/
protected def bind (first : Attempt α) (next : α → Attempt β) : Attempt β :=
  match first.result with
  | .error e => ⟨.error e, first.events⟩
  | .ok a => ⟨(next a).result, first.events ++ (next a).events⟩

instance : Monad Attempt where
  pure := Attempt.pure
  bind := Attempt.bind

/-- Fail, and note the failure in the journal. -/
def fail (cause : Error) : Attempt α :=
  ⟨.error cause, [.failed cause]⟩

/-- Note an event. -/
def note (event : Event) : Attempt Unit :=
  ⟨.ok (), [event]⟩

end Attempt

/-- Decode a listing, and note the failure if there is one. -/
def decode (text : String) : Attempt (List UInt8) :=
  match Hex.decode text with
  | .ok bytes => pure bytes
  | .error fault => .fail (.hexParse fault)

end Confine.Code

import Confine.Program.Act

set_option autoImplicit false

/-! # Acts one after another

What a sequence of acts does to a scene: the first act is carried out, and the second goes on from
where that one has left, unless it has failed.
-/

namespace Confine.Program

variable {α β : Type} {act : Act α} {scene scene' : Scene}

theorem bind_run (act : Act α) (next : α → Act β) (scene : Scene) :
    (act >>= next) scene
      = match (act scene).1 with
        | .ok a => next a (act scene).2
        | .error failure => (.error failure, (act scene).2) := by
  show (match act scene with | (result, after) => ExceptT.bindCont next result after) = _
  rcases act scene with ⟨failure | a, after⟩ <;> rfl

theorem bind_run_ok {a : α} (h : act scene = (.ok a, scene')) (next : α → Act β) :
    (act >>= next) scene = next a scene' := by
  rw [bind_run, h]

theorem bind_run_error {failure : Failure} (h : act scene = (.error failure, scene'))
    (next : α → Act β) : (act >>= next) scene = (.error failure, scene') := by
  rw [bind_run, h]

/-- A piece of work of the code layer ends as it does there. Only the transcript shows it. -/
theorem attempt_run (a : Code.Attempt α) (scene : Scene) :
    Act.attempt a scene
      = (a.result.mapError .ofCode,
        { scene with transcript := scene.transcript ++ a.events.map .event }) := by
  unfold Act.attempt
  rw [bind_run]
  cases a.result <;> rfl

end Confine.Program

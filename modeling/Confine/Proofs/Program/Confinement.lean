import Confine.Program.Confinement
import Confine.Proofs.Sandbox.Spawning

set_option autoImplicit false

/-! # Commands in sandboxes

A run that uses a sandbox creates it, uses it and destroys it. `confined_eq` takes this apart, so
that what is known of a use becomes known of the run: a command that was watched to its end always
has an exit to tell, and it was started under the plan of its limits. -/

namespace Confine.Program

open Confine.Sandbox

variable {mode : Mode} {limits : Limits} {env : Environment} {scene scene' : Scene}

/-- What a run makes of the use of a sandbox: the result, once everything has been said. -/
theorem confined_eq {α : Type} (env : Environment) (scene : Scene)
    (use : Sandbox Host → Except Error α × Sandbox Host) :
    confined env mode limits use scene
      = (match (inSandbox (.on scene.files env) mode limits use).1 with
          | .ok value =>
              if (inSandbox (.on scene.files env) mode limits use).2.state.isOver then
                Act.fail "killed"
              else pure value
          | .error cause => throw (.ofSandbox cause) : Act α)
        { scene with
          files := (inSandbox (.on scene.files env) mode limits use).2.state.filesNow
          host := some (inSandbox (.on scene.files env) mode limits use).2.state.silenced
          transcript := scene.transcript
            ++ entriesOf (inSandbox (.on scene.files env) mode limits use).2 } :=
  rfl

/-- A value that a run gets from a sandbox is one that the use has given. -/
theorem inSandbox_of_confined {α : Type} {use : Sandbox Host → Except Error α × Sandbox Host}
    {value : α} (h : confined env mode limits use scene = (.ok value, scene')) :
    (inSandbox (.on scene.files env) mode limits use).1 = .ok value := by
  rw [confined_eq] at h
  generalize inSandbox (.on scene.files env) mode limits use = used at h ⊢
  rcases used with ⟨cause | result, w⟩
  · cases h
  · dsimp only at h
    cases hover : w.state.isOver with
    | true =>
        rw [hover] at h
        cases h
    | false =>
        rw [hover] at h
        cases h
        rfl

section Watching

variable {command : String} {poll : UInt64} {r : Summary}

theorem exit_of_watch {s v : Sandbox Host} (hs : s.descriptor.Coherent)
    (h : watch command poll s = (.ok (some r), v)) : ∃ report, r.exit = some report := by
  unfold watch at h
  rcases hsup : s.supervise Host.backend Host.clock maxLooks command poll
    with ⟨_ | cause | summary, u⟩
  · rw [hsup] at h
    cases h
  · rw [hsup] at h
    cases h
  · rw [hsup] at h
    cases h
    obtain ⟨-, -, xs, -, hchild⟩ := supervise_ends hs hsup
    obtain ⟨report, hexit, -⟩ := hchild.exit
    exact ⟨report, hexit⟩

theorem exit_of_inSandbox {host : Host}
    (h : (inSandbox host mode limits (watch command poll)).1 = .ok (some r)) :
    ∃ report, r.exit = some report := by
  unfold inSandbox at h
  rcases hc : create Host.backend mode limits { state := host } with ⟨cause | s, w⟩
  · rw [hc] at h
    cases h
  · rw [hc] at h
    rcases hw : watch command poll s with ⟨result, u⟩
    simp only [hw] at h
    rw [h] at hw
    exact exit_of_watch (coherent_of_create hc) hw

/-- **A command that was watched to its end has an exit to tell**, so that a run never fails for
want of one. -/
theorem exit_of_confined
    (h : confined env mode limits (watch command poll) scene = (.ok (some r), scene')) :
    ∃ report, r.exit = some report :=
  exit_of_inSandbox (inSandbox_of_confined h)

theorem watch_snd (command : String) (poll : UInt64) (s : Sandbox Host) :
    (watch command poll s).2
      = (s.supervise Host.backend Host.clock maxLooks command poll).2 := by
  unfold watch
  rcases s.supervise Host.backend Host.clock maxLooks command poll with ⟨_ | _ | _, u⟩ <;> rfl

/-- **A command that is watched is started under the plan of its limits.** -/
theorem spawnsUnder_inSandbox (host : Host) (mode : Mode) (limits : Limits) (command : String)
    (poll : UInt64) :
    SpawnsUnder (Plan.native limits)
      (inSandbox host mode limits (watch command poll)).2.exchanges := by
  unfold inSandbox
  rcases hc : create Host.backend mode limits { state := host } with ⟨cause | s, w⟩
  · -- This host has no containers that it could fail to create.
    cases mode <;> cases hc
  have hrun : Becomes Host.backend s (watch command poll s).2 := by
    rw [watch_snd]
    exact Becomes.refl.supervise Host.clock maxLooks command poll
  obtain ⟨xs, hxs, hplan⟩ := spawnsUnder_of_create hc (hrun.performed .destroy)
  rw [List.nil_append] at hxs
  rw [← hxs] at hplan
  exact hplan

end Watching

end Confine.Program

import Confine.Program.Listings
import Confine.Proofs.Code.Assembly
import Confine.Proofs.Program.Act
import Confine.Proofs.Program.Confinement

set_option autoImplicit false

/-! # Two ways of running code

The code of a listing can be run in the program itself, out of a block, or in a sandbox. The checks
stand in different places then: a sandbox is given bytes that were decoded before it was created,
and a block decodes its listing when it is assembled. Both ways come to the same, the outcome of the
listing (`runCode_eq_execCode`). For a sandbox this only takes that it is alive and owns no child,
so that a poll finds nothing to do (`ExecsCode.of_vacant`).
-/

namespace Confine

/-! ## Sandboxes that own no child -/

namespace Sandbox

variable {σ : Type}

theorem Answers.eq_of_nil {b : Backend σ} {state state' : σ} (h : Answers b state [] state') :
    state' = state := by
  cases h
  rfl

theorem ExecsCode.of_vacant {m : Machine} {bytes : List UInt8} {d d' : Descriptor}
    {xs : List Exchange} {result : Except Error Int32}
    (hx : ExecsCode m bytes d xs result d') (hd : d.destroyed = false) (hm : d.mode = .vm)
    (hc : d.process = none) :
    xs = [] ∧ result = (m.outcome bytes).mapError .code ∧ d'.process = none := by
  unfold Machine.outcome Machine.loading
  cases hx with
  | destroyed h =>
      rw [hd] at h
      cases h
  | unsupported _ h => exact absurd hm h
  | busy _ _ hp hc' =>
      obtain ⟨-, rfl⟩ := hp.eq_of_vacant hc
      rw [hc] at hc'
      cases hc'
  | empty _ _ hp hc' hb =>
      rw [if_pos hb]
      exact ⟨(hp.eq_of_vacant hc).1, rfl, hc'⟩
  | unmapped _ _ hp hc' hb ha =>
      rw [if_neg hb, ha]
      exact ⟨(hp.eq_of_vacant hc).1, rfl, hc'⟩
  | unsealed _ _ hp hc' hb ha hr =>
      rw [if_neg hb, ha]
      dsimp only
      rw [hr]
      exact ⟨(hp.eq_of_vacant hc).1, rfl, hc'⟩
  | ran _ _ hp hc' hb ha hr =>
      rw [if_neg hb, ha]
      dsimp only
      rw [hr]
      exact ⟨(hp.eq_of_vacant hc).1, rfl, hc'⟩

theorem Destroys.eq_nil_of_vacant {d d' : Descriptor} {xs : List Exchange}
    {result : Except Error Unit} (hx : Destroys d xs result d') (hc : d.process = none) :
    xs = [] := by
  cases hx with
  | destroyed => rfl
  | done _ hr =>
      rw [hc] at hr
      cases hr
      rfl

/-- **Running code in a sandbox that owns no child** gives the outcome of the code. No child is
owned then either, and the backend was not asked for anything. -/
theorem execCode_of_vacant (b : Backend σ) (m : Machine) (bytes : List UInt8) {s : Sandbox σ}
    (hd : s.descriptor.destroyed = false) (hm : s.descriptor.mode = .vm)
    (hc : s.descriptor.process = none) :
    (s.execCode b m bytes).1 = (m.outcome bytes).mapError .code
      ∧ (s.execCode b m bytes).2.descriptor.process = none
      ∧ (s.execCode b m bytes).2.world.state = s.world.state := by
  obtain ⟨xs, hx, hext⟩ := execCode_spec b s m bytes
  obtain ⟨rfl, hresult, hc'⟩ := hx.of_vacant hd hm hc
  exact ⟨hresult, hc', hext.answered.eq_of_nil⟩

theorem destroy_of_vacant (b : Backend σ) {s : Sandbox σ} (hc : s.descriptor.process = none) :
    (s.destroy b).2.world.state = s.world.state := by
  obtain ⟨xs, hx, hext⟩ := destroy_spec b s
  obtain rfl := hx.eq_nil_of_vacant hc
  exact hext.answered.eq_of_nil

end Sandbox

theorem Code.decode_result (listing : String) :
    (Code.decode listing).result = (Hex.decode listing).mapError .hexParse := by
  unfold Code.decode
  cases Hex.decode listing <;> rfl

namespace Program

open Sandbox (Host)
open Code (Block)

variable {scene : Scene}

/-! ## Listings in a sandbox -/

/-- A new sandbox for machine code on a host. -/
def freshSandbox (h : Host) (limits : Limits) : Sandbox Host :=
  ⟨{ mode := .vm, limits }, { state := h, journal := [.created .vm false limits] }⟩

/-- A sandbox that is created for some code, runs it and is destroyed leaves the host as it was. -/
theorem inSandbox_execCode (h : Host) (m : Machine) (limits : Limits) (bytes : List UInt8) :
    (inSandbox h .vm limits fun s => s.execCode Host.backend m bytes).1
        = (m.outcome bytes).mapError .code
      ∧ (inSandbox h .vm limits fun s => s.execCode Host.backend m bytes).2.state = h := by
  have hcreate : Sandbox.create Host.backend .vm limits { state := h }
      = (.ok (freshSandbox h limits), (freshSandbox h limits).world) := rfl
  unfold inSandbox
  rw [hcreate]
  obtain ⟨hresult, hc, hstate⟩ := Sandbox.execCode_of_vacant Host.backend m bytes
    (s := freshSandbox h limits) rfl rfl rfl
  exact ⟨hresult, (Sandbox.destroy_of_vacant Host.backend hc).trans hstate⟩

theorem confined_execCode (m : Machine) (env : Environment) (limits : Limits) (bytes : List UInt8)
    (scene : Scene) :
    (confined env .vm limits (fun s => s.execCode Host.backend m bytes) scene).1
      = (m.outcome bytes).mapError .ofCode := by
  obtain ⟨hresult, hstate⟩ := inSandbox_execCode (.on scene.files env) m limits bytes
  rw [confined_eq]
  generalize inSandbox (.on scene.files env) .vm limits (fun s => s.execCode Host.backend m bytes)
    = used at hresult hstate ⊢
  rcases used with ⟨result, w⟩
  dsimp only at hresult hstate ⊢
  -- No signal was sent to a host on which nothing has been started.
  have hover : w.state.isOver = false := by
    rw [hstate]
    rfl
  rw [hover, hresult]
  cases m.outcome bytes <;> rfl

/-- **A listing that is run in a sandbox** has its outcome, whatever the files and the variables. -/
theorem execCode_run (m : Machine) (env : Environment) (listing : String) (scene : Scene) :
    (execCode m env listing scene).1 = (m.listedOutcome listing).mapError .ofCode := by
  unfold execCode Machine.listedOutcome
  rw [bind_run, attempt_run, Code.decode_result]
  cases Hex.decode listing with
  | error fault => rfl
  | ok bytes => exact confined_execCode m env {} bytes _

/-! ## Listings in the program -/

/-- **A listing that is run in the program** has its outcome, whether it is shown before or not. -/
theorem runCode_run (m : Machine) (listing : String) {architecture : Option String}
    (h : architecture.getD m.architecture = m.architecture) (dump : Bool) (scene : Scene) :
    (runCode m listing [] architecture dump scene).1
      = (m.listedOutcome listing).mapError .ofCode := by
  unfold runCode
  dsimp only
  rw [bind_run, attempt_run]
  rcases Block.assemble_listed m (architecture.getD m.architecture) backendName listing with
    ⟨cause, hr, hout⟩ | ⟨block, bytes, hr, hholds, hb, hout⟩
  · rw [hr, hout]
    rfl
  rw [hr, hout]
  have hcall : ∀ scene, (Act.attempt (block.execute m (some [])) scene).1
      = .ok (m.run bytes (Machine.Call.ofArguments [])) := by
    intro scene
    rw [attempt_run, hholds.execute hb m (some []) rfl]
    rfl
  dsimp only [Except.mapError]
  rw [if_pos h]
  cases dump with
  | false => exact hcall _
  | true =>
      -- The listing of a block that holds code can be shown.
      show ((Act.attempt block.dump >>= _ : Act Int32) _).1 = _
      rw [bind_run, attempt_run, hholds.dump]
      exact hcall _

/-! ## Both ways -/

/-- **The two ways of running code agree.** A listing comes to the same in the program, for the
architecture of the machine, and in a sandbox: it cannot be decoded, it names no code, no pages are
mapped for its code, they are not made executable, or the code returns something. What some bytes
come to in a sandbox that is alive and owns no child is what their listing comes to when it is
assembled and called without context. -/
theorem runCode_eq_execCode (m : Machine) :
    (∀ (listing : String) (architecture : Option String) (dump : Bool) (env : Environment)
        (scene scene' : Scene), architecture.getD m.architecture = m.architecture →
        (runCode m listing [] architecture dump scene).1 = (execCode m env listing scene').1
          ∧ (execCode m env listing scene').1 = (m.listedOutcome listing).mapError .ofCode)
      ∧ ∀ {σ : Type} (b : Sandbox.Backend σ) (s : Sandbox σ) (bytes : List UInt8)
          (architecture backend : String), s.descriptor.destroyed = false →
          s.descriptor.mode = .vm → s.descriptor.process = none →
          (s.execCode b m bytes).1
              = (Block.assemble m architecture backend (Hex.encode bytes) >>= fun block =>
                  block.execute m none).result.mapError .code
            ∧ (s.execCode b m bytes).1 = (m.outcome bytes).mapError .code := by
  constructor
  · intro listing architecture dump env scene scene' h
    rw [runCode_run m listing h, execCode_run]
    exact ⟨rfl, rfl⟩
  · intro σ b s bytes architecture backend hd hm hc
    rw [Block.assemble_execute_result m architecture backend _ none rfl,
      (Sandbox.execCode_of_vacant b m bytes hd hm hc).1, Machine.listedOutcome, Hex.decode_encode]
    exact ⟨rfl, rfl⟩

/-- Code that returns a number, in the program and in a sandbox, and code that comes after other
code in one sandbox. -/
theorem runCode_eq_execCode_of_return :
    (runCode Machine.Amd64.host "B8 2A 00 00 00 C3" [] none true { files := {} }).1
        = (execCode Machine.Amd64.host [] "B8 2A 00 00 00 C3" { files := {} }).1
      ∧ (execCode Machine.Amd64.host [] "B8 2A 00 00 00 C3" { files := {} }).1 = .ok 42
      ∧ ∃ s w t, Sandbox.create Sandbox.Scripted.backend .vm {} (Sandbox.lingering 2) = (.ok s, w)
        ∧ (s.performAll Sandbox.Scripted.backend
            [.execCode Machine.Amd64.host [0x31, 0xc0, 0xc3]]).2 = t
        ∧ t.descriptor.lastResult = some 0
        ∧ (t.execCode Sandbox.Scripted.backend Machine.Amd64.host [0xc3, 0x90]).1
          = (Block.assemble Machine.Amd64.host "x86_64" "native" (Hex.encode [0xc3, 0x90]) >>=
              fun block => block.execute Machine.Amd64.host none).result.mapError .code := by
  obtain ⟨hlisting, hsandbox⟩ := runCode_eq_execCode Machine.Amd64.host
  obtain ⟨hagree, hout⟩ := hlisting "B8 2A 00 00 00 C3" none true [] { files := {} } { files := {} }
    rfl
  have hreturn : Machine.Amd64.host.listedOutcome "B8 2A 00 00 00 C3" = .ok 42 := by
    decide +kernel
  rw [hreturn] at hout
  refine ⟨hagree, hout, _, _, _, rfl, rfl, rfl, ?_⟩
  exact (hsandbox _ _ _ _ _ rfl rfl rfl).1

end Program

end Confine

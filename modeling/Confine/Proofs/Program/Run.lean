import Confine.Program.Run
import Confine.Proofs.Program.Preferences

set_option autoImplicit false

/-! # The frame of a run

Whatever a run was asked for, it first loads the settings and settles how the journal is shown, and
at its end its last scene is turned into an outcome. Loading decides for every command alike: if the
settings cannot be loaded, the run fails and leaves all files as they are (`run_of_not_loaded`).
Setting up the journal lets the files grow, or ends the run (`startLogging_run_ok`,
`startLogging_run_error`). A run that has started no processes has nothing to wait for at its end,
and leaves the files of its last scene with the journal added to them (`outcome_of_idle`).
-/

namespace Confine

/-! ## The directories of the program -/

namespace Location

/-- The file of the journal can be set up: the directories are there or can be created, and then
the file can be opened. -/
def CanLog (l : Location) (t : FileTree) : Prop :=
  ∃ made opened, l.ensureDirs t = (.ok (), made) ∧ made.append l.logFile [] = .ok opened

theorem ensureDir_grows {t t' : FileTree} {path : String} (h : ensureDir t path = .ok t') :
    t.Grows t' := by
  unfold ensureDir at h
  cases hmade : t.makeDirectories path with
  | error fault =>
      rw [hmade] at h
      nomatch h
  | ok made =>
      rw [hmade] at h
      exact (FileTree.makeDirectories_grows hmade).1.trans (FileTree.setPermissions_grows h)

/-- Preparing directories lets the tree grow, whether it fails or not. -/
theorem ensureAll_grows (t : FileTree) (paths : List String) : t.Grows (ensureAll t paths).2 := by
  induction paths generalizing t with
  | nil => exact .refl t
  | cons path paths ih =>
      rw [ensureAll]
      cases hdir : ensureDir t path with
      | error fault => exact .refl t
      | ok made => exact (ensureDir_grows hdir).trans (ih made)

end Location

/-! ## A host without processes -/

namespace Sandbox.Host

/-- Time passes at once. -/
theorem advance_of_idle (files : FileTree) (owner goal rounds : Nat) :
    System.advance goal (rounds + 1) { files, owner } = { files, owner, now := goal } :=
  rfl

theorem silence_of_idle (files : FileTree) (owner moves : Nat) :
    silence (moves + 1) { files, owner } = { files, owner } := by
  -- The bound on the rounds is a large number, and one round is all it takes.
  have hpass : System.passTo { files, owner } 0 = { files, owner } :=
    advance_of_idle files owner 0 999999
  unfold silence
  dsimp only
  rw [hpass]
  rfl

/-- Nothing has to settle where nothing was started. -/
theorem settle_of_idle (files : FileTree) :
    ({ system := { files } } : Host).settle = { system := { files, owner := 0 } } :=
  congrArg (fun system => ({ system } : Host)) (silence_of_idle files 0 99999)

end Sandbox.Host

namespace Program

/-! ## The end of a run -/

section Outcome

variable {scene : Scene}

/-- **A run that has started no processes** fails exactly if a failure has ended it. It has written
what was said, and left the files of its last scene and the journal. -/
theorem outcome_of_idle (h : scene.host = none) (failure : Option Failure) :
    scene.outcome failure
      = { status := some (if failure.isSome then 1 else 0)
          output := scene.transcript.flatMap Entry.toOutput
          errors := scene.transcript.flatMap (Entry.toErrors scene.logger)
            ++ Text.bytesOf (String.join ((failure.elim [] Failure.lines).map (· ++ "\n")))
          files := scene.finalFiles } := by
  have hhost : scene.finalHost = { system := { files := scene.finalFiles, owner := 0 } } := by
    unfold Scene.finalHost
    rw [h]
    exact Sandbox.Host.settle_of_idle scene.finalFiles
  have hwritten : ∀ toError, scene.finalHost.written toError = [] := by
    intro toError
    rw [hhost]
    rfl
  unfold Scene.outcome
  dsimp only
  rw [hwritten, hwritten, List.append_nil, List.append_nil, hhost, h]
  rfl

/-- Nothing was noted in the journal. -/
def Scene.IsQuiet (scene : Scene) : Prop :=
  ∀ entry ∈ scene.transcript, ∀ event, entry ≠ .event event

/-- At most nothing is added to the file of a journal in which nothing was noted. -/
theorem finalFiles_of_quiet (h : scene.IsQuiet) :
    scene.finalFiles = scene.files
      ∨ ∃ path, scene.files.append path [] = .ok scene.finalFiles := by
  have hnothing : ∀ l : Logger, scene.transcript.flatMap (Entry.toFile l) = [] := by
    intro l
    refine List.flatMap_eq_nil_iff.mpr fun entry hentry => ?_
    cases entry with
    | event event => exact absurd rfl (h _ hentry event)
    | output bytes => rfl
    | notice bytes => rfl
  unfold Scene.finalFiles
  split
  case h_1 => exact .inl rfl
  case h_2 l _ =>
    split
    case h_1 => exact .inl rfl
    case h_2 path _ =>
      rw [hnothing l]
      split
      case h_1 files happend => exact .inr ⟨path, happend⟩
      case h_2 => exact .inl rfl

end Outcome

/-! ## Settling how the journal is shown -/

section Logging

theorem change_run (message : String) (step : FileTree → Except Fault FileTree) (scene : Scene) :
    Act.change message step scene
      = match step scene.files with
        | .ok files => (.ok (), { scene with files })
        | .error fault => (.error (.ofFault message fault), scene) := by
  have hfiles : Act.change message step scene
      = Act.change message (fun _ => step scene.files) scene := rfl
  rw [hfiles]
  cases step scene.files <;> rfl

theorem ensureDirectories_run (l : Location) (scene : Scene) :
    ensureDirectories l scene
      = match (l.ensureDirs scene.files).1 with
        | .ok () => (.ok (), { scene with files := (l.ensureDirs scene.files).2 })
        | .error (path, fault) =>
          (.error (.ofFault ("Failed to create directory: " ++ path) fault),
            { scene with files := (l.ensureDirs scene.files).2 }) := by
  have hboth : ensureDirectories l scene
      = (match (l.ensureDirs scene.files).1 with
        | .ok () => (pure () : Act Unit)
        | .error (path, fault) =>
          throw (Failure.ofFault ("Failed to create directory: " ++ path) fault))
        { scene with files := (l.ensureDirs scene.files).2 } := rfl
  rw [hboth]
  cases (l.ensureDirs scene.files).1 <;> rfl

/-- Lines on the standard error are no more than that. -/
theorem forM_notice_run {α : Type} (act : α → Act Unit) (h : ∀ a, ∃ line, act a = Act.notice line)
    (as : List α) (scene : Scene) :
    ∃ scene', as.forM act scene = (.ok (), scene') ∧ scene'.files = scene.files
      ∧ scene'.host = scene.host ∧ (scene.IsQuiet → scene'.IsQuiet) := by
  induction as generalizing scene with
  | nil => exact ⟨scene, rfl, rfl, rfl, id⟩
  | cons a as ih =>
      obtain ⟨line, hline⟩ := h a
      have hsaid : Act.notice line scene = (.ok (), { scene with
          transcript := scene.transcript ++ [.notice (Text.bytesOf (line ++ "\n"))] }) := rfl
      obtain ⟨scene', hrest, hfiles, hhost, hquiet⟩ := ih { scene with
        transcript := scene.transcript ++ [.notice (Text.bytesOf (line ++ "\n"))] }
      refine ⟨scene', ?_, hfiles, hhost, fun hq => hquiet fun entry hentry => ?_⟩
      · show (act a >>= fun _ => as.forM act) scene = _
        rw [hline]
        exact (bind_run_ok hsaid _).trans hrest
      · rcases List.mem_append.mp hentry with hold | hnew
        · exact hq entry hold
        · rw [List.mem_singleton.mp hnew]
          exact nofun

/-- First it is told what the filter leaves out. Only then the file matters. -/
theorem startLogging_eq (s : Surroundings) (verbose : Bool) (c : Config) (scene : Scene) :
    ∃ filter scene', scene'.files = scene.files ∧ scene'.host = scene.host
      ∧ (scene.IsQuiet → scene'.IsQuiet)
      ∧ startLogging s verbose c scene
        = (if c.settings.logging.file = true then do
            ensureDirectories c.location
            Act.change ("Failed to open log file " ++ c.location.logFile)
              fun files => files.append c.location.logFile []
            modify fun scene => { scene with
              logger := some ⟨filter, c.settings.logging.format, some c.location.logFile⟩ }
          else
            modify fun scene => { scene with
              logger := some ⟨filter, c.settings.logging.format, none⟩ } : Act Unit) scene' := by
  obtain ⟨scene', hrun, hfiles, hhost, hquiet⟩ := forM_notice_run
    (fun x : String × Log.Directive.Refusal =>
      Act.notice s!"ignoring \x60{x.1}\x60: {x.2.message}")
    (fun x => ⟨_, rfl⟩)
    (Log.Filter.choose (s.env.lookup "RUST_LOG") verbose c.settings.logging.level).2 scene
  exact ⟨_, scene', hfiles, hhost, hquiet, bind_run_ok hrun _⟩

/-- **The journal is set up** unless its file is asked for and cannot be. -/
theorem startLogging_run_ok (s : Surroundings) (verbose : Bool) {c : Config} (scene : Scene)
    (h : c.settings.logging.file = true → c.location.CanLog scene.files) :
    ∃ scene', startLogging s verbose c scene = (.ok (), scene')
      ∧ scene.files.Grows scene'.files ∧ scene'.host = scene.host
      ∧ (scene.IsQuiet → scene'.IsQuiet) := by
  obtain ⟨filter, told, hfiles, hhost, hquiet, hrun⟩ := startLogging_eq s verbose c scene
  by_cases hfile : c.settings.logging.file = true
  · -- The directories are prepared, and then the file is opened in what they have become.
    obtain ⟨made, opened, hmade, hopened⟩ := h hfile
    have hensure : ensureDirectories c.location told = (.ok (), { told with files := made }) := by
      rw [ensureDirectories_run, hfiles, hmade]
    have hopen : Act.change ("Failed to open log file " ++ c.location.logFile)
        (fun files => files.append c.location.logFile []) { told with files := made }
          = (.ok (), { told with files := opened }) := by
      rw [change_run, hopened]
    have hgrows : scene.files.Grows made := by
      have hall := Location.ensureAll_grows scene.files
        [c.location.configDir, c.location.stateDir, c.location.logsDir]
      unfold Location.ensureDirs at hmade
      rwa [hmade] at hall
    rw [if_pos hfile] at hrun
    exact ⟨_, hrun.trans ((bind_run_ok hensure _).trans (bind_run_ok hopen _)),
      hgrows.trans (FileTree.append_grows hopened), hhost, hquiet⟩
  · rw [if_neg hfile] at hrun
    exact ⟨_, hrun, hfiles ▸ .refl _, hhost, hquiet⟩

theorem startLogging_run_error (s : Surroundings) (verbose : Bool) {c : Config} (scene : Scene)
    (hfile : c.settings.logging.file = true) (h : ¬ c.location.CanLog scene.files) :
    ∃ failure scene', startLogging s verbose c scene = (.error failure, scene')
      ∧ scene'.host = scene.host := by
  obtain ⟨filter, told, hfiles, hhost, -, hrun⟩ := startLogging_eq s verbose c scene
  rw [if_pos hfile] at hrun
  have hensure := ensureDirectories_run c.location told
  rw [hfiles] at hensure
  rcases hmade : c.location.ensureDirs scene.files with ⟨⟨path, fault⟩ | ⟨⟩, made⟩
  · rw [hmade] at hensure
    exact ⟨_, _, hrun.trans (bind_run_error hensure _), hhost⟩
  rw [hmade] at hensure
  -- With the directories there, it can only be the file that is in the way.
  cases hopened : made.append c.location.logFile [] with
  | ok opened => exact absurd ⟨made, opened, hmade, hopened⟩ h
  | error fault =>
      have hopen := change_run ("Failed to open log file " ++ c.location.logFile)
        (fun files => files.append c.location.logFile []) { told with files := made }
      dsimp only at hopen
      rw [hopened] at hopen
      exact ⟨_, _, hrun.trans ((bind_run_ok hensure _).trans (bind_run_error hopen _)), hhost⟩

end Logging

/-! ## Runs -/

section Runs

variable {s : Surroundings} {files : FileTree} {items : List String} {i : Invocation}

theorem run_of_ok {scene : Scene} (hread : Invocation.read s.env items = .ok i)
    (h : perform s i { files } = (.ok (), scene)) : run s files items = scene.outcome none := by
  have hrun : (perform s i).run { files } = (.ok (), scene) := h
  rw [run, hread]
  dsimp only
  rw [hrun]

theorem run_of_error {scene : Scene} {failure : Failure}
    (hread : Invocation.read s.env items = .ok i)
    (h : perform s i { files } = (.error failure, scene)) :
    run s files items = scene.outcome (some failure) := by
  have hrun : (perform s i).run { files } = (.error failure, scene) := h
  rw [run, hread]
  dsimp only
  rw [hrun]

theorem loadConfig_scene (s : Surroundings) (path : Option String) (scene : Scene) :
    (loadConfig s path scene).2 = scene := by
  cases hresolve : Location.resolve? s.env s.env s.knownHome with
  | none =>
      unfold loadConfig
      rw [hresolve]
      rfl
  | some location =>
      rw [Preferences.loadConfig_run path hresolve]
      cases Config.load scene.files location path <;> rfl

/-- **Settings that cannot be loaded** make every command fail, and no file is touched. -/
theorem run_of_not_loaded {failure : Failure} (hread : Invocation.read s.env items = .ok i)
    (h : (loadConfig s i.config { files }).1 = .error failure) :
    (run s files items).status = some 1 ∧ (run s files items).files = files := by
  have hload : loadConfig s i.config { files } = (.error failure, { files }) :=
    Prod.ext h (loadConfig_scene s i.config { files })
  rw [run_of_error hread (bind_run_error hload _), outcome_of_idle rfl]
  exact ⟨rfl, rfl⟩

end Runs

end Program

end Confine

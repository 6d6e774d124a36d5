import Confine.Machine.Amd64
import Confine.Program.Run
import Confine.Proofs.Program.Act
import Confine.Proofs.Settings.Assignment
import Confine.Proofs.Settings.Store

set_option autoImplicit false

/-! # Settings last

Each command on settings loads the file anew, so whatever one command leaves behind for the next has
to be in the file. `Keeps` says that nothing gets lost on the way: what is loaded from the file are
certain settings, and the file can be written. A command turns them into other settings, and from
this it follows by induction what a key shows after a whole course of commands: the value that was
last given to it, since the file was last created anew, and else the default or what the file
showed at first (`answerAll_latest`).
-/

namespace Confine.Program

/-! ## Acts on settings -/

section Acts

variable {α β : Type} {act : Act α} {scene scene' : Scene}

theorem ofSettings_run_ok {result : Except Settings.Error α} {value : α}
    (h : result = .ok value) (scene : Scene) : ofSettings result scene = (.ok value, scene) := by
  rw [h]
  rfl

theorem ofSettings_run_error {result : Except Settings.Error α} {cause : Settings.Error}
    (h : result = .error cause) (scene : Scene) :
    ofSettings result scene = (.error { message := cause.message }, scene) := by
  rw [h]
  rfl

/-- Saving that succeeds changes the files and nothing else. -/
theorem save_run_ok {step : FileTree → Except Fault Unit × FileTree} {files : FileTree}
    (h : step scene.files = (.ok (), files)) : save step scene = (.ok (), { scene with files }) := by
  -- The step is taken on the files of the scene and on no others.
  have hfiles : save step scene = save (fun _ => step scene.files) scene := rfl
  rw [hfiles, h]
  rfl

theorem createSource_eq (c : Config) (force : Bool) (scene : Scene) :
    createSource c force scene
      = (if (scene.files.exists? c.source && !force) = true then
          Act.fail s!"Config file already exists at {c.source}. Use --force to overwrite."
        else do
          save c.saveTemplate
          Act.print ("Created config file at " ++ c.source) : Act Unit) scene :=
  rfl

/-- A file that is there is not replaced without permission. -/
theorem createSource_run_refused (c : Config) {force : Bool}
    (h : (scene.files.exists? c.source && !force) = true) :
    ∃ failure, createSource c force scene = (.error failure, scene) := by
  rw [createSource_eq, if_pos h]
  exact ⟨_, rfl⟩

theorem createSource_run_ok (c : Config) {force : Bool}
    (h : (scene.files.exists? c.source && !force) = false)
    (hsave : save c.saveTemplate scene = (.ok (), scene')) :
    createSource c force scene
      = (.ok (), { scene' with
          transcript := scene'.transcript
            ++ [.output (Text.bytesOf ("Created config file at " ++ c.source ++ "\n"))] }) := by
  rw [createSource_eq, if_neg (by rw [h]; exact Bool.false_ne_true)]
  exact bind_run_ok hsave _

end Acts

namespace Preferences

/-! ## Requests -/

/-- A request about settings. -/
inductive Request where
  /-- Show a setting. -/
  | get (key : String)
  /-- Change a setting. -/
  | set (key value : String)
  /-- Create the file, or replace it if this is permitted. -/
  | init (force : Bool)

/-- The command for a request. -/
def Request.command : Request → Command
  | .get key => .getSetting key
  | .set key value => .setSetting key value
  | .init force => .createSource force

/-- Answer a request: load the settings, and carry out the command. The journal is left out, which
has a file of its own. -/
def answer (s : Surroundings) (path : Option String) (files : FileTree) (r : Request) :
    Except Failure Unit × Scene :=
  (do carryOut s (← loadConfig s path) r.command : Act Unit).run { files }

/-- A request, and how it ended. -/
structure Turn where
  /-- The request. -/
  request : Request
  /-- How it ended. -/
  result : Except Failure Unit

/-- Answer requests one after another, each with the files that the one before has left. -/
def answerAll (s : Surroundings) (path : Option String) (files : FileTree) :
    List Request → List Turn × FileTree
  | [] => ([], files)
  | r :: rest =>
    let (result, scene) := answer s path files r
    let (turns, files) := answerAll s path scene.files rest
    (⟨r, result⟩ :: turns, files)

theorem answerAll_cons (s : Surroundings) (path : Option String) (files : FileTree) (r : Request)
    (rest : List Request) :
    answerAll s path files (r :: rest)
      = (⟨r, (answer s path files r).1⟩
            :: (answerAll s path (answer s path files r).2.files rest).1,
          (answerAll s path (answer s path files r).2.files rest).2) :=
  rfl

/-- A line on the standard output. -/
def printed (line : String) : List Entry :=
  [.output (Text.bytesOf (line ++ "\n"))]

/-! ## The law -/

/-- What a turn gives to a key: the canonical form of a value, or the default for a new file. A turn
that failed gives nothing. -/
def Turn.gives (k : Settings.Key) (turn : Turn) : Option String :=
  match turn.result, turn.request with
  | .ok (), .set key value => if key = k.path then some (k.canonical value) else none
  | .ok (), .init _ => some (({} : Settings).render k)
  | _, _ => none

/-- **The latest value** that some turns have given to a key, which had another one before. -/
def latest (k : Settings.Key) (first : String) (turns : List Turn) : String :=
  (turns.reverse.findSome? (Turn.gives k)).getD first

theorem latest_cons (k : Settings.Key) (first : String) (turn : Turn) (turns : List Turn) :
    latest k first (turn :: turns) = latest k ((turn.gives k).getD first) turns := by
  unfold latest
  rw [List.reverse_cons, List.findSome?_append]
  cases turns.reverse.findSome? (Turn.gives k) with
  | some value => rfl
  | none =>
      show ([turn].findSome? (Turn.gives k)).getD first = (turn.gives k).getD first
      rw [List.findSome?_singleton]

/-- **The requests that are granted**: for a key that there is, to a text that the key takes, and to
create a file that is not there, or with permission to replace it. -/
def Request.IsGranted (there : Bool) : Request → Prop
  | .get key => ∃ k : Settings.Key, key = k.path
  | .set key value => ∃ k : Settings.Key, key = k.path ∧ k.Admits value
  | .init force => force = true ∨ there = false

/-! ## One request -/

section Keeps

variable {s : Surroundings} {path : Option String} {location : Location} {source : String}
  {files : FileTree} {settings : Settings}

/-- **The file keeps the settings.** -/
structure Keeps (s : Surroundings) (path : Option String) (location : Location) (source : String)
    (files : FileTree) (settings : Settings) : Prop where
  resolve : Location.resolve? s.env s.env s.knownHome = some location
  named : source = path.getD location.configFile
  load : Config.load files location path = .ok { location, source, settings }
  writable : files.IsWritable source

theorem loadConfig_run (path : Option String)
    (h : Location.resolve? s.env s.env s.knownHome = some location) (scene : Scene) :
    loadConfig s path scene
      = match Config.load scene.files location path with
        | .ok config => (.ok config, scene)
        | .error cause => (.error ⟨cause.message, cause.causes⟩, scene) := by
  unfold loadConfig
  rw [h]
  show (match Config.load scene.files location path with
    | .ok config => (pure config : Act Config)
    | .error cause => throw (Failure.mk cause.message cause.causes)) scene = _
  cases Config.load scene.files location path <;> rfl

namespace Keeps

/-- The settings are loaded, and the command is carried out with them. -/
theorem answer_eq (h : Keeps s path location source files settings) (r : Request) :
    answer s path files r = carryOut s { location, source, settings } r.command { files } := by
  have hload := loadConfig_run path h.resolve { files }
  rw [h.load] at hload
  exact bind_run_ok hload fun config => carryOut s config r.command

/-! ### Showing -/

theorem answer_get (h : Keeps s path location source files settings) (k : Settings.Key) :
    answer s path files (.get k.path)
      = (.ok (), { files, transcript := printed (settings.render k) }) := by
  have hget : settings.get k.path = .ok (settings.render k) := by
    unfold Settings.get
    rw [Settings.Key.ofPath?_path]
  rw [h.answer_eq]
  exact bind_run_ok (ofSettings_run_ok hget { files }) Act.print

theorem answer_get_refused (h : Keeps s path location source files settings) {key : String}
    (hkey : Settings.Key.ofPath? key = none) :
    ∃ failure, answer s path files (.get key) = (.error failure, { files }) := by
  have hget : settings.get key = .error (.unknownKey key) := by
    unfold Settings.get
    rw [hkey]
  rw [h.answer_eq]
  exact ⟨_, bind_run_error (ofSettings_run_error hget { files }) Act.print⟩

/-! ### Changing -/

/-- Settings that were saved are kept. -/
theorem of_saved {settings' : Settings} {text : String} {files' : FileTree}
    (h : Keeps s path location source files settings)
    (hsaved : files'.exists? source = true ∧ files'.readText source = .ok text
      ∧ files'.IsWritable source) (hparse : Settings.parse? text = some settings') :
    Keeps s path location source files' settings' := by
  obtain ⟨hresolve, rfl, -, -⟩ := h
  obtain ⟨hexists, hread, hwritable⟩ := hsaved
  exact ⟨hresolve, rfl, Config.load_of_readText hexists hread hparse, hwritable⟩

theorem answer_set (h : Keeps s path location source files settings) {key value : String}
    {settings' : Settings} (hset : settings.set key value = .ok settings') :
    ∃ scene, answer s path files (.set key value) = (.ok (), scene)
      ∧ Keeps s path location source scene.files settings' := by
  obtain ⟨files', hwrite, hsaved⟩ := Config.writeSource_spec
    { location, source, settings := settings' } h.writable settings'.toToml
  have hsave : save ({ location, source, settings := settings' } : Config).save { files }
      = (.ok (), { files := files' }) := save_run_ok hwrite
  rw [h.answer_eq]
  exact ⟨_, (bind_run_ok (ofSettings_run_ok hset { files }) _).trans (bind_run_ok hsave _),
    h.of_saved hsaved (Settings.parse?_toToml settings')⟩

theorem answer_set_refused (h : Keeps s path location source files settings) {key value : String}
    {cause : Settings.Error} (hset : settings.set key value = .error cause) :
    ∃ failure, answer s path files (.set key value) = (.error failure, { files }) := by
  rw [h.answer_eq]
  exact ⟨_, bind_run_error (ofSettings_run_error hset { files }) _⟩

/-! ### Creating the file -/

theorem answer_init (h : Keeps s path location source files settings) {force : Bool}
    (hforce : force = true ∨ files.exists? source = false) :
    ∃ scene, answer s path files (.init force) = (.ok (), scene)
      ∧ Keeps s path location source scene.files {} := by
  obtain ⟨files', hwrite, hsaved⟩ := Config.writeSource_spec
    { location, source, settings } h.writable Settings.template
  have hkeeps := h.of_saved hsaved Settings.parse?_template
  have hsave : save ({ location, source, settings } : Config).saveTemplate { files }
      = (.ok (), { files := files' }) := save_run_ok hwrite
  have hfree : (files.exists? source && !force) = false := by
    rcases hforce with rfl | hnone
    · rw [Bool.not_true, Bool.and_false]
    · rw [hnone, Bool.false_and]
  rw [h.answer_eq]
  exact ⟨_, createSource_run_ok { location, source, settings } hfree hsave, hkeeps⟩

theorem answer_init_refused (h : Keeps s path location source files settings) {force : Bool}
    (hforce : ¬ (force = true ∨ files.exists? source = false)) :
    ∃ failure, answer s path files (.init force) = (.error failure, { files }) := by
  have htaken : (files.exists? source && !force) = true := by
    rw [not_or, Bool.not_eq_true, Bool.not_eq_false] at hforce
    rw [hforce.1, hforce.2]
    rfl
  rw [h.answer_eq]
  exact createSource_run_refused { location, source, settings } htaken

/-! ### One request -/

theorem set_eq_ok {key value : String} {settings' : Settings}
    (hset : settings.set key value = .ok settings') :
    ∃ k, key = k.path ∧ settings.assign k value = .ok settings' := by
  unfold Settings.set at hset
  split at hset
  case h_1 k hkey => exact ⟨k, (Settings.Key.path_of_ofPath? hkey).symm, hset⟩
  case h_2 => nomatch hset

/-- **A request that is granted** succeeds. The file keeps the settings after it, and they show what
the turn has given to a key, or else what they showed. -/
theorem answer_granted (h : Keeps s path location source files settings) {r : Request}
    (hr : r.IsGranted (files.exists? source)) :
    ∃ scene settings', answer s path files r = (.ok (), scene)
      ∧ Keeps s path location source scene.files settings'
      ∧ ∀ k, settings'.render k = ((Turn.mk r (.ok ())).gives k).getD (settings.render k) := by
  cases r with
  | get key =>
      obtain ⟨k, rfl⟩ := hr
      exact ⟨_, settings, h.answer_get k, h, fun _ => rfl⟩
  | set key value =>
      obtain ⟨k', rfl, hadmits⟩ := hr
      obtain ⟨settings', hassign⟩ := settings.assign_of_admits hadmits
      have hset : settings.set k'.path value = .ok settings' := by
        unfold Settings.set
        rw [Settings.Key.ofPath?_path]
        exact hassign
      obtain ⟨scene, hanswer, hkeeps⟩ := h.answer_set hset
      refine ⟨scene, settings', hanswer, hkeeps, fun k => ?_⟩
      show _ = (if k'.path = k.path then some (k.canonical value) else none).getD _
      by_cases hk : k = k'
      · subst hk
        rw [if_pos rfl]
        exact (Settings.render_of_assign hassign).2
      · rw [if_neg fun hpath => hk (Settings.Key.path_injective hpath.symm)]
        exact Settings.render_of_assign_ne hassign hk
  | init force =>
      obtain ⟨scene, hanswer, hkeeps⟩ := h.answer_init hr
      exact ⟨scene, {}, hanswer, hkeeps, fun _ => rfl⟩

/-- **A request that is not granted** fails, and all files are as before. -/
theorem answer_refused (h : Keeps s path location source files settings) {r : Request}
    (hr : ¬ r.IsGranted (files.exists? source)) :
    ∃ failure, answer s path files r = (.error failure, { files }) := by
  cases r with
  | get key =>
      cases hkey : Settings.Key.ofPath? key with
      | none => exact h.answer_get_refused hkey
      | some k => exact absurd ⟨k, (Settings.Key.path_of_ofPath? hkey).symm⟩ hr
  | set key value =>
      cases hset : settings.set key value with
      | error cause => exact h.answer_set_refused hset
      | ok settings' =>
          obtain ⟨k, hkey, hassign⟩ := set_eq_ok hset
          exact absurd ⟨k, hkey, (Settings.render_of_assign hassign).1⟩ hr
  | init force => exact h.answer_init_refused hr

theorem answer_ok_iff (h : Keeps s path location source files settings) (r : Request) :
    (answer s path files r).1 = .ok () ↔ r.IsGranted (files.exists? source) := by
  by_cases hr : r.IsGranted (files.exists? source)
  · obtain ⟨scene, settings', hanswer, -⟩ := h.answer_granted hr
    rw [hanswer]
    exact ⟨fun _ => hr, fun _ => rfl⟩
  · obtain ⟨failure, hanswer⟩ := h.answer_refused hr
    rw [hanswer]
    exact ⟨nofun, fun hyes => absurd hyes hr⟩

/-- **What a request leaves behind**, whether it is granted or not. -/
theorem answer_keeps (h : Keeps s path location source files settings) (r : Request) :
    ∃ settings', Keeps s path location source (answer s path files r).2.files settings'
      ∧ ∀ k, settings'.render k
          = ((Turn.mk r (answer s path files r).1).gives k).getD (settings.render k) := by
  by_cases hr : r.IsGranted (files.exists? source)
  · obtain ⟨scene, settings', hanswer, hkeeps⟩ := h.answer_granted hr
    rw [hanswer]
    exact ⟨settings', hkeeps⟩
  · obtain ⟨failure, hanswer⟩ := h.answer_refused hr
    rw [hanswer]
    exact ⟨settings, h, fun k => rfl⟩

theorem files_of_failed (h : Keeps s path location source files settings) {r : Request}
    {failure : Failure} (hfailed : (answer s path files r).1 = .error failure) :
    (answer s path files r).2.files = files := by
  have hr : ¬ r.IsGranted (files.exists? source) := by
    intro hr
    rw [(h.answer_ok_iff r).mpr hr] at hfailed
    nomatch hfailed
  obtain ⟨failure, hanswer⟩ := h.answer_refused hr
  rw [hanswer]

/-! ### A course of requests -/

/-- **What requests leave behind**: settings that show the latest value of every key. -/
theorem answerAll_keeps (h : Keeps s path location source files settings)
    (requests : List Request) :
    ∃ settings', Keeps s path location source (answerAll s path files requests).2 settings'
      ∧ ∀ k, settings'.render k
          = latest k (settings.render k) (answerAll s path files requests).1 := by
  -- By induction on the requests, for all files that keep some settings: the first request
  -- leaves such files behind again.
  induction requests generalizing files settings with
  | nil => exact ⟨settings, h, fun k => rfl⟩
  | cons r rest ih =>
      obtain ⟨between, hbetween, hshows⟩ := h.answer_keeps r
      obtain ⟨settings', hkeeps, hlatest⟩ := ih hbetween
      rw [answerAll_cons]
      refine ⟨settings', hkeeps, fun k => ?_⟩
      calc settings'.render k
          = latest k (between.render k) _ := hlatest k
        _ = latest k ((Turn.gives k ⟨r, (answer s path files r).1⟩).getD (settings.render k)) _ := by
            rw [hshows k]
        _ = latest k (settings.render k) (_ :: _) := (latest_cons k _ _ _).symm

end Keeps

/-- Whatever was loaded from a file that can be written is kept in it. -/
theorem keeps_of_loadConfig {c : Config} {scene : Scene}
    (h : loadConfig s path { files } = (.ok c, scene)) (hwritable : files.IsWritable c.source) :
    Keeps s path c.location c.source files c.settings
      ∧ ∀ k, c.settings.render k = Config.shown files c.source k := by
  cases hresolve : Location.resolve? s.env s.env s.knownHome with
  | none =>
      unfold loadConfig at h
      rw [hresolve] at h
      nomatch h
  | some location =>
      rw [loadConfig_run path hresolve] at h
      split at h
      case h_1 config hload =>
        cases h
        have hshown := fun k => Config.render_of_load hload k
        obtain ⟨hsource, hlocation, -⟩ := hshown .mode
        subst hlocation
        exact ⟨⟨hresolve, hsource, hload, hwritable⟩, fun k => (hshown k).2.2⟩
      case h_2 => nomatch h

end Keeps

/-- **The file is a store of settings.** Let it be absent or hold something that can be loaded, and
let it be possible to write it; then let there be any requests, each of which loads it anew. After
them a key shows the canonical form of the latest value that was given to it since the file was last
created anew; if there is none, the default if it was created anew, and else what the file showed at
first, which is the default if there was no file or no entry for the key. A request succeeds exactly
if it is granted: for a key that there is, a text that the key takes, a file that is not there or
may be replaced. If it fails all files are as they were, and a change of one key does not change
what another one shows. -/
theorem answerAll_latest {s : Surroundings} {path : Option String} {files : FileTree} {c : Config}
    {scene : Scene} (hload : loadConfig s path { files } = (.ok c, scene))
    (hwritable : files.IsWritable c.source) (requests : List Request) :
    let turns := (answerAll s path files requests).1
    let now := (answerAll s path files requests).2
    (∀ k : Settings.Key, answer s path now (.get k.path)
        = (.ok (), { files := now,
                     transcript := printed (latest k (Config.shown files c.source k) turns) }))
      ∧ (∀ r, (answer s path now r).1 = .ok () ↔ r.IsGranted (now.exists? c.source))
      ∧ (∀ r failure, (answer s path now r).1 = .error failure →
          (answer s path now r).2.files = now)
      ∧ ∀ (k k' : Settings.Key) value, k' ≠ k →
          (answer s path (answer s path now (.set k.path value)).2.files (.get k'.path)).2.transcript
            = (answer s path now (.get k'.path)).2.transcript := by
  obtain ⟨hkeeps, hshown⟩ := keeps_of_loadConfig hload hwritable
  obtain ⟨settings, hnow, hlatest⟩ := hkeeps.answerAll_keeps requests
  refine ⟨fun k => ?_, hnow.answer_ok_iff, fun r failure => hnow.files_of_failed, ?_⟩
  · rw [hnow.answer_get k, hlatest k, hshown k]
  · intro k k' value hk
    obtain ⟨settings', hafter, hshows⟩ := hnow.answer_keeps (.set k.path value)
    -- Whether the change is granted or not, it gives nothing to the other key.
    have hother : ∀ result, (Turn.mk (.set k.path value) result).gives k' = none := by
      intro result
      cases result with
      | error failure => rfl
      | ok u => exact if_neg fun hpath => hk (Settings.Key.path_injective hpath.symm)
    rw [hafter.answer_get k', hnow.answer_get k', hshows k', hother]
    rfl

/-- A user with a home directory. -/
def atHome : Surroundings where
  machine := Machine.Amd64.host
  env := [("HOME", "/home/user")]
  knownHome := none

/-- Where there is no file at first, a number that was given with leading zeros is shown without. -/
theorem answerAll_latest_of_numeral :
    (∃ c scene, loadConfig atHome (some "conf/config.toml") { files := {} } = (.ok c, scene)
        ∧ FileTree.IsWritable {} c.source)
      ∧ (answer atHome (some "conf/config.toml")
            (answerAll atHome (some "conf/config.toml") {} [.set "sandbox.max_files" "007"]).2
            (.get "sandbox.max_files")).2.transcript = printed "7" := by
  obtain ⟨c, scene, hload, hsource⟩ : ∃ c scene,
      loadConfig atHome (some "conf/config.toml") { files := {} } = (.ok c, scene)
        ∧ c.source = "conf/config.toml" := ⟨_, _, rfl, rfl⟩
  have hwritable : FileTree.IsWritable {} c.source := hsource ▸ ⟨_, _, _, _, rfl, rfl⟩
  have hset : (answer atHome (some "conf/config.toml") {} (.set "sandbox.max_files" "007")).1
      = .ok () :=
    ((answerAll_latest hload hwritable []).2.1 _).mpr
      ⟨.maxFiles, rfl, by decide, List.all_eq_true.mp rfl, by decide⟩
  have hturns : (answerAll atHome (some "conf/config.toml") {}
      [.set "sandbox.max_files" "007"]).1 = [⟨.set "sandbox.max_files" "007", .ok ()⟩] := by
    rw [answerAll_cons, answerAll, hset]
  have hlatest : ∀ first,
      latest .maxFiles first [⟨.set "sandbox.max_files" "007", .ok ()⟩] = "7" := fun _ => rfl
  have hpath : Settings.Key.maxFiles.path = "sandbox.max_files" := rfl
  have hget := (answerAll_latest hload hwritable [.set "sandbox.max_files" "007"]).1 .maxFiles
  rw [hturns, hlatest, hpath] at hget
  refine ⟨⟨c, scene, hload, hwritable⟩, ?_⟩
  rw [hget]

end Preferences

end Confine.Program

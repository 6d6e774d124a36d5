import Confine.Proofs.Program.Run

set_option autoImplicit false

/-! # Replacing the file of the settings

The flag of the command that creates the file of the settings permits to replace it. But the command
is carried out only after the file has been loaded and the journal has been set up as the file says.
So the file is replaced exactly if it reads as settings and these do not ask for a journal that
cannot be had (`createSource_restores_iff`), and a file that has to be replaced because it does not
read as settings stays as it is.
-/

namespace Confine

/-! ## Loading a file by its bytes -/

namespace FileTree

variable {t t' : FileTree} {source : String}

theorem exists?_of_readBytes {bytes : List UInt8} (h : t.readBytes source = .ok bytes) :
    t.exists? source = true := by
  unfold readBytes at h
  unfold exists?
  generalize t.locate source = located at h ⊢
  rcases located with fault | ⟨place, _ | node⟩
  · nomatch h
  · nomatch h
  · rfl

/-- What is read depends on no more than what is located. -/
theorem readText_of_locate (h : t'.locate source = t.locate source) :
    t'.readText source = t.readText source ∧ t'.exists? source = t.exists? source := by
  unfold readText readBytes exists?
  rw [h]
  exact ⟨rfl, rfl⟩

end FileTree

namespace Config

variable {t : FileTree} {location : Location} {path : Option String} {bytes : List UInt8}

theorem load_of_parse {settings : Settings}
    (hbytes : t.readBytes (path.getD location.configFile) = .ok bytes)
    (hparse : (Text.ofBytes? bytes).bind Settings.parse? = some settings) :
    load t location path = .ok { location, source := path.getD location.configFile, settings } := by
  obtain ⟨text, htext, hsettings⟩ := Option.bind_eq_some_iff.mp hparse
  refine load_of_readText (FileTree.exists?_of_readBytes hbytes) ?_ hsettings
  rw [FileTree.readText, hbytes]
  dsimp only
  rw [htext]

theorem load_of_not_parse (hbytes : t.readBytes (path.getD location.configFile) = .ok bytes)
    (hparse : (Text.ofBytes? bytes).bind Settings.parse? = none) :
    ∃ cause, load t location path = .error cause := by
  unfold load FileTree.readText
  dsimp only
  rw [if_pos (FileTree.exists?_of_readBytes hbytes), hbytes]
  dsimp only
  cases htext : Text.ofBytes? bytes with
  | none => exact ⟨_, rfl⟩
  | some text =>
      rw [htext, Option.bind_some] at hparse
      dsimp only
      rw [hparse]
      exact ⟨_, rfl⟩

end Config

namespace Program

/-! ## Restoring the defaults -/

/-- The file that settings are loaded from: the one that is asked for, or else the one in the
program's directory. -/
def Surroundings.source? (s : Surroundings) (path : Option String) : Option String :=
  path.or ((Location.resolve? s.env s.env s.knownHome).map Location.configFile)

theorem Surroundings.source?_eq {s : Surroundings} {path : Option String} {source : String}
    {location : Location} (hsource : s.source? path = some source)
    (hresolve : Location.resolve? s.env s.env s.knownHome = some location) :
    source = path.getD location.configFile := by
  unfold source? at hsource
  rw [hresolve] at hsource
  cases path with
  | none => exact (Option.some.inj hsource).symm
  | some file => exact (Option.some.inj hsource).symm

/-- **A run restores the defaults**: it succeeds, the file holds the commented defaults afterwards,
and whoever loads the settings next gets the default ones. -/
def Restores (s : Surroundings) (files : FileTree) (items : List String) (path : Option String)
    (source : String) : Prop :=
  (run s files items).status = some 0
    ∧ (run s files items).files.readText source = .ok Settings.template
    ∧ ∃ c, (loadConfig s path { files := (run s files items).files }).1 = .ok c
        ∧ c.settings = {}

section

variable {s : Surroundings} {files : FileTree} {items : List String} {i : Invocation}
  {location : Location} {source : String} {bytes : List UInt8} {settings : Settings}

/-- With the settings loaded and the journal set up, nothing is in the way. -/
theorem perform_createSource {c : Config} {place : List String}
    {permissions : Nat} (hcommand : i.command = .createSource true)
    (hload : loadConfig s i.config { files } = (.ok c, { files }))
    (hlog : c.settings.logging.file = true → c.location.CanLog files)
    (hfile : files.locate c.source = .ok (place, some (.file permissions bytes))) :
    ∃ scene, perform s i { files } = (.ok (), scene) ∧ scene.host = none ∧ scene.IsQuiet
      ∧ scene.files.exists? c.source = true
      ∧ scene.files.readText c.source = .ok Settings.template
      ∧ scene.files.IsWritable c.source := by
  obtain ⟨logged, hstart, hgrows, hhost, hquiet⟩ :=
    startLogging_run_ok s i.verbose { files } hlog
  obtain ⟨restored, hwrite, hrestored⟩ := Config.writeSource_spec c
    (FileTree.isWritable_of_grows hfile hgrows) Settings.template
  have hforced : (logged.files.exists? c.source && !true) = false := Bool.and_false _
  have hcreate := createSource_run_ok c hforced (save_run_ok hwrite)
  refine ⟨{ logged with files := restored, transcript := logged.transcript
    ++ [.output (Text.bytesOf ("Created config file at " ++ c.source ++ "\n"))] },
    ?_, hhost, ?_, hrestored⟩
  · calc perform s i { files }
        = (do startLogging s i.verbose c; carryOut s c i.command : Act Unit) { files } :=
          bind_run_ok hload _
      _ = carryOut s c i.command logged := bind_run_ok hstart _
      _ = createSource c true logged := by rw [hcommand]; rfl
      _ = _ := hcreate
  · intro entry hentry
    rcases List.mem_append.mp hentry with hold | hnew
    · exact hquiet (fun _ hnone => nomatch hnone) entry hold
    · rw [List.mem_singleton.mp hnew]
      exact nofun

theorem loadConfig_run_ok (hresolve : Location.resolve? s.env s.env s.knownHome = some location)
    (hsource : source = i.config.getD location.configFile)
    (hbytes : files.readBytes source = .ok bytes)
    (hparse : (Text.ofBytes? bytes).bind Settings.parse? = some settings) :
    loadConfig s i.config { files } = (.ok { location, source, settings }, { files }) := by
  subst hsource
  rw [Preferences.loadConfig_run i.config hresolve, Config.load_of_parse hbytes hparse]

/-- What cannot be loaded makes the run fail. -/
theorem run_of_not_parse (hread : Invocation.read s.env items = .ok i)
    (hsource : s.source? i.config = some source) (hbytes : files.readBytes source = .ok bytes)
    (h : ¬ ∃ location settings, Location.resolve? s.env s.env s.knownHome = some location
      ∧ (Text.ofBytes? bytes).bind Settings.parse? = some settings) :
    (run s files items).status = some 1 ∧ (run s files items).files = files := by
  obtain ⟨failure, hload⟩ : ∃ failure,
      (loadConfig s i.config { files }).1 = .error failure := by
    cases hresolve : Location.resolve? s.env s.env s.knownHome with
    | none =>
        unfold loadConfig
        rw [hresolve]
        exact ⟨_, rfl⟩
    | some location =>
        have hparse : (Text.ofBytes? bytes).bind Settings.parse? = none :=
          Option.eq_none_iff_forall_not_mem.mpr fun settings hsome =>
            h ⟨location, settings, hresolve, hsome⟩
        rw [Surroundings.source?_eq hsource hresolve] at hbytes
        obtain ⟨cause, hcause⟩ := Config.load_of_not_parse hbytes hparse
        rw [Preferences.loadConfig_run i.config hresolve, hcause]
        exact ⟨_, rfl⟩
  exact run_of_not_loaded hread hload

theorem restores_of_loaded (hread : Invocation.read s.env items = .ok i)
    (hcommand : i.command = .createSource true)
    (hresolve : Location.resolve? s.env s.env s.knownHome = some location)
    (hsource : source = i.config.getD location.configFile)
    (hbytes : files.readBytes source = .ok bytes) (hwritable : files.IsWritable source)
    (hparse : (Text.ofBytes? bytes).bind Settings.parse? = some settings)
    (hlog : settings.logging.file = true → location.CanLog files) :
    Restores s files items i.config source := by
  have hload := loadConfig_run_ok hresolve hsource hbytes hparse
  obtain ⟨place, permissions, old, hfile⟩ :=
    hwritable.locate (FileTree.exists?_of_readBytes hbytes)
  obtain ⟨scene, hperform, hhost, hquiet, hexists, htext, hfree⟩ :=
    perform_createSource hcommand hload hlog hfile
  have hrun := run_of_ok hread hperform
  rw [outcome_of_idle hhost] at hrun
  -- Nothing was noted in the journal, which could even be kept in the same file.
  have hfinal : scene.finalFiles.readText source = .ok Settings.template
      ∧ scene.finalFiles.exists? source = true := by
    rcases finalFiles_of_quiet hquiet with heq | ⟨path, happend⟩
    · rw [heq]
      exact ⟨htext, hexists⟩
    · obtain ⟨_, _, _, hlocate⟩ := hfree.locate hexists
      have hkept := (FileTree.locate_of_append_nil happend hlocate).trans hlocate.symm
      obtain ⟨hread', hexists'⟩ := FileTree.readText_of_locate hkept
      exact ⟨hread'.trans htext, hexists'.trans hexists⟩
  have hnext : loadConfig s i.config { files := scene.finalFiles }
      = (.ok { location, source, settings := {} }, { files := scene.finalFiles }) := by
    subst hsource
    rw [Preferences.loadConfig_run i.config hresolve,
      Config.load_of_readText hfinal.2 hfinal.1 Settings.parse?_template]
  rw [Restores, hrun]
  exact ⟨rfl, hfinal.1, _, congrArg Prod.fst hnext, rfl⟩

/-- **Whether the defaults are restored** by the command that creates the file of the settings and
may replace it, where there is a file that can be read and written. They are exactly if there is a
home directory, the file reads as settings, and the journal can be set up if these settings ask for
a file of it. A file that does not read as settings is not replaced: the run fails and touches
nothing. -/
theorem createSource_restores_iff (hread : Invocation.read s.env items = .ok i)
    (hcommand : i.command = .createSource true) (hsource : s.source? i.config = some source)
    (hbytes : files.readBytes source = .ok bytes) (hwritable : files.IsWritable source) :
    (Restores s files items i.config source
        ↔ ∃ location settings, Location.resolve? s.env s.env s.knownHome = some location
          ∧ (Text.ofBytes? bytes).bind Settings.parse? = some settings
          ∧ (settings.logging.file = true → location.CanLog files))
      ∧ ((Text.ofBytes? bytes).bind Settings.parse? = none →
          (run s files items).status = some 1 ∧ (run s files items).files = files) := by
  have hfails : (run s files items).status = some 1 →
      ¬ Restores s files items i.config source := by
    rintro hone ⟨hzero, -⟩
    rw [hone] at hzero
    exact absurd hzero (by decide)
  constructor
  · constructor
    · intro hrestores
      -- Each way to stop before the command is carried out ends with a failure.
      by_cases hloads : ∃ location settings,
          Location.resolve? s.env s.env s.knownHome = some location
            ∧ (Text.ofBytes? bytes).bind Settings.parse? = some settings
      · obtain ⟨location, settings, hresolve, hparse⟩ := hloads
        refine ⟨location, settings, hresolve, hparse, fun hfile => ?_⟩
        by_contra hlog
        have hload := loadConfig_run_ok hresolve (Surroundings.source?_eq hsource hresolve)
          hbytes hparse
        obtain ⟨failure, scene, hstart, hhost⟩ :=
          startLogging_run_error (c := { location, source, settings }) s i.verbose { files } hfile hlog
        refine hfails ?_ hrestores
        rw [run_of_error hread ((bind_run_ok hload _).trans (bind_run_error hstart _)),
          outcome_of_idle hhost]
        rfl
      · exact absurd hrestores (hfails (run_of_not_parse hread hsource hbytes hloads).1)
    · rintro ⟨location, settings, hresolve, hparse, hlog⟩
      exact restores_of_loaded hread hcommand hresolve (Surroundings.source?_eq hsource hresolve)
        hbytes hwritable hparse hlog
  · intro hparse
    refine run_of_not_parse hread hsource hbytes ?_
    rintro ⟨_, _, -, hsome⟩
    nomatch hparse.symm.trans hsome

end

/-! ### Two files -/

/-- Nothing but a file of settings in the root directory. -/
def treeWith (text : String) : FileTree :=
  { root := [("config.toml", .file 0o644 (Text.bytesOf text))] }

theorem locate_treeWith (text : String) :
    (treeWith text).locate "config.toml"
      = .ok (["config.toml"], some (.file 0o644 (Text.bytesOf text))) :=
  rfl

theorem readBytes_treeWith (text : String) :
    (treeWith text).readBytes "config.toml" = .ok (Text.bytesOf text) :=
  rfl

/-- A command line that asks to replace it. -/
def replacing : List String :=
  ["-c", "config.toml", "config", "init", "--force"]

/-- What it asks for. -/
def replacement : Invocation where
  verbose := false
  config := some "config.toml"
  command := .createSource true

theorem read_replacing : Invocation.read Preferences.atHome.env replacing = .ok replacement :=
  rfl

/-- A file that sets something is replaced. -/
theorem createSource_restores_iff_of_settings :
    Restores Preferences.atHome (treeWith "[sandbox]\nmax_files = 3\n") replacing
      (some "config.toml") "config.toml" := by
  have hparse : Settings.parse? "[sandbox]\nmax_files = 3\n"
      = some { sandbox := { limits := { maxFiles := 3 } } } := by decide +kernel
  have hloads : (Text.ofBytes? (Text.bytesOf "[sandbox]\nmax_files = 3\n")).bind Settings.parse?
      = some { sandbox := { limits := { maxFiles := 3 } } } := by
    rw [Text.ofBytes?_bytesOf, Option.bind_some, hparse]
  have hiff := (createSource_restores_iff read_replacing rfl rfl
    (readBytes_treeWith "[sandbox]\nmax_files = 3\n")
    (FileTree.isWritable_of_locate (locate_treeWith _))).1
  exact hiff.mpr ⟨_, _, rfl, hloads, nofun⟩

/-- **A file with a bracket left open is not replaced**, though it can be read and written. -/
theorem createSource_restores_fails :
    Invocation.read Preferences.atHome.env replacing = .ok replacement
      ∧ replacement.command = .createSource true
      ∧ (treeWith "[sandbox\n").readBytes "config.toml" = .ok (Text.bytesOf "[sandbox\n")
      ∧ (treeWith "[sandbox\n").IsWritable "config.toml"
      ∧ ¬ Restores Preferences.atHome (treeWith "[sandbox\n") replacing (some "config.toml")
          "config.toml"
      ∧ (run Preferences.atHome (treeWith "[sandbox\n") replacing).status = some 1
      ∧ (run Preferences.atHome (treeWith "[sandbox\n") replacing).files.readText "config.toml"
          = .ok "[sandbox\n" := by
  have hparse : Settings.parse? "[sandbox\n" = none := by decide +kernel
  obtain ⟨hstatus, hfiles⟩ := run_of_not_parse read_replacing rfl
    (readBytes_treeWith "[sandbox\n") (by
      rintro ⟨_, _, -, hsome⟩
      rw [Text.ofBytes?_bytesOf, Option.bind_some, hparse] at hsome
      nomatch hsome)
  refine ⟨read_replacing, rfl, readBytes_treeWith _,
    FileTree.isWritable_of_locate (locate_treeWith _), fun hrestores => ?_, hstatus, ?_⟩
  · rw [Restores, hstatus] at hrestores
    exact absurd hrestores.1 (by decide)
  · rw [hfiles, FileTree.readText, readBytes_treeWith]
    dsimp only
    rw [Text.ofBytes?_bytesOf]

end Program

end Confine

import Confine.Location

set_option autoImplicit false

/-! # Where the directories of the program stand

Both directories of the program are found in the same way, each by variables of its own
(`Location.Wanted`): by the variable that names the directory, or else below the base that another
variable names, or else below the home directory (`Location.Wanted.Found`). What a variable names is
absolute, since anything else counts as not set. But nobody looks at the home directory, and so a
path of the program is absolute unless the directory hangs on a home directory that is not
(`Location.resolve_isAbsolute_iff`).
-/

namespace Confine

/-! ## Paths below a directory -/

/-- What stands below a directory is absolute exactly if the directory is. -/
theorem Path.isAbsolute_join (directory : String) {name : String}
    (h : isAbsolute name = false) : isAbsolute (join directory name) = isAbsolute directory := by
  unfold join
  cases htext : directory.toList with
  | nil =>
      have hempty : directory = "" := String.toList_inj.mp htext
      rw [hempty]
      exact h
  | cons c rest =>
      have happend : ∀ text, isAbsolute (directory ++ text) = isAbsolute directory := by
        intro text
        rw [isAbsolute, isAbsolute, String.toList_append, htext]
        rfl
      split
      case isTrue => exact happend name
      case isFalse => rw [String.append_assoc]; exact happend _

theorem Path.isAbsolute_foldl_join (names : List String) (directory : String)
    (h : ∀ name ∈ names, isAbsolute name = false) :
    isAbsolute (names.foldl join directory) = isAbsolute directory := by
  induction names generalizing directory with
  | nil => rfl
  | cons name rest ih =>
      rw [List.foldl_cons, ih _ fun other hother => h other (List.mem_cons_of_mem name hother)]
      exact isAbsolute_join directory (h name List.mem_cons_self)

namespace Location

/-! ## Variables -/

/-- A variable names an absolute path. -/
def Names (env : Environment) (name path : String) : Prop :=
  env.lookup name = some path ∧ Path.isAbsolute path = true

theorem absolute?_eq_some_iff {env : Environment} {name path : String} :
    absolute? env name = some path ↔ Names env name path := by
  unfold absolute? Names
  cases env.lookup name with
  | none => simp
  | some value =>
      by_cases h : Path.isAbsolute value = true
      · simp only [h, if_true, Option.some_inj]
        exact ⟨fun heq => ⟨heq, heq ▸ h⟩, And.left⟩
      · simp only [h, Option.some_inj]
        refine iff_of_false nofun ?_
        rintro ⟨rfl, habsolute⟩
        exact h habsolute

theorem absolute?_eq_none_iff {env : Environment} {name : String} :
    absolute? env name = none ↔ ∀ path, ¬ Names env name path := by
  simp only [Option.eq_none_iff_forall_ne_some, ne_eq, absolute?_eq_some_iff]

theorem absolute?_congr {env env' : Environment} {name : String}
    (h : env'.lookup name = env.lookup name) : absolute? env' name = absolute? env name := by
  unfold absolute?
  rw [h]

/-! ## The two directories -/

/-- What a directory of the program is found by. -/
structure Wanted where
  /-- The variable that names it. -/
  own : String
  /-- The variable that names its base. -/
  base : String
  /-- Where its base is below the home directory. -/
  below : List String

namespace Wanted

/-- The directory of the settings. -/
def config : Wanted :=
  ⟨"EXECBOX_CONFIG_DIR", "XDG_CONFIG_HOME", [".config"]⟩

/-- The directory of what the program writes by itself. -/
def state : Wanted :=
  ⟨"EXECBOX_STATE_DIR", "XDG_STATE_HOME", [".local", "state"]⟩

/-- **Where a directory is found**: where its variable says, or else below its base, which is where
the variable for the base says, or else below the home directory. -/
inductive Found (d : Wanted) (own env : Environment) (home : String) : String → Prop
  | named {path : String} (h : Names own d.own path) : Found d own env home path
  | based {path : String} (hown : ∀ path, ¬ Names own d.own path) (h : Names env d.base path) :
      Found d own env home (Path.join path "execbox")
  | below (hown : ∀ path, ¬ Names own d.own path) (hbase : ∀ path, ¬ Names env d.base path) :
      Found d own env home (Path.join (d.below.foldl Path.join home) "execbox")

/-- Whether one of its variables names an absolute path. -/
def IsNamed (d : Wanted) (own env : Environment) : Prop :=
  (∃ path, Names own d.own path) ∨ ∃ path, Names env d.base path

variable {d : Wanted} {own env own' env' : Environment} {home path : String}

/-- **A directory is absolute** if a variable names it or its base, or else if the home directory
is. -/
theorem Found.isAbsolute_iff (hbelow : ∀ name ∈ d.below, Path.isAbsolute name = false)
    (h : d.Found own env home path) :
    Path.isAbsolute path = true ↔ d.IsNamed own env ∨ Path.isAbsolute home = true := by
  cases h with
  | named h => exact iff_of_true h.2 (.inl (.inl ⟨_, h⟩))
  | based hown h =>
      rw [Path.isAbsolute_join _ (by decide)]
      exact iff_of_true h.2 (.inl (.inr ⟨_, h⟩))
  | below hown hbase =>
      rw [Path.isAbsolute_join _ (by decide), Path.isAbsolute_foldl_join _ _ hbelow]
      have hnone : ¬ d.IsNamed own env := by
        rintro (⟨path, h⟩ | ⟨path, h⟩)
        · exact hown path h
        · exact hbase path h
      exact (or_iff_right hnone).symm

/-- The directory, computed. -/
def directory (d : Wanted) (own env : Environment) (home : String) : String :=
  (absolute? own d.own).getD (Path.join (Location.base env d.base home d.below) "execbox")

theorem found_directory (d : Wanted) (own env : Environment) (home : String) :
    d.Found own env home (d.directory own env home) := by
  unfold directory Location.base
  cases hown : absolute? own d.own with
  | some path => exact .named (absolute?_eq_some_iff.mp hown)
  | none =>
      rw [absolute?_eq_none_iff] at hown
      cases hbase : absolute? env d.base with
      | some path => exact .based hown (absolute?_eq_some_iff.mp hbase)
      | none => exact .below hown (absolute?_eq_none_iff.mp hbase)

/-- **It depends on its own variables** and the home directory only. -/
theorem directory_congr (hown : own'.lookup d.own = own.lookup d.own)
    (hbase : env'.lookup d.base = env.lookup d.base) (home : String) :
    d.directory own' env' home = d.directory own env home := by
  unfold directory Location.base
  rw [absolute?_congr hown, absolute?_congr hbase]

end Wanted

/-! ## All paths of the program -/

/-- **All paths of the program are absolute.** -/
structure IsAbsolute (l : Location) : Prop where
  configDir : Path.isAbsolute l.configDir = true
  configFile : Path.isAbsolute l.configFile = true
  stateDir : Path.isAbsolute l.stateDir = true
  logsDir : Path.isAbsolute l.logsDir = true
  logFile : Path.isAbsolute l.logFile = true

/-- The files stand below the directories. -/
theorem isAbsolute_iff (l : Location) :
    l.IsAbsolute ↔ Path.isAbsolute l.configDir = true ∧ Path.isAbsolute l.stateDir = true := by
  constructor
  · exact fun h => ⟨h.configDir, h.stateDir⟩
  · rintro ⟨hconfig, hstate⟩
    have hlogs : Path.isAbsolute l.logsDir = true :=
      (Path.isAbsolute_join _ (by decide)).trans hstate
    exact ⟨hconfig, (Path.isAbsolute_join _ (by decide)).trans hconfig, hstate, hlogs,
      (Path.isAbsolute_join _ (by decide)).trans hlogs⟩

section

variable {own env : Environment} {known : Option String} {l : Location}

/-- The directories are the two that are wanted. -/
theorem exists_home_of_resolve? (h : resolve? own env known = some l) :
    ∃ home, home? env known = some home ∧ l.configDir = Wanted.config.directory own env home
      ∧ l.stateDir = Wanted.state.directory own env home := by
  obtain ⟨home, hhome, rfl⟩ := Option.map_eq_some_iff.mp h
  exact ⟨home, hhome, rfl, rfl⟩

/-- **Which paths of the program are absolute.** If there is a home directory, each of the two
directories is where its own variable says, or else below its base. All paths are absolute exactly
if the home directory is, or else if neither directory hangs on it. And a directory is the same in
all surroundings with the same home directory in which its own two variables are the same. -/
theorem resolve_isAbsolute_iff (h : resolve? own env known = some l) :
    ∃ home, home? env known = some home
      ∧ Wanted.config.Found own env home l.configDir ∧ Wanted.state.Found own env home l.stateDir
      ∧ (l.IsAbsolute ↔ Path.isAbsolute home = true
        ∨ Wanted.config.IsNamed own env ∧ Wanted.state.IsNamed own env)
      ∧ ∀ (own' env' : Environment) (known' : Option String) (l' : Location),
        resolve? own' env' known' = some l' → home? env' known' = some home →
          (own'.lookup "EXECBOX_CONFIG_DIR" = own.lookup "EXECBOX_CONFIG_DIR" →
              env'.lookup "XDG_CONFIG_HOME" = env.lookup "XDG_CONFIG_HOME" →
              l'.configDir = l.configDir)
            ∧ (own'.lookup "EXECBOX_STATE_DIR" = own.lookup "EXECBOX_STATE_DIR" →
              env'.lookup "XDG_STATE_HOME" = env.lookup "XDG_STATE_HOME" →
              l'.stateDir = l.stateDir) := by
  obtain ⟨home, hhome, hconfig, hstate⟩ := exists_home_of_resolve? h
  have hfoundConfig := hconfig ▸ Wanted.found_directory .config own env home
  have hfoundState := hstate ▸ Wanted.found_directory .state own env home
  refine ⟨home, hhome, hfoundConfig, hfoundState, ?_, fun own' env' known' l' h' hsame => ?_⟩
  · rw [isAbsolute_iff, hfoundConfig.isAbsolute_iff (by decide),
      hfoundState.isAbsolute_iff (by decide), ← and_or_right, or_comm]
  · obtain ⟨home', hhome', hconfig', hstate'⟩ := exists_home_of_resolve? h'
    obtain rfl : home = home' := Option.some.inj (hsame.symm.trans hhome')
    rw [hconfig, hstate, hconfig', hstate']
    exact ⟨fun hown hbase => Wanted.directory_congr hown hbase home,
      fun hown hbase => Wanted.directory_congr hown hbase home⟩

end

/-- Variables that name one directory and the base of the other, above a home directory that is not
absolute. -/
def named : Environment :=
  [("EXECBOX_CONFIG_DIR", "/settings"), ("XDG_STATE_HOME", "/state"), ("HOME", "home")]

theorem resolve_isAbsolute_iff_of_named :
    resolve? named named (some "/root") = some ⟨"/settings", "/state/execbox"⟩
      ∧ IsAbsolute ⟨"/settings", "/state/execbox"⟩ := by
  have hresolve : resolve? named named (some "/root") = some ⟨"/settings", "/state/execbox"⟩ := by
    decide
  obtain ⟨home, -, -, -, habsolute, -⟩ := resolve_isAbsolute_iff hresolve
  refine ⟨hresolve, habsolute.mpr (.inr ⟨.inl ⟨"/settings", ?_⟩, .inr ⟨"/state", ?_⟩⟩)⟩
  · exact ⟨by decide, by decide⟩
  · exact ⟨by decide, by decide⟩

/-- **A home directory that is not absolute** makes all paths of the program relative. -/
theorem resolve_isAbsolute_fails :
    ∃ l, resolve? [("HOME", "home")] [("HOME", "home")] (some "/root") = some l
      ∧ l.configDir = "home/.config/execbox" ∧ l.logFile = "home/.local/state/execbox/logs/execbox.log"
      ∧ Path.isAbsolute l.configDir = false ∧ ¬ l.IsAbsolute := by
  refine ⟨⟨"home/.config/execbox", "home/.local/state/execbox"⟩, by decide, rfl, by decide,
    by decide, fun h => ?_⟩
  exact absurd h.configDir (by decide)

end Location

end Confine

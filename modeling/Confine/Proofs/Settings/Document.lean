import Confine.Proofs.Toml.Reader
import Confine.Settings.Document

set_option autoImplicit false

/-! # Settings survive their document

Settings that were written can be read back as they are (`parse?_toToml`), and the commented
defaults read as the defaults (`parse?_template`). For a document that someone else has written,
`stated` says what it gives for a key in words that do not depend on the reader: the text of the
entry with the name of the key in the section of the key, or the default if there is none. Whatever
document is read at all is read like this (`render_of_ofToml?`).
-/

namespace Confine.Settings

/-! ## Writing and reading back -/

/-- The value of a setting. -/
def value (s : Settings) : Key → Toml.Value
  | .mode => .string s.sandbox.mode.name
  | .maxMemory => .integer s.sandbox.limits.maxMemory.toNat
  | .maxCpuTime => .integer s.sandbox.limits.maxCpuTime.toNat
  | .maxFiles => .integer s.sandbox.limits.maxFiles.toNat
  | .maxProcesses => .integer s.sandbox.limits.maxProcesses.toNat
  | .pollInterval => .integer s.sandbox.pollInterval.toNat
  | .level => .string s.logging.level
  | .format => .string s.logging.format.name
  | .file => .boolean s.logging.file

/-- The line of a setting. -/
def item (s : Settings) (k : Key) : Toml.Item :=
  ⟨k.name, (s.written k).toList, s.value k⟩

theorem reads_toString (n : Nat) : Toml.Reads (toString n).toList (.integer n) := by
  have hdigits := Toml.reads_number n
  rwa [← Nat.toList_repr] at hdigits

/-- A name is written like a text. -/
theorem written_mode (s : Settings) :
    (s.written .mode).toList = Toml.writeText s.sandbox.mode.name.toList := by
  show ("\"" ++ s.sandbox.mode.name ++ "\"").toList = _
  cases s.sandbox.mode <;> decide

theorem written_format (s : Settings) :
    (s.written .format).toList = Toml.writeText s.logging.format.name.toList := by
  show ("\"" ++ s.logging.format.name ++ "\"").toList = _
  cases s.logging.format <;> decide

theorem reads_written (s : Settings) (k : Key) :
    Toml.Reads (s.written k).toList (s.value k) := by
  cases k with
  | mode => rw [written_mode]; exact Toml.reads_text s.sandbox.mode.name
  | format => rw [written_format]; exact Toml.reads_text s.logging.format.name
  | level =>
      show Toml.Reads (String.ofList _).toList _
      rw [String.toList_ofList]
      exact Toml.reads_text s.logging.level
  | file => exact Toml.reads_flag s.logging.file
  | maxMemory => exact reads_toString s.sandbox.limits.maxMemory.toNat
  | maxCpuTime => exact reads_toString s.sandbox.limits.maxCpuTime.toNat
  | maxFiles => exact reads_toString s.sandbox.limits.maxFiles.toNat
  | maxProcesses => exact reads_toString s.sandbox.limits.maxProcesses.toNat
  | pollInterval => exact reads_toString s.sandbox.pollInterval.toNat

theorem item_isLawful (s : Settings) (k : Key) : (s.item k).IsLawful := by
  refine ⟨?_, s.reads_written k⟩
  show Toml.IsBareName k.name
  cases k <;> exact ⟨by decide, List.all_eq_true.mp rfl⟩

/-- The keys of a section. -/
def keysOf (group : String) : List Key :=
  Key.all.filter fun k => k.group == group

theorem toList_entries (s : Settings) (keys : List Key) :
    (s.entries keys).toList = (keys.map s.item).flatMap Toml.Item.line := by
  unfold entries
  rw [String.toList_join, List.flatMap_map, List.flatMap_map]
  congr 1
  funext k
  simp [Toml.writeEntry, Toml.Item.line, item]

/-- The characters of some settings: two sections with a blank line between them. -/
def characters (s : Settings) : List Char :=
  '[' :: ("sandbox".toList ++ ']' :: '\n' ::
    (((keysOf "sandbox").map s.item).flatMap Toml.Item.line ++
      '\n' :: '[' :: ("logging".toList ++ ']' :: '\n' ::
        (((keysOf "logging").map s.item).flatMap Toml.Item.line ++ []))))

theorem toList_toToml (s : Settings) : s.toToml.toList = s.characters := by
  unfold toToml characters
  rw [String.toList_append, String.toList_append, String.toList_append, toList_entries,
    toList_entries]
  simp [keysOf]

/-- The document of some settings. -/
def document (s : Settings) : Toml.Entries :=
  [ ("sandbox", .table .header (((keysOf "sandbox").map s.item).map Toml.Item.entry)),
    ("logging", .table .header (((keysOf "logging").map s.item).map Toml.Item.entry)) ]

theorem items_isLawful (s : Settings) (keys : List Key) :
    ∀ item ∈ keys.map s.item, item.IsLawful := by
  intro item hitem
  obtain ⟨k, -, rfl⟩ := List.mem_map.mp hitem
  exact s.item_isLawful k

theorem read?_toToml (s : Settings) : Toml.read? s.toToml = some s.document := by
  have hfirst : ((keysOf "sandbox").map s.item).map Toml.Item.name
      = (keysOf "sandbox").map Key.name := List.map_map
  have hsecond : ((keysOf "logging").map s.item).map Toml.Item.name
      = (keysOf "logging").map Key.name := List.map_map
  -- There are more characters than statements.
  obtain ⟨n, hn⟩ : ∃ n, s.characters.length + 1 = n + 1 + 3 + 1 + 6 + 1 := by
    refine ⟨_, (Nat.sub_add_cancel (m := 12) ?_).symm⟩
    simp only [characters, List.length_cons, List.length_append, String.reduceToList]
    omega
  have hfirstBare : Toml.IsBareName "sandbox" := ⟨by decide, List.all_eq_true.mp rfl⟩
  have hsecondBare : Toml.IsBareName "logging" := ⟨by decide, List.all_eq_true.mp rfl⟩
  have hsandbox := Toml.readStatements_section (n + 1 + 3) [] [] hfirstBare (by simp)
    (s.items_isLawful (keysOf "sandbox")) (by rw [hfirst]; decide)
  have hlogging := Toml.readStatements_section n ["sandbox"]
    [("sandbox", .table .header (((keysOf "sandbox").map s.item).map Toml.Item.entry))]
    hsecondBare (by simp) (s.items_isLawful (keysOf "logging")) (by rw [hsecond]; decide)
  have hread : Toml.readStatements (s.characters.length + 1) [] [] s.characters
      = some s.document := by
    rw [hn]
    refine (hsandbox _).trans ?_
    rw [Toml.readStatements_newline]
    exact (hlogging []).trans rfl
  have hmark : Toml.dropMark s.characters = s.characters := Toml.dropMark_cons (by decide) _
  unfold Toml.read?
  rw [toList_toToml, hmark]
  exact hread

/-! ### The document as settings -/

theorem number?_integer {n bound : Nat} (h : n < bound) (fallback : Nat) :
    number? bound fallback (some (.integer n)) = some n :=
  if_pos ⟨Int.natCast_nonneg n, Int.ofNat_lt.mpr h⟩

/-- The entries of the first section. -/
def sandboxEntries (d : Sandbox.Defaults) : Toml.Entries :=
  [ ("mode", .string d.mode.name),
    ("max_memory", .integer d.limits.maxMemory.toNat),
    ("max_cpu_time", .integer d.limits.maxCpuTime.toNat),
    ("max_files", .integer d.limits.maxFiles.toNat),
    ("max_processes", .integer d.limits.maxProcesses.toNat),
    ("poll_interval_ms", .integer d.pollInterval.toNat) ]

theorem inRange_integer {low high : Int} (hlow : low ≤ 0) (hhigh : UInt64.size - 1 ≤ high)
    {n : Nat} (hn : n < UInt64.size) : inRange low high (.integer n) = true := by
  unfold inRange
  rw [Bool.and_eq_true, decide_eq_true_iff, decide_eq_true_iff]
  omega

theorem narrow_lt (n : UInt32) : n.toNat < UInt64.size :=
  Nat.lt_trans n.toNat_lt (by decide)

/-- Its numbers are in the range that the section allows, and in any larger one. -/
theorem entriesInRange_sandboxEntries (d : Sandbox.Defaults) {low high : Int} (hlow : low ≤ 0)
    (hhigh : UInt64.size - 1 ≤ high) : entriesInRange low high (sandboxEntries d) = true := by
  unfold sandboxEntries
  simp only [entriesInRange, Bool.and_eq_true]
  exact ⟨rfl, inRange_integer hlow hhigh d.limits.maxMemory.toNat_lt,
    inRange_integer hlow hhigh d.limits.maxCpuTime.toNat_lt,
    inRange_integer hlow hhigh (narrow_lt _), inRange_integer hlow hhigh (narrow_lt _),
    inRange_integer hlow hhigh d.pollInterval.toNat_lt, trivial⟩

theorem sandbox?_sandboxEntries (d : Sandbox.Defaults) :
    sandbox? (some (.table .header (sandboxEntries d))) = some d := by
  have hrange : entriesInRange Int64.minValue.toInt (UInt64.size - 1) (sandboxEntries d) = true :=
    entriesInRange_sandboxEntries d (by decide) (Int.le_refl _)
  -- The range is checked for all entries but the first, which is not a number anyway.
  have hothers : entriesInRange Int64.minValue.toInt (UInt64.size - 1)
      ((sandboxEntries d).filter fun e => e.1 ≠ "mode") = true := hrange
  have hmode : choice? Mode.ofName? .none ((sandboxEntries d).lookup "mode") = some d.mode :=
    Mode.ofName?_eq_some_iff.mpr rfl
  have hpoll : number? UInt64.size 100 ((sandboxEntries d).lookup "poll_interval_ms")
      = some d.pollInterval.toNat := number?_integer d.pollInterval.toNat_lt 100
  have hmemory : number? UInt64.size 0 ((sandboxEntries d).lookup "max_memory")
      = some d.limits.maxMemory.toNat := number?_integer d.limits.maxMemory.toNat_lt 0
  have htime : number? UInt64.size 0 ((sandboxEntries d).lookup "max_cpu_time")
      = some d.limits.maxCpuTime.toNat := number?_integer d.limits.maxCpuTime.toNat_lt 0
  have hfiles : number? UInt32.size 0 ((sandboxEntries d).lookup "max_files")
      = some d.limits.maxFiles.toNat := number?_integer d.limits.maxFiles.toNat_lt 0
  have hprocesses : number? UInt32.size 0 ((sandboxEntries d).lookup "max_processes")
      = some d.limits.maxProcesses.toNat := number?_integer d.limits.maxProcesses.toNat_lt 0
  unfold sandbox?
  dsimp only
  rw [hmode, hpoll, hmemory, htime, hfiles, hprocesses]
  simp only [Option.bind_eq_bind, Option.bind_some]
  rw [if_pos hothers]
  simp only [UInt64.ofNat_toNat, UInt32.ofNat_toNat]

/-- The entries of the second section. -/
def loggingEntries (l : Logging) : Toml.Entries :=
  [ ("level", .string l.level),
    ("format", .string l.format.name),
    ("file", .boolean l.file) ]

theorem logging?_loggingEntries (l : Logging) :
    logging? (some (.table .header (loggingEntries l))) = some l := by
  have hformat : choice? Log.Format.ofName? .text ((loggingEntries l).lookup "format")
      = some l.format := Log.Format.ofName?_eq_some_iff.mpr rfl
  have hfitting : areFitting (loggingEntries l) = true := rfl
  unfold logging?
  dsimp only
  rw [if_pos hfitting]
  unfold loggingOf?
  rw [hformat]
  rfl

theorem ofToml?_document (s : Settings) : ofToml? s.document = some s := by
  have hsandbox := sandbox?_sandboxEntries s.sandbox
  have hlogging := logging?_loggingEntries s.logging
  have hfitting : areFitting [("sandbox", .table .header (sandboxEntries s.sandbox))] = true := by
    unfold areFitting
    rw [entriesInRange, inRange, entriesInRange_sandboxEntries s.sandbox (by decide) (by decide)]
    rfl
  show (if areFitting [("sandbox", .table .header (sandboxEntries s.sandbox))] = true then
    (sandbox? (some (.table .header (sandboxEntries s.sandbox)))).bind fun sandbox =>
      (logging? (some (.table .header (loggingEntries s.logging)))).bind fun logging =>
        some { sandbox, logging } else none) = some s
  rw [if_pos hfitting, hsandbox, hlogging]
  rfl

/-- **Settings that were written are read back.** -/
theorem parse?_toToml (s : Settings) : parse? s.toToml = some s := by
  unfold parse?
  rw [read?_toToml]
  exact ofToml?_document s

/-! ## The commented defaults -/

theorem toList_template :
    template.toList = templateLines.flatMap fun line => line.toList ++ ['\n'] := by
  unfold template
  rw [String.toList_join, List.flatMap_map]
  simp only [String.toList_append, String.reduceToList]

/-- **The commented defaults are the defaults.** -/
theorem parse?_template : parse? template = some {} := by
  unfold parse? Toml.read?
  rw [toList_template]
  decide +kernel

/-! ## What a document states -/

/-- The text of a value. The only name of a table counts as one. -/
def textOf? : Toml.Value → Option String
  | .string s => some s
  | .integer n => some (toString n)
  | .boolean b => some (toString b)
  | .table _ [(name, _)] => some name
  | _ => none

/-- The value of a key in its section, by its name, or by its place where there are no names. -/
def entryIn? (section? : Option Toml.Value) (k : Key) : Option Toml.Value :=
  match section? with
  | some (.table _ es) => es.lookup k.name
  | some (.array items) => items[(keysOf k.group).idxOf k]?
  | _ => none

/-- **What a document states for a key**: the text of its entry, or the default if it has none. -/
def stated (es : Toml.Entries) (k : Key) : String :=
  ((entryIn? (es.lookup k.group) k).bind textOf?).getD (({} : Settings).render k)

theorem choice?_spec {α : Type} {ofName? : String → Option α} {name : α → String}
    (hname : ∀ text a, ofName? text = some a → name a = text) {fallback a : α}
    {v : Option Toml.Value} (h : choice? ofName? fallback v = some a) :
    name a = (v.bind textOf?).getD (name fallback) := by
  unfold choice? at h
  split at h
  case h_1 => rw [← Option.some.inj h]; rfl
  case h_2 text => exact hname text a h
  case h_3 origin text _ => exact hname text a h
  case h_4 origin text => exact hname text a h
  case h_5 => nomatch h

theorem number?_spec {bound fallback n : Nat} (hfallback : fallback < bound)
    {v : Option Toml.Value} (h : number? bound fallback v = some n) :
    n < bound ∧ toString n = (v.bind textOf?).getD (toString fallback) := by
  unfold number? at h
  split at h
  case h_1 => rw [← Option.some.inj h]; exact ⟨hfallback, rfl⟩
  case h_2 i =>
    split at h
    case isTrue hi =>
      obtain ⟨m, rfl⟩ := Int.eq_ofNat_of_zero_le hi.1
      rw [← Option.some.inj h]
      exact ⟨Int.ofNat_lt.mp hi.2, rfl⟩
    case isFalse => nomatch h
  case h_3 => nomatch h

theorem wide_spec {fallback n : Nat} (hfallback : fallback < UInt64.size) {v : Option Toml.Value}
    (h : number? UInt64.size fallback v = some n) :
    toString (UInt64.ofNat n) = (v.bind textOf?).getD (toString fallback) := by
  obtain ⟨hn, htext⟩ := number?_spec hfallback h
  rw [← htext]
  show toString (UInt64.ofNat n).toNat = toString n
  rw [UInt64.toNat_ofNat_of_lt' hn]

theorem narrow_spec {fallback n : Nat} (hfallback : fallback < UInt32.size) {v : Option Toml.Value}
    (h : number? UInt32.size fallback v = some n) :
    toString (UInt32.ofNat n) = (v.bind textOf?).getD (toString fallback) := by
  obtain ⟨hn, htext⟩ := number?_spec hfallback h
  rw [← htext]
  show toString (UInt32.ofNat n).toNat = toString n
  rw [UInt32.toNat_ofNat_of_lt' hn]

/-- Every setting of the first section. -/
theorem render_of_sandbox? {v : Option Toml.Value} {s : Settings}
    (h : sandbox? v = some s.sandbox) {k : Key} (hk : k.group = "sandbox") :
    s.render k = ((entryIn? v k).bind textOf?).getD (({} : Settings).render k) := by
  have hdefault : s.sandbox = {} → s.render k = ({} : Settings).render k := by
    intro hs
    cases k with
    | level | format | file => exact absurd hk (by decide)
    | mode | maxMemory | maxCpuTime | maxFiles | maxProcesses | pollInterval =>
        unfold render
        rw [hs]
  unfold sandbox? at h
  split at h
  case h_1 => exact hdefault (Option.some.inj h).symm
  case h_2 => exact hdefault (Option.some.inj h).symm
  case h_3 origin es =>
    simp only [Option.bind_eq_bind, Option.bind_eq_some_iff] at h
    obtain ⟨mode, hmode, poll, hpoll, memory, hmemory, time, htime, files, hfiles, processes,
      hprocesses, h⟩ := h
    split at h
    case isFalse => nomatch h
    case isTrue =>
      have hs := Option.some.inj h
      unfold render entryIn?
      rw [← hs]
      cases k with
      | mode => exact choice?_spec (fun _ _ => Mode.ofName?_eq_some_iff.mp) hmode
      | maxMemory => exact wide_spec (by decide) hmemory
      | maxCpuTime => exact wide_spec (by decide) htime
      | maxFiles => exact narrow_spec (by decide) hfiles
      | maxProcesses => exact narrow_spec (by decide) hprocesses
      | pollInterval => exact wide_spec (by decide) hpoll
      | level | format | file => exact absurd hk (by decide)
  case h_4 => nomatch h

theorem text?_spec {fallback text : String} {v : Option Toml.Value}
    (h : text? fallback v = some text) : text = (v.bind textOf?).getD fallback := by
  unfold text? at h
  split at h
  case h_1 => exact (Option.some.inj h).symm
  case h_2 => exact (Option.some.inj h).symm
  case h_3 => nomatch h

theorem flag?_spec {fallback flag : Bool} {v : Option Toml.Value}
    (h : flag? fallback v = some flag) :
    toString flag = (v.bind textOf?).getD (toString fallback) := by
  unfold flag? at h
  split at h
  case h_1 => rw [← Option.some.inj h]; rfl
  case h_2 => rw [← Option.some.inj h]; rfl
  case h_3 => nomatch h

theorem render_of_loggingOf? {values : Nat → String → Option Toml.Value} {s : Settings}
    (h : loggingOf? values = some s.logging) {k : Key} (hk : k.group = "logging") :
    s.render k = ((values ((keysOf k.group).idxOf k) k.name).bind textOf?).getD
      (({} : Settings).render k) := by
  unfold loggingOf? at h
  simp only [Option.bind_eq_bind, Option.bind_eq_some_iff] at h
  obtain ⟨level, hlevel, format, hformat, file, hfile, h⟩ := h
  have hs := Option.some.inj h
  unfold render
  rw [← hs]
  cases k with
  | level => exact text?_spec hlevel
  | format => exact choice?_spec (fun _ _ => Log.Format.ofName?_eq_some_iff.mp) hformat
  | file => exact flag?_spec hfile
  | mode | maxMemory | maxCpuTime | maxFiles | maxProcesses | pollInterval =>
      exact absurd hk (by decide)

/-- Every setting of the second section. -/
theorem render_of_logging? {v : Option Toml.Value} {s : Settings}
    (h : logging? v = some s.logging) {k : Key} (hk : k.group = "logging") :
    s.render k = ((entryIn? v k).bind textOf?).getD (({} : Settings).render k) := by
  have hdefault : s.logging = {} → s.render k = ({} : Settings).render k := by
    intro hs
    cases k with
    | level | format | file =>
        unfold render
        rw [hs]
    | mode | maxMemory | maxCpuTime | maxFiles | maxProcesses | pollInterval =>
        exact absurd hk (by decide)
  unfold logging? at h
  split at h
  case h_1 => exact hdefault (Option.some.inj h).symm
  case h_2 => exact hdefault (Option.some.inj h).symm
  case h_3 origin es =>
    split at h
    case isTrue => exact render_of_loggingOf? h hk
    case isFalse => nomatch h
  case h_4 items => exact render_of_loggingOf? h hk
  case h_5 items =>
    split at h
    case isTrue => exact hdefault (Option.some.inj h).symm
    case isFalse => nomatch h
  case h_6 => nomatch h

/-- **A document is read as it states.** -/
theorem render_of_ofToml? {es : Toml.Entries} {s : Settings} (h : ofToml? es = some s) (k : Key) :
    s.render k = stated es k := by
  unfold ofToml? at h
  split at h
  case isFalse => nomatch h
  case isTrue =>
    simp only [Option.bind_eq_bind, Option.bind_eq_some_iff] at h
    obtain ⟨sandbox, hsandbox, logging, hlogging, h⟩ := h
    cases Option.some.inj h
    unfold stated
    by_cases hk : k.group = "sandbox"
    · rw [hk]
      exact render_of_sandbox? hsandbox hk
    · have hk' : k.group = "logging" := by cases k <;> first | rfl | exact absurd rfl hk
      rw [hk']
      exact render_of_logging? hlogging hk'

end Confine.Settings

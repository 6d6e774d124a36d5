import Confine.Program.Preferences
import Confine.Proofs.Settings.Assignment

set_option autoImplicit false

/-! # Getting and setting

A setting is read and changed through its written key, and both go by the same table of keys. They
fit together as one expects of a place where something is kept: what was set is what is shown, what
is shown can be set and changes nothing (`assign_render`), the last change counts
(`assign_assign`), and nothing else is touched (`Config.get_set_lawful`).
-/

namespace Confine

namespace Settings

/-! ## What is shown can be set -/

theorem readWide_toString (n : UInt64) : readWide (toString n) = .ok n := by
  have htext : (toString n).toList = Nat.toDigits 10 n.toNat := by
    show (toString n.toNat).toList = _
    rw [Nat.toString_eq_ofList_toDigits, String.toList_ofList]
  obtain ⟨hnumeral, hvalue⟩ := Text.Decimal.isNumeral_toDigits (Nat.le_sub_one_of_lt n.toNat_lt)
  rw [readWide_eq_ok_iff, htext, hvalue, UInt64.ofNat_toNat]
  exact ⟨hnumeral, rfl⟩

theorem readNarrow_toString (n : UInt32) : readNarrow (toString n) = .ok n := by
  have htext : (toString n).toList = Nat.toDigits 10 n.toNat := by
    show (toString n.toNat).toList = _
    rw [Nat.toString_eq_ofList_toDigits, String.toList_ofList]
  obtain ⟨hnumeral, hvalue⟩ := Text.Decimal.isNumeral_toDigits (Nat.le_sub_one_of_lt n.toNat_lt)
  rw [readNarrow_eq_ok_iff, htext, hvalue, UInt32.ofNat_toNat]
  exact ⟨hnumeral, rfl⟩

theorem readMode_name (m : Mode) : readMode m.name = .ok m :=
  readMode_eq_ok_iff.mpr (by cases m <;> decide +kernel)

theorem readFormat_name (f : Log.Format) : readFormat f.name = .ok f :=
  readFormat_eq_ok_iff.mpr (by cases f <;> decide +kernel)

/-- **What a key shows can be given to it again**, and changes nothing. -/
theorem assign_render (s : Settings) (k : Key) : s.assign k (s.render k) = .ok s := by
  cases k with
  | mode => exact map_eq_ok_iff.mpr ⟨_, readMode_name _, rfl⟩
  | format => exact map_eq_ok_iff.mpr ⟨_, readFormat_name _, rfl⟩
  | level => rfl
  | file => exact map_eq_ok_iff.mpr ⟨_, readFlag_eq_ok_iff.mpr rfl, rfl⟩
  | maxMemory | maxCpuTime | pollInterval =>
      exact map_eq_ok_iff.mpr ⟨_, readWide_toString _, rfl⟩
  | maxFiles | maxProcesses => exact map_eq_ok_iff.mpr ⟨_, readNarrow_toString _, rfl⟩

/-! ## The last change counts -/

/-- **A change hides the one before** of the same key. -/
theorem assign_assign {s s' : Settings} {k : Key} {v : String} (h : s.assign k v = .ok s')
    (w : String) : s'.assign k w = s.assign k w := by
  cases k with
  | level =>
      rw [← Except.ok.inj h]
      rfl
  | mode | maxMemory | maxCpuTime | maxFiles | maxProcesses | pollInterval | format | file =>
      obtain ⟨value, -, rfl⟩ := map_eq_ok_iff.mp h
      rfl

/-! ## Refusals -/

theorem map_eq_error_iff {ε α β : Type} {x : Except ε α} {f : α → β} {e : ε} :
    x.map f = .error e ↔ x = .error e := by
  cases x with
  | error e' => exact ⟨fun h => congrArg _ (Except.error.inj h), fun h => congrArg _ (Except.error.inj h)⟩
  | ok a => exact ⟨nofun, nofun⟩

theorem mapError_ne_error {ε ε' α : Type} {x : Except ε α} {f : ε → ε'} {e : ε'}
    (h : ∀ cause, f cause ≠ e) : x.mapError f ≠ .error e := by
  cases x with
  | error cause => exact fun he => h cause (Except.error.inj he)
  | ok a => exact nofun

/-- **A key that there is refuses a value for what the value is**, and never as a key that there is
not. -/
theorem assign_ne_unknownKey (s : Settings) (k : Key) (value key : String) :
    s.assign k value ≠ .error (.unknownKey key) := by
  intro h
  cases k with
  | level => nomatch h
  | mode =>
      have hread := map_eq_error_iff.mp h
      unfold readMode at hread
      split at hread <;> nomatch hread
  | format =>
      have hread := map_eq_error_iff.mp h
      unfold readFormat at hread
      split at hread <;> nomatch hread
  | file =>
      have hread := map_eq_error_iff.mp h
      unfold readFlag at hread
      split at hread
      · nomatch hread
      · split at hread <;> nomatch hread
  | maxMemory | maxCpuTime | pollInterval | maxFiles | maxProcesses =>
      exact mapError_ne_error nofun (map_eq_error_iff.mp h)

end Settings

/-! ## Written keys -/

namespace Config

variable (c : Config)

theorem get_path (k : Settings.Key) : c.get k.path = .ok (c.settings.render k) := by
  unfold get Settings.get
  rw [Settings.Key.ofPath?_path]

/-- A value that the key takes is set. -/
theorem set_of_assign {k : Settings.Key} {value : String} {settings : Settings}
    (h : c.settings.assign k value = .ok settings) :
    c.set k.path value = (.ok (), { c with settings }) := by
  have hset : c.settings.set k.path value = .ok settings := by
    unfold Settings.set
    rw [Settings.Key.ofPath?_path]
    exact h
  rw [set, hset]

/-- A value that the key does not take is refused. -/
theorem set_of_refused {k : Settings.Key} {value : String} {cause : Settings.Error}
    (h : c.settings.assign k value = .error cause) : c.set k.path value = (.error cause, c) := by
  have hset : c.settings.set k.path value = .error cause := by
    unfold Settings.set
    rw [Settings.Key.ofPath?_path]
    exact h
  rw [set, hset]

theorem of_unknown {key : String} (h : Settings.Key.ofPath? key = none) :
    c.get key = .error (.unknownKey key)
      ∧ ∀ value, c.set key value = (.error (.unknownKey key), c) := by
  unfold get set Settings.get Settings.set
  rw [h]
  exact ⟨rfl, fun _ => rfl⟩

/-- A text writes a key, or it is no key. -/
theorem known_or_unknown (key : String) :
    (∃ k : Settings.Key, k.path = key) ∨ Settings.Key.ofPath? key = none := by
  cases h : Settings.Key.ofPath? key with
  | some k => exact .inl ⟨k, Settings.Key.path_of_ofPath? h⟩
  | none => exact .inr rfl

variable {c : Config} {key value : String}

/-- **What a change can come to**: it is made, or it is refused and nothing happens. -/
theorem set_cases (c : Config) (key value : String) :
    (∃ k settings, k.path = key ∧ c.settings.assign k value = .ok settings
        ∧ c.set key value = (.ok (), { c with settings }))
      ∨ ∃ cause, c.set key value = (.error cause, c) := by
  rcases known_or_unknown key with ⟨k, rfl⟩ | hnone
  · cases h : c.settings.assign k value with
    | ok settings => exact .inl ⟨k, settings, rfl, h, c.set_of_assign h⟩
    | error cause => exact .inr ⟨cause, c.set_of_refused h⟩
  · exact .inr ⟨_, (c.of_unknown hnone).2 value⟩

theorem set_eq_ok (h : (c.set key value).1 = .ok ()) :
    ∃ k settings, k.path = key ∧ c.settings.assign k value = .ok settings
      ∧ c.set key value = (.ok (), { c with settings }) := by
  rcases c.set_cases key value with hmade | ⟨cause, hrefused⟩
  · exact hmade
  · rw [hrefused] at h
    nomatch h

theorem set_eq_error {cause : Settings.Error} (h : (c.set key value).1 = .error cause) :
    (c.set key value).2 = c := by
  rcases c.set_cases key value with ⟨k, settings, -, -, hmade⟩ | ⟨cause, hrefused⟩
  · rw [hmade] at h
    nomatch h
  · rw [hrefused]

/-- The command that shows a setting gets it. -/
theorem getSetting_eq (c : Config) (key : String) :
    Program.getSetting c key = (do Program.Act.print (← Program.ofSettings (c.get key))) :=
  rfl

/-- The command that changes a setting sets it, and saves what comes of this. -/
theorem setSetting_eq (c : Config) (key value : String) :
    Program.setSetting c key value = (do
      Program.ofSettings (c.set key value).1
      Program.save (c.set key value).2.save
      Program.Act.print s!"Set {key} = {value}") := by
  unfold Program.setSetting set
  cases c.settings.set key value <;> rfl

/-! ## The laws -/

/-- **Showing and changing know the same keys.** -/
theorem get_isOk_iff (c : Config) (key : String) :
    (∃ shown, c.get key = .ok shown)
      ↔ ∀ value, (c.set key value).1 ≠ .error (.unknownKey key) := by
  constructor
  · rintro ⟨shown, hshown⟩ value hset
    rcases known_or_unknown key with ⟨k, rfl⟩ | hnone
    · cases h : c.settings.assign k value with
      | ok settings =>
          rw [c.set_of_assign h] at hset
          nomatch hset
      | error cause =>
          rw [c.set_of_refused h] at hset
          rw [Except.error.inj hset] at h
          exact c.settings.assign_ne_unknownKey k value k.path h
    · rw [(c.of_unknown hnone).1] at hshown
      nomatch hshown
  · intro hknown
    rcases known_or_unknown key with ⟨k, rfl⟩ | hnone
    · exact ⟨_, c.get_path k⟩
    · exact absurd (congrArg Prod.fst ((c.of_unknown hnone).2 "")) (hknown "")

/-- **What was set is shown**, in its canonical form, and the other keys show what they showed. -/
theorem get_set (h : (c.set key value).1 = .ok ()) :
    ∃ k : Settings.Key, k.path = key ∧ k.Admits value
      ∧ (c.set key value).2.get key = .ok (k.canonical value)
      ∧ ∀ key', key' ≠ key → (c.set key value).2.get key' = c.get key' := by
  obtain ⟨k, settings, rfl, hassign, hset⟩ := set_eq_ok h
  obtain ⟨hadmits, hrender⟩ := Settings.render_of_assign hassign
  rw [hset]
  refine ⟨k, rfl, hadmits, ?_, fun key' hne => ?_⟩
  · rw [get_path, hrender]
  rcases known_or_unknown key' with ⟨k', rfl⟩ | hnone
  · have hk : k' ≠ k := fun he => hne (congrArg Settings.Key.path he)
    rw [get_path, get_path, Settings.render_of_assign_ne hassign hk]
  · rw [(of_unknown _ hnone).1, (of_unknown c hnone).1]

/-- **What is shown can be set**, and this changes nothing. -/
theorem set_get {shown : String} (h : c.get key = .ok shown) : c.set key shown = (.ok (), c) := by
  rcases known_or_unknown key with ⟨k, rfl⟩ | hnone
  · rw [get_path] at h
    rw [← Except.ok.inj h]
    exact c.set_of_assign (c.settings.assign_render k)
  · rw [(c.of_unknown hnone).1] at h
    nomatch h

/-- **The last change counts**: whether it is made does not depend on the one before, nor does what
it leaves if it is made. -/
theorem set_set (c : Config) (key v w : String) :
    ((c.set key v).2.set key w).1 = (c.set key w).1
      ∧ ((c.set key w).1 = .ok () → (c.set key v).2.set key w = c.set key w) := by
  rcases c.set_cases key v with ⟨k, settings, rfl, hassign, hv⟩ | ⟨cause, hv⟩
  · -- The change before hides nothing but the value that the next one replaces.
    have hnext := Settings.assign_assign hassign w
    rw [hv]
    cases hw : c.settings.assign k w with
    | ok settings' =>
        rw [c.set_of_assign hw, set_of_assign { c with settings } (hnext.trans hw)]
        exact ⟨rfl, fun _ => rfl⟩
    | error cause =>
        rw [c.set_of_refused hw, set_of_refused { c with settings } (hnext.trans hw)]
        exact ⟨rfl, nofun⟩
  · rw [hv]
    exact ⟨rfl, fun _ => rfl⟩

/-- **Getting and setting fit together.** A key is shown exactly if setting knows it; else both fail
for the same cause. What a key takes can be set, and a change that is made takes a text that the
key admits, is shown in its canonical form, and changes no other key, directory or file name. Of two
changes the last one counts. What is shown can be set and changes nothing, and neither does a change
that is refused. -/
theorem get_set_lawful (c : Config) (key : String) :
    ((∃ shown, c.get key = .ok shown) ↔ ∀ value, (c.set key value).1 ≠ .error (.unknownKey key))
      ∧ ((¬ ∃ shown, c.get key = .ok shown) → ∃ cause : Settings.Error,
          cause.message = "Unknown config key: " ++ key ∧ c.get key = .error cause
            ∧ ∀ value, c.set key value = (.error cause, c))
      ∧ (∀ value, (∃ k : Settings.Key, k.path = key ∧ k.Admits value) →
          (c.set key value).1 = .ok ())
      ∧ (∀ value, (c.set key value).1 = .ok () →
          (∃ k : Settings.Key, k.path = key ∧ k.Admits value
            ∧ (c.set key value).2.get key = .ok (k.canonical value)
            ∧ ∀ key', key' ≠ key → (c.set key value).2.get key' = c.get key')
          ∧ (c.set key value).2.location = c.location ∧ (c.set key value).2.source = c.source)
      ∧ (∀ v w, ((c.set key v).2.set key w).1 = (c.set key w).1
          ∧ ((c.set key w).1 = .ok () → (c.set key v).2.set key w = c.set key w))
      ∧ (∀ shown, c.get key = .ok shown → c.set key shown = (.ok (), c))
      ∧ ∀ value cause, (c.set key value).1 = .error cause → (c.set key value).2 = c := by
  refine ⟨c.get_isOk_iff key, ?_, ?_, ?_, c.set_set key, fun _ => set_get,
    fun _ _ => set_eq_error⟩
  · intro hnot
    rcases known_or_unknown key with ⟨k, rfl⟩ | hnone
    · exact absurd ⟨_, c.get_path k⟩ hnot
    · exact ⟨_, rfl, c.of_unknown hnone⟩
  · rintro value ⟨k, rfl, hadmits⟩
    obtain ⟨settings, hassign⟩ := c.settings.assign_of_admits hadmits
    rw [c.set_of_assign hassign]
  · intro value h
    refine ⟨get_set h, ?_⟩
    obtain ⟨_, _, -, -, hset⟩ := set_eq_ok h
    rw [hset]
    exact ⟨rfl, rfl⟩

/-- The settings of a user who has changed nothing. -/
def untouched : Config where
  location := { configDir := "conf", stateDir := "state" }
  source := "conf/config.toml"

/-- A sign and zeros in front are not shown, and another key shows what it showed. -/
theorem get_set_lawful_of_numeral :
    (untouched.set "sandbox.max_files" "+007").1 = .ok ()
      ∧ (untouched.set "sandbox.max_files" "+007").2.get "sandbox.max_files" = .ok "7"
      ∧ (untouched.set "sandbox.max_files" "+007").2.get "sandbox.mode" = .ok "none" := by
  have hlaws := get_set_lawful untouched "sandbox.max_files"
  have hset : (untouched.set "sandbox.max_files" "+007").1 = .ok () :=
    hlaws.2.2.1 _ ⟨.maxFiles, rfl, by decide, List.all_eq_true.mp rfl, by decide⟩
  obtain ⟨⟨k, hpath, -, hget, hother⟩, -⟩ := hlaws.2.2.2.1 "+007" hset
  obtain rfl : k = .maxFiles := Settings.Key.path_injective hpath
  exact ⟨hset, hget.trans rfl, (hother "sandbox.mode" (by decide)).trans rfl⟩

end Config

end Confine

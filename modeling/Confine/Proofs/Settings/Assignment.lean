import Confine.Proofs.Text.Decimal
import Confine.Settings.Basic

set_option autoImplicit false

/-! # Changing one setting

Which texts a key takes, and what it shows for them afterwards, said without the readers: names in
any case and shown in lower case, numbers up to the largest of their size and shown without sign and
zeros in front, truth values by their two names, and any text at all as a filter. A change succeeds
exactly for these (`assign_of_admits`, `render_of_assign`), shows the canonical form from then on,
and leaves every other key alone (`render_of_assign_ne`).
-/

namespace Confine.Settings

/-- **The texts that a key takes.** -/
def Key.Admits : Key → String → Prop
  | .mode, text => ∃ m : Mode, m.name = text.map Char.toLower
  | .format, text => ∃ f : Log.Format, f.name = text.map Char.toLower
  | .level, _ => True
  | .file, text => text = "true" ∨ text = "false"
  | .maxMemory, text | .maxCpuTime, text | .pollInterval, text =>
    Text.Decimal.IsNumeral (UInt64.size - 1) text.toList
  | .maxFiles, text | .maxProcesses, text =>
    Text.Decimal.IsNumeral (UInt32.size - 1) text.toList

/-- **The canonical form** of a text that a key takes. -/
def Key.canonical : Key → String → String
  | .mode, text | .format, text => text.map Char.toLower
  | .level, text | .file, text => text
  | .maxMemory, text | .maxCpuTime, text | .pollInterval, text | .maxFiles, text
  | .maxProcesses, text => String.ofList (Text.Decimal.canonical text.toList)

/-- A key has one path, and it is found by it. -/
theorem Key.ofPath?_path (k : Key) : Key.ofPath? k.path = some k := by
  cases k <;> decide

theorem Key.path_of_ofPath? {text : String} {k : Key} (h : Key.ofPath? text = some k) :
    k.path = text := by
  have hfound := List.find?_some (p := fun k : Key => k.path == text) h
  exact beq_iff_eq.mp hfound

theorem Key.path_injective {k k' : Key} (h : k.path = k'.path) : k = k' := by
  have hfound := k.ofPath?_path
  rw [h, k'.ofPath?_path] at hfound
  exact (Option.some.inj hfound).symm

/-! ## The readers of values -/

theorem map_eq_ok_iff {ε α β : Type} {x : Except ε α} {f : α → β} {b : β} :
    x.map f = .ok b ↔ ∃ a, x = .ok a ∧ f a = b := by
  cases x with
  | error e => exact ⟨nofun, fun ⟨_, h, _⟩ => nomatch h⟩
  | ok a =>
      constructor
      · intro h
        exact ⟨a, rfl, Except.ok.inj h⟩
      · rintro ⟨a', ha, rfl⟩
        rw [Except.ok.inj ha]
        rfl

theorem mapError_eq_ok_iff {ε ε' α : Type} {x : Except ε α} {f : ε → ε'} {a : α} :
    x.mapError f = .ok a ↔ x = .ok a := by
  cases x with
  | error e => exact ⟨nofun, nofun⟩
  | ok b => exact ⟨fun h => congrArg _ (Except.ok.inj h), fun h => congrArg _ (Except.ok.inj h)⟩

theorem readWide_eq_ok_iff {text : String} {n : UInt64} :
    readWide text = .ok n
      ↔ Text.Decimal.IsNumeral (UInt64.size - 1) text.toList
        ∧ UInt64.ofNat (Text.Decimal.value text.toList) = n := by
  unfold readWide Text.Decimal.readUInt64
  simp only [mapError_eq_ok_iff, map_eq_ok_iff, Text.Decimal.read_eq_ok_iff]
  exact ⟨fun ⟨_, ⟨hnumeral, rfl⟩, hn⟩ => ⟨hnumeral, hn⟩, fun h => ⟨_, ⟨h.1, rfl⟩, h.2⟩⟩

theorem readNarrow_eq_ok_iff {text : String} {n : UInt32} :
    readNarrow text = .ok n
      ↔ Text.Decimal.IsNumeral (UInt32.size - 1) text.toList
        ∧ UInt32.ofNat (Text.Decimal.value text.toList) = n := by
  unfold readNarrow Text.Decimal.readUInt32
  simp only [mapError_eq_ok_iff, map_eq_ok_iff, Text.Decimal.read_eq_ok_iff]
  exact ⟨fun ⟨_, ⟨hnumeral, rfl⟩, hn⟩ => ⟨hnumeral, hn⟩, fun h => ⟨_, ⟨h.1, rfl⟩, h.2⟩⟩

theorem toString_value {bound : Nat} {text : String}
    (h : Text.Decimal.IsNumeral bound text.toList) :
    toString (Text.Decimal.value text.toList)
      = String.ofList (Text.Decimal.canonical text.toList) := by
  rw [← Text.Decimal.toDigits_value h]
  exact Nat.toString_eq_ofList_toDigits

theorem toString_readWide {text : String} {n : UInt64} (h : readWide text = .ok n) :
    toString n = String.ofList (Text.Decimal.canonical text.toList) := by
  obtain ⟨hnumeral, rfl⟩ := readWide_eq_ok_iff.mp h
  rw [← toString_value hnumeral]
  show toString (UInt64.ofNat _).toNat = _
  rw [UInt64.toNat_ofNat_of_lt' (Nat.lt_of_le_sub_one (by decide) hnumeral.2.2)]

theorem toString_readNarrow {text : String} {n : UInt32} (h : readNarrow text = .ok n) :
    toString n = String.ofList (Text.Decimal.canonical text.toList) := by
  obtain ⟨hnumeral, rfl⟩ := readNarrow_eq_ok_iff.mp h
  rw [← toString_value hnumeral]
  show toString (UInt32.ofNat _).toNat = _
  rw [UInt32.toNat_ofNat_of_lt' (Nat.lt_of_le_sub_one (by decide) hnumeral.2.2)]

theorem readMode_eq_ok_iff {text : String} {m : Mode} :
    readMode text = .ok m ↔ m.name = text.map Char.toLower := by
  rw [← Mode.ofNameAnyCase?_eq_some_iff]
  unfold readMode
  cases Mode.ofNameAnyCase? text <;> simp

theorem readFormat_eq_ok_iff {text : String} {f : Log.Format} :
    readFormat text = .ok f ↔ f.name = text.map Char.toLower := by
  rw [← Log.Format.ofNameAnyCase?_eq_some_iff]
  unfold readFormat
  cases Log.Format.ofNameAnyCase? text <;> simp

theorem readFlag_eq_ok_iff {text : String} {b : Bool} :
    readFlag text = .ok b ↔ toString b = text := by
  unfold readFlag
  have htrue : toString true = "true" := rfl
  have hfalse : toString false = "false" := rfl
  by_cases ht : text = "true"
  · rw [if_pos ht, ht]
    cases b with
    | true => exact ⟨fun _ => htrue, fun _ => rfl⟩
    | false => exact ⟨nofun, fun h => absurd (hfalse.symm.trans h) (by decide)⟩
  by_cases hf : text = "false"
  · rw [if_neg ht, if_pos hf, hf]
    cases b with
    | true => exact ⟨nofun, fun h => absurd (htrue.symm.trans h) (by decide)⟩
    | false => exact ⟨fun _ => hfalse, fun _ => rfl⟩
  · rw [if_neg ht, if_neg hf]
    cases b with
    | true => exact ⟨nofun, fun h => absurd (h.symm.trans htrue) ht⟩
    | false => exact ⟨nofun, fun h => absurd (h.symm.trans hfalse) hf⟩

/-! ## Assignments -/

/-- **A text that a key takes is taken.** -/
theorem assign_of_admits (s : Settings) {k : Key} {text : String} (h : k.Admits text) :
    ∃ s', s.assign k text = .ok s' := by
  cases k with
  | mode =>
      obtain ⟨m, hm⟩ := h
      exact ⟨_, map_eq_ok_iff.mpr ⟨m, readMode_eq_ok_iff.mpr hm, rfl⟩⟩
  | format =>
      obtain ⟨f, hf⟩ := h
      exact ⟨_, map_eq_ok_iff.mpr ⟨f, readFormat_eq_ok_iff.mpr hf, rfl⟩⟩
  | level => exact ⟨_, rfl⟩
  | file =>
      obtain ⟨b, hb⟩ : ∃ b : Bool, toString b = text := by
        rcases h with rfl | rfl
        · exact ⟨true, rfl⟩
        · exact ⟨false, rfl⟩
      exact ⟨_, map_eq_ok_iff.mpr ⟨b, readFlag_eq_ok_iff.mpr hb, rfl⟩⟩
  | maxMemory | maxCpuTime | pollInterval =>
      exact ⟨_, map_eq_ok_iff.mpr ⟨_, readWide_eq_ok_iff.mpr ⟨h, rfl⟩, rfl⟩⟩
  | maxFiles | maxProcesses =>
      exact ⟨_, map_eq_ok_iff.mpr ⟨_, readNarrow_eq_ok_iff.mpr ⟨h, rfl⟩, rfl⟩⟩

/-- **And no other text is**; the key shows its canonical form. -/
theorem render_of_assign {s s' : Settings} {k : Key} {text : String}
    (h : s.assign k text = .ok s') : k.Admits text ∧ s'.render k = k.canonical text := by
  cases k with
  | mode =>
      obtain ⟨m, hm, rfl⟩ := map_eq_ok_iff.mp h
      exact ⟨⟨m, readMode_eq_ok_iff.mp hm⟩, readMode_eq_ok_iff.mp hm⟩
  | format =>
      obtain ⟨f, hf, rfl⟩ := map_eq_ok_iff.mp h
      exact ⟨⟨f, readFormat_eq_ok_iff.mp hf⟩, readFormat_eq_ok_iff.mp hf⟩
  | level =>
      rw [← Except.ok.inj h]
      exact ⟨trivial, rfl⟩
  | file =>
      obtain ⟨b, hb, rfl⟩ := map_eq_ok_iff.mp h
      have htext := readFlag_eq_ok_iff.mp hb
      refine ⟨?_, htext⟩
      cases b with
      | true => exact .inl htext.symm
      | false => exact .inr htext.symm
  | maxMemory | maxCpuTime | pollInterval =>
      obtain ⟨n, hn, rfl⟩ := map_eq_ok_iff.mp h
      exact ⟨(readWide_eq_ok_iff.mp hn).1, toString_readWide hn⟩
  | maxFiles | maxProcesses =>
      obtain ⟨n, hn, rfl⟩ := map_eq_ok_iff.mp h
      exact ⟨(readNarrow_eq_ok_iff.mp hn).1, toString_readNarrow hn⟩

/-- **The other keys** show what they showed. -/
theorem render_of_assign_ne {s s' : Settings} {k k' : Key} {text : String}
    (h : s.assign k text = .ok s') (hk : k' ≠ k) : s'.render k' = s.render k' := by
  cases k with
  | level =>
      rw [← Except.ok.inj h]
      cases k' <;> first | rfl | exact absurd rfl hk
  | mode | maxMemory | maxCpuTime | maxFiles | maxProcesses | pollInterval | format | file =>
      obtain ⟨v, -, rfl⟩ := map_eq_ok_iff.mp h
      cases k' <;> first | rfl | exact absurd rfl hk

end Confine.Settings

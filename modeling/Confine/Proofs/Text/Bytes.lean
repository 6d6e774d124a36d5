import Confine.Text.Utf8
import Mathlib

set_option autoImplicit false

/-! # The bytes of characters

A text has the bytes of its characters, one after another. An ASCII character has one byte, which is
its number, and the bytes of all other characters are above those of the ASCII characters. So what
is said of ASCII characters in a text can be said of its bytes as well (`exists_byte_iff`,
`filterMap_bytesOf`).
-/

namespace Confine.Text

theorem bytesOf_eq_flatMap (s : String) :
    bytesOf s = s.toList.flatMap String.utf8EncodeChar := by
  conv => lhs; rw [← String.ofList_toList (s := s)]
  rw [bytesOf, String.toUTF8_eq_toByteArray, String.toByteArray_ofList, List.utf8Encode,
    toList_eq_data, List.data_toByteArray]

theorem bytesOf_append (s t : String) : bytesOf (s ++ t) = bytesOf s ++ bytesOf t := by
  rw [bytesOf_eq_flatMap, bytesOf_eq_flatMap, bytesOf_eq_flatMap, String.toList_append,
    List.flatMap_append]

/-- There are as many bytes as the text takes in UTF-8. -/
theorem length_bytesOf (s : String) : (bytesOf s).length = s.utf8ByteSize := by
  rw [bytesOf, toList_eq_data]
  rfl

theorem utf8EncodeChar_of_ascii {c : Char} (h : c.toNat < 128) :
    String.utf8EncodeChar c = [UInt8.ofNat c.toNat] := by
  unfold String.utf8EncodeChar
  exact if_pos (Nat.le_of_lt_succ h)

/-- The bytes of a character outside of ASCII are outside of it, too. -/
theorem le_of_mem_utf8EncodeChar {c : Char} (h : 128 ≤ c.toNat) :
    ∀ b ∈ String.utf8EncodeChar c, 128 ≤ b.toNat := by
  have hc : 128 ≤ c.val.toNat := h
  intro b hb
  simp only [String.utf8EncodeChar] at hb
  split at hb
  · omega
  split at hb
  · simp only [List.mem_cons, List.not_mem_nil, or_false] at hb
    rcases hb with rfl | rfl <;> simp only [UInt8.toNat_ofNat'] <;> omega
  split at hb
  · simp only [List.mem_cons, List.not_mem_nil, or_false] at hb
    rcases hb with rfl | rfl | rfl <;> simp only [UInt8.toNat_ofNat'] <;> omega
  · simp only [List.mem_cons, List.not_mem_nil, or_false] at hb
    rcases hb with rfl | rfl | rfl | rfl <;> simp only [UInt8.toNat_ofNat'] <;> omega

/-- The bytes of a text of ASCII characters are their numbers. -/
theorem bytesOf_of_ascii {s : String} (h : ∀ c ∈ s.toList, c.toNat < 128) :
    bytesOf s = s.toList.map fun c => UInt8.ofNat c.toNat := by
  rw [bytesOf_eq_flatMap, List.map_eq_flatMap]
  exact List.flatMap_congr fun c hc => utf8EncodeChar_of_ascii (h c hc)

/-- **A property of ASCII characters** is found among the bytes of a text exactly if it is found
among its characters. -/
theorem exists_byte_iff {s : String} {p : UInt8 → Prop} {q : Char → Prop}
    (hp : ∀ b, p b → b.toNat < 128) (hq : ∀ c, q c → c.toNat < 128)
    (hpq : ∀ c : Char, c.toNat < 128 → (p (UInt8.ofNat c.toNat) ↔ q c)) :
    (∃ b ∈ bytesOf s, p b) ↔ ∃ c ∈ s.toList, q c := by
  rw [bytesOf_eq_flatMap]
  constructor
  · rintro ⟨b, hb, hpb⟩
    obtain ⟨c, hc, hbc⟩ := List.mem_flatMap.mp hb
    have hascii : c.toNat < 128 := by
      by_contra hge
      have hle := le_of_mem_utf8EncodeChar (Nat.le_of_not_lt hge) b hbc
      have hlt := hp b hpb
      omega
    rw [utf8EncodeChar_of_ascii hascii, List.mem_singleton] at hbc
    rw [hbc] at hpb
    exact ⟨c, hc, (hpq c hascii).mp hpb⟩
  · rintro ⟨c, hc, hqc⟩
    have hascii := hq c hqc
    refine ⟨UInt8.ofNat c.toNat, List.mem_flatMap.mpr ⟨c, hc, ?_⟩, (hpq c hascii).mpr hqc⟩
    rw [utf8EncodeChar_of_ascii hascii]
    exact List.mem_singleton_self _

/-- **What is picked out of a text byte by byte**, passing over all bytes outside of ASCII, is what
is picked out of it character by character. -/
theorem filterMap_bytesOf {α : Type} {f : UInt8 → Option α} {g : Char → Option α}
    (hf : ∀ b : UInt8, 128 ≤ b.toNat → f b = none) (hg : ∀ c : Char, 128 ≤ c.toNat → g c = none)
    (hfg : ∀ c : Char, c.toNat < 128 → f (UInt8.ofNat c.toNat) = g c) (s : String) :
    (bytesOf s).filterMap f = s.toList.filterMap g := by
  rw [bytesOf_eq_flatMap, List.filterMap_flatMap, List.filterMap_eq_flatMap_toList g]
  refine List.flatMap_congr fun c _ => ?_
  by_cases hascii : c.toNat < 128
  · rw [utf8EncodeChar_of_ascii hascii, ← hfg c hascii]
    cases hb : f (UInt8.ofNat c.toNat) <;> simp [hb]
  · have hge := Nat.le_of_not_lt hascii
    rw [hg c hge, Option.toList_none, List.filterMap_eq_nil_iff]
    exact fun b hb => hf b (le_of_mem_utf8EncodeChar hge b hb)

end Confine.Text

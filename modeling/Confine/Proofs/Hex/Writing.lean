import Confine.Proofs.Hex.Runs
import Confine.Proofs.Text.Bytes
import Confine.Proofs.Text.Lines

set_option autoImplicit false

/-! # Listings that were written

Bytes are read back from the listing that is written of them (`decode_encode`), and still if the
blank at its end is left out (`decode_trimEnd_encode`). A listing that names no bytes at all is one
without a digit (`decode_eq_nil_iff`).
-/

namespace Confine.Hex

/-! ## Digits that were written -/

/-- What holds of all numbers below a bound holds of the bytes below it. -/
theorem of_forall_lt {n : Nat} {p : UInt8 → Prop} (h : ∀ k ∈ List.range n, p (UInt8.ofNat k))
    {v : UInt8} (hv : v.toNat < n) : p v := by
  have hv := h v.toNat (List.mem_range.mpr hv)
  rwa [UInt8.ofNat_toNat] at hv

theorem value?_digit {v : UInt8} (h : v < 16) :
    value? (UInt8.ofNat (digit v).toNat) = some v.toNat :=
  of_forall_lt (n := 16) (p := fun v => value? (UInt8.ofNat (digit v).toNat) = some v.toNat)
    (by decide +kernel) (UInt8.lt_iff_toNat_lt.mp h)

theorem digit_ascii {v : UInt8} (h : v < 16) :
    (digit v).toNat < 128 ∧ Text.isBlank (digit v) = false :=
  of_forall_lt (n := 16) (p := fun v => (digit v).toNat < 128 ∧ Text.isBlank (digit v) = false)
    (by decide +kernel) (UInt8.lt_iff_toNat_lt.mp h)

theorem high_lt (b : UInt8) : b / 16 < 16 := by
  have hb := b.toNat_lt
  rw [UInt8.lt_iff_toNat_lt, UInt8.toNat_div]
  show b.toNat / 16 < 16
  omega

theorem low_lt (b : UInt8) : b % 16 < 16 := by
  rw [UInt8.lt_iff_toNat_lt, UInt8.toNat_mod]
  show b.toNat % 16 < 16
  omega

/-- The bytes of what is written for a byte. -/
def writtenByte (b : UInt8) : List UInt8 :=
  (encodeByte b).map fun c => UInt8.ofNat c.toNat

theorem bytesOf_encode (bytes : List UInt8) :
    Text.bytesOf (encode bytes) = bytes.flatMap writtenByte := by
  have hascii : ∀ c ∈ (encode bytes).toList, c.toNat < 128 := by
    intro c hc
    rw [encode, String.toList_ofList] at hc
    obtain ⟨b, -, hb⟩ := List.mem_flatMap.mp hc
    simp only [encodeByte, List.mem_cons, List.not_mem_nil, or_false] at hb
    rcases hb with rfl | rfl | rfl
    · exact (digit_ascii (high_lt b)).1
    · exact (digit_ascii (low_lt b)).1
    · decide
  rw [Text.bytesOf_of_ascii hascii, encode, String.toList_ofList, List.map_flatMap]
  rfl

/-! ## Reading what was written -/

theorem decodeFrom_written (offset : Nat) (bytes : List UInt8) :
    decodeFrom offset (bytes.flatMap writtenByte) = .ok bytes := by
  induction bytes generalizing offset with
  | nil => rfl
  | cons b rest ih =>
      have hhigh := value?_digit (high_lt b)
      have hlow := value?_digit (low_lt b)
      -- The two digits are the quotient and the remainder.
      have hbyte : UInt8.ofNat (16 * (b / 16).toNat + (b % 16).toNat) = b := by
        have hdiv : 16 * (b / 16).toNat + (b % 16).toNat = b.toNat := by
          rw [UInt8.toNat_div, UInt8.toNat_mod]
          exact Nat.div_add_mod b.toNat 16
        rw [hdiv, UInt8.ofNat_toNat]
      show decodeFrom offset (_ :: _ :: 0x20 :: rest.flatMap writtenByte) = _
      rw [decodeFrom_pair (by rw [isDigit, hhigh]; rfl) (by rw [isDigit, hlow]; rfl),
        decodeFrom_separator (by decide), ih, hhigh, hlow]
      show Except.ok _ = Except.ok _
      rw [Option.getD_some, Option.getD_some, hbyte]

/-- **Bytes are read back** from what was written of them. -/
theorem decode_encode (bytes : List UInt8) : decode (encode bytes) = .ok bytes := by
  show decodeFrom 0 (Text.bytesOf (encode bytes)) = _
  rw [bytesOf_encode, decodeFrom_written]

/-- A separator at the end of a readable listing means nothing. -/
theorem decodeFrom_concat_separator {offset : Nat} {b : UInt8} (hb : isDigit b = false)
    (bytes : List UInt8) {out : List UInt8} :
    decodeFrom offset (bytes ++ [b]) = .ok out ↔ decodeFrom offset bytes = .ok out := by
  have hruns : runs (bytes ++ [b]) = runs bytes ++ [[]] := by
    unfold runs
    rw [List.splitOnP_append_cons bytes [] (by simp [hb]), List.splitOnP_nil]
  rw [decodeFrom_eq_ok_iff, decodeFrom_eq_ok_iff, hruns, List.flatMap_append]
  simp [or_imp, forall_and, spell]

/-- What is written of some bytes ends in a blank, and trimming takes away just this one. -/
theorem exists_trimEnd_encode {bytes : List UInt8} (h : bytes ≠ []) :
    ∃ front, (encode bytes).toList = front ++ [' ']
      ∧ Text.trimEnd (encode bytes).toList = front := by
  obtain ⟨init, b, rfl⟩ := (List.eq_nil_or_concat bytes).resolve_left h
  have hlist : (encode (init ++ [b])).toList
      = (init.flatMap encodeByte ++ [digit (b / 16)] ++ [digit (b % 16)]) ++ [' '] := by
    rw [encode, String.toList_ofList, List.flatMap_append]
    simp [encodeByte]
  rw [List.concat_eq_append]
  refine ⟨_, hlist, ?_⟩
  rw [hlist, Text.trimEnd_eq_rdropWhile, List.rdropWhile_concat_pos _ _ _ (by decide),
    List.rdropWhile_concat_neg _ _ _ (by simp [(digit_ascii (low_lt b)).2])]

/-- Bytes are read back without the blank at the end, too. -/
theorem decode_trimEnd_encode (bytes : List UInt8) :
    decode (String.ofList (Text.trimEnd (encode bytes).toList)) = .ok bytes := by
  by_cases hnil : bytes = []
  · have hsame : String.ofList (Text.trimEnd (encode []).toList) = encode [] := by
      simp [encode, Text.trimEnd]
    rw [hnil, hsame, decode_encode]
  obtain ⟨front, hlist, htrim⟩ := exists_trimEnd_encode hnil
  have hbytes : Text.bytesOf (encode bytes) = Text.bytesOf (String.ofList front) ++ [0x20] := by
    rw [Text.bytesOf_eq_flatMap, Text.bytesOf_eq_flatMap, hlist, String.toList_ofList,
      List.flatMap_append]
    rfl
  have hwhole : decodeFrom 0 (Text.bytesOf (encode bytes)) = .ok bytes := decode_encode bytes
  rw [hbytes, decodeFrom_concat_separator (by decide)] at hwhole
  rw [htrim]
  exact hwhole

/-! ## Listings of nothing -/

theorem lt_of_isDigit {b : UInt8} (h : isDigit b = true) : b.toNat < 128 :=
  of_forall_lt (n := 256) (p := fun b => isDigit b = true → b.toNat < 128)
    (by decide +kernel) b.toNat_lt h

theorem lt_of_mem_lowerDigits {c : Char} (h : c.toLower ∈ lowerDigits) : c.toNat < 128 := by
  have hall : lowerDigits.all (fun d => decide (d.toNat < 128)) = true := rfl
  by_contra hge
  -- Only ASCII characters have another lower case here.
  have hsame : c.toLower = c := by
    unfold Char.toLower
    rw [dif_neg]
    rintro ⟨-, hle⟩
    exact hge (Nat.lt_of_le_of_lt (UInt32.le_iff_toNat_le.mp hle) (by decide))
  rw [hsame] at h
  exact hge (of_decide_eq_true (List.all_eq_true.mp hall c h))

theorem isDigit_iff_of_ascii {c : Char} (h : c.toNat < 128) :
    isDigit (UInt8.ofNat c.toNat) = true ↔ c.toLower ∈ lowerDigits := by
  have hchar : Char.ofNat (UInt8.ofNat c.toNat).toNat = c := by
    rw [UInt8.toNat_ofNat_of_lt' (by omega : c.toNat < 256), Char.ofNat_toNat]
  rw [isDigit, value?, hchar, List.isSome_idxOf?]

/-- **A listing names no bytes** exactly if there is no digit in it. -/
theorem decode_eq_nil_iff (text : String) :
    decode text = .ok [] ↔ ∀ c ∈ text.toList, c.toLower ∉ lowerDigits := by
  have hnone : decode text = .ok [] ↔ ∀ b ∈ Text.bytesOf text, isDigit b = false := by
    show decodeFrom 0 (Text.bytesOf text) = .ok [] ↔ _
    generalize 0 = offset
    generalize Text.bytesOf text = bytes
    constructor
    · intro h b hb
      have hcount := length_of_decodeFrom h
      simpa using List.countP_eq_zero.mp hcount.symm b hb
    · intro h
      induction bytes generalizing offset with
      | nil => rfl
      | cons b rest ih =>
          rw [decodeFrom_separator (h b List.mem_cons_self)]
          exact ih (offset + 1) fun c hc => h c (List.mem_cons_of_mem _ hc)
  have hsome := Text.exists_byte_iff (s := text) (fun b => lt_of_isDigit)
    (fun c => lt_of_mem_lowerDigits) fun c => isDigit_iff_of_ascii
  rw [hnone]
  simpa [not_exists] using not_congr hsome

end Confine.Hex

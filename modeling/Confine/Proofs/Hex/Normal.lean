import Confine.Program.Listings
import Confine.Proofs.Hex.Writing

set_option autoImplicit false

/-! # Listings that name the same bytes

Many listings name the same bytes, and one of them is the one that is written. `Written` describes
this one by its looks, without the bytes: pairs of upper-case digits, and a space after each. So a
readable listing is turned into a written one by reading it and writing what was read, and it stays
as it is exactly if it was a written one already.

What a readable listing names depends on its digits alone (`values_eq_of_decode`). Hence two of them
name the same bytes exactly if they have the same digits in the same order, in whatever case and
however they are separated.
-/

namespace Confine.Hex

/-! ## Written listings -/

/-- The digits in upper case, in the order of their values. -/
def upperDigits : List Char := "0123456789ABCDEF".toList

/-- **A written listing**: groups of two upper-case digits, each followed by one space. -/
inductive Written : List Char → Prop
  | nil : Written []
  | group {hi lo : Char} {rest : List Char} (hhi : hi ∈ upperDigits) (hlo : lo ∈ upperDigits)
      (h : Written rest) : Written (hi :: lo :: ' ' :: rest)

theorem upperDigits_eq : upperDigits = (List.range 16).map fun v => digit (UInt8.ofNat v) := rfl

theorem mem_upperDigits {c : Char} :
    c ∈ upperDigits ↔ ∃ v, v < 16 ∧ digit (UInt8.ofNat v) = c := by
  rw [upperDigits_eq, List.mem_map]
  simp only [List.mem_range]

theorem digit_mem_upperDigits {v : UInt8} (h : v < 16) : digit v ∈ upperDigits :=
  mem_upperDigits.mpr ⟨v.toNat, UInt8.lt_iff_toNat_lt.mp h, by rw [UInt8.ofNat_toNat]⟩

theorem written_encode (bytes : List UInt8) : Written (encode bytes).toList := by
  rw [encode, String.toList_ofList]
  induction bytes with
  | nil => exact .nil
  | cons b rest ih =>
      exact .group (digit_mem_upperDigits (high_lt b)) (digit_mem_upperDigits (low_lt b)) ih

/-- Two digits are what is written of the byte that they name. -/
theorem encodeByte_of_halves {hi lo : Nat} (hhi : hi < 16) (hlo : lo < 16) :
    encodeByte (UInt8.ofNat (16 * hi + lo))
      = [digit (UInt8.ofNat hi), digit (UInt8.ofNat lo), ' '] := by
  have hhigh : UInt8.ofNat (16 * hi + lo) / 16 = UInt8.ofNat hi := by
    rw [← UInt8.toNat_inj, UInt8.toNat_div, UInt8.toNat_ofNat_of_lt' (by show _ < 256; omega),
      UInt8.toNat_ofNat_of_lt' (by show _ < 256; omega)]
    show (16 * hi + lo) / 16 = hi
    omega
  have hlow : UInt8.ofNat (16 * hi + lo) % 16 = UInt8.ofNat lo := by
    rw [← UInt8.toNat_inj, UInt8.toNat_mod, UInt8.toNat_ofNat_of_lt' (by show _ < 256; omega),
      UInt8.toNat_ofNat_of_lt' (by show _ < 256; omega)]
    show (16 * hi + lo) % 16 = lo
    omega
  rw [encodeByte, hhigh, hlow]

/-- **What looks like a written listing was written** of some bytes. -/
theorem exists_encode_of_written {text : String} (h : Written text.toList) :
    ∃ bytes, encode bytes = text := by
  have hchars : ∀ cs, Written cs → ∃ bytes : List UInt8, bytes.flatMap encodeByte = cs := by
    intro cs hcs
    induction hcs with
    | nil => exact ⟨[], rfl⟩
    | @group hi lo rest hhi hlo _ ih =>
        obtain ⟨u, hu, rfl⟩ := mem_upperDigits.mp hhi
        obtain ⟨v, hv, rfl⟩ := mem_upperDigits.mp hlo
        obtain ⟨bytes, rfl⟩ := ih
        refine ⟨UInt8.ofNat (16 * u + v) :: bytes, ?_⟩
        rw [List.flatMap_cons, encodeByte_of_halves hu hv]
        rfl
  obtain ⟨bytes, hbytes⟩ := hchars text.toList h
  exact ⟨bytes, by rw [encode, hbytes, String.ofList_toList]⟩

/-- **Writing what was read gives the listing back** exactly if it was a written one. -/
theorem encode_eq_iff {text : String} {bytes : List UInt8} (h : decode text = .ok bytes) :
    encode bytes = text ↔ Written text.toList := by
  constructor
  · rintro rfl
    exact written_encode bytes
  · intro hw
    obtain ⟨bytes', rfl⟩ := exists_encode_of_written hw
    rw [decode_encode] at h
    cases h
    rfl

/-! ## The digits of a listing -/

/-- **The digits of a text**, in order and in lower case. -/
def digits (text : String) : List Char :=
  (text.toList.map Char.toLower).filter (· ∈ lowerDigits)

/-- The values of the digits of a text, in order. -/
def values (text : String) : List Nat :=
  (digits text).filterMap fun c => lowerDigits.idxOf? c

/-- The digits are known from their values. -/
theorem digits_eq (text : String) : digits text = (values text).filterMap (lowerDigits[·]?) := by
  have hall : ∀ c ∈ digits text, (lowerDigits.idxOf? c).bind (lowerDigits[·]?) = some c := by
    intro c hc
    have hmem : c ∈ lowerDigits := of_decide_eq_true (List.mem_filter.mp hc).2
    obtain ⟨v, hv⟩ := Option.isSome_iff_exists.mp (List.isSome_idxOf?.mpr hmem)
    obtain ⟨hlt, hget, -⟩ := List.idxOf?_eq_some_iff.mp hv
    rw [hv, Option.bind_some, List.getElem?_eq_getElem hlt, hget]
  rw [values, List.filterMap_filterMap, List.filterMap_congr hall, List.filterMap_some]

theorem digits_eq_iff {t u : String} : digits t = digits u ↔ values t = values u := by
  constructor
  · intro h
    rw [values, values, h]
  · intro h
    rw [digits_eq, digits_eq, h]

theorem values_eq_filterMap_chars (text : String) :
    values text = text.toList.filterMap fun c => lowerDigits.idxOf? c.toLower := by
  rw [values, digits, List.filterMap_filter, List.filterMap_map]
  refine List.filterMap_congr fun c _ => ?_
  by_cases hmem : c.toLower ∈ lowerDigits
  · simp [hmem]
  · simp [hmem, List.idxOf?_eq_none_iff.mpr hmem]

theorem values_eq_filterMap_bytes (text : String) :
    values text = (Text.bytesOf text).filterMap value? := by
  rw [values_eq_filterMap_chars]
  refine (Text.filterMap_bytesOf (fun b hb => ?_) (fun c hc => ?_) (fun c hc => ?_) text).symm
  · have hnot : isDigit b = false := by
      by_contra hdigit
      have hlt := lt_of_isDigit (Bool.eq_true_of_not_eq_false hdigit)
      omega
    simpa [isDigit] using hnot
  · rw [List.idxOf?_eq_none_iff]
    intro hmem
    have hlt := lt_of_mem_lowerDigits hmem
    omega
  · rw [value?, UInt8.toNat_ofNat_of_lt' (Nat.lt_trans hc (by decide)), Char.ofNat_toNat]

/-! ## What a listing names is in its digits -/

/-- The values of the two digits that name a byte. -/
def halves (b : UInt8) : List Nat := [b.toNat / 16, b.toNat % 16]

theorem flatMap_halves_injective {bytes bytes' : List UInt8}
    (h : bytes.flatMap halves = bytes'.flatMap halves) : bytes = bytes' := by
  induction bytes generalizing bytes' with
  | nil =>
      cases bytes' with
      | nil => rfl
      | cons c rest' => cases h
  | cons b rest ih =>
      cases bytes' with
      | nil => cases h
      | cons c rest' =>
          simp only [List.flatMap_cons, halves, List.cons_append, List.nil_append, List.cons.injEq]
            at h
          obtain ⟨hhigh, hlow, hrest⟩ := h
          have hb : b = c := by
            rw [← UInt8.toNat_inj]
            omega
          rw [hb, ih hrest]

theorem lt_of_value? {b : UInt8} {v : Nat} (h : value? b = some v) : v < 16 := by
  obtain ⟨hlt, -⟩ := List.idxOf?_eq_some_iff.mp h
  exact hlt

/-- The digits of what is readable are those of the bytes that it names. -/
theorem filterMap_value?_of_decodeFrom {offset : Nat} {bytes out : List UInt8}
    (h : decodeFrom offset bytes = .ok out) : bytes.filterMap value? = out.flatMap halves := by
  induction bytes using reading_induction generalizing offset out with
  | nil =>
      cases h
      rfl
  | separator b rest hb ih =>
      rw [decodeFrom_separator hb] at h
      have hnone : value? b = none := by simpa [isDigit] using hb
      rw [List.filterMap_cons_none hnone]
      exact ih h
  | lone b rest hb hrest =>
      rw [decodeFrom_lone hb offset hrest] at h
      cases h
  | pair b c rest hb hc ih =>
      obtain ⟨u, hu⟩ := Option.isSome_iff_exists.mp hb
      obtain ⟨v, hv⟩ := Option.isSome_iff_exists.mp hc
      rw [decodeFrom_pair hb hc] at h
      obtain ⟨inner, hinner, rfl⟩ := ok_of_map h
      have hbyte : halves (UInt8.ofNat (16 * u + v)) = [u, v] := by
        have hult := lt_of_value? hu
        have hvlt := lt_of_value? hv
        rw [halves, UInt8.toNat_ofNat_of_lt' (by show _ < 256; omega)]
        congr 1
        · omega
        · congr 1
          omega
      rw [List.filterMap_cons_some hu, List.filterMap_cons_some hv, ih hinner, List.flatMap_cons,
        hu, hv, Option.getD_some, Option.getD_some, hbyte]
      rfl

theorem values_eq_of_decode {text : String} {bytes : List UInt8} (h : decode text = .ok bytes) :
    values text = bytes.flatMap halves := by
  rw [values_eq_filterMap_bytes]
  exact filterMap_value?_of_decodeFrom h

/-- **Two readable listings name the same bytes** exactly if they have the same digits. -/
theorem eq_iff_digits_eq {t u : String} {x y : List UInt8} (ht : decode t = .ok x)
    (hu : decode u = .ok y) : x = y ↔ digits t = digits u := by
  rw [digits_eq_iff, values_eq_of_decode ht, values_eq_of_decode hu]
  exact ⟨congrArg _, flatMap_halves_injective⟩

/-! ## Reading and writing -/

/-- **Reading and writing are inverse** on written listings. Bytes are read back from what is
written of them, with the space at its end or as it is shown on a line. A readable listing is still
readable when it has been read and written, as the same bytes, and it has not changed exactly if it
was a written listing. Two readable listings name the same bytes exactly if their digits are the
same, in order and apart from their case. -/
theorem decode_encode_roundtrip :
    (∀ bytes, decode (encode bytes) = .ok bytes
        ∧ decode (Program.listingLine (encode bytes)) = .ok bytes)
      ∧ (∀ text bytes, decode text = .ok bytes →
          decode (encode bytes) = .ok bytes ∧ (encode bytes = text ↔ Written text.toList))
      ∧ ∀ t u x y, decode t = .ok x → decode u = .ok y → (x = y ↔ digits t = digits u) := by
  refine ⟨fun bytes => ⟨decode_encode bytes, decode_trimEnd_encode bytes⟩, ?_, ?_⟩
  · intro text bytes h
    exact ⟨decode_encode bytes, encode_eq_iff h⟩
  · intro t u x y ht hu
    exact eq_iff_digits_eq ht hu

/-- Two listings of the same two bytes, of which one was written. -/
theorem decode_encode_roundtrip_two_bytes :
    decode "b8:2a" = .ok [0xb8, 0x2a] ∧ decode "B8 2A " = .ok [0xb8, 0x2a]
      ∧ (encode [0xb8, 0x2a] = "B8 2A " ↔ Written "B8 2A ".toList)
      ∧ (encode [0xb8, 0x2a] = "b8:2a" ↔ Written "b8:2a".toList)
      ∧ (([0xb8, 0x2a] : List UInt8) = [0xb8, 0x2a] ↔ digits "b8:2a" = digits "B8 2A ") := by
  have h : decode "b8:2a" = .ok [0xb8, 0x2a] := by cbv
  have h' : decode "B8 2A " = .ok [0xb8, 0x2a] := by cbv
  obtain ⟨-, hwritten, hdigits⟩ := decode_encode_roundtrip
  exact ⟨h, h', (hwritten _ _ h').2, (hwritten _ _ h).2, hdigits _ _ _ _ h h'⟩

end Confine.Hex

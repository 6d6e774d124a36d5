import Confine.Text.Decimal

set_option autoImplicit false

/-! # Numerals

What the reader of decimal numbers accepts: digits, and a plus sign in front of them that means
nothing, as long as the number stays within the bound (`read_eq_ok_iff`). Zeros in front of the
digits mean nothing either, so each number has many numerals; the one that it is written with is
what is left of any of them without the sign and the zeros (`toDigits_value`).
-/

namespace Confine.Text.Decimal

/-! ## What is read -/

/-- The digits of a numeral, without the sign. -/
def digits : List Char → List Char
  | '+' :: rest => rest
  | cs => cs

/-- The number that a numeral means. -/
def value (cs : List Char) : Nat :=
  Nat.ofDigitChars 10 (digits cs) 0

/-- **Numerals of numbers up to a bound**. -/
def IsNumeral (bound : Nat) (cs : List Char) : Prop :=
  digits cs ≠ [] ∧ (∀ c ∈ digits cs, c.isDigit = true) ∧ value cs ≤ bound

theorem digitValue?_eq_some {c : Char} (h : c.isDigit = true) :
    digitValue? c = some (c.toNat - '0'.toNat) := by
  rw [Char.isDigit, Bool.and_eq_true, decide_eq_true_iff, decide_eq_true_iff] at h
  exact if_pos h

theorem digitValue?_eq_none {c : Char} (h : ¬ c.isDigit = true) : digitValue? c = none := by
  rw [Char.isDigit, Bool.and_eq_true, decide_eq_true_iff, decide_eq_true_iff] at h
  exact if_neg h

/-- More digits make no smaller number. -/
theorem le_ofDigitChars (cs : List Char) (acc : Nat) : acc ≤ Nat.ofDigitChars 10 cs acc := by
  induction cs generalizing acc with
  | nil => exact Nat.le_of_eq Nat.ofDigitChars_nil.symm
  | cons c cs ih =>
      rw [Nat.ofDigitChars_cons]
      have hmore := ih (10 * acc + (c.toNat - '0'.toNat))
      omega

theorem readDigits_eq_ok_iff {bound : Nat} {cs : List Char} {acc n : Nat} (hacc : acc ≤ bound) :
    readDigits bound acc cs = .ok n
      ↔ (∀ c ∈ cs, c.isDigit = true) ∧ Nat.ofDigitChars 10 cs acc = n ∧ n ≤ bound := by
  induction cs generalizing acc with
  | nil =>
      rw [readDigits, Nat.ofDigitChars_nil]
      constructor
      · intro h
        rw [← Except.ok.inj h]
        exact ⟨fun _ hc => (nomatch hc), rfl, hacc⟩
      · rintro ⟨-, rfl, -⟩
        rfl
  | cons c cs ih =>
      rw [readDigits, List.forall_mem_cons, Nat.ofDigitChars_cons, Nat.mul_comm 10 acc]
      by_cases hc : c.isDigit = true
      · rw [digitValue?_eq_some hc]
        dsimp only
        by_cases hle : acc * 10 + (c.toNat - '0'.toNat) ≤ bound
        · rw [if_pos hle, ih hle]
          exact ⟨fun h => ⟨⟨hc, h.1⟩, h.2⟩, fun h => ⟨h.1.2, h.2⟩⟩
        · -- The reader gives up at once, and it may: the number does not become smaller.
          rw [if_neg hle]
          refine ⟨nofun, fun ⟨_, hn, hbound⟩ => absurd ?_ hle⟩
          have hmore := le_ofDigitChars cs (acc * 10 + (c.toNat - '0'.toNat))
          omega
      · rw [digitValue?_eq_none hc]
        exact ⟨nofun, fun h => absurd h.1.1 hc⟩

/-- **What is read**: the number that a numeral means. -/
theorem read_eq_ok_iff {bound : Nat} {cs : List Char} {n : Nat} :
    read bound cs = .ok n ↔ IsNumeral bound cs ∧ value cs = n := by
  have hdigits : ∀ ds : List Char, ds ≠ [] →
      (readDigits bound 0 ds = .ok n
        ↔ (ds ≠ [] ∧ (∀ c ∈ ds, c.isDigit = true) ∧ Nat.ofDigitChars 10 ds 0 ≤ bound)
          ∧ Nat.ofDigitChars 10 ds 0 = n) := by
    intro ds hds
    rw [readDigits_eq_ok_iff (Nat.zero_le bound)]
    constructor
    · rintro ⟨hall, rfl, hbound⟩
      exact ⟨⟨hds, hall, hbound⟩, rfl⟩
    · rintro ⟨⟨-, hall, hbound⟩, rfl⟩
      exact ⟨hall, rfl, hbound⟩
  unfold IsNumeral value
  unfold read
  split
  case h_1 => exact ⟨nofun, fun h => absurd rfl h.1.1⟩
  case h_2 => exact ⟨nofun, fun h => absurd rfl h.1.1⟩
  case h_3 rest hrest =>
    exact hdigits rest fun h => hrest (by rw [h])
  case h_4 hempty hsign hother =>
    have heq : digits cs = cs := by
      unfold digits
      split
      case h_1 rest => exact absurd rfl (hother rest)
      case h_2 => rfl
    rw [heq]
    exact hdigits cs hempty

/-! ## What is written -/

/-- What is left of a numeral without the sign and the zeros in front. -/
def canonical (cs : List Char) : List Char :=
  match (digits cs).dropWhile (· == '0') with
  | [] => ['0']
  | ds => ds

theorem digitChar_of_isDigit {c : Char} (h : c.isDigit = true) :
    (c.toNat - '0'.toNat).digitChar = c ∧ c.toNat - '0'.toNat < 10 := by
  rw [Char.isDigit, Bool.and_eq_true, decide_eq_true_iff, decide_eq_true_iff] at h
  have hlow : '0'.toNat ≤ c.toNat := h.1
  have hhigh : c.toNat ≤ '9'.toNat := h.2
  have h0 : '0'.toNat = 48 := rfl
  have h9 : '9'.toNat = 57 := rfl
  have hall : ∀ n : Fin 10, (n : Nat).digitChar = Char.ofNat (n + 48) := by decide
  have hlt : c.toNat - '0'.toNat < 10 := by omega
  have hc := hall ⟨c.toNat - '0'.toNat, hlt⟩
  rw [show c.toNat - '0'.toNat + 48 = c.toNat by omega, Char.ofNat_toNat] at hc
  exact ⟨hc, hlt⟩

/-- A positive number and the digits after it. -/
theorem toDigits_append {cs : List Char} (h : ∀ c ∈ cs, c.isDigit = true) {acc : Nat}
    (hacc : 0 < acc) : Nat.toDigits 10 acc ++ cs = Nat.toDigits 10 (Nat.ofDigitChars 10 cs acc) := by
  induction cs generalizing acc with
  | nil => rw [Nat.ofDigitChars_nil, List.append_nil]
  | cons c cs ih =>
      obtain ⟨hc, hlt⟩ := digitChar_of_isDigit (h c List.mem_cons_self)
      have hnext := Nat.toDigits_append_toDigits (b := 10) (n := acc) (by omega) hacc hlt
      rw [Nat.toDigits_of_lt_base hlt, hc] at hnext
      rw [Nat.ofDigitChars_cons, ← ih (fun d hd => h d (List.mem_cons_of_mem c hd)) (by omega),
        ← hnext, List.append_assoc]
      rfl

/-- Zeros in front do not count. -/
theorem ofDigitChars_dropWhile (cs : List Char) :
    Nat.ofDigitChars 10 (cs.dropWhile (· == '0')) 0 = Nat.ofDigitChars 10 cs 0 := by
  induction cs with
  | nil => rfl
  | cons c cs ih =>
      by_cases hc : c = '0'
      · subst hc
        rw [List.dropWhile_cons_of_pos rfl, ih, Nat.ofDigitChars_cons]
        rfl
      · rw [List.dropWhile_cons_of_neg (by simpa using hc)]

/-- **A number is written with what is left of its numerals.** -/
theorem toDigits_value {bound : Nat} {cs : List Char} (h : IsNumeral bound cs) :
    Nat.toDigits 10 (value cs) = canonical cs := by
  have hall : ∀ c ∈ (digits cs).dropWhile (· == '0'), c.isDigit = true := fun c hc =>
    h.2.1 c ((List.dropWhile_sublist _).mem hc)
  have hhead : ∀ c rest, (digits cs).dropWhile (· == '0') = c :: rest → c ≠ '0' := by
    intro c rest hcs hc
    have hnot := List.head?_dropWhile_not (· == '0') (digits cs)
    rw [hcs] at hnot
    simp [hc] at hnot
  unfold value canonical
  rw [← ofDigitChars_dropWhile]
  cases hcs : (digits cs).dropWhile (· == '0') with
  | nil => rw [Nat.ofDigitChars_nil, Nat.toDigits_zero]
  | cons c rest =>
      -- The first digit that is left is positive, and each of the others adds one more digit.
      rw [hcs] at hall
      obtain ⟨hc, hlt⟩ := digitChar_of_isDigit (hall c List.mem_cons_self)
      have hpos : 0 < c.toNat - '0'.toNat := by
        refine Nat.pos_of_ne_zero fun hzero => hhead c rest hcs ?_
        rw [← hc, hzero]
        rfl
      have happend := toDigits_append (fun d hd => hall d (List.mem_cons_of_mem c hd)) hpos
      rw [Nat.toDigits_of_lt_base hlt, hc] at happend
      rw [Nat.ofDigitChars_cons, Nat.mul_zero, Nat.zero_add, ← happend]
      rfl

/-- **What is written of a number is read back.** -/
theorem isNumeral_toDigits {bound n : Nat} (h : n ≤ bound) :
    IsNumeral bound (Nat.toDigits 10 n) ∧ value (Nat.toDigits 10 n) = n := by
  have hall : ∀ c ∈ Nat.toDigits 10 n, c.isDigit = true := fun c hc =>
    Nat.isDigit_of_mem_toDigits (by omega) (by omega) hc
  have hdigits : digits (Nat.toDigits 10 n) = Nat.toDigits 10 n := by
    unfold digits
    split
    case h_1 rest hsign =>
      -- A sign is no digit.
      rw [hsign] at hall
      nomatch hall '+' List.mem_cons_self
    case h_2 => rfl
  have hvalue : value (Nat.toDigits 10 n) = n := by
    rw [value, hdigits, Nat.ofDigitChars_ten_toDigits]
  refine ⟨⟨?_, ?_, ?_⟩, hvalue⟩
  · rw [hdigits]
    exact Nat.toDigits_ne_nil
  · rwa [hdigits]
  · rwa [hvalue]

end Confine.Text.Decimal

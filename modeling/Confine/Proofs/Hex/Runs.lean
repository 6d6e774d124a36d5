import Confine.Hex
import Confine.Text.Utf8
import Mathlib

set_option autoImplicit false

/-! # The grammar of listings

A listing is read from left to right, two digits at a time. What it means can be said without any
scanning: cut its bytes at everything that is not a digit, and look at the runs of digits that are
left. A listing is readable exactly if every run has an even number of digits, and then its bytes
are those that the pairs in the runs spell. Otherwise the fault is the last digit of the first run
that is odd (`decode_iff`).
-/

namespace Confine.Hex

/-! ## Runs of digits -/

/-- The digits in lower case, in the order of their values. -/
def lowerDigits : List Char := "0123456789abcdef".toList

/-- The value of a byte that is a digit in either case. -/
def value? (b : UInt8) : Option Nat := lowerDigits.idxOf? (Char.ofNat b.toNat).toLower

/-- Whether a byte is a digit. -/
def isDigit (b : UInt8) : Bool := (value? b).isSome

/-- **The runs of digits**: what is left of some bytes when they are cut at everything that is not a
digit. Between two such bytes in a row there is a run of no digits. -/
def runs (bytes : List UInt8) : List (List UInt8) := bytes.splitOnP fun b => !isDigit b

/-- The bytes that the digits of a run spell, two by two. -/
def spell : List UInt8 → List UInt8
  | b :: c :: rest =>
    UInt8.ofNat (16 * (value? b).getD 0 + (value? c).getD 0) :: spell rest
  | _ => []

/-- **The first odd run**: `run` is a run of digits with nothing but `before` before it and `after`
after it, it has an odd number of digits, and all runs before it have an even number. -/
structure FirstOdd (bytes before run after : List UInt8) : Prop where
  eq : bytes = before ++ (run ++ after)
  digits : ∀ b ∈ run, isDigit b = true
  left : ∀ b ∈ before.getLast?, isDigit b = false
  right : ∀ b ∈ after.head?, isDigit b = false
  odd : Odd run.length
  even : ∀ r ∈ runs before, Even r.length

theorem digitValue?_eq (b : UInt8) : digitValue? b = (value? b).map UInt8.ofNat := by
  -- There are only 256 bytes, and the two definitions have nothing else in common.
  have hall : ∀ n ∈ List.range 256,
      digitValue? (UInt8.ofNat n) = (value? (UInt8.ofNat n)).map UInt8.ofNat := by
    decide +kernel
  have hb := hall b.toNat (List.mem_range.mpr b.toNat_lt)
  rwa [UInt8.ofNat_toNat] at hb

theorem digitValue?_of_digit {b : UInt8} (h : isDigit b = true) :
    digitValue? b = some (UInt8.ofNat ((value? b).getD 0)) := by
  obtain ⟨v, hv⟩ := Option.isSome_iff_exists.mp h
  rw [digitValue?_eq, hv]
  rfl

theorem digitValue?_of_separator {b : UInt8} (h : isDigit b = false) : digitValue? b = none := by
  have hv : value? b = none := by simpa [isDigit] using h
  rw [digitValue?_eq, hv]
  rfl

@[simp] theorem runs_nil : runs [] = [[]] := List.splitOnP_nil

theorem runs_separator {b : UInt8} (h : isDigit b = false) (rest : List UInt8) :
    runs (b :: rest) = [] :: runs rest := by
  unfold runs
  rw [List.splitOnP_cons_eq_if_modifyHead, if_pos (by simp [h])]

/-- A digit in front joins the first run. -/
theorem runs_digit {b : UInt8} (h : isDigit b = true) {rest run : List UInt8}
    {others : List (List UInt8)} (hr : runs rest = run :: others) :
    runs (b :: rest) = (b :: run) :: others := by
  unfold runs at hr ⊢
  rw [List.splitOnP_cons_eq_if_modifyHead, if_neg (by simp [h]), hr, List.modifyHead_cons]

theorem exists_runs (bytes : List UInt8) : ∃ run others, runs bytes = run :: others :=
  List.exists_cons_of_ne_nil (List.splitOnP_ne_nil _ bytes)

/-- A run that is bounded on both sides is one of the runs. -/
theorem FirstOdd.mem_runs {bytes before run after : List UInt8}
    (h : FirstOdd bytes before run after) : run ∈ runs bytes := by
  have hrun : runs run = [run] :=
    List.splitOnP_eq_singleton fun b hb => by simp [h.digits b hb]
  have hright : run ∈ runs (run ++ after) := by
    cases after with
    | nil => simp [hrun]
    | cons c rest =>
        have hc := h.right c rfl
        unfold runs at hrun ⊢
        rw [List.splitOnP_append_cons run rest (by simp [hc]), hrun]
        exact List.mem_cons_self
  rw [h.eq]
  rcases List.eq_nil_or_concat before with rfl | ⟨earlier, c, rfl⟩
  · exact hright
  · -- The last byte before the run is a separator, and the text is cut there.
    have hc := h.left c (by simp)
    unfold runs at hright ⊢
    rw [List.concat_eq_append, List.append_assoc, List.singleton_append,
      List.splitOnP_append_cons earlier _ (by simp [hc])]
    exact List.mem_append_right _ hright

/-! ## Reading goes by runs -/

theorem decodeFrom_separator {b : UInt8} (h : isDigit b = false) (offset : Nat)
    (rest : List UInt8) : decodeFrom offset (b :: rest) = decodeFrom (offset + 1) rest := by
  cases rest with
  | nil => simp [decodeFrom, digitValue?_of_separator h]
  | cons c rest => simp [decodeFrom, digitValue?_of_separator h]

theorem decodeFrom_pair {b c : UInt8} (hb : isDigit b = true) (hc : isDigit c = true)
    (offset : Nat) (rest : List UInt8) :
    decodeFrom offset (b :: c :: rest) = (decodeFrom (offset + 2) rest).map
      (UInt8.ofNat (16 * (value? b).getD 0 + (value? c).getD 0) :: ·) := by
  have hbyte : UInt8.ofNat ((value? b).getD 0) * 16 + UInt8.ofNat ((value? c).getD 0)
      = UInt8.ofNat (16 * (value? b).getD 0 + (value? c).getD 0) := by
    rw [UInt8.ofNat_add, UInt8.ofNat_mul, UInt8.mul_comm]
    rfl
  simp only [decodeFrom, digitValue?_of_digit hb, digitValue?_of_digit hc, hbyte]

/-- A digit without a partner is where reading ends. -/
theorem decodeFrom_lone {b : UInt8} (hb : isDigit b = true) (offset : Nat) {rest : List UInt8}
    (hrest : ∀ c ∈ rest.head?, isDigit c = false) :
    decodeFrom offset (b :: rest) = .error ⟨offset, rest.head?⟩ := by
  cases rest with
  | nil => simp [decodeFrom, digitValue?_of_digit hb]
  | cons c rest =>
      simp [decodeFrom, digitValue?_of_digit hb, digitValue?_of_separator (hrest c rfl)]

/-- **Induction along the reading**: it passes over a separator, ends at a digit without a partner,
or takes two digits. -/
@[elab_as_elim]
theorem reading_induction {P : List UInt8 → Prop} (nil : P [])
    (separator : ∀ b rest, isDigit b = false → P rest → P (b :: rest))
    (lone : ∀ b rest, isDigit b = true → (∀ c ∈ rest.head?, isDigit c = false) → P (b :: rest))
    (pair : ∀ b c rest, isDigit b = true → isDigit c = true → P rest → P (b :: c :: rest))
    (bytes : List UInt8) : P bytes := by
  induction bytes using List.twoStepInduction with
  | nil => exact nil
  | singleton b =>
      cases hb : isDigit b with
      | false => exact separator b [] hb nil
      | true => exact lone b [] hb (by simp)
  | cons_cons b c rest ih ih' =>
      cases hb : isDigit b with
      | false => exact separator b (c :: rest) hb (ih' c)
      | true =>
          cases hc : isDigit c with
          | false => exact lone b (c :: rest) hb (by simpa using hc)
          | true => exact pair b c rest hb hc ih

/-! ## What a listing comes to -/

/-- **What a listing comes to**, said by its runs: the bytes that they spell if all of them are
even, or else the fault at the last digit of the first odd one. The offset is that of the first byte
of the listing. -/
def Means (offset : Nat) (bytes : List UInt8) : Except Fault (List UInt8) → Prop
  | .ok out => (∀ run ∈ runs bytes, Even run.length) ∧ out = (runs bytes).flatMap spell
  | .error fault => ∃ before run after, FirstOdd bytes before run after
      ∧ fault = ⟨offset + (before.length + run.length - 1), after.head?⟩

variable {b c : UInt8} {bytes rest before run after : List UInt8} {offset : Nat}
  {result : Except Fault (List UInt8)}

/-- The first odd run is the same if a separator is put in front. -/
theorem FirstOdd.separator (hb : isDigit b = false) (h : FirstOdd bytes before run after) :
    FirstOdd (b :: bytes) (b :: before) run after := by
  refine ⟨by rw [h.eq, List.cons_append], h.digits, ?_, h.right, h.odd, ?_⟩
  · cases before with
    | nil => simpa using hb
    | cons c before => simpa using h.left
  · rw [runs_separator hb]
    simpa using h.even

/-- An even run stays even with two more digits in front. -/
theorem even_runs_pair (hb : isDigit b = true) (hc : isDigit c = true)
    (h : ∀ run ∈ runs rest, Even run.length) : ∀ run ∈ runs (b :: c :: rest), Even run.length := by
  obtain ⟨first, others, hruns⟩ := exists_runs rest
  rw [hruns] at h
  rw [runs_digit hb (runs_digit hc hruns)]
  simp only [List.mem_cons, forall_eq_or_imp, List.length_cons] at h ⊢
  exact ⟨by simpa [Nat.add_assoc] using h.1.add even_two, h.2⟩

/-- Two more digits in front make the first odd run longer, or come before it. -/
theorem FirstOdd.pair (hb : isDigit b = true) (hc : isDigit c = true)
    (h : FirstOdd bytes before run after) :
    ∃ before' run', FirstOdd (b :: c :: bytes) before' run' after
      ∧ before'.length + run'.length = before.length + run.length + 2 := by
  -- With nothing before it the run begins with the two digits; otherwise it stays where it is.
  cases before with
  | nil =>
      refine ⟨[], b :: c :: run, ⟨by rw [h.eq]; rfl, ?_, by simp, h.right, ?_, by simp⟩, ?_⟩
      · simpa [hb, hc] using h.digits
      · simpa [Nat.add_assoc] using h.odd.add_even even_two
      · simp
  | cons d before =>
      refine ⟨b :: c :: d :: before, run, ⟨by rw [h.eq]; rfl, h.digits, ?_, h.right, h.odd, ?_⟩, ?_⟩
      · simpa using h.left
      · exact even_runs_pair hb hc h.even
      · simp only [List.length_cons]
        omega

theorem Means.separator (hb : isDigit b = false) (h : Means (offset + 1) rest result) :
    Means offset (b :: rest) result := by
  cases result with
  | ok out =>
      obtain ⟨heven, rfl⟩ := h
      refine ⟨by simpa [runs_separator hb] using heven, ?_⟩
      rw [runs_separator hb]
      rfl
  | error fault =>
      obtain ⟨before, run, after, hodd, rfl⟩ := h
      refine ⟨b :: before, run, after, hodd.separator hb, ?_⟩
      have hpos := hodd.odd.pos
      congr 1
      simp only [List.length_cons]
      omega

theorem Means.lone (hb : isDigit b = true) (hrest : ∀ c ∈ rest.head?, isDigit c = false) :
    Means offset (b :: rest) (.error ⟨offset, rest.head?⟩) :=
  ⟨[], [b], rest, ⟨rfl, by simpa using hb, by simp, hrest, odd_one, by simp⟩, rfl⟩

theorem Means.pair (hb : isDigit b = true) (hc : isDigit c = true)
    (h : Means (offset + 2) rest result) :
    Means offset (b :: c :: rest) (result.map
      (UInt8.ofNat (16 * (value? b).getD 0 + (value? c).getD 0) :: ·)) := by
  cases result with
  | ok out =>
      obtain ⟨heven, rfl⟩ := h
      refine ⟨even_runs_pair hb hc heven, ?_⟩
      obtain ⟨first, others, hruns⟩ := exists_runs rest
      rw [runs_digit hb (runs_digit hc hruns), hruns]
      rfl
  | error fault =>
      obtain ⟨before, run, after, hodd, rfl⟩ := h
      obtain ⟨before', run', hodd', hlen⟩ := hodd.pair hb hc
      have hpos := hodd.odd.pos
      refine ⟨before', run', after, hodd', ?_⟩
      congr 1
      omega

/-- **A listing is read for what it means.** -/
theorem means_decodeFrom (offset : Nat) (bytes : List UInt8) :
    Means offset bytes (decodeFrom offset bytes) := by
  induction bytes using reading_induction generalizing offset with
  | nil => exact ⟨by simp, rfl⟩
  | separator b rest hb ih =>
      rw [decodeFrom_separator hb]
      exact (ih (offset + 1)).separator hb
  | lone b rest hb hrest =>
      rw [decodeFrom_lone hb offset hrest]
      exact .lone hb hrest
  | pair b c rest hb hc ih =>
      rw [decodeFrom_pair hb hc]
      exact (ih (offset + 2)).pair hb hc

/-! ## Only one meaning -/

theorem ok_of_map {f : List UInt8 → List UInt8} {out : List UInt8}
    (h : result.map f = .ok out) : ∃ inner, result = .ok inner ∧ f inner = out := by
  cases result with
  | error fault => cases h
  | ok inner =>
      cases h
      exact ⟨inner, rfl, rfl⟩

/-- What is readable on its own is read first, whatever follows it. -/
theorem decodeFrom_append {out : List UInt8} (h : decodeFrom offset bytes = .ok out)
    (rest : List UInt8) :
    decodeFrom offset (bytes ++ rest)
      = (decodeFrom (offset + bytes.length) rest).map (out ++ ·) := by
  induction bytes using reading_induction generalizing offset out with
  | nil =>
      cases h
      cases hr : decodeFrom offset rest <;> simp [hr, Except.map]
  | separator b bytes hb ih =>
      rw [decodeFrom_separator hb] at h
      rw [List.cons_append, decodeFrom_separator hb, ih h, List.length_cons, Nat.add_right_comm,
        ← Nat.add_assoc]
  | lone b bytes hb hrest =>
      rw [decodeFrom_lone hb offset hrest] at h
      cases h
  | pair b c bytes hb hc ih =>
      rw [decodeFrom_pair hb hc] at h
      obtain ⟨inner, hinner, rfl⟩ := ok_of_map h
      have hoff : offset + 2 + bytes.length = offset + (b :: c :: bytes).length := by
        simp only [List.length_cons]
        omega
      rw [List.cons_append, List.cons_append, decodeFrom_pair hb hc, ih hinner, hoff]
      cases decodeFrom (offset + (b :: c :: bytes).length) rest <;> rfl

/-- A run of digits that is odd and ends is where reading ends. -/
theorem decodeFrom_odd (hdigits : ∀ b ∈ run, isDigit b = true)
    (hodd : Odd run.length) (hafter : ∀ b ∈ after.head?, isDigit b = false) (offset : Nat) :
    decodeFrom offset (run ++ after) = .error ⟨offset + (run.length - 1), after.head?⟩ := by
  induction run using List.twoStepInduction generalizing offset with
  | nil => simp at hodd
  | singleton b => exact decodeFrom_lone (hdigits b (by simp)) offset hafter
  | cons_cons b c run ih _ =>
      have hrun : Odd run.length := by
        simpa [Nat.odd_add, Nat.add_assoc] using hodd
      have hpos := hrun.pos
      have hb := hdigits b (by simp)
      have hc := hdigits c (by simp)
      rw [List.cons_append, List.cons_append, decodeFrom_pair hb hc,
        ih (fun d hd => hdigits d (by simp [hd])) hrun]
      show Except.error _ = Except.error _
      congr 2
      simp only [List.length_cons]
      omega

/-- **The first odd run decides where reading ends.** -/
theorem FirstOdd.decodeFrom_eq (h : FirstOdd bytes before run after) (offset : Nat) :
    decodeFrom offset bytes
      = .error ⟨offset + (before.length + run.length - 1), after.head?⟩ := by
  have hpos := h.odd.pos
  have hbefore := means_decodeFrom offset before
  rw [h.eq]
  cases hr : decodeFrom offset before with
  | ok out =>
      -- What is before the run is read to its end, and then the run itself.
      rw [decodeFrom_append hr, decodeFrom_odd h.digits h.odd h.right]
      show Except.error _ = Except.error _
      congr 2
      omega
  | error fault =>
      -- There would be an odd run before the first one.
      rw [hr] at hbefore
      obtain ⟨_, run', _, hodd', -⟩ := hbefore
      exact absurd (h.even run' hodd'.mem_runs) (Nat.not_even_iff_odd.mpr hodd'.odd)

theorem decodeFrom_eq_ok_iff {out : List UInt8} : decodeFrom offset bytes = .ok out ↔
    (∀ run ∈ runs bytes, Even run.length) ∧ out = (runs bytes).flatMap spell := by
  have hmeans := means_decodeFrom offset bytes
  refine ⟨fun h => by rwa [h] at hmeans, ?_⟩
  rintro ⟨heven, rfl⟩
  cases hr : decodeFrom offset bytes with
  | ok out =>
      rw [hr] at hmeans
      rw [hmeans.2]
  | error fault =>
      rw [hr] at hmeans
      obtain ⟨_, run, _, hodd, -⟩ := hmeans
      exact absurd (heven run hodd.mem_runs) (Nat.not_even_iff_odd.mpr hodd.odd)

theorem decodeFrom_eq_error_iff {fault : Fault} : decodeFrom offset bytes = .error fault ↔
    ∃ before run after, FirstOdd bytes before run after
      ∧ fault = ⟨offset + (before.length + run.length - 1), after.head?⟩ := by
  have hmeans := means_decodeFrom offset bytes
  refine ⟨fun h => by rwa [h] at hmeans, ?_⟩
  rintro ⟨before, run, after, hodd, rfl⟩
  exact hodd.decodeFrom_eq offset

/-- The bytes of a readable listing are half as many as its digits. -/
theorem length_of_decodeFrom {out : List UInt8} (h : decodeFrom offset bytes = .ok out) :
    2 * out.length = bytes.countP isDigit := by
  induction bytes using reading_induction generalizing offset out with
  | nil =>
      cases h
      rfl
  | separator b rest hb ih =>
      rw [decodeFrom_separator hb] at h
      rw [List.countP_cons_of_neg (by simp [hb])]
      exact ih h
  | lone b rest hb hrest =>
      rw [decodeFrom_lone hb offset hrest] at h
      cases h
  | pair b c rest hb hc ih =>
      rw [decodeFrom_pair hb hc] at h
      obtain ⟨inner, hinner, rfl⟩ := ok_of_map h
      rw [List.countP_cons_of_pos hb, List.countP_cons_of_pos hc, ← ih hinner, List.length_cons]
      omega

/-! ## The wording of faults -/

theorem Fault.reason_of_next {fault : Fault} (h : fault.next = some b) :
    fault.reason = "odd hex group before " ++ Text.quotedChar (Char.ofNat b.toNat) := by
  simp only [reason, h]

/-- The reason of a fault says that the text has ended if it has, and only then. -/
theorem Fault.reason_eq_end_iff {fault : Fault} :
    fault.reason = "odd hex group at end of input" ↔ fault.next = none := by
  cases hnext : fault.next with
  | none => simp [reason, hnext]
  | some b =>
      refine iff_of_false (fun h => ?_) (by simp)
      rw [reason_of_next hnext] at h
      -- The two wordings part after fourteen characters.
      have hchars := congrArg (fun s => s.toList[14]?) h
      simp at hchars

/-! ## Listings -/

/-- **The grammar of listings.** A text is readable exactly if every run of digits among its bytes
is even; it then means the bytes that the runs spell, which are half as many as the digits. Any
other text is refused, with a fault at the last digit of the first odd run, which says that the text
ends there exactly if that digit is its last byte, and names the byte that comes next otherwise. -/
theorem decode_iff (text : String) :
    (∀ out, decode text = .ok out ↔
        (∀ run ∈ runs (Text.bytesOf text), Even run.length)
          ∧ out = (runs (Text.bytesOf text)).flatMap spell
          ∧ 2 * out.length = (Text.bytesOf text).countP isDigit)
      ∧ ∀ fault, decode text = .error fault ↔
        ∃ before run after, FirstOdd (Text.bytesOf text) before run after
          ∧ fault.offset = before.length + run.length - 1
          ∧ fault.next = after.head?
          ∧ (fault.reason = "odd hex group at end of input"
              ↔ fault.offset + 1 = (Text.bytesOf text).length)
          ∧ ∀ b, (Text.bytesOf text)[fault.offset + 1]? = some b →
              fault.reason = "odd hex group before " ++ Text.quotedChar (Char.ofNat b.toNat) := by
  have hdecode : decode text = decodeFrom 0 (Text.bytesOf text) := rfl
  rw [hdecode]
  constructor
  · intro out
    constructor
    · intro h
      obtain ⟨heven, hout⟩ := decodeFrom_eq_ok_iff.mp h
      exact ⟨heven, hout, length_of_decodeFrom h⟩
    · rintro ⟨heven, hout, -⟩
      exact decodeFrom_eq_ok_iff.mpr ⟨heven, hout⟩
  · intro fault
    rw [decodeFrom_eq_error_iff]
    constructor
    · rintro ⟨before, run, after, hodd, rfl⟩
      have hpos := hodd.odd.pos
      have hend : 0 + (before.length + run.length - 1) + 1 = (before ++ run).length := by
        simp only [List.length_append]
        omega
      refine ⟨before, run, after, hodd, by simp, rfl, ?_, fun b hb => Fault.reason_of_next ?_⟩
      · rw [Fault.reason_eq_end_iff]
        show after.head? = none ↔ _
        rw [hend, hodd.eq, ← List.append_assoc, @List.length_append _ (before ++ run)]
        simp
      · show after.head? = some b
        rw [hend, hodd.eq, ← List.append_assoc, List.getElem?_append_right (Nat.le_refl _),
          Nat.sub_self] at hb
        rwa [List.head?_eq_getElem?]
    · rintro ⟨before, run, after, hodd, hoffset, hnext, -⟩
      refine ⟨before, run, after, hodd, ?_⟩
      rw [Nat.zero_add, ← hoffset, ← hnext]

end Confine.Hex

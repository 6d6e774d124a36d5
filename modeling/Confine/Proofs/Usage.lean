import Confine.Usage
import Confine.Proofs.Text.Decimal
import Confine.Proofs.Text.Words

set_option autoImplicit false

/-! # Reading a line whose name says anything

The line of fields about a process (`StatLine`) holds a name that the process has chosen, and the
name may look like the rest of a line. It is told apart by its end: no field holds a parenthesis, so
the last one in the line is the one that closes the name, and what stands after it is the same for
all names (`cpuTicks?_text`). Of that, the twelfth and the thirteenth word are what counts
(`timeOf?_eq_some_iff`). So a line gives the two times added up, whatever the process calls itself,
and a text with too few fields gives nothing (`cpuTicks_adds_times`).
-/

namespace Confine.Usage

open Text Text.Decimal

/-! ## Numbers -/

theorem number?_eq_some_iff {cs : List Char} {n : UInt64} :
    number? cs = some n ↔ IsNumeral (UInt64.size - 1) cs ∧ UInt64.ofNat (value cs) = n := by
  unfold number?
  cases hread : read (UInt64.size - 1) cs with
  | ok m =>
      obtain ⟨hnumeral, rfl⟩ := read_eq_ok_iff.mp hread
      rw [Option.some_inj]
      exact (and_iff_right hnumeral).symm
  | error fault =>
      refine iff_of_false nofun fun h => ?_
      rw [read_eq_ok_iff.mpr ⟨h.1, rfl⟩] at hread
      nomatch hread

/-! ## What stands after the name -/

theorem afterLastParenthesis?_eq_none {cs : List Char} (h : ')' ∉ cs) :
    afterLastParenthesis? cs = none :=
  if_neg h

/-- The parenthesis after which there is no other one is the last. -/
theorem afterLastParenthesis?_append (before : List Char) {after : List Char} (h : ')' ∉ after) :
    afterLastParenthesis? (before ++ ')' :: after) = some after := by
  -- Read from its end, the text starts with what is wanted, up to the first parenthesis.
  have hreverse : (before ++ ')' :: after).reverse = after.reverse ++ ')' :: before.reverse := by
    simp
  have hall : ∀ c ∈ after.reverse, decide (c ≠ ')') = true := by
    intro c hc
    refine decide_eq_true ?_
    rintro rfl
    exact h (List.mem_reverse.mp hc)
  unfold afterLastParenthesis?
  rw [if_pos (by simp), hreverse, List.takeWhile_append_of_pos hall,
    List.takeWhile_cons_of_neg (by simp), List.append_nil, List.reverse_reverse]

/-- The time that the words after a name tell, of which the state is the first: user and system
time, added up. -/
def timeOf? (fields : List (List Char)) : Option UInt64 := do
  let user ← fields[11]? >>= number?
  let system ← fields[12]? >>= number?
  some (user + system)

theorem cpuTicks?_eq_bind (stat : String) :
    cpuTicks? stat = (afterLastParenthesis? stat.toList).bind fun rest => timeOf? (words rest) :=
  rfl

/-- **What counts of the fields**: two of them, and they have to be numerals. -/
theorem timeOf?_eq_some_iff {fields : List (List Char)} {ticks : UInt64} :
    timeOf? fields = some ticks ↔ ∃ user system, fields[11]? = some user ∧ fields[12]? = some system
      ∧ IsNumeral (UInt64.size - 1) user ∧ IsNumeral (UInt64.size - 1) system
      ∧ UInt64.ofNat (value user) + UInt64.ofNat (value system) = ticks := by
  simp only [timeOf?, Option.bind_eq_bind, Option.bind_eq_some_iff, number?_eq_some_iff,
    Option.some_inj]
  constructor
  · rintro ⟨_, ⟨user, huser, hnumeral, rfl⟩, _, ⟨system, hsystem, hnumeral', rfl⟩, hsum⟩
    exact ⟨user, system, huser, hsystem, hnumeral, hnumeral', hsum⟩
  · rintro ⟨user, system, huser, hsystem, hnumeral, hnumeral', hsum⟩
    exact ⟨_, ⟨user, huser, hnumeral, rfl⟩, _, ⟨system, hsystem, hnumeral', rfl⟩, hsum⟩

/-- Twelve words are too few. -/
theorem timeOf?_eq_none {fields : List (List Char)} (h : fields.length < 13) :
    timeOf? fields = none := by
  rw [Option.eq_none_iff_forall_ne_some]
  intro ticks hticks
  obtain ⟨user, system, -, hsystem, -⟩ := timeOf?_eq_some_iff.mp hticks
  have hlt := (List.getElem?_eq_some_iff.mp hsystem).1
  omega

/-- Two times with a sum that fits are added up without loss. -/
theorem toNat_timeOf? {fields : List (List Char)} {user system : List Char}
    (huser : fields[11]? = some user) (hsystem : fields[12]? = some system)
    (hu : IsNumeral (UInt64.size - 1) user) (hs : IsNumeral (UInt64.size - 1) system)
    (hsum : value user + value system < 2 ^ 64) :
    (timeOf? fields).map UInt64.toNat = some (value user + value system) := by
  have htime : timeOf? fields = some (UInt64.ofNat (value user) + UInt64.ofNat (value system)) :=
    timeOf?_eq_some_iff.mpr ⟨user, system, huser, hsystem, hu, hs, rfl⟩
  have hlt : value user < UInt64.size ∧ value system < UInt64.size := by
    change value user < 2 ^ 64 ∧ value system < 2 ^ 64
    omega
  rw [htime, Option.map_some, Option.some_inj]
  calc (UInt64.ofNat (value user) + UInt64.ofNat (value system)).toNat
      = ((UInt64.ofNat (value user)).toNat + (UInt64.ofNat (value system)).toNat) % 2 ^ 64 :=
        UInt64.toNat_add _ _
    _ = (value user + value system) % 2 ^ 64 := by
        rw [UInt64.toNat_ofNat_of_lt' hlt.1, UInt64.toNat_ofNat_of_lt' hlt.2]
    _ = value user + value system := Nat.mod_eq_of_lt hsum

/-! ## Lines of fields -/

/-- **A field** is a word without the parenthesis that ends names, such as a number. -/
structure IsField (field : List Char) : Prop extends IsWord field where
  unclosed : ')' ∉ field

/-- A whole number in decimal. -/
def decimal : Int → List Char
  | .ofNat n => Nat.toDigits 10 n
  | .negSucc n => '-' :: Nat.toDigits 10 (n + 1)

theorem not_isBlank_of_isDigit {c : Char} (h : c.isDigit = true) : isBlank c = false := by
  rw [Char.isDigit, Bool.and_eq_true, decide_eq_true_iff, decide_eq_true_iff] at h
  have hlow : 48 ≤ c.toNat := h.1
  have hhigh : c.toNat ≤ 57 := h.2
  rw [Bool.eq_false_iff]
  simp only [isBlank, ne_eq, Bool.or_eq_true, Bool.and_eq_true, decide_eq_true_iff, beq_iff_eq]
  omega

/-- Numbers are fields, negative ones as well. -/
theorem isField_decimal (i : Int) : IsField (decimal i) := by
  have hdigits : ∀ n, IsField (Nat.toDigits 10 n) := by
    intro n
    have hall : ∀ c ∈ Nat.toDigits 10 n, c.isDigit = true := fun c hc =>
      Nat.isDigit_of_mem_toDigits (by omega) (by omega) hc
    refine ⟨⟨Nat.toDigits_ne_nil, fun c hc => not_isBlank_of_isDigit (hall c hc)⟩, ?_⟩
    exact fun hclosed => nomatch hall _ hclosed
  cases i with
  | ofNat n => exact hdigits n
  | negSucc n =>
      refine ⟨⟨List.cons_ne_nil _ _, List.forall_mem_cons.mpr ⟨rfl, (hdigits (n + 1)).solid⟩⟩, ?_⟩
      exact List.not_mem_cons_of_ne_of_not_mem (by decide) (hdigits (n + 1)).unclosed

/-- **A line of fields** as the system writes it about a process. The name is any text. -/
structure StatLine where
  pid : Nat
  name : String
  /-- The letter for the state that the process is in. -/
  state : Char
  /-- All that the system tells besides, the times among it. -/
  fields : List (List Char)
  /-- What ends the line. -/
  ending : List Char
  isField_state : IsField [state]
  isField_of_mem : ∀ field ∈ fields, IsField field
  isBlank_of_mem : ∀ c ∈ ending, isBlank c = true

namespace StatLine

variable (l : StatLine)

/-- What stands after the name: the state and the fields, with a space in front of each. -/
def tail : List Char :=
  ' ' :: [' '].intercalate ([l.state] :: l.fields) ++ l.ending

/-- The whole line. -/
def text : String :=
  String.ofList (Nat.toDigits 10 l.pid ++ ' ' :: '(' :: l.name.toList ++ ')' :: l.tail)

theorem isField_of_mem_cons : ∀ field ∈ [l.state] :: l.fields, IsField field :=
  List.forall_mem_cons.mpr ⟨l.isField_state, l.isField_of_mem⟩

theorem words_tail : words l.tail = [l.state] :: l.fields := by
  rw [tail, List.cons_append, words_cons_blank rfl, words_append_blanks _ l.isBlank_of_mem,
    words_intercalate fun field hfield => (l.isField_of_mem_cons field hfield).toIsWord]

theorem unclosed_tail : ')' ∉ l.tail := by
  rw [tail, List.mem_append, List.mem_cons]
  rintro ((hspace | hfield) | hending)
  · nomatch hspace
  · rcases mem_intercalate hfield with hspace | ⟨field, hmem, hin⟩
    · nomatch List.mem_singleton.mp hspace
    · exact (l.isField_of_mem_cons field hmem).unclosed hin
  · nomatch l.isBlank_of_mem _ hending

/-- **The name does not matter**: what a line gives is what its fields give. -/
theorem cpuTicks?_text : cpuTicks? l.text = timeOf? ([l.state] :: l.fields) := by
  rw [cpuTicks?_eq_bind, text, String.toList_ofList, afterLastParenthesis?_append _ l.unclosed_tail,
    Option.bind_some, words_tail]

end StatLine

/-- **Processor time is read correctly whatever a process calls itself.** From a line of fields, in
which the eleventh and the twelfth field after the state are the numerals of two times with a sum
that fits, comes exactly this sum. From a text without a closing parenthesis, or with fewer than
twelve fields after the one that follows the last of them, comes nothing. -/
theorem cpuTicks_adds_times :
    (∀ (l : StatLine) (user system : List Char),
        l.fields[10]? = some user → l.fields[11]? = some system →
        IsNumeral (UInt64.size - 1) user → IsNumeral (UInt64.size - 1) system →
        value user + value system < 2 ^ 64 →
        (cpuTicks? l.text).map UInt64.toNat = some (value user + value system))
      ∧ (∀ stat : String, ')' ∉ stat.toList → cpuTicks? stat = none)
      ∧ ∀ (stat : String) (before after : List Char), stat.toList = before ++ ')' :: after →
        ')' ∉ after → (words after).tail.length < 12 → cpuTicks? stat = none := by
  refine ⟨fun l user system huser hsystem hu hs hsum => ?_, fun stat h => ?_,
    fun stat before after hstat hafter hfew => ?_⟩
  · -- The state stands in front of the fields, so that each of them is one word further on.
    rw [l.cpuTicks?_text]
    exact toNat_timeOf? huser hsystem hu hs hsum
  · rw [cpuTicks?_eq_bind, afterLastParenthesis?_eq_none h, Option.bind_none]
  · have hlength : (words after).length < 13 := by
      rw [List.length_tail] at hfew
      omega
    rw [cpuTicks?_eq_bind, hstat, afterLastParenthesis?_append before hafter, Option.bind_some,
      timeOf?_eq_none hlength]

/-- A process whose name looks like the rest of a line. -/
def imitation : StatLine where
  pid := 4242
  name := "x) S 0 0 0 0 0 0 0 0 0 0 98 99 ("
  state := 'R'
  fields := [1, 4242, 4242, 0, -1, 4194304, 100, 0, 0, 0, 25, 17, 0, 0, 20].map decimal
  ending := ['\n']
  isField_state := ⟨⟨by decide, List.forall_mem_singleton.mpr rfl⟩, by decide⟩
  isField_of_mem := by
    intro field hfield
    obtain ⟨i, -, rfl⟩ := List.mem_map.mp hfield
    exact isField_decimal i
  isBlank_of_mem := List.forall_mem_singleton.mpr rfl

theorem cpuTicks_adds_times_of_imitation :
    (cpuTicks? imitation.text).map UInt64.toNat = some (25 + 17)
      ∧ cpuTicks? "4242 (x" = none ∧ cpuTicks? "4242 (x) R 0 0 0 0 0 0 0 0 0 0 25" = none := by
  obtain ⟨hline, hunclosed, hfew⟩ := cpuTicks_adds_times
  refine ⟨?_, hunclosed _ (by decide), ?_⟩
  · exact hline imitation (decimal 25) (decimal 17) rfl rfl (isNumeral_toDigits (by decide)).1
      (isNumeral_toDigits (by decide)).1 (by decide)
  · exact hfew _ "4242 (x".toList " R 0 0 0 0 0 0 0 0 0 0 25".toList (by decide) (by decide)
      (by decide)

end Confine.Usage

import Confine.Proofs.Toml.Quotation
import Confine.Toml.Reader

set_option autoImplicit false

/-! # Documents can be read back

A document of the plainest kind: headers, each followed by lines that give a value to a name.
Reading it puts the values under their names into the table of their header, in order
(`readStatements_section`). What a value is does not matter, as long as it can be read off the line
that it is written on (`Reads`), which holds of numbers, truth values and texts.
-/

namespace Confine.Toml

/-! ## Values on a line -/

/-- **A text reads as a value** if it does so in front of the end of a line, and no blank comes
first. -/
structure Reads (text : List Char) (value : Value) : Prop where
  start : ∃ c more, text = c :: more ∧ (c == ' ' || c == '\t') = false
  read : ∀ steps depth rest,
    readValue (steps + 1) depth (text ++ '\n' :: rest) = some (value, '\n' :: rest)

/-! ### Runs -/

/-- A run ends with the line. -/
theorem takeRun_append {run : List Char} (h : ∀ c ∈ run, isRunChar c = true) (rest : List Char) :
    takeRun (run ++ '\n' :: rest) = (run, '\n' :: rest) := by
  unfold takeRun
  have htake : (run ++ '\n' :: rest).takeWhile isRunChar = run := by
    rw [List.takeWhile_append_of_pos h, List.takeWhile_cons_of_neg (by decide), List.append_nil]
  have hdrop : (run ++ '\n' :: rest).dropWhile isRunChar = '\n' :: rest := by
    rw [List.dropWhile_append_of_pos h, List.dropWhile_cons_of_neg (by decide)]
  rw [htake, hdrop]
  rfl

/-- What the first character of a value decides. -/
theorem readValue_cons (steps depth : Nat) {c : Char} (hbracket : c ≠ '[') (hbrace : c ≠ '\x7b')
    (more : List Char) :
    readValue (steps + 1) depth (c :: more)
      = if c = '"' ∨ c = '\x27' then
          (readText? (c :: more)).map fun (text, rest) => (.string (String.ofList text), rest)
        else (scalar? (takeRun (c :: more)).1).map fun value => (value, (takeRun (c :: more)).2) := by
  rw [readValue.eq_def]
  dsimp only
  by_cases hquote : c = '"' ∨ c = '\x27'
  · rw [if_pos hquote, if_pos hquote]
  · rw [if_neg hquote, if_neg hbracket, if_neg hbrace, if_neg hquote]
    cases scalar? (takeRun (c :: more)).1 <;> rfl

/-- A value that is a run of letters and digits. -/
theorem reads_run {run : List Char} {value : Value} (hempty : run ≠ [])
    (hrun : ∀ c ∈ run, c.isAlphanum = true) (hvalue : scalar? run = some value) :
    Reads run value := by
  obtain ⟨c, more, rfl⟩ := List.exists_cons_of_ne_nil hempty
  have hc := hrun c List.mem_cons_self
  have hne : ∀ d : Char, d.isAlphanum = false → c ≠ d := by
    rintro d hd rfl
    exact Bool.false_ne_true (hd.symm.trans hc)
  refine ⟨⟨c, more, rfl, ?_⟩, fun steps depth rest => ?_⟩
  · simp [hne ' ' (by decide), hne '\t' (by decide)]
  · have hchars : ∀ d ∈ c :: more, isRunChar d = true := by
      intro d hd
      unfold isRunChar
      rw [hrun d hd]
      rfl
    have htake := takeRun_append hchars rest
    rw [List.cons_append] at htake ⊢
    rw [readValue_cons steps depth (hne '[' (by decide)) (hne '\x7b' (by decide)),
      if_neg (by simp [hne '"' (by decide), hne '\x27' (by decide)]), htake, hvalue]
    rfl

theorem reads_flag (b : Bool) : Reads (toString b).toList (.boolean b) := by
  cases b
  · exact reads_run (by decide) (List.all_eq_true.mp rfl) rfl
  · exact reads_run (by decide) (List.all_eq_true.mp rfl) rfl

/-! ### Numbers -/

theorem digitValue?_of_isDigit {c : Char} (h : c.isDigit = true) :
    digitValue? 10 c = some (c.toNat - '0'.toNat) := by
  have hc : '0' ≤ c ∧ c ≤ '9' := by
    rw [Char.isDigit, Bool.and_eq_true, decide_eq_true_iff, decide_eq_true_iff] at h
    exact h
  have hlt : c.toNat - '0'.toNat < 10 := by
    have hle : c.toNat ≤ '9'.toNat := hc.2
    have h9 : '9'.toNat = 57 := rfl
    have h0 : '0'.toNat = 48 := rfl
    omega
  unfold digitValue?
  rw [if_pos hc]
  exact if_pos hlt

theorem digits?_of_isDigit {cs : List Char} (h : ∀ c ∈ cs, c.isDigit = true) (afterDigit : Bool)
    (hstart : cs ≠ [] ∨ afterDigit = true) :
    digits? 10 afterDigit cs = some (cs.map fun c => c.toNat - '0'.toNat) := by
  induction cs generalizing afterDigit with
  | nil =>
      rw [digits?, if_pos (hstart.resolve_left fun hne => hne rfl)]
      rfl
  | cons c cs ih =>
      have hc := h c List.mem_cons_self
      have hne : c ≠ '_' := by
        rintro rfl
        exact absurd hc (by decide)
      rw [digits?, digitValue?_of_isDigit hc,
        ih (fun d hd => h d (List.mem_cons_of_mem c hd)) true (.inr rfl)]
      · rfl
      · exact fun hunderscore => absurd hunderscore hne

/-- A number is not written with a zero in front. -/
theorem head_toDigits {n : Nat} (h : 0 < n) : (Nat.toDigits 10 n).head? ≠ some '0' := by
  induction n using Nat.strongRecOn with
  | ind n ih =>
      rw [Nat.toDigits_eq_if (by omega)]
      split
      case isTrue hlt =>
        match n, h, hlt with
        | 1, _, _ | 2, _, _ | 3, _, _ | 4, _, _ | 5, _, _ | 6, _, _ | 7, _, _ | 8, _, _ | 9, _, _ =>
          decide
      case isFalse hge =>
        rw [List.head?_append, Option.or_of_isSome (by simp)]
        exact ih (n / 10) (by omega) (by omega)

theorem isDigit_toDigits {n : Nat} : ∀ c ∈ Nat.toDigits 10 n, c.isDigit = true := fun _ h =>
  Nat.isDigit_of_mem_toDigits (by omega) (by omega) h

theorem ofDigits_map (cs : List Char) :
    ofDigits 10 (cs.map fun c => c.toNat - '0'.toNat) = Nat.ofDigitChars 10 cs 0 := by
  unfold ofDigits Nat.ofDigitChars
  rw [List.foldl_map]
  congr 1
  funext acc c
  rw [Nat.mul_comm]

theorem decimal?_of_isDigit {c : Char} {cs : List Char} (h : ∀ d ∈ c :: cs, d.isDigit = true)
    (hc : c ≠ '0') :
    decimal? (c :: cs) = some ((c :: cs).map fun d => d.toNat - '0'.toNat) := by
  unfold decimal?
  rw [digits?_of_isDigit h false (.inl (List.cons_ne_nil c cs))]
  have hvalue : c.toNat - '0'.toNat ≠ 0 := by
    have hdigit := h c List.mem_cons_self
    rw [Char.isDigit, Bool.and_eq_true, decide_eq_true_iff, decide_eq_true_iff] at hdigit
    have hle : '0'.toNat ≤ c.toNat := hdigit.1
    have hne : c.toNat ≠ '0'.toNat := fun heq => hc (Char.toNat_inj.mp heq)
    omega
  rw [Option.bind_eq_bind, Option.bind_some, List.map_cons]
  split
  case h_1 heq => exact absurd (List.cons.inj heq).1 hvalue
  case h_2 => rfl

/-- **A number is read back.** -/
theorem integer?_toDigits (n : Nat) : integer? (Nat.toDigits 10 n) = some (n : Int) := by
  rcases Nat.eq_zero_or_pos n with rfl | hn
  · rfl
  obtain ⟨c, cs, hcs⟩ := List.exists_cons_of_ne_nil (Nat.toDigits_ne_nil (n := n) (b := 10))
  have hhead := head_toDigits hn
  have hdigits := isDigit_toDigits (n := n)
  have hn' := Nat.ofDigitChars_ten_toDigits (n := n)
  rw [hcs] at hhead hdigits hn' ⊢
  have hc : c ≠ '0' := fun h => hhead (by rw [h]; rfl)
  have hsign : unsign (c :: cs) = (false, c :: cs) := by
    unfold unsign
    have hdigit := hdigits c List.mem_cons_self
    split
    case h_1 heq =>
      rw [(List.cons.inj heq).1] at hdigit
      exact absurd hdigit (by decide)
    case h_2 heq =>
      rw [(List.cons.inj heq).1] at hdigit
      exact absurd hdigit (by decide)
    case h_3 => rfl
  unfold integer?
  split
  case h_1 heq => exact absurd (List.cons.inj heq).1 hc
  case h_2 heq => exact absurd (List.cons.inj heq).1 hc
  case h_3 heq => exact absurd (List.cons.inj heq).1 hc
  case h_4 =>
    rw [hsign]
    dsimp only
    rw [decimal?_of_isDigit hdigits hc]
    show some (Int.ofNat (ofDigits 10 _)) = _
    rw [ofDigits_map, hn']
    rfl

theorem reads_number (n : Nat) : Reads (Nat.toDigits 10 n) (.integer n) := by
  have hdigits := isDigit_toDigits (n := n)
  have hword : ∀ word : List Char, word.any (fun c => !c.isDigit) = true →
      Nat.toDigits 10 n ≠ word := by
    rintro word hword rfl
    obtain ⟨c, hc, hnot⟩ := List.any_eq_true.mp hword
    rw [hdigits c hc] at hnot
    exact Bool.false_ne_true hnot
  refine reads_run Nat.toDigits_ne_nil (fun c hc => ?_) ?_
  · rw [Char.isAlphanum, hdigits c hc, Bool.or_true]
  · -- Words such as `true` are tried first, and none of them is made of digits.
    unfold scalar?
    rw [if_neg (hword _ (by decide)), if_neg (hword _ (by decide)), integer?_toDigits]

/-! ### Texts -/

theorem head_writeText (cs : List Char) :
    ∃ c more, writeText cs = c :: more ∧ (c = '"' ∨ c = '\x27') := by
  unfold writeText
  cases Form.choose cs
  · exact ⟨_, _, rfl, .inl rfl⟩
  · exact ⟨_, _, rfl, .inr rfl⟩
  · exact ⟨_, _, rfl, .inl rfl⟩
  · exact ⟨_, _, rfl, .inr rfl⟩

theorem reads_text (s : String) : Reads (writeText s.toList) (.string s) := by
  obtain ⟨c, more, hstart, hquote⟩ := head_writeText s.toList
  refine ⟨⟨c, more, hstart, ?_⟩, fun steps depth rest => ?_⟩
  · rcases hquote with rfl | rfl <;> rfl
  · have hread : readText? (writeText s.toList ++ '\n' :: rest) = some (s.toList, '\n' :: rest) :=
      readText?_writeText (by simp) (by simp) s.toList
    rw [hstart, List.cons_append] at hread ⊢
    rw [readValue_cons, if_pos hquote, hread]
    · simp
    · rcases hquote with rfl | rfl <;> decide
    · rcases hquote with rfl | rfl <;> decide

/-! ## Blank lines -/

/-- What is left after blanks and comments does not start with any. -/
theorem skipTrivia_idem {comment : Bool} {cs rest : List Char}
    (h : skipTrivia comment cs = some rest) : skipTrivia false rest = some rest := by
  -- The cases are those of the function; it stops in the last one only.
  induction cs generalizing comment with
  | nil => rw [← Option.some.inj h]; rfl
  | cons c cs ih =>
      rw [skipTrivia] at h
      by_cases hnewline : c = '\n'
      · rw [if_pos hnewline] at h
        exact ih h
      rw [if_neg hnewline] at h
      by_cases hreturn : c = '\r'
      · rw [if_pos hreturn] at h
        split at h
        case isTrue => exact ih h
        case isFalse => nomatch h
      rw [if_neg hreturn] at h
      cases comment with
      | true =>
          rw [if_pos rfl] at h
          split at h
          case isTrue => exact ih h
          case isFalse => nomatch h
      | false =>
          rw [if_neg (by simp)] at h
          by_cases hblank : c = ' ' ∨ c = '\t'
          · rw [if_pos hblank] at h
            exact ih h
          rw [if_neg hblank] at h
          by_cases hmark : c = '#'
          · rw [if_pos hmark] at h
            exact ih h
          rw [if_neg hmark] at h
          rw [← Option.some.inj h, skipTrivia, if_neg hnewline, if_neg hreturn, if_neg (by simp),
            if_neg hblank, if_neg hmark]

section Statements

variable (steps : Nat) (current : List String) (es : Entries)

/-- Blanks and comments before a statement do not matter. -/
theorem readStatements_skipTrivia (cs : List Char) :
    ((skipTrivia false cs).bind fun rest => readStatements steps current es rest)
      = readStatements steps current es cs := by
  cases steps with
  | zero => cases skipTrivia false cs <;> rfl
  | succ steps =>
      rw [readStatements]
      cases h : skipTrivia false cs with
      | none => rfl
      | some rest => rw [Option.bind_some, readStatements, skipTrivia_idem h]

theorem readStatements_newline (rest : List Char) :
    readStatements steps current es ('\n' :: rest) = readStatements steps current es rest := by
  rw [← readStatements_skipTrivia, skipTrivia, if_pos rfl, readStatements_skipTrivia]

theorem endLine_newline (rest : List Char) : endLine ('\n' :: rest) = skipTrivia false rest := rfl

/-! ## Names -/

/-- A name that needs no quotes. -/
def IsBareName (name : String) : Prop :=
  name.toList ≠ [] ∧ ∀ c ∈ name.toList, isBare c = true

theorem ne_of_isBare {c d : Char} (hc : isBare c = true) (hd : isBare d = false) : c ≠ d := by
  rintro rfl
  exact Bool.false_ne_true (hd.symm.trans hc)

/-- A name by itself, up to something else that is no dot. -/
theorem readKey_bare {name : String} (h : IsBareName name) {d : Char} (hd : isBare d = false)
    (tail : List Char) (hdot : ∀ more, skipBlanks (d :: tail) ≠ '.' :: more) :
    readKey (name.toList ++ d :: tail) = some (([], name), skipBlanks (d :: tail)) := by
  obtain ⟨hempty, hbare⟩ := h
  have htake : (name.toList ++ d :: tail).takeWhile isBare = name.toList := by
    rw [List.takeWhile_append_of_pos hbare, List.takeWhile_cons_of_neg (by simp [hd]),
      List.append_nil]
  have hdrop : (name.toList ++ d :: tail).dropWhile isBare = d :: tail := by
    rw [List.dropWhile_append_of_pos hbare, List.dropWhile_cons_of_neg (by simp [hd])]
  have hblanks : skipBlanks (name.toList ++ d :: tail) = name.toList ++ d :: tail := by
    obtain ⟨c, more, hc⟩ := List.exists_cons_of_ne_nil hempty
    rw [hc] at hbare ⊢
    have hcb := hbare c List.mem_cons_self
    unfold skipBlanks
    rw [List.cons_append, List.dropWhile_cons_of_neg
      (by simp [ne_of_isBare hcb (d := ' ') rfl, ne_of_isBare hcb (d := '\t') rfl])]
  have hname : readName (name.toList ++ d :: tail) = some (name, d :: tail) := by
    obtain ⟨c, more, hc⟩ := List.exists_cons_of_ne_nil hempty
    have hcb := hbare c (by rw [hc]; exact List.mem_cons_self)
    unfold readName
    rw [htake, hdrop, String.ofList_toList]
    rw [hc, List.cons_append]
    exact if_pos hcb
  unfold readKey maxDepth
  rw [readNames, hblanks, hname]
  dsimp only [Option.bind_eq_bind, Option.bind_some]
  split
  case h_1 more heq => exact absurd heq (hdot more)
  case h_2 => rfl

/-! ## Statements -/

theorem skipTrivia_of_bare {c : Char} (hc : isBare c = true ∨ c = '[') (rest : List Char) :
    skipTrivia false (c :: rest) = some (c :: rest) := by
  have hne : ∀ d : Char, isBare d = false → d ≠ '[' → c ≠ d := by
    rintro d hd hbracket rfl
    rcases hc with hc | hc
    · exact Bool.false_ne_true (hd.symm.trans hc)
    · exact hbracket hc
  rw [skipTrivia, if_neg (hne '\n' rfl (by decide)), if_neg (hne '\r' rfl (by decide)),
    if_neg (by simp), if_neg (by simp [hne ' ' rfl (by decide), hne '\t' rfl (by decide)]),
    if_neg (hne '#' rfl (by decide))]

/-- **A line that gives a value to a name.** -/
theorem readStatements_entry {name : String} (hname : IsBareName name) {text : List Char}
    {value : Value} (hvalue : Reads text value) (rest : List Char) :
    readStatements (steps + 2) current es
        (name.toList ++ ' ' :: '=' :: ' ' :: (text ++ '\n' :: rest))
      = (Entries.within (Entries.insert [] name value .header) current es).bind fun es =>
          readStatements (steps + 1) current es rest := by
  have hkey := readKey_bare hname (d := ' ') rfl ('=' :: ' ' :: (text ++ '\n' :: rest))
    (fun more h => absurd (List.cons.inj h).1 (by decide))
  obtain ⟨c, more, hc⟩ := List.exists_cons_of_ne_nil hname.1
  have hcb := hname.2 c (by rw [hc]; exact List.mem_cons_self)
  have hblanks : skipBlanks (' ' :: (text ++ '\n' :: rest)) = text ++ '\n' :: rest := by
    obtain ⟨d, tail, rfl, hd⟩ := hvalue.start
    unfold skipBlanks
    rw [List.dropWhile_cons_of_pos (by decide), List.cons_append,
      List.dropWhile_cons_of_neg (by simp [hd])]
  rw [hc, List.cons_append] at hkey ⊢
  rw [readStatements, skipTrivia_of_bare (.inl hcb), Option.bind_eq_bind, Option.bind_some]
  split
  case h_1 heq => nomatch heq
  case h_2 heq => exact absurd (List.cons.inj heq).1 (ne_of_isBare hcb rfl)
  case h_3 heq => exact absurd (List.cons.inj heq).1 (ne_of_isBare hcb rfl)
  case h_4 =>
    rw [hkey]
    show (readValue (steps + 1) maxDepth (skipBlanks (' ' :: (text ++ '\n' :: rest)))).bind _ = _
    rw [hblanks, hvalue.read, Option.bind_some]
    dsimp only
    rw [endLine_newline]
    congr 1
    funext es
    exact readStatements_skipTrivia (steps + 1) current es rest

/-- **A header.** -/
theorem readStatements_header {name : String} (hname : IsBareName name) (rest : List Char) :
    readStatements (steps + 1) current es ('[' :: (name.toList ++ ']' :: '\n' :: rest))
      = (Entries.openTable [] name es).bind fun es => readStatements steps [name] es rest := by
  have hkey := readKey_bare hname (d := ']') rfl ('\n' :: rest)
    (fun more h => absurd (List.cons.inj h).1 (by decide))
  obtain ⟨c, more, hc⟩ := List.exists_cons_of_ne_nil hname.1
  have hcb := hname.2 c (by rw [hc]; exact List.mem_cons_self)
  rw [hc, List.cons_append] at hkey ⊢
  rw [readStatements, skipTrivia_of_bare (.inr rfl), Option.bind_eq_bind, Option.bind_some]
  split
  case h_1 heq => nomatch heq
  case h_2 heq => exact absurd (List.cons.inj (List.cons.inj heq).2).1 (ne_of_isBare hcb rfl)
  case h_3 tail _ heq =>
    obtain rfl : c :: (more ++ ']' :: '\n' :: rest) = tail := (List.cons.inj heq).2
    rw [hkey]
    show (Entries.openTable [] name es).bind _ = _
    congr 1
    funext es
    exact readStatements_skipTrivia steps [name] es rest
  case h_4 hother => exact absurd rfl (hother _)

end Statements

/-! ## Sections -/

namespace Entries

theorem lookup_eq_none_of_not_mem {es : Entries} {name : String} (h : name ∉ es.map Prod.fst) :
    es.lookup name = none :=
  List.lookup_eq_none_iff.mpr fun entry hentry =>
    bne_iff_ne.mpr fun heq => h (List.mem_map.mpr ⟨entry, hentry, heq.symm⟩)

theorem openTable_new {es : Entries} {name : String} (h : name ∉ es.map Prod.fst) :
    openTable [] name es = some (es ++ [(name, .table .header [])]) := by
  unfold openTable
  rw [alter, lookup_eq_none_of_not_mem h]
  rfl

/-- In the table of the latest header. -/
theorem within_last {es : Entries} {group : String} (h : group ∉ es.map Prod.fst)
    (change : Entries → Option Entries) (inner : Entries) :
    within change [group] (es ++ [(group, .table .header inner)])
      = (change inner).map fun inner => es ++ [(group, .table .header inner)] := by
  have hlookup : (es ++ [(group, Value.table .header inner)]).lookup group
      = some (.table .header inner) := by
    rw [List.lookup_append, lookup_eq_none_of_not_mem h, Option.none_or, List.lookup_cons_self]
  have hreplace : ∀ value, replace group value (es ++ [(group, Value.table .header inner)])
      = es ++ [(group, value)] := by
    intro value
    unfold replace
    rw [List.map_append]
    congr 1
    · refine (List.map_congr_left fun entry hentry => ?_).trans (List.map_id es)
      exact if_neg fun heq => h (List.mem_map.mpr ⟨entry, hentry, beq_iff_eq.mp heq⟩)
    · exact congrArg (· :: []) (if_pos (beq_self_eq_true group))
  rw [within, hlookup]
  dsimp only
  rw [within]
  cases change inner with
  | none => rfl
  | some inner' => exact congrArg some (hreplace _)

theorem insert_new {es : Entries} {name : String} (h : name ∉ es.map Prod.fst) (value : Value) :
    insert [] name value .header es = some (es ++ [(name, value)]) := by
  unfold insert
  rw [alter, lookup_eq_none_of_not_mem h]
  rfl

end Entries

/-- A name, the text of its value, and the value. -/
structure Item where
  name : String
  text : List Char
  value : Value

namespace Item

/-- An item that can be read back. -/
structure IsLawful (item : Item) : Prop where
  name : IsBareName item.name
  value : Reads item.text item.value

/-- The line of an item. -/
def line (item : Item) : List Char :=
  item.name.toList ++ ' ' :: '=' :: ' ' :: (item.text ++ ['\n'])

/-- The entry of an item. -/
def entry (item : Item) : String × Value := (item.name, item.value)

end Item

/-- **The lines below a header** fill its table. -/
theorem readStatements_items (steps : Nat) {es : Entries} {group : String}
    (hgroup : group ∉ es.map Prod.fst) (items : List Item) (hitems : ∀ item ∈ items, item.IsLawful)
    (inner : Entries) (hnames : (inner.map Prod.fst ++ items.map Item.name).Nodup)
    (rest : List Char) :
    readStatements (steps + 1 + items.length) [group] (es ++ [(group, .table .header inner)])
        (items.flatMap Item.line ++ rest)
      = readStatements (steps + 1) [group]
          (es ++ [(group, .table .header (inner ++ items.map Item.entry))]) rest := by
  -- By induction on the lines, with the entries that the table holds already.
  induction items generalizing inner with
  | nil => rw [List.map_nil, List.append_nil]; rfl
  | cons item items ih =>
      have hitem := hitems item List.mem_cons_self
      have hnew : item.name ∉ inner.map Prod.fst := fun hmem =>
        (List.nodup_append.mp hnames).2.2 item.name hmem item.name List.mem_cons_self rfl
      have hline : (item :: items).flatMap Item.line ++ rest
          = item.name.toList ++ ' ' :: '=' :: ' ' ::
              (item.text ++ '\n' :: (items.flatMap Item.line ++ rest)) := by
        simp [Item.line]
      have hsteps : steps + 1 + (item :: items).length = (steps + items.length) + 2 := by
        rw [List.length_cons]
        omega
      have hmore : steps + items.length + 1 = steps + 1 + items.length := by omega
      rw [hline, hsteps, readStatements_entry _ _ _ hitem.name hitem.value,
        Entries.within_last hgroup, Entries.insert_new hnew, Option.map_some, Option.bind_some,
        hmore, ih (fun other hother => hitems other (List.mem_cons_of_mem item hother)),
        List.append_assoc]
      · rfl
      · rw [List.map_append, List.append_assoc]
        exact hnames

/-- **A section**: a header and the lines below it. -/
theorem readStatements_section (steps : Nat) (current : List String) (es : Entries)
    {group : String} (hbare : IsBareName group) (hgroup : group ∉ es.map Prod.fst)
    {items : List Item}
    (hitems : ∀ item ∈ items, item.IsLawful) (hnames : (items.map Item.name).Nodup)
    (rest : List Char) :
    readStatements (steps + 1 + items.length + 1) current es
        ('[' :: (group.toList ++ ']' :: '\n' :: (items.flatMap Item.line ++ rest)))
      = readStatements (steps + 1) [group]
          (es ++ [(group, .table .header (items.map Item.entry))]) rest := by
  rw [readStatements_header _ _ _ hbare, Entries.openTable_new hgroup, Option.bind_some,
    readStatements_items steps hgroup items hitems [] hnames]
  rfl

/-- Most texts do not start with a mark. -/
theorem dropMark_cons {c : Char} (h : c ≠ '\ufeff') (cs : List Char) :
    dropMark (c :: cs) = c :: cs := by
  unfold dropMark
  split
  case h_1 heq => exact absurd (List.cons.inj heq).1 h
  case h_2 => rfl

end Confine.Toml

import Confine.Toml.Quotation
import Confine.Toml.Writer

set_option autoImplicit false

/-! # Quoted texts can be read back

The writer chooses among four forms of a text, and the reader recovers the text from each of them
(`readText?_writeText`). On one line nothing can go wrong but that a character is not allowed.
Over several lines a text may hold quotes as they are, and then what matters is that no three of
them stand together before the end: the writer sees to it by escapes in one form, and chooses the
other form only if there are no such runs. At the very end three quotes do come after up to two
that belong to the text, and the reader takes the first three that it sees for the end and gives
back what is left of the run.
-/

namespace Confine.Toml

/-! ## Escapes -/

/-- **An escape of a character**, without its backslash: the reader takes it for the character
whatever comes after it, and never for the end of a line. -/
def Escapes (body : List Char) (c : Char) : Prop :=
  ∀ more, escape? (body ++ more) = some (c, body.length) ∧ endsLine (body ++ more) = false

theorem escapes_letter {c d : Char} (hd : letterEscape? d = some c) (hwidth : escapeWidth? d = none)
    (hblank : (d == ' ' || d == '\t') = false) (hreturn : d ≠ '\r') (hnewline : d ≠ '\n') :
    Escapes [d] c := by
  intro more
  constructor
  · show escape? (d :: more) = some (c, 1)
    rw [escape?, hwidth, hd]
    rfl
  · show endsLine (d :: more) = false
    unfold endsLine
    rw [List.dropWhile_cons_of_neg (by rw [hblank]; exact Bool.false_ne_true)]
    split
    case h_1 rest heq => exact absurd (List.cons.inj heq).1 hnewline
    case h_2 rest heq => exact absurd (List.cons.inj heq).1 hreturn
    case h_3 => rfl

/-- Whether a character is a control that may not stand in a text on one line, or the tab. -/
def IsControl (c : Char) : Prop := c.toNat < 0x20 ∨ c.toNat = 0x7f

/-- The two last digits of the escape of a control. -/
theorem codePoint?_control {c : Char} (h : IsControl c) :
    codePoint? ['0', '0', upperDigit (c.toNat / 16), upperDigit c.toNat] = some c := by
  -- For each of the 128 characters by computation.
  have hall : ∀ n : Fin 128,
      codePoint? ['0', '0', upperDigit (n / 16), upperDigit n] = some (Char.ofNat n) := by
    decide
  have hn : c.toNat < 128 := by rcases h with h | h <;> omega
  have hc := hall ⟨c.toNat, hn⟩
  rwa [Char.ofNat_toNat] at hc

theorem escapes_control {c : Char} (h : IsControl c) :
    ∃ body, escapeControl c = '\\' :: body ∧ Escapes body c := by
  unfold escapeControl
  by_cases hb : c = '\x08'
  · exact ⟨['b'], if_pos hb, hb ▸ escapes_letter rfl rfl rfl (by decide) (by decide)⟩
  by_cases ht : c = '\t'
  · exact ⟨['t'], (if_neg hb).trans (if_pos ht),
      ht ▸ escapes_letter rfl rfl rfl (by decide) (by decide)⟩
  by_cases hn : c = '\n'
  · exact ⟨['n'], (if_neg hb).trans ((if_neg ht).trans (if_pos hn)),
      hn ▸ escapes_letter rfl rfl rfl (by decide) (by decide)⟩
  by_cases hf : c = '\x0c'
  · exact ⟨['f'], (if_neg hb).trans ((if_neg ht).trans ((if_neg hn).trans (if_pos hf))),
      hf ▸ escapes_letter rfl rfl rfl (by decide) (by decide)⟩
  by_cases hr : c = '\r'
  · refine ⟨['r'], ?_, hr ▸ escapes_letter rfl rfl rfl (by decide) (by decide)⟩
    rw [if_neg hb, if_neg ht, if_neg hn, if_neg hf, if_pos hr]
  · refine ⟨['u', '0', '0', upperDigit (c.toNat / 16), upperDigit c.toNat], ?_, fun more => ?_⟩
    · rw [if_neg hb, if_neg ht, if_neg hn, if_neg hf, if_neg hr]
    · refine ⟨?_, rfl⟩
      show (if 4 = 4 then (codePoint? _).map fun d => (d, 4 + 1) else none) = _
      rw [if_pos rfl]
      exact congrArg (Option.map fun d => (d, 4 + 1)) (codePoint?_control h)

theorem escapes_quote : Escapes ['"'] '"' :=
  escapes_letter rfl rfl rfl (by decide) (by decide)

theorem escapes_backslash : Escapes ['\\'] '\\' :=
  escapes_letter rfl rfl rfl (by decide) (by decide)

/-- A character that is no control may stand as it is. -/
theorem isPlain_of_not_control {c : Char} (h : ¬ IsControl c) : isPlain c = true := by
  unfold IsControl at h
  unfold isPlain
  rw [Bool.or_eq_true, Bool.and_eq_true, decide_eq_true_iff, decide_eq_true_iff]
  omega

/-- **The writer's choices** for a character that is no quote: an escape, or the character itself,
which may then be a newline over several lines. -/
theorem escapeBasic_cons {c : Char} (hc : c ≠ '"') (wide : Bool) (run : Nat) (rest : List Char) :
    (∃ body, Escapes body c
        ∧ escapeBasic wide run (c :: rest) = '\\' :: (body ++ escapeBasic wide 0 rest))
      ∨ (c ≠ '\\' ∧ (isPlain c = true ∨ (wide = true ∧ c = '\n'))
        ∧ escapeBasic wide run (c :: rest) = c :: escapeBasic wide 0 rest) := by
  rw [escapeBasic, if_neg hc]
  by_cases hb : c = '\\'
  · refine .inl ⟨['\\'], hb ▸ escapes_backslash, if_pos hb⟩
  rw [if_neg hb]
  by_cases hn : wide = true ∧ c = '\n'
  · exact .inr ⟨hb, .inr hn, if_pos hn⟩
  rw [if_neg hn]
  by_cases hcontrol : IsControl c
  · obtain ⟨body, hbody, hescapes⟩ := escapes_control hcontrol
    refine .inl ⟨body, hescapes, (if_pos hcontrol).trans ?_⟩
    rw [hbody]
    rfl
  · exact .inr ⟨hb, .inl (isPlain_of_not_control hcontrol), if_neg hcontrol⟩

/-! ## Texts on one line -/

theorem readBasic_skip (body more : List Char) :
    readBasic body.length (body ++ more) = readBasic 0 more := by
  induction body with
  | nil => rfl
  | cons c body ih => exact ih

theorem readBasic_escape {body : List Char} {c : Char} (h : Escapes body c) (more : List Char) :
    readBasic 0 ('\\' :: (body ++ more)) = (readBasic 0 more).prepend [c] := by
  rw [readBasic, if_neg (by decide), if_pos rfl, (h more).1]
  dsimp only
  rw [readBasic_skip]

theorem readBasic_plain {c : Char} (hquote : c ≠ '"') (hbackslash : c ≠ '\\')
    (hplain : isPlain c = true) (more : List Char) :
    readBasic 0 (c :: more) = (readBasic 0 more).prepend [c] := by
  rw [readBasic, if_neg hquote, if_neg hbackslash, if_pos hplain]

theorem escapeBasic_quote_narrow (run : Nat) (rest : List Char) :
    escapeBasic false run ('"' :: rest) = '\\' :: (['"'] ++ escapeBasic false 0 rest) := by
  rw [escapeBasic, if_pos rfl, if_neg (by simp)]
  rfl

theorem readBasic_escapeBasic (cs rest : List Char) (run : Nat) :
    readBasic 0 (escapeBasic false run cs ++ '"' :: rest) = some (cs, rest) := by
  induction cs generalizing run with
  | nil =>
      show readBasic 0 ('"' :: rest) = some ([], rest)
      rw [readBasic, if_pos rfl]
  | cons c cs ih =>
      by_cases hc : c = '"'
      · subst hc
        rw [escapeBasic_quote_narrow, List.cons_append, List.append_assoc,
          readBasic_escape escapes_quote, ih]
        rfl
      rcases escapeBasic_cons hc false run cs with ⟨body, hbody, heq⟩ | ⟨hb, hplain, heq⟩
      · rw [heq, List.cons_append, List.append_assoc, readBasic_escape hbody, ih]
        rfl
      · rw [heq, List.cons_append,
          readBasic_plain hc hb (hplain.resolve_right fun h => nomatch h.1), ih]
        rfl

theorem readLiteral_append {cs : List Char} (h : ∀ c ∈ cs, c ≠ '\x27' ∧ isPlain c = true)
    (rest : List Char) : readLiteral (cs ++ '\x27' :: rest) = some (cs, rest) := by
  induction cs with
  | nil =>
      show readLiteral ('\x27' :: rest) = some ([], rest)
      rw [readLiteral, if_pos rfl]
  | cons c cs ih =>
      obtain ⟨hquote, hplain⟩ := h c List.mem_cons_self
      rw [List.cons_append, readLiteral, if_neg hquote, if_pos hplain,
        ih fun d hd => h d (List.mem_cons_of_mem c hd)]
      rfl

/-! ## Texts over several lines -/

section Wide

variable {quote : Char} {rest : List Char}

/-- Up to two quotes at the end belong to the text. -/
theorem closeWide_replicate (hrest : rest.head? ≠ some quote) {k : Nat} (hk : k ≤ 2) :
    closeWide quote (List.replicate k quote ++ rest) = (List.replicate k quote, rest) := by
  have hhead : ∀ a more, rest = a :: more → a ≠ quote := by
    rintro a more rfl rfl
    exact hrest rfl
  match k, hk with
  | 0, _ =>
      show closeWide quote rest = ([], rest)
      rcases rest with _ | ⟨a, _ | ⟨b, more⟩⟩
      · rfl
      · rw [closeWide, if_neg (hhead a [] rfl)]
      · rw [closeWide, if_neg (hhead a (b :: more) rfl)]
  | 1, _ =>
      show closeWide quote (quote :: rest) = ([quote], rest)
      rcases rest with _ | ⟨a, more⟩
      · rw [closeWide, if_pos rfl]
      · rw [closeWide, if_pos rfl, if_neg (hhead a more rfl)]
  | 2, _ =>
      show closeWide quote (quote :: quote :: rest) = ([quote, quote], rest)
      rw [closeWide, if_pos rfl, if_pos rfl]

theorem startsWide_replicate (k : Nat) :
    startsWide quote (List.replicate k quote ++ quote :: quote :: quote :: rest) = true := by
  unfold startsWide
  have htake : (List.replicate k quote ++ quote :: quote :: quote :: rest).take 3
      = [quote, quote, quote] := by
    rcases k with _ | _ | _ | k <;> simp [List.replicate_succ]
  rw [htake]
  exact beq_self_eq_true _

/-- **The end of a text**: the three quotes, after up to two that belong to the text. -/
theorem closeWide_end (hrest : rest.head? ≠ some quote) {k : Nat} (hk : k ≤ 2) :
    closeWide quote ((List.replicate k quote ++ quote :: quote :: quote :: rest).drop 3)
      = (List.replicate k quote, rest) := by
  have hdrop : (List.replicate k quote ++ quote :: quote :: quote :: rest).drop 3
      = List.replicate k quote ++ rest := by
    rcases k with _ | _ | _ | k
    · rfl
    · rfl
    · rfl
    · omega
  rw [hdrop]
  exact closeWide_replicate hrest hk

theorem startsWide_of_ne {a b c : Char} {more : List Char}
    (h : a ≠ quote ∨ b ≠ quote ∨ c ≠ quote) : startsWide quote (a :: b :: c :: more) = false := by
  unfold startsWide
  rw [beq_eq_false_iff_ne]
  intro heq
  obtain ⟨ha, hb, hc⟩ : a = quote ∧ b = quote ∧ c = quote := by simpa using heq
  exact h.elim (· ha) (·.elim (· hb) (· hc))

/-- A text that starts with another character does not end there. -/
theorem startsWide_of_head_ne {a : Char} {more : List Char} (h : a ≠ quote) :
    startsWide quote (a :: more) = false := by
  unfold startsWide
  rw [beq_eq_false_iff_ne]
  exact fun heq => h (List.cons.inj heq).1

theorem isWidePlain_of {c : Char} (h : isPlain c = true ∨ c = '\n') (more : List Char) :
    isWidePlain c more = true := by
  unfold isWidePlain
  rcases h with h | rfl
  · rw [h, Bool.or_true, Bool.true_or]
  · rfl

/-! ### Basic texts -/

/-- What is done with the next character, unless something is to be passed over. -/
theorem readWideBasic_cons {mode : WideMode} (h : mode = .text ∨ mode = .skip 0) (c : Char)
    (more : List Char) :
    readWideBasic mode (c :: more)
      = if startsWide '"' (c :: more) then some (closeWide '"' (more.drop 2))
        else if c = '\\' then
          if endsLine more then readWideBasic .fold more
          else
            match escape? more with
            | none => none
            | some (d, width) => (readWideBasic (.skip width) more).prepend [d]
        else if isWidePlain c more then (readWideBasic .text more).prepend [c]
        else none := by
  rcases h with rfl | rfl
  all_goals exact (readWideBasic.eq_def _ _).trans (if_neg fun hfold => nomatch hfold.1)

theorem readWideBasic_end (hrest : rest.head? ≠ some '"') {k : Nat} (hk : k ≤ 2) :
    readWideBasic .text (List.replicate k '"' ++ '"' :: '"' :: '"' :: rest)
      = some (List.replicate k '"', rest) := by
  have hstart : startsWide '"' (List.replicate k '"' ++ '"' :: '"' :: '"' :: rest) = true :=
    startsWide_replicate k
  have hclose := closeWide_end hrest hk
  cases htext : List.replicate k '"' ++ '"' :: '"' :: '"' :: rest with
  | nil => simp at htext
  | cons c more =>
      rw [htext] at hstart hclose
      rw [readWideBasic_cons (.inl rfl), if_pos hstart]
      exact congrArg some hclose

theorem readWideBasic_skip (body more : List Char) :
    readWideBasic (.skip body.length) (body ++ more) = readWideBasic (.skip 0) more := by
  induction body with
  | nil => rfl
  | cons c body ih => rw [List.length_cons, List.cons_append, readWideBasic, ih]

theorem readWideBasic_skip_zero (more : List Char) :
    readWideBasic (.skip 0) more = readWideBasic .text more := by
  cases more with
  | nil => rfl
  | cons c more => rw [readWideBasic_cons (.inr rfl), readWideBasic_cons (.inl rfl)]

theorem readWideBasic_escape {body : List Char} {c : Char} (h : Escapes body c)
    (more : List Char) :
    readWideBasic .text ('\\' :: (body ++ more)) = (readWideBasic .text more).prepend [c] := by
  obtain ⟨hescape, hline⟩ := h more
  have hstart : startsWide '"' ('\\' :: (body ++ more)) = false := startsWide_of_head_ne (by decide)
  rw [readWideBasic_cons (.inl rfl), if_neg (by simp [hstart]), if_pos rfl, if_neg (by simp [hline]),
    hescape]
  dsimp only
  rw [readWideBasic_skip, readWideBasic_skip_zero]

theorem readWideBasic_plain {c : Char} {more : List Char}
    (hstart : startsWide '"' (c :: more) = false) (hbackslash : c ≠ '\\')
    (hplain : isPlain c = true ∨ c = '\n') :
    readWideBasic .text (c :: more) = (readWideBasic .text more).prepend [c] := by
  rw [readWideBasic_cons (.inl rfl), if_neg (by simp [hstart]), if_neg hbackslash,
    if_pos (isWidePlain_of hplain more)]

theorem escapeBasic_quote_wide {run : Nat} (h : run < 2) (cs : List Char) :
    escapeBasic true run ('"' :: cs) = '"' :: escapeBasic true (run + 1) cs := by
  rw [escapeBasic, if_pos rfl, if_pos ⟨rfl, h⟩]

theorem escapeBasic_quote_full {run : Nat} (h : 2 ≤ run) (cs : List Char) :
    escapeBasic true run ('"' :: cs) = '\\' :: (['"'] ++ escapeBasic true 0 cs) := by
  rw [escapeBasic, if_pos rfl, if_neg (by omega)]
  rfl

/-- What is written first is no quote, if it is not for one or if two quotes came before. -/
theorem head_escapeBasic {c : Char} {run : Nat} (h : c ≠ '"' ∨ 2 ≤ run) (cs : List Char) :
    ∃ a more, escapeBasic true run (c :: cs) = a :: more ∧ a ≠ '"' := by
  by_cases hc : c = '"'
  · subst hc
    exact ⟨_, _, escapeBasic_quote_full (h.resolve_left fun hne => hne rfl) cs, by decide⟩
  · rcases escapeBasic_cons hc true run cs with ⟨body, -, heq⟩ | ⟨-, -, heq⟩
    · exact ⟨_, _, heq, by decide⟩
    · exact ⟨_, _, heq, hc⟩

/-- **A quote that stands as it is** comes at the end of the text, or does not look like the end. -/
theorem startsWide_escapeBasic {run : Nat} (h : run < 2) (cs : List Char) :
    (∃ k, k + 1 ≤ 2 ∧ cs = List.replicate k '"' ∧ escapeBasic true (run + 1) cs = cs)
      ∨ startsWide '"' ('"' :: (escapeBasic true (run + 1) cs ++ '"' :: '"' :: '"' :: rest))
        = false := by
  rcases cs with _ | ⟨c, cs⟩
  · exact .inl ⟨0, by omega, rfl, rfl⟩
  by_cases hnext : c ≠ '"' ∨ 2 ≤ run + 1
  · obtain ⟨a, more, heq, ha⟩ := head_escapeBasic hnext cs
    rw [heq]
    refine .inr ?_
    cases more <;> exact startsWide_of_ne (.inr (.inl ha))
  -- The next one is a second quote. A third one would be escaped.
  obtain ⟨rfl, hrun⟩ : c = '"' ∧ run = 0 :=
    ⟨Decidable.not_not.mp fun hc => hnext (.inl hc), by omega⟩
  subst hrun
  rcases cs with _ | ⟨d, cs⟩
  · exact .inl ⟨1, by omega, rfl, rfl⟩
  · have hfull : d ≠ '"' ∨ 2 ≤ 2 := .inr (Nat.le_refl 2)
    obtain ⟨a, more, heq, ha⟩ := head_escapeBasic hfull cs
    rw [escapeBasic_quote_wide (by omega), heq]
    exact .inr (startsWide_of_ne (.inr (.inr ha)))

theorem readWideBasic_escapeBasic (hrest : rest.head? ≠ some '"') (cs : List Char) (run : Nat) :
    readWideBasic .text (escapeBasic true run cs ++ '"' :: '"' :: '"' :: rest)
      = some (cs, rest) := by
  -- The reader has no counter for quotes as the writer has, so the run is arbitrary.
  induction cs generalizing run with
  | nil => exact readWideBasic_end hrest (k := 0) (by omega)
  | cons c cs ih =>
      by_cases hc : c = '"'
      · subst hc
        by_cases hrun : run < 2
        · rw [escapeBasic_quote_wide hrun]
          rcases startsWide_escapeBasic hrun cs with ⟨k, hk, hcs, heq⟩ | hstart
          · rw [heq, hcs]
            exact readWideBasic_end hrest (k := k + 1) hk
          · rw [List.cons_append, readWideBasic_plain hstart (by decide) (.inl rfl), ih]
            rfl
        · rw [escapeBasic_quote_full (by omega), List.cons_append, List.append_assoc,
            readWideBasic_escape escapes_quote, ih]
          rfl
      rcases escapeBasic_cons hc true run cs with ⟨body, hbody, heq⟩ | ⟨hb, hplain, heq⟩
      · rw [heq, List.cons_append, List.append_assoc, readWideBasic_escape hbody, ih]
        rfl
      · rw [heq, List.cons_append, readWideBasic_plain (startsWide_of_head_ne hc) hb
          (hplain.imp_right And.right), ih]
        rfl

/-! ### Literal texts -/

theorem readWideLiteral_end (hrest : rest.head? ≠ some '\x27') {k : Nat} (hk : k ≤ 2) :
    readWideLiteral (List.replicate k '\x27' ++ '\x27' :: '\x27' :: '\x27' :: rest)
      = some (List.replicate k '\x27', rest) := by
  have hstart : startsWide '\x27' (List.replicate k '\x27' ++ '\x27' :: '\x27' :: '\x27' :: rest)
      = true := startsWide_replicate k
  have hclose := closeWide_end hrest hk
  cases htext : List.replicate k '\x27' ++ '\x27' :: '\x27' :: '\x27' :: rest with
  | nil => simp at htext
  | cons c more =>
      rw [htext] at hstart hclose
      rw [readWideLiteral, if_pos hstart]
      exact congrArg some hclose

theorem le_longestRun (c : Char) (run : Nat) (cs : List Char) : run ≤ longestRun c run cs := by
  induction cs generalizing run with
  | nil => exact Nat.le_refl run
  | cons d cs ih =>
      rw [longestRun]
      split
      case isTrue => exact Nat.le_of_succ_le (ih (run + 1))
      case isFalse => exact Nat.le_max_left _ _

/-- **In a text without runs of three quotes** a quote comes at the end, or does not look like the
end. -/
theorem startsWide_of_longestRun {run : Nat} (cs rest : List Char)
    (h : longestRun quote (run + 1) cs ≤ 2) :
    (∃ k, k + 1 ≤ 2 ∧ cs = List.replicate k quote)
      ∨ startsWide quote (quote :: (cs ++ quote :: quote :: quote :: rest)) = false := by
  rcases cs with _ | ⟨c, cs⟩
  · exact .inl ⟨0, by omega, rfl⟩
  by_cases hc : c = quote
  · rw [longestRun, if_pos hc] at h
    subst hc
    -- Two in a row, so a third one would make the run too long.
    have hrun := le_longestRun c (run + 1 + 1) cs
    rcases cs with _ | ⟨d, cs⟩
    · exact .inl ⟨1, by omega, rfl⟩
    · refine .inr (startsWide_of_ne (.inr (.inr fun hd => ?_)))
      rw [longestRun, if_pos hd] at h
      have hmore := le_longestRun c (run + 1 + 1 + 1) cs
      omega
  · refine .inr ?_
    cases cs <;> exact startsWide_of_ne (.inr (.inl hc))

theorem readWideLiteral_plain {c : Char} {more : List Char}
    (hstart : startsWide '\x27' (c :: more) = false) (hplain : isPlain c = true ∨ c = '\n') :
    readWideLiteral (c :: more) = (readWideLiteral more).prepend [c] := by
  rw [readWideLiteral, if_neg (by simp [hstart]), if_pos (isWidePlain_of hplain more)]

theorem readWideLiteral_append (hrest : rest.head? ≠ some '\x27') {cs : List Char} {run : Nat}
    (hplain : ∀ c ∈ cs, isPlain c = true ∨ c = '\n') (hruns : longestRun '\x27' run cs ≤ 2) :
    readWideLiteral (cs ++ '\x27' :: '\x27' :: '\x27' :: rest) = some (cs, rest) := by
  induction cs generalizing run with
  | nil => exact readWideLiteral_end hrest (k := 0) (by omega)
  | cons c cs ih =>
      have hc := hplain c List.mem_cons_self
      have hcs : ∀ d ∈ cs, isPlain d = true ∨ d = '\n' := fun d hd =>
        hplain d (List.mem_cons_of_mem c hd)
      rw [longestRun] at hruns
      by_cases hquote : c = '\x27'
      · rw [if_pos hquote] at hruns
        subst hquote
        rcases startsWide_of_longestRun cs rest hruns with ⟨k, hk, rfl⟩ | hstart
        · exact readWideLiteral_end hrest (k := k + 1) hk
        · rw [List.cons_append, readWideLiteral_plain hstart hc, ih hcs hruns]
          rfl
      · rw [if_neg hquote] at hruns
        rw [List.cons_append, readWideLiteral_plain (startsWide_of_head_ne hquote) hc,
          ih hcs (Nat.le_trans (Nat.le_max_right _ _) hruns)]
        rfl

end Wide

/-! ## The choice of a form -/

theorem not_mem_of_longestRun {quote : Char} {cs : List Char} (h : longestRun quote 0 cs = 0) :
    quote ∉ cs := by
  induction cs with
  | nil => exact List.not_mem_nil
  | cons c cs ih =>
      rw [longestRun] at h
      by_cases hc : c = quote
      · rw [if_pos hc] at h
        have hrun := le_longestRun quote (0 + 1) cs
        omega
      · rw [if_neg hc, Nat.zero_max] at h
        exact List.not_mem_cons_of_ne_of_not_mem (Ne.symm hc) (ih h)

/-- A text without controls that need escapes can stand as it is, over several lines at least. -/
theorem plain_of_not_hard {cs : List Char} (h : cs.any isHardControl = false) {c : Char}
    (hc : c ∈ cs) : isPlain c = true ∨ c = '\n' := by
  have hsoft := List.any_eq_false.mp h c hc
  by_cases hn : c = '\n'
  · exact .inr hn
  by_cases ht : c = '\t'
  · exact .inl (ht ▸ rfl)
  refine .inl (isPlain_of_not_control fun hcontrol => hsoft ?_)
  unfold isHardControl
  rcases hcontrol with hlow | hdel
  · rw [decide_eq_true hlow, decide_eq_true (p := c ≠ '\t') ht, decide_eq_true (p := c ≠ '\n') hn]
    rfl
  · rw [decide_eq_true hdel, Bool.or_true]

/-- What a form can hold. -/
def Form.Holds (cs : List Char) : Form → Prop
  | .literal => cs ≠ [] ∧ ∀ c ∈ cs, c ≠ '\x27' ∧ isPlain c = true
  | .wideLiteral => (∀ c ∈ cs, isPlain c = true ∨ c = '\n') ∧ longestRun '\x27' 0 cs ≤ 2
  | .basic | .wideBasic => True

/-- **The form that is chosen can hold the text.** -/
theorem Form.choose_holds (cs : List Char) : (Form.choose cs).Holds cs := by
  by_cases hempty : cs = []
  · subst hempty
    trivial
  unfold choose
  dsimp only
  split
  case isTrue => trivial
  case isFalse =>
    split
    case isTrue h =>
      simp only [Bool.and_eq_true, Bool.not_eq_true', beq_iff_eq] at h
      obtain ⟨⟨hhard, hsingle⟩, hlines⟩ := h
      refine ⟨hempty, fun c hc => ⟨?_, ?_⟩⟩
      · rintro rfl
        exact not_mem_of_longestRun hsingle hc
      · refine (plain_of_not_hard hhard hc).resolve_right fun hn => ?_
        exact List.any_eq_false.mp hlines c hc (beq_iff_eq.mpr hn)
    case isFalse =>
      split
      case isTrue => trivial
      case isFalse =>
        split
        case isTrue h =>
          simp only [Bool.and_eq_true, Bool.not_eq_true', decide_eq_true_eq] at h
          exact ⟨fun c hc => plain_of_not_hard h.1 hc, h.2⟩
        case isFalse => split <;> trivial

/-! ## Reading back -/

theorem dropNewline_of_head {cs : List Char} (hnewline : cs.head? ≠ some '\n')
    (hreturn : cs.head? ≠ some '\r') : dropNewline cs = cs := by
  unfold dropNewline
  split
  case h_1 => exact absurd rfl hnewline
  case h_2 => exact absurd rfl hreturn
  case h_3 => rfl

/-- A text that spans lines starts on a line of its own, and the newline before it is dropped. Any
other text does not start with a newline. -/
theorem dropNewline_start {cs body : List Char}
    (h : '\n' ∉ cs → body.head? ≠ some '\n' ∧ body.head? ≠ some '\r') :
    dropNewline ((if cs.any (· == '\n') then ['\n'] else []) ++ body) = body := by
  split
  case isTrue => rfl
  case isFalse hlines =>
    have hnot : '\n' ∉ cs := by simpa using hlines
    exact dropNewline_of_head (h hnot).1 (h hnot).2

theorem ne_newline_of_plain {c : Char} (h : isPlain c = true) : c ≠ '\n' ∧ c ≠ '\r' := by
  constructor
  · rintro rfl
    exact absurd h (by decide)
  · rintro rfl
    exact absurd h (by decide)

/-- A basic text over several lines that holds no newline does not start with one. -/
theorem head_escapeBasic_wide {cs more : List Char} (h : '\n' ∉ cs) :
    (escapeBasic true 0 cs ++ '"' :: more).head? ≠ some '\n'
      ∧ (escapeBasic true 0 cs ++ '"' :: more).head? ≠ some '\r' := by
  rcases cs with _ | ⟨c, cs⟩
  · exact ⟨by simp [escapeBasic], by simp [escapeBasic]⟩
  by_cases hc : c = '"'
  · subst hc
    rw [escapeBasic_quote_wide (by omega)]
    exact ⟨by simp, by simp⟩
  rcases escapeBasic_cons hc true 0 cs with ⟨body, -, heq⟩ | ⟨-, hplain, heq⟩
  · rw [heq]
    exact ⟨by simp, by simp⟩
  · have hp := hplain.resolve_right fun hn => h (hn.2 ▸ List.mem_cons_self)
    obtain ⟨hnewline, hreturn⟩ := ne_newline_of_plain hp
    rw [heq]
    exact ⟨by simpa using hnewline, by simpa using hreturn⟩

/-- A basic text on one line does not start with a quote. -/
theorem head_escapeBasic_narrow (cs : List Char) :
    (escapeBasic false 0 cs).head? ≠ some '"' := by
  rcases cs with _ | ⟨c, cs⟩
  · exact nofun
  by_cases hc : c = '"'
  · subst hc
    rw [escapeBasic_quote_narrow]
    simp
  rcases escapeBasic_cons hc false 0 cs with ⟨body, -, heq⟩ | ⟨-, -, heq⟩
  · rw [heq]
    simp
  · rw [heq]
    simpa using hc

/-- On one line the quotes are not taken for those of a text over several lines. -/
theorem startsWide_narrow {quote : Char} {body rest : List Char}
    (hbody : body.head? ≠ some quote) (hrest : rest.head? ≠ some quote) :
    startsWide quote (quote :: (body ++ quote :: rest)) = false := by
  rcases body with _ | ⟨b, body⟩
  · rcases rest with _ | ⟨d, rest⟩
    · unfold startsWide
      simp
    · exact startsWide_of_ne (.inr (.inr fun hd => hrest (by rw [hd]; rfl)))
  · cases body <;> exact startsWide_of_ne (.inr (.inl fun hb => hbody (by rw [hb]; rfl)))

/-! ### One lemma for each form -/

section Forms

variable {cs rest : List Char}

theorem readText?_basic (hrest : rest.head? ≠ some '"') :
    readText? ('"' :: (escapeBasic false 0 cs ++ '"' :: rest)) = some (cs, rest) := by
  have hwide := startsWide_narrow (head_escapeBasic_narrow cs) hrest
  rw [readText?, if_neg (by simp [hwide]), if_neg (by simp [startsWide_of_head_ne])]
  exact readBasic_escapeBasic cs rest 0

theorem readText?_literal (hrest : rest.head? ≠ some '\x27') (hcs : Form.literal.Holds cs) :
    readText? ('\x27' :: (cs ++ '\x27' :: rest)) = some (cs, rest) := by
  obtain ⟨hempty, hplain⟩ := hcs
  have hhead : cs.head? ≠ some '\x27' := fun h =>
    (hplain '\x27' (List.mem_of_mem_head? h)).1 rfl
  have hwide := startsWide_narrow hhead hrest
  rw [readText?, if_neg (by simp [startsWide_of_head_ne]), if_neg (by simp [hwide])]
  exact readLiteral_append hplain rest

theorem readText?_wideBasic (hrest : rest.head? ≠ some '"') :
    readText? ('"' :: '"' :: '"' :: ((if cs.any (· == '\n') then ['\n'] else [])
      ++ (escapeBasic true 0 cs ++ '"' :: '"' :: '"' :: rest))) = some (cs, rest) := by
  have hopen : startsWide '"' ('"' :: '"' :: '"' :: ((if cs.any (· == '\n') then ['\n'] else [])
      ++ (escapeBasic true 0 cs ++ '"' :: '"' :: '"' :: rest))) = true :=
    startsWide_replicate 0
  have hstart : dropNewline ((if cs.any (· == '\n') then ['\n'] else [])
      ++ (escapeBasic true 0 cs ++ '"' :: '"' :: '"' :: rest))
        = escapeBasic true 0 cs ++ '"' :: '"' :: '"' :: rest :=
    dropNewline_start head_escapeBasic_wide
  rw [readText?, if_pos hopen]
  exact (congrArg (readWideBasic .text) hstart).trans (readWideBasic_escapeBasic hrest cs 0)

theorem readText?_wideLiteral (hrest : rest.head? ≠ some '\x27') (hcs : Form.wideLiteral.Holds cs) :
    readText? ('\x27' :: '\x27' :: '\x27' :: ((if cs.any (· == '\n') then ['\n'] else [])
      ++ (cs ++ '\x27' :: '\x27' :: '\x27' :: rest))) = some (cs, rest) := by
  obtain ⟨hplain, hruns⟩ := hcs
  have hopen : startsWide '\x27' ('\x27' :: '\x27' :: '\x27' ::
      ((if cs.any (· == '\n') then ['\n'] else [])
        ++ (cs ++ '\x27' :: '\x27' :: '\x27' :: rest))) = true :=
    startsWide_replicate 0
  have hhead : '\n' ∉ cs → (cs ++ '\x27' :: '\x27' :: '\x27' :: rest).head? ≠ some '\n'
      ∧ (cs ++ '\x27' :: '\x27' :: '\x27' :: rest).head? ≠ some '\r' := by
    intro hlines
    rcases cs with _ | ⟨c, cs⟩
    · exact ⟨by simp, by simp⟩
    · have hc := (hplain c List.mem_cons_self).resolve_right fun hn =>
        hlines (hn ▸ List.mem_cons_self)
      obtain ⟨hnewline, hreturn⟩ := ne_newline_of_plain hc
      exact ⟨by simpa using hnewline, by simpa using hreturn⟩
  rw [readText?, if_neg (by simp [startsWide_of_head_ne]), if_pos hopen]
  exact (congrArg readWideLiteral (dropNewline_start hhead)).trans
    (readWideLiteral_append hrest hplain hruns)

end Forms

/-- **What is written can be read**, whatever comes after it but for another quote. -/
theorem readText?_writeText {rest : List Char} (hdouble : rest.head? ≠ some '"')
    (hsingle : rest.head? ≠ some '\x27') (cs : List Char) :
    readText? (writeText cs ++ rest) = some (cs, rest) := by
  have hholds := Form.choose_holds cs
  unfold writeText
  dsimp only
  cases hform : Form.choose cs <;> rw [hform] at hholds <;> dsimp only
  case basic =>
    rw [List.append_assoc, List.append_assoc]
    exact readText?_basic hdouble
  case literal =>
    rw [List.append_assoc, List.append_assoc]
    exact readText?_literal hsingle hholds
  case wideBasic =>
    rw [List.append_assoc, List.append_assoc, List.append_assoc]
    exact readText?_wideBasic hdouble
  case wideLiteral =>
    rw [List.append_assoc, List.append_assoc, List.append_assoc]
    exact readText?_wideLiteral hsingle hholds

end Confine.Toml

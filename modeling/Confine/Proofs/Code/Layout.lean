import Confine.Proofs.Code.Instruction
import Confine.Proofs.Code.Loading

set_option autoImplicit false

/-! # The layout of a text of instructions

What a text says is in the code parts of its lines. `Edit` lists the ways to change everything else:
how lines end, the blanks around them, comments, and lines without code. None of them changes what
is read (`Edit.instructionsOf_eq`), because a line has the same code with or without something at
its end that holds no code itself (`codePart_append_of_isIdle`), and because the lines of two texts
with a newline between them are the lines of the one and then the lines of the other
(`instructionsOf_append`).
-/

namespace Confine.Code

/-! ## Lines without code -/

/-- **An idle line** is blank or holds only a comment: blanks, and then nothing or a comment. -/
def IsIdle (line : List Char) : Prop :=
  ∃ blanks comment, line = blanks ++ comment ∧ (∀ c ∈ blanks, Text.isBlank c = true)
    ∧ ∀ c ∈ comment.head?, startsComment c = true

theorem isIdle_of_blank {line : List Char} (h : ∀ c ∈ line, Text.isBlank c = true) :
    IsIdle line :=
  ⟨line, [], (List.append_nil line).symm, h, by simp⟩

theorem isIdle_comment {c : Char} (h : startsComment c = true) (text : List Char) :
    IsIdle (c :: text) :=
  ⟨[], c :: text, rfl, by simp, by simpa using h⟩

theorem isIdle_return : IsIdle ['\r'] := isIdle_of_blank (List.forall_mem_singleton.mpr rfl)

/-- An idle line is still idle with a blank behind it. -/
theorem IsIdle.concat {line : List Char} (h : IsIdle line) {c : Char}
    (hc : Text.isBlank c = true) : IsIdle (line ++ [c]) := by
  obtain ⟨blanks, comment, rfl, hblanks, hcomment⟩ := h
  cases comment with
  | nil =>
      refine isIdle_of_blank fun d hd => ?_
      simp only [List.append_nil, List.mem_append, List.mem_singleton] at hd
      rcases hd with hd | rfl
      · exact hblanks d hd
      · exact hc
  | cons d rest => exact ⟨blanks, d :: (rest ++ [c]), by simp, hblanks, by simpa using hcomment⟩

theorem not_startsComment_of_isBlank {c : Char} (h : Text.isBlank c = true) :
    startsComment c = false := by
  rw [Instruction.startsComment_eq_false_iff]
  constructor
  · rintro rfl
    cases h
  · rintro rfl
    cases h

/-- **A line has the same code** with something idle at its end. -/
theorem codePart_append_of_isIdle (line : List Char) {tail : List Char} (h : IsIdle tail) :
    codePart (line ++ tail) = codePart line := by
  obtain ⟨blanks, comment, rfl, hblanks, hcomment⟩ := h
  have hcut : (blanks ++ comment).takeWhile (fun c => !startsComment c) = blanks := by
    have hnone : comment.takeWhile (fun c => !startsComment c) = [] := by
      cases comment with
      | nil => rfl
      | cons c rest => exact List.takeWhile_cons_of_neg (by simp [hcomment c rfl])
    rw [List.takeWhile_append_of_pos fun c hc => by
      simp [not_startsComment_of_isBlank (hblanks c hc)], hnone, List.append_nil]
  unfold codePart
  rw [List.takeWhile_append]
  split
  case isTrue hlen =>
    -- There is no comment before the tail, and so its blanks come right after the code.
    have hall : line.takeWhile (fun c => !startsComment c) = line :=
      (List.takeWhile_prefix _).eq_of_length hlen
    rw [hcut, hall, Text.trim_append_blanks line hblanks]
  case isFalse => rfl

/-- And it has the same code with blanks in front of it. -/
theorem codePart_blanks_append {blanks : List Char} (h : ∀ c ∈ blanks, Text.isBlank c = true)
    (line : List Char) : codePart (blanks ++ line) = codePart line := by
  unfold codePart
  rw [List.takeWhile_append_of_pos fun c hc => by simp [not_startsComment_of_isBlank (h c hc)],
    Text.trim_blanks_append h]

theorem codePart_eq_nil_iff {line : List Char} : codePart line = [] ↔ IsIdle line := by
  constructor
  · intro h
    refine ⟨_, _, (List.takeWhile_append_dropWhile (p := fun c => !startsComment c)).symm,
      Text.trim_eq_nil_iff.mp h, fun c hc => ?_⟩
    have hnot := List.head?_dropWhile_not (fun c => !startsComment c) line
    rw [hc] at hnot
    simpa using hnot
  · intro h
    have hnil := codePart_append_of_isIdle [] h
    rwa [List.nil_append] at hnil

instance : DecidablePred IsIdle := fun _ => decidable_of_iff _ codePart_eq_nil_iff

namespace Instruction

/-- What a line writes is known from its code. -/
theorem ofLine?_congr {line line' : List Char} (h : codePart line = codePart line') :
    ofLine? line = ofLine? line' := by
  unfold ofLine?
  rw [h]

theorem ofLine?_eq_none_iff {line : List Char} : ofLine? line = none ↔ IsIdle line := by
  rw [← codePart_eq_nil_iff]
  unfold ofLine?
  by_cases h : codePart line = []
  · simp [h]
  · simp [h]

end Instruction

/-! ## Texts -/

/-- **The instructions of a text**, by the pieces between its newlines. -/
def instructionsOf (text : List Char) : List Instruction :=
  (Text.splitWhere (· == '\n') text).filterMap Instruction.ofLine?

/-- It makes no difference which of the pieces count as lines, and how they end. -/
theorem filterMap_closeLines (pieces : List (List Char)) :
    (Text.closeLines pieces).filterMap Instruction.ofLine?
      = pieces.filterMap Instruction.ofLine? := by
  induction pieces using Text.closeLines.induct with
  | case1 => rfl
  | case2 last hempty =>
      rw [Text.closeLines, if_pos hempty, List.isEmpty_iff.mp hempty]
      rfl
  | case3 last hfull => rw [Text.closeLines, if_neg hfull]
  | case4 line rest hne ih =>
      have hline : Instruction.ofLine? (Text.dropReturn line) = Instruction.ofLine? line := by
        unfold Text.dropReturn
        split
        case isTrue hlast =>
          obtain ⟨front, rfl⟩ := List.getLast?_eq_some_iff.mp hlast
          rw [List.dropLast_concat]
          exact Instruction.ofLine?_congr (codePart_append_of_isIdle front isIdle_return).symm
        case isFalse => rfl
      rw [Text.closeLines_cons line hne, List.filterMap_cons, List.filterMap_cons, hline, ih]

theorem Stream.parse_eq (architecture text : String) :
    Stream.parse architecture text = ⟨architecture, instructionsOf text.toList⟩ :=
  congrArg (Stream.mk architecture) (filterMap_closeLines _)

@[simp] theorem instructionsOf_nil : instructionsOf [] = [] := rfl

/-- **Reading goes by the lines** of two texts with a newline between them. -/
theorem instructionsOf_append (text text' : List Char) :
    instructionsOf (text ++ '\n' :: text') = instructionsOf text ++ instructionsOf text' := by
  unfold instructionsOf
  rw [Text.splitWhere_append (by simp), List.filterMap_append]

theorem instructionsOf_line {line : List Char} (h : '\n' ∉ line) :
    instructionsOf line = (Instruction.ofLine? line).toList := by
  unfold instructionsOf
  have hno : ∀ c ∈ line, (c == '\n') = false := by
    intro c hc
    rw [beq_eq_false_iff_ne]
    rintro rfl
    exact h hc
  rw [Text.splitWhere_eq_singleton hno]
  cases hread : Instruction.ofLine? line with
  | none => rw [List.filterMap_cons_none hread, List.filterMap_nil, Option.toList_none]
  | some i => rw [List.filterMap_cons_some hread, List.filterMap_nil, Option.toList_some]

/-! ## Where lines start and end -/

/-- **A line starts** at the start of the text and after a newline. -/
def LineStart (before : List Char) : Prop := ∀ c ∈ before.getLast?, c = '\n'

/-- **A line ends** at the end of the text and before a newline, and also before the carriage return
that belongs to a newline. -/
inductive LineEnd : List Char → Prop
  | text : LineEnd []
  | newline (after : List Char) : LineEnd ('\n' :: after)
  | return (after : List Char) : LineEnd ('\r' :: '\n' :: after)

variable {before after line tail blanks : List Char}

theorem instructionsOf_of_lineStart (h : LineStart before) (after : List Char) :
    instructionsOf (before ++ after) = instructionsOf before ++ instructionsOf after := by
  rcases List.eq_nil_or_concat before with rfl | ⟨front, c, rfl⟩
  · rfl
  · obtain rfl : c = '\n' := h c (by simp)
    rw [List.concat_eq_append, List.append_assoc, List.singleton_append, instructionsOf_append,
      instructionsOf_append, instructionsOf_nil, List.append_nil]

/-- The line that a text ends with. -/
theorem exists_last_line (text : List Char) :
    ∃ front line, text = front ++ line ∧ LineStart front ∧ '\n' ∉ line := by
  induction text using List.reverseRecOn with
  | nil => exact ⟨[], [], rfl, by simp [LineStart], by simp⟩
  | append_singleton text c ih =>
      by_cases hc : c = '\n'
      · refine ⟨text ++ [c], [], (List.append_nil _).symm, ?_, by simp⟩
        simpa [LineStart] using hc
      · obtain ⟨front, line, rfl, hstart, hline⟩ := ih
        refine ⟨front, line ++ [c], List.append_assoc front line [c], hstart, ?_⟩
        simpa [hline] using fun h => hc h.symm

/-- The line that a text starts with. -/
theorem exists_first_line (text : List Char) :
    ∃ line rest, text = line ++ rest ∧ '\n' ∉ line ∧ ∀ c ∈ rest.head?, c = '\n' := by
  refine ⟨_, _, (List.takeWhile_append_dropWhile (p := (· ≠ '\n'))).symm, fun h => ?_,
    fun c hc => ?_⟩
  · simpa using List.mem_takeWhile_imp h
  · have hnot := List.head?_dropWhile_not (fun c : Char => decide (c ≠ '\n')) text
    rw [hc] at hnot
    simpa using hnot

/-- Blanks at the start of a line. -/
theorem instructionsOf_indent (hblanks : ∀ c ∈ blanks, Text.isBlank c = true ∧ c ≠ '\n')
    (after : List Char) : instructionsOf (blanks ++ after) = instructionsOf after := by
  obtain ⟨line, rest, rfl, hline, hrest⟩ := exists_first_line after
  have hwhole : '\n' ∉ blanks ++ line := by
    simpa [hline] using fun h => (hblanks _ h).2 rfl
  have hcode : Instruction.ofLine? (blanks ++ line) = Instruction.ofLine? line :=
    Instruction.ofLine?_congr (codePart_blanks_append (fun c hc => (hblanks c hc).1) line)
  cases rest with
  | nil =>
      rw [List.append_nil, instructionsOf_line hwhole, hcode, instructionsOf_line hline]
  | cons c rest =>
      obtain rfl : c = '\n' := hrest c rfl
      rw [← List.append_assoc, instructionsOf_append, instructionsOf_append,
        instructionsOf_line hwhole, hcode, instructionsOf_line hline]

/-- Something idle at the end of a line. -/
theorem instructionsOf_trail (htail : IsIdle tail) (hnewline : '\n' ∉ tail) (hend : LineEnd after)
    (before : List Char) :
    instructionsOf (before ++ tail ++ after) = instructionsOf (before ++ after) := by
  obtain ⟨front, line, rfl, hstart, hline⟩ := exists_last_line before
  have hcode {ending : List Char} (h : IsIdle ending) (hno : '\n' ∉ ending) :
      instructionsOf (line ++ ending) = instructionsOf line := by
    rw [instructionsOf_line (by simp [hline, hno]), instructionsOf_line hline,
      Instruction.ofLine?_congr (codePart_append_of_isIdle line h)]
  simp only [List.append_assoc]
  rw [instructionsOf_of_lineStart hstart, instructionsOf_of_lineStart hstart]
  congr 1
  cases hend with
  | text => rw [List.append_nil, List.append_nil, hcode htail hnewline]
  | newline after =>
      rw [← List.append_assoc, instructionsOf_append, instructionsOf_append, hcode htail hnewline]
  | «return» after =>
      -- The carriage return is a blank at the end of the line, before the edit and after it.
      have hlong : line ++ (tail ++ '\r' :: '\n' :: after)
          = line ++ (tail ++ ['\r']) ++ '\n' :: after := by simp
      have hshort : line ++ '\r' :: '\n' :: after = line ++ ['\r'] ++ '\n' :: after := by simp
      rw [hlong, hshort, instructionsOf_append, instructionsOf_append,
        hcode (htail.concat rfl) (by simp [hnewline]), hcode isIdle_return (by decide)]

/-- The text with a carriage return before every newline. -/
def withReturns (text : List Char) : List Char :=
  text.flatMap fun c => if c = '\n' then ['\r', '\n'] else [c]

theorem instructionsOf_withReturns (text : List Char) :
    instructionsOf (withReturns text) = instructionsOf text := by
  -- By induction on the text, behind the part of its first line that was read already.
  suffices h : ∀ line, '\n' ∉ line →
      instructionsOf (line ++ withReturns text) = instructionsOf (line ++ text) from h [] (by simp)
  induction text with
  | nil => exact fun _ _ => rfl
  | cons c rest ih =>
      intro line hline
      by_cases hc : c = '\n'
      · subst hc
        have hreturn : line ++ withReturns ('\n' :: rest)
            = line ++ ['\r'] ++ '\n' :: withReturns rest := by simp [withReturns]
        have hend : instructionsOf (line ++ ['\r']) = instructionsOf line := by
          have htrail := instructionsOf_trail isIdle_return (by decide) .text line
          rwa [List.append_nil, List.append_nil] at htrail
        rw [hreturn, instructionsOf_append, instructionsOf_append, hend]
        exact congrArg _ (ih [] (by simp))
      · have hnext := ih (line ++ [c]) (by simpa [hline] using fun h => hc h.symm)
        have hkept : withReturns (c :: rest) = [c] ++ withReturns rest := by
          simp [withReturns, hc]
        rw [hkept, ← List.append_assoc, hnext, List.append_assoc]
        rfl

/-! ## Edits -/

/-- **An edit of the layout** of a text. -/
inductive Edit : List Char → List Char → Prop
  /-- Every newline gets a carriage return before it. -/
  | returns (text : List Char) : Edit text (withReturns text)
  /-- Blanks are added at the start of a line. -/
  | indent {before blanks : List Char} (hstart : LineStart before)
      (hblanks : ∀ c ∈ blanks, Text.isBlank c = true ∧ c ≠ '\n') (after : List Char) :
      Edit (before ++ after) (before ++ blanks ++ after)
  /-- Blanks are added at the end of a line. -/
  | pad {after blanks : List Char} (hend : LineEnd after)
      (hblanks : ∀ c ∈ blanks, Text.isBlank c = true ∧ c ≠ '\n') (before : List Char) :
      Edit (before ++ after) (before ++ blanks ++ after)
  /-- A comment is added at the end of a line. -/
  | comment {after text : List Char} {mark : Char} (hend : LineEnd after)
      (hmark : mark = ';' ∨ mark = '#') (htext : '\n' ∉ text) (before : List Char) :
      Edit (before ++ after) (before ++ mark :: text ++ after)
  /-- A line that is blank or holds only a comment is put before another one. -/
  | insert {before line : List Char} (hstart : LineStart before) (hline : IsIdle line)
      (hnewline : '\n' ∉ line) (after : List Char) :
      Edit (before ++ after) (before ++ line ++ '\n' :: after)
  /-- A line that is blank or holds only a comment is put at the end of the text. -/
  | extend {line : List Char} (hline : IsIdle line) (hnewline : '\n' ∉ line)
      (before : List Char) : Edit before (before ++ '\n' :: line)

/-- **An edit of the layout does not change what is read.** -/
theorem Edit.instructionsOf_eq {text text' : List Char} (h : Edit text text') :
    instructionsOf text = instructionsOf text' := by
  have hidle {line : List Char} (h : IsIdle line) (hno : '\n' ∉ line) :
      instructionsOf line = [] := by
    rw [instructionsOf_line hno, Instruction.ofLine?_eq_none_iff.mpr h]
    rfl
  cases h with
  | returns => exact (instructionsOf_withReturns text).symm
  | @indent before blanks hstart hblanks after =>
      rw [List.append_assoc, instructionsOf_of_lineStart hstart,
        instructionsOf_of_lineStart hstart, instructionsOf_indent hblanks]
  | @pad after blanks hend hblanks before =>
      have hno : '\n' ∉ blanks := fun hmem => (hblanks _ hmem).2 rfl
      exact (instructionsOf_trail (isIdle_of_blank fun c hc => (hblanks c hc).1) hno hend
        before).symm
  | @comment after comment mark hend hmark htext before =>
      have hno : '\n' ∉ mark :: comment := by
        rcases hmark with rfl | rfl <;> simpa using htext
      exact (instructionsOf_trail (isIdle_comment (by simpa [startsComment] using hmark) comment)
        hno hend before).symm
  | @insert before line hstart hline hnewline after =>
      rw [List.append_assoc, instructionsOf_of_lineStart hstart,
        instructionsOf_of_lineStart hstart, instructionsOf_append, hidle hline hnewline,
        List.nil_append]
  | @extend line hline hnewline =>
      rw [instructionsOf_append, hidle hline hnewline, List.append_nil]

/-- Nor do any edits that are made or undone. -/
theorem instructionsOf_eq_of_edits {text text' : List Char} (h : Relation.EqvGen Edit text text') :
    instructionsOf text = instructionsOf text' := by
  induction h with
  | rel text text' h => exact h.instructionsOf_eq
  | refl text => rfl
  | symm text text' h ih => exact ih.symm
  | trans text text' text'' h h' ih ih' => exact ih.trans ih'

/-! ## Streams -/

theorem instructions_parse_eq_nil_iff (architecture text : String) :
    (Stream.parse architecture text).instructions = []
      ↔ ∀ line ∈ Text.lines text.toList, IsIdle line := by
  rw [Stream.parse, List.filterMap_eq_nil_iff]
  simp only [Instruction.ofLine?_eq_none_iff]

namespace Block

/-- Why a stream is refused. -/
theorem assembleStream_result (s : Stream) (backend : String) :
    (assembleStream s backend).result
      = .error (if s.instructions = [] then .emptyInput .instructions else .notImplemented) := by
  unfold assembleStream
  by_cases h : s.instructions = []
  · rw [if_pos (List.isEmpty_iff.mpr h), if_pos h, Attempt.fail_result]
  · rw [if_neg (by simpa using h), if_neg h, Attempt.bind_result_ok (Attempt.note_result _),
      Attempt.fail_result]

end Block

namespace Stream

/-- **What is read depends only on the code part of each line.** Two texts with a newline between
them are read one after the other, and any edits of the layout, made or undone, leave what is read
as it is. So a text that was read is refused for want of instructions exactly if all its lines are
blank or hold only a comment, and any other text because instructions are not turned into code. -/
theorem parse_layout (architecture : String) :
    (∀ a b : String, parse architecture (a ++ "\n" ++ b)
        = ⟨architecture,
            (parse architecture a).instructions ++ (parse architecture b).instructions⟩)
      ∧ (∀ text text' : String, Relation.EqvGen Edit text.toList text'.toList →
          parse architecture text = parse architecture text')
      ∧ ∀ text backend : String,
          ((Block.assembleStream (parse architecture text) backend).result
              = .error (.emptyInput .instructions)
            ↔ ∀ line ∈ Text.lines text.toList, IsIdle line)
          ∧ ((Block.assembleStream (parse architecture text) backend).result
              = .error .notImplemented
            ↔ ¬ ∀ line ∈ Text.lines text.toList, IsIdle line) := by
  refine ⟨fun a b => ?_, fun text text' h => ?_, fun text backend => ?_⟩
  · have hwhole : (a ++ "\n" ++ b).toList = a.toList ++ '\n' :: b.toList := by
      rw [String.toList_append, String.toList_append, List.append_assoc]
      rfl
    rw [parse_eq, hwhole, instructionsOf_append, parse_eq, parse_eq]
  · rw [parse_eq, parse_eq, instructionsOf_eq_of_edits h]
  · rw [Block.assembleStream_result, ← instructions_parse_eq_nil_iff architecture]
    by_cases hnil : (parse architecture text).instructions = []
    · simp [hnil]
    · simp [hnil]

/-- A text, and the same text with carriage returns, a comment, an indented line and a line in front
that holds only a comment. -/
theorem parse_layout_of_tidy :
    Relation.EqvGen Edit "mov eax, 1\nret".toList "# start\n\t mov eax, 1; one\r\nret".toList
      ∧ parse "x86" "mov eax, 1\nret" = parse "x86" "# start\n\t mov eax, 1; one\r\nret" := by
  have hblanks : ∀ c ∈ ['\t', ' '], Text.isBlank c = true ∧ c ≠ '\n' := by
    simp only [List.forall_mem_cons, List.not_mem_nil, false_imp_iff, implies_true, and_true]
    exact ⟨⟨rfl, by decide⟩, rfl, by decide⟩
  have hstart : LineStart [] := by simp [LineStart]
  have hreturns : Edit "mov eax, 1\nret".toList "mov eax, 1\r\nret".toList := .returns _
  have hcomment : Edit "mov eax, 1\r\nret".toList "mov eax, 1; one\r\nret".toList :=
    .comment (.return "ret".toList) (.inl rfl) (by simp : '\n' ∉ " one".toList) "mov eax, 1".toList
  have hindent : Edit "mov eax, 1; one\r\nret".toList "\t mov eax, 1; one\r\nret".toList :=
    .indent hstart hblanks _
  have hnewline : '\n' ∉ '#' :: " start".toList := by simp
  have hinsert : Edit "\t mov eax, 1; one\r\nret".toList
      "# start\n\t mov eax, 1; one\r\nret".toList :=
    .insert hstart (isIdle_comment rfl " start".toList) hnewline _
  have hall : Relation.EqvGen Edit "mov eax, 1\nret".toList
      "# start\n\t mov eax, 1; one\r\nret".toList :=
    .trans _ _ _ (.trans _ _ _ (.rel _ _ hreturns) (.rel _ _ hcomment))
      (.trans _ _ _ (.rel _ _ hindent) (.rel _ _ hinsert))
  exact ⟨hall, (parse_layout "x86").2.1 _ _ hall⟩

end Stream

end Confine.Code

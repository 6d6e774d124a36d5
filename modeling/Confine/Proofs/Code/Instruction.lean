import Confine.Code.Instruction
import Confine.Proofs.Text.Lines

set_option autoImplicit false

/-! # Streams that are read back

Reading gives up what writing cannot keep: comments, blank lines, and the blanks around the parts of
an instruction. `Instruction.WellFormed` says which instructions lose nothing. Reading yields no
others (`wellFormed_of_ofLine?`), and each of them comes back from the line that it is written on
(`ofLine?_render`); so a stream is read back exactly if all its instructions are well formed, and a
text that was read, written and read again says the same as before (`parse_render_iff`).
-/

namespace Confine.Code

/-! ## Well-formed instructions -/

namespace Instruction

/-- **A well-formed instruction**: its mnemonic is a word, its operands stay on one line and are
trimmed, and neither starts a comment. -/
structure WellFormed (i : Instruction) : Prop where
  named : i.mnemonic ≠ ""
  mnemonic : ∀ c ∈ i.mnemonic.toList, Text.isBlank c = false ∧ c ≠ ';' ∧ c ≠ '#'
  operands : ∀ c ∈ i.operands.toList, c ≠ '\n' ∧ c ≠ ';' ∧ c ≠ '#'
  trimmed : Text.Trimmed i.operands.toList

theorem startsComment_eq_false_iff {c : Char} : startsComment c = false ↔ c ≠ ';' ∧ c ≠ '#' := by
  simp [startsComment]

theorem toList_render (i : Instruction) :
    i.render.toList = i.mnemonic.toList
      ++ if i.operands.toList = [] then [] else ' ' :: i.operands.toList := by
  unfold render
  by_cases h : i.operands.toList = []
  · rw [if_pos (by simpa using h), if_pos h, List.append_nil]
  · rw [if_neg (by simpa using h), if_neg h, String.toList_append, String.toList_append,
      List.append_assoc]
    rfl

/-! ## Reading a line -/

theorem codePart_sublist (line : List Char) : (codePart line).Sublist line :=
  (Text.trim_sublist _).trans (List.takeWhile_sublist _)

theorem not_startsComment_of_mem_codePart {line : List Char} {c : Char} (h : c ∈ codePart line) :
    startsComment c = false := by
  have hc := List.mem_takeWhile_imp ((Text.trim_sublist _).subset h)
  simpa using hc

/-- **Only well-formed instructions are read** from a line. -/
theorem wellFormed_of_ofLine? {line : List Char} {i : Instruction} (hline : '\n' ∉ line)
    (h : ofLine? line = some i) : i.WellFormed := by
  unfold ofLine? at h
  by_cases he : (codePart line).isEmpty = true
  · rw [if_pos he] at h
    cases h
  rw [if_neg he] at h
  cases h
  have htrim : Text.Trimmed (codePart line) := Text.trimmed_trim _
  have hcomment : ∀ c ∈ codePart line, c ≠ ';' ∧ c ≠ '#' := fun c hc =>
    startsComment_eq_false_iff.mp (not_startsComment_of_mem_codePart hc)
  have hnewline : ∀ c ∈ codePart line, c ≠ '\n' := fun c hc hn =>
    hline (hn ▸ (codePart_sublist line).subset hc)
  constructor
  · -- The code starts with a character that is no blank, and so the mnemonic holds it.
    obtain ⟨c, rest, hcode⟩ := List.exists_cons_of_ne_nil (mt List.isEmpty_iff.mpr he)
    have hstart := htrim.starts c (by rw [hcode]; rfl)
    intro hnil
    rw [ofCode, hcode, List.takeWhile_cons_of_pos (by simp [hstart])] at hnil
    simpa using congrArg String.toList hnil
  · intro c hc
    rw [ofCode, String.toList_ofList] at hc
    have hword := List.mem_takeWhile_imp hc
    exact ⟨by simpa using hword, hcomment c ((List.takeWhile_sublist _).subset hc)⟩
  · intro c hc
    rw [ofCode, String.toList_ofList] at hc
    have hmem := (List.dropWhile_sublist _).subset ((Text.trim_sublist _).subset hc)
    exact ⟨hnewline c hmem, hcomment c hmem⟩
  · rw [ofCode, String.toList_ofList]
    exact Text.trimmed_trim _

/-! ## Reading what was written -/

namespace WellFormed

variable {i : Instruction}

theorem mnemonic_ne_nil (h : i.WellFormed) : i.mnemonic.toList ≠ [] :=
  mt String.toList_eq_nil_iff.mp h.named

theorem render_ne_nil (h : i.WellFormed) : i.render.toList ≠ [] := by
  rw [toList_render]
  exact List.append_ne_nil_of_left_ne_nil h.mnemonic_ne_nil _

/-- What is written of an instruction is one line without a comment. -/
theorem mem_render (h : i.WellFormed) {c : Char} (hc : c ∈ i.render.toList) :
    c ≠ '\n' ∧ startsComment c = false := by
  rw [startsComment_eq_false_iff]
  rw [toList_render, List.mem_append] at hc
  rcases hc with hc | hc
  · obtain ⟨hblank, hcomment⟩ := h.mnemonic c hc
    refine ⟨?_, hcomment⟩
    rintro rfl
    cases hblank
  · by_cases hnil : i.operands.toList = []
    · rw [if_pos hnil] at hc
      cases hc
    · rw [if_neg hnil] at hc
      rcases List.mem_cons.mp hc with rfl | hc
      · decide
      · exact h.operands c hc

/-- It needs no trimming: it starts with the mnemonic, and it ends with the operands if there are
any. -/
theorem trimmed_render (h : i.WellFormed) : Text.Trimmed i.render.toList := by
  rw [toList_render]
  constructor
  · intro c hc
    rw [List.head?_append_of_ne_nil _ h.mnemonic_ne_nil] at hc
    exact (h.mnemonic c (List.mem_of_mem_head? hc)).1
  · intro c hc
    by_cases hnil : i.operands.toList = []
    · rw [if_pos hnil, List.append_nil] at hc
      exact (h.mnemonic c (List.mem_of_mem_getLast? hc)).1
    · rw [if_neg hnil, List.getLast?_append_of_ne_nil _ (List.cons_ne_nil _ _),
        List.getLast?_cons_of_ne_nil hnil] at hc
      exact h.trimmed.ends c hc

theorem codePart_render (h : i.WellFormed) : codePart i.render.toList = i.render.toList := by
  have hall : i.render.toList.takeWhile (fun c => !startsComment c) = i.render.toList := by
    rw [List.takeWhile_eq_self_iff]
    intro c hc
    simp [(h.mem_render hc).2]
  rw [codePart, hall, Text.trim_of_trimmed h.trimmed_render]

/-- The mnemonic and the operands are told apart by the blank between them. -/
theorem ofCode_render (h : i.WellFormed) : ofCode i.render.toList = i := by
  have hword : ∀ c ∈ i.mnemonic.toList, (!Text.isBlank c) = true := fun c hc => by
    simp [(h.mnemonic c hc).1]
  rw [ofCode, toList_render, List.takeWhile_append_of_pos hword,
    List.dropWhile_append_of_pos hword]
  by_cases hnil : i.operands.toList = []
  · have hempty : i.operands = "" := String.toList_eq_nil_iff.mp hnil
    rw [if_pos hnil, List.takeWhile_nil, List.append_nil, String.ofList_toList]
    cases i
    cases hempty
    rfl
  · have htrim : Text.trim (' ' :: i.operands.toList) = i.operands.toList := by
      rw [Text.trim_cons_blank (by decide), Text.trim_of_trimmed h.trimmed]
    rw [if_neg hnil, List.takeWhile_cons_of_neg (by decide),
      List.dropWhile_cons_of_neg (by decide), htrim, List.append_nil, String.ofList_toList,
      String.ofList_toList]

end WellFormed

/-- **A well-formed instruction is read back** from the line that it is written on. -/
theorem ofLine?_render {i : Instruction} (h : i.WellFormed) :
    ofLine? i.render.toList = some i := by
  unfold ofLine?
  rw [h.codePart_render, if_neg (by simpa using h.render_ne_nil), h.ofCode_render]

end Instruction

/-! ## Streams -/

namespace Stream

/-- The instructions of a stream, each on a line of its own. -/
def render (s : Stream) : String :=
  "\n".intercalate (s.instructions.map Instruction.render)

theorem wellFormed_of_parse (architecture text : String) :
    ∀ i ∈ (parse architecture text).instructions, i.WellFormed := by
  intro i hi
  obtain ⟨line, hline, hread⟩ := List.mem_filterMap.mp hi
  exact Instruction.wellFormed_of_ofLine? (Text.newline_not_mem_of_mem_lines hline) hread

/-- The lines of a stream of well-formed instructions are the ones that were written. -/
theorem lines_render {s : Stream} (h : ∀ i ∈ s.instructions, i.WellFormed) :
    Text.lines s.render.toList = s.instructions.map fun i => i.render.toList := by
  have hlines : s.render.toList
      = ['\n'].intercalate (s.instructions.map fun i => i.render.toList) := by
    rw [render, String.toList_intercalate, List.map_map]
    rfl
  have hall : ∀ line ∈ s.instructions.map fun i => i.render.toList,
      ∃ i : Instruction, i.WellFormed ∧ i.render.toList = line := by
    intro line hmem
    obtain ⟨i, hi, rfl⟩ := List.mem_map.mp hmem
    exact ⟨i, h i hi, rfl⟩
  rw [hlines]
  apply Text.lines_intercalate
  · intro line hmem hnewline
    obtain ⟨i, hi, rfl⟩ := hall line hmem
    exact (hi.mem_render hnewline).1 rfl
  · intro line hmem
    obtain ⟨i, hi, rfl⟩ := hall line hmem
    exact hi.render_ne_nil
  · -- A carriage return is a blank, and so it does not end a trimmed line.
    intro line hmem hreturn
    obtain ⟨i, hi, rfl⟩ := hall line hmem
    have hblank := hi.trimmed_render.ends '\r' hreturn
    cases hblank

theorem parse_render_of_wellFormed {s : Stream} (h : ∀ i ∈ s.instructions, i.WellFormed) :
    parse s.architecture s.render = s := by
  have hread : (s.instructions.map fun i => i.render.toList).filterMap Instruction.ofLine?
      = s.instructions := by
    have hsome : ∀ i ∈ s.instructions,
        (Instruction.ofLine? ∘ fun i => i.render.toList) i = some i := by
      intro i hi
      rw [Function.comp_apply, Instruction.ofLine?_render (h i hi)]
    rw [List.filterMap_map, List.filterMap_congr hsome, List.filterMap_some]
  rw [parse, lines_render h, hread]

/-- **Reading and writing are inverse to each other on the streams of well-formed instructions, and
on no others.** Reading yields such streams only and keeps the architecture, and so what was read,
written and read again is what was read at first. -/
theorem parse_render_iff (architecture text : String) (s : Stream) :
    (∀ i ∈ (parse architecture text).instructions, i.WellFormed)
      ∧ (parse architecture text).architecture = architecture
      ∧ (parse s.architecture s.render = s ↔ ∀ i ∈ s.instructions, i.WellFormed)
      ∧ parse architecture (parse architecture text).render = parse architecture text := by
  have hread := wellFormed_of_parse architecture text
  have hback := parse_render_of_wellFormed hread
  refine ⟨hread, rfl, ⟨fun h => ?_, parse_render_of_wellFormed⟩, hback⟩
  rw [← h]
  exact wellFormed_of_parse s.architecture s.render

/-- A blank that the operands start with is lost. -/
example : parse "x86" (render ⟨"x86", [⟨"inc", " eax"⟩]⟩) = ⟨"x86", [⟨"inc", "eax"⟩]⟩ := by
  decide +kernel

end Stream

end Confine.Code

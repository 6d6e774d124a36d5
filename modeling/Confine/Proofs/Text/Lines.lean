import Confine.Text.Blank
import Mathlib

set_option autoImplicit false

/-! # Lines that are read back

A text is cut into lines at its newlines, and a line is trimmed of the blanks at its ends. Here it
is said when either changes nothing: trimming gives a trimmed text (`trimmed_trim`) and leaves the
trimmed ones alone (`trim_of_trimmed`), and lines that hold something and end in no carriage return
come back as they were after a newline has been put between every two of them (`lines_intercalate`).
-/

namespace Confine.Text

/-! ## Trimming -/

/-- **A trimmed text** neither starts nor ends with a blank. -/
structure Trimmed (cs : List Char) : Prop where
  starts : ∀ c ∈ cs.head?, isBlank c = false
  ends : ∀ c ∈ cs.getLast?, isBlank c = false

theorem trimEnd_eq_rdropWhile (cs : List Char) : trimEnd cs = cs.rdropWhile isBlank := rfl

theorem trim_sublist (cs : List Char) : (trim cs).Sublist cs :=
  (List.rdropWhile_prefix isBlank (trimStart cs)).sublist.trans (List.dropWhile_sublist isBlank)

theorem trimmed_trim (cs : List Char) : Trimmed (trim cs) := by
  constructor
  · -- What is cut off at the end leaves the start as it is, unless nothing is left.
    intro c hc
    obtain ⟨rest, hrest⟩ := List.rdropWhile_prefix isBlank (l := trimStart cs)
    have hhead : (trimStart cs).head? = some c := by
      rw [← hrest, List.head?_append, ← trimEnd_eq_rdropWhile]
      simp [show (trimEnd (trimStart cs)).head? = some c from hc]
    have hstart := List.head?_dropWhile_not isBlank cs
    rw [show cs.dropWhile isBlank = trimStart cs from rfl, hhead] at hstart
    exact hstart
  · intro c hc
    obtain ⟨hne, rfl⟩ := List.mem_getLast?_eq_getLast hc
    exact Bool.eq_false_of_not_eq_true (List.rdropWhile_last_not isBlank _ hne)

/-- **Trimming leaves the trimmed texts alone.** -/
theorem trim_of_trimmed {cs : List Char} (h : Trimmed cs) : trim cs = cs := by
  have hstart : trimStart cs = cs := by
    cases cs with
    | nil => rfl
    | cons c rest => exact List.dropWhile_cons_of_neg (by simp [h.starts c rfl])
  rw [trim, hstart, trimEnd_eq_rdropWhile, List.rdropWhile_eq_self_iff]
  intro hne
  simp [h.ends _ (List.getLast?_eq_some_getLast hne)]

theorem trim_cons_blank {c : Char} (h : isBlank c = true) (cs : List Char) :
    trim (c :: cs) = trim cs := by
  rw [trim, trim, trimStart, List.dropWhile_cons_of_pos h, trimStart]

/-- Blanks in front of a text are trimmed away. -/
theorem trim_blanks_append {blanks : List Char} (h : ∀ c ∈ blanks, isBlank c = true)
    (cs : List Char) : trim (blanks ++ cs) = trim cs := by
  rw [trim, trim, trimStart, List.dropWhile_append_of_pos h, trimStart]

theorem trimEnd_append_blanks (cs : List Char) {blanks : List Char}
    (h : ∀ c ∈ blanks, isBlank c = true) : trimEnd (cs ++ blanks) = trimEnd cs := by
  rw [trimEnd, trimEnd, List.reverse_append,
    List.dropWhile_append_of_pos fun c hc => h c (List.mem_reverse.mp hc)]

/-- **Nothing is left of a text** exactly if it is blank. -/
theorem trim_eq_nil_iff {cs : List Char} : trim cs = [] ↔ ∀ c ∈ cs, isBlank c = true := by
  constructor
  · intro h
    rw [trim, trimEnd_eq_rdropWhile, List.rdropWhile_eq_nil_iff] at h
    have hstart : trimStart cs = [] := by
      cases hcs : trimStart cs with
      | nil => rfl
      | cons c rest =>
          -- The first character that is left would be a blank and no blank.
          have hnot := List.head?_dropWhile_not isBlank cs
          rw [show cs.dropWhile isBlank = c :: rest from hcs] at hnot
          have hblank := h c (by rw [hcs]; exact List.mem_cons_self)
          simp [hblank] at hnot
    exact List.dropWhile_eq_nil_iff.mp hstart
  · intro h
    have hnil := trim_blanks_append h []
    rw [List.append_nil] at hnil
    rw [hnil]
    rfl

/-- Blanks behind a text are trimmed away. -/
theorem trim_append_blanks (cs : List Char) {blanks : List Char}
    (h : ∀ c ∈ blanks, isBlank c = true) : trim (cs ++ blanks) = trim cs := by
  by_cases hall : ∀ c ∈ cs, isBlank c = true
  · rw [trim_blanks_append hall, trim_eq_nil_iff.mpr hall, trim_eq_nil_iff.mpr h]
  · -- What is cut off at the start ends before the blanks behind the text.
    have hstart : trimStart (cs ++ blanks) = trimStart cs ++ blanks := by
      have hne : (cs.dropWhile isBlank).isEmpty = false := by
        rw [List.isEmpty_eq_false_iff]
        exact fun hnil => hall (List.dropWhile_eq_nil_iff.mp hnil)
      rw [trimStart, List.dropWhile_append, hne]
      rfl
    rw [trim, hstart, trimEnd_append_blanks _ h, trim]

/-! ## Cutting -/

theorem splitWhere_eq_splitOnP {α : Type} (p : α → Bool) (xs : List α) :
    splitWhere p xs = xs.splitOnP p := by
  induction xs with
  | nil => simp [splitWhere]
  | cons x xs ih =>
      rw [splitWhere, List.splitOnP_cons_eq_if_modifyHead, ih]
      by_cases hx : p x = true
      · rw [if_pos hx, if_pos hx]
      · rw [if_neg hx, if_neg hx]
        obtain ⟨piece, pieces, hpieces⟩ :=
          List.exists_cons_of_ne_nil (List.splitOnP_ne_nil p xs)
        rw [hpieces, List.modifyHead_cons]

/-- A text is cut at each separator in it on its own. -/
theorem splitWhere_append {α : Type} {p : α → Bool} {a : α} (h : p a = true) (xs ys : List α) :
    splitWhere p (xs ++ a :: ys) = splitWhere p xs ++ splitWhere p ys := by
  rw [splitWhere_eq_splitOnP, splitWhere_eq_splitOnP, splitWhere_eq_splitOnP,
    List.splitOnP_append_cons xs ys h]

/-- What holds no separator is one piece. -/
theorem splitWhere_eq_singleton {α : Type} {p : α → Bool} {xs : List α}
    (h : ∀ a ∈ xs, p a = false) : splitWhere p xs = [xs] := by
  rw [splitWhere_eq_splitOnP]
  exact List.splitOnP_eq_singleton fun a ha => by simp [h a ha]

/-- The pieces hold no separators. -/
theorem not_of_mem_splitWhere {α : Type} {p : α → Bool} {xs piece : List α}
    (h : piece ∈ splitWhere p xs) : ∀ a ∈ piece, p a = false := by
  induction xs generalizing piece with
  | nil =>
      rw [List.mem_singleton.mp h]
      simp
  | cons x xs ih =>
      rw [splitWhere] at h
      by_cases hx : p x = true
      · rw [if_pos hx, List.mem_cons] at h
        rcases h with rfl | h
        · simp
        · exact ih h
      · rw [if_neg hx] at h
        cases hs : splitWhere p xs with
        | nil =>
            rw [hs, List.mem_singleton] at h
            simpa [h] using hx
        | cons first others =>
            rw [hs] at h ih
            rcases List.mem_cons.mp h with rfl | hmem
            · -- The first piece has grown by an element that is no separator.
              intro a ha
              rcases List.mem_cons.mp ha with rfl | ha
              · simpa using hx
              · exact ih List.mem_cons_self a ha
            · exact ih (List.mem_cons_of_mem _ hmem)

theorem dropReturn_sublist (line : List Char) : (dropReturn line).Sublist line := by
  unfold dropReturn
  split
  · exact List.dropLast_sublist line
  · exact List.Sublist.refl line

theorem closeLines_cons (line : List Char) {rest : List (List Char)} (h : rest ≠ []) :
    closeLines (line :: rest) = dropReturn line :: closeLines rest := by
  cases rest with
  | nil => exact absurd rfl h
  | cons next others => rfl

/-- A line is what is left of a piece between newlines. -/
theorem exists_of_mem_closeLines {pieces : List (List Char)} {line : List Char}
    (h : line ∈ closeLines pieces) : ∃ piece ∈ pieces, line.Sublist piece := by
  induction pieces using closeLines.induct with
  | case1 => cases h
  | case2 last he =>
      rw [closeLines, if_pos he] at h
      cases h
  | case3 last he =>
      rw [closeLines, if_neg he] at h
      rw [List.mem_singleton.mp h]
      exact ⟨last, List.mem_cons_self, List.Sublist.refl last⟩
  | case4 first rest hne ih =>
      rw [closeLines_cons first hne, List.mem_cons] at h
      rcases h with rfl | h
      · exact ⟨first, List.mem_cons_self, dropReturn_sublist first⟩
      · obtain ⟨piece, hmem, hsub⟩ := ih h
        exact ⟨piece, List.mem_cons_of_mem _ hmem, hsub⟩

theorem newline_not_mem_of_mem_lines {cs line : List Char} (h : line ∈ lines cs) :
    '\n' ∉ line := by
  intro hmem
  obtain ⟨piece, hpiece, hsub⟩ := exists_of_mem_closeLines h
  have hnot := not_of_mem_splitWhere hpiece '\n' (hsub.subset hmem)
  simp at hnot

/-! ## Lines put together -/

theorem closeLines_of_full {ls : List (List Char)} (hfull : ∀ l ∈ ls, l ≠ [])
    (hreturn : ∀ l ∈ ls, l.getLast? ≠ some '\r') : closeLines ls = ls := by
  induction ls using closeLines.induct with
  | case1 => rfl
  | case2 last he => exact absurd (List.isEmpty_iff.mp he) (hfull last List.mem_cons_self)
  | case3 last he => rw [closeLines, if_neg he]
  | case4 first rest hne ih =>
      have hkept : dropReturn first = first := if_neg (hreturn first List.mem_cons_self)
      rw [closeLines_cons first hne, hkept,
        ih (fun l hl => hfull l (List.mem_cons_of_mem _ hl))
          fun l hl => hreturn l (List.mem_cons_of_mem _ hl)]

/-- **Lines are read back** after a newline has been put between every two of them, if none of them
is empty or ends in a carriage return. -/
theorem lines_intercalate {ls : List (List Char)} (hline : ∀ l ∈ ls, '\n' ∉ l)
    (hfull : ∀ l ∈ ls, l ≠ []) (hreturn : ∀ l ∈ ls, l.getLast? ≠ some '\r') :
    lines (['\n'].intercalate ls) = ls := by
  cases hls : ls with
  | nil => rfl
  | cons l rest =>
      have hsplit : splitWhere (· == '\n') (['\n'].intercalate ls) = ls := by
        rw [splitWhere_eq_splitOnP]
        exact List.splitOn_intercalate '\n' hline (by simp [hls])
      rw [← hls, lines, hsplit]
      exact closeLines_of_full hfull hreturn

end Confine.Text

import Confine.Path
import Confine.Proofs.Text.Bytes
import Confine.Proofs.Text.Lines

set_option autoImplicit false

/-! # The path above a path

The parent of a path is put together anew from the names in it, and so it is in general no piece of
the path. But it has the names that mean something, all but the last (`steps_of_parent?`), it starts
where the path starts, and nothing was added (`sublist_of_parent?`).
-/

namespace Confine.Path

/-! ## Cutting and joining -/

theorem cut_eq_splitWhere (text : List Char) : cut text = Text.splitWhere (· == '/') text := by
  induction text with
  | nil => rfl
  | cons c rest ih =>
      rw [cut, Text.splitWhere, ih]
      by_cases hc : c = '/'
      · rw [if_pos hc, if_pos (beq_iff_eq.mpr hc)]
      · rw [if_neg hc, if_neg (by simpa using hc)]
        cases Text.splitWhere (· == '/') rest <;> rfl

/-- The names are put together again with slashes between them. -/
theorem intercalate_cut (text : List Char) : ['/'].intercalate (cut text) = text := by
  rw [cut_eq_splitWhere, Text.splitWhere_eq_splitOnP]
  exact List.intercalate_splitOn '/'

/-- A name that is looked for has characters in it, and none of them is a slash. -/
def IsName (name : String) : Prop :=
  name.toList ≠ [] ∧ '/' ∉ name.toList

/-- The names in some characters. -/
def namesOf (text : List Char) : List String :=
  ((cut text).filter fun name => !name.isEmpty).map String.ofList

theorem namesOf_slash (text : List Char) : namesOf ('/' :: text) = namesOf text := by
  unfold namesOf
  rw [cut, if_pos rfl]
  rfl

theorem isName_of_mem_namesOf {text : List Char} {name : String} (h : name ∈ namesOf text) :
    IsName name := by
  obtain ⟨piece, hpiece, rfl⟩ := List.mem_map.mp h
  obtain ⟨hcut, hsome⟩ := List.mem_filter.mp hpiece
  rw [cut_eq_splitWhere] at hcut
  rw [IsName, String.toList_ofList]
  refine ⟨by simpa using hsome, fun hslash => ?_⟩
  exact absurd (Text.not_of_mem_splitWhere hcut '/' hslash) (by decide)

/-- Names are cut out again where they were put together. -/
theorem namesOf_intercalate {names : List String} (h : ∀ name ∈ names, IsName name) :
    namesOf (['/'].intercalate (names.map String.toList)) = names := by
  have hcut : ((cut (['/'].intercalate (names.map String.toList))).filter
      fun name => !name.isEmpty) = names.map String.toList := by
    cases names with
    | nil => rfl
    | cons first rest =>
        have hslash : ∀ piece ∈ (first :: rest).map String.toList, '/' ∉ piece := by
          intro piece hpiece
          obtain ⟨name, hname, rfl⟩ := List.mem_map.mp hpiece
          exact (h name hname).2
        rw [cut_eq_splitWhere, Text.splitWhere_eq_splitOnP]
        rw [show List.splitOnP (· == '/') _ = _ from List.splitOn_intercalate '/' hslash (by simp)]
        rw [List.filter_eq_self]
        intro piece hpiece
        obtain ⟨name, hname, rfl⟩ := List.mem_map.mp hpiece
        simpa using (h name hname).1
  rw [namesOf, hcut, List.map_map]
  exact (List.map_congr_left fun name _ => String.ofList_toList).trans (List.map_id names)

/-- Fewer names make a text that nothing was added to. -/
theorem intercalate_sublist {names names' : List (List Char)} (h : names.Sublist names') :
    (['/'].intercalate names).Sublist (['/'].intercalate names') := by
  induction h with
  | slnil => exact .slnil
  | @cons xs ys y hsub ih =>
      cases ys with
      | nil => rw [List.sublist_nil.mp hsub]; exact List.nil_sublist _
      | cons z zs =>
          rw [List.intercalate_cons_cons]
          exact ih.trans (List.sublist_append_right _ _)
  | @cons_cons xs ys x hsub ih =>
      cases xs with
      | nil =>
          cases ys with
          | nil => exact List.Sublist.refl _
          | cons z zs =>
              rw [List.intercalate_cons_cons, List.intercalate_singleton, List.append_assoc]
              exact List.sublist_append_left _ _
      | cons w ws =>
          cases ys with
          | nil => nomatch hsub
          | cons z zs =>
              rw [List.intercalate_cons_cons, List.intercalate_cons_cons]
              exact ih.append_left _

/-! ## Parents -/

/-- The slash that an absolute path starts with. -/
def lead (path : String) : List Char :=
  if isAbsolute path = true then ['/'] else []

/-- What comes after it, and has the same names. -/
theorem exists_body (path : String) :
    ∃ body, path.toList = lead path ++ body ∧ steps path = namesOf body := by
  unfold lead isAbsolute
  cases htext : path.toList with
  | nil => exact ⟨[], rfl, by rw [steps, htext]; rfl⟩
  | cons c body =>
      by_cases hc : c = '/'
      · subst hc
        refine ⟨body, rfl, ?_⟩
        rw [← namesOf_slash, ← htext]
        rfl
      · refine ⟨c :: body, ?_, by rw [← htext]; rfl⟩
        rw [if_neg (by simpa using hc)]
        rfl

theorem significant_sublist (path : String) : (significant path).Sublist (steps path) := by
  unfold significant
  cases steps path with
  | nil => exact .slnil
  | cons first rest =>
      dsimp only
      split
      case isTrue => exact List.filter_sublist.cons_cons first
      case isFalse => exact List.filter_sublist

theorem isName_of_mem_significant {path name : String} (h : name ∈ significant path) :
    IsName name :=
  isName_of_mem_namesOf ((significant_sublist path).subset h)

/-- The text of a parent. -/
theorem toList_of_parent? {path directory : String} (h : parent? path = some directory) :
    significant path ≠ [] ∧ directory.toList
      = lead path ++ ['/'].intercalate ((significant path).dropLast.map String.toList) := by
  unfold parent? at h
  dsimp only at h
  split at h
  case isTrue => nomatch h
  case isFalse hsome =>
    refine ⟨fun hnil => hsome (by rw [hnil]; rfl), ?_⟩
    rw [← Option.some.inj h, lead]
    split <;> simp [String.toList_append, String.toList_intercalate]

/-- **The names of a parent** are those that mean something, but not the last one. -/
theorem steps_of_parent? {path directory : String} (h : parent? path = some directory) :
    ∃ last, significant path = steps directory ++ [last] := by
  obtain ⟨hsome, htext⟩ := toList_of_parent? h
  have hnames : steps directory = (significant path).dropLast := by
    show namesOf directory.toList = _
    have hall : ∀ name ∈ (significant path).dropLast, IsName name := fun name hname =>
      isName_of_mem_significant (List.dropLast_subset _ hname)
    rw [htext, lead]
    split
    · exact (namesOf_slash _).trans (namesOf_intercalate hall)
    · exact namesOf_intercalate hall
  exact ⟨_, by rw [hnames, List.dropLast_append_getLast hsome]⟩

/-- **A parent starts where the path starts**, if it has any text. -/
theorem isAbsolute_of_parent? {path directory : String} (h : parent? path = some directory) :
    directory.isEmpty = true ∨ isAbsolute directory = isAbsolute path := by
  obtain ⟨-, htext⟩ := toList_of_parent? h
  rw [lead] at htext
  by_cases habsolute : isAbsolute path = true
  · rw [if_pos habsolute] at htext
    rw [habsolute, isAbsolute, htext]
    exact .inr rfl
  rw [if_neg habsolute, List.nil_append] at htext
  cases hinit : (significant path).dropLast with
  | nil =>
      rw [hinit] at htext
      exact .inl (String.isEmpty_iff.mpr (String.toList_inj.mp htext))
  | cons first rest =>
      -- The text starts with that of the first name.
      obtain ⟨hsome, hslash⟩ := isName_of_mem_significant
        (List.dropLast_subset _ (hinit ▸ List.mem_cons_self : first ∈ _))
      obtain ⟨c, cs, hfirst⟩ := List.exists_cons_of_ne_nil hsome
      have hc : c ≠ '/' := fun hc => hslash (by rw [hfirst, hc]; exact List.mem_cons_self)
      have hhead : directory.toList.head? = some c := by
        rw [htext, hinit, List.map_cons, hfirst]
        cases rest <;> rfl
      rw [Bool.not_eq_true] at habsolute
      rw [habsolute, isAbsolute, hhead]
      exact .inr (by simpa using hc)

/-- **Nothing is added** to a path to get its parent. -/
theorem sublist_of_parent? {path directory : String} (h : parent? path = some directory) :
    directory.toList.Sublist path.toList := by
  obtain ⟨-, htext⟩ := toList_of_parent? h
  obtain ⟨body, hbody, hsteps⟩ := exists_body path
  have hnames : ((steps path).map String.toList).Sublist (cut body) := by
    rw [hsteps, namesOf, List.map_map]
    have hid : String.toList ∘ String.ofList = id := funext fun _ => String.toList_ofList
    rw [hid, List.map_id]
    exact List.filter_sublist
  -- Names are left out and none is changed, and slashes go with the names.
  have hfewer := ((List.dropLast_sublist _).trans (significant_sublist path)).map String.toList
  rw [htext, hbody, ← intercalate_cut body]
  exact (intercalate_sublist (hfewer.trans hnames)).append_left _

/-- A parent is no longer than the path. -/
theorem utf8ByteSize_of_parent? {path directory : String} (h : parent? path = some directory) :
    directory.utf8ByteSize ≤ path.utf8ByteSize := by
  have hfewer := (sublist_of_parent? h).flatMap String.utf8EncodeChar
  calc directory.utf8ByteSize
      = (directory.toList.flatMap String.utf8EncodeChar).length := by
        rw [← Text.bytesOf_eq_flatMap, Text.length_bytesOf]
    _ ≤ (path.toList.flatMap String.utf8EncodeChar).length := hfewer.length_le
    _ = path.utf8ByteSize := by rw [← Text.bytesOf_eq_flatMap, Text.length_bytesOf]

end Confine.Path

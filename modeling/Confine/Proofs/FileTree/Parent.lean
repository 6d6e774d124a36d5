import Confine.Proofs.FileTree.Following
import Confine.Proofs.Path

set_option autoImplicit false

/-! # Above what is there

Whoever writes a file first creates the directories above it, which are those that the parent of its
path names. Where the path already leads somewhere, this is in vain: the names of the parent are
passed on the way (`Follows.front`), and names that mean nothing can be left out on any way
(`Follows.without_dots`), so the parent leads to a directory (`Leads.parent`).
-/

namespace Confine.FileTree

variable {t : FileTree} {links : Nat} {place names p : List String}

/-- **Dots** can be left out of the names that are followed, from any name on. -/
theorem Follows.without_dots (h : t.Follows true links place names p) :
    ∀ {front back : List String}, names = front ++ back →
      t.Follows true links place (front ++ back.filter (· ≠ ".")) p := by
  -- The names in front are kept as they are, since those of a link's target come before the rest.
  induction h with
  | arrived links place =>
      intro front back hnames
      obtain ⟨rfl, rfl⟩ := List.append_eq_nil_iff.mp hnames.symm
      exact .arrived links place
  | here hplace _ ih =>
      intro front back hnames
      rcases List.append_eq_cons_iff.mp hnames.symm with ⟨rfl, rfl⟩ | ⟨rest, rfl, rfl⟩
      · rw [List.filter_cons_of_neg (by simp)]
        exact ih (List.nil_append _).symm
      · exact .here hplace (ih rfl)
  | up hplace _ ih =>
      intro front back hnames
      rcases List.append_eq_cons_iff.mp hnames.symm with ⟨rfl, rfl⟩ | ⟨rest, rfl, rfl⟩
      · exact .up hplace (ih (List.nil_append _).symm)
      · exact .up hplace (ih rfl)
  | @down links place names p name hplace hname hlink _ ih =>
      intro front back hnames
      rcases List.append_eq_cons_iff.mp hnames.symm with ⟨rfl, rfl⟩ | ⟨rest, rfl, rfl⟩
      · rw [List.nil_append, List.filter_cons_of_pos (by simpa using hname.1)]
        exact .down hplace hname hlink (ih (List.nil_append _).symm)
      · exact .down hplace hname hlink (ih rfl)
  | @link links place names p name target hplace hname hlink _ _ ih =>
      intro front back hnames
      rcases List.append_eq_cons_iff.mp hnames.symm with ⟨rfl, rfl⟩ | ⟨rest, rfl, rfl⟩
      · rw [List.nil_append, List.filter_cons_of_pos (by simpa using hname.1)]
        exact .link hplace hname hlink (by simp) (ih rfl)
      · have hrest := ih (List.append_assoc _ rest back).symm
        rw [List.append_assoc] at hrest
        exact .link hplace hname hlink (by simp) hrest
  | last _ _ _ hwhole => nomatch hwhole

/-- **What comes before a name** leads to a directory. -/
theorem Follows.front (h : t.Follows true links place names p) :
    ∀ {front back : List String}, names = front ++ back → back ≠ [] →
      ∃ q, t.Follows true links place front q ∧ t.HoldsDirectory q := by
  induction h with
  | arrived links place =>
      intro front back hnames hback
      exact absurd (List.append_eq_nil_iff.mp hnames.symm).2 hback
  | here hplace _ ih =>
      intro front back hnames hback
      rcases List.append_eq_cons_iff.mp hnames.symm with ⟨rfl, -⟩ | ⟨rest, rfl, rfl⟩
      · exact ⟨_, .arrived _ _, hplace⟩
      · obtain ⟨q, hq, hdirectory⟩ := ih rfl hback
        exact ⟨q, .here hplace hq, hdirectory⟩
  | up hplace _ ih =>
      intro front back hnames hback
      rcases List.append_eq_cons_iff.mp hnames.symm with ⟨rfl, -⟩ | ⟨rest, rfl, rfl⟩
      · exact ⟨_, .arrived _ _, hplace⟩
      · obtain ⟨q, hq, hdirectory⟩ := ih rfl hback
        exact ⟨q, .up hplace hq, hdirectory⟩
  | down hplace hname hlink _ ih =>
      intro front back hnames hback
      rcases List.append_eq_cons_iff.mp hnames.symm with ⟨rfl, -⟩ | ⟨rest, rfl, rfl⟩
      · exact ⟨_, .arrived _ _, hplace⟩
      · obtain ⟨q, hq, hdirectory⟩ := ih rfl hback
        exact ⟨q, .down hplace hname hlink hq, hdirectory⟩
  | link hplace hname hlink _ _ ih =>
      intro front back hnames hback
      rcases List.append_eq_cons_iff.mp hnames.symm with ⟨rfl, -⟩ | ⟨rest, rfl, rfl⟩
      · exact ⟨_, .arrived _ _, hplace⟩
      · obtain ⟨q, hq, hdirectory⟩ := ih (List.append_assoc _ _ _).symm hback
        exact ⟨q, .link hplace hname hlink (by simp) hq, hdirectory⟩
  | last _ _ _ hwhole => nomatch hwhole

variable {path directory : String}

/-- The names of a path that mean something lead where the path leads. -/
theorem Leads.significant (h : t.Leads path true p) :
    t.Follows true maxLinks (if Path.isAbsolute path then [] else t.current)
      (Path.significant path) p := by
  have hfollows := h.2
  unfold Path.significant
  cases hsteps : Path.steps path with
  | nil =>
      rw [hsteps] at hfollows
      exact hfollows
  | cons first rest =>
      rw [hsteps] at hfollows
      dsimp only
      by_cases hdot : (first == "." && !Path.isAbsolute path) = true
      · rw [if_pos hdot]
        exact hfollows.without_dots (List.singleton_append (x := first) (l := rest)).symm
      · rw [if_neg hdot]
        exact hfollows.without_dots (List.nil_append _).symm

/-- **The parent of a path that leads somewhere** leads to a directory, unless it has no text. -/
theorem Leads.parent (h : t.Leads path true p) (hparent : Path.parent? path = some directory) :
    directory.isEmpty = true ∨ t.isDirectory directory = true := by
  by_cases hempty : directory.isEmpty = true
  · exact .inl hempty
  obtain ⟨hnul, -, hlong⟩ := h.1
  obtain ⟨last, hnames⟩ := Path.steps_of_parent? hparent
  obtain ⟨q, hq, hdirectory⟩ := h.significant.front hnames (List.cons_ne_nil last [])
  have hlawful : IsLawfulPath directory := by
    refine ⟨fun hmem => hnul ?_, hempty, fun hgt => ?_⟩
    · rw [List.contains_iff_mem] at hmem ⊢
      exact (Path.sublist_of_parent? hparent).subset hmem
    · exact hlong (Nat.lt_of_lt_of_le hgt (Path.utf8ByteSize_of_parent? hparent))
  rw [← (Path.isAbsolute_of_parent? hparent).resolve_left hempty] at hq
  exact .inr (isDirectory_iff.2 ⟨q, ⟨hlawful, hq⟩, hdirectory⟩)

end Confine.FileTree

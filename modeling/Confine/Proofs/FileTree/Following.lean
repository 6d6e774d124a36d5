import Confine.Proofs.FileTree

set_option autoImplicit false

/-! # Following paths

A path is followed name by name, and through links as long as there are not too many. `Follows` says
this as a relation, which is what the function computes (`follow_eq_ok_iff`). It asks of a tree only
what stays true while the tree grows, so a path that led somewhere goes on leading there
(`Leads.mono`).
-/

namespace Confine.FileTree

/-! ## Following names -/

/-- A name that is looked up: neither a dot nor two, and not too long. -/
def IsPlainName (name : String) : Prop :=
  name ≠ "." ∧ name ≠ ".." ∧ ¬ name.utf8ByteSize > maxName

/-- **`t.Follows whole links place names p`**: from a place the names lead to the place `p`, with no
more than a number of links on the way. -/
inductive Follows (t : FileTree) (whole : Bool) :
    Nat → List String → List String → List String → Prop where
  /-- There are no more names. -/
  | arrived (links : Nat) (place : List String) : Follows t whole links place [] place
  /-- A dot. -/
  | here {links : Nat} {place names p : List String} (hplace : t.HoldsDirectory place)
      (hnames : Follows t whole links place names p) : Follows t whole links place ("." :: names) p
  /-- Two dots. -/
  | up {links : Nat} {place names p : List String} (hplace : t.HoldsDirectory place)
      (hnames : Follows t whole links place.dropLast names p) :
      Follows t whole links place (".." :: names) p
  /-- A name that is no link. -/
  | down {links : Nat} {place names p : List String} {name : String}
      (hplace : t.HoldsDirectory place) (hname : IsPlainName name)
      (hlink : ∀ target, t.at? (place ++ [name]) ≠ some (.link target))
      (hnames : Follows t whole links (place ++ [name]) names p) :
      Follows t whole links place (name :: names) p
  /-- A link that is followed. -/
  | link {links : Nat} {place names p : List String} {name target : String}
      (hplace : t.HoldsDirectory place) (hname : IsPlainName name)
      (hlink : t.at? (place ++ [name]) = some (.link target))
      (honward : ¬ (names.isEmpty && !whole) = true)
      (hnames : Follows t whole links (if Path.isAbsolute target then [] else place)
        (Path.steps target ++ names) p) :
      Follows t whole (links + 1) place (name :: names) p
  /-- A link at the end, which is not followed. -/
  | last {links : Nat} {place : List String} {name target : String}
      (hplace : t.HoldsDirectory place) (hname : IsPlainName name)
      (hlink : t.at? (place ++ [name]) = some (.link target)) (hwhole : whole = false) :
      Follows t whole links place [name] (place ++ [name])

section Follow

variable {t : FileTree} {onward : List String → List String → Except Fault (List String)}
  {whole : Bool} {place : List String} {name : String}

theorem followBy_here (h : t.HoldsDirectory place) (names : List String) :
    t.followBy onward whole place ("." :: names) = t.followBy onward whole place names := by
  obtain ⟨permissions, es, h⟩ := h
  rw [followBy, h]
  exact if_pos rfl

theorem followBy_up (h : t.HoldsDirectory place) (names : List String) :
    t.followBy onward whole place (".." :: names)
      = t.followBy onward whole place.dropLast names := by
  obtain ⟨permissions, es, h⟩ := h
  rw [followBy, h]
  exact (if_neg (by decide)).trans (if_pos rfl)

/-- A name that is looked up leads on through a link, or down. -/
theorem followBy_plain (h : t.HoldsDirectory place) (hname : IsPlainName name)
    (names : List String) :
    t.followBy onward whole place (name :: names)
      = match t.at? (place ++ [name]) with
        | some (.link target) =>
          if names.isEmpty && !whole then .ok (place ++ [name])
          else onward (if Path.isAbsolute target then [] else place) (Path.steps target ++ names)
        | _ => t.followBy onward whole (place ++ [name]) names := by
  obtain ⟨permissions, es, h⟩ := h
  obtain ⟨hhere, hup, hlong⟩ := hname
  rw [at?_concat_of_directory h, followBy, h]
  exact (if_neg hhere).trans ((if_neg hup).trans (if_neg hlong))

/-- Only directories can be passed. -/
theorem holdsDirectory_of_followBy {names p : List String}
    (h : t.followBy onward whole place (name :: names) = .ok p) : t.HoldsDirectory place := by
  rw [followBy] at h
  rcases hplace : t.at? place with _ | ⟨_ | ⟨permissions, es⟩ | _ | _⟩ <;> rw [hplace] at h
  case some.directory => exact ⟨permissions, es, hplace⟩
  all_goals nomatch h

/-- And only names that are not too long can be looked up. -/
theorem name_of_followBy {names p : List String}
    (h : t.followBy onward whole place (name :: names) = .ok p) :
    name = "." ∨ name = ".." ∨ IsPlainName name := by
  obtain ⟨permissions, es, hplace⟩ := holdsDirectory_of_followBy h
  by_cases hhere : name = "."
  · exact .inl hhere
  by_cases hup : name = ".."
  · exact .inr (.inl hup)
  refine .inr (.inr ⟨hhere, hup, fun hlong => ?_⟩)
  rw [followBy, hplace] at h
  dsimp only at h
  rw [if_neg hhere, if_neg hup, if_pos hlong] at h
  nomatch h

theorem follows_of_followBy {links : Nat}
    (honward : ∀ target names p, onward target names = .ok p →
      ∃ n, links = n + 1 ∧ t.Follows whole n target names p)
    {names p : List String} (h : t.followBy onward whole place names = .ok p) :
    t.Follows whole links place names p := by
  induction names generalizing place with
  | nil =>
      rw [← Except.ok.inj h]
      exact .arrived links place
  | cons name names ih =>
      have hplace := holdsDirectory_of_followBy h
      rcases name_of_followBy h with rfl | rfl | hname
      · rw [followBy_here hplace] at h
        exact .here hplace (ih h)
      · rw [followBy_up hplace] at h
        exact .up hplace (ih h)
      rw [followBy_plain hplace hname] at h
      split at h
      case h_1 target hlink =>
        split at h
        case isTrue hlast =>
          obtain ⟨hnames, hwhole⟩ := Bool.and_eq_true_iff.mp hlast
          rw [List.isEmpty_iff.mp hnames, ← Except.ok.inj h]
          exact .last hplace hname hlink (by simpa using hwhole)
        case isFalse hgo =>
          obtain ⟨n, rfl, hn⟩ := honward _ _ p h
          exact .link hplace hname hlink hgo hn
      case h_2 hlink => exact .down hplace hname (fun target ht => hlink target ht) (ih h)

/-- **The relation is what the function computes.** -/
theorem follow_eq_ok_iff {links : Nat} {names p : List String} :
    t.follow whole links place names = .ok p ↔ t.Follows whole links place names p := by
  constructor
  · -- The names are followed up to the next link, and then with one link less.
    intro h
    induction links generalizing place names p with
    | zero => exact follows_of_followBy (fun _ _ _ h => by cases h) h
    | succ n ih => exact follows_of_followBy (fun _ _ _ h => ⟨n, rfl, ih h⟩) h
  · intro h
    induction h with
    | arrived links place => cases links <;> rfl
    | @here links place names p hplace hnames ih =>
        cases links <;> exact (followBy_here hplace names).trans ih
    | @up links place names p hplace hnames ih =>
        cases links <;> exact (followBy_up hplace names).trans ih
    | @down links place names p name hplace hname hlink hnames ih =>
        have hdown : ∀ {onward : List String → List String → Except Fault (List String)},
            t.followBy onward whole place (name :: names)
              = t.followBy onward whole (place ++ [name]) names := by
          intro onward
          rw [followBy_plain hplace hname]
          split
          case h_1 target ht => exact absurd ht (hlink target)
          case h_2 => rfl
        cases links <;> exact hdown.trans ih
    | @link links place names p name target hplace hname hlink honward hnames ih =>
        show t.followBy (t.follow whole links) whole place (name :: names) = .ok p
        rw [followBy_plain hplace hname, hlink]
        exact (if_neg honward).trans ih
    | @last links place name target hplace hname hlink hwhole =>
        have hlast : ∀ {onward : List String → List String → Except Fault (List String)},
            t.followBy onward whole place [name] = .ok (place ++ [name]) := by
          intro onward
          rw [followBy_plain hplace hname, hlink]
          exact if_pos (by simp [hwhole])
        cases links <;> exact hlast

namespace Follows

variable {links : Nat} {names p : List String}

/-- **Every way through a tree is a way through a tree that has grown.** -/
theorem mono {t' : FileTree} (hgrows : t.Grows t') (h : t.Follows whole links place names p) :
    t'.Follows whole links place names p := by
  induction h with
  | arrived links place => exact .arrived links place
  | here hplace _ ih => exact .here (hgrows.directory _ hplace) ih
  | up hplace _ ih => exact .up (hgrows.directory _ hplace) ih
  | down hplace hname hlink _ ih =>
      exact .down (hgrows.directory _ hplace) hname
        (fun target ht => hlink target ((hgrows.link _ target).mp ht)) ih
  | link hplace hname hlink honward _ ih =>
      exact .link (hgrows.directory _ hplace) hname ((hgrows.link _ _).mpr hlink) honward ih
  | last hplace hname hlink hwhole =>
      exact .last (hgrows.directory _ hplace) hname ((hgrows.link _ _).mpr hlink) hwhole

/-- The place that is reached is in a directory. -/
theorem above (h : t.Follows whole links place names p)
    (hstart : names = [] → t.HoldsDirectory place.dropLast) : t.HoldsDirectory p.dropLast := by
  induction h with
  | arrived links place => exact hstart rfl
  | here hplace _ ih => exact ih fun _ => hplace.dropLast
  | up hplace _ ih => exact ih fun _ => hplace.dropLast.dropLast
  | down hplace _ _ _ ih =>
      refine ih fun _ => ?_
      rwa [List.dropLast_concat]
  | link hplace _ _ _ _ ih =>
      refine ih fun _ => ?_
      split
      · exact t.holdsDirectory_nil
      · exact hplace.dropLast
  | last hplace _ _ _ => rwa [List.dropLast_concat]

/-- What is reached without following a link at the end, and is no link, is reached anyhow. -/
theorem whole_of_last (h : t.Follows false links place names p)
    (hp : ∀ target, t.at? p ≠ some (.link target)) : t.Follows true links place names p := by
  induction h with
  | arrived links place => exact .arrived links place
  | here hplace _ ih => exact .here hplace (ih hp)
  | up hplace _ ih => exact .up hplace (ih hp)
  | down hplace hname hlink _ ih => exact .down hplace hname hlink (ih hp)
  | link hplace hname hlink _ _ ih => exact .link hplace hname hlink (by simp) (ih hp)
  | last _ _ hlink _ => exact absurd hlink (hp _)

/-- What is reached by following all links is reached without following the last one, unless that
way ends at the link. -/
theorem last_of_whole (h : t.Follows true links place names p) :
    t.Follows false links place names p
      ∨ ∃ q target, t.Follows false links place names q ∧ t.at? q = some (.link target) := by
  induction h with
  | arrived links place => exact .inl (.arrived links place)
  | here hplace _ ih =>
      exact ih.imp (.here hplace) fun ⟨q, target, hq, hlink⟩ => ⟨q, target, .here hplace hq, hlink⟩
  | up hplace _ ih =>
      exact ih.imp (.up hplace) fun ⟨q, target, hq, hlink⟩ => ⟨q, target, .up hplace hq, hlink⟩
  | down hplace hname hdown _ ih =>
      exact ih.imp (.down hplace hname hdown) fun ⟨q, target, hq, hlink⟩ =>
        ⟨q, target, .down hplace hname hdown hq, hlink⟩
  | @link links place names p name target hplace hname hlink _ _ ih =>
      -- A link on the way is followed in any case.
      by_cases hnames : names = []
      · subst hnames
        exact .inr ⟨_, target, .last hplace hname hlink rfl, hlink⟩
      · have honward : ¬ (names.isEmpty && !false) = true := by simpa using hnames
        exact ih.imp (.link hplace hname hlink honward) fun ⟨q, target', hq, hlink'⟩ =>
          ⟨q, target', .link hplace hname hlink honward hq, hlink'⟩
  | last _ _ _ hwhole => nomatch hwhole

end Follows

end Follow

/-! ## Paths -/

/-- A path with names in it: it is not empty, and neither too long nor with a character that ends
texts. -/
def IsLawfulPath (path : String) : Prop :=
  ¬ path.toList.contains '\x00' = true ∧ ¬ path.isEmpty = true ∧ ¬ path.utf8ByteSize > maxPath

/-- **A path leads to a place.** -/
def Leads (t : FileTree) (path : String) (whole : Bool) (p : List String) : Prop :=
  IsLawfulPath path
    ∧ t.Follows (whole || Path.endsWithSlash path) maxLinks
        (if Path.isAbsolute path then [] else t.current) (Path.steps path) p

section Paths

variable {t t' : FileTree} {path : String} {whole : Bool} {p q : List String}

theorem Leads.mono (hgrows : t.Grows t') (h : t.Leads path whole p) : t'.Leads path whole p := by
  refine ⟨h.1, ?_⟩
  rw [hgrows.current]
  exact h.2.mono hgrows

/-- It does not lead anywhere else. -/
theorem Leads.unique (h : t.Leads path whole p) (h' : t.Leads path whole q) : q = p :=
  Except.ok.inj ((follow_eq_ok_iff.2 h'.2).symm.trans (follow_eq_ok_iff.2 h.2))

/-- A relative path that is not empty has a name in it. -/
theorem steps_ne_nil (hlawful : IsLawfulPath path) (h : ¬ Path.isAbsolute path = true) :
    Path.steps path ≠ [] := by
  unfold Path.isAbsolute at h
  unfold Path.steps
  cases hpath : path.toList with
  | nil => exact absurd (by simpa using hpath) hlawful.2.1
  | cons c rest =>
      have hc : ¬ c = '/' := by
        rw [hpath] at h
        simpa using h
      rw [Path.cut, if_neg hc]
      cases Path.cut rest <;> simp

theorem Leads.above (h : t.Leads path whole p) : t.HoldsDirectory p.dropLast := by
  refine h.2.above fun hsteps => ?_
  by_cases habsolute : Path.isAbsolute path = true
  · rw [if_pos habsolute]
    exact t.holdsDirectory_nil
  · exact absurd hsteps (steps_ne_nil h.1 habsolute)

/-- Whether the link at the end is followed makes no difference if there is none. -/
theorem Leads.whole_of_last (h : t.Leads path false p)
    (hp : ∀ target, t.at? p ≠ some (.link target)) : t.Leads path true p := by
  have hfollows := h.2
  cases hslash : Path.endsWithSlash path <;> rw [hslash] at hfollows
  · exact ⟨h.1, hfollows.whole_of_last hp⟩
  · exact ⟨h.1, hfollows⟩

theorem Leads.last_of_whole (h : t.Leads path true p) :
    t.Leads path false p
      ∨ ∃ q target, t.Leads path false q ∧ t.at? q = some (.link target) := by
  unfold Leads
  cases hslash : Path.endsWithSlash path
  · rcases h.2.last_of_whole with hlast | ⟨q, target, hlast, hlink⟩
    · exact .inl ⟨h.1, hlast⟩
    · exact .inr ⟨q, target, ⟨h.1, hlast⟩, hlink⟩
  · exact .inl h

/-- **What is located** is the place that the path leads to. With a slash at the end it is not there
unless it is a directory. -/
theorem locate_eq_ok_iff {node : Option Node} :
    t.locate path whole = .ok (p, node)
      ↔ t.Leads path whole p ∧ t.at? p = node
        ∧ (Path.endsWithSlash path = true → node.isSome = true → t.HoldsDirectory p) := by
  unfold Leads IsLawfulPath
  rw [← follow_eq_ok_iff]
  unfold locate
  by_cases hnul : path.toList.contains '\x00' = true
  · rw [if_pos hnul]
    exact ⟨nofun, fun h => absurd hnul h.1.1.1⟩
  by_cases hempty : path.isEmpty = true
  · rw [if_neg hnul, if_pos hempty]
    exact ⟨nofun, fun h => absurd hempty h.1.1.2.1⟩
  by_cases hlong : path.utf8ByteSize > maxPath
  · rw [if_neg hnul, if_neg hempty, if_pos hlong]
    exact ⟨nofun, fun h => absurd hlong h.1.1.2.2⟩
  rw [if_neg hnul, if_neg hempty, if_neg hlong]
  dsimp only
  have hlawful : ¬ path.toList.contains '\x00' = true ∧ ¬ path.isEmpty = true
      ∧ ¬ path.utf8ByteSize > maxPath := ⟨hnul, hempty, hlong⟩
  cases t.follow (whole || Path.endsWithSlash path) maxLinks
      (if Path.isAbsolute path = true then [] else t.current) (Path.steps path) with
  | error fault => exact ⟨nofun, fun h => nomatch h.1.2⟩
  | ok place =>
      dsimp only
      constructor
      · intro h
        split at h
        case h_1 hnode =>
          cases h
          exact ⟨⟨hlawful, rfl⟩, hnode, fun _ hsome => nomatch hsome⟩
        case h_2 permissions es hnode =>
          cases h
          exact ⟨⟨hlawful, rfl⟩, hnode, fun _ _ => ⟨permissions, es, hnode⟩⟩
        case h_3 found _ hnode =>
          split at h
          case isTrue => nomatch h
          case isFalse hslash =>
            cases h
            exact ⟨⟨hlawful, rfl⟩, hnode, fun hyes => absurd hyes hslash⟩
      · rintro ⟨⟨-, hp⟩, rfl, hslash⟩
        cases hp
        split
        case h_1 hnode => rw [hnode]
        case h_2 hnode => rw [hnode]
        case h_3 found hother hnode =>
          rw [hnode]
          refine if_neg fun hyes => ?_
          obtain ⟨permissions, es, hdirectory⟩ := hslash hyes (by rw [hnode]; rfl)
          exact hother permissions es (Option.some.inj (hnode.symm.trans hdirectory))

theorem isDirectory_iff :
    t.isDirectory path = true ↔ ∃ p, t.Leads path true p ∧ t.HoldsDirectory p := by
  unfold isDirectory
  constructor
  · intro h
    split at h
    case h_1 p permissions es hlocate =>
      obtain ⟨hleads, hnode, -⟩ := locate_eq_ok_iff.1 hlocate
      exact ⟨p, hleads, permissions, es, hnode⟩
    case h_2 => nomatch h
  · rintro ⟨p, hleads, permissions, es, hnode⟩
    rw [locate_eq_ok_iff.2 ⟨hleads, hnode, fun _ _ => ⟨permissions, es, hnode⟩⟩]

/-- A path to a directory goes on leading to a directory. -/
theorem isDirectory_mono (hgrows : t.Grows t') (h : t.isDirectory path = true) :
    t'.isDirectory path = true := by
  obtain ⟨p, hleads, hdirectory⟩ := isDirectory_iff.1 h
  exact isDirectory_iff.2 ⟨p, hleads.mono hgrows, hgrows.directory p hdirectory⟩

end Paths

end Confine.FileTree

import Confine.FileTree

set_option autoImplicit false

/-! # Laws of file trees

A tree changes while a program creates directories and writes files, and yet a path that led
somewhere goes on leading there. The reason is `Grows`: directories stay directories, files stay
files, and links neither appear nor go away. A tree grows when something is put where there was
nothing, or a file where there was a file (`grows_put`), and it stays alike when a directory is put
in the place of a directory (`grows_of_alike`).
-/

namespace Confine.FileTree

/-! ## Entries -/

namespace Entries

variable (es : Entries)

theorem lookup_map_of_ne (name other : String) (node : Node) (h : other ≠ name) :
    (es.map fun e => if e.1 == name then (name, node) else e).lookup other = es.lookup other := by
  induction es with
  | nil => rfl
  | cons e rest ih =>
      rw [List.map_cons, List.lookup_cons, List.lookup_cons, ih]
      by_cases he : e.1 = name
      · have hother : (other == e.1) = false := by rw [he]; exact beq_false_of_ne h
        rw [if_pos (beq_iff_eq.mpr he), beq_false_of_ne h, hother]
      · rw [if_neg (by simpa using he)]

theorem lookup_map_self (name : String) (node : Node) (h : (es.lookup name).isSome = true) :
    (es.map fun e => if e.1 == name then (name, node) else e).lookup name = some node := by
  induction es with
  | nil => nomatch h
  | cons e rest ih =>
      rw [List.map_cons, List.lookup_cons]
      by_cases he : e.1 = name
      · rw [if_pos (beq_iff_eq.mpr he), beq_self_eq_true]
      · have hname : (name == e.1) = false := beq_false_of_ne (Ne.symm he)
        rw [List.lookup_cons, hname] at h
        rw [if_neg (by simpa using he), hname]
        exact ih h

/-- A name that is set means what it was set to, and the others what they meant. -/
theorem lookup_set (name other : String) (node : Node) :
    (es.set name node).lookup other = if other = name then some node else es.lookup other := by
  unfold set
  split
  case isTrue hname =>
    by_cases h : other = name
    · rw [if_pos h, h]
      exact lookup_map_self es name node hname
    · rw [if_neg h]
      exact lookup_map_of_ne es name other node h
  case isFalse hname =>
    rw [List.lookup_append]
    by_cases h : other = name
    · subst h
      rw [if_pos rfl, Option.not_isSome_iff_eq_none.mp hname, Option.none_or, List.lookup_cons_self]
    · rw [if_neg h, List.lookup_cons, beq_false_of_ne h]
      exact Option.or_none

end Entries

/-- What is in a node, if it is a directory. -/
def Node.entries? : Node → Option Entries
  | .directory _ es => some es
  | _ => none

namespace Entries

theorem at?_cons (es : Entries) (name : String) {names : List String} (h : names ≠ []) :
    es.at? (name :: names) = ((es.lookup name).bind Node.entries?).bind (·.at? names) := by
  cases names with
  | nil => exact absurd rfl h
  | cons next rest =>
      rw [at?]
      · rcases es.lookup name with _ | ⟨_ | _ | _ | _⟩ <;> rfl
      · exact List.cons_ne_nil next rest

/-- One name further down. -/
theorem at?_concat (es : Entries) {place : List String} (h : place ≠ []) (name : String) :
    es.at? (place ++ [name]) = ((es.at? place).bind Node.entries?).bind (·.lookup name) := by
  induction place generalizing es with
  | nil => exact absurd rfl h
  | cons first rest ih =>
      rw [List.cons_append, at?_cons es first (by simp)]
      cases rest with
      | nil => rfl
      | cons next more =>
          rw [at?_cons es first (List.cons_ne_nil next more)]
          cases (es.lookup first).bind Node.entries? with
          | none => rfl
          | some inner => exact ih inner (List.cons_ne_nil next more)

theorem put_cons (es : Entries) (name : String) {names : List String} (h : names ≠ [])
    (node : Node) {permissions : Nat} {inner : Entries}
    (hname : es.lookup name = some (.directory permissions inner)) :
    es.put (name :: names) node = es.set name (.directory permissions (inner.put names node)) := by
  cases names with
  | nil => exact absurd rfl h
  | cons next rest =>
      rw [put, hname]
      exact List.cons_ne_nil next rest

end Entries

/-! ## Places -/

section Places

variable (t : FileTree)

/-- There is a directory at a place. -/
def HoldsDirectory (place : List String) : Prop :=
  ∃ permissions es, t.at? place = some (.directory permissions es)

theorem holdsDirectory_nil : t.HoldsDirectory [] := ⟨0o755, t.root, rfl⟩

theorem at?_of_ne_nil {place : List String} (h : place ≠ []) : t.at? place = t.root.at? place := by
  rw [at?, if_neg (by simpa using h)]

theorem at?_concat (place : List String) (name : String) :
    t.at? (place ++ [name]) = ((t.at? place).bind Node.entries?).bind (·.lookup name) := by
  unfold at?
  rw [if_neg (by simp)]
  cases place with
  | nil => rfl
  | cons first rest =>
      rw [if_neg (by simp)]
      exact t.root.at?_concat (List.cons_ne_nil first rest) name

variable {t}

theorem at?_concat_of_directory {place : List String} {permissions : Nat} {es : Entries}
    (h : t.at? place = some (.directory permissions es)) (name : String) :
    t.at? (place ++ [name]) = es.lookup name := by
  rw [at?_concat, h]
  rfl

/-- There is a file at a place. -/
def HoldsFile (t : FileTree) (place : List String) : Prop :=
  ∃ permissions bytes, t.at? place = some (.file permissions bytes)

/-- Above a directory there is a directory. -/
theorem HoldsDirectory.dropLast {place : List String} (h : t.HoldsDirectory place) :
    t.HoldsDirectory place.dropLast := by
  rcases List.eq_nil_or_concat place with rfl | ⟨above, name, rfl⟩
  · exact t.holdsDirectory_nil
  rw [List.concat_eq_append, List.dropLast_concat]
  obtain ⟨permissions, es, h⟩ := h
  rw [List.concat_eq_append, at?_concat] at h
  rcases habove : t.at? above with _ | ⟨_ | ⟨p, inner⟩ | _ | _⟩ <;> rw [habove] at h
  case some.directory => exact ⟨p, inner, habove⟩
  all_goals nomatch h

end Places

/-! ## Growth -/

/-- **A tree grows into another one** if directories stay directories, files stay files and links
stay what they are, and no link appears. -/
structure Grows (t t' : FileTree) : Prop where
  current : t'.current = t.current
  directory : ∀ place, t.HoldsDirectory place → t'.HoldsDirectory place
  file : ∀ place, t.HoldsFile place → t'.HoldsFile place
  link : ∀ place target, t'.at? place = some (.link target) ↔ t.at? place = some (.link target)

theorem Grows.refl (t : FileTree) : t.Grows t :=
  ⟨rfl, fun _ h => h, fun _ h => h, fun _ _ => Iff.rfl⟩

theorem Grows.trans {t t' t'' : FileTree} (h : t.Grows t') (h' : t'.Grows t'') : t.Grows t'' :=
  ⟨h'.current.trans h.current, fun place hp => h'.directory place (h.directory place hp),
    fun place hp => h'.file place (h.file place hp),
    fun place target => (h'.link place target).trans (h.link place target)⟩

/-- Two answers to the question what is at a place: the same, or a directory both times. -/
def Alike (before after : Option Node) : Prop :=
  after = before ∨ ∃ p es p' es',
    before = some (.directory p es) ∧ after = some (.directory p' es')

/-- A node with nothing in it. -/
def Node.IsBare (node : Node) : Prop :=
  ∀ es, node.entries? = some es → es = []

namespace Entries

theorem at?_nil_entries (place : List String) : at? [] place = none := by
  rcases place with _ | ⟨name, _ | ⟨next, rest⟩⟩ <;> rfl

/-- Below a node with nothing in it there is nothing. -/
theorem bind_at?_of_isBare {node : Node} (h : node.IsBare) (place : List String) :
    node.entries?.bind (·.at? place) = none := by
  cases he : node.entries? with
  | none => rfl
  | some es =>
      rw [h es he]
      exact at?_nil_entries place

/-- Something with nothing in it is put below a directory, where there was no directory: elsewhere
nothing changes but what is in the directories on the way. -/
theorem alike_put (es : Entries) (above : List String) (name : String) {node : Node}
    (hnode : node.IsBare)
    (habove : above ≠ [] → ∃ p inner, es.at? above = some (.directory p inner))
    (hfree : (es.at? (above ++ [name])).bind Node.entries? = none) (place : List String) :
    (place = above ++ [name] → (es.put (above ++ [name]) node).at? place = some node)
      ∧ (place ≠ above ++ [name] →
        Alike (es.at? place) ((es.put (above ++ [name]) node).at? place)) := by
  -- By induction on the way to the place: the entry that is set on it is a directory again.
  induction above generalizing es place with
  | nil =>
      show (_ → (es.set name node).at? place = _) ∧ (_ → Alike _ ((es.set name node).at? place))
      rcases place with _ | ⟨first, _ | ⟨next, rest⟩⟩
      · exact ⟨fun h => (nomatch h), fun _ => .inl rfl⟩
      · show (_ → (es.set name node).lookup first = _)
          ∧ (_ → Alike (es.lookup first) ((es.set name node).lookup first))
        rw [lookup_set]
        refine ⟨fun h => if_pos (List.cons.inj h).1, fun h => .inl (if_neg fun hf => h ?_)⟩
        rw [hf]
        rfl
      · refine ⟨fun h => (nomatch h), fun _ => .inl ?_⟩
        rw [at?_cons _ first (List.cons_ne_nil next rest),
          at?_cons _ first (List.cons_ne_nil next rest), lookup_set]
        by_cases hf : first = name
        · -- There was nothing below the old node, and there is nothing below the new one.
          have hold : (es.lookup first).bind Node.entries? = none := by rw [hf]; exact hfree
          rw [if_pos hf, hold]
          exact bind_at?_of_isBare hnode (next :: rest)
        · rw [if_neg hf]
  | cons dir above ih =>
      -- The first name of the way is that of a directory.
      have hdir : ∃ p inner, es.lookup dir = some (.directory p inner)
          ∧ (above ≠ [] → ∃ p' inner', at? inner above = some (.directory p' inner')) := by
        obtain ⟨p, inner, h⟩ := habove (List.cons_ne_nil dir above)
        cases above with
        | nil => exact ⟨p, inner, h, fun hne => absurd rfl hne⟩
        | cons next rest =>
            rw [at?_cons es dir (List.cons_ne_nil next rest)] at h
            rcases hd : es.lookup dir with _ | ⟨_ | ⟨p', inner'⟩ | _ | _⟩ <;> rw [hd] at h
            case some.directory => exact ⟨p', inner', rfl, fun _ => ⟨p, inner, h⟩⟩
            all_goals nomatch h
      obtain ⟨p, inner, hlookup, hinner⟩ := hdir
      have hne : above ++ [name] ≠ [] := by simp
      rw [List.cons_append] at hfree ⊢
      rw [at?_cons es dir hne, hlookup] at hfree
      rw [put_cons es dir hne node hlookup]
      have hbelow := ih inner hinner hfree
      rcases place with _ | ⟨first, rest⟩
      · exact ⟨fun h => (nomatch h), fun _ => .inl rfl⟩
      by_cases hf : first = dir
      · subst hf
        cases rest with
        | nil =>
            refine ⟨fun h => absurd (List.cons.inj h).2.symm hne, fun _ => .inr ?_⟩
            refine ⟨p, inner, p, put inner (above ++ [name]) node, hlookup, ?_⟩
            show (es.set first _).lookup first = _
            rw [lookup_set, if_pos rfl]
        | cons next more =>
            rw [at?_cons _ first (List.cons_ne_nil next more),
              at?_cons _ first (List.cons_ne_nil next more), lookup_set, if_pos rfl, hlookup]
            exact ⟨fun h => (hbelow (next :: more)).1 (List.cons.inj h).2,
              fun h => (hbelow (next :: more)).2 fun he => h (by rw [he])⟩
      · refine ⟨fun h => absurd (List.cons.inj h).1 hf, fun _ => .inl ?_⟩
        cases rest with
        | nil =>
            show (es.set dir _).lookup first = es.lookup first
            rw [lookup_set, if_neg hf]
        | cons next more =>
            rw [at?_cons _ first (List.cons_ne_nil next more),
              at?_cons _ first (List.cons_ne_nil next more), lookup_set, if_neg hf]

/-- A directory whose entries are alike is put in the place of a directory. -/
theorem alike_set_directory {es : Entries} {name : String} {p p' : Nat} {inner inner' : Entries}
    (h : es.lookup name = some (.directory p inner))
    (hinner : ∀ rest, Alike (at? inner rest) (at? inner' rest)) (place : List String) :
    Alike (es.at? place) ((es.set name (.directory p' inner')).at? place) := by
  rcases place with _ | ⟨first, _ | ⟨next, more⟩⟩
  · exact .inl rfl
  · show Alike (es.lookup first) ((es.set name _).lookup first)
    rw [lookup_set]
    by_cases hf : first = name
    · rw [if_pos hf, hf]
      exact .inr ⟨p, inner, p', inner', h, rfl⟩
    · rw [if_neg hf]
      exact .inl rfl
  · rw [at?_cons _ first (List.cons_ne_nil next more), at?_cons _ first (List.cons_ne_nil next more),
      lookup_set]
    by_cases hf : first = name
    · rw [if_pos hf, hf, h]
      exact hinner (next :: more)
    · rw [if_neg hf]
      exact .inl rfl

/-- The permissions of a directory are changed: elsewhere nothing changes but those entries that are
on the way. -/
theorem alike_permit (es : Entries) (place : List String) {p : Nat} {inner : Entries}
    (h : es.at? place = some (.directory p inner)) (p' : Nat) (other : List String) :
    Alike (es.at? other) ((es.put place (.directory p' inner)).at? other) := by
  induction place generalizing es other with
  | nil => nomatch h
  | cons name names ih =>
      cases names with
      | nil => exact alike_set_directory h (fun _ => .inl rfl) other
      | cons next more =>
          rw [at?_cons es name (List.cons_ne_nil next more)] at h
          rcases hname : es.lookup name with _ | ⟨_ | ⟨q, es'⟩ | _ | _⟩ <;> rw [hname] at h
          case some.directory =>
            rw [put_cons es name (List.cons_ne_nil next more) _ hname]
            exact alike_set_directory hname (ih es' h) other
          all_goals nomatch h

end Entries

/-- A tree grows into one that is alike. -/
theorem grows_of_alike {t t' : FileTree} (hcurrent : t'.current = t.current)
    (h : ∀ place, Alike (t.at? place) (t'.at? place)) : t.Grows t' := by
  constructor
  case current => exact hcurrent
  case directory =>
    rintro place ⟨p, es, hplace⟩
    rcases h place with heq | ⟨_, _, p', es', -, hafter⟩
    · exact ⟨p, es, heq.trans hplace⟩
    · exact ⟨p', es', hafter⟩
  case file =>
    rintro place ⟨p, bytes, hplace⟩
    rcases h place with heq | ⟨_, _, _, _, hbefore, -⟩
    · exact ⟨p, bytes, heq.trans hplace⟩
    · nomatch hbefore.symm.trans hplace
  case link =>
    intro place target
    rcases h place with heq | ⟨_, _, _, _, hbefore, hafter⟩
    · rw [heq]
    · rw [hbefore, hafter]
      exact ⟨nofun, nofun⟩

section Put

variable {t : FileTree} {place : List String} {node : Node}

/-- A place that holds no directory is below another one. -/
theorem eq_concat_of_free (h : (t.at? place).bind Node.entries? = none) :
    ∃ above name, place = above ++ [name] := by
  rcases List.eq_nil_or_concat place with rfl | ⟨above, name, rfl⟩
  · nomatch h
  · exact ⟨above, name, List.concat_eq_append⟩

theorem alike_put (hnode : node.IsBare) (habove : t.HoldsDirectory place.dropLast)
    (hfree : (t.at? place).bind Node.entries? = none) :
    (t.put place node).at? place = some node
      ∧ ∀ other, other ≠ place → Alike (t.at? other) ((t.put place node).at? other) := by
  obtain ⟨above, name, rfl⟩ := eq_concat_of_free hfree
  rw [List.dropLast_concat] at habove
  have hput : ∀ {below : List String}, below ≠ [] →
      (t.put (above ++ [name]) node).at? below
        = (t.root.put (above ++ [name]) node).at? below := at?_of_ne_nil _
  have hne : above ++ [name] ≠ [] := by simp
  rw [t.at?_of_ne_nil hne] at hfree
  have hlaw := t.root.alike_put above name hnode (fun h => by rwa [← t.at?_of_ne_nil h]) hfree
  constructor
  · rw [hput hne]
    exact (hlaw _).1 rfl
  · intro other hother
    by_cases ho : other = []
    · subst ho
      exact .inr ⟨_, _, _, _, rfl, rfl⟩
    · rw [t.at?_of_ne_nil ho, hput ho]
      exact (hlaw other).2 hother

/-- What is put at a place is there. -/
theorem at?_put (hnode : node.IsBare) (habove : t.HoldsDirectory place.dropLast)
    (hfree : (t.at? place).bind Node.entries? = none) :
    (t.put place node).at? place = some node :=
  (alike_put hnode habove hfree).1

/-- A tree grows when something is put where there was neither a directory nor a link; and if there
was a file, a file. -/
theorem grows_put (hnode : node.IsBare) (habove : t.HoldsDirectory place.dropLast)
    (hfree : (t.at? place).bind Node.entries? = none)
    (hlink : ∀ target, t.at? place ≠ some (.link target)) (hnew : ∀ target, node ≠ .link target)
    (hfile : t.HoldsFile place → ∃ permissions bytes, node = .file permissions bytes) :
    t.Grows (t.put place node) := by
  obtain ⟨hself, hothers⟩ := alike_put hnode habove hfree
  constructor
  case current => rfl
  case directory =>
    rintro other ⟨p, es, ho⟩
    by_cases h : other = place
    · rw [h] at ho
      rw [ho] at hfree
      nomatch hfree
    · rcases hothers other h with heq | ⟨_, _, p', es', -, hafter⟩
      · exact ⟨p, es, heq.trans ho⟩
      · exact ⟨p', es', hafter⟩
  case file =>
    rintro other ⟨p, bytes, ho⟩
    by_cases h : other = place
    · rw [h] at ho ⊢
      obtain ⟨p', bytes', rfl⟩ := hfile ⟨p, bytes, ho⟩
      exact ⟨p', bytes', hself⟩
    · rcases hothers other h with heq | ⟨_, _, _, _, hbefore, -⟩
      · exact ⟨p, bytes, heq.trans ho⟩
      · rw [hbefore] at ho
        nomatch ho
  case link =>
    intro other target
    by_cases h : other = place
    · rw [h, hself]
      exact ⟨fun hn => absurd (Option.some.inj hn) (hnew target), fun ho => absurd ho (hlink target)⟩
    · rcases hothers other h with heq | ⟨_, _, _, _, hbefore, hafter⟩
      · rw [heq]
      · rw [hbefore, hafter]
        exact ⟨nofun, nofun⟩

end Put

end Confine.FileTree

import Confine.Proofs.FileTree.Following

set_option autoImplicit false

/-! # Changing file trees

Creating directories, writing files, adding to them and changing permissions: each of these lets the
tree grow. What was written is what is read, and what could be written once can be written again
(`write_file`); and adding nothing to a file leaves all files as they are (`locate_of_append_nil`).
-/

namespace Confine.FileTree

section Paths

variable {t t' : FileTree} {path : String} {p : List String}

/-! ## Creating directories -/

theorem makeDirectory_spec {permissions : Nat} (h : t.makeDirectory path permissions = .ok t') :
    ∃ p, t.Leads path false p ∧ t.at? p = none
      ∧ t' = t.put p (.directory permissions []) := by
  unfold makeDirectory at h
  split at h
  case h_1 => nomatch h
  case h_2 => nomatch h
  case h_3 p hlocate =>
    obtain ⟨hleads, hnode, -⟩ := locate_eq_ok_iff.1 hlocate
    split at h
    case isTrue => nomatch h
    case isFalse => exact ⟨p, hleads, hnode, (Except.ok.inj h).symm⟩

/-- A directory that was created is there. -/
theorem makeDirectory_grows {permissions : Nat} (h : t.makeDirectory path permissions = .ok t') :
    t.Grows t' ∧ t'.isDirectory path = true := by
  obtain ⟨p, hleads, hnode, rfl⟩ := makeDirectory_spec h
  have hbare : (Node.directory permissions []).IsBare := fun es hes => (Option.some.inj hes).symm
  have hfree : (t.at? p).bind Node.entries? = none := by rw [hnode]; rfl
  have hgrows := grows_put hbare hleads.above hfree (by simp [hnode]) (by simp)
    fun ⟨_, _, hfile⟩ => nomatch hnode.symm.trans hfile
  have hput := at?_put hbare hleads.above hfree
  refine ⟨hgrows, isDirectory_iff.2 ⟨p, (hleads.mono hgrows).whole_of_last ?_, permissions, [], hput⟩⟩
  simp [hput]

theorem ensureDirectory_grows (h : t.ensureDirectory path = .ok t') :
    t.Grows t' ∧ t'.isDirectory path = true := by
  unfold ensureDirectory at h
  split at h
  case h_1 made hmake =>
    rw [← Except.ok.inj h]
    exact makeDirectory_grows hmake
  case h_2 =>
    split at h
    case isTrue hdirectory =>
      rw [← Except.ok.inj h]
      exact ⟨.refl t, hdirectory⟩
    case isFalse => nomatch h

/-- A directory that is there is not created again. -/
theorem ensureDirectory_of_isDirectory (h : t.isDirectory path = true) :
    t.ensureDirectory path = .ok t := by
  unfold ensureDirectory
  cases hmake : t.makeDirectory path with
  | error fault => exact if_pos h
  | ok made =>
      -- What was created was not there before, so the path did not lead to a directory.
      obtain ⟨p, hleads, hnode, -⟩ := makeDirectory_spec hmake
      obtain ⟨q, hwhole, permissions, es, hq⟩ := isDirectory_iff.1 h
      rcases hwhole.last_of_whole with hlast | ⟨r, target, hlast, hlink⟩
      · rw [hleads.unique hlast, hnode] at hq
        nomatch hq
      · rw [hleads.unique hlast, hnode] at hlink
        nomatch hlink

theorem makeDirectoriesFrom_grows (levels : Nat) :
    ∀ {t t' : FileTree} {path : String}, t.makeDirectoriesFrom levels path = .ok t' →
      t.Grows t' ∧ (path.isEmpty = true ∨ t'.isDirectory path = true) := by
  induction levels with
  | zero =>
      intro t t' path h
      exact (ensureDirectory_grows h).imp_right .inr
  | succ levels ih =>
      intro t t' path h
      rw [makeDirectoriesFrom] at h
      split at h
      case isTrue hempty =>
        rw [← Except.ok.inj h]
        exact ⟨.refl t, .inl hempty⟩
      case isFalse =>
        split at h
        case h_1 =>
          split at h
          case h_1 => nomatch h
          case h_2 above _ =>
            cases habove : t.makeDirectoriesFrom levels above with
            | error fault => rw [habove] at h; nomatch h
            | ok made =>
                rw [habove] at h
                obtain ⟨hgrows, hdirectory⟩ := ensureDirectory_grows h
                exact ⟨(ih habove).1.trans hgrows, .inr hdirectory⟩
        case h_2 => exact (ensureDirectory_grows h).imp_right .inr

/-- **Creating directories** lets the tree grow, and the directory is there afterwards. -/
theorem makeDirectories_grows (h : t.makeDirectories path = .ok t') :
    t.Grows t' ∧ (path.isEmpty = true ∨ t'.isDirectory path = true) :=
  makeDirectoriesFrom_grows _ h

/-- Nothing happens if it was there before. -/
theorem makeDirectories_of_isDirectory
    (h : path.isEmpty = true ∨ t.isDirectory path = true) : t.makeDirectories path = .ok t := by
  unfold makeDirectories
  rw [makeDirectoriesFrom]
  by_cases hempty : path.isEmpty = true
  · rw [if_pos hempty]
  · rw [if_neg hempty, ensureDirectory_of_isDirectory (h.resolve_left hempty)]

/-! ## Writing files -/

/-- A path leads to a file exactly if it has no slash at its end and the file is at its place. -/
theorem locate_eq_file_iff {permissions : Nat} {bytes : List UInt8} :
    t.locate path = .ok (p, some (.file permissions bytes))
      ↔ t.Leads path true p ∧ ¬ Path.endsWithSlash path = true
        ∧ t.at? p = some (.file permissions bytes) := by
  rw [locate_eq_ok_iff]
  constructor
  · rintro ⟨hleads, hnode, hslash⟩
    refine ⟨hleads, fun hyes => ?_, hnode⟩
    obtain ⟨_, _, hdirectory⟩ := hslash hyes rfl
    nomatch hdirectory.symm.trans hnode
  · rintro ⟨hleads, hslash, hnode⟩
    exact ⟨hleads, hnode, fun hyes => absurd hyes hslash⟩

/-- What a writer finds: a file, or room for one in a directory. -/
theorem target_eq_file {permissions : Nat} {bytes : List UInt8}
    (h : t.target path = .ok (.file p permissions bytes)) :
    t.Leads path true p ∧ ¬ Path.endsWithSlash path = true
      ∧ (t.at? p = some (.file permissions bytes) ∨ t.at? p = none) := by
  unfold target at h
  split at h
  case h_2 q _ _ hlocate =>
    cases h
    exact (locate_eq_file_iff.1 hlocate).imp_right (.imp_right .inl)
  case h_7 q hlocate =>
    split at h
    case isTrue => nomatch h
    case isFalse hslash =>
      split at h
      case isTrue => nomatch h
      case isFalse =>
        cases h
        obtain ⟨hleads, hnode, -⟩ := locate_eq_ok_iff.1 hlocate
        exact ⟨hleads, hslash, .inr hnode⟩
  all_goals nomatch h

/-- Bytes are put where a writer finds a file or room for one. -/
theorem put_of_target {permissions : Nat} {old : List UInt8}
    (h : t.target path = .ok (.file p permissions old)) (bytes : List UInt8) :
    t.Grows (t.put p (.file permissions bytes))
      ∧ (t.put p (.file permissions bytes)).at? p = some (.file permissions bytes)
      ∧ ∀ other, other ≠ p →
        Alike (t.at? other) ((t.put p (.file permissions bytes)).at? other) := by
  obtain ⟨hleads, -, hnode⟩ := target_eq_file h
  have hbare : (Node.file permissions bytes).IsBare := fun _ h => nomatch h
  have hfree : (t.at? p).bind Node.entries? = none := by rcases hnode with hn | hn <;> rw [hn] <;> rfl
  have hlink : ∀ target, t.at? p ≠ some (.link target) := by
    rcases hnode with hn | hn <;> simp [hn]
  exact ⟨grows_put hbare hleads.above hfree hlink (by simp) fun _ => ⟨_, _, rfl⟩,
    alike_put hbare hleads.above hfree⟩

/-- **A file that can be written** is there afterwards with what was written, and can be written
again. -/
theorem write_file {permissions : Nat} {old : List UInt8}
    (h : t.target path = .ok (.file p permissions old)) (bytes : List UInt8) :
    ∃ t', t.write path bytes = .ok t' ∧ t.Grows t' ∧ t'.exists? path = true
      ∧ t'.readBytes path = .ok bytes ∧ t'.target path = .ok (.file p permissions bytes) := by
  obtain ⟨hleads, hslash, -⟩ := target_eq_file h
  obtain ⟨hgrows, hput, -⟩ := put_of_target h bytes
  have hlocate := locate_eq_file_iff.2 ⟨hleads.mono hgrows, hslash, hput⟩
  refine ⟨t.put p (.file permissions bytes), ?_, hgrows, ?_, ?_, ?_⟩
  · rw [write, h]
  · rw [exists?, hlocate]
  · rw [readBytes, hlocate]
  · rw [target, hlocate]

/-- Adding to a file lets the tree grow. -/
theorem append_grows {bytes : List UInt8} (h : t.append path bytes = .ok t') : t.Grows t' := by
  unfold append at h
  split at h
  case h_1 => nomatch h
  case h_2 place permissions before htarget =>
    rw [← Except.ok.inj h]
    exact (put_of_target htarget _).1
  case h_3 d _ =>
    unfold writeDevice at h
    split at h
    case isTrue => nomatch h
    case isFalse =>
      rw [← Except.ok.inj h]
      exact .refl t

/-- **Adding nothing** to a file, which creates it if need be, changes no other file, nor this
one. -/
theorem at?_of_append_nil (h : t.append path [] = .ok t') {permissions : Nat} {bytes : List UInt8}
    (hp : t.at? p = some (.file permissions bytes)) : t'.at? p = some (.file permissions bytes) := by
  unfold append at h
  split at h
  case h_1 => nomatch h
  case h_2 place permissions' before htarget =>
    rw [← Except.ok.inj h, List.append_nil]
    obtain ⟨-, hput, hothers⟩ := put_of_target htarget before
    by_cases hplace : p = place
    · subst hplace
      rcases (target_eq_file htarget).2.2 with hthere | hnone
      · rw [hput, ← hthere, hp]
      · nomatch hnone.symm.trans hp
    · rcases hothers p hplace with heq | ⟨_, _, _, _, hbefore, -⟩
      · exact heq.trans hp
      · nomatch hbefore.symm.trans hp
  case h_3 d _ =>
    unfold writeDevice at h
    rw [if_neg fun hfull => hfull.2 rfl] at h
    rw [← Except.ok.inj h]
    exact hp

/-- A path that leads to a file leads to the same file when nothing was added to some file. -/
theorem locate_of_append_nil {other : String} (h : t.append path [] = .ok t') {permissions : Nat}
    {bytes : List UInt8} (hother : t.locate other = .ok (p, some (.file permissions bytes))) :
    t'.locate other = .ok (p, some (.file permissions bytes)) := by
  obtain ⟨hleads, hslash, hp⟩ := locate_eq_file_iff.1 hother
  exact locate_eq_file_iff.2 ⟨hleads.mono (append_grows h), hslash, at?_of_append_nil h hp⟩

/-! ## Changing permissions -/

/-- Changing permissions lets the tree grow. -/
theorem setPermissions_grows {permissions : Nat} (h : t.setPermissions path permissions = .ok t') :
    t.Grows t' := by
  unfold setPermissions at h
  split at h
  case h_1 => nomatch h
  case h_2 => nomatch h
  case h_3 place p es hlocate =>
    obtain ⟨-, hplace, -⟩ := locate_eq_ok_iff.1 hlocate
    rw [← Except.ok.inj h]
    refine grows_of_alike rfl fun other => ?_
    -- The root has permissions that nothing changes; every other place is below it.
    by_cases hroot : place = []
    · rw [hroot]
      exact .inl rfl
    by_cases hother : other = []
    · rw [hother]
      exact .inr ⟨_, _, _, _, rfl, rfl⟩
    rw [t.at?_of_ne_nil hroot] at hplace
    rw [t.at?_of_ne_nil hother, at?_of_ne_nil _ hother]
    exact t.root.alike_permit place hplace permissions other
  case h_4 place old bytes hlocate =>
    obtain ⟨hleads, -, hplace⟩ := locate_eq_file_iff.1 hlocate
    rw [← Except.ok.inj h]
    exact grows_put (fun _ hes => nomatch hes) hleads.above (by rw [hplace]; rfl)
      (by simp [hplace]) (by simp) fun _ => ⟨_, _, rfl⟩
  case h_5 =>
    rw [← Except.ok.inj h]
    exact .refl t

end Paths

end Confine.FileTree

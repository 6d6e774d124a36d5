import Confine.Proofs.FileTree.Parent
import Confine.Proofs.FileTree.Writing
import Confine.Proofs.Settings.Document
import Confine.Settings.Store

set_option autoImplicit false

/-! # A file of settings

What is saved to the file is what is loaded from it afterwards, and a file that could be written
once can be written again (`writeSource_spec`, `load_of_readText`). Before anything is saved, the
file shows what its document states, and the defaults where there is no file (`render_of_load`).
-/

namespace Confine

variable {t : FileTree} {source : String}

/-! ## Writing -/

namespace FileTree

/-- The tree with the directories above a file. -/
def withAbove (t : FileTree) (source : String) : Except Fault FileTree :=
  match Path.parent? source with
  | none => .ok t
  | some directory => t.makeDirectories directory

/-- **A file can be written**: the directories above it are there or can be created, and then the
path leads to a file, or to where there is room for one. -/
def IsWritable (t : FileTree) (source : String) : Prop :=
  ∃ t' place permissions bytes, t.withAbove source = .ok t'
    ∧ t'.target source = .ok (.file place permissions bytes)

/-- The directories have to be created only once. -/
theorem withAbove_of_grows {t' t'' : FileTree} (h : t.withAbove source = .ok t')
    (hgrows : t'.Grows t'') : t''.withAbove source = .ok t'' := by
  unfold withAbove at h ⊢
  split at h
  case h_1 => rfl
  case h_2 directory _ =>
    exact makeDirectories_of_isDirectory
      ((makeDirectories_grows h).2.imp_right (isDirectory_mono hgrows))

/-- Nothing has to be created above what is there. -/
theorem withAbove_of_leads {p : List String} (h : t.Leads source true p) :
    t.withAbove source = .ok t := by
  unfold withAbove
  split
  case h_1 => rfl
  case h_2 directory hparent => exact makeDirectories_of_isDirectory (h.parent hparent)

/-- **A file that is there** is there for a writer. -/
theorem isWritable_of_locate {p : List String} {permissions : Nat} {bytes : List UInt8}
    (h : t.locate source = .ok (p, some (.file permissions bytes))) : t.IsWritable source := by
  refine ⟨t, p, permissions, bytes, withAbove_of_leads (locate_eq_file_iff.1 h).1, ?_⟩
  rw [target, h]

/-- What is there and can be written is a file. -/
theorem IsWritable.locate (h : t.IsWritable source) (hexists : t.exists? source = true) :
    ∃ p permissions bytes, t.locate source = .ok (p, some (.file permissions bytes)) := by
  obtain ⟨made, p, permissions, bytes, habove, htarget⟩ := h
  unfold exists? at hexists
  split at hexists
  case h_2 => nomatch hexists
  case h_1 q node hlocate =>
    obtain ⟨hleads, hnode, -⟩ := locate_eq_ok_iff.1 hlocate
    -- No directory was created above it, so what can be written is what is there.
    rw [withAbove_of_leads hleads] at habove
    rw [← Except.ok.inj habove] at htarget
    obtain ⟨hleads', hslash, hfile | hnone⟩ := target_eq_file htarget
    · exact ⟨p, permissions, bytes, locate_eq_file_iff.2 ⟨hleads', hslash, hfile⟩⟩
    · rw [hleads'.unique hleads, hnone] at hnode
      nomatch hnode

/-- A file that is there goes on being there for a writer. -/
theorem isWritable_of_grows {t' : FileTree} {p : List String} {permissions : Nat}
    {bytes : List UInt8} (h : t.locate source = .ok (p, some (.file permissions bytes)))
    (hgrows : t.Grows t') : t'.IsWritable source := by
  obtain ⟨hleads, hslash, hnode⟩ := locate_eq_file_iff.1 h
  obtain ⟨_, _, hfile⟩ := hgrows.file p ⟨permissions, bytes, hnode⟩
  exact isWritable_of_locate (locate_eq_file_iff.2 ⟨hleads.mono hgrows, hslash, hfile⟩)

end FileTree

namespace Config

variable {location : Location} {path : Option String}

theorem writeSource_eq (c : Config) (t : FileTree) (text : String) :
    c.writeSource t text
      = match t.withAbove c.source with
        | .error fault => (.error fault, t)
        | .ok t =>
          match t.write c.source (Text.bytesOf text) with
          | .error fault => (.error fault, t)
          | .ok t => (.ok (), t) :=
  rfl

/-- **A file that can be written** holds what was written, and can be written again. -/
theorem writeSource_spec (c : Config) (h : t.IsWritable c.source) (text : String) :
    ∃ t', c.writeSource t text = (.ok (), t') ∧ t'.exists? c.source = true
      ∧ t'.readText c.source = .ok text ∧ t'.IsWritable c.source := by
  obtain ⟨made, place, permissions, old, habove, htarget⟩ := h
  obtain ⟨t', hwrite, hgrows, hexists, hread, htarget'⟩ :=
    FileTree.write_file htarget (Text.bytesOf text)
  refine ⟨t', ?_, hexists, ?_, t', place, permissions, Text.bytesOf text, ?_, htarget'⟩
  · rw [writeSource_eq, habove]
    dsimp only
    rw [hwrite]
  · unfold FileTree.readText
    rw [hread]
    dsimp only
    rw [Text.ofBytes?_bytesOf]
  · exact FileTree.withAbove_of_grows habove hgrows

/-! ## Loading -/

theorem load_of_readText {text : String} {settings : Settings}
    (hexists : t.exists? (path.getD location.configFile) = true)
    (hread : t.readText (path.getD location.configFile) = .ok text)
    (hparse : Settings.parse? text = some settings) :
    load t location path = .ok { location, source := path.getD location.configFile, settings } := by
  unfold load
  dsimp only
  rw [if_pos hexists, hread]
  dsimp only
  rw [hparse]

/-- What a file shows for a key: what its document states, or the default if there is no file. -/
def shown (t : FileTree) (source : String) (k : Settings.Key) : String :=
  match t.readText source with
  | .ok text =>
    match Toml.read? text with
    | some es => Settings.stated es k
    | none => ({} : Settings).render k
  | .error _ => ({} : Settings).render k

/-- Nothing is read from a file that is not there. -/
theorem readText_of_not_exists (h : ¬ t.exists? source = true) :
    ∃ fault, t.readText source = .error fault := by
  unfold FileTree.exists? at h
  unfold FileTree.readText FileTree.readBytes
  generalize t.locate source = located at h ⊢
  rcases located with fault | ⟨place, _ | node⟩
  · exact ⟨fault, rfl⟩
  · exact ⟨.notFound, rfl⟩
  · exact absurd rfl h

/-- **What was loaded is what the file shows.** -/
theorem render_of_load {c : Config} (h : load t location path = .ok c) (k : Settings.Key) :
    c.source = path.getD location.configFile ∧ c.location = location
      ∧ c.settings.render k = shown t c.source k := by
  unfold load at h
  dsimp only at h
  by_cases hexists : t.exists? (path.getD location.configFile) = true
  · rw [if_pos hexists] at h
    split at h
    case h_1 => nomatch h
    case h_2 text hread =>
      split at h
      case h_1 => nomatch h
      case h_2 settings hparse =>
        rw [← Except.ok.inj h]
        refine ⟨rfl, rfl, ?_⟩
        obtain ⟨es, hes, hof⟩ := Option.bind_eq_some_iff.mp hparse
        unfold shown
        dsimp only
        rw [hread]
        dsimp only
        rw [hes]
        exact Settings.render_of_ofToml? hof k
  · rw [if_neg hexists] at h
    obtain ⟨fault, hread⟩ := readText_of_not_exists hexists
    rw [← Except.ok.inj h]
    refine ⟨rfl, rfl, ?_⟩
    unfold shown
    dsimp only
    rw [hread]

end Config

end Confine

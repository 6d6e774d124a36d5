import Confine.Code.Workbench
import Confine.Machine.Amd64
import Confine.Proofs.Code.Arguments

set_option autoImplicit false

/-! # The life of a block

A block that was assembled has code in it and can be used (`Block.Usable`), and a block that was
freed has nothing and cannot be used at all (`Block.Spent`). There is nothing in between: on a
workbench a block is usable until it is freed for the first time and spent from then on, whatever
else is done there (`Workbench.life_of_assembled`). One command either frees the block or leaves it
as it is (`Workbench.find?_perform`).
-/

namespace Confine.Code

namespace Block

/-! ## Usable blocks and spent blocks -/

/-- **A block that can be used**: it holds some bytes, and no call of it fails but for one of the
arguments, which holds the character that ends strings. -/
structure Usable (b : Block) (bytes : List UInt8) : Prop extends b.Holds bytes where
  nonempty : 0 < b.size
  refuses : ∀ (m : Machine) (context : Option (List String)) (cause : Error),
    (b.execute m context).result = .error cause →
      ∃ arg ∈ context.getD [], '\x00' ∈ arg.toList ∧ cause = .invalidArgument arg

/-- **A block that was freed**: there is no code in it, it is neither called, whatever the
arguments, nor written, and freeing it again changes nothing. -/
structure Spent (b : Block) : Prop where
  executable : b.isExecutable = false
  size : b.size = 0
  code : b.code? = none
  execute : ∀ (m : Machine) (context : Option (List String)),
    (b.execute m context).result = .error (.invalidBlock .notExecutable)
  dump : b.dump.result = .error (.invalidBlock .nothingToDump)
  free : b.free = b
  freeEvents : b.freeEvents = []

theorem spent_free (b : Block) : b.free.Spent where
  executable := rfl
  size := rfl
  code := rfl
  execute _ _ := rfl
  dump := rfl
  free := rfl
  freeEvents := rfl

theorem Holds.usable {b : Block} {bytes : List UInt8} (h : b.Holds bytes) (hb : bytes ≠ []) :
    b.Usable bytes where
  toHolds := h
  nonempty := UInt64.pos_iff_ne_zero.mpr (h.size_ne_zero hb)
  refuses m context cause hcause := by
    obtain ⟨region, -, hexecute⟩ := execute_eq_invoke h.code (h.size_ne_zero hb)
    exact refused_of_invoke (hexecute m context ▸ hcause)

/-- What was assembled holds the bytes of the listing, and these are not none. -/
theorem holds_of_assemble {m : Machine} {architecture backend listing : String} {b : Block}
    (h : (assemble m architecture backend listing).result = .ok b) :
    ∃ bytes, Hex.decode listing = .ok bytes ∧ bytes ≠ [] ∧ b.Holds bytes
      ∧ b.architecture = architecture ∧ b.backend = backend := by
  cases hd : Hex.decode listing with
  | error fault =>
      rw [assemble_of_fault hd] at h
      nomatch h
  | ok bytes =>
      rw [assemble_of_decode hd] at h
      by_cases hb : bytes = []
      · rw [if_pos hb] at h
        nomatch h
      rw [if_neg hb] at h
      cases hm : m.loading bytes.length with
      | error cause =>
          rw [hm] at h
          nomatch h
      | ok pages =>
          rw [hm] at h
          cases h
          exact ⟨bytes, rfl, hb, holds_regionOf hb hm architecture backend, rfl, rfl⟩

end Block

namespace Workbench

variable {w : Workbench} {name : String} {b : Block}

/-! ## One command -/

theorem find?_store (w : Workbench) (name other : String) (b : Block) :
    (w.store name b).find? other = if other = name then some b else w.find? other := by
  unfold find? store
  rw [List.lookup_cons]
  by_cases h : other = name
  · rw [if_pos h, beq_iff_eq.mpr h]
  · rw [if_neg h, beq_false_of_ne h]

theorem find?_attempt {α : Type} (w : Workbench) (a : Attempt α) (answer : α → Answer)
    (name : String) : (w.attempt a answer).2.find? name = w.find? name := by
  unfold attempt
  cases a.result <;> rfl

/-- Work on a block that leaves the blocks alone. -/
theorem find?_withBlock (w : Workbench) {work : Block → Answer × Workbench}
    (h : ∀ block, (work block).2.find? name = w.find? name) (other : String) :
    (w.withBlock other work).2.find? name = w.find? name := by
  unfold withBlock
  cases w.find? other with
  | none => rfl
  | some block => exact h block

/-- **A command frees a block or leaves it as it is**, unless it puts another one in its place. -/
theorem find?_perform (hfind : w.find? name = some b) {command : Command}
    (hkeep : ∀ host architecture backend listing,
      command ≠ .assemble host name architecture backend listing) :
    command = .free name ∧ (w.perform command).2.find? name = some b.free
      ∨ command ≠ .free name ∧ (w.perform command).2.find? name = some b := by
  cases command with
  | assemble host other architecture backend listing =>
      have hother : name ≠ other := by
        rintro rfl
        exact hkeep host architecture backend listing rfl
      refine .inr ⟨nofun, ?_⟩
      unfold perform
      dsimp only
      cases (Block.assemble host architecture backend listing).result with
      | error cause => exact hfind
      | ok block => exact (find?_store _ other name block).trans ((if_neg hother).trans hfind)
  | free other =>
      by_cases hother : name = other
      · subst hother
        refine .inl ⟨rfl, ?_⟩
        unfold perform withBlock
        rw [hfind]
        exact (find?_store _ name name b.free).trans (if_pos rfl)
      · refine .inr ⟨by rintro ⟨⟩; exact hother rfl, ?_⟩
        refine (find?_withBlock w (fun block => ?_) other).trans hfind
        exact (find?_store _ other name block.free).trans (if_neg hother)
  | inspect other => exact .inr ⟨nofun, (find?_withBlock w (fun _ => rfl) other).trans hfind⟩
  | dump other =>
      exact .inr ⟨nofun, (find?_withBlock w (fun _ => find?_attempt w _ _ name) other).trans hfind⟩
  | execute host other args =>
      exact .inr ⟨nofun, (find?_withBlock w (fun _ => find?_attempt w _ _ name) other).trans hfind⟩
  | decode listing => exact .inr ⟨nofun, (find?_attempt w _ _ name).trans hfind⟩
  | assembleStream architecture text backend =>
      exact .inr ⟨nofun, (find?_attempt w _ _ name).trans hfind⟩
  | «seal» host size bytes => exact .inr ⟨nofun, (find?_attempt w _ _ name).trans hfind⟩
  | map host size bytes => exact .inr ⟨nofun, (find?_attempt w _ _ name).trans hfind⟩
  | clear => exact .inr ⟨nofun, hfind⟩
  | thread commands => exact .inr ⟨nofun, hfind⟩

/-! ## Several commands -/

/-- The workbench after some commands. -/
def after (w : Workbench) (commands : List Command) : Workbench :=
  commands.foldl (fun w command => (w.perform command).2) w

/-- **Commands free a block or leave it as it is**, unless there is one that puts another in its
place. -/
theorem find?_after (commands : List Command) (hfind : w.find? name = some b)
    (hkeep : ∀ host architecture backend listing,
      Command.assemble host name architecture backend listing ∉ commands) :
    (.free name ∉ commands → (w.after commands).find? name = some b)
      ∧ (.free name ∈ commands → (w.after commands).find? name = some b.free) := by
  induction commands generalizing w b with
  | nil => exact ⟨fun _ => hfind, nofun⟩
  | cons command rest ih =>
      have hrest : ∀ host architecture backend listing,
          Command.assemble host name architecture backend listing ∉ rest :=
        fun _ _ _ _ hmem => hkeep _ _ _ _ (List.mem_cons_of_mem command hmem)
      have hcommand : ∀ host architecture backend listing,
          command ≠ .assemble host name architecture backend listing := by
        rintro _ _ _ _ rfl
        exact hkeep _ _ _ _ List.mem_cons_self
      rcases find?_perform hfind hcommand with ⟨rfl, hfree⟩ | ⟨hne, hsame⟩
      · -- The rest finds a block that is freed already.
        obtain ⟨hkept, hfreed⟩ := ih hfree hrest
        refine ⟨fun hmem => absurd List.mem_cons_self hmem, fun _ => ?_⟩
        by_cases hmem : Command.free name ∈ rest
        · exact hfreed hmem
        · exact hkept hmem
      · obtain ⟨hkept, hfreed⟩ := ih hsame hrest
        refine ⟨fun hmem => hkept fun h => hmem (List.mem_cons_of_mem command h), fun hmem => ?_⟩
        exact hfreed ((List.mem_cons.mp hmem).resolve_left hne.symm)

/-- **A block is usable until it is freed, and spent from then on.** Let a block that was assembled
lie on a workbench, and let any work be done there that does not put another block in its place. The
block is there afterwards, made for the same architecture and backend. If it was not freed, it holds
the bytes of its listing and can be used; if it was, once or more, there is nothing left of it. In
either case no call of it finds that there is a region of no bytes. -/
theorem life_of_assembled {m : Machine} {architecture backend listing : String}
    (hassemble : (Block.assemble m architecture backend listing).result = .ok b)
    (hfind : w.find? name = some b) (commands : List Command)
    (hkeep : ∀ host architecture backend listing,
      Command.assemble host name architecture backend listing ∉ commands) :
    ∃ bytes now, Hex.decode listing = .ok bytes ∧ (w.after commands).find? name = some now
      ∧ now.architecture = architecture ∧ now.backend = backend
      ∧ (Command.free name ∉ commands → now.Usable bytes)
      ∧ (Command.free name ∈ commands → now.Spent)
      ∧ ∀ (m : Machine) (context : Option (List String)),
        (now.execute m context).result ≠ .error (.invalidBlock .empty) := by
  obtain ⟨bytes, hdecode, hsome, hholds, harchitecture, hbackend⟩ :=
    Block.holds_of_assemble hassemble
  obtain ⟨hkept, hfreed⟩ := find?_after commands hfind hkeep
  have husable := hholds.usable hsome
  by_cases hmem : Command.free name ∈ commands
  · refine ⟨bytes, b.free, hdecode, hfreed hmem, harchitecture, hbackend, absurd hmem,
      fun _ => b.spent_free, fun m context hempty => ?_⟩
    nomatch (b.spent_free.execute m context).symm.trans hempty
  · refine ⟨bytes, b, hdecode, hkept hmem, harchitecture, hbackend, fun _ => husable,
      fun h => absurd h hmem, fun m context hempty => ?_⟩
    obtain ⟨arg, -, -, hcause⟩ := husable.refuses m context _ hempty
    nomatch hcause

/-- A block that is called with an argument that cannot be delivered, freed, called again, and freed
again. -/
theorem life_of_assembled_freed_twice :
    ∃ b, (Block.assemble Machine.Amd64.host "x86_64" "native" "C3").result = .ok b
      ∧ ∃ now, ((({} : Workbench).store "b" b).after
          [.execute Machine.Amd64.host "b" (some ["bad\x00arg"]), .free "b",
            .execute Machine.Amd64.host "b" (some ["bad\x00arg"]), .free "b"]).find? "b" = some now
        ∧ now.architecture = "x86_64" ∧ now.Spent := by
  let b : Block := ⟨"x86_64", "native", some (regionOf 4096 [0xC3])⟩
  have hassemble : (Block.assemble Machine.Amd64.host "x86_64" "native" "C3").result = .ok b := by
    decide +kernel
  have hfind : (({} : Workbench).store "b" b).find? "b" = some b := rfl
  obtain ⟨-, now, -, hnow, harchitecture, -, -, hspent, -⟩ := life_of_assembled hassemble hfind
    [.execute Machine.Amd64.host "b" (some ["bad\x00arg"]), .free "b",
      .execute Machine.Amd64.host "b" (some ["bad\x00arg"]), .free "b"] (by simp)
  exact ⟨b, hassemble, now, hnow, harchitecture, hspent (by simp)⟩

end Workbench

end Confine.Code

import Confine.Code.Block
import Mathlib

set_option autoImplicit false

/-! # What loading yields

Loading bytes and calling what was loaded, each in closed form. Whether bytes can be loaded
depends on their number alone: pages have to be mapped for them (`Machine.mapping`), and these pages
have to become executable (`Machine.loading`). When they can, the region holds exactly these bytes
(`load_result`), so that calling it runs exactly these bytes (`invoke_result`).
-/

namespace Confine

/-- The pages that the host maps for a number of bytes, or why it maps none. -/
def Machine.mapping (m : Machine) (len : Nat) : Except Code.AllocFault UInt64 :=
  if UInt64.size ≤ len then .error .tooLarge
  else
    match m.roundUp (UInt64.ofNat len) with
    | none => .error .tooLarge
    | some pages =>
      match m.map pages with
      | .error reason => .error (.refused reason)
      | .ok () => .ok pages

/-- The pages that a number of bytes is loaded on, mapped and made executable, or why there are
none. -/
def Machine.loading (m : Machine) (len : Nat) : Except Code.Error UInt64 :=
  match m.mapping len with
  | .error fault => .error (.alloc fault)
  | .ok pages =>
    match m.protect pages with
    | .error reason => .error (.protect reason)
    | .ok () => .ok pages

/-- **Pages are loaded on** if they are mapped first and sealed then. -/
theorem Machine.loading_eq_ok_iff {m : Machine} {len : Nat} {pages : UInt64} :
    m.loading len = .ok pages ↔ m.mapping len = .ok pages ∧ m.protect pages = .ok () := by
  unfold loading
  cases m.mapping len with
  | error fault => simp
  | ok reserved =>
      dsimp only
      cases hp : m.protect reserved with
      | error reason =>
          refine iff_of_false nofun ?_
          rintro ⟨hmap, hseal⟩
          cases hmap
          rw [hp] at hseal
          cases hseal
      | ok done =>
          constructor
          · intro h
            cases h
            exact ⟨rfl, hp⟩
          · rintro ⟨hmap, -⟩
            cases hmap
            rfl

/-- Loading never comes upon a fault of a listing: it fails for the pages alone. -/
theorem Machine.loading_eq_error {m : Machine} {len : Nat} {cause : Code.Error}
    (h : m.loading len = .error cause) :
    (∃ fault, cause = .alloc fault) ∨ ∃ reason, cause = .protect reason := by
  unfold loading at h
  cases hm : m.mapping len with
  | error fault =>
      rw [hm] at h
      cases h
      exact .inl ⟨fault, rfl⟩
  | ok pages =>
      rw [hm] at h
      dsimp only at h
      cases hp : m.protect pages with
      | error reason =>
          rw [hp] at h
          cases h
          exact .inr ⟨reason, rfl⟩
      | ok done =>
          rw [hp] at h
          cases h

namespace Code

/-! ## Results of attempts -/

namespace Attempt

variable {α β : Type}

@[simp] theorem fail_result (cause : Error) :
    (fail cause : Attempt α).result = .error cause := rfl

@[simp] theorem note_result (event : Event) : (note event).result = .ok () := rfl

theorem bind_result_ok {first : Attempt α} {next : α → Attempt β} {a : α}
    (h : first.result = .ok a) : (first >>= next).result = (next a).result := by
  show (Attempt.bind first next).result = _
  simp only [Attempt.bind, h]

theorem bind_result_error {first : Attempt α} {next : α → Attempt β} {cause : Error}
    (h : first.result = .error cause) : (first >>= next).result = .error cause := by
  show (Attempt.bind first next).result = _
  simp only [Attempt.bind, h]

end Attempt

/-! ## The bytes of a region -/

/-- A region that was filled to its length holds what was written, and nothing else. -/
theorem Extent.bytes_of_full {e : Extent} (h : e.written.length = e.len.toNat) :
    e.bytes = e.written := by
  apply List.ext_getElem
  · simp [Extent.bytes, Extent.head, h]
  · intro i h₁ h₂
    simp [Extent.bytes, Extent.head, Extent.byteAt, List.getD_eq_getElem?_getD,
      List.getElem?_eq_getElem h₂]

theorem toNat_ofNat_length {bytes : List UInt8} (h : ¬ UInt64.size ≤ bytes.length) :
    (UInt64.ofNat bytes.length).toNat = bytes.length :=
  UInt64.toNat_ofNat_of_lt' (by omega)

/-- The region that holds these bytes on these pages. -/
def regionOf (pages : UInt64) (bytes : List UInt8) : ExecutableRegion :=
  ⟨⟨UInt64.ofNat bytes.length, pages, bytes⟩⟩

/-- A region that was loaded holds exactly the bytes that it was loaded with. -/
theorem regionOf_bytes {m : Machine} {pages : UInt64} {bytes : List UInt8}
    (h : m.mapping bytes.length = .ok pages) : (regionOf pages bytes).bytes = bytes := by
  have hlen : ¬ UInt64.size ≤ bytes.length := by
    intro hle
    rw [Machine.mapping, if_pos hle] at h
    cases h
  exact Extent.bytes_of_full (toNat_ofNat_length hlen).symm

/-! ## Loading and calling -/

theorem allocate_result (m : Machine) (size : UInt64) :
    (WritableRegion.allocate m size).result =
      if size = 0 then .error (.emptyInput .size)
      else
        match m.roundUp size with
        | none => .error (.alloc .tooLarge)
        | some pages =>
          match m.map pages with
          | .error reason => .error (.alloc (.refused reason))
          | .ok () => .ok ⟨⟨size, pages, []⟩⟩ := by
  unfold WritableRegion.allocate
  by_cases hz : size = 0
  · simp [hz]
  · simp only [hz, if_false]
    cases m.roundUp size with
    | none => rfl
    | some pages =>
        dsimp only
        cases m.map pages with
        | error reason => rfl
        | ok done =>
            dsimp only
            rw [Attempt.bind_result_ok (Attempt.note_result _)]
            rfl

theorem makeExecutable_result (m : Machine) (r : WritableRegion) :
    (r.makeExecutable m).result =
      match m.protect r.extent.mapped with
      | .error reason => .error (.protect reason)
      | .ok () => .ok ⟨r.extent⟩ := by
  unfold WritableRegion.makeExecutable
  cases m.protect r.extent.mapped with
  | error reason => rfl
  | ok done =>
      dsimp only
      rw [Attempt.bind_result_ok (Attempt.note_result _)]
      rfl

/-- **What loading yields.** No bytes are refused as such, bytes for which no pages are mapped or
whose pages are not sealed are refused for that reason, and all others end up in a region of their
own. -/
theorem load_result (m : Machine) (bytes : List UInt8) :
    (load m bytes).result =
      if bytes = [] then .error (.emptyInput .code)
      else
        match m.loading bytes.length with
        | .error cause => .error cause
        | .ok pages => .ok (regionOf pages bytes) := by
  unfold load
  by_cases hb : bytes = []
  · simp [hb]
  by_cases hl : UInt64.size ≤ bytes.length
  · simp [hb, hl, Machine.loading, Machine.mapping]
  have hn := toNat_ofNat_length hl
  have hz : UInt64.ofNat bytes.length ≠ 0 := by
    intro h0
    rw [h0] at hn
    exact hb (List.length_eq_zero_iff.mp hn.symm)
  -- The region is as long as there are bytes, so that writing fills it and cannot fail.
  have hm := allocate_result m (UInt64.ofNat bytes.length)
  simp only [hz, if_false] at hm
  simp only [List.isEmpty_iff, hb, if_false, hl, Machine.loading, Machine.mapping]
  cases hr : m.roundUp (UInt64.ofNat bytes.length) with
  | none =>
      simp only [hr] at hm
      exact Attempt.bind_result_error hm
  | some pages =>
      simp only [hr] at hm
      dsimp only
      cases hg : m.map pages with
      | error reason =>
          simp only [hg] at hm
          exact Attempt.bind_result_error hm
      | ok done =>
          simp only [hg] at hm
          rw [Attempt.bind_result_ok hm, makeExecutable_result]
          simp only [WritableRegion.write, regionOf, hn, List.take_length]
          cases m.protect pages <;> rfl

/-- Calling a region without arguments runs its bytes with an empty table. -/
theorem invoke_result (m : Machine) (region : ExecutableRegion) :
    (invoke m region []).result = .ok (m.run region.bytes (Machine.Call.ofArguments [])) := by
  unfold invoke
  simp only [List.find?_nil]
  rw [Attempt.bind_result_ok (Attempt.note_result _)]
  rfl

end Code

end Confine

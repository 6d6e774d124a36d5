import Confine.Proofs.Hex.Runs
import Confine.Proofs.Text.Bytes

set_option autoImplicit false

/-! # Listings put together

Two listings are put together by writing one after the other. A readable listing ends between two
bytes, never between two digits, so what comes after it is read as if it stood alone, and only the
offsets of its faults are counted from further back (`decodeFrom_later`). A listing with a digit
that a separator has cut off from its partner is refused before anything that comes after it is
looked at (`decodeFrom_append_of_error`).
-/

namespace Confine.Hex

variable {bytes rest before run after : List UInt8} {offset : Nat} {fault : Fault}

/-! ## Faults further back -/

/-- The same fault when a number of bytes more came before. -/
def Fault.later (n : Nat) (f : Fault) : Fault :=
  { f with offset := f.offset + n }

@[simp] theorem Fault.reason_later (n : Nat) (f : Fault) : (f.later n).reason = f.reason := rfl

@[simp] theorem Fault.offset_later (n : Nat) (f : Fault) : (f.later n).offset = f.offset + n := rfl

/-- **Reading does not depend on what came before**, apart from the offset of the fault. -/
theorem decodeFrom_later (n offset : Nat) (bytes : List UInt8) :
    decodeFrom (offset + n) bytes = (decodeFrom offset bytes).mapError (Fault.later n) := by
  induction bytes using reading_induction generalizing offset with
  | nil => rfl
  | separator b rest hb ih =>
      have hoff : offset + n + 1 = offset + 1 + n := by omega
      rw [decodeFrom_separator hb, decodeFrom_separator hb, hoff, ih]
  | lone b rest hb hrest =>
      rw [decodeFrom_lone hb _ hrest, decodeFrom_lone hb _ hrest]
      rfl
  | pair b c rest hb hc ih =>
      have hoff : offset + n + 2 = offset + 2 + n := by omega
      rw [decodeFrom_pair hb hc, decodeFrom_pair hb hc, hoff, ih]
      cases decodeFrom (offset + 2) rest <;> rfl

/-! ## Faults that stay -/

/-- The first odd run is the same with more after it, if something comes right after it already. -/
theorem FirstOdd.append (h : FirstOdd bytes before run after) (hafter : after ≠ [])
    (rest : List UInt8) : FirstOdd (bytes ++ rest) before run (after ++ rest) := by
  refine ⟨?_, h.digits, h.left, ?_, h.odd, h.even⟩
  · rw [h.eq]
    simp only [List.append_assoc]
  · rw [List.head?_append_of_ne_nil _ hafter]
    exact h.right

/-- A fault shows the byte after the lone digit. -/
theorem next_of_decodeFrom (h : decodeFrom 0 bytes = .error fault) :
    fault.next = bytes[fault.offset + 1]? := by
  obtain ⟨before, run, after, hodd, rfl⟩ := decodeFrom_eq_error_iff.mp h
  have hpos := hodd.odd.pos
  have hend : 0 + (before.length + run.length - 1) + 1 = (before ++ run).length := by
    simp only [List.length_append]
    omega
  show after.head? = bytes[0 + (before.length + run.length - 1) + 1]?
  rw [hend, hodd.eq, ← List.append_assoc, List.getElem?_append_right (Nat.le_refl _),
    Nat.sub_self, List.head?_eq_getElem?]

/-- The byte that a fault shows is a separator. -/
theorem not_isDigit_of_next (h : decodeFrom offset bytes = .error fault) {b : UInt8}
    (hb : fault.next = some b) : isDigit b = false := by
  obtain ⟨before, run, after, hodd, rfl⟩ := decodeFrom_eq_error_iff.mp h
  exact hodd.right b hb

/-- **A digit that a separator follows is where reading ends**, whatever comes later. -/
theorem decodeFrom_append_of_error (h : decodeFrom offset bytes = .error fault)
    (hnext : fault.next ≠ none) (rest : List UInt8) :
    decodeFrom offset (bytes ++ rest) = .error fault := by
  obtain ⟨before, run, after, hodd, rfl⟩ := decodeFrom_eq_error_iff.mp h
  have hafter : after ≠ [] := by
    rintro rfl
    exact hnext rfl
  rw [(hodd.append hafter rest).decodeFrom_eq offset, List.head?_append_of_ne_nil _ hafter]

/-! ## Listings -/

/-- **Reading goes by the parts.** After a listing that is readable another one is read as it is on
its own: the bytes of the two are put together, or the fault of the second one is the fault of the
whole, with the same reason, and further back by as many bytes as the first one takes in UTF-8.
After a listing that is refused because of a byte behind a lone digit, which is a separator then,
the same fault with the same wording is the fault of the whole. -/
theorem decode_append (a b : String) :
    (∀ x, decode a = .ok x →
        (∀ y, decode b = .ok y → decode (a ++ b) = .ok (x ++ y))
          ∧ ∀ fault, decode b = .error fault → ∃ fault', decode (a ++ b) = .error fault'
              ∧ fault'.reason = fault.reason ∧ fault'.offset = fault.offset + a.utf8ByteSize)
      ∧ ∀ fault c, decode a = .error fault → (Text.bytesOf a)[fault.offset + 1]? = some c →
          isDigit c = false ∧ decode (a ++ b) = .error fault := by
  have hwhole : decode (a ++ b) = decodeFrom 0 (Text.bytesOf a ++ Text.bytesOf b) := by
    rw [← Text.bytesOf_append]
    rfl
  rw [hwhole]
  constructor
  · intro x hx
    have hfirst : decodeFrom 0 (Text.bytesOf a) = .ok x := hx
    have hread : decodeFrom 0 (Text.bytesOf a ++ Text.bytesOf b)
        = ((decode b).mapError (Fault.later a.utf8ByteSize)).map (x ++ ·) := by
      rw [decodeFrom_append hfirst, Text.length_bytesOf, decodeFrom_later]
      rfl
    rw [hread]
    refine ⟨fun y hy => by rw [hy]; rfl, fun fault hfault => ?_⟩
    rw [hfault]
    exact ⟨fault.later a.utf8ByteSize, rfl, fault.reason_later _, fault.offset_later _⟩
  · intro fault c hfault hc
    have hnext : fault.next = some c := (next_of_decodeFrom hfault).trans hc
    exact ⟨not_isDigit_of_next hfault hnext,
      decodeFrom_append_of_error hfault (by simp [hnext]) (Text.bytesOf b)⟩

/-- The seam may be in the middle of a run of digits, and before it may come a character that takes
two bytes. -/
theorem decode_append_in_run :
    (decode "é2A" = .ok [0x2a] ∧ decode "3b" = .ok [0x3b]
        ∧ decode ("é2A" ++ "3b") = .ok ([0x2a] ++ [0x3b]))
      ∧ (decode "3b c" = .error ⟨3, none⟩
        ∧ ∃ fault, decode ("é2A" ++ "3b c") = .error fault
          ∧ fault.reason = "odd hex group at end of input" ∧ fault.offset = 3 + 4)
      ∧ decode "2A 3 " = .error ⟨3, some 0x20⟩
      ∧ decode ("2A 3 " ++ "b") = .error ⟨3, some 0x20⟩ := by
  have h : decode "é2A" = .ok [0x2a] := by cbv
  have hok : decode "3b" = .ok [0x3b] := by cbv
  have hend : decode "3b c" = .error ⟨3, none⟩ := by cbv
  have hcut : decode "2A 3 " = .error ⟨3, some 0x20⟩ := by cbv
  have hbyte : (Text.bytesOf "2A 3 ")[3 + 1]? = some 0x20 := by cbv
  exact ⟨⟨h, hok, ((decode_append _ _).1 _ h).1 _ hok⟩,
    ⟨hend, ((decode_append _ _).1 _ h).2 _ hend⟩,
    hcut, ((decode_append _ "b").2 _ _ hcut hbyte).2⟩

end Confine.Hex

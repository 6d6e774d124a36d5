import Confine.Machine.Amd64
import Confine.Proofs.Code.Loading

set_option autoImplicit false

/-! # Regions of whole pages

Memory is mapped in whole pages. The size of a page is a power of two, and so it divides the 64-bit
range: the multiple that a length is rounded up to is within the range exactly if the sum on the way
is (`Machine.roundUp_eq_none_iff`). A region is as long as it was asked to be and lies on the fewest
pages that are enough for it, before it is sealed and after, so that all of its bytes are mapped
(`WritableRegion.allocate_whole_pages`). Whether it is mapped and whether it is sealed is up to the
host, which may answer one way to the one request and another way to the other.
-/

namespace Confine

namespace Machine

variable {m : Machine} {len pages : UInt64} {l n : Nat}

/-! ## Rounding up -/

/-- The lengths of whole pages that are enough for some bytes. -/
def enoughPages (m : Machine) (len : Nat) : Set Nat :=
  {n | m.pageSize.toNat ∣ n ∧ len ≤ n}

/-- The least multiple from a length on is the one less than a page away. -/
theorem isLeast_enoughPages_iff (hpos : 0 < m.pageSize.toNat) :
    IsLeast (m.enoughPages l) n ↔ m.pageSize.toNat ∣ n ∧ l ≤ n ∧ n < l + m.pageSize.toNat := by
  constructor
  · rintro ⟨⟨hdvd, henough⟩, hleast⟩
    refine ⟨hdvd, henough, ?_⟩
    by_contra hfar
    -- One page less would do as well.
    have hfewer : n - m.pageSize.toNat ∈ m.enoughPages l :=
      ⟨Nat.dvd_sub hdvd (Nat.dvd_refl _), by omega⟩
    have hle := hleast hfewer
    omega
  · rintro ⟨hdvd, henough, hnear⟩
    refine ⟨⟨hdvd, henough⟩, ?_⟩
    rintro other ⟨hother, hmore⟩
    obtain ⟨j, rfl⟩ := hdvd
    obtain ⟨k, rfl⟩ := hother
    -- The multiple after the other one is beyond this one.
    have hnext : m.pageSize.toNat * j < m.pageSize.toNat * (k + 1) := by
      calc m.pageSize.toNat * j
          < l + m.pageSize.toNat := hnear
        _ ≤ m.pageSize.toNat * k + m.pageSize.toNat := Nat.add_le_add_right hmore _
        _ = m.pageSize.toNat * (k + 1) := (Nat.mul_succ _ k).symm
    exact Nat.mul_le_mul_left _ (Nat.le_of_lt_succ (Nat.lt_of_mul_lt_mul_left hnext))

/-- It is had by division. -/
theorem isLeast_quotient (hpos : 0 < m.pageSize.toNat) (l : Nat) :
    IsLeast (m.enoughPages l)
      ((l + (m.pageSize.toNat - 1)) / m.pageSize.toNat * m.pageSize.toNat) := by
  have hbelow := Nat.div_mul_le_self (l + (m.pageSize.toNat - 1)) m.pageSize.toNat
  have habove := Nat.lt_div_mul_add (a := l + (m.pageSize.toNat - 1)) hpos
  rw [isLeast_enoughPages_iff hpos]
  exact ⟨Nat.dvd_mul_left _ _, by omega, by omega⟩

/-- Rounding up is refused if there is less than a page to the end of the range, and else yields the
quotient of whole pages. -/
theorem roundUp_eq (hpos : 0 < m.pageSize.toNat) (len : UInt64) :
    m.roundUp len = if len.toNat + m.pageSize.toNat ≤ UInt64.size
      then some (UInt64.ofNat
        ((len.toNat + (m.pageSize.toNat - 1)) / m.pageSize.toNat * m.pageSize.toNat))
      else none := by
  have hlast : (m.pageSize - 1).toNat = m.pageSize.toNat - 1 :=
    UInt64.toNat_sub_of_le _ _ (UInt64.le_iff_toNat_le.mpr hpos)
  unfold roundUp
  rw [hlast]
  by_cases hfit : len.toNat + m.pageSize.toNat ≤ UInt64.size
  · have hreach : len.toNat + (m.pageSize.toNat - 1) < UInt64.size := by omega
    rw [if_pos hfit, if_pos hreach]
    refine congrArg some (UInt64.toNat_inj.mp ?_)
    rw [UInt64.toNat_mul, UInt64.toNat_div, UInt64.toNat_ofNat_of_lt' hreach, UInt64.toNat_ofNat']
  · rw [if_neg hfit, if_neg (by omega)]

/-- **A length is rounded up** to the least multiple of the page that is enough, if there is no less
than a page to the end of the range. -/
theorem roundUp_eq_some_iff_of_pos (hpos : 0 < m.pageSize.toNat) :
    m.roundUp len = some pages
      ↔ len.toNat + m.pageSize.toNat ≤ UInt64.size
        ∧ IsLeast (m.enoughPages len.toNat) pages.toNat := by
  have hquotient := isLeast_quotient hpos len.toNat
  obtain ⟨-, -, hnear⟩ := (isLeast_enoughPages_iff hpos).mp hquotient
  rw [roundUp_eq hpos]
  by_cases hfit : len.toNat + m.pageSize.toNat ≤ UInt64.size
  swap
  · simp [hfit]
  have hnat := UInt64.toNat_ofNat_of_lt' (Nat.lt_of_lt_of_le hnear hfit)
  rw [if_pos hfit, Option.some_inj, ← UInt64.toNat_inj, hnat]
  exact ⟨fun h => ⟨hfit, h ▸ hquotient⟩, fun h => hquotient.unique h.2⟩

/-! ## Pages whose size is a power of two -/

theorem pageSize_dvd_size (hpage : m.pageSize.toNat.isPowerOfTwo) :
    m.pageSize.toNat ∣ UInt64.size := by
  obtain ⟨k, hk⟩ := hpage
  have hlt : 2 ^ k < 2 ^ 64 := hk ▸ m.pageSize.toNat_lt
  rw [hk]
  exact Nat.pow_dvd_pow 2 (Nat.le_of_lt ((Nat.pow_lt_pow_iff_right (by decide)).mp hlt))

/-- A multiple within the range has a page between it and the end of the range. -/
theorem lt_size_iff_of_isLeast (hpage : m.pageSize.toNat.isPowerOfTwo)
    (h : IsLeast (m.enoughPages l) n) :
    n < UInt64.size ↔ l + m.pageSize.toNat ≤ UInt64.size := by
  have hpos := Nat.pos_of_isPowerOfTwo hpage
  obtain ⟨⟨j, rfl⟩, henough, hnear⟩ := (isLeast_enoughPages_iff hpos).mp h
  obtain ⟨k, hk⟩ := pageSize_dvd_size hpage
  constructor
  · intro hlt
    rw [hk] at hlt
    calc l + m.pageSize.toNat
        ≤ m.pageSize.toNat * j + m.pageSize.toNat := Nat.add_le_add_right henough _
      _ = m.pageSize.toNat * (j + 1) := (Nat.mul_succ _ j).symm
      _ ≤ m.pageSize.toNat * k := Nat.mul_le_mul_left _ (Nat.lt_of_mul_lt_mul_left hlt)
      _ = UInt64.size := hk.symm
  · intro hfit
    exact Nat.lt_of_lt_of_le hnear hfit

/-- **A length is rounded up** to the least multiple of the page that is enough for it. -/
theorem roundUp_eq_some_iff_isLeast (hpage : m.pageSize.toNat.isPowerOfTwo) :
    m.roundUp len = some pages ↔ IsLeast (m.enoughPages len.toNat) pages.toNat := by
  rw [roundUp_eq_some_iff_of_pos (Nat.pos_of_isPowerOfTwo hpage)]
  exact ⟨fun h => h.2, fun h => ⟨(lt_size_iff_of_isLeast hpage h).mp pages.toNat_lt, h⟩⟩

/-- **A length cannot be rounded up** exactly if less than a page of the range is left. -/
theorem roundUp_eq_none_iff (hpage : m.pageSize.toNat.isPowerOfTwo) :
    m.roundUp len = none ↔ UInt64.size - m.pageSize.toNat < len.toNat := by
  have hpos := Nat.pos_of_isPowerOfTwo hpage
  have hlt : m.pageSize.toNat < UInt64.size := m.pageSize.toNat_lt
  rw [roundUp_eq hpos]
  by_cases hfit : len.toNat + m.pageSize.toNat ≤ UInt64.size
  · rw [if_pos hfit]
    exact iff_of_false nofun (by omega)
  · rw [if_neg hfit]
    exact iff_of_true rfl (by omega)

/-- This is where the least multiple is beyond the range. -/
theorem roundUp_eq_none_iff_isLeast (hpage : m.pageSize.toNat.isPowerOfTwo) :
    m.roundUp len = none
      ↔ ∃ least, IsLeast (m.enoughPages len.toNat) least ∧ UInt64.size ≤ least := by
  have hpos := Nat.pos_of_isPowerOfTwo hpage
  have hlt : m.pageSize.toNat < UInt64.size := m.pageSize.toNat_lt
  rw [roundUp_eq_none_iff hpage]
  constructor
  · intro hlate
    have hleast := isLeast_quotient hpos len.toNat
    refine ⟨_, hleast, Nat.le_of_not_lt fun hwithin => ?_⟩
    have hfit := (lt_size_iff_of_isLeast hpage hleast).mp hwithin
    omega
  · rintro ⟨least, hleast, hbeyond⟩
    have hfit := not_congr (lt_size_iff_of_isLeast hpage hleast)
    omega

end Machine

namespace Code

/-! ## Regions -/

/-- **An extent lies on whole pages**: it is as long as it was asked to be, the pages for it are the
fewest that are enough, and so all of its bytes are mapped. -/
structure Extent.OnPages (e : Extent) (m : Machine) (size : UInt64) : Prop where
  len : e.len = size
  whole : m.pageSize.toNat ∣ e.mapped.toNat
  nonempty : e.mapped ≠ 0
  enough : e.len.toNat ≤ e.mapped.toNat
  fewest : e.mapped.toNat < e.len.toNat + m.pageSize.toNat
  exposed : e.bytes.length = e.len.toNat
  inside : ∀ i < e.bytes.length, i < e.mapped.toNat

theorem Extent.length_bytes (e : Extent) : e.bytes.length = e.len.toNat := by
  simp [Extent.bytes, Extent.head]

namespace WritableRegion

variable {m : Machine} {size : UInt64}

theorem onPages_of_roundUp {pages : UInt64} {bytes : List UInt8}
    (hpage : m.pageSize.toNat.isPowerOfTwo) (hsize : size ≠ 0)
    (hround : m.roundUp size = some pages) : (Extent.mk size pages bytes).OnPages m size := by
  obtain ⟨hdvd, henough, hnear⟩ :=
    (Machine.isLeast_enoughPages_iff (Nat.pos_of_isPowerOfTwo hpage)).mp
      ((Machine.roundUp_eq_some_iff_isLeast hpage).mp hround)
  have hlength := Extent.length_bytes (Extent.mk size pages bytes)
  refine ⟨rfl, hdvd, fun hzero => hsize ?_, henough, hnear, hlength, fun i hi => ?_⟩
  · rw [show pages = 0 from hzero] at henough
    exact UInt64.toNat_inj.mp (Nat.eq_zero_of_le_zero henough)
  · exact Nat.lt_of_lt_of_le (hlength ▸ hi) henough

/-- **What comes of asking for a region**: no bytes are refused as such, a length that cannot be
rounded up is refused for that reason, and any other is up to the host. -/
theorem allocate_cases (m : Machine) (size : UInt64) :
    size = 0 ∧ (allocate m size).result = .error (.emptyInput .size)
      ∨ size ≠ 0 ∧ m.roundUp size = none ∧ (allocate m size).result = .error (.alloc .tooLarge)
      ∨ (size ≠ 0 ∧ ∃ pages reason, m.roundUp size = some pages ∧ m.map pages = .error reason
        ∧ (allocate m size).result = .error (.alloc (.refused reason)))
      ∨ size ≠ 0 ∧ ∃ pages, m.roundUp size = some pages ∧ m.map pages = .ok ()
        ∧ (allocate m size).result = .ok ⟨⟨size, pages, []⟩⟩ := by
  rw [allocate_result]
  by_cases hsize : size = 0
  · exact .inl ⟨hsize, if_pos hsize⟩
  rw [if_neg hsize]
  cases m.roundUp size with
  | none => exact .inr (.inl ⟨hsize, rfl, rfl⟩)
  | some pages =>
      dsimp only
      cases hmap : m.map pages with
      | error reason => exact .inr (.inr (.inl ⟨hsize, pages, reason, rfl, hmap, rfl⟩))
      | ok done => exact .inr (.inr (.inr ⟨hsize, pages, rfl, hmap, rfl⟩))

theorem allocate_eq_emptyInput_iff :
    (allocate m size).result = .error (.emptyInput .size) ↔ size = 0 := by
  rcases allocate_cases m size with
    ⟨hsize, hr⟩ | ⟨hsize, -, hr⟩ | ⟨hsize, pages, reason, -, -, hr⟩ | ⟨hsize, pages, -, -, hr⟩
  · exact iff_of_true hr hsize
  all_goals exact iff_of_false (by simp [hr]) hsize

theorem allocate_eq_tooLarge_iff :
    (allocate m size).result = .error (.alloc .tooLarge) ↔ size ≠ 0 ∧ m.roundUp size = none := by
  rcases allocate_cases m size with
    ⟨rfl, hr⟩ | ⟨hsize, hround, hr⟩ | ⟨-, pages, reason, hround, -, hr⟩ | ⟨-, pages, hround, -, hr⟩
  · simp [hr]
  · simp [hr, hsize, hround]
  all_goals simp [hr, hround]

theorem allocate_eq_refused_iff {reason : String} :
    (allocate m size).result = .error (.alloc (.refused reason))
      ↔ size ≠ 0 ∧ ∃ pages, m.roundUp size = some pages ∧ m.map pages = .error reason := by
  rcases allocate_cases m size with
    ⟨rfl, hr⟩ | ⟨-, hround, hr⟩ | ⟨hsize, pages, other, hround, hmap, hr⟩
      | ⟨-, pages, hround, hmap, hr⟩
  · simp [hr]
  · simp [hr, hround]
  · simp [hr, hsize, hround, hmap]
  · simp [hr, hround, hmap]

theorem allocate_eq_ok_iff {region : WritableRegion} :
    (allocate m size).result = .ok region ↔ size ≠ 0 ∧ ∃ pages, m.roundUp size = some pages
      ∧ m.map pages = .ok () ∧ ⟨⟨size, pages, []⟩⟩ = region := by
  rcases allocate_cases m size with
    ⟨rfl, hr⟩ | ⟨-, hround, hr⟩ | ⟨-, pages, reason, hround, hmap, hr⟩
      | ⟨hsize, pages, hround, hmap, hr⟩
  · simp [hr]
  · simp [hr, hround]
  · simp [hr, hround, hmap]
  · simp [hr, hsize, hround, hmap]

/-- **What comes of sealing a region** is up to the host: it refuses, or the region is executable
and as long as before, on the same pages and with the same bytes. -/
theorem makeExecutable_cases (m : Machine) (r : WritableRegion) :
    (∃ reason, m.protect r.extent.mapped = .error reason
        ∧ (r.makeExecutable m).result = .error (.protect reason))
      ∨ m.protect r.extent.mapped = .ok () ∧ (r.makeExecutable m).result = .ok ⟨r.extent⟩ := by
  rw [makeExecutable_result]
  cases hseal : m.protect r.extent.mapped with
  | error reason => exact .inl ⟨reason, rfl, rfl⟩
  | ok done => exact .inr ⟨rfl, rfl⟩

theorem makeExecutable_eq_protect_iff {r : WritableRegion} {reason : String} :
    (r.makeExecutable m).result = .error (.protect reason)
      ↔ m.protect r.extent.mapped = .error reason := by
  rcases makeExecutable_cases m r with ⟨other, hseal, hr⟩ | ⟨hseal, hr⟩ <;> simp [hseal, hr]

theorem makeExecutable_eq_ok_iff {r : WritableRegion} {executable : ExecutableRegion} :
    (r.makeExecutable m).result = .ok executable
      ↔ m.protect r.extent.mapped = .ok () ∧ ⟨r.extent⟩ = executable := by
  rcases makeExecutable_cases m r with ⟨reason, hseal, hr⟩ | ⟨hseal, hr⟩ <;> simp [hseal, hr]

/-- **Rounding up to pages is exact, and a region lies within its pages.** A length is rounded up to
the least multiple of the page that is enough for it, unless this multiple is beyond the 64-bit
range. So a region of no bytes is refused as such, and one whose length is less than a page from the
end of the range for want of memory; any other is had exactly if the host maps its pages, and else
refused with the host's reason. It has the length that was asked for, its pages are the fewest that
are enough, and all of its bytes are mapped. All this remains when bytes are written into it and
when it is sealed, on whatever host, which again is had exactly if the host permits it. -/
theorem allocate_whole_pages (hpage : m.pageSize.toNat.isPowerOfTwo) :
    (∀ len pages, m.roundUp len = some pages
        ↔ IsLeast {n | m.pageSize.toNat ∣ n ∧ len.toNat ≤ n} pages.toNat)
      ∧ (∀ len, m.roundUp len = none ↔ ∃ least,
        IsLeast {n | m.pageSize.toNat ∣ n ∧ len.toNat ≤ n} least ∧ 2 ^ 64 ≤ least)
      ∧ AllocFault.tooLarge.message = "out of memory"
      ∧ ∀ size,
        ((allocate m size).result = .error (.emptyInput .size) ↔ size = 0)
          ∧ ((allocate m size).result = .error (.alloc .tooLarge)
            ↔ 2 ^ 64 - m.pageSize.toNat < size.toNat)
          ∧ (size ≠ 0 → size.toNat ≤ 2 ^ 64 - m.pageSize.toNat → ∃ pages,
            m.roundUp size = some pages
              ∧ ((∃ region, (allocate m size).result = .ok region) ↔ m.map pages = .ok ())
              ∧ ∀ reason, (allocate m size).result = .error (.alloc (.refused reason))
                ↔ m.map pages = .error reason)
          ∧ ∀ region, (allocate m size).result = .ok region →
            region.extent.OnPages m size ∧ ∀ bytes, (region.write bytes).extent.OnPages m size
              ∧ ∀ host : Machine,
                ((∃ executable, ((region.write bytes).makeExecutable host).result = .ok executable)
                    ↔ host.protect region.extent.mapped = .ok ())
                  ∧ (∀ reason,
                    ((region.write bytes).makeExecutable host).result = .error (.protect reason)
                      ↔ host.protect region.extent.mapped = .error reason)
                  ∧ ∀ executable,
                    ((region.write bytes).makeExecutable host).result = .ok executable →
                      executable.extent.OnPages m size := by
  refine ⟨fun len pages => Machine.roundUp_eq_some_iff_isLeast hpage,
    fun len => Machine.roundUp_eq_none_iff_isLeast hpage, rfl, fun size =>
      ⟨allocate_eq_emptyInput_iff, ?_, fun hsize hlow => ?_, fun region hregion => ?_⟩⟩
  · rw [allocate_eq_tooLarge_iff, Machine.roundUp_eq_none_iff hpage]
    refine and_iff_right_of_imp ?_
    rintro hlate rfl
    exact absurd hlate (Nat.not_lt_zero _)
  · cases hround : m.roundUp size with
    | none => exact absurd ((Machine.roundUp_eq_none_iff hpage).mp hround) (Nat.not_lt.mpr hlow)
    | some pages =>
        refine ⟨pages, rfl, ?_, fun reason => ?_⟩
        · simp [allocate_eq_ok_iff, hsize, hround]
        · simp [allocate_eq_refused_iff, hsize, hround]
  · obtain ⟨hsize, pages, hround, -, rfl⟩ := allocate_eq_ok_iff.mp hregion
    -- Neither writing nor sealing changes the two lengths.
    have hpages : ∀ written, (Extent.mk size pages written).OnPages m size := fun written =>
      onPages_of_roundUp hpage hsize hround
    refine ⟨hpages _, fun bytes => ⟨hpages _, fun host =>
      ⟨?_, fun reason => makeExecutable_eq_protect_iff, fun executable hseal => ?_⟩⟩⟩
    · simp only [makeExecutable_eq_ok_iff, exists_and_left, exists_eq', and_true]
      exact Iff.rfl
    · obtain ⟨-, rfl⟩ := makeExecutable_eq_ok_iff.mp hseal
      exact hpages _

/-- Where pages have 4096 bytes: one byte more than a page, the last length that can be rounded up,
and the one after it. -/
theorem allocate_whole_pages_at_end :
    Machine.Amd64.host.pageSize.toNat.isPowerOfTwo
      ∧ (∃ region, (allocate Machine.Amd64.host 4097).result = .ok region
        ∧ region.extent.OnPages Machine.Amd64.host 4097
        ∧ ∃ executable, ((region.write [0xc3]).makeExecutable Machine.Amd64.host).result
          = .ok executable ∧ executable.extent.OnPages Machine.Amd64.host 4097)
      ∧ Machine.Amd64.host.roundUp 0xfffffffffffff000 = some 0xfffffffffffff000
      ∧ (allocate Machine.Amd64.host 0xfffffffffffff001).result = .error (.alloc .tooLarge) := by
  have hpage : Machine.Amd64.host.pageSize.toNat.isPowerOfTwo := ⟨12, by decide⟩
  obtain ⟨hround, -, -, hallocate⟩ := allocate_whole_pages hpage
  have hlast : Machine.Amd64.host.roundUp 0xfffffffffffff000 = some 0xfffffffffffff000 :=
    (hround _ _).mpr ((Machine.isLeast_enoughPages_iff (by decide)).mpr
      ⟨by decide, by decide, by decide⟩)
  have hregion : (allocate Machine.Amd64.host 4097).result = .ok ⟨⟨4097, 8192, []⟩⟩ := by decide
  obtain ⟨hon, hwritten⟩ := (hallocate 4097).2.2.2 _ hregion
  obtain ⟨-, hsealed⟩ := hwritten [0xc3]
  obtain ⟨hpermitted, -, hexecutable⟩ := hsealed Machine.Amd64.host
  obtain ⟨executable, hseal⟩ := hpermitted.mpr rfl
  exact ⟨hpage, ⟨_, hregion, hon, executable, hseal, hexecutable _ hseal⟩, hlast,
    (hallocate _).2.1.mpr (by decide)⟩

end WritableRegion

end Code

end Confine

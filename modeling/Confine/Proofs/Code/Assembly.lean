import Confine.Machine.Amd64
import Confine.Proofs.Code.Region
import Confine.Proofs.Hex.Writing

set_option autoImplicit false

/-! # From listings to blocks and back

Between a listing and the block that is assembled from it lies a region of whole pages, which is
longer than the code in nearly every case. `Machine.GrantsPages` says how many pages some code needs
and that the host grants them: it maps them, and it seals them once the code is there. Then the
block holds what the listing names, to the byte, and what is written of the block assembles to the
same code again (`assemble_decodes`).

A block that was assembled can be called, so that a listing has an outcome, `Machine.listedOutcome`,
in which neither the architecture nor the backend occurs (`assemble_execute_result`).
-/

namespace Confine

/-! ## Pages -/

/-- **The pages that some bytes need are granted**: `n` pages are enough for `len` bytes, fewer
would not do, their length is within the reach of 64 bits, and the host maps them and makes them
executable. -/
structure Machine.GrantsPages (m : Machine) (len n : Nat) : Prop where
  enough : len ≤ n * m.pageSize.toNat
  least : n * m.pageSize.toNat < len + m.pageSize.toNat
  fits : len + m.pageSize.toNat ≤ UInt64.size
  mapped : m.map (UInt64.ofNat (n * m.pageSize.toNat)) = .ok ()
  sealed : m.protect (UInt64.ofNat (n * m.pageSize.toNat)) = .ok ()

namespace Machine

variable {m : Machine} {len n : Nat} {pages : UInt64}

/-- A number of bytes is rounded up to the fewest pages that are enough for it, if the sum on the
way fits. -/
theorem roundUp_eq_some_iff (hpos : 0 < len) (hlen : len < UInt64.size) :
    m.roundUp (UInt64.ofNat len) = some pages ↔ ∃ n, len ≤ n * m.pageSize.toNat
      ∧ n * m.pageSize.toNat < len + m.pageSize.toNat ∧ len + m.pageSize.toNat ≤ UInt64.size
      ∧ pages = UInt64.ofNat (n * m.pageSize.toNat) := by
  have hreach : (UInt64.ofNat len).toNat = len := UInt64.toNat_ofNat_of_lt' hlen
  by_cases hzero : m.pageSize.toNat = 0
  · -- Pages of no bytes are enough for nothing.
    have hlast : (m.pageSize - 1).toNat = UInt64.size - 1 := by
      rw [UInt64.toNat_inj.mp (hzero.trans UInt64.toNat_zero.symm)]
      rfl
    rw [roundUp, hreach, hlast, if_neg (by omega)]
    simp only [hzero, Nat.mul_zero]
    refine iff_of_false (by simp) ?_
    rintro ⟨n, henough, -⟩
    omega
  have hpage := Nat.pos_of_ne_zero hzero
  rw [roundUp_eq_some_iff_of_pos hpage, isLeast_enoughPages_iff hpage, hreach]
  constructor
  · rintro ⟨hfits, hdvd, henough, hleast⟩
    refine ⟨pages.toNat / m.pageSize.toNat, ?_⟩
    rw [Nat.div_mul_cancel hdvd]
    exact ⟨henough, hleast, hfits, UInt64.ofNat_toNat.symm⟩
  · rintro ⟨n, henough, hleast, hfits, rfl⟩
    rw [UInt64.toNat_ofNat_of_lt' (Nat.lt_of_lt_of_le hleast hfits)]
    exact ⟨hfits, Nat.dvd_mul_left _ _, henough, hleast⟩

/-- A number of bytes is mapped on the fewest pages that are enough for it, if the host maps
these. -/
theorem mapping_eq_ok_iff (hpos : 0 < len) :
    m.mapping len = .ok pages ↔ ∃ n, len ≤ n * m.pageSize.toNat
      ∧ n * m.pageSize.toNat < len + m.pageSize.toNat ∧ len + m.pageSize.toNat ≤ UInt64.size
      ∧ pages = UInt64.ofNat (n * m.pageSize.toNat) ∧ m.map pages = .ok () := by
  by_cases hlen : len < UInt64.size
  swap
  · rw [mapping, if_pos (Nat.le_of_not_lt hlen)]
    refine iff_of_false (by simp) ?_
    rintro ⟨n, henough, hleast, hfits, -⟩
    omega
  rw [mapping, if_neg (Nat.not_le_of_lt hlen)]
  constructor
  · intro h
    cases hr : m.roundUp (UInt64.ofNat len) with
    | none =>
        rw [hr] at h
        cases h
    | some reserved =>
        rw [hr] at h
        dsimp only at h
        obtain ⟨n, henough, hleast, hfits, rfl⟩ := (roundUp_eq_some_iff hpos hlen).mp hr
        cases hg : m.map (UInt64.ofNat (n * m.pageSize.toNat)) with
        | error reason =>
            rw [hg] at h
            cases h
        | ok done =>
            rw [hg] at h
            cases h
            exact ⟨n, henough, hleast, hfits, rfl, hg⟩
  · rintro ⟨n, henough, hleast, hfits, rfl, hmap⟩
    rw [(roundUp_eq_some_iff hpos hlen).mpr ⟨n, henough, hleast, hfits, rfl⟩]
    simp only [hmap]

/-- **Some bytes are loaded** exactly if the pages for them are granted. -/
theorem loading_eq_ok_iff_grants (hpos : 0 < len) :
    m.loading len = .ok pages ↔ ∃ n, m.GrantsPages len n
      ∧ pages = UInt64.ofNat (n * m.pageSize.toNat) := by
  rw [loading_eq_ok_iff, mapping_eq_ok_iff hpos]
  constructor
  · rintro ⟨⟨n, henough, hleast, hfits, rfl, hmap⟩, hseal⟩
    exact ⟨n, ⟨henough, hleast, hfits, hmap, hseal⟩, rfl⟩
  · rintro ⟨n, hgrant, rfl⟩
    exact ⟨⟨n, hgrant.enough, hgrant.least, hgrant.fits, rfl, hgrant.mapped⟩, hgrant.sealed⟩

/-! ## Outcomes -/

/-- **What calling some bytes without arguments comes to**: what they return, unless they are none,
no pages are mapped for them, or these are not made executable. -/
def outcome (m : Machine) (bytes : List UInt8) : Except Code.Error Int32 :=
  if bytes = [] then .error (.emptyInput .code)
  else
    match m.loading bytes.length with
    | .error cause => .error cause
    | .ok _ => .ok (m.run bytes (Call.ofArguments []))

/-- What calling the bytes that a listing names comes to. -/
def listedOutcome (m : Machine) (listing : String) : Except Code.Error Int32 :=
  match Hex.decode listing with
  | .error fault => .error (.hexParse fault)
  | .ok bytes => m.outcome bytes

end Machine

namespace Code

/-! ## What assembling yields -/

namespace Block

/-- A failure to decode is passed on. -/
theorem assemble_of_fault {listing : String} {fault : Hex.Fault}
    (h : Hex.decode listing = .error fault) (m : Machine) (architecture backend : String) :
    (assemble m architecture backend listing).result = .error (.hexParse fault) := by
  have hdecode : (decode listing).result = .error (.hexParse fault) := by
    rw [decode, h]
    rfl
  exact Attempt.bind_result_error hdecode

/-- **What a readable listing assembles to**: no bytes are refused as such, bytes that are not
loaded are refused for the reason of that, and all others end up in a block. -/
theorem assemble_of_decode {listing : String} {bytes : List UInt8}
    (h : Hex.decode listing = .ok bytes) (m : Machine) (architecture backend : String) :
    (assemble m architecture backend listing).result
      = if bytes = [] then .error (.emptyInput .code)
        else
          match m.loading bytes.length with
          | .error cause => .error cause
          | .ok pages => .ok ⟨architecture, backend, some (regionOf pages bytes)⟩ := by
  have hdecode : (decode listing).result = .ok bytes := by
    rw [decode, h]
    rfl
  have hload := load_result m bytes
  unfold assemble
  rw [Attempt.bind_result_ok hdecode]
  by_cases hb : bytes = []
  · rw [if_pos hb] at hload ⊢
    exact Attempt.bind_result_error hload
  rw [if_neg hb] at hload ⊢
  cases hm : m.loading bytes.length with
  | error cause =>
      rw [hm] at hload
      exact Attempt.bind_result_error hload
  | ok pages =>
      rw [hm] at hload
      rw [Attempt.bind_result_ok hload, Attempt.bind_result_ok (Attempt.note_result _)]
      rfl

/-- A listing whose bytes can be loaded yields the block of the region that holds them. -/
theorem assemble_of_loading {m : Machine} {listing : String} {bytes : List UInt8} {pages : UInt64}
    (h : Hex.decode listing = .ok bytes) (hb : bytes ≠ [])
    (hm : m.loading bytes.length = .ok pages) (architecture backend : String) :
    (assemble m architecture backend listing).result
      = .ok ⟨architecture, backend, some (regionOf pages bytes)⟩ := by
  rw [assemble_of_decode h, if_neg hb, hm]

theorem assemble_eq_hexParse_iff {m : Machine} {architecture backend listing : String}
    {fault : Hex.Fault} :
    (assemble m architecture backend listing).result = .error (.hexParse fault)
      ↔ Hex.decode listing = .error fault := by
  cases hd : Hex.decode listing with
  | error other =>
      rw [assemble_of_fault hd]
      simp
  | ok bytes =>
      rw [assemble_of_decode hd]
      by_cases hb : bytes = []
      · simp [hb]
      rw [if_neg hb]
      cases hm : m.loading bytes.length with
      | error cause => rcases Machine.loading_eq_error hm with ⟨other, rfl⟩ | ⟨reason, rfl⟩ <;> simp
      | ok pages => simp

theorem assemble_eq_emptyInput_iff {m : Machine} {architecture backend listing : String}
    {what : Missing} :
    (assemble m architecture backend listing).result = .error (.emptyInput what)
      ↔ what = .code ∧ Hex.decode listing = .ok [] := by
  cases hd : Hex.decode listing with
  | error fault =>
      rw [assemble_of_fault hd]
      simp
  | ok bytes =>
      rw [assemble_of_decode hd]
      by_cases hb : bytes = []
      · simp [hb, eq_comm]
      rw [if_neg hb]
      cases hm : m.loading bytes.length with
      | error cause =>
          rcases Machine.loading_eq_error hm with ⟨fault, rfl⟩ | ⟨reason, rfl⟩ <;> simp [hb]
      | ok pages => simp [hb]

/-! ## Blocks that hold what was listed -/

/-- **A block that holds some bytes**: they are its code and its size is their number, it can be
called, and they are what is written of it. -/
structure Holds (b : Block) (bytes : List UInt8) : Prop where
  code : b.code? = some bytes
  size : b.size.toNat = bytes.length
  executable : b.isExecutable = true
  dump : b.dump.result = .ok (Hex.encode bytes)

theorem holds_regionOf {m : Machine} {pages : UInt64} {bytes : List UInt8} (hb : bytes ≠ [])
    (h : m.loading bytes.length = .ok pages) (architecture backend : String) :
    (⟨architecture, backend, some (regionOf pages bytes)⟩ : Block).Holds bytes := by
  obtain ⟨hmap, -⟩ := Machine.loading_eq_ok_iff.mp h
  have hcode : (⟨architecture, backend, some (regionOf pages bytes)⟩ : Block).code? = some bytes :=
    congrArg some (regionOf_bytes hmap)
  have hlen : ¬ UInt64.size ≤ bytes.length := by
    intro hle
    rw [Machine.mapping, if_pos hle] at hmap
    cases hmap
  refine ⟨hcode, toNat_ofNat_length hlen, rfl, ?_⟩
  obtain ⟨byte, rest, rfl⟩ := List.exists_cons_of_ne_nil hb
  rw [dump, hcode]
  rfl

theorem message_eq_iff {what : Missing} : what.message = "empty code" ↔ what = .code := by
  cases what <;> decide

/-- **Assembling neither loses nor invents anything.** It fails to decode exactly the listings that
cannot be decoded, and refuses as empty exactly those without a digit. Every other listing yields a
block that holds the bytes which it names, if the pages for them are granted, however many these
are; and what is written of the block, with or without the blank at its end, yields the same code
again, on this host or on any other that grants the pages. -/
theorem assemble_decodes (m : Machine) (architecture backend text : String) :
    (∀ fault, (assemble m architecture backend text).result = .error (.hexParse fault)
        ↔ Hex.decode text = .error fault)
      ∧ (∀ what, (assemble m architecture backend text).result = .error (.emptyInput what)
        ↔ what.message = "empty code" ∧ ∀ c ∈ text.toList, c.toLower ∉ Hex.lowerDigits)
      ∧ ∀ bytes n, Hex.decode text = .ok bytes →
          (∃ c ∈ text.toList, c.toLower ∈ Hex.lowerDigits) → m.GrantsPages bytes.length n →
          ∃ block, (assemble m architecture backend text).result = .ok block
            ∧ block.Holds bytes ∧ block.architecture = architecture ∧ block.backend = backend
            ∧ ∀ listing ∈
                [Hex.encode bytes, String.ofList (Text.trimEnd (Hex.encode bytes).toList)],
                ∀ (host : Machine) k, host.GrantsPages bytes.length k →
                  ∃ again, (assemble host architecture backend listing).result = .ok again
                    ∧ again.code? = some bytes := by
  refine ⟨fun fault => assemble_eq_hexParse_iff, fun what => ?_, ?_⟩
  · rw [assemble_eq_emptyInput_iff, message_eq_iff, Hex.decode_eq_nil_iff]
  · rintro bytes n hd ⟨c, hc, hdigit⟩ hgrant
    have hb : bytes ≠ [] := by
      rintro rfl
      exact Hex.decode_eq_nil_iff text |>.mp hd c hc hdigit
    have hpos := List.length_pos_iff.mpr hb
    have hload := (Machine.loading_eq_ok_iff_grants hpos).mpr ⟨n, hgrant, rfl⟩
    have hholds := holds_regionOf hb hload architecture backend
    refine ⟨_, assemble_of_loading hd hb hload architecture backend, hholds, rfl, rfl, ?_⟩
    -- Both listings name the same bytes, and these can be loaded once more.
    intro listing hlisting host k hmore
    have hagain : Hex.decode listing = .ok bytes := by
      simp only [List.mem_cons, List.not_mem_nil, or_false] at hlisting
      rcases hlisting with rfl | rfl
      · exact Hex.decode_encode bytes
      · exact Hex.decode_trimEnd_encode bytes
    have hreload := (Machine.loading_eq_ok_iff_grants hpos).mpr ⟨k, hmore, rfl⟩
    exact ⟨_, assemble_of_loading hagain hb hreload architecture backend,
      (holds_regionOf hb hreload architecture backend).code⟩

/-- Code that is one byte longer than a page. -/
theorem assemble_decodes_two_pages :
    Machine.Amd64.host.GrantsPages (List.replicate 4097 (0x90 : UInt8)).length 2
      ∧ ∃ block, (assemble Machine.Amd64.host "x86_64" "native"
            (Hex.encode (List.replicate 4097 0x90))).result = .ok block
          ∧ block.Holds (List.replicate 4097 0x90)
          ∧ block.architecture = "x86_64" ∧ block.backend = "native" := by
  have hgrant : Machine.Amd64.host.GrantsPages (List.replicate 4097 (0x90 : UInt8)).length 2 := by
    rw [List.length_replicate]
    exact ⟨by decide, by decide, by decide, by decide, rfl⟩
  have hdigit : ∃ c ∈ (Hex.encode (List.replicate 4097 0x90)).toList,
      c.toLower ∈ Hex.lowerDigits := by
    refine ⟨'9', ?_, List.elem_iff.mp rfl⟩
    rw [Hex.encode, String.toList_ofList]
    exact List.mem_flatMap.mpr ⟨0x90, List.mem_replicate.mpr ⟨by decide, rfl⟩, by decide⟩
  obtain ⟨-, -, h⟩ := assemble_decodes Machine.Amd64.host "x86_64" "native"
    (Hex.encode (List.replicate 4097 0x90))
  obtain ⟨block, hblock, hholds, harchitecture, hbackend, -⟩ :=
    h _ 2 (Hex.decode_encode _) hdigit hgrant
  exact ⟨hgrant, block, hblock, hholds, harchitecture, hbackend⟩

/-! ## Calling what was assembled -/

/-- A block with some code is called by calling its region. -/
theorem execute_eq_invoke {b : Block} {bytes : List UInt8} (hcode : b.code? = some bytes)
    (hsize : b.size ≠ 0) : ∃ region : ExecutableRegion, region.bytes = bytes
      ∧ ∀ (m : Machine) (args : Option (List String)),
        b.execute m args = invoke m region (args.getD []) := by
  rcases b with ⟨architecture, backend, _ | region⟩
  · nomatch hcode
  · exact ⟨region, Option.some.inj hcode, fun m args => if_neg hsize⟩

theorem Holds.size_ne_zero {b : Block} {bytes : List UInt8} (h : b.Holds bytes) (hb : bytes ≠ []) :
    b.size ≠ 0 := by
  intro hzero
  have hlength := h.size
  rw [hzero] at hlength
  exact hb (List.length_eq_zero_iff.mp hlength.symm)

theorem Holds.execute {b : Block} {bytes : List UInt8} (h : b.Holds bytes) (hb : bytes ≠ [])
    (m : Machine) (args : Option (List String)) (hargs : args.getD [] = []) :
    (b.execute m args).result = .ok (m.run bytes (Machine.Call.ofArguments [])) := by
  obtain ⟨region, rfl, hexecute⟩ := execute_eq_invoke h.code (h.size_ne_zero hb)
  rw [hexecute, hargs, invoke_result]

/-- Either assembling fails and this is the outcome of the listing, or there is a block to call. -/
theorem assemble_listed (m : Machine) (architecture backend listing : String) :
    (∃ cause, (assemble m architecture backend listing).result = .error cause
        ∧ m.listedOutcome listing = .error cause)
      ∨ ∃ block bytes, (assemble m architecture backend listing).result = .ok block
        ∧ block.Holds bytes ∧ bytes ≠ []
        ∧ m.listedOutcome listing = .ok (m.run bytes (Machine.Call.ofArguments [])) := by
  unfold Machine.listedOutcome Machine.outcome
  cases hd : Hex.decode listing with
  | error fault => exact .inl ⟨_, assemble_of_fault hd m architecture backend, rfl⟩
  | ok bytes =>
      have hr := assemble_of_decode hd m architecture backend
      by_cases hb : bytes = []
      · rw [if_pos hb] at hr
        exact .inl ⟨_, hr, if_pos hb⟩
      rw [if_neg hb] at hr
      dsimp only
      rw [if_neg hb]
      cases hm : m.loading bytes.length with
      | error cause =>
          rw [hm] at hr
          exact .inl ⟨_, hr, rfl⟩
      | ok pages =>
          rw [hm] at hr
          exact .inr ⟨_, bytes, hr, holds_regionOf hb hm architecture backend, hb, rfl⟩

/-- **Assembling a listing and calling the block** gives the outcome of the listing. -/
theorem assemble_execute_result (m : Machine) (architecture backend listing : String)
    (args : Option (List String)) (hargs : args.getD [] = []) :
    (assemble m architecture backend listing >>= fun block => block.execute m args).result
      = m.listedOutcome listing := by
  rcases assemble_listed m architecture backend listing with
    ⟨cause, hr, hout⟩ | ⟨block, bytes, hr, hholds, hb, hout⟩
  · rw [Attempt.bind_result_error hr, hout]
  · rw [Attempt.bind_result_ok hr, hholds.execute hb m args hargs, hout]

end Block

end Code

end Confine

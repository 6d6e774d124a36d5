import Confine.Proofs.Limits

set_option autoImplicit false

/-! # Tighter limits make tighter plans

Limits are compared field by field, and a zero, which is no cap at all, counts as the loosest of all
(`AsTight`). A translation goes by a rule for each kind, so that it keeps this order if the rule
keeps it between caps (`asTight_ofRule`); whether a kind is enforced at all depends on the kind
only. The conversions of processor time are again what has to be looked at: the one that counts
whole seconds never gives less time than was asked for, and the one that multiplies stops at the
largest number instead of starting again at zero.
-/

namespace Confine

/-! ## The order of caps -/

/-- **As caps, `a` is at least as tight as `b`**, where zero is no cap. -/
def AsTight (a b : Nat) : Prop := b = 0 ∨ a ≠ 0 ∧ a ≤ b

instance (a b : Nat) : Decidable (AsTight a b) :=
  inferInstanceAs (Decidable (b = 0 ∨ a ≠ 0 ∧ a ≤ b))

namespace Limits

/-- **Limits that are at least as tight** as others in every field. -/
structure AsTight (A B : Limits) : Prop where
  memory : Confine.AsTight A.maxMemory.toNat B.maxMemory.toNat
  cpuTime : Confine.AsTight A.maxCpuTime.toNat B.maxCpuTime.toNat
  openFiles : Confine.AsTight A.maxFiles.toNat B.maxFiles.toNat
  processes : Confine.AsTight A.maxProcesses.toNat B.maxProcesses.toNat

theorem AsTight.get {A B : Limits} (h : A.AsTight B) (k : LimitKind) :
    Confine.AsTight (A.get k).toNat (B.get k).toNat := by
  cases k with
  | memory => exact h.memory
  | cpuTime => exact h.cpuTime
  | openFiles =>
      have hfiles := h.openFiles
      rwa [← UInt32.toNat_toUInt64, ← UInt32.toNat_toUInt64] at hfiles
  | processes =>
      have hprocesses := h.processes
      rwa [← UInt32.toNat_toUInt64, ← UInt32.toNat_toUInt64] at hprocesses

end Limits

namespace Plan

/-- What a plan enforces for a kind; zero if it enforces nothing. -/
def cap (p : Plan) (k : LimitKind) : Nat := (p.get? k).elim 0 UInt64.toNat

/-- **A plan that is at least as tight** as another one for every kind. -/
def AsTight (p q : Plan) : Prop := ∀ k, Confine.AsTight (p.cap k) (q.cap k)

/-! ## Translations by a rule -/

section Rules

variable {rule : LimitKind → UInt64 → Option UInt64} {l : Limits} {k : LimitKind}

theorem mem_settings_ofRule {v : UInt64} :
    ⟨k, v⟩ ∈ (ofRule rule l).settings ↔ l.get k ≠ 0 ∧ rule k (l.get k) = some v := by
  rw [Limits.get_ne_zero_iff, ← Limits.mem_configured]
  simp [ofRule]

/-- **What a translation enforces**: what the rule makes of the cap, if there is one. -/
theorem get?_ofRule_eq_some_iff {v : UInt64} :
    (ofRule rule l).get? k = some v ↔ l.get k ≠ 0 ∧ rule k (l.get k) = some v := by
  have hnodup : (ofRule rule l).kinds.Nodup := by
    rw [kinds_ofRule]
    exact l.nodup_configured.filter _
  rw [get?_eq_some_iff hnodup, mem_settings_ofRule]

theorem get?_ofRule (h : l.get k ≠ 0) : (ofRule rule l).get? k = rule k (l.get k) := by
  refine Option.ext fun v => ?_
  rw [get?_ofRule_eq_some_iff]
  exact and_iff_right h

theorem cap_ofRule_of_uncapped (h : l.get k = 0) : (ofRule rule l).cap k = 0 := by
  have hnone : (ofRule rule l).get? k = none := by
    refine Option.eq_none_iff_forall_ne_some.mpr fun v hv => ?_
    exact (get?_ofRule_eq_some_iff.mp hv).1 h
  rw [cap, hnone]
  rfl

/-- A rule that makes of a tighter cap something at least as tight. -/
def KeepsOrder (rule : LimitKind → UInt64 → Option UInt64) : Prop :=
  ∀ k a b, a ≠ 0 → a ≤ b →
    Confine.AsTight ((rule k a).elim 0 UInt64.toNat) ((rule k b).elim 0 UInt64.toNat)

/-- **A translation by a rule that keeps the order keeps the order.** -/
theorem asTight_ofRule (hrule : KeepsOrder rule) {A B : Limits} (h : A.AsTight B) :
    (ofRule rule A).AsTight (ofRule rule B) := by
  intro k
  by_cases hB : B.get k = 0
  · exact .inl (cap_ofRule_of_uncapped hB)
  · have hpos : (B.get k).toNat ≠ 0 := fun hzero => hB (UInt64.toNat_inj.mp hzero)
    obtain ⟨hne, hle⟩ := (h.get k).resolve_left hpos
    have hA : A.get k ≠ 0 := fun hzero => hne (by rw [hzero]; rfl)
    rw [cap, cap, get?_ofRule hA, get?_ofRule hB]
    exact hrule k _ _ hA (UInt64.le_iff_toNat_le.mpr hle)

end Rules

/-! ## The platforms -/

/-- A number is at least as tight as a larger one, unless it is zero. -/
theorem asTight_of_le {a b : UInt64} (ha : a ≠ 0) (hab : a ≤ b) :
    Confine.AsTight a.toNat b.toNat :=
  .inr ⟨fun hzero => ha (UInt64.toNat_inj.mp hzero), UInt64.le_iff_toNat_le.mp hab⟩

/-- The product that stops at the largest number. -/
theorem toNat_saturatingMul (a b : UInt64) :
    (saturatingMul a b).toNat = min (a.toNat * b.toNat) (2 ^ 64 - 1) := by
  unfold saturatingMul
  by_cases h : a.toNat * b.toNat < UInt64.size
  · have hle : a.toNat * b.toNat ≤ 2 ^ 64 - 1 := Nat.le_sub_one_of_lt h
    rw [if_pos h, UInt64.toNat_mul, Nat.mod_eq_of_lt h, Nat.min_eq_left hle]
  · have hge : 2 ^ 64 - 1 ≤ a.toNat * b.toNat :=
      (Nat.sub_le _ _).trans (Nat.le_of_not_lt h)
    rw [if_neg h, Nat.min_eq_right hge]
    rfl

theorem keepsOrder_posixRule (countsProcesses : Bool) : KeepsOrder (posixRule countsProcesses) := by
  intro k a b ha hab
  cases k with
  | memory | openFiles => exact asTight_of_le ha hab
  | cpuTime =>
      refine asTight_of_le (wholeSeconds_ne_zero a) (UInt64.le_iff_toNat_le.mpr ?_)
      rw [toNat_wholeSeconds, toNat_wholeSeconds]
      exact Nat.succ_le_succ (Nat.div_le_div_right (UInt64.le_iff_toNat_le.mp hab))
  | processes =>
      cases countsProcesses with
      | false => exact .inl rfl
      | true => exact asTight_of_le ha hab

theorem keepsOrder_jobObjectRule : KeepsOrder jobObjectRule := by
  intro k a b ha hab
  cases k with
  | memory | processes => exact asTight_of_le ha hab
  | openFiles => exact .inl rfl
  | cpuTime =>
      refine asTight_of_le (saturatingMul_ne_zero ha (by decide)) (UInt64.le_iff_toNat_le.mpr ?_)
      have hmul := Nat.mul_le_mul_right (10000 : UInt64).toNat (UInt64.le_iff_toNat_le.mp hab)
      rw [toNat_saturatingMul, toNat_saturatingMul]
      omega

/-- **The translations keep the order of limits.** Limits that are at least as tight in every field
have plans that are at least as tight for every kind. A cap on processor time becomes the least
number of whole seconds above it, or the number of units of 100 ns in it, cut off at the largest
number there is. All other caps are enforced as they are, except for processes where these are not
counted, and for open files in job objects. -/
theorem plans_keep_order :
    (∀ A B : Limits, A.AsTight B →
        (∀ countsProcesses, (posix countsProcesses A).AsTight (posix countsProcesses B))
          ∧ (jobObject A).AsTight (jobObject B))
      ∧ (∀ l : Limits, l.maxCpuTime ≠ 0 →
        (∀ countsProcesses, ∃ v, (posix countsProcesses l).get? .cpuTime = some v
            ∧ l.maxCpuTime.toNat < 1000 * v.toNat
            ∧ 1000 * v.toNat ≤ l.maxCpuTime.toNat + 1000)
          ∧ ∃ v, (jobObject l).get? .cpuTime = some v
            ∧ v.toNat = min (10000 * l.maxCpuTime.toNat) (2 ^ 64 - 1))
      ∧ ∀ (l : Limits) (k : LimitKind), l.Caps k → k ≠ .cpuTime →
        (∀ countsProcesses, (k = .processes → countsProcesses = true) →
            (posix countsProcesses l).get? k = some (l.get k))
          ∧ (k ≠ .openFiles → (jobObject l).get? k = some (l.get k)) := by
  simp only [posix_eq_ofRule, jobObject_eq_ofRule]
  refine ⟨fun A B h => ?_, fun l hcap => ?_, fun l k hcap hk => ?_⟩
  · exact ⟨fun countsProcesses => asTight_ofRule (keepsOrder_posixRule countsProcesses) h,
      asTight_ofRule keepsOrder_jobObjectRule h⟩
  · have hget : l.get .cpuTime ≠ 0 := hcap
    refine ⟨fun countsProcesses => ⟨_, get?_ofRule hget, ?_⟩, _, get?_ofRule hget, ?_⟩
    · show l.maxCpuTime.toNat < 1000 * (wholeSeconds l.maxCpuTime).toNat
        ∧ 1000 * (wholeSeconds l.maxCpuTime).toNat ≤ l.maxCpuTime.toNat + 1000
      rw [toNat_wholeSeconds]
      omega
    · show (saturatingMul l.maxCpuTime 10000).toNat = _
      rw [toNat_saturatingMul, Nat.mul_comm]
      rfl
  · have hget := Limits.get_ne_zero_iff.mpr hcap
    constructor
    · intro countsProcesses hcounts
      rw [get?_ofRule hget]
      cases k with
      | memory | openFiles => rfl
      | cpuTime => exact absurd rfl hk
      | processes =>
          rw [hcounts rfl]
          rfl
    · intro hfiles
      rw [get?_ofRule hget]
      cases k with
      | memory | processes => rfl
      | cpuTime => exact absurd rfl hk
      | openFiles => exact absurd rfl hfiles

/-- Limits of which one field is tighter, one is the only cap, and one is a full number of seconds,
and a cap on processor time that is too large to be counted in units of 100 ns. -/
theorem plans_keep_order_of_tighter :
    (posix true { maxMemory := 4096, maxCpuTime := 2000, maxProcesses := 3 }).AsTight
        (posix true { maxMemory := 8192, maxCpuTime := 2999 })
      ∧ (jobObject { maxMemory := 4096, maxCpuTime := 2000, maxProcesses := 3 }).AsTight
        (jobObject { maxMemory := 8192, maxCpuTime := 2999 })
      ∧ (∃ v, (jobObject { maxCpuTime := 18446744073709551615 }).get? .cpuTime = some v
        ∧ v.toNat = 2 ^ 64 - 1)
      ∧ (posix true { maxMemory := 4096, maxCpuTime := 2000, maxProcesses := 3 }).get? .processes
        = some 3 := by
  obtain ⟨horder, hcpuTime, hothers⟩ := plans_keep_order
  have htight : Limits.AsTight { maxMemory := 4096, maxCpuTime := 2000, maxProcesses := 3 }
      { maxMemory := 8192, maxCpuTime := 2999 } := by
    constructor <;> decide
  obtain ⟨hposix, hjob⟩ := horder _ _ htight
  have hcaps : Limits.Caps { maxMemory := 4096, maxCpuTime := 2000, maxProcesses := 3 }
      .processes := by
    show (3 : UInt32) ≠ 0
    decide
  exact ⟨hposix true, hjob,
    (hcpuTime { maxCpuTime := 18446744073709551615 } (by decide)).2,
    (hothers _ .processes hcaps (by decide)).1 true fun _ => rfl⟩

end Plan

end Confine

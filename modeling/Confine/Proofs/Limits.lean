import Confine.Limits
import Mathlib

set_option autoImplicit false

/-! # No limit gets lost

A platform translates limits into a plan, and `Plan.Accounts` says that such a plan accounts for
them: every field that caps a resource appears in it exactly once, among the settings or among the
kinds that cannot be enforced, and no other field appears.

The list of what is configured and the two translations each test the four fields on their own. That
they are aligned is a theorem: a translation goes by a rule, which says what becomes of each kind
that is configured (`posix_eq_ofRule`, `jobObject_eq_ofRule`). A rule accounts for all limits as
long as it never turns a cap into zero, which would take the resource away instead of capping it
(`accounts_ofRule`). The conversions of processor time are where that could happen: one divides and
the other multiplies.
-/

namespace Confine

/-! ## Fields -/

namespace Limits

variable {l : Limits} {k : LimitKind}

/-- The cap of a kind, widened to 64 bits. -/
def get (l : Limits) : LimitKind → UInt64
  | .memory => l.maxMemory
  | .cpuTime => l.maxCpuTime
  | .openFiles => l.maxFiles.toUInt64
  | .processes => l.maxProcesses.toUInt64

/-- Whether the field of a kind carries a cap. -/
def Caps (l : Limits) : LimitKind → Prop
  | .memory => l.maxMemory ≠ 0
  | .cpuTime => l.maxCpuTime ≠ 0
  | .openFiles => l.maxFiles ≠ 0
  | .processes => l.maxProcesses ≠ 0

instance (l : Limits) : DecidablePred l.Caps
  | .memory => inferInstanceAs (Decidable (l.maxMemory ≠ 0))
  | .cpuTime => inferInstanceAs (Decidable (l.maxCpuTime ≠ 0))
  | .openFiles => inferInstanceAs (Decidable (l.maxFiles ≠ 0))
  | .processes => inferInstanceAs (Decidable (l.maxProcesses ≠ 0))

/-- Widening a number to 64 bits keeps it from being zero. -/
theorem toUInt64_ne_zero_iff {n : UInt32} : n.toUInt64 ≠ 0 ↔ n ≠ 0 := by
  rw [ne_eq, ← UInt64.toNat_inj, UInt32.toNat_toUInt64, ne_eq, ← UInt32.toNat_inj]
  rfl

theorem get_ne_zero_iff : l.get k ≠ 0 ↔ l.Caps k := by
  cases k with
  | memory | cpuTime => rfl
  | openFiles | processes => exact toUInt64_ne_zero_iff

/-- Kinds that are tested one after another and collected. -/
theorem foldl_collect (l : Limits) (ks kinds : List LimitKind) :
    ks.foldl (fun kinds k => if l.Caps k then kinds ++ [k] else kinds) kinds
      = kinds ++ ks.filter fun k => l.Caps k := by
  induction ks generalizing kinds with
  | nil => exact (List.append_nil kinds).symm
  | cons k ks ih =>
      rw [List.foldl_cons, ih]
      by_cases hk : l.Caps k
      · simp [hk]
      · simp [hk]

/-- **What is configured** are the kinds whose fields carry a cap, in order. -/
theorem configured_eq_filter (l : Limits) :
    l.configured = LimitKind.all.filter fun k => l.Caps k := by
  have hchain : l.configured
      = LimitKind.all.foldl (fun kinds k => if l.Caps k then kinds ++ [k] else kinds) [] := rfl
  rw [hchain, foldl_collect, List.nil_append]

theorem mem_configured : k ∈ l.configured ↔ l.Caps k := by
  have hall : k ∈ LimitKind.all := by cases k <;> decide
  rw [configured_eq_filter, List.mem_filter, decide_eq_true_iff]
  exact and_iff_right hall

theorem configured_sublist (l : Limits) : l.configured.Sublist LimitKind.all := by
  rw [configured_eq_filter]
  exact List.filter_sublist

theorem nodup_configured (l : Limits) : l.configured.Nodup :=
  l.configured_sublist.nodup (by decide)

end Limits

/-! ## Plans -/

namespace Plan

/-- The kinds that a plan enforces. -/
def kinds (p : Plan) : List LimitKind :=
  p.settings.map Setting.kind

/-- **A plan that accounts for limits.** -/
structure Accounts (p : Plan) (l : Limits) : Prop where
  /-- What is enforced and what is ignored are together what is configured. -/
  perm : (p.kinds ++ p.ignored).Perm l.configured
  nodup : (p.kinds ++ p.ignored).Nodup
  /-- A field with a cap is enforced or ignored, and not both. -/
  capped : ∀ k, l.Caps k → Xor (k ∈ p.kinds) (k ∈ p.ignored)
  /-- A field without a cap is neither enforced nor ignored. -/
  uncapped : ∀ k, ¬ l.Caps k → k ∉ p.kinds ∧ k ∉ p.ignored
  ordered : p.kinds.Sublist LimitKind.all
  /-- Nothing is taken away altogether. -/
  nonzero : ∀ s ∈ p.settings, s.value ≠ 0
  get?_iff : ∀ k v, p.get? k = some v ↔ ⟨k, v⟩ ∈ p.settings
  unbounded : l.isUnbounded = true ↔ p.settings = [] ∧ p.ignored = []

section Settings

variable {p : Plan} {k : LimitKind} {v : UInt64}

theorem of_find?_eq_some {s : Setting} (h : (p.settings.find? fun s => s.kind == k) = some s) :
    s ∈ p.settings ∧ s.kind = k := by
  have hkind := List.find?_some h
  exact ⟨List.mem_of_find?_eq_some h, beq_iff_eq.mp hkind⟩

/-- A plan with one setting for a kind gives the value of that setting. -/
theorem get?_eq_some_iff (hnodup : p.kinds.Nodup) : p.get? k = some v ↔ ⟨k, v⟩ ∈ p.settings := by
  unfold get?
  rw [Option.map_eq_some_iff]
  constructor
  · rintro ⟨s, hfind, rfl⟩
    obtain ⟨hs, rfl⟩ := of_find?_eq_some hfind
    exact hs
  · intro hmem
    have hsome : (p.settings.find? fun s => s.kind == k).isSome :=
      List.find?_isSome.mpr ⟨_, hmem, beq_self_eq_true k⟩
    obtain ⟨s, hfind⟩ := Option.isSome_iff_exists.mp hsome
    obtain ⟨hs, hkind⟩ := of_find?_eq_some hfind
    -- There is no second setting of this kind.
    have heq : s = ⟨k, v⟩ := List.inj_on_of_nodup_map hnodup hs hmem hkind
    exact ⟨s, hfind, congrArg Setting.value heq⟩

end Settings

/-! ## Translations by a rule -/

/-- The plan that treats each configured kind by `rule`: a value to enforce, or `none` for a kind
that the platform cannot enforce. -/
def ofRule (rule : LimitKind → UInt64 → Option UInt64) (l : Limits) : Plan where
  settings := l.configured.filterMap fun k => (rule k (l.get k)).map fun v => ⟨k, v⟩
  ignored := l.configured.filter fun k => (rule k (l.get k)).isNone

/-- The rule of a platform with per-process limits. -/
def posixRule (countsProcesses : Bool) : LimitKind → UInt64 → Option UInt64
  | .memory, v => some v
  | .cpuTime, v => some (wholeSeconds v)
  | .openFiles, v => some v
  | .processes, v => if countsProcesses then some v else none

/-- The rule of a platform with job objects. -/
def jobObjectRule : LimitKind → UInt64 → Option UInt64
  | .memory, v => some v
  | .cpuTime, v => some (saturatingMul v 10000)
  | .openFiles, _ => none
  | .processes, v => some v

section Rules

variable {rule : LimitKind → UInt64 → Option UInt64} {l : Limits}

/-- One test of a translation by a rule: the plan after it. -/
def treat (rule : LimitKind → UInt64 → Option UInt64) (l : Limits) (p : Plan) (k : LimitKind) :
    Plan :=
  if l.Caps k then
    match rule k (l.get k) with
    | some value => p.push k value
    | none => p.ignore k
  else p

/-- Kinds that are tested one after another and translated. -/
theorem foldl_treat (rule : LimitKind → UInt64 → Option UInt64) (l : Limits)
    (ks : List LimitKind) (p : Plan) :
    ks.foldl (treat rule l) p
      = ⟨p.settings ++ (ks.filter fun k => l.Caps k).filterMap fun k =>
            (rule k (l.get k)).map fun v => ⟨k, v⟩,
          p.ignored ++ (ks.filter fun k => l.Caps k).filter fun k =>
            (rule k (l.get k)).isNone⟩ := by
  induction ks generalizing p with
  | nil => simp
  | cons k ks ih =>
      rw [List.foldl_cons, ih, treat]
      by_cases hk : l.Caps k
      · rw [if_pos hk]
        cases hr : rule k (l.get k) with
        | some value => simp [hk, hr, push]
        | none => simp [hk, hr, ignore]
      · simp [hk]

/-- **A chain of tests, one for each kind in order, is a translation by the rule.** -/
theorem foldl_treat_eq_ofRule (rule : LimitKind → UInt64 → Option UInt64) (l : Limits) :
    LimitKind.all.foldl (treat rule l) {} = ofRule rule l := by
  rw [foldl_treat, ofRule, Limits.configured_eq_filter]
  rfl

theorem posix_eq_ofRule (countsProcesses : Bool) (l : Limits) :
    posix countsProcesses l = ofRule (posixRule countsProcesses) l := by
  rw [← foldl_treat_eq_ofRule]
  cases countsProcesses <;> rfl

theorem jobObject_eq_ofRule (l : Limits) : jobObject l = ofRule jobObjectRule l := by
  rw [← foldl_treat_eq_ofRule]
  rfl

/-- A kind is enforced if there is a value for it. -/
theorem kinds_ofRule (rule : LimitKind → UInt64 → Option UInt64) (l : Limits) :
    (ofRule rule l).kinds = l.configured.filter fun k => (rule k (l.get k)).isSome := by
  unfold kinds ofRule
  dsimp only
  induction l.configured with
  | nil => rfl
  | cons k ks ih =>
      cases h : rule k (l.get k) with
      | none => simp [h, ih]
      | some v => simp [h, ih]

theorem perm_ofRule (rule : LimitKind → UInt64 → Option UInt64) (l : Limits) :
    ((ofRule rule l).kinds ++ (ofRule rule l).ignored).Perm l.configured := by
  have hignored : (ofRule rule l).ignored
      = l.configured.filter fun k => !(rule k (l.get k)).isSome := by
    simp only [ofRule, Option.not_isSome]
  rw [kinds_ofRule, hignored]
  exact List.filter_append_perm _ _

theorem value_ne_zero_of_mem (hrule : ∀ k v, v ≠ 0 → rule k v ≠ some 0) {s : Setting}
    (hs : s ∈ (ofRule rule l).settings) : s.value ≠ 0 := by
  obtain ⟨k, hk, hvalue⟩ := List.mem_filterMap.mp hs
  obtain ⟨v, hv, rfl⟩ := Option.map_eq_some_iff.mp hvalue
  have hcap := Limits.get_ne_zero_iff.mpr (Limits.mem_configured.mp hk)
  rintro rfl
  exact hrule k _ hcap hv

/-- **A rule that never yields zero accounts for all limits.** -/
theorem accounts_ofRule (hrule : ∀ k v, v ≠ 0 → rule k v ≠ some 0) (l : Limits) :
    (ofRule rule l).Accounts l := by
  have hperm := perm_ofRule rule l
  have hnodup := hperm.nodup_iff.mpr l.nodup_configured
  have hmem : ∀ k, k ∈ (ofRule rule l).kinds ∨ k ∈ (ofRule rule l).ignored ↔ l.Caps k := by
    intro k
    rw [← List.mem_append, hperm.mem_iff, Limits.mem_configured]
  refine ⟨hperm, hnodup, fun k hk => ?_, fun k hk => ?_, ?_, fun s => value_ne_zero_of_mem hrule,
    fun k v => get?_eq_some_iff hnodup.of_append_left, ?_⟩
  · have hdisjoint := List.disjoint_of_nodup_append hnodup
    rcases (hmem k).mpr hk with h | h
    · exact .inl ⟨h, fun h' => hdisjoint h h'⟩
    · exact .inr ⟨h, fun h' => hdisjoint h' h⟩
  · exact not_or.mp (mt (hmem k).mp hk)
  · rw [kinds_ofRule]
    exact List.filter_sublist.trans l.configured_sublist
  · rw [Limits.isUnbounded, List.isEmpty_iff, ← List.map_eq_nil_iff (f := Setting.kind),
      ← List.append_eq_nil_iff]
    exact ⟨fun h => List.perm_nil.mp (h ▸ hperm), fun h => List.nil_perm.mp (h ▸ hperm)⟩

end Rules

/-! ## The platforms -/

/-- Whole seconds are counted without overflow, and one more than there are. -/
theorem toNat_wholeSeconds (milliseconds : UInt64) :
    (wholeSeconds milliseconds).toNat = milliseconds.toNat / 1000 + 1 := by
  have hlt := milliseconds.toNat_lt
  rw [wholeSeconds, UInt64.toNat_add, UInt64.toNat_div]
  show (milliseconds.toNat / 1000 + 1) % 2 ^ 64 = _
  omega

theorem wholeSeconds_ne_zero (milliseconds : UInt64) : wholeSeconds milliseconds ≠ 0 := by
  intro h
  have hsucc := toNat_wholeSeconds milliseconds
  rw [h, UInt64.toNat_zero] at hsucc
  omega

theorem saturatingMul_ne_zero {a b : UInt64} (ha : a ≠ 0) (hb : b ≠ 0) : saturatingMul a b ≠ 0 := by
  have hpos : 0 < a.toNat * b.toNat := by
    refine Nat.mul_pos (Nat.pos_of_ne_zero fun h => ?_) (Nat.pos_of_ne_zero fun h => ?_)
    · exact ha (UInt64.toNat_inj.mp h)
    · exact hb (UInt64.toNat_inj.mp h)
  unfold saturatingMul
  by_cases h : a.toNat * b.toNat < UInt64.size
  · rw [if_pos h]
    intro hzero
    have hmod := congrArg UInt64.toNat hzero
    rw [UInt64.toNat_mul, Nat.mod_eq_of_lt h, UInt64.toNat_zero] at hmod
    omega
  · rw [if_neg h]
    decide

theorem accounts_posix (countsProcesses : Bool) (l : Limits) :
    (posix countsProcesses l).Accounts l := by
  rw [posix_eq_ofRule]
  apply accounts_ofRule
  intro k v hv
  cases k with
  | memory | openFiles => exact mt Option.some.inj hv
  | cpuTime => exact mt Option.some.inj (wholeSeconds_ne_zero v)
  | processes =>
      cases countsProcesses with
      | false => exact (Option.some_ne_none 0).symm
      | true => exact mt Option.some.inj hv

theorem accounts_jobObject (l : Limits) : (jobObject l).Accounts l := by
  rw [jobObject_eq_ofRule]
  apply accounts_ofRule
  intro k v hv
  cases k with
  | memory | processes => exact mt Option.some.inj hv
  | cpuTime => exact mt Option.some.inj (saturatingMul_ne_zero hv (by decide))
  | openFiles => exact (Option.some_ne_none 0).symm

/-- Where processes can be counted, everything can be enforced. -/
theorem ignored_native (l : Limits) : (native l).ignored = [] := by
  rw [native, posix_eq_ofRule]
  refine List.filter_eq_nil_iff.mpr fun k _ => ?_
  cases k <;> exact Bool.false_ne_true

end Plan

end Confine

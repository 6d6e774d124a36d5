import Confine.Proofs.Sandbox.Recollection
import Confine.Proofs.Sandbox.Snapshot

set_option autoImplicit false

/-! # What a summary tells

A summary accounts for a whole supervision: which process was started, how it ended, and what
was seen of its usage meanwhile. `Summary.Truthful` says what each of these has to be.

Two things are followed through the loop, each on its own. The tally is compared with what the looks
have read (`Tally.Counts`), which has nothing to do with the child. The child is owned for as long
as the loop goes on, and the loop is only left once its exit is known (`Watches.ends`); this is why
a summary never lacks an exit.
-/

namespace Confine.Sandbox

variable {σ : Type}

/-! ## Tallies -/

/-- The largest of these numbers, which is zero if there are none. -/
def Largest (peak : UInt64) (xs : List UInt64) : Prop :=
  (∀ x ∈ xs, x ≤ peak) ∧ (peak ∈ xs ∨ xs = [] ∧ peak = 0)

section Peaks

variable {peak : UInt64} {xs : List UInt64}

theorem larger_cases (a b : UInt64) : a ≤ b ∧ max a b = b ∨ b ≤ a ∧ max a b = a := by
  by_cases h : a ≤ b
  · exact .inl ⟨h, if_pos h⟩
  · exact .inr ⟨(UInt64.le_total a b).resolve_left h, if_neg h⟩

theorem larger_zero (a : UInt64) : max a 0 = a := by
  rcases larger_cases a 0 with ⟨hle, hmax⟩ | ⟨-, hmax⟩
  · rw [hmax, UInt64.le_zero_iff.mp hle]
  · exact hmax

theorem Largest.nil : Largest 0 [] := ⟨nofun, .inr ⟨rfl, rfl⟩⟩

theorem Largest.concat (h : Largest peak xs) (x : UInt64) :
    Largest (max peak x) (xs ++ [x]) := by
  obtain ⟨hall, hmem⟩ := h
  have hbound : ∀ bound, peak ≤ bound → x ≤ bound → ∀ y ∈ xs ++ [x], y ≤ bound := by
    intro bound hpeak hx y hy
    rcases List.mem_append.mp hy with hy | hy
    · exact UInt64.le_trans (hall y hy) hpeak
    · cases List.mem_singleton.mp hy
      exact hx
  rcases larger_cases peak x with ⟨hle, hmax⟩ | ⟨hle, hmax⟩
  · rw [hmax]
    exact ⟨hbound x hle (UInt64.le_refl x), .inl (by simp)⟩
  · rw [hmax]
    refine ⟨hbound peak (UInt64.le_refl peak) hle, .inl ?_⟩
    rcases hmem with hmem | ⟨rfl, rfl⟩
    · exact List.mem_append_left _ hmem
    · -- Nothing was there before, and the new number can only be zero.
      rw [UInt64.le_zero_iff.mp hle]
      exact List.mem_singleton_self 0

theorem Largest.eq_zero_iff (h : Largest peak xs) : peak = 0 ↔ ∀ x ∈ xs, x = 0 := by
  constructor
  · rintro rfl x hx
    exact UInt64.le_zero_iff.mp (h.1 x hx)
  · intro hall
    rcases h.2 with hmem | ⟨-, hz⟩
    · exact hall peak hmem
    · exact hz

end Peaks

/-- A look that has seen something. -/
def sawUsage (reading : UInt64 × UInt64) : Bool := reading.1 ≠ 0 ∨ reading.2 ≠ 0

/-- **The tally counts these readings**: a resident size and a processor time for each look. -/
structure Tally.Counts (t : Tally) (seen : List (UInt64 × UInt64)) : Prop where
  peakMemory : Largest t.peakMemory (seen.map Prod.fst)
  cpuTime : Largest t.cpuTime (seen.map Prod.snd)
  samples : t.samples.toNat = seen.countP sawUsage

namespace Tally.Counts

variable {t : Tally} {seen : List (UInt64 × UInt64)}

theorem nil : Counts {} [] := ⟨.nil, .nil, rfl⟩

/-- A look adds its readings, as long as the number of samples does not wrap around. -/
theorem add (h : t.Counts seen) (reading : UInt64 × UInt64) (hn : seen.length + 1 < 2 ^ 32) :
    (t.add reading.1 reading.2).Counts (seen ++ [reading]) := by
  have hm := h.peakMemory.concat reading.1
  have hc := h.cpuTime.concat reading.2
  have hle := List.countP_le_length (p := sawUsage) (l := seen)
  have hs := h.samples
  unfold Tally.add
  by_cases hsaw : reading.1 ≠ 0 ∨ reading.2 ≠ 0
  · rw [if_pos hsaw]
    refine ⟨?_, ?_, ?_⟩
    · simpa using hm
    · simpa using hc
    · rw [List.countP_append, UInt32.toNat_add, hs]
      simp [sawUsage, hsaw]
      omega
  · -- A look that has seen nothing is left out, which the zeros do not tell apart from counting it.
    rw [if_neg hsaw]
    obtain ⟨hz, hz'⟩ : reading.1 = 0 ∧ reading.2 = 0 := by simpa using hsaw
    rw [hz, larger_zero] at hm
    rw [hz', larger_zero] at hc
    refine ⟨?_, ?_, ?_⟩
    · simpa [hz] using hm
    · simpa [hz'] using hc
    · rw [List.countP_append, hs]
      simp [sawUsage, hz, hz']

/-- There are no samples just if no usage was seen. -/
theorem unsampled_iff (h : t.Counts seen) :
    t.samples = 0 ↔ t.peakMemory = 0 ∧ t.cpuTime = 0 := by
  have hs : t.samples = 0 ↔ ∀ reading ∈ seen, sawUsage reading = false := by
    rw [← UInt32.toNat_inj, h.samples]
    simp [List.countP_eq_zero]
  rw [hs, h.peakMemory.eq_zero_iff, h.cpuTime.eq_zero_iff]
  simp only [List.forall_mem_map, sawUsage, decide_eq_false_iff_not, not_or, not_not]
  exact forall₂_and

end Tally.Counts

/-! ## The loop -/

/-- What a look reads: a resident size and a processor time. -/
def glance (b : Backend σ) (s : Sandbox σ) : UInt64 × UInt64 :=
  ((s.memory b).1, ((s.memory b).2.cpuTime b).1)

/-- What the looks of the loop read, one after another. -/
def readings (b : Backend σ) (c : Clock σ) (poll : UInt64) (pid : UInt32) :
    Nat → Tally → Sandbox σ → List (UInt64 × UInt64)
  | 0, _, _ => []
  | looks + 1, t, s =>
    if c.interrupted s.world.state then []
    else
      let (t', status, s') := s.look b pid t
      match status with
      | .idle => [s.glance b]
      | .running => s.glance b :: readings b c poll pid looks t' (s'.pass c poll)

/-- What the looks of a supervision read, from the start of the command on. -/
def glances (b : Backend σ) (c : Clock σ) (looks : Nat) (command : String) (poll : UInt64)
    (s : Sandbox σ) : List (UInt64 × UInt64) :=
  match s.exec b command with
  | (.ok pid, s') => readings b c poll pid looks {} (s'.note [.started pid s'.descriptor.mode])
  | (.error _, _) => []

/-- **The loop comes to an end** in the sandbox `v`, after looks that have read `seen`. -/
inductive Watches (b : Backend σ) (c : Clock σ) (poll : UInt64) (pid : UInt32) :
    Tally → Sandbox σ → List (UInt64 × UInt64) → Except Error (Tally × Bool) → Sandbox σ → Prop
  | interrupted {t : Tally} {s v : Sandbox σ} {result : Except Error Unit}
      (hi : c.interrupted s.world.state = true) (h : s.interrupt b pid = (result, v)) :
      Watches b c poll pid t s [] (result.map fun _ => (t, true)) v
  | exited {t t' : Tally} {s v : Sandbox σ} (hi : c.interrupted s.world.state = false)
      (hl : s.look b pid t = (t', .idle, v)) :
      Watches b c poll pid t s [s.glance b] (.ok (t', false)) v
  | next {t t' : Tally} {s s' v : Sandbox σ} {seen : List (UInt64 × UInt64)}
      {result : Except Error (Tally × Bool)} (hi : c.interrupted s.world.state = false)
      (hl : s.look b pid t = (t', .running, s'))
      (hw : Watches b c poll pid t' (s'.pass c poll) seen result v) :
      Watches b c poll pid t s (s.glance b :: seen) result v

section Loop

variable {b : Backend σ} {c : Clock σ} {poll : UInt64} {pid : UInt32} {looks : Nat}
  {t t' : Tally} {s v : Sandbox σ} {seen : List (UInt64 × UInt64)}

theorem look_tally {status : Status} (hl : s.look b pid t = (t', status, v)) :
    t' = t.add (s.glance b).1 (s.glance b).2 := by
  have he : (s.look b pid t).1 = t' := by rw [hl]
  rw [← he]
  unfold look glance
  dsimp only
  cases (((s.memory b).2.cpuTime b).2.status b).1 <;> rfl

theorem watch_of_exited (hi : c.interrupted s.world.state = false)
    (hl : s.look b pid t = (t', .idle, v)) (looks : Nat) :
    s.watch b c poll pid (looks + 1) t = (some (.ok (t', false)), v) := by
  refine (if_neg (by rw [hi]; simp)).trans ?_
  rw [hl]

theorem readings_of_interrupted (hi : c.interrupted s.world.state = true) (looks : Nat) :
    readings b c poll pid (looks + 1) t s = [] :=
  if_pos hi

theorem readings_of_exited (hi : c.interrupted s.world.state = false)
    (hl : s.look b pid t = (t', .idle, v)) (looks : Nat) :
    readings b c poll pid (looks + 1) t s = [s.glance b] := by
  refine (if_neg (by rw [hi]; simp)).trans ?_
  rw [hl]

theorem readings_of_running (hi : c.interrupted s.world.state = false)
    (hl : s.look b pid t = (t', .running, v)) (looks : Nat) :
    readings b c poll pid (looks + 1) t s
      = s.glance b :: readings b c poll pid looks t' (v.pass c poll) := by
  refine (if_neg (by rw [hi]; simp)).trans ?_
  rw [hl]

/-- The loop ends as its relation says, unless it runs out of looks. -/
theorem watch_spec {result : Except Error (Tally × Bool)}
    (h : s.watch b c poll pid looks t = (some result, v)) :
    Watches b c poll pid t s (readings b c poll pid looks t s) result v := by
  induction looks generalizing t s with
  | zero => cases h
  | succ looks ih =>
      cases hi : c.interrupted s.world.state with
      | true =>
          rw [watch_of_interrupted hi] at h
          rw [readings_of_interrupted hi]
          cases h
          exact .interrupted hi rfl
      | false =>
          rcases hl : s.look b pid t with ⟨t', _ | _, s'⟩
          · rw [watch_of_exited hi hl] at h
            rw [readings_of_exited hi hl]
            cases h
            exact .exited hi hl
          · rw [watch_of_running hi hl] at h
            rw [readings_of_running hi hl]
            exact .next hi hl (ih h)

/-- The tally of a look counts what the look has read. -/
theorem Tally.Counts.look {status : Status} (h : t.Counts seen)
    (hl : s.look b pid t = (t', status, v)) (hn : seen.length + 1 < 2 ^ 32) :
    t'.Counts (seen ++ [s.glance b]) := by
  rw [look_tally hl]
  exact h.add (s.glance b) hn

/-- **The tally of the loop counts what its looks have read.** -/
theorem Watches.counts {seen' : List (UInt64 × UInt64)} {result : Except Error (Tally × Bool)}
    {stopped : Bool} (hw : Watches b c poll pid t s seen' result v)
    (hr : result = .ok (t', stopped)) (h : t.Counts seen)
    (hn : seen.length + seen'.length < 2 ^ 32) : t'.Counts (seen ++ seen') := by
  induction hw generalizing seen with
  | @interrupted t _ _ result _ _ =>
      cases result with
      | error => cases hr
      | ok =>
          cases hr
          rw [List.append_nil]
          exact h
  | exited _ hl =>
      cases hr
      exact h.look hl hn
  | next _ hl _ ih =>
      rw [List.length_cons] at hn
      rw [List.append_cons]
      refine ih hr (h.look hl (by omega)) ?_
      rw [List.length_append, List.length_singleton]
      omega

end Loop

/-! ## The end of the child -/

/-- A request that only asks how things are. -/
def Exchange.observes : Exchange → Bool
  | .tryWait _ _ | .memoryUsage _ _ | .cpuTime _ _ => true
  | _ => false

/-- **The child is gone, and its exit is known**: one of the requests has delivered it. -/
def Ended (d : Descriptor) (child : Child) (xs : List Exchange) (d' : Descriptor) : Prop :=
  ∃ report, d' = d.exited report ∧ ∃ x ∈ xs, x.Delivers child.index report

section Ends

variable {d d' : Descriptor} {child : Child} {xs : List Exchange} {t t' : Tally}

theorem started_nil_of_observes (h : ∀ x ∈ xs, x.observes = true) :
    xs.filterMap Exchange.started? = [] := by
  rw [List.filterMap_eq_nil_iff]
  intro x hx
  have hobs := h x hx
  cases x with
  | spawn | createContainer | kill | wait => cases hobs
  | tryWait | memoryUsage | cpuTime => rfl

theorem Polls.observes (hp : Polls d xs d') : ∀ x ∈ xs, x.observes = true := by
  cases hp with
  | still => nofun
  | exited | alive => exact List.forall_mem_singleton.mpr rfl

theorem Reads.observes {ask : UInt32 → UInt64 → Exchange} {amount : UInt64}
    (hx : Reads ask d xs amount d') (hask : ∀ pid amount, (ask pid amount).observes = true) :
    ∀ x ∈ xs, x.observes = true := by
  cases hx with
  | nothing hp _ => exact hp.observes
  | read hp _ _ =>
      exact List.forall_mem_append.mpr ⟨hp.observes, List.forall_mem_singleton.mpr (hask _ _)⟩

/-- A look does nothing to the child. -/
theorem Looks.observes (hx : Looks t d xs t' d') : ∀ x ∈ xs, x.observes = true := by
  cases hx with
  | mk hm hc hp =>
      have hm' := hm.observes fun _ _ => rfl
      have hc' := hc.observes fun _ _ => rfl
      exact List.forall_mem_append.mpr ⟨hm', List.forall_mem_append.mpr ⟨hc', hp.observes⟩⟩

/-- A look after which nothing runs has learnt how the child ended, by one of its three polls. -/
theorem Looks.ended (hx : Looks t d xs t' d') (h : d.Coherent) (hown : d.process = some child)
    (hs : d'.status = .idle) : Ended d child xs d' := by
  cases hx with
  | mk hm hc hp =>
      rcases hm.of_owned h hown fun _ _ => rfl with ⟨report, rfl, rfl⟩ | ⟨-, rfl⟩
      · obtain ⟨rfl, -, rfl⟩ := hc.eq_of_vacant rfl
        obtain ⟨rfl, rfl⟩ := hp.eq_of_vacant rfl
        exact ⟨report, rfl, _, by simp, .inl rfl⟩
      rcases hc.of_owned h hown fun _ _ => rfl with ⟨report, rfl, rfl⟩ | ⟨-, rfl⟩
      · obtain ⟨rfl, rfl⟩ := hp.eq_of_vacant rfl
        exact ⟨report, rfl, _, by simp, .inl rfl⟩
      rcases hp.of_owned h hown with ⟨report, rfl, rfl⟩ | ⟨answer, -, rfl, rfl⟩
      · exact ⟨report, rfl, _, by simp, .inl rfl⟩
      · rw [(h.owned child hown).1] at hs
        cases hs

/-- Stopping an owned child only succeeds if the wait delivers its exit. -/
theorem Stops.ended (hx : Stops d xs (.ok ()) d') (hown : d.process = some child) :
    Ended d child xs d' := by
  cases hx with
  | released _ hp hs hc =>
      rw [hp.eq_of_running hs, hown] at hc
      cases hc
  | reaped _ hp hs hc =>
      rw [hp.eq_of_running hs, hown] at hc
      cases hc
      rw [hp.eq_of_running hs]
      exact ⟨_, rfl, _, by simp, .inr rfl⟩

/-- The same is true of an interrupt, unless its poll finds that the child has exited. -/
theorem Interrupts.ended (hx : Interrupts d xs (.ok ()) d') (h : d.Coherent)
    (hown : d.process = some child) : Ended d child xs d' := by
  cases hx with
  | late hp hs =>
      rcases hp.of_owned h hown with ⟨report, rfl, rfl⟩ | ⟨answer, -, rfl, rfl⟩
      · exact ⟨report, rfl, _, by simp, .inl rfl⟩
      · rw [(h.owned child hown).1] at hs
        cases hs
  | stopped hp hs hst =>
      rw [hp.eq_of_running hs] at hst
      obtain ⟨report, hd, x, hx, hdel⟩ := hst.ended hown
      exact ⟨report, hd, x, List.mem_append_right _ hx, hdel⟩

theorem Interrupts.started_nil {result : Except Error Unit} (hx : Interrupts d xs result d') :
    xs.filterMap Exchange.started? = [] := by
  cases hx with
  | late hp _ => exact hp.retains.started
  | stopped hp _ hst =>
      rw [List.filterMap_append, hp.retains.started]
      exact hst.learns.started

end Ends

/-- **The loop is only left once the exit of the child is known.** If no interrupt has come then
nothing was done to the child. -/
theorem Watches.ends {b : Backend σ} {c : Clock σ} {poll : UInt64} {pid : UInt32} {t t' : Tally}
    {s v : Sandbox σ} {seen : List (UInt64 × UInt64)} {result : Except Error (Tally × Bool)}
    {stopped : Bool} {child : Child} (hw : Watches b c poll pid t s seen result v)
    (hr : result = .ok (t', stopped)) (h : s.descriptor.Coherent)
    (hown : s.descriptor.process = some child) :
    ∃ xs, v.world.exchanges = s.world.exchanges ++ xs
      ∧ Ended s.descriptor child xs v.descriptor ∧ xs.filterMap Exchange.started? = []
      ∧ (stopped = false → ∀ x ∈ xs, x.observes = true) := by
  induction hw with
  | @interrupted t s v result _ h' =>
      obtain ⟨xs, hx, he⟩ := interrupt_spec b pid s
      rw [h'] at hx he
      cases result with
      | error => cases hr
      | ok =>
          cases hr
          exact ⟨xs, he.exchanges, hx.ended h hown, hx.started_nil, nofun⟩
  | @exited t t' s v _ hl =>
      obtain ⟨xs, hx, hs, he⟩ := look_spec b pid t s
      rw [hl] at hx hs he
      have hobs := hx.observes
      exact ⟨xs, he.exchanges, hx.ended h hown hs.symm, started_nil_of_observes hobs,
        fun _ => hobs⟩
  | @next t t' s s' v seen result _ hl _ ih =>
      obtain ⟨xs, hx, hs, he⟩ := look_spec b pid t s
      rw [hl] at hx hs he
      -- The look has found the child alive, so that it is owned at the next look as well.
      have hkept : (s'.pass c poll).descriptor = s.descriptor := hx.eq_of_running hs.symm
      rw [hkept] at ih
      obtain ⟨ys, hys, ⟨report, hd, y, hy, hdel⟩, hstarted, hobs⟩ := ih hr h hown
      refine ⟨xs ++ ys, ?_, ⟨report, hd, y, List.mem_append_right _ hy, hdel⟩, ?_, ?_⟩
      · have hxs : s'.world.exchanges = s.world.exchanges ++ xs := he.exchanges
        rw [← List.append_assoc, ← hxs]
        exact hys
      · rw [List.filterMap_append, started_nil_of_observes hx.observes, hstarted]
        rfl
      · exact fun hno => List.forall_mem_append.mpr ⟨hx.observes, hobs hno⟩

/-! ## Summaries -/

/-- **What a summary says of the child** is true: `n` is the number of the child, and `xs` are the
requests of the supervision. -/
structure Summary.OfChild (r : Summary) (n : Nat) (xs : List Exchange) : Prop where
  /-- The command was started as this process. -/
  spawned : ∃ plan, .spawn r.command plan (.ok r.pid) ∈ xs
  /-- Nothing else was started. -/
  alone : xs.filterMap Exchange.started? = [r.pid]
  /-- The exit is there, and it is what the backend has reported of this child. -/
  exit : ∃ report, r.exit = some report ∧ ∃ x ∈ xs, x.Delivers n report
  /-- Unless there was an interrupt, no attempt was made to kill the child. -/
  unkilled : r.interrupted = false → ∀ answer, .kill n answer ∉ xs

/-- **A summary is truthful** if what it says of the child is true, and its usage is what the looks
have read. -/
structure Summary.Truthful (r : Summary) (n : Nat) (xs : List Exchange)
    (seen : List (UInt64 × UInt64)) : Prop extends r.OfChild n xs where
  usage : r.usage.Counts seen
  /-- There are no samples just if there is no usage to show. -/
  unsampled : r.usage.samples = 0 ↔ r.usage.peakMemory = 0 ∧ r.usage.cpuTime = 0

theorem Execs.started_spawn {n : Nat} {command : String} {d d' : Descriptor}
    {xs : List Exchange} {pid : UInt32} (hx : Execs n command d xs (.ok pid) d') :
    (∃ plan, .spawn command plan (.ok pid) ∈ xs) ∧ xs.filterMap Exchange.started? = [pid]
      ∧ ∀ i answer, .kill i answer ∉ xs := by
  have hstarted := hx.learns.started
  cases hx with
  | started _ hp _ =>
      refine ⟨⟨_, List.mem_append_right _ (List.mem_singleton_self _)⟩, hstarted, ?_⟩
      intro i answer hmem
      rcases List.mem_append.mp hmem with hmem | hmem
      · cases hp.observes _ hmem
      · cases List.mem_singleton.mp hmem

section Supervised

variable {b : Backend σ} {c : Clock σ} {looks : Nat} {command : String} {poll : UInt64}
  {s v : Sandbox σ} {r : Summary}

/-- The parts of a supervision that gives a summary: the start, the loop, and the last look at the
exit. -/
theorem supervise_cases (h : s.supervise b c looks command poll = (some (.ok r), v)) :
    ∃ s' u, s.exec b command = (.ok r.pid, s')
      ∧ Watches b c poll r.pid {} (s'.note [.started r.pid s'.descriptor.mode])
          (s.glances b c looks command poll) (.ok (r.usage, r.interrupted)) u
      ∧ u.lastExit b = (r.exit, v) ∧ r.command = command := by
  unfold supervise at h
  unfold glances
  rcases hexec : s.exec b command with ⟨cause | pid, s'⟩
  · rw [hexec] at h
    cases h
  rw [hexec] at h
  dsimp only at h ⊢
  rcases hw : (s'.note [.started pid s'.descriptor.mode]).watch b c poll pid looks {}
    with ⟨_ | cause | ⟨usage, stopped⟩, u⟩
  · rw [hw] at h
    cases h
  · rw [hw] at h
    cases h
  · rw [hw] at h
    cases h
    exact ⟨s', u, rfl, watch_spec hw, rfl, rfl⟩

/-- **A supervision that gives a summary has come to the end of its child.** -/
theorem supervise_ends (hs : s.descriptor.Coherent)
    (h : s.supervise b c looks command poll = (some (.ok r), v)) :
    v.descriptor.status = .idle ∧ v.descriptor.process = none
      ∧ ∃ xs, v.world.exchanges = s.world.exchanges ++ xs ∧ r.OfChild s.world.spawned xs := by
  obtain ⟨s', u, hexec, hw, hlast, hcommand⟩ := supervise_cases h
  obtain ⟨xs, hx, he⟩ := exec_spec b s command
  rw [hexec] at hx he
  obtain ⟨⟨plan, hspawn⟩, hstarted, hkill⟩ := hx.started_spawn
  obtain ⟨ys, hys, ⟨report, hd, y, hy, hdel⟩, hnone, hobs⟩ :=
    hw.ends rfl (hx.coherent hs) hx.owned
  -- Nothing runs any more, and so the exit is looked up without another poll.
  have hidle : u.descriptor.status = .idle := by rw [hd]; rfl
  rw [lastExit_of_idle hidle] at hlast
  obtain ⟨hexit, rfl⟩ := Prod.mk.inj hlast
  refine ⟨hidle, by rw [hd]; rfl, xs ++ ys, ?_, ?_, ?_, ⟨report, ?_, y, ?_, hdel⟩, ?_⟩
  · have hxs : s'.world.exchanges = s.world.exchanges ++ xs := he.exchanges
    rw [← List.append_assoc, ← hxs]
    exact hys
  · rw [hcommand]
    exact ⟨plan, List.mem_append_left _ hspawn⟩
  · rw [List.filterMap_append, hstarted, hnone]
    rfl
  · rw [← hexit, hd]
    rfl
  · exact List.mem_append_right _ hy
  · intro hno answer hmem
    rcases List.mem_append.mp hmem with hmem | hmem
    · exact hkill _ _ hmem
    · cases hobs hno _ hmem

/-- **Every summary is truthful**: whatever the backend answers, whenever the interrupt comes, and
in any state of the sandbox. Only the samples must not be more than can be counted. -/
theorem supervise_truthful (hs : Reachable b s)
    (h : s.supervise b c looks command poll = (some (.ok r), v))
    (hn : (s.glances b c looks command poll).length < 2 ^ 32) :
    v.descriptor.status = .idle ∧ v.descriptor.process = none
      ∧ ∃ xs, v.world.exchanges = s.world.exchanges ++ xs
        ∧ r.Truthful s.world.spawned xs (s.glances b c looks command poll) := by
  obtain ⟨hidle, hnone, xs, hxs, hchild⟩ := supervise_ends hs.coherent h
  obtain ⟨s', u, -, hw, -, -⟩ := supervise_cases h
  have hcounts : r.usage.Counts (s.glances b c looks command poll) := by
    refine hw.counts rfl .nil ?_
    rw [List.length_nil, Nat.zero_add]
    exact hn
  exact ⟨hidle, hnone, xs, hxs, hchild, hcounts, hcounts.unsampled_iff⟩

end Supervised

/-- A command that is looked at three times. It exits while the third look is under way, between the
readings of its two usages. -/
theorem supervise_truthful_undisturbed :
    ∃ s w r v xs, create countdown .process {} { state := 7 } = (.ok s, w)
      ∧ s.supervise countdown (alarm 0) 3 "job" 10 = (some (.ok r), v)
      ∧ s.glances countdown (alarm 0) 3 "job" 10 = [(1024, 15), (1024, 15), (1024, 0)]
      ∧ v.descriptor.status = .idle ∧ v.world.exchanges = s.world.exchanges ++ xs
      ∧ r.Truthful 0 xs [(1024, 15), (1024, 15), (1024, 0)]
      ∧ r.interrupted = false ∧ r.exit = some ⟨some 0, none⟩ ∧ r.usage.samples = 3 := by
  obtain ⟨s, w, r, v, h, hsup, hseen, hr⟩ : ∃ s w r v,
      create countdown .process {} { state := 7 } = (.ok s, w)
      ∧ s.supervise countdown (alarm 0) 3 "job" 10 = (some (.ok r), v)
      ∧ s.glances countdown (alarm 0) 3 "job" 10 = [(1024, 15), (1024, 15), (1024, 0)]
      ∧ r.interrupted = false ∧ r.exit = some ⟨some 0, none⟩ ∧ r.usage.samples = 3 :=
    ⟨_, _, _, _, rfl, rfl, rfl, rfl, rfl, rfl⟩
  have hzero : s.world.spawned = 0 := by
    cases h
    rfl
  obtain ⟨hidle, -, xs, hxs, ht⟩ :=
    supervise_truthful (.created h) hsup (by rw [hseen]; decide)
  rw [hseen, hzero] at ht
  exact ⟨s, w, r, v, xs, h, hsup, hseen, hidle, hxs, ht, hr⟩

end Confine.Sandbox

import Confine.Proofs.Sandbox.Reading

set_option autoImplicit false

/-! # How long a supervision lasts

A supervision without an interrupt is over at the very poll that reports the exit. So what is asked
of the backend is known from how long the child lasts, and can be counted.

Each look polls the child up to three times: before the resident size is read, before the processor
time is read, and to ask for the status. The exit may come to light at any of the three, and what is
read at that look depends on which one it is (`Looks.asked`). A child that lasts for `n` polls lasts
for `n / 3` whole looks, so that `n % 3` polls of the last look find it alive (`watch_lasting`).

How often the child is polled is not given but found. Of its answers it is only taken that they
agree with those of a child that lasts for `n` polls as far as both go (`Agree`).
-/

namespace Confine.Sandbox

variable {σ : Type}

/-! ## Lists that agree -/

/-- **Two lists agree** as far as both go: one of them is the start of the other. -/
def Agree {α : Type} (xs ys : List α) : Prop :=
  xs <+: ys ∨ ys <+: xs

section Agree

variable {α : Type} {x y : α} {xs ys zs : List α}

theorem agree_cons : Agree (x :: xs) (y :: ys) ↔ x = y ∧ Agree xs ys := by
  unfold Agree
  rw [List.cons_prefix_cons, List.cons_prefix_cons]
  constructor
  · rintro (⟨rfl, h⟩ | ⟨rfl, h⟩)
    · exact ⟨rfl, .inl h⟩
    · exact ⟨rfl, .inr h⟩
  · rintro ⟨rfl, h | h⟩
    · exact .inl ⟨rfl, h⟩
    · exact .inr ⟨rfl, h⟩

/-- The start of a list agrees with what the list agrees with. -/
theorem Agree.of_prefix (h : Agree ys zs) (hxs : xs <+: ys) : Agree xs zs := by
  rcases h with h | h
  · exact .inl (hxs.trans h)
  · exact List.prefix_or_prefix_of_prefix hxs h

theorem Agree.eq_of_length (h : Agree xs ys) (hlen : xs.length = ys.length) : xs = ys := by
  rcases h with h | h
  · exact h.eq_of_length hlen
  · exact (h.eq_of_length hlen.symm).symm

end Agree

/-! ## Polls of one child -/

/-- What a request has learnt by polling child number `i`, if it is such a poll. -/
def Exchange.polled? (i : Nat) : Exchange → Option (Except String (Option ExitReport))
  | .tryWait j answer => if j = i then some answer else none
  | _ => none

/-- The answers to the polls of child number `i`, one after another. -/
def pollsOf (i : Nat) (xs : List Exchange) : List (Except String (Option ExitReport)) :=
  xs.filterMap (Exchange.polled? i)

theorem pollsOf_append (i : Nat) (xs ys : List Exchange) :
    pollsOf i (xs ++ ys) = pollsOf i xs ++ pollsOf i ys :=
  List.filterMap_append

/-- **The answers to the polls of a child that lasts for `n` polls**: these find it alive, and the
next one reports how it ended. -/
def lasting (n : Nat) (report : ExitReport) : List (Except String (Option ExitReport)) :=
  List.replicate n (.ok none) ++ [.ok (some report)]

section Answers

variable {n : Nat} {report : ExitReport} {quiet rest : List (Except String (Option ExitReport))}

theorem length_lasting (n : Nat) (report : ExitReport) : (lasting n report).length = n + 1 := by
  rw [lasting, List.length_append, List.length_replicate, List.length_singleton]

theorem lasting_succ (n : Nat) (report : ExitReport) :
    lasting (n + 1) report = .ok none :: lasting n report :=
  rfl

/-- Polls that report nothing are some of those for which the child lasts. -/
theorem quiet_of_lasting (hq : ∀ answer ∈ quiet, reported answer = none)
    (h : Agree (quiet ++ rest) (lasting n report)) :
    quiet.length ≤ n ∧ Agree rest (lasting (n - quiet.length) report) := by
  induction quiet generalizing n with
  | nil => exact ⟨Nat.zero_le n, h⟩
  | cons answer quiet ih =>
      obtain ⟨ha, hq⟩ := List.forall_mem_cons.mp hq
      cases n with
      | zero =>
          obtain ⟨rfl, -⟩ := agree_cons.mp h
          cases ha
      | succ n =>
          rw [lasting_succ, List.cons_append, agree_cons] at h
          obtain ⟨hle, hrest⟩ := ih hq h.2
          rw [List.length_cons, Nat.add_sub_add_right]
          exact ⟨Nat.succ_le_succ hle, hrest⟩

/-- A poll that reports an exit is the one that the child lasts until. -/
theorem eq_of_lasting {report' : ExitReport}
    (h : Agree [.ok (some report')] (lasting n report)) : n = 0 ∧ report' = report := by
  cases n with
  | zero =>
      obtain ⟨heq, -⟩ := agree_cons.mp h
      cases heq
      exact ⟨rfl, rfl⟩
  | succ n =>
      rw [lasting_succ, agree_cons] at h
      cases h.1

end Answers

/-! ## What a child is asked -/

/-- A reading of the resident size. -/
def Exchange.asksMemory : Exchange → Bool
  | .memoryUsage _ _ => true
  | _ => false

/-- A reading of the processor time. -/
def Exchange.asksCpuTime : Exchange → Bool
  | .cpuTime _ _ => true
  | _ => false

/-- **What is asked about a child**: its polls are answered so, and its resident size and its
processor time are read so many times, but never by the number zero, which is that of no process.
Nothing is done to the child. -/
structure Asked (child : Child) (answers : List (Except String (Option ExitReport)))
    (memory cpuTime : Nat) (xs : List Exchange) : Prop where
  polls : pollsOf child.index xs = answers
  memory : xs.countP Exchange.asksMemory = if child.pid = 0 then 0 else memory
  cpuTime : xs.countP Exchange.asksCpuTime = if child.pid = 0 then 0 else cpuTime
  observes : ∀ x ∈ xs, x.observes = true

section Look

variable {t t' : Tally} {d d' : Descriptor} {xs ys : List Exchange} {child : Child}
  {answers answers' : List (Except String (Option ExitReport))}
  {memory memory' cpuTime cpuTime' : Nat}

theorem Asked.append (h : Asked child answers memory cpuTime xs)
    (h' : Asked child answers' memory' cpuTime' ys) :
    Asked child (answers ++ answers') (memory + memory') (cpuTime + cpuTime') (xs ++ ys) := by
  refine ⟨?_, ?_, ?_, List.forall_mem_append.mpr ⟨h.observes, h'.observes⟩⟩
  · rw [pollsOf_append, h.polls, h'.polls]
  · rw [List.countP_append, h.memory, h'.memory]
    split <;> rfl
  · rw [List.countP_append, h.cpuTime, h'.cpuTime]
    split <;> rfl

theorem Asked.poll (child : Child) (answer : Except String (Option ExitReport)) :
    Asked child [answer] 0 0 [.tryWait child.index answer] := by
  refine ⟨List.filterMap_cons_some (if_pos rfl), ?_, ?_, List.forall_mem_singleton.mpr rfl⟩
  · rw [ite_self]
    rfl
  · rw [ite_self]
    rfl

theorem Asked.read {x : Exchange} (hpid : child.pid ≠ 0) (hobs : x.observes = true)
    (hpoll : x.polled? child.index = none) :
    Asked child [] x.asksMemory.toNat x.asksCpuTime.toNat [x] := by
  refine ⟨List.filterMap_cons_none hpoll, ?_, ?_, List.forall_mem_singleton.mpr hobs⟩
  · rw [if_neg hpid, List.countP_singleton]
    cases x.asksMemory <;> rfl
  · rw [if_neg hpid, List.countP_singleton]
    cases x.asksCpuTime <;> rfl

/-- Without a number nothing is read, however many times it should be. -/
theorem Asked.of_unnumbered (hpid : child.pid = 0) (h : Asked child answers 0 0 xs) :
    Asked child answers memory cpuTime xs := by
  refine ⟨h.polls, ?_, ?_, h.observes⟩
  · rw [h.memory, if_pos hpid, if_pos hpid]
  · rw [h.cpuTime, if_pos hpid, if_pos hpid]

theorem Asked.not_mem {x : Exchange} (h : Asked child answers memory cpuTime xs)
    (hx : x.observes = false) : x ∉ xs := by
  intro hmem
  rw [h.observes x hmem] at hx
  cases hx

theorem Polls.asked (hp : Polls d xs d') (h : d.Coherent) (hown : d.process = some child) :
    (∃ report, d' = d.exited report ∧ Asked child [.ok (some report)] 0 0 xs)
      ∨ ∃ answer, reported answer = none ∧ d' = d ∧ Asked child [answer] 0 0 xs := by
  rcases hp.of_owned h hown with ⟨report, rfl, rfl⟩ | ⟨answer, ha, rfl, rfl⟩
  · exact .inl ⟨report, rfl, .poll child _⟩
  · exact .inr ⟨answer, ha, rfl, .poll child answer⟩

/-- A reading polls the child, and reads a usage if the child is found alive. -/
theorem Reads.asked {ask : UInt32 → UInt64 → Exchange} {amount : UInt64}
    (hx : Reads ask d xs amount d') (h : d.Coherent) (hown : d.process = some child)
    (hask : child.pid ≠ 0 → Asked child [] memory cpuTime [ask child.pid amount]) :
    (∃ report, d' = d.exited report ∧ Asked child [.ok (some report)] 0 0 xs)
      ∨ ∃ answer, reported answer = none ∧ d' = d ∧ Asked child [answer] memory cpuTime xs := by
  rcases hx.cases_of_owned h hown with ⟨report, rfl, -, rfl⟩ | ⟨answer, ha, rfl, hread⟩
  · exact .inl ⟨report, rfl, .poll child _⟩
  refine .inr ⟨answer, ha, rfl, ?_⟩
  have hanswer := Asked.poll child answer
  rcases hread with ⟨hpid, rfl⟩ | ⟨hpid, rfl, -⟩
  · have hasked := hanswer.append (hask hpid)
    rw [Nat.zero_add, Nat.zero_add] at hasked
    exact hasked
  · exact hanswer.of_unnumbered hpid

/-- **A look, by what its polls find**: either one of the three reports the exit, and the `k` before
it find the child alive, or all of them do. The resident size is read after the first and the
processor time after the second. -/
theorem Looks.asked (hx : Looks t d xs t' d') (h : d.Coherent) (hown : d.process = some child) :
    ∃ k quiet, quiet.length = k ∧ (∀ answer ∈ quiet, reported answer = none)
      ∧ ((∃ report, d' = d.exited report ∧ k < 3
            ∧ Asked child (quiet ++ [.ok (some report)]) ((k + 2) / 3) ((k + 1) / 3) xs)
          ∨ d' = d ∧ k = 3 ∧ Asked child quiet 1 1 xs) := by
  cases hx with
  | mk hm hc hp =>
      rcases hm.asked h hown (.read · rfl rfl) with
        ⟨report, rfl, hxs⟩ | ⟨first, hfirst, rfl, hxs⟩
      · obtain ⟨rfl, -, rfl⟩ := hc.eq_of_vacant rfl
        obtain ⟨rfl, rfl⟩ := hp.eq_of_vacant rfl
        refine ⟨0, [], rfl, nofun, .inl ⟨report, rfl, by decide, ?_⟩⟩
        rw [List.append_nil, List.append_nil]
        exact hxs
      rcases hc.asked h hown (.read · rfl rfl) with
        ⟨report, rfl, hys⟩ | ⟨second, hsecond, rfl, hys⟩
      · obtain ⟨rfl, rfl⟩ := hp.eq_of_vacant rfl
        refine ⟨1, [first], rfl, by simp [hfirst], .inl ⟨report, rfl, by decide, ?_⟩⟩
        rw [List.append_nil]
        exact hxs.append hys
      rcases hp.asked h hown with ⟨report, rfl, hzs⟩ | ⟨third, hthird, rfl, hzs⟩
      · exact ⟨2, [first, second], rfl, by simp [hfirst, hsecond],
          .inl ⟨report, rfl, by decide, hxs.append (hys.append hzs)⟩⟩
      · exact ⟨3, [first, second, third], rfl, by simp [hfirst, hsecond, hthird],
          .inr ⟨rfl, rfl, hxs.append (hys.append hzs)⟩⟩

end Look

section Lasting

variable {n k : Nat} {report report' : ExitReport} {xs ys : List Exchange} {child : Child}
  {quiet : List (Except String (Option ExitReport))}

/-- The last look at a child that lasts for `n` polls. -/
theorem Asked.last (hk : quiet.length = k) (hquiet : ∀ answer ∈ quiet, reported answer = none)
    (h : Asked child (quiet ++ [.ok (some report')]) ((k + 2) / 3) ((k + 1) / 3) xs)
    (hpolls : Agree (pollsOf child.index xs) (lasting n report)) :
    k = n ∧ report' = report ∧ Asked child (lasting n report) ((n + 2) / 3) ((n + 1) / 3) xs := by
  rw [h.polls] at hpolls
  obtain ⟨hle, hrest⟩ := quiet_of_lasting hquiet hpolls
  obtain ⟨hzero, rfl⟩ := eq_of_lasting hrest
  obtain rfl : k = n := by omega
  have hall : quiet ++ [.ok (some report')] = lasting k report' := by
    refine hpolls.eq_of_length ?_
    rw [length_lasting, List.length_append, hk, List.length_singleton]
  rw [hall] at h
  exact ⟨rfl, rfl, h⟩

/-- An earlier look at a child that lasts for `n` polls takes three of them. -/
theorem Asked.next (hk : quiet.length = 3) (hquiet : ∀ answer ∈ quiet, reported answer = none)
    (h : Asked child quiet 1 1 xs)
    (hpolls : Agree (pollsOf child.index (xs ++ ys)) (lasting n report)) :
    ∃ m, n = m + 3 ∧ Agree (pollsOf child.index ys) (lasting m report)
      ∧ (Asked child (lasting m report) ((m + 2) / 3) ((m + 1) / 3) ys →
          Asked child (lasting n report) ((n + 2) / 3) ((n + 1) / 3) (xs ++ ys)) := by
  rw [pollsOf_append, h.polls] at hpolls
  obtain ⟨hle, hrest⟩ := quiet_of_lasting hquiet hpolls
  rw [hk] at hle hrest
  refine ⟨n - 3, (Nat.sub_add_cancel hle).symm, hrest, fun h' => ?_⟩
  rw [h'.polls] at hpolls
  have hall : quiet ++ lasting (n - 3) report = lasting n report := by
    refine hpolls.eq_of_length ?_
    rw [List.length_append, length_lasting, length_lasting, hk]
    omega
  have hmemory : 1 + (n - 3 + 2) / 3 = (n + 2) / 3 := by omega
  have hcpuTime : 1 + (n - 3 + 1) / 3 = (n + 1) / 3 := by omega
  rw [← hall, ← hmemory, ← hcpuTime]
  exact h.append h'

end Lasting

/-! ## The loop -/

/-- **The loop comes to the exit** after `k` looks that find the command running and one more, which
makes the requests `last` and leads to the tally `t'` and the sandbox `v`. -/
def Completes (b : Backend σ) (c : Clock σ) (poll : UInt64) (pid : UInt32) (k : Nat) (t : Tally)
    (s : Sandbox σ) (t' : Tally) (last : List Exchange) (v : Sandbox σ) : Prop :=
  ∃ t₁ u, Ticks b c poll pid k t s t₁ u ∧ c.interrupted u.world.state = false
    ∧ u.look b pid t₁ = (t', .idle, v) ∧ v.world.exchanges = u.world.exchanges ++ last

section Loop

variable {b : Backend σ} {c : Clock σ} {poll : UInt64} {pid : UInt32} {k looks : Nat}
  {t t' t'' : Tally} {s s' v : Sandbox σ} {last : List Exchange} {child : Child}

theorem Completes.next (hi : c.interrupted s.world.state = false)
    (hl : s.look b pid t = (t', .running, s'))
    (h : Completes b c poll pid k t' (s'.pass c poll) t'' last v) :
    Completes b c poll pid (k + 1) t s t'' last v := by
  obtain ⟨t₁, u, hticks, hu⟩ := h
  exact ⟨t₁, u, .next hi hl hticks, hu⟩

/-- The loop is left then. -/
theorem Completes.watch_eq (h : Completes b c poll pid k t s t' last v) (hk : k < looks) :
    s.watch b c poll pid looks t = (some (.ok (t', false)), v) := by
  obtain ⟨t₁, u, hticks, hi, hl, -⟩ := h
  obtain ⟨rest, rfl⟩ := Nat.exists_eq_add_of_lt hk
  rw [Nat.add_assoc, watch_of_ticks hticks, watch_of_exited hi hl]

/-- **A child that lasts for `n` polls** is looked at `n / 3` times and once more, if no interrupt
comes. The induction is on the looks: a whole one takes three of the polls. -/
theorem watch_lasting (poll : UInt64) (pid : UInt32) (looks : Nat) (t : Tally)
    (hc : ∀ state, c.interrupted state = false) (h : s.descriptor.Coherent)
    (hown : s.descriptor.process = some child) :
    ∃ xs, (s.watch b c poll pid looks t).2.world.exchanges = s.world.exchanges ++ xs
      ∧ ∀ {n : Nat} {report : ExitReport}, n / 3 < looks →
        Agree (pollsOf child.index xs) (lasting n report) →
        ∃ t' last v, Completes b c poll pid (n / 3) t s t' last v
          ∧ v.descriptor = s.descriptor.exited report
          ∧ Asked child (lasting n report) ((n + 2) / 3) ((n + 1) / 3) xs
          ∧ Asked child (lasting (n % 3) report) ((n % 3 + 2) / 3) ((n % 3 + 1) / 3) last := by
  induction looks generalizing t s with
  | zero => exact ⟨[], (List.append_nil _).symm, fun hlooks => absurd hlooks (Nat.not_lt_zero _)⟩
  | succ looks ih =>
      have hi := hc s.world.state
      obtain ⟨xs, hx, hs, he⟩ := look_spec b pid t s
      obtain ⟨k, quiet, hk, hquiet, hcases⟩ := hx.asked h hown
      rcases hl : s.look b pid t with ⟨t', _ | _, s'⟩
      · rw [hl] at hs he hcases
        rw [watch_of_exited hi hl]
        refine ⟨xs, he.exchanges, fun _ hpolls => ?_⟩
        rcases hcases with ⟨report', hd, hlt, hasked⟩ | ⟨hd, -, -⟩
        · obtain ⟨rfl, rfl, hasked⟩ := hasked.last hk hquiet hpolls
          rw [Nat.div_eq_of_lt hlt, Nat.mod_eq_of_lt hlt]
          exact ⟨t', xs, s', ⟨t, s, .none, hi, hl, he.exchanges⟩, hd, hasked, hasked⟩
        · -- All three polls would have found the child alive, and then it is not gone.
          rw [hd, (h.owned child hown).1] at hs
          cases hs
      · rw [hl] at hx hs he hcases
        rw [watch_of_running hi hl]
        have hkept : (s'.pass c poll).descriptor = s.descriptor := hx.eq_of_running hs.symm
        rw [← hkept] at h hown
        obtain ⟨ys, hys, hends⟩ := ih t' h hown
        refine ⟨xs ++ ys, ?_, fun hlooks hpolls => ?_⟩
        · have hxs : s'.world.exchanges = s.world.exchanges ++ xs := he.exchanges
          rw [← List.append_assoc, ← hxs]
          exact hys
        rcases hcases with ⟨report', hd, -, -⟩ | ⟨-, rfl, hasked⟩
        · rw [hd] at hs
          cases hs
        · obtain ⟨n, rfl, hrest, hwhole⟩ := hasked.next hk hquiet hpolls
          obtain ⟨t'', last, v, hcomp, hv, hasked', hlast⟩ := hends (by omega) hrest
          rw [Nat.add_div_right n (by decide), Nat.add_mod_right]
          rw [hkept] at hv
          exact ⟨t'', last, v, hcomp.next hi hl, hv, hwhole hasked', hlast⟩

end Loop

/-! ## The whole supervision -/

theorem Execs.eq_of_vacant {n : Nat} {command : String} {d d' : Descriptor} {xs : List Exchange}
    {pid : UInt32} (hx : Execs n command d xs (.ok pid) d') (hc : d.process = none) :
    xs = [.spawn command (Plan.native d.limits) (.ok pid)] := by
  cases hx with
  | started _ hp _ =>
      obtain ⟨rfl, rfl⟩ := hp.eq_of_vacant hc
      rfl

section Supervision

variable {b : Backend σ} {c : Clock σ} {command : String} {poll : UInt64}
  {n looks : Nat} {s₀ s s' : Sandbox σ} {pid : UInt32} {report : ExitReport} {xs : List Exchange}

theorem World.spawn_fst (b : Backend σ) (command : String) (plan : Plan) (container : Bool)
    (w : World σ) :
    (w.spawn b command plan container).1 = (b.spawn command plan container w.state).1 := by
  unfold World.spawn
  rcases b.spawn command plan container w.state with ⟨reason | pid, state⟩ <;> rfl

/-- In an idle sandbox a command is started if the backend starts it. -/
theorem exec_of_idle (hlive : s.descriptor.destroyed = false) (hidle : s.descriptor.status = .idle)
    (hspawn : (b.spawn command (Plan.native s.descriptor.limits) s.descriptor.container
      s.world.state).1 = .ok pid) : (s.exec b command).1 = .ok pid := by
  have hrefresh : s.refresh b = s := if_pos (by rw [hidle]; simp)
  have hanswer : ((s.world.note (planEvents (Plan.native s.descriptor.limits))).spawn b command
      (Plan.native s.descriptor.limits) s.descriptor.container).1 = .ok pid :=
    (World.spawn_fst b command _ _ _).trans hspawn
  unfold exec
  rw [if_neg (by rw [hlive]; simp), hrefresh]
  dsimp only
  rw [if_neg (by rw [hidle]; simp)]
  generalize World.spawn b _ _ _ _ = started at hanswer ⊢
  rcases started with ⟨answer, w⟩
  cases hanswer
  rfl

/-- What is requested in the loop is not taken back afterwards. -/
theorem supervise_exchanges (c : Clock σ) (looks : Nat) (poll : UInt64)
    (hexec : s.exec b command = (.ok pid, s')) :
    ∃ zs, (s.supervise b c looks command poll).2.world.exchanges
      = ((s'.note [.started pid s'.descriptor.mode]).watch b c poll pid looks {}).2.world.exchanges
          ++ zs := by
  unfold supervise
  rw [hexec]
  dsimp only
  rcases (s'.note [.started pid s'.descriptor.mode]).watch b c poll pid looks {}
    with ⟨_ | cause | ⟨usage, stopped⟩, u⟩
  · exact ⟨[], (List.append_nil _).symm⟩
  · exact ⟨[], (List.append_nil _).symm⟩
  · obtain ⟨zs, -, he⟩ := refresh_spec b u
    exact ⟨zs, he.exchanges⟩

/-- A supervision that comes to the exit gives a summary with it. -/
theorem Completes.supervise_eq {k : Nat} {t : Tally} {last : List Exchange} {v : Sandbox σ}
    (hexec : s.exec b command = (.ok pid, s'))
    (h : Completes b c poll pid k {} (s'.note [.started pid s'.descriptor.mode]) t last v)
    (hk : k < looks) (hs : v.descriptor.status = .idle)
    (hr : v.descriptor.lastExit = some report) :
    ∃ r, s.supervise b c looks command poll = (some (.ok r), v) ∧ r.interrupted = false
      ∧ r.exit = some report ∧ r.usage = t := by
  unfold supervise
  rw [hexec]
  dsimp only
  rw [h.watch_eq hk]
  dsimp only
  rw [lastExit_of_idle hs, hr]
  exact ⟨_, rfl, rfl, rfl, rfl⟩

/-- What becomes of a supervision from the start of its command on, if the child lasts for `n`
polls. -/
theorem supervise_started (looks : Nat) (poll : UInt64) {child : Child}
    (hc : ∀ state, c.interrupted state = false) (hexec : s.exec b command = (.ok pid, s'))
    (h : s'.descriptor.Coherent) (hown : s'.descriptor.process = some child) :
    ∃ xs, (s.supervise b c looks command poll).2.world.exchanges = s'.world.exchanges ++ xs
      ∧ ∀ {n : Nat} {report : ExitReport}, n / 3 < looks →
        Agree (pollsOf child.index xs) (lasting n report) →
        ∃ r v last, s.supervise b c looks command poll = (some (.ok r), v)
          ∧ r.interrupted = false ∧ r.exit = some report
          ∧ Completes b c poll pid (n / 3) {} (s'.note [.started pid s'.descriptor.mode]) r.usage
              last v
          ∧ Asked child (lasting n report) ((n + 2) / 3) ((n + 1) / 3) xs
          ∧ Asked child (lasting (n % 3) report) ((n % 3 + 2) / 3) ((n % 3 + 1) / 3) last := by
  obtain ⟨xs, hxs, hends⟩ := watch_lasting (s := s'.note [.started pid s'.descriptor.mode]) poll pid
    looks {} hc h hown
  obtain ⟨ys, hys⟩ := supervise_exchanges c looks poll hexec
  rw [hxs, List.append_assoc] at hys
  refine ⟨xs ++ ys, hys, fun {n report} hlooks hpolls => ?_⟩
  rw [pollsOf_append] at hpolls
  obtain ⟨t, last, v, hcomp, hv, hasked, hlast⟩ :=
    hends hlooks (hpolls.of_prefix (List.prefix_append _ _))
  obtain ⟨r, hsup, hno, hexit, rfl⟩ :=
    hcomp.supervise_eq hexec hlooks (by rw [hv]; rfl) (by rw [hv]; rfl)
  -- Nothing is requested after the loop, since the exit is known then.
  have hnone : ys = [] := by
    rw [hcomp.watch_eq hlooks] at hxs
    rw [hsup, ← List.append_assoc, ← hxs] at hys
    exact List.self_eq_append_right.mp hys
  rw [hnone, List.append_nil]
  exact ⟨r, v, last, hsup, hno, hexit, hcomp, hasked, hlast⟩

/-- **A supervision is over as soon as the exit can be noticed.** In an idle sandbox a command is
started whose child lasts for `n` polls, whether it is polled so often or not and whatever it would
answer later, and no interrupt comes. Then the supervision ends with the report of the child, after
`n / 3` looks that find it running and one more. All that is requested is the start, exactly `n + 1`
polls of the child, and a reading of the resident size for each look whose first
poll finds it alive, and of the processor time for each look whose second poll does. -/
theorem supervise_lasting {mode : Mode} {limits : Limits} {w w' : World σ}
    (h : create b mode limits w = (.ok s₀, w')) (hs : Becomes b s₀ s)
    (hlive : s.descriptor.destroyed = false) (hidle : s.descriptor.status = .idle)
    (hspawn : (b.spawn command (Plan.native s.descriptor.limits) s.descriptor.container
      s.world.state).1 = .ok pid)
    (hc : ∀ state, c.interrupted state = false) (hlooks : n / 3 < looks)
    (hxs : (s.supervise b c looks command poll).2.world.exchanges = s.world.exchanges ++ xs)
    (hpolls : Agree (pollsOf s.world.spawned xs) (lasting n report)) :
    ∃ r v last, s.supervise b c looks command poll = (some (.ok r), v)
      ∧ r.interrupted = false ∧ r.exit = some report
      ∧ (∃ s', s.exec b command = (.ok pid, s')
          ∧ Completes b c poll pid (n / 3) {} (s'.note [.started pid s'.descriptor.mode]) r.usage
              last v)
      ∧ (pollsOf s.world.spawned xs).length = n + 1
      ∧ xs.countP Exchange.asksMemory = (if pid = 0 then 0 else (n + 2) / 3)
      ∧ xs.countP Exchange.asksCpuTime = (if pid = 0 then 0 else (n + 1) / 3)
      ∧ (∀ i, (∀ answer, .kill i answer ∉ xs) ∧ ∀ answer, .wait i answer ∉ xs)
      ∧ (n % 3 ≠ 0 → pid ≠ 0 → last.countP Exchange.asksMemory = 1) := by
  have hcoh := hs.coherent (coherent_of_create h)
  have hstarted := exec_of_idle hlive hidle hspawn
  obtain ⟨started, hx, he⟩ := exec_spec b s command
  rcases hexec : s.exec b command with ⟨result, s'⟩
  rw [hexec] at hx he hstarted
  cases hstarted
  obtain rfl := hx.eq_of_vacant (hcoh.process_of_idle hidle)
  obtain ⟨ys, hys, hends⟩ := supervise_started looks poll hc hexec (hx.coherent hcoh) hx.owned
  have hall : xs = [.spawn command (Plan.native s.descriptor.limits) (.ok pid)] ++ ys := by
    rw [hxs, he.exchanges, List.append_assoc] at hys
    exact List.append_cancel_left hys
  rw [hall] at hpolls ⊢
  obtain ⟨r, v, last, hsup, hno, hexit, hcomp, hasked, hlast⟩ := hends hlooks hpolls
  refine ⟨r, v, last, hsup, hno, hexit, ⟨s', rfl, hcomp⟩, ?_, hasked.memory, hasked.cpuTime,
    fun i => ⟨fun answer => ?_, fun answer => ?_⟩, fun hmod hpid => ?_⟩
  · show (pollsOf s.world.spawned ys).length = n + 1
    rw [hasked.polls, length_lasting]
  · exact List.not_mem_cons_of_ne_of_not_mem nofun (hasked.not_mem rfl)
  · exact List.not_mem_cons_of_ne_of_not_mem nofun (hasked.not_mem rfl)
  · rw [hlast.memory, if_neg hpid]
    omega

end Supervision

/-- A clock at which no interrupt ever comes. -/
def undisturbed : Clock Nat where
  elapse _ n := n
  interrupted _ := false
  now _ := 0

/-- A child that lasts for seven polls is looked at three times, the last time by two polls, between
which its resident size is read. -/
theorem supervise_lasting_seven :
    ∃ s w r v last xs, create countdown .process {} { state := 7 } = (.ok s, w)
      ∧ s.supervise countdown undisturbed 3 "job" 10 = (some (.ok r), v)
      ∧ v.world.exchanges = s.world.exchanges ++ xs
      ∧ r.interrupted = false ∧ r.exit = some ⟨some 0, none⟩
      ∧ (∃ s', s.exec countdown "job" = (.ok 1001, s')
          ∧ Completes countdown undisturbed 10 1001 2 {}
              (s'.note [.started 1001 s'.descriptor.mode]) r.usage last v)
      ∧ (pollsOf 0 xs).length = 8 ∧ xs.countP Exchange.asksMemory = 3
      ∧ xs.countP Exchange.asksCpuTime = 2 ∧ last.countP Exchange.asksMemory = 1 := by
  obtain ⟨s, w, xs, h, hlive, hidle, hspawn, hxs, hpolls⟩ : ∃ s w xs,
      create countdown .process {} { state := 7 } = (.ok s, w)
      ∧ s.descriptor.destroyed = false ∧ s.descriptor.status = .idle
      ∧ (countdown.spawn "job" (Plan.native s.descriptor.limits) s.descriptor.container
          s.world.state).1 = .ok 1001
      ∧ (s.supervise countdown undisturbed 3 "job" 10).2.world.exchanges = s.world.exchanges ++ xs
      ∧ pollsOf s.world.spawned xs = lasting 7 ⟨some 0, none⟩ :=
    ⟨_, _, _, rfl, rfl, rfl, rfl, rfl, rfl⟩
  have hzero : s.world.spawned = 0 := by
    cases h
    rfl
  obtain ⟨r, v, last, hsup, hno, hexit, hcomp, hlen, hmemory, hcpuTime, -, hlast⟩ :=
    supervise_lasting (n := 7) h .refl hlive hidle hspawn (fun _ => rfl)
      (by decide) hxs (.inl (by rw [hpolls]))
  rw [hsup] at hxs
  rw [hzero] at hlen
  exact ⟨s, w, r, v, last, xs, h, hsup, hxs, hno, hexit, hcomp, hlen, hmemory, hcpuTime,
    hlast (by decide) (by decide)⟩

end Confine.Sandbox

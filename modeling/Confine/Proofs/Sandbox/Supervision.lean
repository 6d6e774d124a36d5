import Confine.Machine.Amd64
import Confine.Proofs.Sandbox.Coherence

set_option autoImplicit false

/-! # Supervised commands

The loop of a supervision is described by its looks: `Ticks` says that so many looks in a row
found the command running, which leaves the sandbox as it was, and `watch_of_ticks` lets the loop
go on from there.

When the interrupt comes, the child is polled twice, once to ask for the status and once more
by the operation that stops it. A child that is found alive by the first poll and has exited at
the second slips through between them, and the supervision fails then. `supervise_cancelled`
says that this is the only way in which it fails, and what comes of it otherwise.
-/

namespace Confine.Sandbox

variable {σ : Type}

/-! ## Looks -/

/-- **A look**: the two usages, and then the status. -/
inductive Looks (t : Tally) (d : Descriptor) : List Exchange → Tally → Descriptor → Prop
  | mk {xs ys zs : List Exchange} {d₁ d₂ d₃ : Descriptor} {memory cpuTime : UInt64}
      (hm : Reads .memoryUsage d xs memory d₁) (hc : Reads .cpuTime d₁ ys cpuTime d₂)
      (hp : Polls d₂ zs d₃) : Looks t d (xs ++ (ys ++ zs)) (t.add memory cpuTime) d₃

theorem look_spec (b : Backend σ) (pid : UInt32) (t : Tally) (s : Sandbox σ) :
    ∃ xs, Looks t s.descriptor xs (s.look b pid t).1 (s.look b pid t).2.2.descriptor
      ∧ (s.look b pid t).2.1 = (s.look b pid t).2.2.descriptor.status
      ∧ s.world.Extends b xs (s.look b pid t).2.2.world := by
  obtain ⟨xs, hm, hx⟩ := memory_spec b s
  unfold look Sandbox.status
  dsimp only
  generalize s.memory b = u at hm hx ⊢
  obtain ⟨ys, hc, hy⟩ := cpuTime_spec b u.2
  generalize u.2.cpuTime b = v at hc hy ⊢
  obtain ⟨zs, hp, hz⟩ := refresh_spec b v.2
  generalize v.2.refresh b = w at hp hz ⊢
  have he := hx.trans (hy.trans hz)
  cases hs : w.descriptor.status with
  | idle => exact ⟨_, .mk hm hc hp, hs.symm, he⟩
  | running => exact ⟨_, .mk hm hc hp, hs.symm, he.note _⟩

section Running

variable {d d' : Descriptor} {xs : List Exchange}

/-- A poll after which something still runs has changed nothing. -/
theorem Polls.eq_of_running (hp : Polls d xs d') (h : d'.status = .running) : d' = d := by
  cases hp with
  | still | alive => rfl
  | exited => cases h

theorem Reads.eq_of_running {ask : UInt32 → UInt64 → Exchange} {amount : UInt64}
    (hx : Reads ask d xs amount d') (h : d'.status = .running) : d' = d := by
  cases hx with
  | nothing hp _ | read hp _ _ => exact hp.eq_of_running h

theorem Looks.eq_of_running {t t' : Tally} (hx : Looks t d xs t' d')
    (h : d'.status = .running) : d' = d := by
  cases hx with
  | mk hm hc hp =>
      have h₂ := hp.eq_of_running h
      rw [h₂] at h
      have h₁ := hc.eq_of_running h
      rw [h₁] at h
      rw [h₂, h₁, hm.eq_of_running h]

end Running

/-- The sandbox after an interval has passed. -/
def pass (c : Clock σ) (poll : UInt64) (s : Sandbox σ) : Sandbox σ :=
  { s with world := { s.world with state := c.elapse poll s.world.state } }

/-- **Looks that find the command running.** No interrupt has come before any of these `k`
looks, and an interval has passed after each of them. -/
inductive Ticks (b : Backend σ) (c : Clock σ) (poll : UInt64) (pid : UInt32) :
    Nat → Tally → Sandbox σ → Tally → Sandbox σ → Prop
  | none {t : Tally} {s : Sandbox σ} : Ticks b c poll pid 0 t s t s
  | next {k : Nat} {t t' t'' : Tally} {s s' s'' : Sandbox σ}
      (hi : c.interrupted s.world.state = false) (hl : s.look b pid t = (t', .running, s'))
      (hr : Ticks b c poll pid k t' (s'.pass c poll) t'' s'') :
      Ticks b c poll pid (k + 1) t s t'' s''

section Loop

variable {b : Backend σ} {c : Clock σ} {poll : UInt64} {pid : UInt32} {k : Nat}
  {t t' : Tally} {s s' : Sandbox σ}

theorem watch_of_interrupted (h : c.interrupted s.world.state = true) (looks : Nat) :
    s.watch b c poll pid (looks + 1) t
      = (some ((s.interrupt b pid).1.map fun _ => (t, true)), (s.interrupt b pid).2) :=
  if_pos h

theorem watch_of_running (hi : c.interrupted s.world.state = false)
    (hl : s.look b pid t = (t', .running, s')) (looks : Nat) :
    s.watch b c poll pid (looks + 1) t = (s'.pass c poll).watch b c poll pid looks t' := by
  refine (if_neg (by rw [hi]; simp)).trans ?_
  rw [hl]
  rfl

/-- The loop goes on from where the looks lead. -/
theorem watch_of_ticks (h : Ticks b c poll pid k t s t' s') (looks : Nat) :
    s.watch b c poll pid (k + looks) t = s'.watch b c poll pid looks t' := by
  induction h with
  | none => rw [Nat.zero_add]
  | @next k t t' t'' s s' s'' hi hl _ ih =>
      rw [← ih, Nat.add_right_comm, watch_of_running hi hl]

/-- The looks change nothing in the sandbox. -/
theorem Ticks.descriptor_eq (h : Ticks b c poll pid k t s t' s') :
    s'.descriptor = s.descriptor := by
  induction h with
  | none => rfl
  | next _ hl _ ih =>
      obtain ⟨xs, hx, hs, -⟩ := look_spec b pid _ _
      rw [hl] at hx hs
      exact ih.trans (hx.eq_of_running hs.symm)

end Loop

/-! ## The interrupt -/

/-- **An interrupt** stops what a poll finds running. -/
inductive Interrupts (d : Descriptor) : List Exchange → Except Error Unit → Descriptor → Prop
  | late {xs : List Exchange} {d' : Descriptor} (hp : Polls d xs d') (hs : d'.status = .idle) :
      Interrupts d xs (.ok ()) d'
  | stopped {xs ys : List Exchange} {d' d'' : Descriptor} {result : Except Error Unit}
      (hp : Polls d xs d') (hs : d'.status = .running) (hx : Stops d' ys result d'') :
      Interrupts d (xs ++ ys) result d''

theorem interrupt_spec (b : Backend σ) (pid : UInt32) (s : Sandbox σ) :
    ∃ xs, Interrupts s.descriptor xs (s.interrupt b pid).1 (s.interrupt b pid).2.descriptor
      ∧ s.world.Extends b xs (s.interrupt b pid).2.world := by
  unfold interrupt status
  dsimp only
  obtain ⟨xs, hp, hx⟩ := refresh_spec b (s.note [.interrupted pid])
  generalize (s.note [.interrupted pid]).refresh b = t at hp hx ⊢
  cases hs : t.descriptor.status with
  | running =>
      obtain ⟨ys, hst, hy⟩ := stop_spec b t
      exact ⟨xs ++ ys, .stopped hp hs hst, hx.ofNote.trans hy⟩
  | idle => exact ⟨xs, .late hp hs, hx.ofNote⟩

/-! ## How an interrupt ends -/

/-- A backend that always can kill a child and wait for it. Its polls may answer anything. -/
structure Obliging (b : Backend σ) : Prop where
  kill : ∀ child state, (b.kill child state).1 = .ok ()
  wait : ∀ child state, ∃ report, (b.wait child state).1 = .ok report

theorem Obliging.kill_error {b : Backend σ} (hb : Obliging b) {before after : σ} {i : Nat}
    {reason : String} : ¬ Exchange.AnsweredBy b before after (.kill i (.error reason)) := by
  intro h
  have hok := hb.kill i before
  rw [show b.kill i before = (.error reason, after) from h] at hok
  cases hok

theorem Obliging.wait_error {b : Backend σ} (hb : Obliging b) {before after : σ} {i : Nat}
    {reason : String} : ¬ Exchange.AnsweredBy b before after (.wait i (.error reason)) := by
  intro h
  obtain ⟨report, hok⟩ := hb.wait i before
  rw [show b.wait i before = (.error reason, after) from h] at hok
  cases hok

/-- A request whose answer says how a child ended. -/
def Exchange.Delivers (child : Nat) (report : ExitReport) (x : Exchange) : Prop :=
  x = .tryWait child (.ok (some report)) ∨ x = .wait child (.ok report)

/-- **A child slips through** two polls in a row: the first finds it alive, and the second
reports its exit. -/
def Slips (b : Backend σ) (child : Nat) (state : σ) : Prop :=
  reported (b.tryWait child state).1 = none
    ∧ (reported (b.tryWait child (b.tryWait child state).2).1).isSome = true

section Outcome

variable {b : Backend σ} {d d' : Descriptor} {xs : List Exchange} {state after : σ}
  {child : Child}

/-- The poll of an owned child, with what the backend answers. -/
theorem Polls.answered (hp : Polls d xs d') (h : d.Coherent) (hc : d.process = some child)
    (ha : Answers b state xs after) :
    (∃ report, xs = [.tryWait child.index (.ok (some report))]
        ∧ b.tryWait child.index state = (.ok (some report), after)
        ∧ d' = d.exited report)
      ∨ ∃ answer, reported answer = none ∧ b.tryWait child.index state = (answer, after)
        ∧ d' = d := by
  rcases hp.of_owned h hc with ⟨report, rfl, rfl⟩ | ⟨answer, hr, rfl, rfl⟩
  · cases ha with
    | cons hx hnil =>
        cases hnil
        exact .inl ⟨report, rfl, hx, rfl⟩
  · cases ha with
    | cons hx hnil =>
        cases hnil
        exact .inr ⟨answer, hr, hx, rfl⟩

/-- What stopping an owned child comes to when it can be killed and reaped: it was too late if
the poll reports an exit, and otherwise the child is reaped. -/
theorem Stops.outcome {result : Except Error Unit} (hx : Stops d xs result d')
    (h : d.Coherent) (hc : d.process = some child) (hb : Obliging b)
    (ha : Answers b state xs after) :
    ∃ report, d' = d.exited report
      ∧ (∃ x ∈ xs, x.Delivers child.index report)
      ∧ ((reported (b.tryWait child.index state).1).isSome = true
            ∧ result = .error .notRunning
          ∨ reported (b.tryWait child.index state).1 = none ∧ result = .ok ()) := by
  obtain ⟨hs, -, -, hd⟩ := h.owned child hc
  cases hx with
  | destroyed hd' =>
      rw [hd] at hd'
      cases hd'
  | idle _ hp hs' =>
      rcases hp.answered h hc ha with ⟨report, rfl, hq, rfl⟩ | ⟨answer, -, -, rfl⟩
      · exact ⟨report, rfl, ⟨_, List.mem_singleton_self _, .inl rfl⟩, .inl ⟨by rw [hq]; rfl, rfl⟩⟩
      · rw [hs] at hs'
        cases hs'
  | released _ hp hs' hc' =>
      rcases hp.answered h hc ha with ⟨report, -, -, rfl⟩ | ⟨answer, -, -, rfl⟩
      · cases hs'
      · rw [hc] at hc'
        cases hc'
  | unkilled _ hp _ _ =>
      obtain ⟨between, -, hys⟩ := ha.split
      cases hys with
      | cons hk _ => exact (hb.kill_error hk).elim
  | unreaped _ hp _ _ =>
      obtain ⟨between, -, hys⟩ := ha.split
      cases hys with
      | cons _ hrest =>
          cases hrest with
          | cons hw _ => exact (hb.wait_error hw).elim
  | @reaped ys _ _ report _ hp hs' hc' =>
      obtain ⟨between, hys, -⟩ := ha.split
      rcases hp.answered h hc hys with ⟨report, -, -, rfl⟩ | ⟨answer, hr, hq, rfl⟩
      · cases hs'
      · rw [hc] at hc'
        cases hc'
        refine ⟨report, rfl, ⟨.wait child.index (.ok report), by simp, .inr rfl⟩, .inr ⟨?_, rfl⟩⟩
        rw [hq]
        exact hr

/-- **What an interrupt comes to**: the child has ended, its report is known, and the only way
to fail is that it slips through. -/
theorem Interrupts.outcome {result : Except Error Unit} (hx : Interrupts d xs result d')
    (h : d.Coherent) (hc : d.process = some child) (hb : Obliging b)
    (ha : Answers b state xs after) :
    ∃ report, d' = d.exited report
      ∧ (∃ x ∈ xs, x.Delivers child.index report)
      ∧ (Slips b child.index state ∧ result = .error .notRunning
          ∨ ¬ Slips b child.index state ∧ result = .ok ()) := by
  cases hx with
  | late hp hs =>
      rcases hp.answered h hc ha with ⟨report, rfl, hq, rfl⟩ | ⟨answer, -, -, rfl⟩
      · refine ⟨report, rfl, ⟨_, List.mem_singleton_self _, .inl rfl⟩, .inr ⟨?_, rfl⟩⟩
        rintro ⟨hnone, -⟩
        rw [hq] at hnone
        cases hnone
      · rw [(h.owned child hc).1] at hs
        cases hs
  | stopped hp hs hst =>
      -- The second poll starts in the state in which the first one has left the backend.
      obtain ⟨between, hxs, hys⟩ := ha.split
      rcases hp.answered h hc hxs with ⟨report, -, -, rfl⟩ | ⟨answer, hr, hq, rfl⟩
      · cases hs
      have hslips : Slips b child.index state
          ↔ (reported (b.tryWait child.index between).1).isSome = true := by
        rw [Slips, hq]
        exact and_iff_right hr
      obtain ⟨report, hd, ⟨x, hmem, hdel⟩, hres⟩ := hst.outcome h hc hb hys
      refine ⟨report, hd, ⟨x, List.mem_append_right _ hmem, hdel⟩, ?_⟩
      rw [hslips]
      rcases hres with ⟨hsome, hr⟩ | ⟨hnone, hr⟩
      · exact .inl ⟨hsome, hr⟩
      · exact .inr ⟨by rw [hnone]; simp, hr⟩

end Outcome

/-! ## Cancelled supervisions -/

/-- **A supervision is cancelled** after `k` looks: the command was started as the process
`pid`, the looks found it running and led to the sandbox `u` and the tally `t`, and the interrupt
has come then. -/
def Cancelled (b : Backend σ) (c : Clock σ) (command : String) (poll : UInt64) (k : Nat)
    (s : Sandbox σ) (pid : UInt32) (t : Tally) (u : Sandbox σ) : Prop :=
  ∃ s', s.exec b command = (.ok pid, s')
    ∧ Ticks b c poll pid k {} (s'.note [.started pid s'.descriptor.mode]) t u
    ∧ c.interrupted u.world.state = true

section Cancellation

variable {b : Backend σ} {c : Clock σ} {command : String} {poll : UInt64} {k looks : Nat}
  {s u : Sandbox σ} {pid : UInt32} {t : Tally}

/-- When the interrupt comes the sandbox still owns the child that was started. -/
theorem Cancelled.owned (hc : Cancelled b c command poll k s pid t u)
    (h : s.descriptor.Coherent) :
    u.descriptor.Coherent ∧ u.descriptor.process = some ⟨s.world.spawned, pid⟩ := by
  obtain ⟨s', hexec, hticks, -⟩ := hc
  obtain ⟨xs, hx, -⟩ := exec_spec b s command
  rw [hexec] at hx
  rw [hticks.descriptor_eq]
  exact ⟨hx.coherent h, hx.owned⟩

/-- What a sandbox remembers is there to be read when nothing runs. -/
theorem lastExit_of_idle {v : Sandbox σ} (h : v.descriptor.status = .idle) :
    v.lastExit b = (v.descriptor.lastExit, v) := by
  have hv : v.refresh b = v := if_pos (by rw [h]; simp)
  rw [lastExit, hv]

/-- The summary of a cancelled supervision. -/
def cancelledSummary (c : Clock σ) (command : String) (s : Sandbox σ) (pid : UInt32) (t : Tally)
    (report : ExitReport) (v : Sandbox σ) : Summary where
  command := command
  mode := v.descriptor.mode
  limits := v.descriptor.limits
  pid := pid
  exit := some report
  interrupted := true
  usage := t
  elapsed := c.now v.world.state - c.now s.world.state

/-- A cancelled supervision gives what the interrupt gives. -/
theorem Cancelled.supervise_eq (hc : Cancelled b c command poll k s pid t u) (hk : k < looks)
    {result : Except Error Unit} {v : Sandbox σ} {report : ExitReport}
    (hi : u.interrupt b pid = (result, v)) (hs : v.descriptor.status = .idle)
    (hr : v.descriptor.lastExit = some report) :
    s.supervise b c looks command poll
      = (some (result.map fun _ => cancelledSummary c command s pid t report v), v) := by
  obtain ⟨s', hexec, hticks, hcome⟩ := hc
  obtain ⟨rest, rfl⟩ := Nat.exists_eq_add_of_lt hk
  have hwatch : (s'.note [.started pid s'.descriptor.mode]).watch b c poll pid (k + (rest + 1)) {}
      = (some (result.map fun _ => (t, true)), v) := by
    rw [watch_of_ticks hticks, watch_of_interrupted hcome, hi]
  rw [Nat.add_assoc]
  unfold supervise
  rw [hexec]
  dsimp only
  rw [hwatch]
  cases result with
  | error cause => rfl
  | ok =>
      dsimp only [Except.map]
      rw [lastExit_of_idle hs, hr]
      rfl

/-- **How a cancelled supervision ends** when children can be killed and reaped. The child has
ended, the sandbox is idle and remembers a report of the backend about it. If the child slips
through the two polls then the supervision fails, as if there had been nothing to stop;
otherwise it ends as an interruption with that report. -/
theorem supervise_cancelled (hb : Obliging b) (hs : Reachable b s)
    (hc : Cancelled b c command poll k s pid t u) (hk : k < looks) :
    ∃ report xs v, u.world.Extends b xs v.world
      ∧ (∃ x ∈ xs, x.Delivers s.world.spawned report)
      ∧ v.descriptor.status = .idle ∧ v.descriptor.process = none
      ∧ v.descriptor.lastExit = some report
      ∧ (¬ Slips b s.world.spawned u.world.state →
          s.supervise b c looks command poll
            = (some (.ok (cancelledSummary c command s pid t report v)), v))
      ∧ (Slips b s.world.spawned u.world.state →
          s.supervise b c looks command poll = (some (.error .notRunning), v)) := by
  obtain ⟨hcoh, howned⟩ := hc.owned hs.coherent
  obtain ⟨xs, hx, he⟩ := interrupt_spec b pid u
  rcases hi : u.interrupt b pid with ⟨result, v⟩
  rw [hi] at hx he
  obtain ⟨report, hd, hdel, hres⟩ := hx.outcome hcoh howned hb he.answered
  change v.descriptor = _ at hd
  have hidle : v.descriptor.status = .idle := by rw [hd]; rfl
  have hnone : v.descriptor.process = none := by rw [hd]; rfl
  have hlast : v.descriptor.lastExit = some report := by rw [hd]; rfl
  have hsup := hc.supervise_eq hk hi hidle hlast
  refine ⟨report, xs, v, he, hdel, hidle, hnone, hlast, fun hno => ?_, fun hslips => ?_⟩
  · rcases hres with ⟨hslips, -⟩ | ⟨-, rfl⟩
    · exact absurd hslips hno
    · exact hsup
  · rcases hres with ⟨-, rfl⟩ | ⟨hno, -⟩
    · exact hsup
    · exact absurd hslips hno

end Cancellation

/-! ### A backend that counts polls down -/

/-- A backend whose only child is found alive by as many polls as its state says. -/
def countdown : Backend Nat where
  createContainer _ n := (.ok false, n)
  spawn _ _ _ n := (.ok 1001, n)
  tryWait _ n := if n = 0 then (.ok (some ⟨some 0, none⟩), 0) else (.ok none, n - 1)
  kill _ n := (.ok (), n)
  wait _ n := (.ok (.killed 9), n)
  memoryUsage _ n := (1024, n)
  cpuTime _ n := (15, n)
  announce _ _ := []

/-- An interrupt that comes when only so many polls are left. -/
def alarm (left : Nat) : Clock Nat where
  elapse _ n := n
  interrupted n := n ≤ left
  now _ := 0

/-- A look takes three polls, so that the interrupt comes after one look at a child that lasts for
seven. It is alive at both polls of the interrupt, and is killed. -/
theorem supervise_cancelled_alive :
    ∃ s w report v, create countdown .process {} { state := 7 } = (.ok s, w)
      ∧ v.descriptor.status = .idle ∧ v.descriptor.process = none
      ∧ ∃ r, s.supervise countdown (alarm 4) 2 "job" 10 = (some (.ok r), v)
        ∧ r.interrupted = true ∧ r.exit = some report := by
  have hb : Obliging countdown := ⟨fun _ _ => rfl, fun _ _ => ⟨_, rfl⟩⟩
  have hcancel : ∀ s w, create countdown .process {} { state := 7 } = (.ok s, w) →
      ∃ t u, Cancelled countdown (alarm 4) "job" 10 1 s 1001 t u ∧ u.world.state = 4 := by
    rintro s w ⟨⟩
    exact ⟨_, _, ⟨_, rfl, .next rfl rfl .none, rfl⟩, rfl⟩
  obtain ⟨s, w, h⟩ : ∃ s w, create countdown .process {} { state := 7 } = (.ok s, w) :=
    ⟨_, _, rfl⟩
  obtain ⟨t, u, hc, hu⟩ := hcancel s w h
  obtain ⟨report, xs, v, -, -, hidle, hnone, -, hends, -⟩ :=
    supervise_cancelled hb (.created h) hc (by decide : 1 < 2)
  refine ⟨s, w, report, v, h, hidle, hnone, _, hends ?_, rfl, rfl⟩
  rw [hu]
  rintro ⟨-, hsome⟩
  cases hsome

/-- **Not every cancelled supervision ends as an interruption**, even if children can always be
killed and reaped: this child is found alive by the status and has exited when it is to be
stopped. -/
theorem supervise_cancelled_fails :
    ∃ s w t u, create countdown .process {} { state := 4 } = (.ok s, w) ∧ Obliging countdown
      ∧ Cancelled countdown (alarm 1) "job" 10 1 s 1001 t u
      ∧ (s.supervise countdown (alarm 1) 2 "job" 10).1 = some (.error .notRunning) :=
  ⟨_, _, _, _, rfl, ⟨fun _ _ => rfl, fun _ _ => ⟨_, rfl⟩⟩, ⟨_, rfl, .next rfl rfl .none, rfl⟩, rfl⟩

end Confine.Sandbox

import Confine.Machine.Amd64
import Confine.Proofs.Sandbox.Coherence

set_option autoImplicit false

/-! # What becomes of a child

A child whose process is over must be reaped once, and its number may belong to another process
afterwards, so that every further request about it is a mistake. `Custody` is the discipline
that excludes such mistakes: which child is held, and whether the last request was a poll that
found it alive, decide which request may come next. `Custody.Run` says that a list of requests
keeps to it.

The laws about children (`Custody.Run.handled`, `killed`, `disposed`) are proved of every run of
the discipline, whatever makes the requests. `Performs.keeps` then says that every operation
of a sandbox keeps to the discipline, and `disposes_of_create` puts the two together.
-/

namespace Confine.Sandbox

variable {σ : Type}

/-! ## The discipline -/

/-- How children stand after some requests. -/
inductive Custody where
  /-- So many children were started, and all of them have ended. -/
  | free (started : Nat)
  /-- The child with this number was started last and has not ended. The flag says that the
  last request was a poll which found it alive. -/
  | held (child : Nat) (polled : Bool)

namespace Custody

/-- The number of children that were started. -/
def started : Custody → Nat
  | .free n => n
  | .held i _ => i + 1

/-- The number of children that have ended. -/
def ended : Custody → Nat
  | .free n => n
  | .held i _ => i

/-- **The request that may come next**, and how children stand after it. -/
inductive Step : Custody → Exchange → Custody → Prop
  | createContainer {n : Nat} {answer : Except String Bool} :
      Step (.free n) (.createContainer answer) (.free n)
  | refused {n : Nat} {command : String} {plan : Plan} {reason : String} :
      Step (.free n) (.spawn command plan (.error reason)) (.free n)
  | started {n : Nat} {command : String} {plan : Plan} {pid : UInt32} :
      Step (.free n) (.spawn command plan (.ok pid)) (.held n false)
  | exited {i : Nat} {polled : Bool} {report : ExitReport} :
      Step (.held i polled) (.tryWait i (.ok (some report))) (.free (i + 1))
  | alive {i : Nat} {polled : Bool} {answer : Except String (Option ExitReport)}
      (ha : reported answer = none) : Step (.held i polled) (.tryWait i answer) (.held i true)
  | killed {i : Nat} {answer : Except String Unit} :
      Step (.held i true) (.kill i answer) (.held i false)
  | waited {i : Nat} {polled : Bool} {answer : Except String ExitReport} :
      Step (.held i polled) (.wait i answer) (.free (i + 1))
  | memoryUsage {i : Nat} {polled : Bool} {pid : UInt32} {amount : UInt64} :
      Step (.held i polled) (.memoryUsage pid amount) (.held i false)
  | cpuTime {i : Nat} {polled : Bool} {pid : UInt32} {amount : UInt64} :
      Step (.held i polled) (.cpuTime pid amount) (.held i false)

/-- **A list of requests that keeps to the discipline.** -/
inductive Run : Custody → List Exchange → Custody → Prop
  | nil {c : Custody} : Run c [] c
  | cons {c c' c'' : Custody} {x : Exchange} {xs : List Exchange} (hx : Step c x c')
      (hxs : Run c' xs c'') : Run c (x :: xs) c''

variable {c c' c'' : Custody} {x : Exchange} {xs ys : List Exchange} {i : Nat}

/-! ### One step -/

theorem Step.run (h : Step c x c') : Run c [x] c' := .cons h .nil

theorem Step.started_eq (h : Step c x c') :
    c'.started = c.started + [x].countP Exchange.starts := by
  cases h <;> rfl

theorem Step.ended_le (h : Step c x c') : c.ended ≤ c'.ended := by
  cases h <;> simp [Custody.ended]

/-- Only the child that is held can be asked about. -/
theorem Step.held_of_child (h : Step c x c') (hi : x.child? = some i) :
    ∃ polled, c = .held i polled := by
  cases h <;> simp only [Exchange.child?, reduceCtorEq, Option.some.injEq] at hi
  all_goals
    subst hi
    exact ⟨_, rfl⟩

/-- A child has ended after a step exactly if it had ended before or the step ended it. -/
theorem Step.ended_iff (h : Step c x c') : i < c'.ended ↔ i < c.ended ∨ x.Ends i := by
  cases h with
  | createContainer | refused | started | killed | memoryUsage | cpuTime =>
      simp [Custody.ended, Exchange.Ends]
  | alive ha => simp [Custody.ended, Exchange.Ends, ha]
  | @exited j _ report =>
      have hends : (Exchange.tryWait j (.ok (some report))).Ends i ↔ j = i := and_iff_left rfl
      rw [hends]
      show i < j + 1 ↔ i < j ∨ j = i
      omega
  | @waited j =>
      show i < j + 1 ↔ i < j ∨ j = i
      omega

/-- A child is killed only after a poll that found it alive, and only such a poll leads to
where a child may be killed. -/
theorem Step.polled_of_kill {answer : Except String Unit} (h : Step c (.kill i answer) c') :
    c = .held i true := by
  cases h
  rfl

theorem Step.eq_poll (h : Step c x (.held i true)) :
    ∃ answer, x = .tryWait i answer ∧ reported answer = none := by
  cases h with
  | alive ha => exact ⟨_, rfl, ha⟩

/-! ### Many steps -/

theorem Run.append (h : Run c xs c') (h' : Run c' ys c'') : Run c (xs ++ ys) c'' := by
  induction h with
  | nil => exact h'
  | cons hx _ ih => exact .cons hx (ih h')

/-- A child that is killed and waited for has ended, whatever the answers are. -/
theorem Run.forced {killed : Except String Unit} {waited : Except String ExitReport} :
    Run (.held i true) [.kill i killed, .wait i waited] (.free (i + 1)) :=
  .cons .killed Step.waited.run

theorem Run.split (h : Run c (xs ++ x :: ys) c'') :
    ∃ c₁ c₂, Run c xs c₁ ∧ Step c₁ x c₂ ∧ Run c₂ ys c'' := by
  induction xs generalizing c with
  | nil =>
      cases h with
      | cons hx hys => exact ⟨c, _, .nil, hx, hys⟩
  | cons y xs ih =>
      cases h with
      | cons hy hrest =>
          obtain ⟨c₁, c₂, hxs, hx, hys⟩ := ih hrest
          exact ⟨c₁, c₂, .cons hy hxs, hx, hys⟩

theorem Run.started_eq (h : Run c xs c') :
    c'.started = c.started + xs.countP Exchange.starts := by
  induction h with
  | nil => rfl
  | @cons c c' c'' x xs hx _ ih =>
      rw [ih, hx.started_eq, Nat.add_assoc, ← List.countP_append, List.singleton_append]

theorem Run.ended_le (h : Run c xs c') : c.ended ≤ c'.ended := by
  induction h with
  | nil => exact Nat.le_refl _
  | cons hx _ ih => exact hx.ended_le.trans ih

/-- What has ended is not asked about again. -/
theorem Run.ended_le_child (h : Run c xs c') (hx : x ∈ xs) (hi : x.child? = some i) :
    c.ended ≤ i := by
  obtain ⟨pre, post, rfl⟩ := List.append_of_mem hx
  obtain ⟨c₁, c₂, hpre, hstep, -⟩ := h.split
  obtain ⟨polled, rfl⟩ := hstep.held_of_child hi
  exact hpre.ended_le

/-! ### The laws -/

/-- **A child is asked about only while it is the last one started.** -/
theorem Run.handled {n : Nat} (h : Run (.free n) (xs ++ x :: ys) c') (hi : x.child? = some i) :
    n ≤ i ∧ n + xs.countP Exchange.starts = i + 1 := by
  obtain ⟨c₁, c₂, hxs, hx, -⟩ := h.split
  obtain ⟨polled, rfl⟩ := hx.held_of_child hi
  exact ⟨hxs.ended_le, hxs.started_eq.symm⟩

/-- What leads to a child that was just polled ends with that poll. -/
theorem Run.eq_poll (h : Run c xs (.held i true)) (hc : c ≠ .held i true) :
    ∃ ys answer, xs = ys ++ [.tryWait i answer] ∧ reported answer = none := by
  induction xs using List.reverseRecOn with
  | nil =>
      cases h
      exact absurd rfl hc
  | append_singleton ys x _ =>
      obtain ⟨c₁, c₂, -, hx, hnil⟩ := h.split
      cases hnil
      obtain ⟨answer, rfl, ha⟩ := hx.eq_poll
      exact ⟨ys, answer, rfl, ha⟩

/-- **A child is killed only right after a poll that found it alive.** -/
theorem Run.killed {n : Nat} {answer : Except String Unit}
    (h : Run (.free n) (xs ++ .kill i answer :: ys) c') :
    ∃ before polled, xs = before ++ [.tryWait i polled] ∧ reported polled = none := by
  obtain ⟨c₁, c₂, hxs, hx, -⟩ := h.split
  rw [hx.polled_of_kill] at hxs
  exact hxs.eq_poll (by simp)

/-- **A child that has ended was ended once**, and was not asked about any more. -/
theorem Run.disposed (h : Run c xs c') (hc : c.ended ≤ i) (hi : i < c'.ended) :
    ∃ before x after, xs = before ++ x :: after ∧ x.Ends i ∧ (∀ y ∈ before, ¬ y.Ends i)
      ∧ ∀ y ∈ after, y.child? ≠ some i := by
  induction h with
  | nil => omega
  | @cons c c₁ c' x xs hx hxs ih =>
      by_cases hends : x.Ends i
      · -- This is the end of the child: from here on only later children can be asked about.
        have hlt := hx.ended_iff.mpr (.inr hends)
        refine ⟨[], x, xs, rfl, hends, by simp, fun y hy hchild => ?_⟩
        have hle := hxs.ended_le_child hy hchild
        omega
      · have hle : c₁.ended ≤ i := by
          by_contra hlt
          rcases hx.ended_iff.mp (Nat.lt_of_not_le hlt) with hlt | h
          · omega
          · exact hends h
        obtain ⟨before, y, after, rfl, hy, hbefore, hafter⟩ := ih hle hi
        refine ⟨x :: before, y, after, rfl, hy, ?_, hafter⟩
        rintro z (_ | ⟨_, hz⟩)
        · exact hends
        · exact hbefore z hz

end Custody

/-! ## Sandboxes keep to the discipline -/

/-- How children stand is what the descriptor says: the child it owns is the one that is held. -/
def Custody.Shows : Custody → Descriptor → Prop
  | .free _, d => d.process = none
  | .held i _, d => ∃ pid, d.process = some ⟨i, pid⟩

section Operations

variable {n : Nat} {c : Custody} {d d' : Descriptor} {xs : List Exchange}

theorem Custody.Shows.eq_free (hc : c.Shows d) (h : d.process = none) : c = .free c.started := by
  cases c with
  | free => rfl
  | held i polled =>
      obtain ⟨pid, hp⟩ := hc
      rw [h] at hp
      cases hp

theorem Custody.Shows.eq_held (hc : c.Shows d) {child : Child} (h : d.process = some child) :
    ∃ polled, c = .held child.index polled := by
  cases c with
  | free =>
      rw [show d.process = none from hc] at h
      cases h
  | held i polled =>
      obtain ⟨pid, hp⟩ := hc
      rw [h] at hp
      cases hp
      exact ⟨polled, rfl⟩

/-- A poll after which no child is owned. -/
theorem Polls.run_free (hp : Polls d xs d') (h : d.Coherent) (hc : c.Shows d)
    (hnone : d'.process = none) : c.Run xs (.free c.started) := by
  cases hown : d.process with
  | none =>
      obtain ⟨rfl, rfl⟩ := hp.eq_of_vacant hown
      rw [← hc.eq_free hown]
      exact .nil
  | some child =>
      obtain ⟨polled, rfl⟩ := hc.eq_held hown
      rcases hp.of_owned h hown with ⟨report, rfl, rfl⟩ | ⟨answer, ha, rfl, rfl⟩
      · exact Custody.Step.exited.run
      · rw [hown] at hnone
        cases hnone

/-- A poll after which a child is owned has found it alive. -/
theorem Polls.run_held (hp : Polls d xs d') (h : d.Coherent) (hc : c.Shows d) {child : Child}
    (hsome : d'.process = some child) : c.Run xs (.held child.index true) := by
  cases hown : d.process with
  | none =>
      obtain ⟨rfl, rfl⟩ := hp.eq_of_vacant hown
      rw [hown] at hsome
      cases hsome
  | some child =>
      obtain ⟨polled, rfl⟩ := hc.eq_held hown
      rcases hp.of_owned h hown with ⟨report, rfl, rfl⟩ | ⟨answer, ha, rfl, rfl⟩
      · cases hsome
      · rw [hown] at hsome
        cases hsome
        exact (Custody.Step.alive ha).run

/-- `c.Keeps xs d'`: the requests keep to the discipline from where children stood, and lead to
where the descriptor says that they stand. -/
def Custody.Keeps (c : Custody) (xs : List Exchange) (d' : Descriptor) : Prop :=
  ∃ c', c.Run xs c' ∧ c'.Shows d'

theorem Polls.keeps (hp : Polls d xs d') (h : d.Coherent) (hc : c.Shows d) : c.Keeps xs d' := by
  cases hown : d'.process with
  | none => exact ⟨_, hp.run_free h hc hown, hown⟩
  | some child => exact ⟨_, hp.run_held h hc hown, child.pid, hown⟩

theorem Execs.keeps {command : String} {result : Except Error UInt32}
    (hx : Execs n command d xs result d') (h : d.Coherent) (hc : c.Shows d)
    (hn : c.started = n) : c.Keeps xs d' := by
  subst hn
  cases hx with
  | destroyed => exact ⟨c, .nil, hc⟩
  | busy _ hp _ => exact hp.keeps h hc
  | refused _ hp hs =>
      have hnone := (hp.coherent h).process_of_idle hs
      exact ⟨_, (hp.run_free h hc hnone).append Custody.Step.refused.run, hnone⟩
  | started _ hp hs =>
      -- The new child takes the place of none: an idle sandbox owns no child.
      have hnone := (hp.coherent h).process_of_idle hs
      exact ⟨_, (hp.run_free h hc hnone).append Custody.Step.started.run, _, rfl⟩

theorem ExecsCode.keeps {m : Machine} {bytes : List UInt8} {result : Except Error Int32}
    (hx : ExecsCode m bytes d xs result d') (h : d.Coherent) (hc : c.Shows d) :
    c.Keeps xs d' := by
  cases hx with
  | destroyed | unsupported => exact ⟨c, .nil, hc⟩
  | busy _ _ hp _ | empty _ _ hp _ _ | unmapped _ _ hp _ _ _ | unsealed _ _ hp _ _ _ _ =>
      exact hp.keeps h hc
  | ran _ _ hp hnone _ _ _ => exact ⟨_, hp.run_free h hc hnone, hnone⟩

theorem Stops.keeps {result : Except Error Unit} (hx : Stops d xs result d') (h : d.Coherent)
    (hc : c.Shows d) : c.Keeps xs d' := by
  cases hx with
  | destroyed => exact ⟨c, .nil, hc⟩
  | idle _ hp _ => exact hp.keeps h hc
  | released _ hp _ hnone => exact ⟨_, hp.run_free h hc hnone, hnone⟩
  | unkilled _ hp _ hsome =>
      -- The child that could not be killed stays where it was.
      exact ⟨_, (hp.run_held h hc hsome).append Custody.Step.killed.run, _, hsome⟩
  | unreaped _ hp _ hsome | reaped _ hp _ hsome =>
      exact ⟨_, (hp.run_held h hc hsome).append Custody.Run.forced, rfl⟩

/-- Giving up a child ends it on every path. -/
theorem Reaps.custody {report : Option ExitReport} (hr : Reaps d.process xs report)
    (hc : c.Shows d) : ∃ n, c.Run xs (.free n) := by
  cases hp : d.process with
  | none =>
      rw [hp] at hr
      cases hr
      rw [hc.eq_free hp]
      exact ⟨_, .nil⟩
  | some child =>
      obtain ⟨polled, rfl⟩ := hc.eq_held hp
      rw [hp] at hr
      cases hr with
      | exited => exact ⟨_, Custody.Step.exited.run⟩
      | forced ha => exact ⟨_, .cons (.alive ha) .forced⟩

theorem Destroys.keeps {result : Except Error Unit} (hx : Destroys d xs result d')
    (hc : c.Shows d) : c.Keeps xs d' := by
  cases hx with
  | destroyed => exact ⟨c, .nil, hc⟩
  | done _ hr =>
      obtain ⟨n, hr⟩ := hr.custody hc
      exact ⟨_, hr, rfl⟩

/-- Both usages are read of the child that is held. -/
theorem Reads.keeps {ask : UInt32 → UInt64 → Exchange} {amount : UInt64}
    (hx : Reads ask d xs amount d') (h : d.Coherent) (hc : c.Shows d)
    (hask : ∀ i polled pid amount, Custody.Step (.held i polled) (ask pid amount)
      (.held i false)) : c.Keeps xs d' := by
  cases hx with
  | nothing hp _ => exact hp.keeps h hc
  | read hp hsome _ => exact ⟨_, (hp.run_held h hc hsome).append (hask _ _ _ _).run, _, hsome⟩

theorem Reports.keeps {report : Report} (hx : Reports d xs report d') (h : d.Coherent)
    (hc : c.Shows d) : c.Keeps xs d' := by
  cases hx with
  | mk hp hm hu =>
      have h₁ := hp.coherent h
      obtain ⟨c₁, hr₁, hc₁⟩ := hp.keeps h hc
      obtain ⟨c₂, hr₂, hc₂⟩ := hm.keeps h₁ hc₁ fun _ _ _ _ => .memoryUsage
      obtain ⟨c₃, hr₃, hc₃⟩ := hu.keeps (hm.coherent h₁) hc₂ fun _ _ _ _ => .cpuTime
      exact ⟨c₃, hr₁.append (hr₂.append hr₃), hc₃⟩

/-- **Every operation keeps to the discipline**, whatever the backend answers. -/
theorem Performs.keeps {operation : Operation} {reply : Reply}
    (hx : Performs n d operation xs reply d') (h : d.Coherent) (hc : c.Shows d)
    (hn : c.started = n) : c.Keeps xs d' := by
  cases hx with
  | exec hx => exact hx.keeps h hc hn
  | execCode hx | stop hx | report hx => exact hx.keeps h hc
  | destroy hx => exact hx.keeps hc
  | status hp | lastExit hp => exact hp.keeps h hc
  | memory hx => exact hx.keeps h hc fun _ _ _ _ => .memoryUsage
  | cpuTime hx => exact hx.keeps h hc fun _ _ _ _ => .cpuTime
  | pid | mode | limits | lastResult | flags => exact ⟨c, .nil, hc⟩

/-- A destroyed sandbox asks for nothing and does not change. -/
theorem Performs.eq_of_destroyed {operation : Operation} {reply : Reply}
    (hx : Performs n d operation xs reply d') (h : d.Coherent) (hd : d.destroyed = true) :
    xs = [] ∧ d' = d := by
  have hnone := (h.destroyed hd).2.2.1
  cases hx with
  | exec hx =>
      cases hx with
      | destroyed => exact ⟨rfl, rfl⟩
      | busy h' | refused h' | started h' => exact absurd hd (by simp [h'])
  | execCode hx =>
      cases hx with
      | destroyed => exact ⟨rfl, rfl⟩
      | unsupported h' | busy h' | empty h' | unmapped h' | unsealed h' | ran h' =>
          exact absurd hd (by simp [h'])
  | stop hx =>
      cases hx with
      | destroyed => exact ⟨rfl, rfl⟩
      | idle h' | released h' | unkilled h' | unreaped h' | reaped h' =>
          exact absurd hd (by simp [h'])
  | destroy hx =>
      cases hx with
      | destroyed => exact ⟨rfl, rfl⟩
      | done h' => exact absurd hd (by simp [h'])
  | status hp | lastExit hp => exact hp.eq_of_vacant hnone
  | memory hr | cpuTime hr =>
      obtain ⟨rfl, -, rfl⟩ := hr.eq_of_vacant hnone
      exact ⟨rfl, rfl⟩
  | report hx =>
      cases hx with
      | mk hp hm hc =>
          obtain ⟨rfl, rfl⟩ := hp.eq_of_vacant hnone
          obtain ⟨rfl, -, rfl⟩ := hm.eq_of_vacant hnone
          obtain ⟨rfl, -, rfl⟩ := hc.eq_of_vacant hnone
          exact ⟨rfl, rfl⟩
  | pid | mode | limits | lastResult | flags => exact ⟨rfl, rfl⟩

end Operations

/-! ## Courses of requests -/

/-- **Every child is disposed of once.** The course `xs` of requests begins when `n` children
were started: a child is asked about only after it was started and before the next one is; it
is killed only right after a poll that found it alive; and every child that is started is ended
exactly once and not asked about any more. -/
structure Disposes (n : Nat) (xs : List Exchange) : Prop where
  handled : ∀ before x after i, xs = before ++ x :: after → x.child? = some i →
    n ≤ i ∧ n + before.countP Exchange.starts = i + 1
  killed : ∀ before i answer after, xs = before ++ .kill i answer :: after →
    ∃ earlier polled, before = earlier ++ [.tryWait i polled] ∧ reported polled = none
  disposed : ∀ i, n ≤ i → i < n + xs.countP Exchange.starts →
    ∃ before x after, xs = before ++ x :: after ∧ x.Ends i ∧ (∀ y ∈ before, ¬ y.Ends i)
      ∧ ∀ y ∈ after, y.child? ≠ some i

/-- A run that starts and ends without a child disposes of all children in between. -/
theorem Custody.Run.disposes {n k : Nat} {xs : List Exchange} (h : Run (.free n) xs (.free k)) :
    Disposes n xs := by
  refine ⟨?_, ?_, ?_⟩
  · rintro before x after i rfl hi
    exact h.handled hi
  · rintro before i answer after rfl
    exact h.killed
  · intro i hn hi
    have hk : k = n + xs.countP Exchange.starts := h.started_eq
    exact h.disposed hn (by rw [hk]; exact hi)

section Runs

variable {b : Backend σ}

theorem keeps_performAll {s : Sandbox σ} (h : s.descriptor.Coherent) {c : Custody}
    (hc : c.Shows s.descriptor) (hn : c.started = s.world.spawned)
    (operations : List Operation) :
    ∃ xs, c.Keeps xs (s.performAll b operations).2.descriptor
      ∧ s.world.Extends b xs (s.performAll b operations).2.world := by
  induction operations generalizing s c with
  | nil => exact ⟨[], ⟨c, .nil, hc⟩, .refl b s.world⟩
  | cons operation rest ih =>
      obtain ⟨xs, hx, he⟩ := perform_spec b s operation
      obtain ⟨c₁, hr, hc₁⟩ := hx.keeps h hc hn
      have hn₁ : c₁.started = (s.perform b operation).2.world.spawned := by
        rw [hr.started_eq, hn, he.spawned]
      obtain ⟨ys, ⟨c₂, hr', hc₂⟩, he'⟩ := ih (hx.coherent h) hc₁ hn₁
      exact ⟨xs ++ ys, ⟨c₂, hr.append hr', hc₂⟩, he.trans he'⟩

/-- When a sandbox goes out of use no child is left. -/
theorem keeps_drop {s : Sandbox σ} (h : s.descriptor.Coherent) {c : Custody}
    (hc : c.Shows s.descriptor) :
    ∃ xs n, c.Run xs (.free n) ∧ s.world.Extends b xs (s.drop b).world := by
  unfold drop
  by_cases hd : s.descriptor.destroyed = true
  · rw [if_pos hd]
    refine ⟨[], c.started, ?_, .refl b s.world⟩
    rw [← hc.eq_free (h.destroyed hd).2.2.1]
    exact .nil
  · rw [if_neg hd]
    obtain ⟨xs, report, hr, -, he⟩ := teardown_spec b s
    obtain ⟨n, hrun⟩ := hr.custody hc
    exact ⟨xs, n, hrun, he⟩

theorem performAll_append (s : Sandbox σ) (xs ys : List Operation) :
    (s.performAll b (xs ++ ys)).2 = ((s.performAll b xs).2.performAll b ys).2 := by
  induction xs generalizing s with
  | nil => rfl
  | cons operation rest ih => exact ih (s.perform b operation).2

/-- Nothing is asked for on behalf of a sandbox that has been destroyed. -/
theorem performAll_of_destroyed {s : Sandbox σ} (h : s.descriptor.Coherent)
    (hd : s.descriptor.destroyed = true) (operations : List Operation) :
    (s.performAll b operations).2.descriptor = s.descriptor
      ∧ (s.performAll b operations).2.world.exchanges = s.world.exchanges := by
  induction operations generalizing s with
  | nil => exact ⟨rfl, rfl⟩
  | cons operation rest ih =>
      obtain ⟨xs, hx, he⟩ := perform_spec b s operation
      obtain ⟨rfl, hsame⟩ := hx.eq_of_destroyed h hd
      have hex := he.exchanges
      rw [List.append_nil] at hex
      rw [← hsame] at h hd
      obtain ⟨hd', he'⟩ := ih h hd
      exact ⟨hd'.trans hsame, he'.trans hex⟩

theorem destroyed_of_destroy {s : Sandbox σ} (h : (s.perform b .destroy).1 = .done) :
    (s.perform b .destroy).2.descriptor.destroyed = true := by
  obtain ⟨xs, hx, -⟩ := destroy_spec b s
  change Reply.ofExcept (fun _ => .done) (s.destroy b).1 = .done at h
  change (s.destroy b).2.descriptor.destroyed = true
  generalize (s.destroy b).1 = result at h hx
  generalize (s.destroy b).2.descriptor = d at hx ⊢
  cases hx with
  | destroyed => cases h
  | done => rfl

/-- **No child is lost, and none is touched too often**: whatever is done with a sandbox until
it goes out of use, and whatever the backend answers to the requests. Once it has been destroyed,
nothing is asked for any more. -/
theorem disposes_of_create {mode : Mode} {limits : Limits} {w w' : World σ} {s : Sandbox σ}
    (h : create b mode limits w = (.ok s, w')) (operations : List Operation) :
    (∃ xs, ((s.performAll b operations).2.drop b).world.exchanges = w.exchanges ++ xs
        ∧ Answers b w.state xs ((s.performAll b operations).2.drop b).world.state
        ∧ Disposes w.spawned xs)
      ∧ ∀ before after, operations = before ++ .destroy :: after →
        ((s.performAll b before).2.perform b .destroy).1 = .done →
        ((s.performAll b operations).2.drop b).world.exchanges
          = ((s.performAll b before).2.perform b .destroy).2.world.exchanges := by
  have hcoh := coherent_of_create h
  constructor
  · obtain ⟨xs₀, container, -, hd, hxs₀, he₀⟩ := create_spec h
    have hshows : (Custody.free w.spawned).Shows s.descriptor := by
      rw [hd]
      rfl
    have hrun₀ : (Custody.free w.spawned).Run xs₀ (.free w.spawned) := by
      rcases hxs₀ with rfl | ⟨answer, rfl⟩
      · exact .nil
      · exact Custody.Step.createContainer.run
    have hn : w.spawned = s.world.spawned := by
      have hk := hrun₀.started_eq
      rw [he₀.spawned]
      exact hk
    obtain ⟨xs, ⟨c, hrun, hc⟩, he⟩ := keeps_performAll hcoh hshows hn operations
    obtain ⟨ys, n, hrun', he'⟩ := keeps_drop (b := b) (coherent_performAll hcoh operations) hc
    have hall := he₀.trans (he.trans he')
    refine ⟨xs₀ ++ (xs ++ ys), hall.exchanges, hall.answered, ?_⟩
    exact (hrun₀.append (hrun.append hrun')).disposes
  · rintro before after rfl hdone
    have hd := destroyed_of_destroy hdone
    have hu : ((s.performAll b before).2.perform b .destroy).2.descriptor.Coherent :=
      coherent_perform (coherent_performAll hcoh before) .destroy
    have hall : (s.performAll b (before ++ .destroy :: after)).2
        = (((s.performAll b before).2.perform b .destroy).2.performAll b after).2 :=
      performAll_append s before (.destroy :: after)
    obtain ⟨hd', he⟩ := performAll_of_destroyed (b := b) hu hd after
    rw [hall, drop, if_pos (by rw [hd', hd])]
    exact he

end Runs

/-- A child that is found alive, killed and reaped, in a sandbox that is destroyed afterwards:
nothing is asked for by the destruction and after it. -/
theorem disposes_of_stop_destroy :
    ∃ s w, create Scripted.backend .process {} (lingering 2) = (.ok s, w)
      ∧ (∃ xs, ((s.performAll Scripted.backend
            [.exec "job", .stop, .destroy]).2.drop Scripted.backend).world.exchanges = [] ++ xs
          ∧ Disposes 0 xs)
      ∧ ((s.performAll Scripted.backend
            [.exec "job", .stop, .destroy]).2.drop Scripted.backend).world.exchanges
          = ((s.performAll Scripted.backend [.exec "job", .stop]).2.perform
            Scripted.backend .destroy).2.world.exchanges := by
  have h : create Scripted.backend .process {} (lingering 2) = _ := rfl
  obtain ⟨hall, hquiet⟩ := disposes_of_create h [.exec "job", .stop, .destroy]
  obtain ⟨xs, hxs, -, hdisposes⟩ := hall
  exact ⟨_, _, h, ⟨xs, hxs, hdisposes⟩, hquiet [.exec "job", .stop] [] rfl rfl⟩

end Confine.Sandbox

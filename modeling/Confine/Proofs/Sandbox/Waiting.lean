import Confine.Proofs.Sandbox.Recollection

set_option autoImplicit false

/-! # What is waited for

A wait returns when the child has exited, so that waiting for a child which nothing has killed may
take forever. `WaitsForKilled` is the law that this never happens. Stopping keeps to it, since the
wait follows the kill only if the kill has succeeded, and so the two requests come in pairs
(`Paired`). Giving up the sandbox does not: a child that cannot be killed is waited for all the
same. `waitsForKilled_iff` says that this is the only exception.
-/

namespace Confine.Sandbox

variable {σ : Type}

/-! ## Kills and waits -/

/-- **Only what was killed is waited for**: each wait comes after a kill of the same child that has
succeeded. -/
def WaitsForKilled (xs : List Exchange) : Prop :=
  ∀ before i answer after, xs = before ++ .wait i answer :: after → .kill i (.ok ()) ∈ before

/-- Whether a request kills a child or waits for one. A kill that is refused does not count. -/
def Exchange.forces : Exchange → Bool
  | .kill _ (.ok _) | .wait _ _ => true
  | _ => false

/-- Kills that succeed and waits come in pairs, the kill of a child right before the wait for
it. -/
inductive Paired : List Exchange → Prop
  | nil : Paired []
  | other {x : Exchange} {xs : List Exchange} (hx : x.forces = false) (h : Paired xs) :
      Paired (x :: xs)
  | pair {i : Nat} {answer : Except String ExitReport} {xs : List Exchange} (h : Paired xs) :
      Paired (.kill i (.ok ()) :: .wait i answer :: xs)

namespace Paired

variable {xs ys : List Exchange} {i : Nat}

theorem append (h : Paired xs) (h' : Paired ys) : Paired (xs ++ ys) := by
  induction h with
  | nil => exact h'
  | other hx _ ih => exact .other hx ih
  | pair _ ih => exact .pair ih

theorem waitsForKilled (h : Paired xs) : WaitsForKilled xs := by
  induction h with
  | nil =>
      intro before i answer after hxs
      simp at hxs
  | @other x xs hx _ ih =>
      rintro (_ | ⟨y, before⟩) i answer after hxs
      · cases hxs
        cases hx
      · cases hxs
        exact List.mem_cons_of_mem _ (ih before i answer after rfl)
  | @pair j _ xs _ ih =>
      -- The wait is that of the pair, with the kill before it, or a later one.
      rintro (_ | ⟨y, _ | ⟨z, before⟩⟩) i answer after hxs
      · cases hxs
      · cases hxs
        exact List.mem_cons_self
      · cases hxs
        have hmem := ih before i answer after rfl
        exact List.mem_cons_of_mem _ (List.mem_cons_of_mem _ hmem)

/-- What was killed is waited for. -/
theorem waited (h : Paired xs) (hi : .kill i (.ok ()) ∈ xs) : ∃ answer, .wait i answer ∈ xs := by
  induction h with
  | nil => cases hi
  | @other x xs hx _ ih =>
      rcases List.mem_cons.mp hi with rfl | hi
      · cases hx
      · obtain ⟨answer, hmem⟩ := ih hi
        exact ⟨answer, List.mem_cons_of_mem x hmem⟩
  | @pair j answer xs _ ih =>
      rcases List.mem_cons.mp hi with heq | hi
      · cases heq
        exact ⟨answer, List.mem_cons_of_mem _ List.mem_cons_self⟩
      · rcases List.mem_cons.mp hi with heq | hi
        · cases heq
        · obtain ⟨answer', hmem⟩ := ih hi
          exact ⟨answer', List.mem_cons_of_mem _ (List.mem_cons_of_mem _ hmem)⟩

end Paired

/-! ## What the operations ask for -/

section Operations

variable {n : Nat} {d d' : Descriptor} {xs : List Exchange}

theorem Polls.paired (hp : Polls d xs d') : Paired xs := by
  cases hp with
  | still => exact .nil
  | exited | alive => exact .other rfl .nil

theorem Reads.paired {ask : UInt32 → UInt64 → Exchange} {amount : UInt64}
    (hx : Reads ask d xs amount d') (hask : ∀ pid amount, (ask pid amount).forces = false) :
    Paired xs := by
  cases hx with
  | nothing hp _ => exact hp.paired
  | read hp _ _ => exact hp.paired.append (.other (hask _ _) .nil)

/-- Stopping waits for the child only if the kill has succeeded. -/
theorem Stops.paired {result : Except Error Unit} (hx : Stops d xs result d') : Paired xs := by
  cases hx with
  | destroyed => exact .nil
  | idle _ hp _ | released _ hp _ _ => exact hp.paired
  | unkilled _ hp _ _ => exact hp.paired.append (.other rfl .nil)
  | unreaped _ hp _ _ | reaped _ hp _ _ => exact hp.paired.append (.pair .nil)

/-- **Every operation but destroying waits only for what it has killed.** -/
theorem Performs.paired {operation : Operation} {reply : Reply}
    (hx : Performs n d operation xs reply d') (hne : operation ≠ .destroy) : Paired xs := by
  cases hx with
  | exec hx =>
      cases hx with
      | destroyed => exact .nil
      | busy _ hp _ => exact hp.paired
      | refused _ hp _ | started _ hp _ => exact hp.paired.append (.other rfl .nil)
  | execCode hx =>
      cases hx with
      | destroyed | unsupported => exact .nil
      | busy _ _ hp _ | empty _ _ hp _ _ | unmapped _ _ hp _ _ _ | unsealed _ _ hp _ _ _ _
      | ran _ _ hp _ _ _ _ => exact hp.paired
  | stop hx => exact hx.paired
  | destroy => exact absurd rfl hne
  | status hp | lastExit hp => exact hp.paired
  | memory hx | cpuTime hx => exact hx.paired fun _ _ => rfl
  | report hx =>
      cases hx with
      | mk hp hm hc =>
          have hreadings := (hm.paired fun _ _ => rfl).append (hc.paired fun _ _ => rfl)
          exact hp.paired.append hreadings
  | pid | mode | limits | lastResult | flags => exact .nil

/-- Nothing but destroying leads to a sandbox that is destroyed. -/
theorem Performs.destroyed_eq {operation : Operation} {reply : Reply}
    (hx : Performs n d operation xs reply d') (hne : operation ≠ .destroy) :
    d'.destroyed = d.destroyed := by
  have hreads : ∀ {ask : UInt32 → UInt64 → Exchange} {amount : UInt64} {d d' : Descriptor}
      {xs : List Exchange}, Reads ask d xs amount d' → d'.destroyed = d.destroyed := by
    rintro ask amount d d' xs (⟨hp, -⟩ | ⟨hp, -, -⟩)
    · exact hp.destroyed_eq
    · exact hp.destroyed_eq
  cases hx with
  | exec hx =>
      cases hx with
      | destroyed => rfl
      | busy _ hp _ | refused _ hp _ | started _ hp _ => exact hp.destroyed_eq
  | execCode hx =>
      cases hx with
      | destroyed | unsupported => rfl
      | busy _ _ hp _ | empty _ _ hp _ _ | unmapped _ _ hp _ _ _ | unsealed _ _ hp _ _ _ _
      | ran _ _ hp _ _ _ _ => exact hp.destroyed_eq
  | stop hx =>
      cases hx with
      | destroyed => rfl
      | idle _ hp _ | released _ hp _ _ | unkilled _ hp _ _ | unreaped _ hp _ _
      | reaped _ hp _ _ => exact hp.destroyed_eq
  | destroy => exact absurd rfl hne
  | status hp | lastExit hp => exact hp.destroyed_eq
  | memory hx | cpuTime hx => exact hreads hx
  | report hx =>
      cases hx with
      | mk hp hm hc => rw [hreads hc, hreads hm, hp.destroyed_eq]
  | pid | mode | limits | lastResult | flags => rfl

/-- **Giving up a child is waiting for what was killed** exactly if the kill is not refused. What
was asked for before is no excuse: a child that is still owned has not been killed by it. -/
theorem Reaps.waitsForKilled_iff_left {ys : List Exchange} {report : Option ExitReport}
    {c c' : Custody} (hr : Reaps d.process ys report) (hrun : c.Run xs c') (hc : c'.Shows d)
    (hp : Paired xs) :
    WaitsForKilled (xs ++ ys) ↔ ∀ i reason, .kill i (.error reason) ∉ ys := by
  generalize hown : d.process = owned at hr
  cases hr with
  | nothing => exact iff_of_true (hp.append .nil).waitsForKilled (by simp)
  | exited => exact iff_of_true (hp.append (.other rfl .nil)).waitsForKilled (by simp)
  | @forced child answer killed waited ha =>
      rcases killed with reason | ⟨⟩
      · refine iff_of_false (fun hall => ?_) (fun hno => hno child.index reason (by simp))
        have hmem := hall (xs ++ [.tryWait child.index answer, .kill child.index (.error reason)])
          child.index waited [] (by simp)
        have hkill : .kill child.index (.ok ()) ∈ xs := by simpa using hmem
        -- A kill that succeeded was followed by a wait, after which the child is no longer held.
        obtain ⟨answer', hwait⟩ := hp.waited hkill
        obtain ⟨polled, rfl⟩ := hc.eq_held hown
        have hlt : child.index < child.index := hrun.lt_ended hwait rfl
        omega
      · exact iff_of_true (hp.append (.other rfl (.pair .nil))).waitsForKilled (by simp)

end Operations

/-! ## Whole courses of use -/

section Runs

variable {b : Backend σ}

/-- Whether an operation is the request to destroy the sandbox. -/
def Operation.destroys : Operation → Bool
  | .destroy => true
  | _ => false

theorem Operation.destroys_eq_false_iff {operation : Operation} :
    operation.destroys = false ↔ operation ≠ .destroy := by
  cases operation <;> simp [destroys]

/-- The operations before the sandbox is destroyed. -/
def Operation.beforeDestroy (operations : List Operation) : List Operation :=
  operations.takeWhile fun operation => !operation.destroys

theorem paired_beforeDestroy (s : Sandbox σ) (operations : List Operation) :
    ∃ xs, Paired xs
      ∧ s.world.Extends b xs
          (s.performAll b (Operation.beforeDestroy operations)).2.world
      ∧ (s.performAll b (Operation.beforeDestroy operations)).2.descriptor.destroyed
          = s.descriptor.destroyed := by
  unfold Operation.beforeDestroy
  induction operations generalizing s with
  | nil => exact ⟨[], .nil, .refl b s.world, rfl⟩
  | cons operation rest ih =>
      by_cases hne : operation = .destroy
      · subst hne
        exact ⟨[], .nil, .refl b s.world, rfl⟩
      · rw [List.takeWhile_cons_of_pos (by simpa [Operation.destroys_eq_false_iff] using hne)]
        obtain ⟨xs, hx, he⟩ := perform_spec b s operation
        obtain ⟨ys, hys, he', hd⟩ := ih (s.perform b operation).2
        exact ⟨xs ++ ys, (hx.paired hne).append hys, he.trans he',
          hd.trans (hx.destroyed_eq hne)⟩

/-- When a sandbox is created no child is held, and nothing is killed. -/
theorem custody_of_create {mode : Mode} {limits : Limits} {w w' : World σ} {s : Sandbox σ}
    (h : create b mode limits w = (.ok s, w')) :
    ∃ xs, w.Extends b xs s.world ∧ (Custody.free w.spawned).Run xs (.free w.spawned)
      ∧ (Custody.free w.spawned).Shows s.descriptor ∧ w.spawned = s.world.spawned
      ∧ Paired xs := by
  obtain ⟨xs, container, -, hd, hxs, he⟩ := create_spec h
  have hshows : (Custody.free w.spawned).Shows s.descriptor := by
    rw [hd]
    rfl
  refine ⟨xs, he, ?_⟩
  rcases hxs with rfl | ⟨answer, rfl⟩
  · exact ⟨.nil, hshows, he.spawned.symm, .nil⟩
  · exact ⟨Custody.Step.createContainer.run, hshows, he.spawned.symm, .other rfl .nil⟩

/-- Nothing is asked for after the sandbox has been given up, and so the operations before that
decide what is asked for when it is. -/
theorem exchanges_drop {s : Sandbox σ} (h : s.descriptor.Coherent)
    (hd : s.descriptor.destroyed = false) (operations : List Operation) :
    ((s.performAll b operations).2.drop b).world.exchanges
      = ((s.performAll b (Operation.beforeDestroy operations)).2.teardown
          b).world.exchanges := by
  unfold Operation.beforeDestroy
  induction operations generalizing s with
  | nil =>
      show (s.drop b).world.exchanges = (s.teardown b).world.exchanges
      rw [drop, if_neg (by simp [hd])]
  | cons operation rest ih =>
      by_cases hne : operation = .destroy
      · subst hne
        rw [List.takeWhile_cons_of_neg (by simp [Operation.destroys])]
        have hgiven : (s.perform b .destroy).2 = s.teardown b := by
          show (s.destroy b).2 = s.teardown b
          rw [destroy, if_neg (by simp [hd])]
        show (((s.perform b .destroy).2.performAll b rest).2.drop b).world.exchanges
          = (s.teardown b).world.exchanges
        rw [hgiven]
        -- What follows finds a sandbox that is destroyed already, and asks for nothing.
        obtain ⟨xs, report, -, htorn, -⟩ := teardown_spec b s
        have hgone : (s.teardown b).descriptor.destroyed = true := by
          rw [htorn]
          rfl
        have hcoh : (s.teardown b).descriptor.Coherent := by
          rw [htorn]
          exact s.descriptor.coherent_tornDown report
        obtain ⟨hsame, hquiet⟩ := performAll_of_destroyed (b := b) hcoh hgone rest
        rw [drop, if_pos (by rw [hsame, hgone])]
        exact hquiet
      · rw [List.takeWhile_cons_of_pos (by simpa [Operation.destroys_eq_false_iff] using hne)]
        obtain ⟨xs, hx, -⟩ := perform_spec b s operation
        exact ih (hx.coherent h) ((hx.destroyed_eq hne).trans hd)

/-- **A child is waited for without having been killed only when the sandbox is given up**, and
exactly if the kill is refused then. The course falls into what is asked for before the sandbox is
given up, by its destruction or by going out of use, and what is asked for to give up the child that
it owns at that point. -/
theorem waitsForKilled_iff {mode : Mode} {limits : Limits} {w w' : World σ} {s : Sandbox σ}
    (h : create b mode limits w = (.ok s, w')) (operations : List Operation) :
    ∃ xs ys report,
      ((s.performAll b operations).2.drop b).world.exchanges = w.exchanges ++ (xs ++ ys)
        ∧ Reaps (s.performAll b (Operation.beforeDestroy operations)).2.descriptor.process ys
            report
        ∧ WaitsForKilled xs
        ∧ (WaitsForKilled (xs ++ ys) ↔ ∀ i reason, .kill i (.error reason) ∉ ys) := by
  have hcoh := coherent_of_create h
  obtain ⟨xs₀, he₀, hrun₀, hshows, hn, hp₀⟩ := custody_of_create h
  have hlive : s.descriptor.destroyed = false := by
    obtain ⟨-, container, -, hd, -⟩ := create_spec h
    rw [hd]
  obtain ⟨xs, hp, he, -⟩ := paired_beforeDestroy (b := b) s operations
  obtain ⟨xs', ⟨c, hrun, hc⟩, he'⟩ := keeps_performAll (b := b) hcoh hshows hn
    (Operation.beforeDestroy operations)
  -- The pairs and the custody were found separately, but of the same exchanges.
  have hsame : xs' = xs := List.append_cancel_left (he'.exchanges.symm.trans he.exchanges)
  subst hsame
  obtain ⟨ys, report, hr, -, hgive⟩ := teardown_spec b
    (s.performAll b (Operation.beforeDestroy operations)).2
  refine ⟨xs₀ ++ xs', ys, report, ?_, hr, (hp₀.append hp).waitsForKilled, ?_⟩
  · rw [exchanges_drop hcoh hlive operations, List.append_assoc]
    exact (he₀.trans (he.trans hgive)).exchanges
  · exact hr.waitsForKilled_iff_left (hrun₀.append hrun) hc (hp₀.append hp)

/-- A child that is stopped, and another one that is killed when the sandbox is destroyed. -/
theorem waitsForKilled_iff_stop_destroy :
    ∃ s w, create Scripted.backend .process {} (lingering 2) = (.ok s, w)
      ∧ ∃ xs ys report,
        ((s.performAll Scripted.backend
            [.exec "job", .stop, .exec "job", .destroy]).2.drop Scripted.backend).world.exchanges
          = [] ++ (xs ++ ys)
          ∧ Reaps (some ⟨1, 1002⟩) ys report
          ∧ WaitsForKilled xs
          ∧ (WaitsForKilled (xs ++ ys) ↔ ∀ i reason, .kill i (.error reason) ∉ ys) := by
  have h : create Scripted.backend .process {} (lingering 2) = _ := rfl
  exact ⟨_, _, h, waitsForKilled_iff h
    [.exec "job", .stop, .exec "job", .destroy]⟩

end Runs

/-- A world in which the first child cannot be killed. -/
def stubborn : World Scripted where
  state := { scripts := [{ failKill := some "denied" }] }

/-- **Not only what was killed is waited for**: the child runs on, and the sandbox goes out of
use. -/
theorem waitsForKilled_fails :
    ∃ s w xs, create Scripted.backend .none {} stubborn = (.ok s, w)
      ∧ ((s.performAll Scripted.backend [.exec "job"]).2.drop
          Scripted.backend).world.exchanges = xs
      ∧ ¬ WaitsForKilled xs := by
  refine ⟨_, _, _, rfl, rfl, fun hall => ?_⟩
  have hmem := hall [_, _, _] 0 (.error "still running") [] rfl
  simp at hmem

end Confine.Sandbox

import Confine.Proofs.Limits
import Confine.Proofs.Sandbox.Summary

set_option autoImplicit false

/-! # The limits of every command

The limits of a sandbox are given when it is created, and each command is started under a plan that
is made anew from what the sandbox remembers of them. `SpawnsUnder` says that some requests start
commands under one plan only. Every operation requests nothing else than the plan of the limits that
it finds (`Performs.spawnsUnder`) and leaves the limits as they are, so that by induction all
commands of a sandbox are started under the plan of the limits that were given, whatever becomes of
the sandbox (`Becomes.spawnsUnder`).
-/

namespace Confine.Sandbox

variable {σ : Type}

/-! ## Plans in requests -/

/-- The plan of a request to start a command. -/
def Exchange.plan? : Exchange → Option Plan
  | .spawn _ plan _ => some plan
  | _ => none

/-- Whatever commands are to be started by some requests are to be started under this plan. -/
def SpawnsUnder (plan : Plan) (xs : List Exchange) : Prop :=
  ∀ x ∈ xs, ∀ p ∈ x.plan?, p = plan

section Requests

variable {plan : Plan} {xs ys : List Exchange} {x : Exchange}

theorem spawnsUnder_nil : SpawnsUnder plan [] :=
  nofun

theorem spawnsUnder_append :
    SpawnsUnder plan (xs ++ ys) ↔ SpawnsUnder plan xs ∧ SpawnsUnder plan ys :=
  List.forall_mem_append

theorem spawnsUnder_cons (hx : ∀ p ∈ x.plan?, p = plan) (h : SpawnsUnder plan xs) :
    SpawnsUnder plan (x :: xs) :=
  List.forall_mem_cons.mpr ⟨hx, h⟩

theorem SpawnsUnder.of_observes (h : ∀ x ∈ xs, x.observes = true) : SpawnsUnder plan xs := by
  intro x hx
  have hobs := h x hx
  cases x with
  | spawn | createContainer | kill | wait => cases hobs
  | tryWait | memoryUsage | cpuTime => nofun

end Requests

/-! ## Operations -/

section Operations

variable {n : Nat} {d d' : Descriptor} {plan : Plan} {xs : List Exchange}

/-- A command is started under the plan of the limits that were there before the poll. -/
theorem Execs.spawnsUnder {command : String} {result : Except Error UInt32}
    (hx : Execs n command d xs result d') : SpawnsUnder (Plan.native d.limits) xs := by
  cases hx with
  | destroyed => exact spawnsUnder_nil
  | busy _ hp _ => exact .of_observes hp.observes
  | refused _ hp _ | started _ hp _ =>
      rw [hp.limits_eq]
      exact spawnsUnder_append.mpr ⟨.of_observes hp.observes,
        spawnsUnder_cons (fun _ h => (Option.mem_some.mp h).symm) spawnsUnder_nil⟩

theorem ExecsCode.spawnsUnder {m : Machine} {bytes : List UInt8} {result : Except Error Int32}
    (hx : ExecsCode m bytes d xs result d') : SpawnsUnder plan xs := by
  cases hx with
  | destroyed | unsupported => exact spawnsUnder_nil
  | busy _ _ hp _ | empty _ _ hp _ _ | unmapped _ _ hp _ _ _ | unsealed _ _ hp _ _ _ _
  | ran _ _ hp _ _ _ _ => exact .of_observes hp.observes

theorem Stops.spawnsUnder {result : Except Error Unit} (hx : Stops d xs result d') :
    SpawnsUnder plan xs := by
  cases hx with
  | destroyed => exact spawnsUnder_nil
  | idle _ hp _ | released _ hp _ _ => exact .of_observes hp.observes
  | unkilled _ hp _ _ =>
      exact spawnsUnder_append.mpr
        ⟨.of_observes hp.observes, spawnsUnder_cons nofun spawnsUnder_nil⟩
  | unreaped _ hp _ _ | reaped _ hp _ _ =>
      exact spawnsUnder_append.mpr ⟨.of_observes hp.observes,
        spawnsUnder_cons nofun (spawnsUnder_cons nofun spawnsUnder_nil)⟩

theorem Reaps.spawnsUnder {child : Option Child} {report : Option ExitReport}
    (hr : Reaps child xs report) : SpawnsUnder plan xs := by
  cases hr with
  | nothing => exact spawnsUnder_nil
  | exited => exact spawnsUnder_cons nofun spawnsUnder_nil
  | forced =>
      exact spawnsUnder_cons nofun (spawnsUnder_cons nofun (spawnsUnder_cons nofun spawnsUnder_nil))

theorem Reports.observes {report : Report} (hx : Reports d xs report d') :
    ∀ x ∈ xs, x.observes = true := by
  cases hx with
  | mk hp hm hc =>
      have hm' := hm.observes fun _ _ => rfl
      have hc' := hc.observes fun _ _ => rfl
      exact List.forall_mem_append.mpr ⟨hp.observes, List.forall_mem_append.mpr ⟨hm', hc'⟩⟩

/-- **An operation starts commands under no other plan** than that of the limits it finds. -/
theorem Performs.spawnsUnder {operation : Operation} {reply : Reply}
    (hx : Performs n d operation xs reply d') : SpawnsUnder (Plan.native d.limits) xs := by
  cases hx with
  | exec hx => exact hx.spawnsUnder
  | execCode hx | stop hx => exact hx.spawnsUnder
  | destroy hx =>
      cases hx with
      | destroyed => exact spawnsUnder_nil
      | done _ hr => exact hr.spawnsUnder
  | status hp | lastExit hp => exact .of_observes hp.observes
  | memory hx | cpuTime hx => exact .of_observes (hx.observes fun _ _ => rfl)
  | report hx => exact .of_observes hx.observes
  | pid | mode | limits | lastResult | flags => exact spawnsUnder_nil

end Operations

/-! ## Whatever becomes of a sandbox -/

/-- Going out of use is being destroyed, unless that was done before. -/
theorem drop_eq_destroy (b : Backend σ) (s : Sandbox σ) :
    s.drop b = (s.perform b .destroy).2 := by
  show s.drop b = (s.destroy b).2
  unfold drop destroy
  by_cases hd : s.descriptor.destroyed = true
  · rw [if_pos hd, if_pos hd]
  · rw [if_neg hd, if_neg hd]

/-- **What can become of a sandbox**: operations are carried out on it, the outside changes and more
is told in the journal, and it goes out of use. -/
inductive Becomes (b : Backend σ) (s : Sandbox σ) : Sandbox σ → Prop
  | refl : Becomes b s s
  | performed {t : Sandbox σ} (h : Becomes b s t) (operation : Operation) :
      Becomes b s (t.perform b operation).2
  | elapsed {t : Sandbox σ} (h : Becomes b s t) (state : σ) (journal : List Event) :
      Becomes b s { t with world := { t.world with state, journal } }
  | dropped {t : Sandbox σ} (h : Becomes b s t) : Becomes b s (t.drop b)

namespace Becomes

variable {b : Backend σ} {s t : Sandbox σ}

/-- **What operations and the outside keep** is kept whatever becomes of a sandbox, for going out of
use is an operation as well. -/
theorem preserves {motive : (t : Sandbox σ) → Becomes b s t → Prop} (h : Becomes b s t)
    (start : motive s .refl)
    (perform : ∀ t operation (h : Becomes b s t), motive t h →
      motive (t.perform b operation).2 (h.performed operation))
    (elapse : ∀ t state journal (h : Becomes b s t), motive t h →
      motive { t with world := { t.world with state, journal } } (h.elapsed state journal)) :
    motive t h := by
  induction h with
  | refl => exact start
  | performed h operation ih => exact perform _ operation h ih
  | elapsed h state journal ih => exact elapse _ state journal h ih
  | @dropped t h ih =>
      have hdestroyed : ∀ u (hu : Becomes b s u), u = (t.perform b .destroy).2 → motive u hu := by
        rintro u hu rfl
        exact perform t .destroy h ih
      exact hdestroyed _ _ (drop_eq_destroy b t)

theorem performAll (h : Becomes b s t) (operations : List Operation) :
    Becomes b s (t.performAll b operations).2 := by
  induction operations generalizing t with
  | nil => exact h
  | cons operation rest ih => exact ih (h.performed operation)

/-- **All requests of a sandbox are put to its backend**, which answers them as they were recorded,
although the outside may change its state between two operations. -/
theorem answersEach (h : Becomes b s t) :
    ∃ xs, t.world.exchanges = s.world.exchanges ++ xs ∧ AnswersEach b xs := by
  induction h using preserves with
  | start => exact ⟨[], (List.append_nil _).symm, nofun⟩
  | perform t operation _ ih =>
      obtain ⟨xs, hxs, ha⟩ := ih
      obtain ⟨ys, -, he⟩ := perform_spec b t operation
      refine ⟨xs ++ ys, ?_, ha.append he.answered.each⟩
      rw [he.exchanges, hxs, List.append_assoc]
  | elapse t state journal _ ih => exact ih

/-- **All commands of a sandbox are started under the plan of its limits**, which stay the same. -/
theorem spawnsUnder (h : Becomes b s t) :
    t.descriptor.limits = s.descriptor.limits
      ∧ ∃ xs, t.world.exchanges = s.world.exchanges ++ xs
        ∧ SpawnsUnder (Plan.native s.descriptor.limits) xs := by
  induction h using preserves with
  | start => exact ⟨rfl, [], (List.append_nil _).symm, spawnsUnder_nil⟩
  | perform t operation _ ih =>
      obtain ⟨hlimits, xs, hxs, hplan⟩ := ih
      obtain ⟨ys, hx, he⟩ := perform_spec b t operation
      have hsame := hx.sameSetup.2.trans hlimits
      have hys := hx.spawnsUnder
      rw [hlimits] at hys
      refine ⟨hsame, xs ++ ys, ?_, spawnsUnder_append.mpr ⟨hplan, hys⟩⟩
      rw [he.exchanges, hxs, List.append_assoc]
  | elapse t state journal _ ih => exact ih

/-! ### Supervisions -/

theorem note (h : Becomes b s t) (events : List Event) : Becomes b s (t.note events) :=
  h.elapsed _ _

theorem memory (h : Becomes b s t) : Becomes b s (t.memory b).2 :=
  h.performed .memory

theorem cpuTime (h : Becomes b s t) : Becomes b s (t.cpuTime b).2 :=
  h.performed .cpuTime

theorem status (h : Becomes b s t) : Becomes b s (t.status b).2 :=
  h.performed .status

/-- A look is three operations, the last of which may be told of. -/
theorem look (h : Becomes b s t) (pid : UInt32) (tally : Tally) :
    Becomes b s (t.look b pid tally).2.2 := by
  have hcpuTime := h.memory.cpuTime
  unfold Sandbox.look
  dsimp only
  generalize (t.memory b).2.cpuTime b = u at hcpuTime ⊢
  have hstatus := hcpuTime.status
  generalize u.2.status b = v at hstatus ⊢
  rcases v with ⟨_ | _, v⟩
  · exact hstatus
  · exact hstatus.note _

theorem interrupt (h : Becomes b s t) (pid : UInt32) :
    Becomes b s (t.interrupt b pid).2 := by
  have hstatus := (h.note [.interrupted pid]).status
  unfold Sandbox.interrupt
  dsimp only
  generalize (t.note [.interrupted pid]).status b = u at hstatus ⊢
  rcases u with ⟨_ | _, u⟩
  · exact hstatus
  · exact hstatus.performed .stop

theorem watch (h : Becomes b s t) (c : Clock σ) (poll : UInt64) (pid : UInt32) (looks : Nat)
    (tally : Tally) : Becomes b s (t.watch b c poll pid looks tally).2 := by
  induction looks generalizing t tally with
  | zero => exact h
  | succ looks ih =>
      cases hi : c.interrupted t.world.state with
      | true =>
          rw [watch_of_interrupted hi]
          exact h.interrupt pid
      | false =>
          have hlook := h.look pid tally
          rcases hl : t.look b pid tally with ⟨tally', _ | _, u⟩
          · rw [watch_of_exited hi hl]
            rw [hl] at hlook
            exact hlook
          · rw [watch_of_running hi hl]
            rw [hl] at hlook
            exact ih (hlook.elapsed _ _) tally'

/-- A supervision is nothing else than operations, while time passes. -/
theorem supervise (h : Becomes b s t) (c : Clock σ) (looks : Nat) (command : String)
    (poll : UInt64) : Becomes b s (t.supervise b c looks command poll).2 := by
  have hexec : Becomes b s (t.exec b command).2 := h.performed (.exec command)
  unfold Sandbox.supervise
  generalize t.exec b command = started at hexec ⊢
  rcases started with ⟨cause | pid, u⟩
  · exact hexec
  dsimp only at hexec ⊢
  have hwatch := (hexec.note [.started pid u.descriptor.mode]).watch c poll pid looks {}
  generalize (u.note [.started pid u.descriptor.mode]).watch b c poll pid looks {} = watched
    at hwatch ⊢
  rcases watched with ⟨_ | _ | ⟨usage, stopped⟩, v⟩
  · exact hwatch
  · exact hwatch
  · exact hwatch.performed .lastExit

end Becomes

/-! ## No limit gets lost -/

/-- Whatever becomes of a sandbox from its creation on, commands are started under the plan of the
limits that were given. -/
theorem spawnsUnder_of_create {b : Backend σ} {mode : Mode} {limits : Limits}
    {w w' : World σ} {s t : Sandbox σ} (h : create b mode limits w = (.ok s, w'))
    (ht : Becomes b s t) :
    ∃ xs, t.world.exchanges = w.exchanges ++ xs ∧ SpawnsUnder (Plan.native limits) xs := by
  obtain ⟨xs, container, -, hd, hxs, he⟩ := create_spec h
  obtain ⟨-, ys, hys, hplan⟩ := ht.spawnsUnder
  rw [hd] at hplan
  -- Nothing but a container is asked for when a sandbox is created.
  have hcreated : SpawnsUnder (Plan.native limits) xs := by
    rcases hxs with rfl | ⟨answer, rfl⟩
    · exact spawnsUnder_nil
    · exact spawnsUnder_cons nofun spawnsUnder_nil
  refine ⟨xs ++ ys, ?_, spawnsUnder_append.mpr ⟨hcreated, hplan⟩⟩
  rw [hys, he.exchanges, List.append_assoc]

/-- **No limit is dropped in silence.** Every translation of the limits accounts for all of them,
and whatever becomes of a sandbox that was created with them, each command in it was to be started
under exactly the plan of the platform, which ignores nothing. -/
theorem limits_accounted (l : Limits) :
    (∀ countsProcesses, (Plan.posix countsProcesses l).Accounts l)
      ∧ (Plan.jobObject l).Accounts l
      ∧ ∀ {σ : Type} {b : Backend σ} {mode : Mode} {w w' : World σ}
          {s t : Sandbox σ}, create b mode l w = (.ok s, w') → Becomes b s t →
          ∃ xs, t.world.exchanges = w.exchanges ++ xs
            ∧ ∀ command plan answer, .spawn command plan answer ∈ xs →
                plan = Plan.posix true l ∧ plan.ignored = [] := by
  refine ⟨fun _ => Plan.accounts_posix _ l, Plan.accounts_jobObject l, ?_⟩
  intro σ b mode w w' s t hcreate ht
  obtain ⟨xs, hxs, hplan⟩ := spawnsUnder_of_create hcreate ht
  refine ⟨xs, hxs, fun command plan answer hmem => ?_⟩
  obtain rfl : plan = Plan.native l := hplan _ hmem plan rfl
  exact ⟨rfl, Plan.ignored_native l⟩

/-- Two commands in one sandbox, which has two limits and leaves two resources unbounded. -/
theorem limits_accounted_two_commands :
    ∃ s w t, create Scripted.backend .process { maxMemory := 4096, maxProcesses := 3 }
        (lingering 2) = (.ok s, w)
      ∧ (s.performAll Scripted.backend [.exec "job", .stop, .exec "job"]).2 = t
      ∧ t.world.spawned = 2
      ∧ ∃ xs, t.world.exchanges = (lingering 2).exchanges ++ xs
        ∧ ∀ command plan answer, .spawn command plan answer ∈ xs →
            plan = Plan.posix true { maxMemory := 4096, maxProcesses := 3 }
              ∧ plan.ignored = [] := by
  obtain ⟨-, -, h⟩ := limits_accounted { maxMemory := 4096, maxProcesses := 3 }
  have hcreate : create Scripted.backend .process { maxMemory := 4096, maxProcesses := 3 }
    (lingering 2) = _ := rfl
  refine ⟨_, _, _, hcreate, rfl, rfl, h hcreate ?_⟩
  exact Becomes.refl.performAll [.exec "job", .stop, .exec "job"]

end Confine.Sandbox

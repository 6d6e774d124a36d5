import Confine.Machine.Amd64
import Confine.Proofs.Sandbox.Coherence

set_option autoImplicit false

/-! # What a failed operation leaves behind

An operation that fails may have learnt something all the same, for most operations poll the child
first, and what a poll has found stays found. Apart from that a failure changes nothing:
`Error.Leaves` says for every cause of failure what the sandbox is like afterwards and what was
asked of the backend, measured against `refresh`, which does the poll and nothing else.

There is one exception, and it is spelled out there too. A child that was killed cannot be owned
any more, so that it is let go even if waiting for it fails.
-/

namespace Confine.Sandbox

variable {σ : Type}

/-- `cause.Leaves s p t`: in the sandbox `s`, which is `p` after a poll, an operation has failed
for this cause, and `t` is what the failure has left behind. -/
def Error.Leaves (s p t : Sandbox σ) : Error → Prop
  | .destroyed | .unsupportedMode _ =>
    t.descriptor = s.descriptor ∧ t.world.exchanges = s.world.exchanges
  | .alreadyRunning | .notRunning | .code (.emptyInput _) | .code (.alloc _)
  | .code (.protect _) =>
    t.descriptor = p.descriptor ∧ t.world.exchanges = p.world.exchanges
  | .spawn reason =>
    t.descriptor = p.descriptor ∧ ∃ command,
      t.world.exchanges = p.world.exchanges
        ++ [.spawn command (Plan.native p.descriptor.limits) (.error reason)]
  | .process reason => ∃ child, p.descriptor.process = some child
    ∧ (t.descriptor = p.descriptor
          ∧ t.world.exchanges = p.world.exchanges ++ [.kill child.index (.error reason)]
        ∨ t.descriptor = { p.descriptor with process := none, status := .idle }
          ∧ t.world.exchanges = p.world.exchanges
            ++ [.kill child.index (.ok ()), .wait child.index (.error reason)])
  | .container _ | .code _ => False

/-! ## The poll of an operation -/

section Poll

variable {b : Backend σ} {d d₁ d₂ : Descriptor} {xs ys : List Exchange}
  {state after after₁ after₂ : σ}

/-- What a poll comes to, by the answer that the backend has for it. -/
theorem Polls.by_answer (hp : Polls d xs d₁) (ha : Answers b state xs after) :
    ((d.status = .running → d.process = none) ∧ xs = [] ∧ d₁ = d)
      ∨ ∃ child, d.status = .running ∧ d.process = some child
        ∧ xs = [.tryWait child.index (b.tryWait child.index state).1]
        ∧ d₁ = (reported (b.tryWait child.index state).1).elim d d.exited := by
  cases hp with
  | still hq => exact .inl ⟨hq, rfl, rfl⟩
  | @exited child report hs hc =>
      cases ha with
      | cons hx _ =>
          have hanswer : (b.tryWait child.index state).1 = .ok (some report) :=
            congrArg Prod.fst hx
          exact .inr ⟨child, hs, hc, by rw [hanswer], by rw [hanswer]; rfl⟩
  | @alive child answer hs hc hr =>
      cases ha with
      | cons hx _ =>
          have hanswer : (b.tryWait child.index state).1 = answer := congrArg Prod.fst hx
          exact .inr ⟨child, hs, hc, by rw [hanswer], by rw [hanswer, hr]; rfl⟩

/-- **A poll is determined by what the backend answers**: what is asked, and what comes of it. -/
theorem Polls.unique (h₁ : Polls d xs d₁) (h₂ : Polls d ys d₂)
    (ha₁ : Answers b state xs after₁) (ha₂ : Answers b state ys after₂) : xs = ys ∧ d₁ = d₂ := by
  rcases h₁.by_answer ha₁ with ⟨hq, rfl, rfl⟩ | ⟨child, hs, hc, rfl, rfl⟩
  · rcases h₂.by_answer ha₂ with ⟨-, rfl, rfl⟩ | ⟨child, hs, hc, -, -⟩
    · exact ⟨rfl, rfl⟩
    · rw [hq hs] at hc
      cases hc
  · rcases h₂.by_answer ha₂ with ⟨hq, -, -⟩ | ⟨child', -, hc', rfl, rfl⟩
    · rw [hq hs] at hc
      cases hc
    · cases hc.symm.trans hc'
      exact ⟨rfl, rfl⟩

/-- The poll with which an operation starts is the one that `refresh` does. -/
theorem Polls.eq_refresh {s : Sandbox σ} (hp : Polls s.descriptor xs d₁)
    (ha : Answers b s.world.state (xs ++ ys) after) :
    d₁ = (s.refresh b).descriptor
      ∧ (s.refresh b).world.exchanges = s.world.exchanges ++ xs := by
  obtain ⟨zs, hr, he⟩ := refresh_spec b s
  obtain ⟨between, hxs, -⟩ := ha.split
  obtain ⟨rfl, rfl⟩ := hp.unique hr hxs he.answered
  exact ⟨rfl, he.exchanges⟩

end Poll

/-! ## Failures, operation by operation -/

section Failures

variable {b : Backend σ} {s : Sandbox σ} {d : Descriptor} {w : World σ}
  {xs : List Exchange} {cause : Error}

/-- A failure after which the sandbox is as the poll has left it, where `ys` is what was asked after
the poll. -/
theorem Polls.leaves {ys : List Exchange} (hp : Polls s.descriptor xs d)
    (he : s.world.Extends b (xs ++ ys) w) :
    d = (s.refresh b).descriptor
      ∧ w.exchanges = (s.refresh b).world.exchanges ++ ys := by
  obtain ⟨hd, hx⟩ := hp.eq_refresh he.answered
  refine ⟨hd, ?_⟩
  rw [he.exchanges, hx, List.append_assoc]

/-- A failure after which nothing but the poll was asked. -/
theorem Polls.leaves_nothing (hp : Polls s.descriptor xs d) (he : s.world.Extends b xs w) :
    d = (s.refresh b).descriptor ∧ w.exchanges = (s.refresh b).world.exchanges := by
  rw [← List.append_nil xs] at he
  obtain ⟨hd, hx⟩ := hp.leaves he
  exact ⟨hd, by rw [hx, List.append_nil]⟩

theorem unasked_leaves (he : s.world.Extends b [] w) : w.exchanges = s.world.exchanges := by
  rw [he.exchanges, List.append_nil]

theorem Execs.leaves {n : Nat} {command : String}
    (hx : Execs n command s.descriptor xs (.error cause) d) (he : s.world.Extends b xs w) :
    cause.Leaves s (s.refresh b) ⟨d, w⟩ := by
  cases hx with
  | destroyed => exact ⟨rfl, unasked_leaves he⟩
  | busy _ hp _ => exact hp.leaves_nothing he
  | refused _ hp _ =>
      obtain ⟨rfl, hw⟩ := hp.leaves he
      exact ⟨rfl, command, hw⟩

theorem ExecsCode.leaves {m : Machine} {bytes : List UInt8}
    (hx : ExecsCode m bytes s.descriptor xs (.error cause) d) (he : s.world.Extends b xs w) :
    cause.Leaves s (s.refresh b) ⟨d, w⟩ := by
  cases hx with
  | destroyed | unsupported => exact ⟨rfl, unasked_leaves he⟩
  | busy _ _ hp _ | empty _ _ hp _ _ | unmapped _ _ hp _ _ _ | unsealed _ _ hp _ _ _ _ =>
      exact hp.leaves_nothing he

/-- Stopping takes the child away before it is known whether it can be killed, and puts the same
child back if not. -/
theorem Stops.leaves (hx : Stops s.descriptor xs (.error cause) d)
    (he : s.world.Extends b xs w) : cause.Leaves s (s.refresh b) ⟨d, w⟩ := by
  cases hx with
  | destroyed => exact ⟨rfl, unasked_leaves he⟩
  | idle _ hp _ => exact hp.leaves_nothing he
  | unkilled _ hp _ hc =>
      obtain ⟨rfl, hw⟩ := hp.leaves he
      exact ⟨_, hc, .inl ⟨rfl, hw⟩⟩
  | unreaped _ hp _ hc =>
      obtain ⟨rfl, hw⟩ := hp.leaves he
      exact ⟨_, hc, .inr ⟨rfl, hw⟩⟩

theorem Destroys.leaves (hx : Destroys s.descriptor xs (.error cause) d)
    (he : s.world.Extends b xs w) : cause.Leaves s (s.refresh b) ⟨d, w⟩ := by
  cases hx with
  | destroyed => exact ⟨rfl, unasked_leaves he⟩

/-- A reply is a failure only if the result that it is made of is one. -/
theorem Reply.eq_error_of_failed {α : Type} {reply : α → Reply} {result : Except Error α}
    (hr : ∀ a, reply a ≠ .failed cause) (h : Reply.ofExcept reply result = .failed cause) :
    result = .error cause := by
  cases result with
  | error =>
      cases h
      rfl
  | ok a => exact absurd h (hr a)

/-- **Only four operations can fail**, and a failure leaves behind what its cause says. -/
theorem Performs.leaves {n : Nat} {operation : Operation} {reply : Reply}
    (hx : Performs n s.descriptor operation xs reply d) (he : s.world.Extends b xs w)
    (hf : reply = .failed cause) : cause.Leaves s (s.refresh b) ⟨d, w⟩ := by
  cases hx with
  | exec hx =>
      cases Reply.eq_error_of_failed (by simp) hf
      exact hx.leaves he
  | execCode hx =>
      cases Reply.eq_error_of_failed (by simp) hf
      exact hx.leaves he
  | stop hx =>
      cases Reply.eq_error_of_failed (by simp) hf
      exact hx.leaves he
  | destroy hx =>
      cases Reply.eq_error_of_failed (by simp) hf
      exact hx.leaves he
  | status | memory | cpuTime | lastExit | report | pid | mode | limits | lastResult | flags =>
      cases hf

end Failures

/-- **A failed operation changes nothing but what its poll has found**, in any state of a sandbox
and whatever the backend answers. -/
theorem failed_leaves {b : Backend σ} {s t : Sandbox σ} {operation : Operation}
    {cause : Error} (h : s.perform b operation = (.failed cause, t)) :
    cause.Leaves s (s.refresh b) t := by
  obtain ⟨xs, hx, he⟩ := perform_spec b s operation
  rw [h] at hx he
  exact hx.leaves he rfl

/-- A child that is found alive and can be killed, but not waited for. -/
theorem failed_leaves_unreaped :
    ∃ s w u t, create Scripted.backend .vm {}
        { state := { scripts := [{ failWait := some "interrupted" }] } } = (.ok s, w)
      ∧ (s.performAll Scripted.backend
          [.execCode Machine.Amd64.host [0x31, 0xc0, 0xc3], .stop, .exec "job"]).2 = u
      ∧ u.perform Scripted.backend .stop = (.failed (.process "interrupted"), t)
      ∧ Error.Leaves u (u.refresh Scripted.backend) t (.process "interrupted")
      ∧ u.descriptor.process = some ⟨0, 1001⟩ ∧ t.descriptor.process = none
      ∧ t.descriptor.pid = 1001 ∧ t.descriptor.lastExit = none
      ∧ t.descriptor.lastResult = some 0 := by
  refine ⟨_, _, _, _, rfl, rfl, rfl, ?_, rfl, rfl, rfl, rfl, rfl⟩
  exact @failed_leaves _ _ _ _ .stop _ rfl

end Confine.Sandbox

import Confine.Sandbox.Backend
import Mathlib

set_option autoImplicit false

/-! # Requests to a backend

What can be said of requests and their answers apart from the sandbox that makes them.
`World.Extends` relates two states of the world by the requests between them: it is the form
in which every operation tells what it asked of the backend.
-/

namespace Confine.Sandbox

variable {σ : Type}

/-! ## Answers -/

/-- The exit that an answer to a poll reports, if it reports one. -/
def reported : Except String (Option ExitReport) → Option ExitReport
  | .ok report => report
  | .error _ => none

namespace Exchange

/-- Whether a request started a child. -/
def starts : Exchange → Bool
  | .spawn _ _ (.ok _) => true
  | _ => false

/-- Whether a request found that a child has exited. -/
def found : Exchange → Bool
  | .tryWait _ answer => (reported answer).isSome
  | _ => false

/-- The child that a request is about. -/
def child? : Exchange → Option Nat
  | .tryWait i _ | .kill i _ | .wait i _ => some i
  | _ => none

/-- **A request that ends a child**: a poll that reports its exit, or a wait, whatever the wait
answers. -/
def Ends : Exchange → Nat → Prop
  | .tryWait j answer, i => j = i ∧ (reported answer).isSome
  | .wait j _, i => j = i
  | _, _ => False

/-- In the state `before` the backend `b` answers the request so, and is in the state `after`
then. -/
def AnsweredBy (b : Backend σ) (before after : σ) : Exchange → Prop
  | .createContainer answer => ∃ limits, b.createContainer limits before = (answer, after)
  | .spawn command plan answer =>
    ∃ container, b.spawn command plan container before = (answer, after)
  | .tryWait child answer => b.tryWait child before = (answer, after)
  | .kill child answer => b.kill child before = (answer, after)
  | .wait child answer => b.wait child before = (answer, after)
  | .memoryUsage pid amount => b.memoryUsage pid before = (amount, after)
  | .cpuTime pid amount => b.cpuTime pid before = (amount, after)

end Exchange

/-- The backend `b` answers the requests so, one after another. -/
inductive Answers (b : Backend σ) : σ → List Exchange → σ → Prop
  | nil {state : σ} : Answers b state [] state
  | cons {before between after : σ} {x : Exchange} {xs : List Exchange}
      (hx : x.AnsweredBy b before between) (hxs : Answers b between xs after) :
      Answers b before (x :: xs) after

theorem Answers.append {b : Backend σ} {before between after : σ} {xs ys : List Exchange}
    (h : Answers b before xs between) (h' : Answers b between ys after) :
    Answers b before (xs ++ ys) after := by
  induction h with
  | nil => exact h'
  | cons hx _ ih => exact .cons hx (ih h')

theorem Answers.split {b : Backend σ} {before after : σ} {xs ys : List Exchange}
    (h : Answers b before (xs ++ ys) after) :
    ∃ between, Answers b before xs between ∧ Answers b between ys after := by
  induction xs generalizing before with
  | nil => exact ⟨before, .nil, h⟩
  | cons x xs ih =>
      cases h with
      | cons hx hrest =>
          obtain ⟨between, hxs, hys⟩ := ih hrest
          exact ⟨between, .cons hx hxs, hys⟩

/-- **Each request was answered so** by the backend `b`, in the state in which it was at the time.
So much is left of `Answers` where the outside changes the state between the requests. -/
def AnswersEach (b : Backend σ) (xs : List Exchange) : Prop :=
  ∀ x ∈ xs, ∃ before after, x.AnsweredBy b before after

theorem Answers.each {b : Backend σ} {before after : σ} {xs : List Exchange}
    (h : Answers b before xs after) : AnswersEach b xs := by
  induction h with
  | nil => nofun
  | cons hx _ ih => exact List.forall_mem_cons.mpr ⟨⟨_, _, hx⟩, ih⟩

theorem AnswersEach.append {b : Backend σ} {xs ys : List Exchange} (h : AnswersEach b xs)
    (h' : AnswersEach b ys) : AnswersEach b (xs ++ ys) :=
  List.forall_mem_append.mpr ⟨h, h'⟩

namespace World

/-- `w.Extends b xs w'`: between the world `w` and the later world `w'` the requests `xs` were
made, and the backend `b` answered them. -/
structure Extends (b : Backend σ) (w : World σ) (xs : List Exchange) (w' : World σ) :
    Prop where
  exchanges : w'.exchanges = w.exchanges ++ xs
  spawned : w'.spawned = w.spawned + xs.countP Exchange.starts
  answered : Answers b w.state xs w'.state

variable {b : Backend σ} {w w' w'' : World σ} {xs ys : List Exchange}

theorem Extends.refl (b : Backend σ) (w : World σ) : w.Extends b [] w :=
  ⟨by simp, by simp, .nil⟩

theorem Extends.trans (h : w.Extends b xs w') (h' : w'.Extends b ys w'') :
    w.Extends b (xs ++ ys) w'' := by
  refine ⟨?_, ?_, h.answered.append h'.answered⟩
  · rw [h'.exchanges, h.exchanges, List.append_assoc]
  · rw [h'.spawned, h.spawned, List.countP_append, Nat.add_assoc]

/-- The journal is no part of what was requested. -/
theorem Extends.note (h : w.Extends b xs w') (events : List Event) :
    w.Extends b xs (w'.note events) :=
  ⟨h.exchanges, h.spawned, h.answered⟩

theorem Extends.ofNote {events : List Event} (h : (w.note events).Extends b xs w') :
    w.Extends b xs w' :=
  ⟨h.exchanges, h.spawned, h.answered⟩

theorem record_extends (w : World σ) {state : σ} {x : Exchange} (hs : x.starts = false)
    (ha : x.AnsweredBy b w.state state) : w.Extends b [x] (w.record state x) := by
  refine ⟨rfl, ?_, .cons ha .nil⟩
  simp [record, hs]

theorem createContainer_extends {limits : Limits} {answer : Except String Bool}
    (h : w.createContainer b limits = (answer, w')) :
    w.Extends b [.createContainer answer] w' := by
  cases h
  exact record_extends w rfl ⟨limits, rfl⟩

theorem tryWait_extends {child : Nat} {answer : Except String (Option ExitReport)}
    (h : w.tryWait b child = (answer, w')) : w.Extends b [.tryWait child answer] w' := by
  cases h
  exact record_extends w rfl rfl

theorem kill_extends {child : Nat} {answer : Except String Unit}
    (h : w.kill b child = (answer, w')) : w.Extends b [.kill child answer] w' := by
  cases h
  exact record_extends w rfl rfl

theorem wait_extends {child : Nat} {answer : Except String ExitReport}
    (h : w.wait b child = (answer, w')) : w.Extends b [.wait child answer] w' := by
  cases h
  exact record_extends w rfl rfl

theorem memoryUsage_extends {pid : UInt32} {amount : UInt64}
    (h : w.memoryUsage b pid = (amount, w')) : w.Extends b [.memoryUsage pid amount] w' := by
  cases h
  exact record_extends w rfl rfl

theorem cpuTime_extends {pid : UInt32} {amount : UInt64}
    (h : w.cpuTime b pid = (amount, w')) : w.Extends b [.cpuTime pid amount] w' := by
  cases h
  exact record_extends w rfl rfl

/-- The only request that counts children, and only when it is granted. -/
theorem spawn_extends {command : String} {plan : Plan} {container : Bool}
    {answer : Except String UInt32} (h : w.spawn b command plan container = (answer, w')) :
    w.Extends b [.spawn command plan answer] w' := by
  unfold spawn at h
  rcases ha : b.spawn command plan container w.state with ⟨reason | pid, state⟩
  · rw [ha] at h
    cases h
    exact record_extends w rfl ⟨container, ha⟩
  · rw [ha] at h
    cases h
    exact ⟨rfl, rfl, .cons ⟨container, ha⟩ .nil⟩

end World

end Confine.Sandbox

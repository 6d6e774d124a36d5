import Confine.Machine.Amd64
import Confine.Proofs.Sandbox.Coherence

set_option autoImplicit false

/-! # The state machine of a sandbox

Seen from outside, a sandbox is idle, owns a child, is busy with machine code, or is destroyed.
`Control` is this view, and `Control.Step` is the documented machine on it: most operations
poll first, and what they do then depends on the state after the poll and on what the backend
answers.

A descriptor spreads its state over several fields. `Descriptor.control` reads it off, and
`perform_refines_control` says that whatever has been done with a sandbox before, the next
operation is a step of the machine, and the only one that these answers allow.
-/

namespace Confine.Sandbox

variable {σ : Type}

/-! ## The machine -/

/-- The states of a sandbox. -/
inductive Control where
  | idle
  /-- The child with this number is owned. -/
  | child (index : Nat)
  /-- Machine code has been left in place. -/
  | busy
  | destroyed
  deriving DecidableEq, Repr

namespace Control

/-- The status that a state shows. -/
def status : Control → Status
  | .child _ | .busy => .running
  | .idle | .destroyed => .idle

/-- The states in which machine code can be run. -/
def Vacant (c : Control) : Prop := c = .idle ∨ c = .busy

/-- **A poll** lets a child go exactly when its exit is reported. -/
inductive Poll : Control → List Exchange → Control → Prop
  | exited (i : Nat) (report : ExitReport) :
      Poll (.child i) [.tryWait i (.ok (some report))] .idle
  | alive (i : Nat) : Poll (.child i) [.tryWait i (.ok none)] (.child i)
  | failed (i : Nat) (reason : String) :
      Poll (.child i) [.tryWait i (.error reason)] (.child i)
  | idle : Poll .idle [] .idle
  | busy : Poll .busy [] .busy
  | destroyed : Poll .destroyed [] .destroyed

/-- **What an operation does after its poll**, in a sandbox with this mode and these limits, when
the next child will have the number `n`. Machine code needs pages of the machine `m` that the
request finds: they may not be mapped, and once they are mapped they may not be sealed. -/
inductive Act (mode : Mode) (limits : Limits) (n : Nat) :
    Control → Operation → List Exchange → Reply → Control → Prop
  | exec_child {i : Nat} {command : String} :
      Act mode limits n (.child i) (.exec command) [] (.failed .alreadyRunning) (.child i)
  | exec_busy {command : String} :
      Act mode limits n .busy (.exec command) [] (.failed .alreadyRunning) .busy
  | exec_refused {command reason : String} :
      Act mode limits n .idle (.exec command)
        [.spawn command (Plan.native limits) (.error reason)] (.failed (.spawn reason)) .idle
  | exec_started {command : String} {pid : UInt32} :
      Act mode limits n .idle (.exec command)
        [.spawn command (Plan.native limits) (.ok pid)] (.pid pid) (.child n)
  | execCode_child {m : Machine} {i : Nat} {bytes : List UInt8} (hm : mode = .vm) :
      Act mode limits n (.child i) (.execCode m bytes) [] (.failed .alreadyRunning) (.child i)
  | execCode_empty {m : Machine} {c : Control} (hm : mode = .vm) (hc : c.Vacant) :
      Act mode limits n c (.execCode m []) [] (.failed (.code (.emptyInput .code))) c
  | execCode_unmapped {m : Machine} {c : Control} {bytes : List UInt8} {fault : Code.AllocFault}
      (hm : mode = .vm) (hc : c.Vacant) (hb : bytes ≠ [])
      (ha : m.mapping bytes.length = .error fault) :
      Act mode limits n c (.execCode m bytes) [] (.failed (.code (.alloc fault))) c
  | execCode_unsealed {m : Machine} {c : Control} {bytes : List UInt8} {pages : UInt64}
      {reason : String} (hm : mode = .vm) (hc : c.Vacant) (hb : bytes ≠ [])
      (ha : m.mapping bytes.length = .ok pages) (hr : m.protect pages = .error reason) :
      Act mode limits n c (.execCode m bytes) [] (.failed (.code (.protect reason))) c
  | execCode_ran {m : Machine} {c : Control} {bytes : List UInt8} {pages : UInt64}
      (hm : mode = .vm) (hc : c.Vacant) (hb : bytes ≠ [])
      (ha : m.mapping bytes.length = .ok pages) (hr : m.protect pages = .ok ()) :
      Act mode limits n c (.execCode m bytes) []
        (.value (m.run bytes (Machine.Call.ofArguments []))) .busy
  | stop_idle : Act mode limits n .idle .stop [] (.failed .notRunning) .idle
  | stop_busy : Act mode limits n .busy .stop [] .done .idle
  | stop_unkilled {i : Nat} {reason : String} :
      Act mode limits n (.child i) .stop [.kill i (.error reason)] (.failed (.process reason))
        (.child i)
  | stop_unreaped {i : Nat} {reason : String} :
      Act mode limits n (.child i) .stop [.kill i (.ok ()), .wait i (.error reason)]
        (.failed (.process reason)) .idle
  | stop_reaped {i : Nat} {report : ExitReport} :
      Act mode limits n (.child i) .stop [.kill i (.ok ()), .wait i (.ok report)] .done .idle
  | destroy_vacant {c : Control} (hc : c.Vacant) :
      Act mode limits n c .destroy [] .done .destroyed
  | destroy_child {i : Nat} {killed : Except String Unit} {waited : Except String ExitReport} :
      Act mode limits n (.child i) .destroy [.kill i killed, .wait i waited] .done .destroyed
  | status {c : Control} : Act mode limits n c .status [] (.status c.status) c
  | memory_none {c : Control} : Act mode limits n c .memory [] (.usage 0) c
  | memory_read {i : Nat} {pid : UInt32} {amount : UInt64} :
      Act mode limits n (.child i) .memory [.memoryUsage pid amount] (.usage amount) (.child i)
  | cpuTime_none {c : Control} : Act mode limits n c .cpuTime [] (.usage 0) c
  | cpuTime_read {i : Nat} {pid : UInt32} {amount : UInt64} :
      Act mode limits n (.child i) .cpuTime [.cpuTime pid amount] (.usage amount) (.child i)
  | lastExit {c : Control} {report : Option ExitReport} :
      Act mode limits n c .lastExit [] (.lastExit report) c

end Control

/-- The operations that a destroyed sandbox refuses. -/
def Operation.controls : Operation → Bool
  | .exec _ | .execCode _ _ | .stop | .destroy => true
  | _ => false

/-- The operations that answer from what the sandbox remembers of its past. -/
def Operation.recalls : Operation → Bool
  | .pid | .lastExit | .lastResult | .flags | .report => true
  | _ => false

/-- **The documented machine.** What a sandbox remembers is no part of its state, so the
operations that recall it may answer anything here. A report is made of three other steps. -/
inductive Control.Step (mode : Mode) (limits : Limits) (n : Nat) :
    Control → Operation → List Exchange → Reply → Control → Prop
  | gone {operation : Operation} (ho : operation.controls = true) :
      Step mode limits n .destroyed operation [] (.failed .destroyed) .destroyed
  | unsupported {m : Machine} {c : Control} {bytes : List UInt8} (hc : c ≠ .destroyed)
      (hm : mode ≠ .vm) :
      Step mode limits n c (.execCode m bytes) [] (.failed (.unsupportedMode mode)) c
  | polled {c c' c'' : Control} {operation : Operation} {xs ys : List Exchange} {reply : Reply}
      (hp : Poll c xs c') (ha : Act mode limits n c' operation ys reply c'') :
      Step mode limits n c operation (xs ++ ys) reply c''
  | report {c c₁ c₂ c₃ : Control} {xs ys zs : List Exchange} {report : Report}
      (hs : Step mode limits n c .status xs (.status report.status) c₁)
      (hm : Step mode limits n c₁ .memory ys (.usage report.memory) c₂)
      (hc : Step mode limits n c₂ .cpuTime zs (.usage report.cpuTime) c₃) :
      Step mode limits n c .report (xs ++ (ys ++ zs)) (.report report) c₃
  | pid {c : Control} {pid : UInt32} : Step mode limits n c .pid [] (.pid pid) c
  | mode {c : Control} : Step mode limits n c .mode [] (.mode mode) c
  | limits {c : Control} : Step mode limits n c .limits [] (.limits limits) c
  | lastResult {c : Control} {value : Option Int32} :
      Step mode limits n c .lastResult [] (.lastResult value) c
  | flags {c : Control} {container : Bool} :
      Step mode limits n c .flags [] (.flags container (decide (c = .destroyed))) c

/-! ## The answers determine the step -/

namespace Control

/-- The state after requests that may do no more than find that a child has exited. -/
def settle (c : Control) (xs : List Exchange) : Control :=
  if xs.any Exchange.found then .idle else c

theorem settle_append (c : Control) (xs ys : List Exchange) :
    c.settle (xs ++ ys) = (c.settle xs).settle ys := by
  unfold settle
  rw [List.any_append]
  cases xs.any Exchange.found <;> simp

theorem Poll.eq_settle {c c' : Control} {xs : List Exchange} (h : Poll c xs c') :
    c' = c.settle xs := by
  cases h <;> rfl

/-- Where a poll ends can be read off its answer. -/
theorem Poll.unique {c c₁ c₂ : Control} {xs₁ xs₂ ys₁ ys₂ : List Exchange} (h₁ : Poll c xs₁ c₁)
    (h₂ : Poll c xs₂ c₂) (he : xs₁ ++ ys₁ = xs₂ ++ ys₂) : c₁ = c₂ ∧ ys₁ = ys₂ := by
  cases h₁ <;> cases h₂ <;> simp_all

section Determinism

variable {mode : Mode} {limits : Limits} {n : Nat} {c c₁ c₂ : Control}
  {operation : Operation} {xs ys : List Exchange} {reply₁ reply₂ : Reply}

theorem Act.unique (h₁ : Act mode limits n c operation xs reply₁ c₁)
    (h₂ : Act mode limits n c operation xs reply₂ c₂) :
    c₁ = c₂ ∧ (operation.recalls = false → reply₁ = reply₂) := by
  cases h₁ <;> cases h₂ <;> simp_all [Operation.recalls, Vacant]

theorem Act.controls_of_destroyed
    (h : Act mode limits n .destroyed operation xs reply₁ c₁) : operation.controls = false := by
  cases h <;> simp_all [Operation.controls, Vacant]

theorem Act.mode_of_execCode {m : Machine} {bytes : List UInt8}
    (h : Act mode limits n c (.execCode m bytes) xs reply₁ c₁) : mode = .vm := by
  cases h <;> assumption

/-- Looking at a sandbox changes its state only by finding that a child has exited. -/
theorem Step.eq_settle (h : Step mode limits n c operation xs reply₁ c₁)
    (ho : operation.controls = false) : c₁ = c.settle xs := by
  induction h with
  | gone hc => rw [hc] at ho; cases ho
  | unsupported => cases ho
  | polled hp ha =>
      rw [settle_append, ← hp.eq_settle]
      cases ha <;> first | rfl | cases ho
  | report _ _ _ ihs ihm ihc =>
      rw [settle_append, settle_append, ← ihs rfl, ← ihm rfl, ← ihc rfl]
  | pid | mode | limits | lastResult | flags => rfl

/-- **The answers determine the step**: the state that it leads to, and the reply unless the
operation recalls the past. -/
theorem Step.unique (h₁ : Step mode limits n c operation xs reply₁ c₁)
    (h₂ : Step mode limits n c operation ys reply₂ c₂) (he : xs = ys) :
    c₁ = c₂ ∧ (operation.recalls = false → reply₁ = reply₂) := by
  cases h₁ with
  | gone ho =>
      -- A step that is refused for destruction is told from a polled one by its operation: no
      -- act of a destroyed sandbox is that of an operation which controls it.
      cases h₂ with
      | gone => exact ⟨rfl, fun _ => rfl⟩
      | unsupported hc => exact absurd rfl hc
      | polled hp ha =>
          cases hp
          rw [ha.controls_of_destroyed] at ho
          cases ho
      | report | pid | mode | limits | lastResult | flags => cases ho
  | unsupported hc hm =>
      cases h₂ with
      | gone => exact absurd rfl hc
      | unsupported => exact ⟨rfl, fun _ => rfl⟩
      | polled hp ha => exact absurd ha.mode_of_execCode hm
  | polled hp ha =>
      cases h₂ with
      | gone ho =>
          cases hp
          rw [ha.controls_of_destroyed] at ho
          cases ho
      | unsupported hc hm => exact absurd ha.mode_of_execCode hm
      | polled hp' ha' =>
          -- The two traces agree, so the polls had the same answer and the acts start alike.
          obtain ⟨rfl, rfl⟩ := hp.unique hp' he
          exact ha.unique ha'
      | report | pid | mode | limits | lastResult | flags => cases ha
  | report hs hm hc =>
      refine ⟨?_, fun ho => by cases ho⟩
      rw [(Step.report hs hm hc).eq_settle rfl, h₂.eq_settle rfl, he]
  | pid | lastResult | flags =>
      refine ⟨?_, fun ho => by cases ho⟩
      rw [h₂.eq_settle rfl, ← he]
      rfl
  | mode | limits =>
      cases h₂ with
      | gone ho => cases ho
      | polled _ ha => cases ha
      | _ => exact ⟨rfl, fun _ => rfl⟩

end Determinism

end Control

/-! ## Sandboxes follow the machine -/

namespace Descriptor

/-- The state that a descriptor stands for. -/
def control (d : Descriptor) : Control :=
  if d.destroyed then .destroyed
  else
    match d.process with
    | some child => .child child.index
    | none => if d.status = .running then .busy else .idle

variable {d : Descriptor}

theorem control_of_destroyed (h : d.destroyed = true) : d.control = .destroyed := by
  simp [control, h]

theorem control_of_owned (h : d.destroyed = false) {child : Child}
    (hc : d.process = some child) : d.control = .child child.index := by
  simp [control, h, hc]

theorem control_of_busy (h : d.destroyed = false) (hs : d.status = .running)
    (hc : d.process = none) : d.control = .busy := by
  simp [control, h, hs, hc]

theorem control_of_idle (h : d.destroyed = false) (hs : d.status = .idle)
    (hc : d.process = none) : d.control = .idle := by
  simp [control, h, hs, hc]

/-- Without a child a sandbox that is not destroyed is vacant. -/
theorem vacant_of_process (h : d.destroyed = false) (hc : d.process = none) :
    d.control.Vacant := by
  cases hs : d.status with
  | idle => exact .inl (control_of_idle h hs hc)
  | running => exact .inr (control_of_busy h hs hc)

theorem control_ne_destroyed (h : d.destroyed = false) : d.control ≠ .destroyed := by
  unfold control
  rw [h]
  cases d.process with
  | some child => simp
  | none => cases d.status <;> simp

theorem Coherent.status_control (h : d.Coherent) : d.control.status = d.status := by
  cases hd : d.destroyed with
  | true => rw [control_of_destroyed hd, (h.destroyed hd).1]; rfl
  | false =>
      cases hc : d.process with
      | some child => rw [control_of_owned hd hc, (h.owned child hc).1]; rfl
      | none =>
          cases hs : d.status with
          | idle => rw [control_of_idle hd hs hc]; rfl
          | running => rw [control_of_busy hd hs hc]; rfl

end Descriptor

section Refinement

variable {n : Nat} {d d' : Descriptor} {xs : List Exchange}

theorem Polls.control (hp : Polls d xs d') (h : d.Coherent) :
    Control.Poll d.control xs d'.control := by
  cases hp with
  | still hq =>
      cases hd : d.destroyed with
      | true => rw [Descriptor.control_of_destroyed hd]; exact .destroyed
      | false =>
          cases hs : d.status with
          | idle =>
              rw [Descriptor.control_of_idle hd hs (h.process_of_idle hs)]
              exact .idle
          | running =>
              rw [Descriptor.control_of_busy hd hs (hq hs)]
              exact .busy
  | exited hs hc =>
      have hd := h.not_destroyed_of_running hs
      rw [Descriptor.control_of_owned hd hc, Descriptor.control_of_idle]
      exacts [.exited _ _, hd, rfl, rfl]
  | @alive child answer hs hc ha =>
      rw [Descriptor.control_of_owned (h.not_destroyed_of_running hs) hc]
      rcases answer with reason | _ | report
      · exact .failed _ _
      · exact .alive _
      · cases ha

/-- After the poll, the act decides the step. -/
theorem Polls.step {d'' : Descriptor} {c' c'' : Control} {operation : Operation}
    {ys : List Exchange} {reply : Reply} (hp : Polls d xs d') (h : d.Coherent)
    (hc' : d'.control = c') (hc'' : d''.control = c'')
    (ha : Control.Act d.mode d.limits n c' operation ys reply c'') :
    Control.Step d.mode d.limits n d.control operation (xs ++ ys) reply d''.control := by
  subst hc' hc''
  exact .polled (hp.control h) ha

/-- A poll and nothing after it. -/
theorem Polls.step_nil {d'' : Descriptor} {c' c'' : Control} {operation : Operation}
    {reply : Reply} (hp : Polls d xs d') (h : d.Coherent) (hc' : d'.control = c')
    (hc'' : d''.control = c'') (ha : Control.Act d.mode d.limits n c' operation [] reply c'') :
    Control.Step d.mode d.limits n d.control operation xs reply d''.control := by
  have hs := hp.step h hc' hc'' ha
  rwa [List.append_nil] at hs

theorem Execs.step {command : String} {result : Except Error UInt32}
    (hx : Execs n command d xs result d') (h : d.Coherent) :
    Control.Step d.mode d.limits n d.control (.exec command) xs (.ofExcept .pid result)
      d'.control := by
  cases hx with
  | destroyed hd =>
      rw [Descriptor.control_of_destroyed hd]
      exact .gone rfl
  | busy hd hp hs =>
      rw [← hp.destroyed_eq] at hd
      cases hc : d'.process with
      | some child =>
          have ho := Descriptor.control_of_owned hd hc
          exact hp.step_nil h ho ho .exec_child
      | none =>
          have hb := Descriptor.control_of_busy hd hs hc
          exact hp.step_nil h hb hb .exec_busy
  | refused hd hp hs =>
      rw [← hp.destroyed_eq] at hd
      have hi := Descriptor.control_of_idle hd hs ((hp.coherent h).process_of_idle hs)
      rw [hp.limits_eq]
      exact hp.step h hi hi .exec_refused
  | started hd hp hs =>
      rw [← hp.destroyed_eq] at hd
      have hi := Descriptor.control_of_idle hd hs ((hp.coherent h).process_of_idle hs)
      rw [hp.limits_eq]
      exact hp.step h hi (by simp [Descriptor.control, hd]) .exec_started

theorem ExecsCode.step {m : Machine} {bytes : List UInt8} {result : Except Error Int32}
    (hx : ExecsCode m bytes d xs result d') (h : d.Coherent) :
    Control.Step d.mode d.limits n d.control (.execCode m bytes) xs (.ofExcept .value result)
      d'.control := by
  cases hx with
  | destroyed hd =>
      rw [Descriptor.control_of_destroyed hd]
      exact .gone rfl
  | unsupported hd hm => exact .unsupported (Descriptor.control_ne_destroyed hd) hm
  | busy hd hm hp hc =>
      rw [← hp.destroyed_eq] at hd
      have ho := Descriptor.control_of_owned hd hc
      exact hp.step_nil h ho ho (.execCode_child hm)
  | empty hd hm hp hc hb =>
      rw [← hp.destroyed_eq] at hd
      subst hb
      exact hp.step_nil h rfl rfl (.execCode_empty hm (Descriptor.vacant_of_process hd hc))
  | unmapped hd hm hp hc hb ha =>
      rw [← hp.destroyed_eq] at hd
      exact hp.step_nil h rfl rfl
        (.execCode_unmapped hm (Descriptor.vacant_of_process hd hc) hb ha)
  | unsealed hd hm hp hc hb ha hr =>
      rw [← hp.destroyed_eq] at hd
      exact hp.step_nil h rfl rfl
        (.execCode_unsealed hm (Descriptor.vacant_of_process hd hc) hb ha hr)
  | ran hd hm hp hc hb ha hr =>
      rw [← hp.destroyed_eq] at hd
      exact hp.step_nil h rfl (Descriptor.control_of_busy hd rfl hc)
        (.execCode_ran hm (Descriptor.vacant_of_process hd hc) hb ha hr)

theorem Stops.step {result : Except Error Unit} (hx : Stops d xs result d') (h : d.Coherent) :
    Control.Step d.mode d.limits n d.control .stop xs (.ofExcept (fun _ => .done) result)
      d'.control := by
  cases hx with
  | destroyed hd =>
      rw [Descriptor.control_of_destroyed hd]
      exact .gone rfl
  | idle hd hp hs =>
      rw [← hp.destroyed_eq] at hd
      have hi := Descriptor.control_of_idle hd hs ((hp.coherent h).process_of_idle hs)
      exact hp.step_nil h hi hi .stop_idle
  | released hd hp hs hc =>
      rw [← hp.destroyed_eq] at hd
      exact hp.step_nil h (Descriptor.control_of_busy hd hs hc)
        (Descriptor.control_of_idle hd rfl hc) .stop_busy
  | unkilled hd hp hs hc =>
      rw [← hp.destroyed_eq] at hd
      have ho := Descriptor.control_of_owned hd hc
      exact hp.step h ho ho .stop_unkilled
  | unreaped hd hp hs hc =>
      rw [← hp.destroyed_eq] at hd
      exact hp.step h (Descriptor.control_of_owned hd hc) (Descriptor.control_of_idle hd rfl rfl)
        .stop_unreaped
  | reaped hd hp hs hc =>
      rw [← hp.destroyed_eq] at hd
      exact hp.step h (Descriptor.control_of_owned hd hc) (Descriptor.control_of_idle hd rfl rfl)
        .stop_reaped

/-- Giving up a child polls it first, as every other operation does. -/
theorem Destroys.step {result : Except Error Unit} (hx : Destroys d xs result d')
    (h : d.Coherent) :
    Control.Step d.mode d.limits n d.control .destroy xs (.ofExcept (fun _ => .done) result)
      d'.control := by
  cases hx with
  | destroyed hd =>
      rw [Descriptor.control_of_destroyed hd]
      exact .gone rfl
  | @done _ report hd hr =>
      have hgone : (d.tornDown report).control = .destroyed := Descriptor.control_of_destroyed rfl
      cases hc : d.process with
      | none =>
          rw [hc] at hr
          cases hr
          exact Polls.step_nil (.still fun _ => hc) h rfl hgone
            (.destroy_vacant (Descriptor.vacant_of_process hd hc))
      | some child =>
          -- An owned child is running by coherence, so its first request counts as the poll.
          have hs := (h.owned child hc).1
          rw [hc] at hr
          cases hr with
          | exited =>
              exact Polls.step_nil (.exited hs hc) h rfl hgone
                (.destroy_vacant (Descriptor.vacant_of_process hd rfl))
          | forced ha =>
              exact Polls.step (.alive hs hc ha) h (Descriptor.control_of_owned hd hc) hgone
                .destroy_child

theorem Reads.step_memory {amount : UInt64} (hx : Reads .memoryUsage d xs amount d')
    (h : d.Coherent) :
    Control.Step d.mode d.limits n d.control .memory xs (.usage amount) d'.control := by
  cases hx with
  | nothing hp => exact hp.step_nil h rfl rfl .memory_none
  | read hp hc =>
      have hd := ((hp.coherent h).owned _ hc).2.2.2
      have ho := Descriptor.control_of_owned hd hc
      exact hp.step h ho ho .memory_read

theorem Reads.step_cpuTime {amount : UInt64} (hx : Reads .cpuTime d xs amount d')
    (h : d.Coherent) :
    Control.Step d.mode d.limits n d.control .cpuTime xs (.usage amount) d'.control := by
  cases hx with
  | nothing hp => exact hp.step_nil h rfl rfl .cpuTime_none
  | read hp hc =>
      have hd := ((hp.coherent h).owned _ hc).2.2.2
      have ho := Descriptor.control_of_owned hd hc
      exact hp.step h ho ho .cpuTime_read

theorem Polls.step_status (hp : Polls d xs d') (h : d.Coherent) :
    Control.Step d.mode d.limits n d.control .status xs (.status d'.status) d'.control := by
  rw [← (hp.coherent h).status_control]
  exact hp.step_nil h rfl rfl .status

theorem Reports.step {report : Report} (hx : Reports d xs report d') (h : d.Coherent) :
    Control.Step d.mode d.limits n d.control .report xs (.report report) d'.control := by
  cases hx with
  | mk hp hm hc =>
      have h₁ := hp.coherent h
      have hs := hp.step_status (n := n) h
      have hsm := hm.step_memory (n := n) h₁
      have hsc := hc.step_cpuTime (n := n) (hm.coherent h₁)
      rw [hm.sameSetup.1, hm.sameSetup.2] at hsc
      rw [hp.mode_eq, hp.limits_eq] at hsm hsc
      exact .report hs hsm hsc

/-- **Every operation is a step of the machine.** -/
theorem Performs.step {operation : Operation} {reply : Reply}
    (hx : Performs n d operation xs reply d') (h : d.Coherent) :
    Control.Step d.mode d.limits n d.control operation xs reply d'.control := by
  cases hx with
  | exec hx | execCode hx | stop hx | destroy hx | report hx => exact hx.step h
  | status hp => exact hp.step_status h
  | memory hx => exact hx.step_memory h
  | cpuTime hx => exact hx.step_cpuTime h
  | lastExit hp => exact hp.step_nil h rfl rfl .lastExit
  | pid => exact .pid
  | mode => exact .mode
  | limits => exact .limits
  | lastResult => exact .lastResult
  | flags =>
      have hd : d.destroyed = decide (d.control = .destroyed) := by
        cases hd : d.destroyed with
        | true => simp [Descriptor.control_of_destroyed hd]
        | false => simp [Descriptor.control_ne_destroyed hd]
      rw [hd]
      exact .flags

end Refinement

/-- `t.Follows b mode limits operation`: carried out on the sandbox `t`, the operation is a
step of the machine under the answers that the backend `b` gives meanwhile, and the machine has no
other step under these answers. -/
def Follows (b : Backend σ) (mode : Mode) (limits : Limits) (t : Sandbox σ)
    (operation : Operation) : Prop :=
  ∃ xs, (t.perform b operation).2.world.exchanges = t.world.exchanges ++ xs
    ∧ Answers b t.world.state xs (t.perform b operation).2.world.state
    ∧ Control.Step mode limits t.world.spawned t.descriptor.control operation xs
        (t.perform b operation).1 (t.perform b operation).2.descriptor.control
    ∧ ∀ reply c,
        Control.Step mode limits t.world.spawned t.descriptor.control operation xs reply c →
        c = (t.perform b operation).2.descriptor.control
          ∧ (operation.recalls = false → reply = (t.perform b operation).1)

theorem follows_of_coherent {b : Backend σ} {t : Sandbox σ}
    (h : t.descriptor.Coherent) (operation : Operation) :
    t.Follows b t.descriptor.mode t.descriptor.limits operation := by
  obtain ⟨xs, hx, he⟩ := perform_spec b t operation
  have hs := hx.step h
  refine ⟨xs, he.exchanges, he.answered, hs, fun reply c hc => ?_⟩
  obtain ⟨hc', hr⟩ := hc.unique hs rfl
  exact ⟨hc', hr⟩

/-- **A sandbox refines its state machine.** A new sandbox is idle, and after any operations
the next one does what the machine does, for every mode, all limits and every backend, and whatever
hosts the machine code among these operations finds. -/
theorem perform_refines_control {b : Backend σ} {mode : Mode} {limits : Limits}
    {w w' : World σ} {s : Sandbox σ} (h : create b mode limits w = (.ok s, w'))
    (before : List Operation) (operation : Operation) :
    s.descriptor.control = .idle
      ∧ (s.performAll b before).2.Follows b mode limits operation := by
  obtain ⟨xs, container, -, hd, -, -⟩ := create_spec h
  have hcoh := coherent_performAll (b := b) (coherent_of_create h) before
  have hset := sameSetup_performAll (b := b) s before
  have hf := follows_of_coherent (b := b) hcoh operation
  rw [hset.1, hset.2, hd] at hf
  exact ⟨by rw [hd]; rfl, hf⟩

/-- The machine at work on a child that outlives two polls and is then stopped. -/
theorem follows_stop_of_running :
    ∃ s w, create Scripted.backend .process {} (lingering 2) = (.ok s, w)
      ∧ s.descriptor.control = .idle
      ∧ (s.performAll Scripted.backend [.exec "job", .status]).2.Follows
          Scripted.backend .process {} .stop := by
  have h : create Scripted.backend .process {} (lingering 2) = _ := rfl
  exact ⟨_, _, h, perform_refines_control h _ _⟩

end Confine.Sandbox

import Confine.Machine.Amd64
import Confine.Proofs.Sandbox.Coherence

set_option autoImplicit false

/-! # What a report describes

A report is meant as a view of the sandbox at one moment, and `Report.Describes` says what this
means: everything in it is true of one state, and that is the state in which the sandbox is left.
But it is put together from three questions that poll the child on their own. If the child is
first seen to have exited by the second or the third of these polls, then the status in the
report is older than the rest of it. `report_describes_iff` says that this is the only way in
which a report is wrong.
-/

namespace Confine.Sandbox

variable {σ : Type}

/-- **A report describes a state** if each of its fields is what the state says, and no usage is
reported for a child that is not there. -/
structure Report.Describes (r : Report) (d : Descriptor) : Prop where
  mode : r.mode = d.mode
  limits : r.limits = d.limits
  pid : r.pid = d.pid
  status : r.status = d.status
  memory : d.process = none → r.memory = 0
  cpuTime : d.process = none → r.cpuTime = 0
  lastExit : r.lastExit = d.lastExit
  lastResult : r.lastResult = d.lastResult

theorem Descriptor.describes_view (d : Descriptor) {status : Status} {memory cpuTime : UInt64}
    (hs : status = d.status) (hm : d.process = none → memory = 0)
    (hc : d.process = none → cpuTime = 0) : (d.view status memory cpuTime).Describes d :=
  ⟨rfl, rfl, rfl, hs, hm, hc, rfl, rfl⟩

/-- None of the requests finds that a child has exited. -/
def Uneventful (xs : List Exchange) : Prop := ∀ x ∈ xs, x.found = false

theorem uneventful_append {xs ys : List Exchange} :
    Uneventful (xs ++ ys) ↔ Uneventful xs ∧ Uneventful ys :=
  List.forall_mem_append

theorem uneventful_singleton {x : Exchange} : Uneventful [x] ↔ x.found = false :=
  List.forall_mem_singleton

theorem not_uneventful_exit {i : Nat} {report : ExitReport} {xs : List Exchange} :
    ¬ Uneventful (.tryWait i (.ok (some report)) :: xs) := by
  intro h
  cases h _ List.mem_cons_self

section Readings

variable {d d' : Descriptor} {xs : List Exchange} {child : Child}

/-- What a reading comes to when a child is owned: its poll reports the exit, or nothing happens
to the child. -/
theorem Reads.of_owned {ask : UInt32 → UInt64 → Exchange} {amount : UInt64}
    (hx : Reads ask d xs amount d') (h : d.Coherent) (hc : d.process = some child)
    (hask : ∀ pid amount, (ask pid amount).found = false) :
    (∃ report, xs = [.tryWait child.index (.ok (some report))] ∧ d' = d.exited report)
      ∨ Uneventful xs ∧ d' = d := by
  have halive : ∀ {answer : Except String (Option ExitReport)}, reported answer = none →
      (Exchange.tryWait child.index answer).found = false := fun ha => congrArg Option.isSome ha
  cases hx with
  | nothing hp _ =>
      rcases hp.of_owned h hc with ⟨report, rfl, rfl⟩ | ⟨answer, ha, rfl, rfl⟩
      · exact .inl ⟨report, rfl, rfl⟩
      · exact .inr ⟨uneventful_singleton.mpr (halive ha), rfl⟩
  | read hp hc' _ =>
      rcases hp.of_owned h hc with ⟨report, rfl, rfl⟩ | ⟨answer, ha, rfl, rfl⟩
      · cases hc'
      · refine .inr ⟨uneventful_append.mpr ⟨?_, ?_⟩, rfl⟩
        · exact uneventful_singleton.mpr (halive ha)
        · exact uneventful_singleton.mpr (hask _ _)

/-- The two readings of a report, when the child is gone before them. -/
theorem Reads.describes {d₁ d₂ d₃ : Descriptor} {ys zs : List Exchange}
    {memory cpuTime : UInt64} (hm : Reads .memoryUsage d₁ ys memory d₂)
    (hc : Reads .cpuTime d₂ zs cpuTime d₃) (hnone : d₁.process = none) :
    ys ++ zs = [] ∧ (d₃.view d₁.status memory cpuTime).Describes d₃ := by
  obtain ⟨rfl, rfl, rfl⟩ := hm.eq_of_vacant hnone
  obtain ⟨rfl, rfl, rfl⟩ := hc.eq_of_vacant hnone
  exact ⟨rfl, Descriptor.describes_view _ rfl (fun _ => rfl) fun _ => rfl⟩

/-- **The two kinds of reports.** If a later poll than the first reports an exit then the report
says that something runs although nothing does, and otherwise it describes the state it leads
to. -/
theorem Reports.describes_or_stale {r : Report} (hx : Reports d xs r d') (h : d.Coherent) :
    (Uneventful xs.tail ∧ r.Describes d')
      ∨ (¬ Uneventful xs.tail ∧ r.status = .running ∧ d'.status = .idle
          ∧ r.lastExit.isSome = true) := by
  cases hx with
  | @mk xs ys zs d₁ d₂ _ memory cpuTime hp hm hc =>
      cases hown : d.process with
      | none =>
          obtain ⟨rfl, rfl⟩ := hp.eq_of_vacant hown
          obtain ⟨hnil, hd⟩ := hm.describes hc hown
          rw [hnil]
          exact .inl ⟨nofun, hd⟩
      | some child =>
          have hs := (h.owned child hown).1
          rcases hp.of_owned h hown with ⟨report, rfl, rfl⟩ | ⟨answer, ha, rfl, rfl⟩
          · -- The first poll reports the exit, and nothing is polled any more.
            obtain ⟨hnil, hd⟩ := hm.describes hc rfl
            rw [hnil]
            exact .inl ⟨nofun, hd⟩
          rcases hm.of_owned h hown fun _ _ => rfl with ⟨report, rfl, rfl⟩ | ⟨hys, rfl⟩
          · obtain ⟨rfl, -, rfl⟩ := hc.eq_of_vacant rfl
            exact .inr ⟨not_uneventful_exit, hs, rfl, rfl⟩
          rcases hc.of_owned h hown fun _ _ => rfl with ⟨report, rfl, rfl⟩ | ⟨hzs, rfl⟩
          · refine .inr ⟨fun hall => ?_, hs, rfl, rfl⟩
            have hrest : Uneventful (ys ++ [.tryWait child.index (.ok (some report))]) := hall
            exact not_uneventful_exit (uneventful_append.mp hrest).2
          · -- The child is alive at all three polls.
            have hall : Uneventful (ys ++ zs) := uneventful_append.mpr ⟨hys, hzs⟩
            refine .inl ⟨hall, Descriptor.describes_view _ rfl ?_ ?_⟩
            · intro hnone
              rw [hown] at hnone
              cases hnone
            · intro hnone
              rw [hown] at hnone
              cases hnone

end Readings

/-- **A report describes the state in which the sandbox is left** unless the exit of the child
first shows at a later poll than the first. Then it says that a command runs which has exited,
and tells how it exited. -/
theorem report_describes_iff {b : Backend σ} {s : Sandbox σ}
    (h : Reachable b s) :
    ∃ xs, (s.report b).2.world.exchanges = s.world.exchanges ++ xs
      ∧ ((s.report b).1.Describes (s.report b).2.descriptor ↔ Uneventful xs.tail)
      ∧ (¬ (s.report b).1.Describes (s.report b).2.descriptor →
          (s.report b).1.status = .running ∧ (s.report b).2.descriptor.status = .idle
            ∧ (s.report b).1.lastExit.isSome = true) := by
  obtain ⟨xs, hx, he⟩ := report_spec b s
  refine ⟨xs, he.exchanges, ?_⟩
  rcases hx.describes_or_stale h.coherent with ⟨hall, hd⟩ | ⟨hexit, hstale⟩
  · exact ⟨iff_of_true hd hall, fun hno => absurd hd hno⟩
  · refine ⟨iff_of_false (fun hd => ?_) hexit, fun _ => hstale⟩
    have hs := hd.status
    rw [hstale.1, hstale.2.1] at hs
    cases hs

/-- A report on a child that is alive at all polls. -/
theorem report_describes_running :
    ∃ s w u, create Scripted.backend .none {} (lingering 3) = (.ok s, w)
      ∧ (s.perform Scripted.backend (.exec "job")).2 = u
      ∧ (u.report Scripted.backend).1.status = .running
      ∧ (u.report Scripted.backend).1.Describes (u.report Scripted.backend).2.descriptor := by
  have h : create Scripted.backend .none {} (lingering 3) = _ := rfl
  have hu : Reachable Scripted.backend _ :=
    .performed (.created h) (.exec "job")
  obtain ⟨xs, -, -, hstale⟩ := report_describes_iff hu
  refine ⟨_, _, _, h, rfl, rfl, ?_⟩
  by_contra hno
  cases (hstale hno).2.1

/-- **Not every report describes the state in which the sandbox is left**: the child is alive at
the first poll, and its exit shows at the second. -/
theorem report_describes_fails :
    ∃ s w u, create Scripted.backend .none {} (lingering 1) = (.ok s, w)
      ∧ (s.perform Scripted.backend (.exec "job")).2 = u
      ∧ (u.report Scripted.backend).1.status = .running
      ∧ (u.report Scripted.backend).1.lastExit = some ⟨some 0, none⟩
      ∧ ¬ (u.report Scripted.backend).1.Describes (u.report Scripted.backend).2.descriptor := by
  refine ⟨_, _, _, rfl, rfl, rfl, rfl, fun h => ?_⟩
  cases h.status

end Confine.Sandbox

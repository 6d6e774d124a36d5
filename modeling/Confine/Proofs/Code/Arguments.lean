import Confine.Machine.Amd64
import Confine.Proofs.Code.Assembly

set_option autoImplicit false

/-! # What called code gets to see

Code that is called sees a count and a table, and takes a string in the table to end at its first
zero. `Machine.Call.Delivers` says that it finds the arguments there, each of them whole. An
argument that holds the character with this byte could not be delivered: it is refused, and then the
code is not called at all (`Block.execute_delivers`).
-/

namespace Confine

/-- The character that ends strings is the only one with a zero among its bytes. -/
theorem Text.zero_mem_bytesOf_iff (s : String) :
    (0 : UInt8) ∈ bytesOf s ↔ '\x00' ∈ s.toList := by
  have hsame : ∀ c : Char, c.toNat < 128 → (UInt8.ofNat c.toNat = 0 ↔ c = '\x00') := by
    intro c hc
    rw [← UInt8.toNat_inj, UInt8.toNat_ofNat_of_lt' (by omega : c.toNat < 256), ← Char.toNat_inj]
    rfl
  have hexists := exists_byte_iff (s := s) (p := fun b => b = 0) (q := fun c => c = '\x00')
    (by rintro b rfl; decide) (by rintro c rfl; decide) hsame
  simpa using hexists

/-- **A call delivers arguments**: it counts them, its table has an entry for each of them with its
bytes and a zero after them, and a null entry at the end. None of the bytes before is a zero, so
that each argument is read back whole. -/
structure Machine.Call.Delivers (call : Machine.Call) (args : List String) : Prop where
  count : call.argc.toInt = args.length
  length : call.argv.length = args.length + 1
  entry : ∀ i (h : i < args.length), call.argv[i]? = some (some (Text.bytesOf args[i] ++ [0]))
  last : call.argv[args.length]? = some none
  whole : ∀ arg ∈ args, (0 : UInt8) ∉ Text.bytesOf arg

theorem Machine.Call.delivers_ofArguments {args : List String} (hlen : args.length < 2 ^ 31)
    (h : ∀ arg ∈ args, '\x00' ∉ arg.toList) : (ofArguments args).Delivers args where
  count := Int32.toInt_ofNat_of_lt hlen
  length := by simp [ofArguments]
  entry i hi := by
    rw [ofArguments, List.getElem?_append_left (by simpa using hi), List.getElem?_map,
      List.getElem?_eq_getElem hi]
    rfl
  last := by simp [ofArguments]
  whole arg harg := fun hzero => h arg harg ((Text.zero_mem_bytesOf_iff arg).mp hzero)

/-- The call that an event tells of. -/
def Event.call? : Event → Option Machine.Call
  | .executing _ call => some call
  | _ => none

namespace Code

/-! ## Calls -/

/-- The calls that were made in an attempt, in order. -/
def Attempt.calls {α : Type} (a : Attempt α) : List Machine.Call :=
  a.events.filterMap Event.call?

theorem holdsTerminator_iff (s : String) : holdsTerminator s = true ↔ '\x00' ∈ s.toList := by
  simp [holdsTerminator]

/-- If some argument cannot be delivered, there is a first one. -/
theorem exists_first {args : List String} (h : ∃ arg ∈ args, '\x00' ∈ arg.toList) :
    ∃ before arg after, args = before ++ arg :: after ∧ (∀ s ∈ before, '\x00' ∉ s.toList)
      ∧ '\x00' ∈ arg.toList := by
  induction args with
  | nil =>
      obtain ⟨arg, hmem, -⟩ := h
      nomatch hmem
  | cons first rest ih =>
      by_cases hfirst : '\x00' ∈ first.toList
      · exact ⟨[], first, rest, rfl, List.forall_mem_nil _, hfirst⟩
      obtain ⟨arg, hmem, harg⟩ := h
      have hrest : arg ∈ rest := by
        rcases List.mem_cons.mp hmem with rfl | hrest
        · exact absurd harg hfirst
        · exact hrest
      obtain ⟨before, arg, after, rfl, hbefore, harg⟩ := ih ⟨arg, hrest, harg⟩
      exact ⟨first :: before, arg, after, rfl, List.forall_mem_cons.mpr ⟨hfirst, hbefore⟩, harg⟩

/-- Arguments that can all be delivered are. -/
theorem invoke_of_whole {args : List String} (h : ∀ arg ∈ args, '\x00' ∉ arg.toList) (m : Machine)
    (region : ExecutableRegion) :
    invoke m region args = ⟨.ok (m.run region.bytes (Machine.Call.ofArguments args)),
      [.executing region.len (Machine.Call.ofArguments args)]⟩ := by
  have hnone : args.find? holdsTerminator = none := by
    rw [List.find?_eq_none]
    exact fun arg harg hholds => h arg harg ((holdsTerminator_iff arg).mp hholds)
  unfold invoke
  rw [hnone]
  rfl

/-- The first argument that cannot be delivered is refused. -/
theorem invoke_of_first {before after : List String} {arg : String}
    (h : ∀ s ∈ before, '\x00' ∉ s.toList) (harg : '\x00' ∈ arg.toList) (m : Machine)
    (region : ExecutableRegion) :
    invoke m region (before ++ arg :: after) = .fail (.invalidArgument arg) := by
  have hfirst : (before ++ arg :: after).find? holdsTerminator = some arg := by
    rw [List.find?_eq_some_iff_append]
    refine ⟨(holdsTerminator_iff arg).mpr harg, before, after, rfl, fun s hs => ?_⟩
    rw [Bool.not_eq_true', Bool.eq_false_iff, ne_eq, holdsTerminator_iff]
    exact h s hs
  unfold invoke
  rw [hfirst]

/-- A call fails for no other reason. -/
theorem refused_of_invoke {m : Machine} {region : ExecutableRegion} {args : List String}
    {cause : Error} (h : (invoke m region args).result = .error cause) :
    ∃ arg ∈ args, '\x00' ∈ arg.toList ∧ cause = .invalidArgument arg := by
  unfold invoke at h
  cases hfind : args.find? holdsTerminator with
  | none =>
      rw [hfind] at h
      nomatch h
  | some arg =>
      rw [hfind] at h
      cases h
      exact ⟨arg, List.mem_of_find?_eq_some hfind,
        (holdsTerminator_iff arg).mp (List.find?_some hfind), rfl⟩

namespace Block

/-- **Arguments reach the code exactly, or the code is not called.** If no argument holds the
character that ends strings, the code is called once, with a call that delivers the arguments, and
what it returns is the result. Otherwise the first argument that does is refused by name and noted,
and there is no call. No context is like one without arguments: the count is zero and the table has
only the null entry. -/
theorem execute_delivers {b : Block} {bytes : List UInt8} (hcode : b.code? = some bytes)
    (hsize : b.size ≠ 0) (m : Machine) (context : Option (List String))
    (hlen : (context.getD []).length < 2 ^ 31) :
    ((∀ arg ∈ context.getD [], '\x00' ∉ arg.toList) → ∃ call : Machine.Call,
        call.Delivers (context.getD []) ∧ (b.execute m context).calls = [call]
          ∧ (b.execute m context).result = .ok (m.run bytes call))
      ∧ (context.getD [] = [] → (b.execute m context).calls = [⟨0, [none]⟩])
      ∧ ((∃ arg ∈ context.getD [], '\x00' ∈ arg.toList) → ∃ before arg after,
        context.getD [] = before ++ arg :: after ∧ (∀ s ∈ before, '\x00' ∉ s.toList)
          ∧ '\x00' ∈ arg.toList ∧ (b.execute m context).calls = []
          ∧ (b.execute m context).result = .error (.invalidArgument arg)
          ∧ ∀ slot : Slot, slot.noteAll (b.execute m context).events
            = some ("invalid argument: argument " ++ Text.quoted arg ++ " contains a NUL byte")) := by
  obtain ⟨region, rfl, hexecute⟩ := execute_eq_invoke hcode hsize
  rw [hexecute]
  refine ⟨fun hwhole => ?_, fun hnone => ?_, fun hsome => ?_⟩
  · rw [invoke_of_whole hwhole]
    exact ⟨_, Machine.Call.delivers_ofArguments hlen hwhole, rfl, rfl⟩
  · rw [hnone, invoke_of_whole (List.forall_mem_nil _)]
    rfl
  · obtain ⟨before, arg, after, hargs, hbefore, harg⟩ := exists_first hsome
    rw [hargs, invoke_of_first hbefore harg]
    exact ⟨before, arg, after, rfl, hbefore, harg, rfl, rfl, fun slot => rfl⟩

/-- Two arguments, one of them outside of ASCII, and two of which the second holds the character. -/
theorem execute_delivers_two_arguments :
    let b : Block := ⟨"x86_64", "native", some (regionOf 4096 [0x89, 0xF8, 0xC3])⟩
    (∃ call : Machine.Call, call.Delivers ["a", "é"]
        ∧ (b.execute Machine.Amd64.host (some ["a", "é"])).calls = [call])
      ∧ (b.execute Machine.Amd64.host (some ["ok", "bad\x00arg"])).calls = []
      ∧ ∃ arg, (b.execute Machine.Amd64.host (some ["ok", "bad\x00arg"])).result
        = .error (.invalidArgument arg) := by
  intro b
  have hcode : b.code? = some [0x89, 0xF8, 0xC3] := by decide
  have hsize : b.size ≠ 0 := by decide
  obtain ⟨hwhole, -, -⟩ := execute_delivers hcode hsize Machine.Amd64.host (some ["a", "é"])
    (by decide)
  obtain ⟨-, -, hholds⟩ := execute_delivers hcode hsize Machine.Amd64.host
    (some ["ok", "bad\x00arg"]) (by decide)
  obtain ⟨call, hdelivers, hcalls, -⟩ := hwhole (by decide)
  obtain ⟨before, arg, after, -, -, -, hnone, hrefused, -⟩ :=
    hholds ⟨"bad\x00arg", by simp, by decide⟩
  exact ⟨⟨call, hdelivers, hcalls⟩, hnone, arg, hrefused⟩

end Block

end Code

end Confine

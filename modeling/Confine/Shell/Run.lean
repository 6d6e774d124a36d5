import Confine.Shell.Simple

set_option autoImplicit false

/-! # Running commands

A command is run by following its structure. Commands inside it are run by an interpreter, which
is given from outside; an interpreter that can follow commands down to a depth is made of one for a
smaller depth. -/

namespace Confine.Shell

open Act

variable (i : Interpreter)

/-! ## Lists and conditions -/

/-- Run commands one after another. Only the last one can be the last thing that the shell does. -/
def runList (m : Manner) : List Command → Act Unit
  | [] => pure ()
  | [c] => i.run m c
  | c :: rest => do
    i.run { m with isLast := false } c
    runList m rest

/-- Run commands whose failure is looked at, and tell whether they succeed. -/
def holdsList (cs : List Command) : Act Bool := do
  runList i { isTested := true } cs
  return (← get).status == 0

/-- Run the commands of the first clause whose condition holds. -/
def runClauses (m : Manner) (otherwise : List Command) :
    List (List Command × List Command) → Act Unit
  | [] => if otherwise.isEmpty then leave 0 else runList i m otherwise
  | (condition, body) :: rest => do
    let found ← holdsList i condition
    if found then runList i m body else runClauses m otherwise rest

/-! ## Loops -/

/-- How many rounds a loop has before it is taken to have no end. -/
def mostRounds : Nat := 1000000000000

/-- What becomes of a loop after a part of a round. -/
inductive Turn where
  /-- It goes on with what follows. -/
  | onward
  /-- It goes on with the next round. -/
  | again
  /-- It is done. -/
  | done

/-- Run a part of a round of a loop. -/
def turnOf (part : Act Unit) : Act Turn := do
  match ← attempt part with
  | .ok () => pure .onward
  | .error (.again 0) => pure .again
  | .error (.leave 0) => pure .done
  | .error (.again (n + 1)) => throw (.again n)
  | .error (.leave (n + 1)) => throw (.leave n)
  | .error halt => throw halt

/-- Run something inside a loop. -/
def inLoop (act : Act Unit) : Act Unit := do
  let before := (← get).loops
  modify fun s => { s with loops := s.loops + 1 }
  ensuring act (modify fun s => { s with loops := before })

/-- Run a loop whose last round has left an outcome. -/
def runLoop (m : Manner) (untilHolds : Bool) (condition body : List Command) :
    Nat → Nat → Act Unit
  | 0, _ => spin
  | rounds + 1, status => do
    match ← turnOf (runList i { isTested := true } condition) with
    | .done => leave status
    | .again => runLoop m untilHolds condition body rounds status
    | .onward =>
      if ((← get).status == 0) == untilHolds then leave status
      else
        let turn ← turnOf (runList i m body)
        let status := (← get).status
        match turn with
        | .done => pure ()
        | _ => runLoop m untilHolds condition body rounds status

/-- Run commands for each of some values. -/
def runEach (m : Manner) (name : String) (body : List Command) : List String → Act Unit
  | [] => pure ()
  | value :: rest => do
    assign name value
    match ← turnOf (runList i m body) with
    | .done => pure ()
    | _ => runEach m name body rest

/-! ## Choices -/

/-- Whether one of some patterns matches a text. -/
def matchesAny (text : List Char) : List Word → Act Bool
  | [] => pure false
  | pattern :: rest => do
    let found := patternMatches (← expandPattern i pattern) text
    if found then pure true else matchesAny text rest

/-- Run the commands of the first arm with a pattern that matches. -/
def runArms (m : Manner) (text : List Char) : List (List Word × List Command) → Act Unit
  | [] => leave 0
  | (patterns, body) :: rest => do
    let found ← matchesAny i text patterns
    if !found then runArms m text rest
    else if body.isEmpty then leave 0
    else runList i m body

/-! ## Shells of their own -/

/-- Whether something is to be done for a signal or at the exit. -/
def hasTraps : Act Bool := do
  return (← get).traps.any fun entry => !entry.2.isEmpty

/-- Run commands in a shell of their own, after redirections. -/
def runSubshell (m : Manner) (body : List Command) (rs : List Redirection) : Act Unit := do
  let routes ← routesOf i rs
  let inside : Act Unit := do
    followForGood i routes
    runList i { m with isLast := true } body
    throw .exit
  if m.isLast && !(← hasTraps) then inside
  else
    let pid ← forkShell i inside
    leave (← waitFor [pid])

/-- Prepare a process that is not waited for: it does not care for interrupts, and the first one of
several reads nothing. -/
def goToBackground (isFirst : Bool) : Act Unit := do
  [2, 3].forM fun n => do
    let _ ← call (.handle n .ignored)
  if isFirst then
    close 0
    let _ ← openAt "/dev/null" .forReading

/-- Look for the program of a stage, so that its place is remembered. -/
def lookAhead : Command → Act Unit
  | .simple _ _ (word :: _) _ =>
    match (literal? word).map String.ofList with
    | some name => do
      if isName name then
        let _ ← find true name
    | none => pure ()
  | _ => pure ()

/-- Start the stages of a pipeline after those whose output can be read from a descriptor. The
numbers of their processes are collected, the latest first. -/
def startStages (inBackground : Bool) (m : Manner) :
    Option Nat → List Nat → List Command → Act (List Nat)
  | _, pids, [] => pure pids
  | source, pids, c :: rest => do
    lookAhead c
    let pipe ← if rest.isEmpty then pure none
      else
        match ← call .pipe with
        | .ok ends => pure (some ends)
        | .error _ => do
          source.forM close
          fail "Pipe call failed"
    let stage : Act Unit := do
      if inBackground then goToBackground pids.isEmpty
      pipe.forM fun (next, _) => close next
      source.forM fun n => moveTo n 0
      pipe.forM fun (_, sink) => moveTo sink 1
      i.run { m with isLast := true } c
    let pid ← forkShell i stage
    source.forM close
    pipe.forM fun (_, sink) => close sink
    startStages inBackground m (pipe.map Prod.fst) (pid :: pids) rest

/-- Start a command that is not waited for. -/
def runInBackground (c : Command) : Act Unit := do
  match c with
  | .pipeline stages => addJob (← startStages i true {} none [] stages).reverse
  | _ =>
    let (body, rs) := match c with
      | .redirected _ body rs => (body, rs)
      | c => (c, [])
    let routes ← routesOf i rs
    let pid ← forkShell i do
      goToBackground true
      followForGood i routes
      i.run { isLast := true } body
    addJob [pid]
  leave 0

/-! ## All commands -/

/-- Turn an outcome around. -/
def turnAround : Act Unit :=
  modify fun s => { s with status := if s.status = 0 then 1 else 0 }

/-- Run a command whose outcome is turned around, also if it leaves a loop or a function. -/
def runNegated (body : Command) : Act Unit := do
  match ← attempt (i.run { isTested := true } body) with
  | .ok () => turnAround
  | .error halt =>
    if halt ≠ .exit ∧ halt ≠ .failure then turnAround
    throw halt

/-- Run a command after redirections, and bring back what was there before. -/
def runRedirected (m : Manner) (line : Nat) (body : Command) (rs : List Redirection) :
    Act Unit := do
  modify fun s => { s with line }
  let routes ← routesOf i rs
  let (formers, opened) ← followAll i routes []
  ensuring (if opened then i.run { isTested := m.isTested } body else leave 2) (bringBack formers)

/-- Let a failure end the shell, if that is asked for and if the failure is not looked at. -/
def checkOutcome (m : Manner) : Act Unit := do
  let s ← get
  if s.has 'e' && !m.isTested && s.status ≠ 0 then throw .exit

/-- Follow the structure of a command. -/
def carryThrough (m : Manner) : Command → Act Unit
  | .simple line assignments words redirections => do
    runSimple i m line assignments words redirections
    checkOutcome m
  | .redirected line (.subshell body) rs => do
    modify fun s => { s with line }
    runSubshell i m body rs
    checkOutcome m
  | .redirected line body rs => runRedirected i m line body rs
  | .subshell body => do
    runSubshell i m body []
    checkOutcome m
  | .group body => runList i m body
  | .pipeline stages => do
    let pids ← startStages i false m none [] stages
    leave (← waitFor pids.reverse)
    checkOutcome m
  | .negate body => runNegated i body
  | .both first second => do
    i.run { isTested := true } first
    if (← get).status = 0 then i.run m second
  | .either first second => do
    i.run { isTested := true } first
    if (← get).status ≠ 0 then i.run m second
  | .background body => runInBackground i body
  | .conditional clauses otherwise => runClauses i m otherwise clauses
  | .loop untilHolds condition body =>
    inLoop (runLoop i { isTested := m.isTested } untilHolds condition body mostRounds 0)
  | .each line name words body => do
    modify fun s => { s with line }
    let values ← match words with
      | none => do pure (← get).arguments
      | some ws => do pure (← ws.mapM (expandFields i)).flatten
    if values.isEmpty then leave 0
    else inLoop (runEach i { isTested := m.isTested } name body values)
  | .choose line subject arms => do
    modify fun s => { s with line }
    let text ← expandText i .atStart subject
    runArms i m text.toList arms
  | .define line name body => do
    modify fun s => { s with
      functions := (name, line, body) :: s.functions.filter fun f => f.1 ≠ name }
    leave 0

/-- Run a command, and do what is to be done for signals before it and after it. -/
def runCommand (m : Manner) (c : Command) : Act Unit := do
  if !(← get).has 'n' then
    takeSignals i
    carryThrough i m c
  takeSignals i
  if m.isLast then throw .exit

end Confine.Shell

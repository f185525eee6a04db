import IncidentTriage.Breaker.Basic
import IncidentTriage.Act

/-!
# Calls through a breaker

A call through a breaker is either turned away or made once, and then ends as it ended. Its outcome
is told to the breaker, unless it was aborted.
-/

namespace IncidentTriage.Breaker
open IncidentTriage.Decimal

variable {ω α : Type}

def author : String := "circuit_breaker"

def percent (rate : Float) : String :=
  fixedText 0 (rate * 100.0) ++ "%"

def Notice.entry (name : String) : Notice → Entry
  | .opened was =>
    { level := .warning, author, text := s!"Circuit breaker '{name}' OPENED (was {was.name})" }
  | .moved was now =>
    { level := .info, author, text := s!"Circuit breaker '{name}' {was.name} -> {now.name}" }
  | .rates failure slow calls =>
    { level := .warning, author
      text := s!"Circuit breaker '{name}': failure rate {percent failure}, slow-call rate " ++
        s!"{percent slow} over last {calls} calls" }

def rejection (b : Breaker) : Fault :=
  ⟨.circuitOpen, s!"Circuit breaker '{b.config.name}' is {b.state.name}; call not permitted"⟩

/-- The breaker becomes another one and reports its changes. -/
def become (b : Breaker) (notices : List Notice) : Act (Breaker × ω) Unit := do
  Act.setOwn b
  Act.record (notices.map (Notice.entry b.config.name))

/-- The state that callers see; to look at it can end a cool-down. -/
def readState (clock : ω → Float) : Act (Breaker × ω) State := do
  let (b, w) ← Act.world
  let (b, notices) := b.refresh (clock w)
  become b notices
  return b.state

def resetNow (clock : ω → Float) : Act (Breaker × ω) Unit := do
  let (b, w) ← Act.world
  let (b, notices) := b.reset (clock w)
  become b notices

/-- The outcome of a call that was let through in `period` and began at `start`. -/
def conclude (clock : ω → Float) (period : Nat) (start : Float) (failed : Bool) :
    Act (Breaker × ω) Unit := do
  let (b, w) ← Act.world
  match b.settle period failed (clock w - start) (clock w) with
  | .ok (b, notices) => become b notices
  | .error e => Act.fail .zeroDivision e.message

def call (clock : ω → Float) (act : Act (Breaker × ω) α) : Act (Breaker × ω) α := do
  let (b, w) ← Act.world
  let start := clock w
  let admission := b.request start
  become admission.breaker admission.notices
  match admission.period? with
  | none => throw (rejection admission.breaker)
  | some period =>
    match ← act.outcome with
    | .ok a =>
      conclude clock period start false
      return a
    | .error f =>
      if f.isCatchable then conclude clock period start true
      throw f

end IncidentTriage.Breaker

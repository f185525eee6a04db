import IncidentTriage.Act
import IncidentTriage.Decimal.Power
import IncidentTriage.Decimal.Fixed

/-!
# Retries

A policy says how often an act is tried, which faults are worth another try, and how long to wait
before it. A fault that is not worth another try ends the call at once; after the last try the
fallback, if there is one, answers for the fault.
-/

namespace IncidentTriage

structure RetryPolicy where
  maxAttempts : Nat := 3
  delay : Float := 1.0
  backoff : Float := 1.0
  maxDelay : Float := 30.0
  retryOn : List Fault.Kind := [.exception]
  maxAttempts_pos : 0 < maxAttempts := by decide

namespace RetryPolicy
open IncidentTriage.Decimal

/-- The message about a count of attempts that is not positive. -/
def attemptsMessage : String := "max_attempts must be >= 1"

/-- The policy with another count of attempts, which has to be positive. -/
def withAttempts (p : RetryPolicy) (attempts : Int) : Option RetryPolicy :=
  if h : 0 < attempts then
    some { p with maxAttempts := attempts.toNat, maxAttempts_pos := by omega }
  else none

def waitFault : PowerError → Fault
  | .zeroToNegative => ⟨.zeroDivision, "0.0 cannot be raised to a negative power"⟩
  | .outOfRange => ⟨.overflow, "(34, 'Numerical result out of range')"⟩

/-- The seconds to wait after the given failed attempt, counted from one. -/
def waitFor (p : RetryPolicy) (attempt : Int) : Except PowerError Float :=
  (power p.backoff (attempt - 1)).map fun factor =>
    let wait := p.delay * factor
    if p.maxDelay < wait then p.maxDelay else wait

def isRetried (p : RetryPolicy) (f : Fault) : Bool :=
  p.retryOn.any fun k => f.kind.isA k

def author : String := "retry"

variable {ω α : Type}

/-- The wait after a failed attempt that is not the last one. -/
def pauseAfter (p : RetryPolicy) (sleep : Float → Act ω Unit) (name : Text.Wide) (attempt : Nat)
    (f : Fault) : Act ω Unit := do
  let wait ← Act.ofOutcome ((p.waitFor attempt).mapError waitFault)
  Act.note .warning author
    (name ++ s!" failed (attempt {attempt}/{p.maxAttempts}): {f.tagged}. Retrying in " ++
      fixedText 1 wait ++ "s...")
  sleep wait

def giveUp (name : Text.Wide) (attempt : Nat) (fallback : Option (Fault → Act ω α)) (f : Fault) :
    Act ω α := do
  Act.note .error author (name ++ s!" failed after {attempt} attempts: {f.tagged}")
  match fallback with
  | some answer => answer f
  | none => throw f

/-- The attempts from the given one on, of which `more` may follow it. -/
def attemptsFrom (p : RetryPolicy) (sleep : Float → Act ω Unit) (name : Text.Wide) (act : Act ω α)
    (fallback : Option (Fault → Act ω α)) : Nat → Nat → Act ω α
  | attempt, more => do
    match ← act.outcome with
    | .ok a => return a
    | .error f =>
      if p.isRetried f then
        match more with
        | 0 => giveUp name attempt fallback f
        | more + 1 => do
          p.pauseAfter sleep name attempt f
          attemptsFrom p sleep name act fallback (attempt + 1) more
      else throw f

def call (p : RetryPolicy) (sleep : Float → Act ω Unit) (name : Text.Wide) (act : Act ω α)
    (fallback : Option (Fault → Act ω α)) : Act ω α :=
  p.attemptsFrom sleep name act fallback 1 (p.maxAttempts - 1)

end RetryPolicy

end IncidentTriage

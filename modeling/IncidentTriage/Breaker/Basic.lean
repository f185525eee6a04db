import IncidentTriage.Decimal.Fixed
import IncidentTriage.Fault

/-!
# Circuit breakers

A breaker stands before calls that may fail. Closed, it lets every call through and keeps the
outcomes of the last few in a window; when enough of them failed, or were slow, it opens. Open, it
turns calls away until its cool-down is over. Then it is half open and lets a few trial calls
through: when all of them do well it closes, and the first that does not opens it again.

Every admission carries the number of the period it was made in. The outcome of a call that was
let through in an earlier period changes nothing.
-/

namespace IncidentTriage

namespace Breaker

inductive State
  | closed
  | opened
  | halfOpened
  deriving DecidableEq, Repr

def State.name : State → String
  | .closed => "closed"
  | .opened => "open"
  | .halfOpened => "half_open"

structure Config where
  name : String
  windowSize : Nat := 10
  minimumCalls : Int := 5
  failureRate : Float := 0.5
  slowSeconds : Float := 30.0
  slowRate : Float := 1.0
  openSeconds : Float := 30.0
  halfOpenCalls : Int := 3

/-- Why a size cannot be that of a window: it is negative, or it does not fit into 64 bits. -/
inductive WindowError
  | negative
  | outOfRange
  deriving DecidableEq, Repr

def WindowError.toFault : WindowError → Fault
  | .negative => ⟨.value, "maxlen must be non-negative"⟩
  | .outOfRange => ⟨.overflow, "a window size has at most 64 bits"⟩

def windowLimit : Int := 9223372036854775808

def Config.withWindow (c : Config) (size : Int) : Except WindowError Config :=
  if size < -windowLimit ∨ windowLimit ≤ size then .error .outOfRange
  else if size < 0 then .error .negative
  else .ok { c with windowSize := size.toNat }

/-- The calls that the window has to hold before its rates count. -/
def Config.enough (c : Config) : Int :=
  min c.minimumCalls c.windowSize

structure Outcome where
  failed : Bool
  slow : Bool
  deriving DecidableEq, Repr

/-- What a breaker reports of its changes. -/
inductive Notice
  | opened (was : State)
  | moved (was now : State)
  | rates (failure slow : Float) (calls : Nat)

end Breaker

open Breaker in
/-- A breaker's window holds the oldest outcome first. `permits` and `successes` count the trial
calls of a half-open period. -/
structure Breaker where
  config : Config
  state : State := .closed
  window : List Outcome := []
  openedAt : Float := 0.0
  permits : Nat := 0
  successes : Nat := 0
  period : Nat := 0

namespace Breaker

def moveTo (b : Breaker) (state : State) (now : Float) : Breaker :=
  { b with
    state
    window := []
    permits := 0
    successes := 0
    period := b.period + 1
    openedAt := if state = .opened then now else b.openedAt }

def moveNotice (b : Breaker) (state : State) : Notice :=
  if state = .opened then .opened b.state else .moved b.state state

/-- The cool-down of an open breaker is over. -/
def isDue (b : Breaker) (now : Float) : Bool :=
  b.state == .opened && decide (b.config.openSeconds ≤ now - b.openedAt)

/-- An open breaker whose cool-down is over becomes half open. -/
def refresh (b : Breaker) (now : Float) : Breaker × List Notice :=
  if b.isDue now then (b.moveTo .halfOpened now, [b.moveNotice .halfOpened]) else (b, [])

/-- The answer to a call that asks to be let through: the period it is let through in, or none. -/
structure Admission where
  period? : Option Nat
  breaker : Breaker
  notices : List Notice

def request (b : Breaker) (now : Float) : Admission :=
  let (b, notices) := b.refresh now
  match b.state with
  | .opened => ⟨none, b, notices⟩
  | .halfOpened =>
    if b.config.halfOpenCalls ≤ b.permits then ⟨none, b, notices⟩
    else ⟨some b.period, { b with permits := b.permits + 1 }, notices⟩
  | .closed => ⟨some b.period, b, notices⟩

/-- The window with another outcome, the oldest ones dropped beyond its size. -/
def pushed (b : Breaker) (o : Outcome) : List Outcome :=
  let window := b.window ++ [o]
  window.drop (window.length - b.config.windowSize)

/-- The share of the window for which `p` holds; none over an empty window. -/
def rate? (window : List Outcome) (p : Outcome → Bool) : Option Float :=
  if window.isEmpty then none
  else some (Float.ofNat (window.countP p) / Float.ofNat window.length)

/-- The window is being judged while there is nothing in it. -/
inductive RateError
  | emptyWindow
  deriving DecidableEq, Repr

def RateError.message : RateError → String
  | .emptyWindow => "division by zero"

/-- A closed breaker takes in an outcome, and opens when the window then holds enough outcomes and
one of the two rates has reached its threshold. -/
def settleClosed (b : Breaker) (o : Outcome) (now : Float) :
    Except RateError (Breaker × List Notice) :=
  let b := { b with window := b.pushed o }
  if (b.window.length : Int) < b.config.enough then .ok (b, [])
  else
    match rate? b.window (·.failed), rate? b.window (·.slow) with
    | some failure, some slow =>
      if b.config.failureRate ≤ failure ∨ b.config.slowRate ≤ slow then
        .ok (b.moveTo .opened now,
          [.rates failure slow b.window.length, b.moveNotice .opened])
      else .ok (b, [])
    | _, _ => .error .emptyWindow

/-- A half-open breaker takes in the outcome of a trial. -/
def settleTrial (b : Breaker) (o : Outcome) (now : Float) : Breaker × List Notice :=
  if o.failed || o.slow then (b.moveTo .opened now, [b.moveNotice .opened])
  else
    let b := { b with successes := b.successes + 1 }
    if b.config.halfOpenCalls ≤ b.successes then (b.moveTo .closed now, [b.moveNotice .closed])
    else (b, [])

/-- The outcome of a call let through in the given period, `elapsed` seconds after its start. -/
def settle (b : Breaker) (period : Nat) (failed : Bool) (elapsed now : Float) :
    Except RateError (Breaker × List Notice) :=
  let o : Outcome := ⟨failed, decide (b.config.slowSeconds ≤ elapsed)⟩
  if period ≠ b.period then .ok (b, [])
  else
    match b.state with
    | .halfOpened => .ok (b.settleTrial o now)
    | _ => b.settleClosed o now

def reset (b : Breaker) (now : Float) : Breaker × List Notice :=
  (b.moveTo .closed now, [b.moveNotice .closed])

end Breaker

end IncidentTriage

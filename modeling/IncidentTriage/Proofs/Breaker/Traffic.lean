import IncidentTriage.Breaker.Basic
import Mathlib.Data.List.DropRight
import Mathlib.Tactic.Common

/-!
# Traffic at a breaker

Calls ask a breaker to be let through. Those that were let through end in any order, or never, and
when they end their outcomes are told to the breaker. Between these events its state is read and it
is reset, and the clock shows whatever it shows. The traffic remembers who was let through when, and
when the present period began.
-/

namespace IncidentTriage.Breaker

/-- The window opens a closed breaker: it holds enough outcomes, and one of its rates has reached
its threshold. -/
def Config.trips (c : Config) (window : List Outcome) : Prop :=
  c.enough ≤ window.length ∧
    ((∃ r ∈ rate? window (·.failed), c.failureRate ≤ r) ∨
      ∃ r ∈ rate? window (·.slow), c.slowRate ≤ r)

def Config.judge (c : Config) (failed : Bool) (elapsed : Float) : Outcome :=
  ⟨failed, decide (c.slowSeconds ≤ elapsed)⟩

/-- Neither failed nor slow. -/
def Outcome.isGood (o : Outcome) : Bool :=
  !(o.failed || o.slow)

/-- A call that was let through: the number of the period it was told, and the moment, counted in
events, at which it was. -/
structure Call where
  period : Nat
  moment : Nat

/-- The clock may show anything at an event. A call that ends is given by its place among those in
flight. -/
inductive Event
  | request (now : Float)
  | settle (index : Nat) (failed : Bool) (elapsed now : Float)
  | read (now : Float)
  | reset (now : Float)

/-- A breaker and the calls that it has let through. The oldest calls and outcomes come first. -/
structure Traffic where
  breaker : Breaker
  time : Nat := 0
  began : Nat := 0
  admitted : List Call := []
  inFlight : List Call := []
  recorded : List (Call × Outcome) := []

namespace Traffic

/-- A period ends when the breaker's state changes. -/
def move (t : Traffic) (b : Breaker) : Traffic :=
  { t with
    breaker := b
    time := t.time + 1
    began := if b.state = t.breaker.state then t.began else t.time + 1 }

def letThrough (t : Traffic) (period : Nat) : Traffic :=
  { t with
    admitted := t.admitted ++ [⟨period, t.time⟩]
    inFlight := t.inFlight ++ [⟨period, t.time⟩] }

def record (t : Traffic) (index : Nat) (call : Call) (o : Outcome) : Traffic :=
  { t with
    inFlight := t.inFlight.eraseIdx index
    recorded := t.recorded ++ [(call, o)] }

def after (t : Traffic) : Event → Traffic
  | .request now =>
    let admission := t.breaker.request now
    match admission.period? with
    | none => t.move admission.breaker
    | some period => (t.move admission.breaker).letThrough period
  | .settle index failed elapsed now =>
    match t.inFlight[index]? with
    | none => t.move t.breaker
    | some call =>
      let t' := t.record index call (t.breaker.config.judge failed elapsed)
      match t.breaker.settle call.period failed elapsed now with
      | .ok (b, _) => t'.move b
      | .error _ => t'.move t.breaker
  | .read now => t.move (t.breaker.refresh now).1
  | .reset now => { t.move (t.breaker.reset now).1 with began := t.time + 1 }

/-- What has come of a new breaker after some events. -/
def run (c : Config) (events : List Event) : Traffic :=
  events.foldl after { breaker := { config := c } }

lemma run_append (c : Config) (events later : List Event) :
    run c (events ++ later) = later.foldl after (run c events) :=
  List.foldl_append

/-- The calls let through since the present period began. -/
def isCurrent (t : Traffic) (call : Call) : Bool :=
  decide (t.began ≤ call.moment)

/-- The outcomes, in the order they were recorded in, of the calls let through since a moment. -/
def outcomesSince (t : Traffic) (moment : Nat) : List Outcome :=
  (t.recorded.filter fun r => decide (moment ≤ r.1.moment)).map (·.2)

/-- The outcomes of the calls let through since the present period began. -/
def outcomes (t : Traffic) : List Outcome :=
  t.outcomesSince t.began

/-- The same period goes on, with the breaker changed. -/
def tick (t : Traffic) (b : Breaker) : Traffic :=
  { t with breaker := b, time := t.time + 1 }

/-- A new period begins. -/
def turn (t : Traffic) (state : State) (now : Float) : Traffic :=
  { t with breaker := t.breaker.moveTo state now, time := t.time + 1, began := t.time + 1 }

lemma move_of_same {t : Traffic} {b : Breaker} (h : b.state = t.breaker.state) :
    t.move b = t.tick b := by
  rw [move, if_pos h, tick]

lemma move_of_ne {t : Traffic} {state : State} (h : state ≠ t.breaker.state) (now : Float) :
    t.move (t.breaker.moveTo state now) = t.turn state now := by
  have hne : (t.breaker.moveTo state now).state ≠ t.breaker.state := h
  rw [move, if_neg hne, turn]

@[simp] lemma outcomesSince_tick (t : Traffic) (b : Breaker) (moment : Nat) :
    (t.tick b).outcomesSince moment = t.outcomesSince moment := rfl

@[simp] lemma outcomesSince_turn (t : Traffic) (state : State) (now : Float) (moment : Nat) :
    (t.turn state now).outcomesSince moment = t.outcomesSince moment := rfl

lemma outcomesSince_record_of_le (t : Traffic) (index : Nat) {call : Call} (o : Outcome)
    {moment : Nat} (h : moment ≤ call.moment) :
    (t.record index call o).outcomesSince moment = t.outcomesSince moment ++ [o] := by
  simp [outcomesSince, record, h]

lemma outcomesSince_record_of_lt (t : Traffic) (index : Nat) {call : Call} (o : Outcome)
    {moment : Nat} (h : call.moment < moment) :
    (t.record index call o).outcomesSince moment = t.outcomesSince moment := by
  simp [outcomesSince, record, Nat.not_le.2 h]

end Traffic

section Settling

variable {b : Breaker} {o : Outcome}

lemma pushed_ne_nil (h : 1 ≤ b.config.windowSize) : b.pushed o ≠ [] := by
  rw [pushed, Ne, List.drop_eq_nil_iff, List.length_append, List.length_singleton]
  omega

lemma rate?_eq_some {window : List Outcome} (h : window ≠ []) (p : Outcome → Bool) :
    ∃ r, rate? window p = some r := by
  have hne : window.isEmpty = false := by simpa using h
  simp only [rate?, hne]
  exact ⟨_, rfl⟩

lemma trips_iff {c : Config} {window : List Outcome} {failure slow : Float}
    (hfailure : rate? window (·.failed) = some failure)
    (hslow : rate? window (·.slow) = some slow) :
    c.trips window ↔ ¬ (window.length : Int) < c.enough ∧
      (c.failureRate ≤ failure ∨ c.slowRate ≤ slow) := by
  simp [Config.trips, hfailure, hslow]

/-- A closed breaker opens if its window trips it. -/
lemma settleClosed_of_trips (hsize : 1 ≤ b.config.windowSize) (now : Float)
    (h : b.config.trips (b.pushed o)) :
    ∃ notices, b.settleClosed o now = .ok (b.moveTo .opened now, notices) := by
  have hne : b.pushed o ≠ [] := pushed_ne_nil hsize
  obtain ⟨failure, hfailure⟩ := rate?_eq_some hne (·.failed)
  obtain ⟨slow, hslow⟩ := rate?_eq_some hne (·.slow)
  rw [trips_iff hfailure hslow] at h
  simp only [settleClosed, hfailure, hslow, if_neg h.1, if_pos h.2]
  exact ⟨_, rfl⟩

lemma settleClosed_of_not_trips (hsize : 1 ≤ b.config.windowSize) (now : Float)
    (h : ¬ b.config.trips (b.pushed o)) :
    b.settleClosed o now = .ok ({ b with window := b.pushed o }, []) := by
  have hne : b.pushed o ≠ [] := pushed_ne_nil hsize
  obtain ⟨failure, hfailure⟩ := rate?_eq_some hne (·.failed)
  obtain ⟨slow, hslow⟩ := rate?_eq_some hne (·.slow)
  rw [trips_iff hfailure hslow] at h
  by_cases henough : ((b.pushed o).length : Int) < b.config.enough
  · simp only [settleClosed, if_pos henough]
  · have hrates : ¬ (b.config.failureRate ≤ failure ∨ b.config.slowRate ≤ slow) :=
      fun hrates => h ⟨henough, hrates⟩
    simp only [settleClosed, hfailure, hslow, if_neg henough, if_neg hrates]

end Settling

end IncidentTriage.Breaker

import IncidentTriage.Proofs.Breaker.Call
import IncidentTriage.Proofs.Breaker.Periods
import IncidentTriage.Proofs.Decimal.Order

/-!
# The cool-down of an open breaker

A breaker that has opened turns every call away until its cool-down is over. Calls that end late do
not change it, and neither does a look at its state, before that. The first look at which the
cool-down is over, by a reader or by a call, makes the breaker half open; from then on its trials
decide, even if the clock went back to a reading within the cool-down.
-/

namespace IncidentTriage.Breaker

/-- What the clock shows at an event. -/
def Event.now : Event → Float
  | .request now => now
  | .settle _ _ _ now => now
  | .read now => now
  | .reset now => now

/-- The event ends a cool-down that began at `start`: it is a reset, or a look at the breaker when the
cool-down is over. -/
def Event.EndsCoolDown (seconds start : Float) : Event → Prop
  | .request now => seconds ≤ now - start
  | .settle .. => False
  | .read now => seconds ≤ now - start
  | .reset _ => True

/-- The ways in which an event changes the state. -/
inductive StateChange : State → Event → State → Prop
  | opens (i : Nat) (failed : Bool) (elapsed now : Float) :
      StateChange .closed (.settle i failed elapsed now) .opened
  | coolsForReader (now : Float) : StateChange .opened (.read now) .halfOpened
  | coolsForCall (now : Float) : StateChange .opened (.request now) .halfOpened
  | opensAgain (i : Nat) (failed : Bool) (elapsed now : Float) :
      StateChange .halfOpened (.settle i failed elapsed now) .opened
  | closes (i : Nat) (failed : Bool) (elapsed now : Float) :
      StateChange .halfOpened (.settle i failed elapsed now) .closed
  | reset (state : State) (now : Float) : StateChange state (.reset now) .closed

/-- Every call at this reading of the clock is turned away: its act is not done and nothing changes. -/
def TurnsAway (b : Breaker) (now : Float) : Prop :=
  ∀ (ω α : Type) (clock : ω → Float) (act : Act (Breaker × ω) α) (scene : Scene (Breaker × ω)),
    scene.world.1 = b → clock scene.world.2 = now →
      (call clock act).perform scene = (.error (rejection b), scene)

section Looks

variable {b : Breaker} {now : Float}

lemma isDue_iff (hopened : b.state = .opened) :
    b.isDue now = true ↔ b.config.openSeconds ≤ now - b.openedAt := by
  simp [isDue, hopened]

lemma refresh_of_cooling (hopened : b.state = .opened)
    (hcooling : ¬ b.config.openSeconds ≤ now - b.openedAt) : b.refresh now = (b, []) :=
  refresh_of_not_due (Bool.eq_false_iff.2 (mt (isDue_iff hopened).1 hcooling))

lemma request_of_cooling (hopened : b.state = .opened)
    (hcooling : ¬ b.config.openSeconds ≤ now - b.openedAt) : b.request now = ⟨none, b, []⟩ := by
  simp only [request, refresh_of_cooling hopened hcooling, hopened]

lemma refresh_of_due (hopened : b.state = .opened)
    (hdue : b.config.openSeconds ≤ now - b.openedAt) :
    (b.refresh now).1 = b.moveTo .halfOpened now := by
  rw [refresh, if_pos ((isDue_iff hopened).2 hdue)]

/-- To a call the breaker is in the state that a reader would see. -/
lemma state_request (b : Breaker) (now : Float) :
    (b.request now).breaker.state = (b.refresh now).1.state := by
  simp only [request]
  split
  · rfl
  · split <;> rfl
  · rfl

lemma turnsAway_of_cooling (hopened : b.state = .opened)
    (hcooling : ¬ b.config.openSeconds ≤ now - b.openedAt) : TurnsAway b now := by
  rintro ω α clock act ⟨journal, b', w⟩ rfl rfl
  have hrequest := request_of_cooling hopened hcooling
  rw [perform_call_of_none clock act _ (congrArg Admission.period? hrequest)]
  simp only [hrequest, List.map_nil, List.append_nil]

end Looks

namespace Traffic

variable {c : Config} {t : Traffic}

lemma breaker_after_request (t : Traffic) (now : Float) :
    (t.after (.request now)).breaker = (t.breaker.request now).breaker := by
  simp only [after]
  split <;> rfl

/-- The outcome of a call of an earlier period does not change the breaker. -/
lemma breaker_after_settle_late (hs : Sound c t) {i : Nat} {call : Call}
    (hi : t.inFlight[i]? = some call) (hlate : call.moment < t.began) (failed : Bool)
    (elapsed now : Float) : (t.after (.settle i failed elapsed now)).breaker = t.breaker := by
  rw [after_settle_late hs i failed elapsed now hi hlate]
  rfl

/-- A call that ends while the breaker is open was let through before. -/
lemma breaker_after_settle_of_opened (hs : Sound c t) (hopened : t.breaker.state = .opened) (i : Nat)
    (failed : Bool) (elapsed now : Float) :
    (t.after (.settle i failed elapsed now)).breaker = t.breaker := by
  cases hi : t.inFlight[i]? with
  | none =>
    simp only [after, hi]
    rfl
  | some call =>
    have hlate := hs.none_opened hopened call (hs.inFlight call (List.mem_of_getElem? hi))
    exact breaker_after_settle_late hs hi hlate failed elapsed now

/-- Unless its cool-down ends, no event changes an open breaker. -/
lemma breaker_after_of_opened (hs : Sound c t) (hopened : t.breaker.state = .opened) {event : Event}
    (hgoes : ¬ event.EndsCoolDown c.openSeconds t.breaker.openedAt) :
    (t.after event).breaker = t.breaker := by
  rw [← hs.config] at hgoes
  cases event with
  | request now => rw [breaker_after_request, request_of_cooling hopened hgoes]
  | settle i failed elapsed now => exact breaker_after_settle_of_opened hs hopened i failed elapsed now
  | read now => exact congrArg Prod.fst (refresh_of_cooling hopened hgoes)
  | reset now => exact absurd trivial hgoes

lemma breaker_run_of_opened (hsize : 1 ≤ c.windowSize) (events later : List Event)
    (hopened : (run c events).breaker.state = .opened)
    (hgoes : ∀ event ∈ later,
      ¬ event.EndsCoolDown c.openSeconds (run c events).breaker.openedAt) :
    (run c (events ++ later)).breaker = (run c events).breaker := by
  induction later using List.reverseRecOn with
  | nil => rw [List.append_nil]
  | append_singleton later event ih =>
    rw [List.forall_mem_append, List.forall_mem_singleton] at hgoes
    have hsame := ih hgoes.1
    have hs := sound_run hsize (events ++ later)
    rw [← List.append_assoc, run_append c (events ++ later), ← hsame]
    exact breaker_after_of_opened hs (hsame ▸ hopened) (hsame ▸ hgoes.2)

section Changes

/-- The event changed the state in one of the known ways. Where the breaker opened, its cool-down
began. -/
def Changed (t : Traffic) (event : Event) (b : Breaker) : Prop :=
  b.state = t.breaker.state ∨
    StateChange t.breaker.state event b.state ∧ (b.state = .opened → b.openedAt = event.now)

lemma changed_refresh {event : Event} {b : Breaker} (now : Float)
    (hb : b.state = (t.breaker.refresh now).1.state)
    (hevent : StateChange .opened event .halfOpened) : Changed t event b := by
  by_cases hdue : t.breaker.isDue now = true
  · have hopened := state_of_isDue hdue
    have hhalf : b.state = .halfOpened := by
      rw [hb, refresh_of_due hopened ((isDue_iff hopened).1 hdue)]
      rfl
    refine .inr ⟨by rwa [hopened, hhalf], fun hagain => ?_⟩
    rw [hhalf] at hagain
    cases hagain
  · refine .inl ?_
    rw [hb, refresh, if_neg hdue]

lemma changed_settle (hstate : t.breaker.state ≠ .opened) (i : Nat) (failed : Bool)
    (elapsed now : Float) :
    Changed t (.settle i failed elapsed now) (t.after (.settle i failed elapsed now)).breaker := by
  simp only [after]
  split
  · exact .inl rfl
  · split
    · rename_i b notices hsettle
      cases settles_of_settle hsettle with
      | stays window successes => exact .inl rfl
      | opens =>
        refine .inr ⟨?_, fun _ => rfl⟩
        cases hb : t.breaker.state with
        | closed => exact .opens i failed elapsed now
        | opened => exact absurd hb hstate
        | halfOpened => exact .opensAgain i failed elapsed now
      | closes hhalf =>
        refine .inr ⟨?_, State.noConfusion⟩
        rw [hhalf]
        exact .closes i failed elapsed now
    · exact .inl rfl

lemma changed_after (hs : Sound c t) (event : Event) : Changed t event (t.after event).breaker := by
  cases event with
  | request now =>
    refine changed_refresh now ?_ (.coolsForCall now)
    rw [breaker_after_request, state_request]
  | settle i failed elapsed now =>
    by_cases hopened : t.breaker.state = .opened
    · exact .inl (congrArg Breaker.state
        (breaker_after_settle_of_opened hs hopened i failed elapsed now))
    · exact changed_settle hopened i failed elapsed now
  | read now => exact changed_refresh now rfl (.coolsForReader now)
  | reset now => exact .inr ⟨.reset _ now, State.noConfusion⟩

end Changes

/-- Once the breaker has been open, no outcome of a call that was let through before changes it. -/
lemma breaker_after_settle_of_admitted (hsize : 1 ≤ c.windowSize) (events later : List Event)
    (hopened : (run c events).breaker.state = .opened) {i : Nat} {call : Call}
    (hcall : call ∈ (run c events).admitted)
    (hi : (run c (events ++ later)).inFlight[i]? = some call) (failed : Bool) (elapsed now : Float) :
    ((run c (events ++ later)).after (.settle i failed elapsed now)).breaker =
      (run c (events ++ later)).breaker := by
  have hs := sound_run hsize (events ++ later)
  have hadmitted := hs.inFlight call (List.mem_of_getElem? hi)
  have huntold := untold_run hsize events later hopened
  have hne := huntold.2 call hadmitted
  have hle := (sound_run hsize events).period_le call hcall
  have hpast : call.period ≠ (run c (events ++ later)).breaker.period := by
    rcases huntold.1 with ⟨hperiod, -⟩ | hlt <;> omega
  have hlate := Nat.not_le.1 (mt (hs.current call hadmitted).2 hpast)
  exact breaker_after_settle_late hs hi hlate failed elapsed now

/-- No look at a breaker ends a cool-down that, by the clock, is not over later either. -/
lemma not_endsCoolDown_of_le {seconds start now : Float} {event : Event}
    (hcooling : now - start < seconds) (hreset : ∀ r, event ≠ .reset r)
    (hle : event.now - start ≤ now - start) : ¬ event.EndsCoolDown seconds start := by
  have hover : ¬ seconds ≤ event.now - start := fun hdue =>
    Decimal.not_le_of_lt hcooling (Decimal.le_trans hdue hle)
  cases event with
  | request => exact hover
  | settle => exact id
  | read => exact hover
  | reset r => exact absurd rfl (hreset r)

/-- The breaker changes its state in the known ways only, and its cool-down begins at the reading of
the clock at which it opens. Until the cool-down ends, by a reset or by a look at which it is over,
nothing changes the breaker, and every call at a reading within the cool-down is turned away without
its act being done; the first look at which it is over makes the breaker half open. In particular, if
nobody resets the breaker and the clock does not go back, all calls within the cool-down are turned
away. Calls that were let through before the breaker opened change it at no time. -/
theorem turned_away_while_cooling (c : Config) (hsize : 1 ≤ c.windowSize) (events : List Event)
    (event : Event) :
    let t := run c events
    let opened := run c (events ++ [event])
    let start := event.now
    (opened.breaker.state = t.breaker.state ∨
      StateChange t.breaker.state event opened.breaker.state) ∧
    (t.breaker.state ≠ .opened → opened.breaker.state = .opened → ∀ later,
      let u := run c (events ++ [event] ++ later)
      (∀ i, ∀ call ∈ opened.admitted, u.inFlight[i]? = some call → ∀ failed elapsed now,
        (u.after (.settle i failed elapsed now)).breaker = u.breaker) ∧
      ((∀ e ∈ later, ¬ e.EndsCoolDown c.openSeconds start) →
        u.breaker = opened.breaker ∧ u.breaker.openedAt = start ∧
        (∀ now, now - start < c.openSeconds → TurnsAway u.breaker now) ∧
        ∀ now, c.openSeconds ≤ now - start →
          (u.after (.read now)).breaker.state = .halfOpened ∧
            (u.after (.request now)).breaker.state = .halfOpened) ∧
      ∀ now, now - start < c.openSeconds →
        (∀ e ∈ later, (∀ r, e ≠ .reset r) ∧ e.now - start ≤ now - start) →
          TurnsAway u.breaker now) := by
  intro t opened start
  have hchanged : Changed t event opened.breaker := by
    rw [show opened = t.after event from run_append c events [event]]
    exact changed_after (sound_run hsize events) event
  refine ⟨hchanged.imp_right And.left, fun hbefore hopened later => ?_⟩
  have hstart : opened.breaker.openedAt = start := by
    rcases hchanged with hsame | ⟨-, hstart⟩
    · exact absurd (hsame.symm.trans hopened) hbefore
    · exact hstart hopened
  have hconfig : opened.breaker.config = c := (sound_run hsize (events ++ [event])).config
  intro u
  have hsame : (∀ e ∈ later, ¬ e.EndsCoolDown c.openSeconds start) → u.breaker = opened.breaker :=
    fun hgoes => breaker_run_of_opened hsize (events ++ [event]) later hopened
      (hstart.symm ▸ hgoes)
  have hcooling : ∀ now, now - start < c.openSeconds → TurnsAway opened.breaker now := by
    intro now hnow
    refine turnsAway_of_cooling hopened ?_
    rw [hconfig, hstart]
    exact Decimal.not_le_of_lt hnow
  refine ⟨?_, fun hgoes => ?_, fun now hnow hsteady => ?_⟩
  · intro i call hcall hi failed elapsed now
    exact breaker_after_settle_of_admitted hsize _ later hopened hcall hi failed elapsed now
  · have hu := hsame hgoes
    refine ⟨hu, hu ▸ hstart, fun now hnow => hu ▸ hcooling now hnow, fun now hdue => ?_⟩
    have hhalf : (u.breaker.refresh now).1.state = .halfOpened := by
      rw [← hconfig, ← hstart] at hdue
      rw [hu, refresh_of_due hopened hdue]
      rfl
    refine ⟨hhalf, ?_⟩
    rw [breaker_after_request, state_request, hhalf]
  · have hgoes : ∀ e ∈ later, ¬ e.EndsCoolDown c.openSeconds start := fun e he =>
      not_endsCoolDown_of_le hnow (hsteady e he).1 (hsteady e he).2
    exact hsame hgoes ▸ hcooling now hnow

theorem turned_away_while_cooling_after_failure :
    let c : Config := { name := "answers", windowSize := 1, minimumCalls := 1 }
    let events : List Event := [.request 0.0, .request 0.0]
    let u := run c (events ++ [.settle 0 true 1.0 2.0] ++ [.settle 0 true 2.0 3.0, .read 10.0])
    1 ≤ c.windowSize ∧ u.breaker.openedAt = 2.0 ∧ TurnsAway u.breaker 31.0 := by
  intro c events u
  have hbefore : (run c events).breaker.state ≠ .opened := by decide
  have hopened : (run c (events ++ [.settle 0 true 1.0 2.0])).breaker.state = .opened := by
    decide +kernel
  have hgoes : ∀ e ∈ [Event.settle 0 true 2.0 3.0, .read 10.0],
      ¬ e.EndsCoolDown c.openSeconds 2.0 := by
    rw [List.forall_mem_cons, List.forall_mem_singleton]
    have hread : ¬ c.openSeconds ≤ 10.0 - 2.0 := by decide +kernel
    exact ⟨id, hread⟩
  have hcools := (turned_away_while_cooling c (by decide) events (.settle 0 true 1.0 2.0)).2
    hbefore hopened [.settle 0 true 2.0 3.0, .read 10.0]
  obtain ⟨-, hstart, haway, -⟩ := hcools.2.1 hgoes
  have hwithin : 31.0 - 2.0 < c.openSeconds := by decide +kernel
  exact ⟨by decide, hstart, haway 31.0 hwithin⟩

/-- The breaker opens when the clock shows 1000, and it is looked at when the clock shows 1030, at the
end of the cool-down. A call for which the clock shows 1029 again is let through. -/
theorem let_through_when_clock_went_back :
    let c : Config := { name := "answers", windowSize := 1, minimumCalls := 1 }
    let events : List Event := [.request 1000.0, .settle 0 true 0.0 1000.0]
    let opened := (run c events).breaker
    let b := (run c (events ++ [.read 1030.0])).breaker
    opened.state = .opened ∧ opened.openedAt = 1000.0 ∧
      1029.0 - opened.openedAt < c.openSeconds ∧
      ((call id (pure 7 : Act (Breaker × Float) Nat)).perform ⟨[], (b, 1029.0)⟩).1 = .ok 7 := by
  intro c events opened b
  have hrequest : (b.request 1029.0).period? = some 2 := by decide +kernel
  have hsize : 1 ≤ (b.request 1029.0).breaker.config.windowSize := by
    rw [config_request, (sound_run (by decide) _).config]
  refine ⟨by decide +kernel, by decide +kernel, by decide +kernel, ?_⟩
  clear_value b
  rw [perform_call_of_some id _ ⟨[], (b, 1029.0)⟩ hrequest]
  have hmet : ∀ f, (.ok 7 : Except Fault Nat) = .error f → f.isCatchable = true :=
    fun _ h => nomatch h
  obtain ⟨_, _, -, hconcluded⟩ :=
    concluded_eq id ⟨_, ((b.request 1029.0).breaker, 1029.0)⟩ hsize 2 1029.0 hmet
  exact congrArg Prod.fst hconcluded

end Traffic

end IncidentTriage.Breaker

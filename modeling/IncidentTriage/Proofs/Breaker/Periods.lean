import IncidentTriage.Proofs.Breaker.Traffic

/-!
# Periods of a breaker

A call is told the number of the period that lets it through, and the number of the present period
is told to no call of another one. No call is let through in a period in which the breaker is open.
All that an event can do is listed once, as a move.
-/

namespace IncidentTriage.Breaker

namespace Traffic

/-- The calls that were let through have the moment and the number of their period, and the present
period is the one whose number they have exactly if they were let through since it began. -/
structure Sound (c : Config) (t : Traffic) : Prop where
  config : t.breaker.config = c
  began_le : t.began ≤ t.time
  past : ∀ call ∈ t.admitted, call.moment ≤ t.time
  inFlight : ∀ call ∈ t.inFlight, call ∈ t.admitted
  recorded : ∀ r ∈ t.recorded, r.1 ∈ t.admitted
  period_le : ∀ call ∈ t.admitted, call.period ≤ t.breaker.period
  current : ∀ call ∈ t.admitted, call.period = t.breaker.period ↔ t.began ≤ call.moment
  none_opened : t.breaker.state = .opened → ∀ call ∈ t.admitted, call.moment < t.began

/-- A trial call is let through. -/
def grantTrial (t : Traffic) : Traffic :=
  { t with breaker := { t.breaker with permits := t.breaker.permits + 1 } }.letThrough
    t.breaker.period

/-- All that an event other than a reset can do. -/
inductive Move (t : Traffic) : Traffic → Prop
  | stays : Move t (t.tick t.breaker)
  | admits (hstate : t.breaker.state = .closed) :
      Move t ((t.tick t.breaker).letThrough t.breaker.period)
  | admitsTrial (hstate : t.breaker.state = .halfOpened)
      (hpermits : (t.breaker.permits : Int) < t.breaker.config.halfOpenCalls) :
      Move t (t.tick t.breaker).grantTrial
  | cools (now : Float) (hstate : t.breaker.state = .opened) : Move t (t.turn .halfOpened now)
  | coolsAndAdmits (now : Float) (hstate : t.breaker.state = .opened)
      (hcalls : 0 < t.breaker.config.halfOpenCalls) : Move t (t.turn .halfOpened now).grantTrial
  | late (i : Nat) {call : Call} (o : Outcome) (hi : t.inFlight[i]? = some call)
      (hlate : call.moment < t.began) : Move t ((t.record i call o).tick t.breaker)
  | pushes (i : Nat) {call : Call} (o : Outcome) (hi : t.inFlight[i]? = some call)
      (hcall : t.began ≤ call.moment) (hstate : t.breaker.state = .closed)
      (htrips : ¬ t.breaker.config.trips (t.breaker.pushed o)) :
      Move t ((t.record i call o).tick { t.breaker with window := t.breaker.pushed o })
  | trips (i : Nat) {call : Call} (o : Outcome) (now : Float) (hi : t.inFlight[i]? = some call)
      (hcall : t.began ≤ call.moment) (hstate : t.breaker.state = .closed)
      (htrips : t.breaker.config.trips (t.breaker.pushed o)) :
      Move t ((t.record i call o).turn .opened now)
  | trialSucceeds (i : Nat) {call : Call} (o : Outcome) (hi : t.inFlight[i]? = some call)
      (hcall : t.began ≤ call.moment) (hstate : t.breaker.state = .halfOpened)
      (hgood : o.isGood = true)
      (hmore : ((t.breaker.successes + 1 : Nat) : Int) < t.breaker.config.halfOpenCalls) :
      Move t ((t.record i call o).tick { t.breaker with successes := t.breaker.successes + 1 })
  | lastTrialSucceeds (i : Nat) {call : Call} (o : Outcome) (now : Float)
      (hi : t.inFlight[i]? = some call) (hcall : t.began ≤ call.moment)
      (hstate : t.breaker.state = .halfOpened) (hgood : o.isGood = true)
      (hlast : t.breaker.config.halfOpenCalls ≤ ((t.breaker.successes + 1 : Nat) : Int)) :
      Move t ((t.record i call o).turn .closed now)
  | trialFails (i : Nat) {call : Call} (o : Outcome) (now : Float)
      (hi : t.inFlight[i]? = some call) (hcall : t.began ≤ call.moment)
      (hstate : t.breaker.state = .halfOpened) (hbad : o.isGood = false) :
      Move t ((t.record i call o).turn .opened now)

section Events

variable {c : Config} {t : Traffic}

lemma state_of_isDue {b : Breaker} {now : Float} (h : b.isDue now = true) : b.state = .opened := by
  rw [isDue, Bool.and_eq_true, beq_iff_eq] at h
  exact h.1

lemma move_read (t : Traffic) (now : Float) : Move t (t.after (.read now)) := by
  rw [after, refresh]
  by_cases hdue : t.breaker.isDue now = true
  · have hstate := state_of_isDue hdue
    rw [if_pos hdue, move_of_ne (by rw [hstate]; decide)]
    exact .cools now hstate
  · rw [if_neg hdue, move_of_same rfl]
    exact .stays

lemma move_request (t : Traffic) (now : Float) : Move t (t.after (.request now)) := by
  by_cases hdue : t.breaker.isDue now = true
  · have hstate := state_of_isDue hdue
    have hne : State.halfOpened ≠ t.breaker.state := by rw [hstate]; decide
    have hmove := move_of_ne hne now
    by_cases hcalls : t.breaker.config.halfOpenCalls ≤ 0
    · have hafter : t.after (.request now) = t.move (t.breaker.moveTo .halfOpened now) := by
        simp [after, request, refresh, hdue, moveTo, hcalls]
      rw [hafter, hmove]
      exact .cools now hstate
    · have hafter : t.after (.request now) = (t.turn .halfOpened now).grantTrial := by
        rw [← hmove]
        simp [after, request, refresh, hdue, moveTo, hcalls, move, grantTrial]
      rw [hafter]
      exact .coolsAndAdmits now hstate (Int.not_le.1 hcalls)
  · cases hstate : t.breaker.state with
    | opened =>
      have hafter : t.after (.request now) = t.move t.breaker := by
        simp [after, request, refresh, hdue, hstate]
      rw [hafter, move_of_same rfl]
      exact .stays
    | closed =>
      have hafter : t.after (.request now) = (t.move t.breaker).letThrough t.breaker.period := by
        simp [after, request, refresh, hdue, hstate]
      rw [hafter, move_of_same rfl]
      exact .admits hstate
    | halfOpened =>
      by_cases hpermits : t.breaker.config.halfOpenCalls ≤ (t.breaker.permits : Int)
      · have hafter : t.after (.request now) = t.move t.breaker := by
          simp [after, request, refresh, hdue, hstate, hpermits]
        rw [hafter, move_of_same rfl]
        exact .stays
      · have hafter : t.after (.request now) = (t.tick t.breaker).grantTrial := by
          simp [after, request, refresh, hdue, hstate, hpermits, move, grantTrial, tick]
        rw [hafter]
        exact .admitsTrial hstate (Int.not_le.1 hpermits)

lemma after_settle_same (i : Nat) (failed : Bool) (elapsed now : Float) {call : Call}
    {b : Breaker} {notices : List Notice} (hi : t.inFlight[i]? = some call)
    (hsettle : t.breaker.settle call.period failed elapsed now = .ok (b, notices))
    (hstate : b.state = t.breaker.state) :
    t.after (.settle i failed elapsed now) =
      (t.record i call (t.breaker.config.judge failed elapsed)).tick b := by
  simp only [after, hi, hsettle]
  exact move_of_same hstate

lemma after_settle_turn (i : Nat) (failed : Bool) (elapsed now : Float) {call : Call}
    {state : State} {notices : List Notice} (hi : t.inFlight[i]? = some call)
    (hsettle : t.breaker.settle call.period failed elapsed now =
      .ok (t.breaker.moveTo state now, notices)) (hstate : state ≠ t.breaker.state) :
    t.after (.settle i failed elapsed now) =
      (t.record i call (t.breaker.config.judge failed elapsed)).turn state now := by
  simp only [after, hi, hsettle]
  exact move_of_ne (t := t.record i call _) hstate now

/-- The outcome of a call of an earlier period changes nothing of the breaker. -/
lemma after_settle_late (hs : Sound c t) (i : Nat) (failed : Bool) (elapsed now : Float)
    {call : Call} (hi : t.inFlight[i]? = some call) (hlate : call.moment < t.began) :
    t.after (.settle i failed elapsed now) =
      (t.record i call (t.breaker.config.judge failed elapsed)).tick t.breaker := by
  have hperiod : call.period ≠ t.breaker.period := by
    intro h
    have hcurrent := (hs.current call (hs.inFlight call (List.mem_of_getElem? hi))).1 h
    omega
  have hsettle : t.breaker.settle call.period failed elapsed now = .ok (t.breaker, []) := by
    simp [settle, hperiod]
  exact after_settle_same i failed elapsed now hi hsettle rfl

lemma move_settle_closed (hsize : 1 ≤ t.breaker.config.windowSize) (i : Nat) (failed : Bool)
    (elapsed now : Float) {call : Call} (hi : t.inFlight[i]? = some call)
    (hcall : t.began ≤ call.moment) (hperiod : call.period = t.breaker.period)
    (hstate : t.breaker.state = .closed) : Move t (t.after (.settle i failed elapsed now)) := by
  have hsettle : t.breaker.settle call.period failed elapsed now =
      t.breaker.settleClosed (t.breaker.config.judge failed elapsed) now := by
    simp [settle, hperiod, hstate, Config.judge]
  by_cases htrips : t.breaker.config.trips
      (t.breaker.pushed (t.breaker.config.judge failed elapsed))
  · obtain ⟨notices, hclosed⟩ := settleClosed_of_trips hsize now htrips
    rw [after_settle_turn i failed elapsed now hi (hsettle.trans hclosed) (by rw [hstate]; decide)]
    exact .trips i _ now hi hcall hstate htrips
  · have hclosed := settleClosed_of_not_trips hsize now htrips
    rw [after_settle_same i failed elapsed now hi (hsettle.trans hclosed) rfl]
    exact .pushes i _ hi hcall hstate htrips

lemma move_settle_trial (i : Nat) (failed : Bool) (elapsed now : Float) {call : Call}
    (hi : t.inFlight[i]? = some call) (hcall : t.began ≤ call.moment)
    (hperiod : call.period = t.breaker.period) (hstate : t.breaker.state = .halfOpened) :
    Move t (t.after (.settle i failed elapsed now)) := by
  have hsettle : t.breaker.settle call.period failed elapsed now =
      .ok (t.breaker.settleTrial (t.breaker.config.judge failed elapsed) now) := by
    simp [settle, hperiod, hstate, Config.judge]
  generalize ho : t.breaker.config.judge failed elapsed = o at hsettle
  rw [settleTrial] at hsettle
  cases hgood : o.isGood with
  | false =>
    have hbad : (o.failed || o.slow) = true := by rwa [Outcome.isGood, Bool.not_eq_false'] at hgood
    rw [if_pos hbad] at hsettle
    rw [after_settle_turn i failed elapsed now hi hsettle (by rw [hstate]; decide), ho]
    exact .trialFails i o now hi hcall hstate hgood
  | true =>
    rw [if_neg (by simpa [Outcome.isGood] using hgood)] at hsettle
    by_cases hlast : t.breaker.config.halfOpenCalls ≤ ((t.breaker.successes + 1 : Nat) : Int)
    · rw [if_pos hlast] at hsettle
      rw [after_settle_turn i failed elapsed now hi hsettle (by rw [hstate]; decide), ho]
      exact .lastTrialSucceeds i o now hi hcall hstate hgood hlast
    · rw [if_neg hlast] at hsettle
      rw [after_settle_same i failed elapsed now hi hsettle rfl, ho]
      exact .trialSucceeds i o hi hcall hstate hgood (Int.not_le.1 hlast)

lemma move_settle (hs : Sound c t) (hsize : 1 ≤ c.windowSize) (i : Nat) (failed : Bool)
    (elapsed now : Float) : Move t (t.after (.settle i failed elapsed now)) := by
  cases hi : t.inFlight[i]? with
  | none =>
    have hafter : t.after (.settle i failed elapsed now) = t.tick t.breaker := by
      simp only [after, hi]
      exact move_of_same rfl
    rw [hafter]
    exact .stays
  | some call =>
    have hmem := hs.inFlight call (List.mem_of_getElem? hi)
    by_cases hcall : t.began ≤ call.moment
    · have hperiod := (hs.current call hmem).2 hcall
      cases hstate : t.breaker.state with
      | closed =>
        rw [← hs.config] at hsize
        exact move_settle_closed hsize i failed elapsed now hi hcall hperiod hstate
      | opened => exact absurd (hs.none_opened hstate call hmem) (Nat.not_lt.2 hcall)
      | halfOpened => exact move_settle_trial i failed elapsed now hi hcall hperiod hstate
    · rw [after_settle_late hs i failed elapsed now hi (Nat.not_le.1 hcall)]
      exact .late i _ hi (Nat.not_le.1 hcall)

/-- Every event is a reset, or it makes a move. -/
lemma move_after (hs : Sound c t) (hsize : 1 ≤ c.windowSize) {event : Event}
    (hevent : ∀ now, event ≠ .reset now) : Move t (t.after event) := by
  cases event with
  | request now => exact move_request t now
  | settle i failed elapsed now => exact move_settle hs hsize i failed elapsed now
  | read now => exact move_read t now
  | reset now => exact absurd rfl (hevent now)

end Events

section Sound

variable {c : Config} {t u : Traffic}

lemma sound_start (c : Config) : Sound c { breaker := { config := c } } := by
  constructor <;> simp

lemma Sound.tick (hs : Sound c t) {b : Breaker} (hconfig : b.config = t.breaker.config)
    (hstate : b.state = t.breaker.state) (hperiod : b.period = t.breaker.period) :
    Sound c (t.tick b) where
  config := hconfig.trans hs.config
  began_le := Nat.le_succ_of_le hs.began_le
  past := fun call hcall => Nat.le_succ_of_le (hs.past call hcall)
  inFlight := hs.inFlight
  recorded := hs.recorded
  period_le := fun call hcall => hperiod ▸ hs.period_le call hcall
  current := fun call hcall => hperiod ▸ hs.current call hcall
  none_opened := fun hopened => hs.none_opened (hstate ▸ hopened)

lemma Sound.turn (hs : Sound c t) (state : State) (now : Float) : Sound c (t.turn state now) where
  config := hs.config
  began_le := Nat.le_refl _
  past := fun call hcall => Nat.le_succ_of_le (hs.past call hcall)
  inFlight := hs.inFlight
  recorded := hs.recorded
  period_le := fun call hcall => Nat.le_succ_of_le (hs.period_le call hcall)
  current := by
    intro call hcall
    have hpast := hs.past call hcall
    have hperiod := hs.period_le call hcall
    simp only [Traffic.turn, moveTo]
    omega
  none_opened := fun _ call hcall => Nat.lt_succ_of_le (hs.past call hcall)

lemma Sound.record (hs : Sound c t) {i : Nat} {call : Call} (hi : t.inFlight[i]? = some call)
    (o : Outcome) : Sound c (t.record i call o) := by
  refine { hs with inFlight := ?_, recorded := ?_ }
  · intro other hother
    exact hs.inFlight other (List.mem_of_mem_eraseIdx hother)
  · intro r hr
    rcases List.mem_append.1 hr with hr | hr
    · exact hs.recorded r hr
    · rw [List.mem_singleton.1 hr]
      exact hs.inFlight call (List.mem_of_getElem? hi)

lemma mem_letThrough {period : Nat} {call : Call} :
    call ∈ (t.letThrough period).admitted ↔ call ∈ t.admitted ∨ call = ⟨period, t.time⟩ := by
  rw [Traffic.letThrough, List.mem_append, List.mem_singleton]

lemma Sound.letThrough (hs : Sound c t) (hstate : t.breaker.state ≠ .opened) :
    Sound c (t.letThrough t.breaker.period) where
  config := hs.config
  began_le := hs.began_le
  past := by
    intro call hcall
    rcases mem_letThrough.1 hcall with hcall | rfl
    · exact hs.past call hcall
    · exact Nat.le_refl _
  inFlight := by
    intro call hcall
    rcases List.mem_append.1 hcall with hcall | hcall
    · exact List.mem_append_left _ (hs.inFlight call hcall)
    · exact List.mem_append_right _ hcall
  recorded := fun r hr => List.mem_append_left _ (hs.recorded r hr)
  period_le := by
    intro call hcall
    rcases mem_letThrough.1 hcall with hcall | rfl
    · exact hs.period_le call hcall
    · exact Nat.le_refl _
  current := by
    intro call hcall
    rcases mem_letThrough.1 hcall with hcall | rfl
    · exact hs.current call hcall
    · exact iff_of_true rfl hs.began_le
  none_opened := fun hopened => absurd hopened hstate

lemma Sound.grantTrial (hs : Sound c t) (hstate : t.breaker.state = .halfOpened) :
    Sound c t.grantTrial := by
  have hgrant : Sound c
      { t with breaker := { t.breaker with permits := t.breaker.permits + 1 } } :=
    ⟨hs.config, hs.began_le, hs.past, hs.inFlight, hs.recorded, hs.period_le, hs.current,
      hs.none_opened⟩
  exact hgrant.letThrough (by rw [hstate]; decide)

lemma Sound.of_move (hs : Sound c t) (hmove : Move t u) : Sound c u := by
  cases hmove with
  | stays => exact hs.tick rfl rfl rfl
  | admits hstate => exact (hs.tick rfl rfl rfl).letThrough (by rw [Traffic.tick, hstate]; decide)
  | admitsTrial hstate => exact (hs.tick rfl rfl rfl).grantTrial hstate
  | cools now => exact hs.turn .halfOpened now
  | coolsAndAdmits now => exact (hs.turn .halfOpened now).grantTrial rfl
  | late i o hi => exact (hs.record hi o).tick rfl rfl rfl
  | pushes i o hi => exact (hs.record hi o).tick rfl rfl rfl
  | trips i o now hi => exact (hs.record hi o).turn .opened now
  | trialSucceeds i o hi => exact (hs.record hi o).tick rfl rfl rfl
  | lastTrialSucceeds i o now hi => exact (hs.record hi o).turn .closed now
  | trialFails i o now hi => exact (hs.record hi o).turn .opened now

/-- In one period the state is always the same. -/
lemma Move.period (hmove : Move t u) :
    u.breaker.period = t.breaker.period ∧ u.breaker.state = t.breaker.state ∨
      t.breaker.period < u.breaker.period := by
  cases hmove with
  | stays => exact .inl ⟨rfl, rfl⟩
  | admits => exact .inl ⟨rfl, rfl⟩
  | admitsTrial => exact .inl ⟨rfl, rfl⟩
  | late => exact .inl ⟨rfl, rfl⟩
  | pushes => exact .inl ⟨rfl, rfl⟩
  | trialSucceeds => exact .inl ⟨rfl, rfl⟩
  | _ => exact .inr (Nat.lt_succ_self _)

/-- A call is told the number of the period that is then present. -/
lemma Move.admitted (hmove : Move t u) {call : Call} (hcall : call ∈ u.admitted) :
    call ∈ t.admitted ∨ call.period = u.breaker.period := by
  cases hmove with
  | admits => exact (mem_letThrough.1 hcall).imp_right (congrArg Call.period)
  | admitsTrial => exact (mem_letThrough.1 hcall).imp_right (congrArg Call.period)
  | coolsAndAdmits => exact (mem_letThrough.1 hcall).imp_right (congrArg Call.period)
  | _ => exact .inl hcall

/-- When a period begins, no call that was let through is one of it. -/
lemma Sound.isCurrent_turn (hs : Sound c t) (state : State) (now : Float) {call : Call}
    (hcall : call ∈ t.admitted) : (t.turn state now).isCurrent call = false := by
  have hpast := hs.past call hcall
  rw [isCurrent, decide_eq_false_iff_not, Traffic.turn]
  exact Nat.not_le.2 (Nat.lt_succ_of_le hpast)

lemma Sound.countP_turn (hs : Sound c t) (state : State) (now : Float) {calls : List Call}
    (hcalls : ∀ call ∈ calls, call ∈ t.admitted) :
    calls.countP (t.turn state now).isCurrent = 0 := by
  rw [List.countP_eq_zero]
  intro call hcall
  rw [hs.isCurrent_turn state now (hcalls call hcall)]
  exact Bool.false_ne_true

lemma Sound.outcomes_turn (hs : Sound c t) (state : State) (now : Float) :
    (t.turn state now).outcomes = [] := by
  rw [outcomes, outcomesSince, List.map_eq_nil_iff, List.filter_eq_nil_iff]
  intro r hr hcurrent
  have hpast := hs.isCurrent_turn state now (hs.recorded r hr)
  exact Bool.false_ne_true (hpast.symm.trans hcurrent)

/-- What a move and a reset both keep is kept by every event. -/
lemma Sound.after_induction {P : Traffic → Prop} (hs : Sound c t) (hsize : 1 ≤ c.windowSize)
    (hmove : ∀ u, Move t u → P u) (hreset : ∀ now, P (t.turn .closed now)) (event : Event) :
    P (t.after event) := by
  by_cases hevent : ∃ now, event = .reset now
  · obtain ⟨now, rfl⟩ := hevent
    exact hreset now
  · exact hmove _ (move_after hs hsize fun now h => hevent ⟨now, h⟩)

lemma Sound.after (hs : Sound c t) (hsize : 1 ≤ c.windowSize) (event : Event) :
    Sound c (t.after event) :=
  hs.after_induction hsize (fun _ => hs.of_move) (hs.turn .closed) event

/-- An invariant of a breaker's traffic holds at its start and is kept by moves and resets. -/
lemma run_induction {P : Traffic → Prop} (hsize : 1 ≤ c.windowSize)
    (hstart : P { breaker := { config := c } })
    (hmove : ∀ t u, Sound c t → P t → Move t u → P u)
    (hreset : ∀ t now, Sound c t → P t → P (t.turn .closed now)) (events : List Event) :
    Sound c (run c events) ∧ P (run c events) := by
  induction events using List.reverseRecOn with
  | nil => exact ⟨sound_start c, hstart⟩
  | append_singleton events event ih =>
    obtain ⟨hs, hp⟩ := ih
    rw [run_append]
    refine ⟨hs.after hsize event, ?_⟩
    exact hs.after_induction hsize (fun u => hmove _ u hs hp) (fun now => hreset _ now hs hp) event

lemma sound_run (hsize : 1 ≤ c.windowSize) (events : List Event) : Sound c (run c events) :=
  (run_induction hsize trivial (fun _ _ _ _ _ => trivial) (fun _ _ _ _ => trivial) events).1

/-- The breaker is open in the period of the given number, or that period is over, and no call has
been told the number. -/
def Untold (number : Nat) (t : Traffic) : Prop :=
  (t.breaker.period = number ∧ t.breaker.state = .opened ∨ number < t.breaker.period) ∧
    ∀ call ∈ t.admitted, call.period ≠ number

lemma Sound.untold (hs : Sound c t) (hopened : t.breaker.state = .opened) :
    Untold t.breaker.period t := by
  refine ⟨.inl ⟨rfl, hopened⟩, ?_⟩
  intro call hcall hperiod
  have hpast := hs.none_opened hopened call hcall
  have hcurrent := (hs.current call hcall).1 hperiod
  omega

lemma Untold.of_move {number : Nat} (hs : Sound c t) (h : Untold number t) (hmove : Move t u) :
    Untold number u := by
  obtain ⟨hphase, hcalls⟩ := h
  have hover : number < u.breaker.period → Untold number u := by
    intro hlt
    refine ⟨.inr hlt, fun call hcall => ?_⟩
    rcases hmove.admitted hcall with hcall | hperiod
    · exact hcalls call hcall
    · omega
  rcases hmove.period with ⟨hperiod, hstate⟩ | hlt
  · rcases hphase with ⟨rfl, hopened⟩ | hphase
    · exact hperiod ▸ (hs.of_move hmove).untold (hstate.trans hopened)
    · exact hover (hperiod ▸ hphase)
  · exact hover (by omega)

lemma Untold.turn {number : Nat} (h : Untold number t) (state : State) (now : Float) :
    Untold number (t.turn state now) := by
  refine ⟨.inr ?_, h.2⟩
  rcases h.1 with ⟨hperiod, -⟩ | hlt
  · exact Nat.lt_succ_of_le (Nat.le_of_eq hperiod.symm)
  · exact Nat.lt_succ_of_lt hlt

/-- The number of a period in which the breaker is open is never told to a call. -/
lemma untold_run (hsize : 1 ≤ c.windowSize) (events later : List Event)
    (hopened : (run c events).breaker.state = .opened) :
    Untold (run c events).breaker.period (run c (events ++ later)) := by
  induction later using List.reverseRecOn with
  | nil =>
    rw [List.append_nil]
    exact (sound_run hsize events).untold hopened
  | append_singleton later event ih =>
    have hs := sound_run hsize (events ++ later)
    rw [← List.append_assoc, run_append c (events ++ later)]
    exact hs.after_induction hsize (fun u => ih.of_move hs) (ih.turn .closed) event

end Sound

end Traffic

end IncidentTriage.Breaker

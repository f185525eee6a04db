import IncidentTriage.Proofs.Breaker.Periods

/-!
# The window of a closed breaker

A closed breaker judges the last outcomes of the calls of the present period, as many as its window
holds, each time an outcome is recorded. As long as it is closed they have never tripped it.
-/

namespace IncidentTriage.Breaker

lemma not_trips_nil (c : Config) : ¬ c.trips [] := by
  rintro ⟨-, ⟨r, hr, -⟩ | ⟨r, hr, -⟩⟩ <;> cases hr

lemma rtake_rtake_append {α : Type} (l : List α) (a : α) (n : Nat) :
    (l.rtake n ++ [a]).rtake n = (l ++ [a]).rtake n := by
  cases n with
  | zero => rw [List.rtake_zero, List.rtake_zero]
  | succ m =>
    rw [List.rtake_concat_succ, List.rtake_concat_succ]
    simp only [List.rtake_eq_reverse_take_reverse, List.reverse_reverse, List.take_take,
      Nat.min_eq_left (Nat.le_succ m)]

lemma pushed_eq_rtake {b : Breaker} {os : List Outcome}
    (h : b.window = os.rtake b.config.windowSize) (o : Outcome) :
    b.pushed o = (os ++ [o]).rtake b.config.windowSize := by
  rw [← rtake_rtake_append, ← h]
  rfl

namespace Traffic

/-- The window of a closed breaker holds the last outcomes of the present period, which have never
tripped the breaker; otherwise it holds nothing. -/
structure Windowed (t : Traffic) : Prop where
  empty : t.breaker.state ≠ .closed → t.breaker.window = []
  window : t.breaker.state = .closed →
    t.breaker.window = t.outcomes.rtake t.breaker.config.windowSize
  calm : t.breaker.state = .closed → ∀ os, os <+: t.outcomes →
    ¬ t.breaker.config.trips (os.rtake t.breaker.config.windowSize)

variable {c : Config} {t u : Traffic}

lemma windowed_of_outcomes_nil (hwindow : t.breaker.window = []) (houtcomes : t.outcomes = []) :
    Windowed t where
  empty := fun _ => hwindow
  window := by
    rw [hwindow, houtcomes, List.rtake_nil]
    exact fun _ => rfl
  calm := by
    intro _ os hos
    rw [houtcomes, List.prefix_nil] at hos
    rw [hos, List.rtake_nil]
    exact not_trips_nil _

lemma windowed_of_ne (hstate : t.breaker.state ≠ .closed) (hwindow : t.breaker.window = []) :
    Windowed t where
  empty := fun _ => hwindow
  window := fun hclosed => absurd hclosed hstate
  calm := fun hclosed => absurd hclosed hstate

lemma windowed_turn (hs : Sound c t) (state : State) (now : Float) :
    Windowed (t.turn state now) :=
  windowed_of_outcomes_nil rfl (hs.outcomes_turn state now)

lemma Windowed.pushes (h : Windowed t) (i : Nat) {call : Call} (o : Outcome)
    (hcall : t.began ≤ call.moment) (hstate : t.breaker.state = .closed)
    (htrips : ¬ t.breaker.config.trips (t.breaker.pushed o)) :
    Windowed ((t.record i call o).tick { t.breaker with window := t.breaker.pushed o }) := by
  have hpushed := pushed_eq_rtake (h.window hstate) o
  have houtcomes : (t.record i call o).outcomes = t.outcomes ++ [o] :=
    outcomesSince_record_of_le t i o hcall
  constructor
  case empty => exact fun hne => absurd hstate hne
  case window =>
    intro _
    change t.breaker.pushed o = (t.record i call o).outcomes.rtake t.breaker.config.windowSize
    rw [houtcomes, hpushed]
  case calm =>
    intro _ os hos
    change os <+: (t.record i call o).outcomes at hos
    rw [houtcomes, List.prefix_concat_iff] at hos
    rcases hos with rfl | hos
    · rw [hpushed] at htrips
      exact htrips
    · exact h.calm hstate os hos

lemma Windowed.late (h : Windowed t) (i : Nat) {call : Call} (o : Outcome)
    (hlate : call.moment < t.began) : Windowed ((t.record i call o).tick t.breaker) := by
  have houtcomes : ((t.record i call o).tick t.breaker).outcomes = t.outcomes :=
    outcomesSince_record_of_lt t i o hlate
  exact ⟨h.empty, houtcomes ▸ h.window, houtcomes ▸ h.calm⟩

lemma Windowed.of_move (hs : Sound c t) (h : Windowed t) (hmove : Move t u) : Windowed u := by
  cases hmove with
  | stays => exact ⟨h.empty, h.window, h.calm⟩
  | admits => exact ⟨h.empty, h.window, h.calm⟩
  | admitsTrial => exact ⟨h.empty, h.window, h.calm⟩
  | cools now => exact windowed_turn hs .halfOpened now
  | coolsAndAdmits now => exact windowed_of_ne State.noConfusion rfl
  | late i o _ hlate => exact h.late i o hlate
  | pushes i o _ hcall hstate htrips => exact h.pushes i o hcall hstate htrips
  | trips i o now hi => exact windowed_turn (hs.record hi o) .opened now
  | trialSucceeds i o _ _ hstate =>
    have hne : t.breaker.state ≠ .closed := by rw [hstate]; decide
    exact windowed_of_ne hne (h.empty hne)
  | lastTrialSucceeds i o now hi => exact windowed_turn (hs.record hi o) .closed now
  | trialFails i o now hi => exact windowed_turn (hs.record hi o) .opened now

lemma windowed_run (hsize : 1 ≤ c.windowSize) (events : List Event) :
    Sound c (run c events) ∧ Windowed (run c events) :=
  run_induction hsize (windowed_of_outcomes_nil rfl rfl) (fun _ _ hs h => h.of_move hs)
    (fun _ now hs _ => windowed_turn hs .closed now) events

/-- A closed breaker opens exactly when the last outcomes of the present period trip it. -/
lemma Windowed.opened_iff (h : Windowed t) (hstate : t.breaker.state = .closed)
    (hmove : Move t u) :
    (u.breaker.state = .opened ↔ t.breaker.config.trips
      ((u.outcomesSince t.began).rtake t.breaker.config.windowSize)) ∧
    (u.breaker.state ≠ .opened → u.breaker.state = .closed) := by
  have hcalm := h.calm hstate t.outcomes (List.prefix_refl _)
  have hclosed : t.breaker.state ≠ .opened ∧ t.breaker.state ≠ .halfOpened := by
    rw [hstate]
    decide
  cases hmove with
  | stays => exact ⟨iff_of_false hclosed.1 hcalm, fun _ => hstate⟩
  | admits => exact ⟨iff_of_false hclosed.1 hcalm, fun _ => hstate⟩
  | admitsTrial hhalf => exact absurd hhalf hclosed.2
  | cools now hopened => exact absurd hopened hclosed.1
  | coolsAndAdmits now hopened => exact absurd hopened hclosed.1
  | late i o _ hlate =>
    rw [outcomesSince_tick, outcomesSince_record_of_lt t i o hlate]
    exact ⟨iff_of_false hclosed.1 hcalm, fun _ => hstate⟩
  | pushes i o _ hcall _ htrips =>
    rw [pushed_eq_rtake (h.window hstate) o] at htrips
    rw [outcomesSince_tick, outcomesSince_record_of_le t i o hcall]
    exact ⟨iff_of_false hclosed.1 htrips, fun _ => hstate⟩
  | trips i o now _ hcall _ htrips =>
    rw [pushed_eq_rtake (h.window hstate) o] at htrips
    rw [outcomesSince_turn, outcomesSince_record_of_le t i o hcall]
    exact ⟨iff_of_true rfl htrips, fun hne => absurd rfl hne⟩
  | trialSucceeds i o _ _ hhalf => exact absurd hhalf hclosed.2
  | lastTrialSucceeds i o now _ _ hhalf => exact absurd hhalf hclosed.2
  | trialFails i o now _ _ hhalf => exact absurd hhalf hclosed.2

/-- The window of a closed breaker holds exactly the last outcomes, as many as it has room for, of
the calls let through and recorded since the present period began. The breaker leaves this state at
the first outcome after which the window trips it, and at no other event. In the other states the
window is empty, and no call, in flight or not, is ever one of a period in which the breaker is
open. -/
theorem window_exact (c : Config) (hsize : 1 ≤ c.windowSize) (events : List Event) :
    let t := run c events
    (t.breaker.state = .closed →
      t.breaker.window = t.outcomes.rtake c.windowSize ∧
      t.breaker.window.length = min c.windowSize t.outcomes.length ∧
      ¬ c.trips t.breaker.window ∧
      (∀ os, os <+: t.outcomes → ¬ c.trips (os.rtake c.windowSize)) ∧
      ∀ event,
        let u := t.after event
        (u.breaker.state = .opened ↔ c.trips ((u.outcomesSince t.began).rtake c.windowSize)) ∧
        (u.breaker.state ≠ .opened → u.breaker.state = .closed)) ∧
    (t.breaker.state ≠ .closed → t.breaker.window = []) ∧
    (t.breaker.state = .opened → ∀ later,
      let u := run c (events ++ later)
      (∀ call ∈ u.admitted, call.period ≠ t.breaker.period) ∧
        ∀ call ∈ u.inFlight, call.period ≠ t.breaker.period) := by
  obtain ⟨hs, h⟩ := windowed_run hsize events
  refine ⟨?_, h.empty, ?_⟩
  · intro hstate
    have hwindow := h.window hstate
    have hcalm := h.calm hstate
    rw [hs.config] at hwindow hcalm
    refine ⟨hwindow, ?_, ?_, hcalm, ?_⟩
    · rw [hwindow, List.rtake, List.length_drop]
      omega
    · rw [hwindow]
      exact hcalm _ (List.prefix_refl _)
    · intro event
      by_cases hevent : ∃ now, event = .reset now
      · obtain ⟨now, rfl⟩ := hevent
        exact ⟨iff_of_false State.noConfusion (hcalm _ (List.prefix_refl _)), fun _ => rfl⟩
      · have hmove := move_after hs hsize fun now h => hevent ⟨now, h⟩
        have hopened := h.opened_iff hstate hmove
        rw [hs.config] at hopened
        exact hopened
  · intro hopened later
    have huntold := untold_run hsize events later hopened
    exact ⟨huntold.2, fun call hcall =>
      huntold.2 call ((sound_run hsize (events ++ later)).inFlight call hcall)⟩

/-- Of five calls the second and the last fail. The window has forgotten the second when the sixth call
fails and opens the breaker. -/
theorem window_exact_of_forgotten_failure :
    let c : Config := { name := "answers", windowSize := 3, minimumCalls := 3 }
    let good := c.judge false 1.0
    let bad := c.judge true 1.0
    let events := [false, true, false, false, true].flatMap fun failed =>
      [Event.request 0.0, .settle 0 failed 1.0 1.0]
    let t := run c (events ++ [.request 1.0])
    1 ≤ c.windowSize ∧ t.breaker.state = .closed ∧ t.outcomes = [good, bad, good, good, bad] ∧
      t.breaker.window = [good, good, bad] ∧ ¬ c.trips t.breaker.window ∧
      c.trips [good, bad, bad] ∧
      (t.after (.settle 0 true 1.0 2.0)).breaker.state = .opened := by
  intro c good bad events
  have hstate : (run c (events ++ [.request 1.0])).breaker.state = .closed := by decide +kernel
  have houtcomes : (run c (events ++ [.request 1.0])).outcomes = [good, bad, good, good, bad] := by
    decide +kernel
  have hlast : ((run c (events ++ [.request 1.0])).after (.settle 0 true 1.0 2.0)).outcomesSince
      (run c (events ++ [.request 1.0])).began = [good, bad, good, good, bad, bad] := by
    decide +kernel
  have htrips : c.trips [good, bad, bad] := ⟨by decide, .inl ⟨_, rfl, by decide +kernel⟩⟩
  have hclosed := (window_exact c (by decide) (events ++ [.request 1.0])).1
  -- what has been computed of the run is all that the rest is about
  generalize run c (events ++ [.request 1.0]) = t at *
  obtain ⟨hwindow, -, hcalm, -, hopens⟩ := hclosed hstate
  have hopens := (hopens (.settle 0 true 1.0 2.0)).1
  rw [houtcomes] at hwindow
  rw [hlast] at hopens
  exact ⟨by decide, hstate, houtcomes, hwindow, hcalm, htrips, hopens.2 htrips⟩

end Traffic

end IncidentTriage.Breaker

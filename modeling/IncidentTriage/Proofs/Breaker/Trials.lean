import IncidentTriage.Proofs.Breaker.Periods
import Mathlib.Data.List.Perm.Basic

/-!
# Trial calls

A half-open breaker counts the trials it has let through and those that have done well. Its counts
are right whatever else ends meanwhile, so that it lets no more trials through than it is to, and
closes when all of them have done well.
-/

namespace IncidentTriage.Breaker

lemma countP_eraseIdx {α : Type} {l : List α} {i : Nat} {a : α} (h : l[i]? = some a)
    (p : α → Bool) : l.countP p = (l.eraseIdx i).countP p + if p a then 1 else 0 := by
  obtain ⟨hlt, rfl⟩ := List.getElem?_eq_some_iff.1 h
  rw [← (List.getElem_cons_eraseIdx_perm hlt).countP_eq, List.countP_cons]

namespace Traffic

/-- The counts of a half-open breaker are those of the trials of the present period, none of which
has failed or was slow; in the other states nothing is counted. -/
structure Accounted (t : Traffic) : Prop where
  idle : t.breaker.state ≠ .halfOpened → t.breaker.permits = 0 ∧ t.breaker.successes = 0
  admitted : t.breaker.state = .halfOpened → t.breaker.permits = t.admitted.countP t.isCurrent
  inFlight : t.breaker.state = .halfOpened →
    t.breaker.permits = t.breaker.successes + t.inFlight.countP t.isCurrent
  recorded : t.breaker.state = .halfOpened → t.breaker.successes = t.outcomes.length
  good : t.breaker.state = .halfOpened → ∀ o ∈ t.outcomes, o.isGood = true
  bound : (t.breaker.permits : Int) ≤ t.breaker.config.halfOpenCalls
  unfinished : t.breaker.state = .halfOpened →
    (t.breaker.successes : Int) < t.breaker.config.halfOpenCalls

variable {c : Config} {t u : Traffic}

lemma accounted_of_ne (hstate : t.breaker.state ≠ .halfOpened)
    (hidle : t.breaker.permits = 0 ∧ t.breaker.successes = 0)
    (hbound : (t.breaker.permits : Int) ≤ t.breaker.config.halfOpenCalls) : Accounted t where
  idle := fun _ => hidle
  admitted := fun hhalf => absurd hhalf hstate
  inFlight := fun hhalf => absurd hhalf hstate
  recorded := fun hhalf => absurd hhalf hstate
  good := fun hhalf => absurd hhalf hstate
  bound := hbound
  unfinished := fun hhalf => absurd hhalf hstate

lemma accounted_start (hcalls : 1 ≤ c.halfOpenCalls) :
    Accounted { breaker := { config := c } } := by
  apply accounted_of_ne State.noConfusion ⟨rfl, rfl⟩
  change 0 ≤ c.halfOpenCalls
  omega

lemma accounted_turn (hs : Sound c t) (hcalls : 1 ≤ c.halfOpenCalls) (state : State)
    (now : Float) : Accounted (t.turn state now) where
  idle := fun _ => ⟨rfl, rfl⟩
  admitted := fun _ => (hs.countP_turn state now fun _ => id).symm
  inFlight := fun _ => ((Nat.zero_add _).trans (hs.countP_turn state now hs.inFlight)).symm
  recorded := by
    rw [hs.outcomes_turn]
    exact fun _ => rfl
  good := by
    rw [hs.outcomes_turn]
    exact fun _ o ho => absurd ho List.not_mem_nil
  bound := by
    have hconfig := hs.config
    simp only [turn, moveTo, hconfig]
    omega
  unfinished := by
    have hconfig := hs.config
    simp only [turn, moveTo, hconfig]
    omega

lemma Accounted.grantTrial (hs : Sound c t) (h : Accounted t)
    (hstate : t.breaker.state = .halfOpened)
    (hpermits : (t.breaker.permits : Int) < t.breaker.config.halfOpenCalls) :
    Accounted t.grantTrial := by
  have hcurrent : t.isCurrent ⟨t.breaker.period, t.time⟩ = true := decide_eq_true hs.began_le
  have hadmitted := h.admitted hstate
  have hinFlight := h.inFlight hstate
  have hsame : t.grantTrial.isCurrent = t.isCurrent := rfl
  constructor
  case idle => exact fun hne => absurd hstate hne
  case admitted =>
    intro _
    rw [hsame]
    simp only [Traffic.grantTrial, letThrough, List.countP_append, List.countP_singleton, hcurrent,
      if_true]
    omega
  case inFlight =>
    intro _
    rw [hsame]
    simp only [Traffic.grantTrial, letThrough, List.countP_append, List.countP_singleton, hcurrent,
      if_true]
    omega
  case recorded => exact h.recorded
  case good => exact h.good
  case bound =>
    simp only [Traffic.grantTrial, letThrough]
    omega
  case unfinished => exact h.unfinished

/-- The outcome of a call of an earlier period is not counted. -/
lemma Accounted.late (h : Accounted t) (i : Nat) {call : Call} (o : Outcome)
    (hi : t.inFlight[i]? = some call) (hlate : call.moment < t.began) :
    Accounted ((t.record i call o).tick t.breaker) := by
  have hcurrent : t.isCurrent call = false := decide_eq_false (Nat.not_le.2 hlate)
  have hsame : ((t.record i call o).tick t.breaker).isCurrent = t.isCurrent := rfl
  have houtcomes : ((t.record i call o).tick t.breaker).outcomes = t.outcomes :=
    outcomesSince_record_of_lt t i o hlate
  have hcount := countP_eraseIdx hi t.isCurrent
  rw [hcurrent] at hcount
  constructor
  case idle => exact h.idle
  case admitted => exact h.admitted
  case inFlight =>
    intro hstate
    rw [hsame]
    exact (h.inFlight hstate).trans (congrArg _ hcount)
  case recorded => exact houtcomes ▸ h.recorded
  case good => exact houtcomes ▸ h.good
  case bound => exact h.bound
  case unfinished => exact h.unfinished

lemma Accounted.trialSucceeds (h : Accounted t) (i : Nat) {call : Call} (o : Outcome)
    (hi : t.inFlight[i]? = some call) (hcall : t.began ≤ call.moment)
    (hstate : t.breaker.state = .halfOpened) (hgood : o.isGood = true)
    (hmore : ((t.breaker.successes + 1 : Nat) : Int) < t.breaker.config.halfOpenCalls) :
    Accounted
      ((t.record i call o).tick { t.breaker with successes := t.breaker.successes + 1 }) := by
  have hcurrent : t.isCurrent call = true := decide_eq_true hcall
  have houtcomes : (t.record i call o).outcomes = t.outcomes ++ [o] :=
    outcomesSince_record_of_le t i o hcall
  have hcount := countP_eraseIdx hi t.isCurrent
  have hinFlight := h.inFlight hstate
  rw [hcurrent, if_pos rfl] at hcount
  constructor
  case idle => exact fun hne => absurd hstate hne
  case admitted => exact h.admitted
  case inFlight =>
    intro _
    change t.breaker.permits =
      t.breaker.successes + 1 + (t.inFlight.eraseIdx i).countP t.isCurrent
    omega
  case recorded =>
    intro _
    change t.breaker.successes + 1 = (t.record i call o).outcomes.length
    rw [houtcomes, List.length_append, ← h.recorded hstate, List.length_singleton]
  case good =>
    intro _ other hother
    change other ∈ (t.record i call o).outcomes at hother
    rw [houtcomes, List.mem_append, List.mem_singleton] at hother
    rcases hother with hother | rfl
    · exact h.good hstate other hother
    · exact hgood
  case bound => exact h.bound
  case unfinished => exact fun _ => hmore

lemma Accounted.of_move (hs : Sound c t) (hcalls : 1 ≤ c.halfOpenCalls) (h : Accounted t)
    (hmove : Move t u) : Accounted u := by
  cases hmove with
  | stays => exact ⟨h.idle, h.admitted, h.inFlight, h.recorded, h.good, h.bound, h.unfinished⟩
  | admits hstate =>
    have hne : t.breaker.state ≠ .halfOpened := by rw [hstate]; decide
    exact accounted_of_ne hne (h.idle hne) h.bound
  | admitsTrial hstate hpermits =>
    have htick : Accounted (t.tick t.breaker) :=
      ⟨h.idle, h.admitted, h.inFlight, h.recorded, h.good, h.bound, h.unfinished⟩
    exact htick.grantTrial (hs.tick rfl rfl rfl) hstate hpermits
  | cools now => exact accounted_turn hs hcalls .halfOpened now
  | coolsAndAdmits now _ hpos =>
    exact (accounted_turn hs hcalls .halfOpened now).grantTrial (hs.turn .halfOpened now) rfl hpos
  | late i o hi hlate => exact h.late i o hi hlate
  | pushes i o hi hcall hstate =>
    have hne : t.breaker.state ≠ .halfOpened := by rw [hstate]; decide
    exact accounted_of_ne hne (h.idle hne) h.bound
  | trips i o now hi => exact accounted_turn (hs.record hi o) hcalls .opened now
  | trialSucceeds i o hi hcall hstate hgood hmore =>
    exact h.trialSucceeds i o hi hcall hstate hgood hmore
  | lastTrialSucceeds i o now hi => exact accounted_turn (hs.record hi o) hcalls .closed now
  | trialFails i o now hi => exact accounted_turn (hs.record hi o) hcalls .opened now

lemma accounted_run (hsize : 1 ≤ c.windowSize) (hcalls : 1 ≤ c.halfOpenCalls)
    (events : List Event) : Sound c (run c events) ∧ Accounted (run c events) :=
  run_induction hsize (accounted_start hcalls) (fun _ _ hs h hmove => h.of_move hs hcalls hmove)
    (fun _ now hs _ => accounted_turn hs hcalls .closed now) events

/-- The outcomes of its trials close a half-open breaker, open it, or leave it half open. -/
def Verdict (t u : Traffic) : Prop :=
  (u.breaker.state = .closed ↔
    ((u.outcomesSince t.began).length : Int) = t.breaker.config.halfOpenCalls ∧
      ∀ o ∈ u.outcomesSince t.began, o.isGood = true) ∧
  (u.breaker.state = .opened ↔ ∃ o ∈ u.outcomesSince t.began, o.isGood = false)

lemma verdict_of_unfinished (hstate : u.breaker.state = .halfOpened)
    (hlength : ((u.outcomesSince t.began).length : Int) < t.breaker.config.halfOpenCalls)
    (hgood : ∀ o ∈ u.outcomesSince t.began, o.isGood = true) : Verdict t u := by
  rw [Verdict, hstate]
  constructor
  · exact iff_of_false (by decide) fun h => Int.ne_of_lt hlength h.1
  · refine iff_of_false (by decide) ?_
    rintro ⟨o, ho, hbad⟩
    exact Bool.false_ne_true (hbad.symm.trans (hgood o ho))

lemma Accounted.verdict (h : Accounted t) (hstate : t.breaker.state = .halfOpened)
    (hmove : Move t u) : Verdict t u := by
  have hgood := h.good hstate
  have hrecorded := h.recorded hstate
  have hunfinished := h.unfinished hstate
  rw [hrecorded] at hunfinished
  have hlength : ∀ i {call : Call} o, t.began ≤ call.moment →
      ((t.record i call o).outcomesSince t.began).length = t.breaker.successes + 1 := by
    intro i call o hcall
    rw [outcomesSince_record_of_le t i o hcall, List.length_append, hrecorded]
    rfl
  have hgood' : ∀ o, o.isGood = true →
      ∀ other ∈ t.outcomesSince t.began ++ [o], other.isGood = true := by
    intro o ho other hother
    rcases List.mem_append.1 hother with hother | hother
    · exact hgood other hother
    · rw [List.mem_singleton.1 hother]
      exact ho
  have hne : t.breaker.state ≠ .closed ∧ t.breaker.state ≠ .opened := by
    rw [hstate]
    decide
  cases hmove with
  | stays => exact verdict_of_unfinished hstate hunfinished hgood
  | admits hclosed => exact absurd hclosed hne.1
  | admitsTrial => exact verdict_of_unfinished hstate hunfinished hgood
  | cools now hopened => exact absurd hopened hne.2
  | coolsAndAdmits now hopened => exact absurd hopened hne.2
  | late i o hi hlate =>
    apply verdict_of_unfinished
    · exact hstate
    · rw [outcomesSince_tick, outcomesSince_record_of_lt t i o hlate]
      exact hunfinished
    · rw [outcomesSince_tick, outcomesSince_record_of_lt t i o hlate]
      exact hgood
  | pushes i o hi hcall hclosed => exact absurd hclosed hne.1
  | trips i o now hi hcall hclosed => exact absurd hclosed hne.1
  | trialSucceeds i o hi hcall _ ho hmore =>
    apply verdict_of_unfinished
    · exact hstate
    · rw [outcomesSince_tick, hlength i o hcall]
      exact hmore
    · rw [outcomesSince_tick, outcomesSince_record_of_le t i o hcall]
      exact hgood' o ho
  | lastTrialSucceeds i o now hi hcall _ ho hlast =>
    rw [Verdict, outcomesSince_turn, outcomesSince_record_of_le t i o hcall]
    constructor
    · refine iff_of_true rfl ⟨?_, hgood' o ho⟩
      rw [← outcomesSince_record_of_le t i o hcall, hlength i o hcall]
      omega
    · refine iff_of_false State.noConfusion ?_
      rintro ⟨other, hother, hbad⟩
      exact Bool.false_ne_true (hbad.symm.trans (hgood' o ho other hother))
  | trialFails i o now hi hcall _ hbad =>
    have hmem : o ∈ t.outcomesSince t.began ++ [o] := by simp
    rw [Verdict, outcomesSince_turn, outcomesSince_record_of_le t i o hcall]
    constructor
    · refine iff_of_false State.noConfusion fun hall => ?_
      exact Bool.false_ne_true (hbad.symm.trans (hall.2 o hmem))
    · exact iff_of_true rfl ⟨o, hmem, hbad⟩

/-- In every half-open period at most `halfOpenCalls` calls are let through. The breaker's counts are
those of the trials of this period. Other than by a reset it closes exactly when all of them have
been recorded and have done well, and it opens with the first that has not. The outcomes of calls of
earlier periods change nothing. -/
theorem trials_accounted (c : Config) (hsize : 1 ≤ c.windowSize) (hcalls : 1 ≤ c.halfOpenCalls)
    (events : List Event) :
    let t := run c events
    (t.breaker.successes ≤ t.breaker.permits ∧ (t.breaker.permits : Int) ≤ c.halfOpenCalls) ∧
    (t.breaker.state ≠ .halfOpened → t.breaker.permits = 0 ∧ t.breaker.successes = 0) ∧
    (t.breaker.state = .halfOpened →
      (t.admitted.countP t.isCurrent : Int) ≤ c.halfOpenCalls ∧
      t.breaker.permits = t.breaker.successes + t.inFlight.countP t.isCurrent ∧
      t.breaker.successes = t.outcomes.length ∧
      (∀ o ∈ t.outcomes, o.isGood = true) ∧
      ∀ event, (∀ now, event ≠ .reset now) →
        let u := t.after event
        let trials := u.outcomesSince t.began
        (u.breaker.state = .closed ↔
          (trials.length : Int) = c.halfOpenCalls ∧ ∀ o ∈ trials, o.isGood = true) ∧
        (u.breaker.state = .opened ↔ ∃ o ∈ trials, o.isGood = false)) ∧
    ∀ i failed elapsed now call, t.inFlight[i]? = some call → call.moment < t.began →
      (t.after (.settle i failed elapsed now)).breaker = t.breaker := by
  obtain ⟨hs, h⟩ := accounted_run hsize hcalls events
  have hbound := h.bound
  rw [hs.config] at hbound
  refine ⟨⟨?_, hbound⟩, h.idle, ?_, ?_⟩
  · by_cases hstate : (run c events).breaker.state = .halfOpened
    · rw [h.inFlight hstate]
      exact Nat.le_add_right _ _
    · rw [(h.idle hstate).2]
      exact Nat.zero_le _
  · intro hstate
    refine ⟨?_, h.inFlight hstate, h.recorded hstate, h.good hstate, ?_⟩
    · rw [← h.admitted hstate]
      exact hbound
    · intro event hevent
      have hverdict := h.verdict hstate (move_after hs hsize hevent)
      rw [Verdict, hs.config] at hverdict
      exact hverdict
  · intro i failed elapsed now call hi hlate
    rw [after_settle_late hs i failed elapsed now hi hlate]
    rfl

/-- Two calls are let through, and the second fails and opens the breaker. After the cool-down there
are two trials, one of which has done well, when the first call fails late. The other trial closes the
breaker, or opens it again. -/
theorem trials_accounted_of_late_failure :
    let c : Config := { name := "answers", windowSize := 1, minimumCalls := 1, halfOpenCalls := 2 }
    let events : List Event := [.request 0.0, .request 1.0, .settle 1 true 1.0 2.0, .request 40.0,
      .request 41.0, .settle 1 false 1.0 42.0]
    let t := run c events
    (1 ≤ c.windowSize ∧ 1 ≤ c.halfOpenCalls) ∧ t.breaker.state = .halfOpened ∧
      t.breaker.permits = 2 ∧ t.breaker.successes = 1 ∧ t.inFlight.countP t.isCurrent = 1 ∧
      (t.after (.settle 0 true 42.0 43.0)).breaker = t.breaker ∧
      (t.after (.settle 1 false 1.0 43.0)).breaker.state = .closed ∧
      (t.after (.settle 1 true 1.0 43.0)).breaker.state = .opened := by
  intro c events
  have hstate : (run c events).breaker.state = .halfOpened := by decide +kernel
  have hdone : (run c events).breaker.successes = 1 := by decide +kernel
  have hflying : (run c events).inFlight.countP (run c events).isCurrent = 1 := by decide +kernel
  have hfirst : (run c events).inFlight[0]?.map Call.moment = some 1 := by decide +kernel
  have hbegan : 1 < (run c events).began := by decide +kernel
  have hgood : ((run c events).after (.settle 1 false 1.0 43.0)).outcomesSince (run c events).began =
      [c.judge false 1.0, c.judge false 1.0] := by decide +kernel
  have hbad : ((run c events).after (.settle 1 true 1.0 43.0)).outcomesSince (run c events).began =
      [c.judge false 1.0, c.judge true 1.0] := by decide +kernel
  have hgoods : ∀ o ∈ [c.judge false 1.0, c.judge false 1.0], o.isGood = true := by decide +kernel
  have hall := (trials_accounted c (by decide) (by decide) events).2.2
  -- what has been computed of the run is all that the rest is about
  generalize run c events = t at *
  obtain ⟨call, hcall, hmoment⟩ := Option.map_eq_some_iff.1 hfirst
  obtain ⟨-, hpermits, -, -, hverdict⟩ := hall.1 hstate
  have hcloses := (hverdict (.settle 1 false 1.0 43.0) nofun).1
  have hopens := (hverdict (.settle 1 true 1.0 43.0) nofun).2
  rw [hgood] at hcloses
  rw [hbad] at hopens
  refine ⟨by decide, hstate, ?_, hdone, hflying, ?_, hcloses.2 ⟨rfl, hgoods⟩, hopens.2 ?_⟩
  · rw [hpermits, hdone, hflying]
  · exact hall.2 0 true 42.0 43.0 call hcall (hmoment ▸ hbegan)
  · exact ⟨c.judge true 1.0, by simp, rfl⟩

end Traffic

end IncidentTriage.Breaker

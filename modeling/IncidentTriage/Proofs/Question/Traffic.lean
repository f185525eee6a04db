import IncidentTriage.Proofs.Breaker.Carried
import IncidentTriage.Proofs.Breaker.Window
import IncidentTriage.Proofs.Question.Degradation

/-!
# Questions as traffic

Whatever is searched in and whatever replies, a question asks the breaker for nothing but what calls
ask for, and it aborts no call. So the laws of the window and of the trials hold of the breaker that
questions leave. All its trials have been recorded then, and none is lost: as soon as its cool-down is
over, it lets the next call through.
-/

namespace IncidentTriage.Question

variable {ω : Type} {clock : ω → Float} {mayAbort : Prop}

open Breaker

lemma carried_note {α : Type} (level : Level) (author : String) (text : Text.Wide)
    {act : Act (Breaker × ω) α} (h : Carried mayAbort act) :
    Carried mayAbort (do Act.note level author text; act) :=
  carried_bind (carried_of_same fun _ => rfl) fun _ => h

section Acts

variable {model : String → Act (Breaker × ω) Value} (hmodel : ∀ text, Carried mayAbort (model text))
  (hmet : mayAbort ∨
    ∀ text scene f, ((model text).perform scene).1 = .error f → f.isCatchable = true)
include hmodel hmet

lemma carried_generate (text context : String) :
    Carried mayAbort (generate clock model text context) := by
  refine carried_bind (carried_of_same fun _ => rfl) fun b => carried_rescue ?_ fun f => ?_
  · refine carried_bind carried_readState fun state => carried_note _ _ _ ?_
    refine carried_bind (carried_call (hmodel text) (hmet.imp_right fun h => h text)) fun reply => ?_
    exact carried_note _ _ _ (carried_pure reply)
  · split
    · exact carried_note _ _ _ (carried_pure _)
    · exact carried_of_same fun _ => rfl

omit hmodel hmet in
lemma carried_lookUp {search : Search (Breaker × ω)} {question : String} {spec : Retrieval}
    (h : Carried mayAbort (search question spec)) :
    Carried mayAbort (lookUp search question spec) :=
  carried_rescue (carried_map some h) fun _ => carried_note _ _ _ (carried_pure none)

/-- To answer a question is carried if the search and the model are. -/
lemma carried_answer (services : List String) {search : Search (Breaker × ω)}
    (hsearch : ∀ question spec, Carried mayAbort (search question spec)) (question : String) :
    Carried mayAbort (answer services search (generate clock model) question) := by
  refine carried_note _ _ _ (carried_note _ _ _ ?_)
  refine carried_bind (carried_lookUp (hsearch _ _)) fun found => ?_
  cases found with
  | none => exact carried_pure _
  | some docs =>
    refine carried_note _ _ _ (carried_bind (carried_of_same fun _ => rfl) fun _ => ?_)
    split
    · exact carried_pure _
    · exact carried_generate hmodel hmet _ _

end Acts

namespace Surroundings

variable {σ : Type} (s : Surroundings σ)

/-- What refuses to reply refuses with a fault that can be met. -/
lemma isCatchable_of_model {text : String} {scene : Scene (Breaker × Outside σ)} {f : Fault}
    (h : ((s.model text).perform scene).1 = .error f) : f.isCatchable = true := by
  rw [perform_model] at h
  exact isCatchable_of_mapError h

lemma carried_answer (services : List String) (question : String) :
    Carried False (s.answer services question) := by
  have hsearch : ∀ question spec, Carried False (s.searching question spec) :=
    fun _ _ => carried_outside _
  have hmodel : ∀ text, Carried False (s.model text) := fun _ => carried_outside _
  exact Question.carried_answer hmodel (.inr fun _ _ _ => s.isCatchable_of_model) services hsearch
    question

lemma reaches_after (services : List String) {l : Lossy} {scene : Scene (Breaker × Outside σ)}
    (hb : scene.world.1 = l.traffic.breaker) (step : Step σ) :
    l.Reaches False (s.after services scene step).world.1 := by
  cases step with
  | ask question => exact s.carried_answer services question l scene hb
  | change state =>
    rw [after, hb]
    exact .refl l

lemma reaches_run (services : List String) (c : Breaker.Config) (start : σ) (steps : List (Step σ)) :
    ({ traffic := { breaker := { config := c } } } : Lossy).Reaches False
      (s.run services c start steps).world.1 := by
  induction steps using List.reverseRecOn with
  | nil => exact .refl _
  | append_singleton steps step ih =>
    rw [run, List.foldl_concat]
    exact ih.trans fun l hb => s.reaches_after services hb step

/-- The breaker that questions leave is one that events at a new breaker leave, with no call in
flight. -/
theorem exists_traffic_of_run (services : List String) (c : Breaker.Config) (start : σ)
    (steps : List (Step σ)) :
    ∃ events, (s.run services c start steps).world.1 = (Traffic.run c events).breaker ∧
      (Traffic.run c events).inFlight = [] := by
  obtain ⟨events, hbreaker, hflying, haborted⟩ := s.reaches_run services c start steps
  obtain ⟨kept, hcovers⟩ := Lossy.exists_covers c events
  obtain ⟨hkept, hperm⟩ := hcovers.eq
  have hnone : (Lossy.run c events).traffic.inFlight ++ (Lossy.run c events).aborted = [] := by
    rw [Lossy.run, hflying, haborted.resolve_left id]
    rfl
  rw [hnone, List.perm_nil] at hperm
  exact ⟨kept, hbreaker.trans hkept, hperm⟩

/-- What questions leave of a breaker. Closed, its window holds no more than there is room for, and
has not tripped it; otherwise its window is empty. Half open, it has recorded all its trials, and
there are more to come; otherwise it counts none. Once its cool-down is over, if it is open, it lets
the next call through. -/
theorem breaker_after_questions (services : List String) (c : Breaker.Config)
    (hsize : 1 ≤ c.windowSize) (hcalls : 1 ≤ c.halfOpenCalls) (start : σ) (steps : List (Step σ)) :
    let b := (s.run services c start steps).world.1
    (b.state = .closed → b.window.length ≤ c.windowSize ∧ ¬ c.trips b.window) ∧
    (b.state ≠ .closed → b.window = []) ∧
    (b.state = .halfOpened →
      b.permits = b.successes ∧ (b.successes : Int) < c.halfOpenCalls) ∧
    (b.state ≠ .halfOpened → b.permits = 0 ∧ b.successes = 0) ∧
    ∀ now, (b.state = .opened → c.openSeconds ≤ now - b.openedAt) →
      ∃ period, (b.request now).period? = some period := by
  intro b
  obtain ⟨events, hbreaker, hflying⟩ := s.exists_traffic_of_run services c start steps
  obtain ⟨hs, haccounted⟩ := Traffic.accounted_run hsize hcalls events
  obtain ⟨-, hwindowed⟩ := Traffic.windowed_run hsize events
  have hb : b = (Traffic.run c events).breaker := hbreaker
  have hconfig : b.config = c := hb ▸ hs.config
  have htrials : b.state = .halfOpened →
      b.permits = b.successes ∧ (b.successes : Int) < c.halfOpenCalls := by
    intro hstate
    rw [hb] at hstate ⊢
    have hpermits := haccounted.inFlight hstate
    have hmore := haccounted.unfinished hstate
    rw [hflying, List.countP_nil, Nat.add_zero] at hpermits
    rw [hs.config] at hmore
    exact ⟨hpermits, hmore⟩
  refine ⟨fun hstate => ?_, hb ▸ hwindowed.empty, htrials, hb ▸ haccounted.idle, fun now hdue => ?_⟩
  · rw [hb] at hstate ⊢
    have hwindow := hwindowed.window hstate
    have hcalm := hwindowed.calm hstate _ (List.prefix_refl _)
    rw [← hwindow, hs.config] at hcalm
    rw [hs.config] at hwindow
    refine ⟨?_, hcalm⟩
    rw [hwindow, List.rtake, List.length_drop]
    omega
  · clear_value b
    cases hstate : b.state with
    | closed => exact ⟨_, congrArg Admission.period? (request_of_closed hstate now)⟩
    | opened =>
      rw [← hconfig] at hdue hcalls
      exact ⟨_, Lossy.request_opened hstate (hdue hstate) hcalls⟩
    | halfOpened =>
      obtain ⟨hpermits, hmore⟩ := htrials hstate
      refine Option.ne_none_iff_exists'.1 fun hnone => ?_
      have hfull := (Lossy.request_halfOpened hstate now).1.1 hnone
      rw [hconfig, hpermits] at hfull
      omega

end Surroundings

end IncidentTriage.Question

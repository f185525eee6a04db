import IncidentTriage.Proofs.Breaker.Aborts

/-!
# Calls as traffic

An act is carried by the traffic at a breaker if some events at the breaker do to it what the act
does, and leave no other calls in flight than before. Calls are carried however they end, and so is
whatever is put together from calls, looks at the state and acts on the surroundings. What holds after
all events therefore holds after all such acts. Where no call ends with a fault that cannot be met,
the events abort none.
-/

namespace IncidentTriage.Breaker

variable {ω α β : Type} {mayAbort : Prop}

/-- Some events lead to the breaker and leave no other calls in flight than before. None of them
aborts a call, unless they may. -/
def Lossy.Reaches (mayAbort : Prop) (l : Lossy) (b : Breaker) : Prop :=
  ∃ events : List Lossy.Event, b = (events.foldl after l).traffic.breaker ∧
    (events.foldl after l).traffic.inFlight = l.traffic.inFlight ∧
    (mayAbort ∨ (events.foldl after l).aborted = l.aborted)

def Carried (mayAbort : Prop) (act : Act (Breaker × ω) α) : Prop :=
  ∀ (l : Lossy) (scene : Scene (Breaker × ω)), scene.world.1 = l.traffic.breaker →
    l.Reaches mayAbort (act.perform scene).2.world.1

namespace Lossy

variable {l : Lossy} {flying : List Call} {call : Call}

lemma Reaches.refl (l : Lossy) : l.Reaches mayAbort l.traffic.breaker :=
  ⟨[], rfl, rfl, .inr rfl⟩

/-- Events after events are events. -/
lemma Reaches.trans {b b' : Breaker} (h : l.Reaches mayAbort b)
    (h' : ∀ l' : Lossy, b = l'.traffic.breaker → l'.Reaches mayAbort b') :
    l.Reaches mayAbort b' := by
  obtain ⟨events, hbreaker, hflying, haborted⟩ := h
  obtain ⟨more, hbreaker', hflying', haborted'⟩ := h' _ hbreaker
  rw [← List.foldl_append] at hbreaker' hflying' haborted'
  refine ⟨events ++ more, hbreaker', hflying'.trans hflying, ?_⟩
  rcases haborted with hmay | haborted
  · exact .inl hmay
  · exact haborted'.imp_right (·.trans haborted)

lemma getElem?_of_concat (h : l.traffic.inFlight = flying ++ [call]) :
    l.traffic.inFlight[flying.length]? = some call ∧
      l.traffic.inFlight.eraseIdx flying.length = flying := by
  rw [h]
  constructor
  · simp
  · rw [List.eraseIdx_append_of_length_le (Nat.le_refl _)]
    simp

/-- The call that was let through last ends. -/
lemma after_settle_last (h : l.traffic.inFlight = flying ++ [call]) (failed : Bool)
    (elapsed now : Float) :
    let l' := l.after (.ordinary (.settle flying.length failed elapsed now))
    l'.traffic.breaker = l.traffic.breaker.settled call.period failed elapsed now ∧
      l'.traffic.inFlight = flying := by
  obtain ⟨hcall, herase⟩ := getElem?_of_concat h
  simp only [after, Traffic.after, hcall, settled]
  cases l.traffic.breaker.settle call.period failed elapsed now with
  | ok r => exact ⟨rfl, herase⟩
  | error e => exact ⟨rfl, herase⟩

/-- The call that was let through last is aborted. -/
lemma after_abort_last (h : l.traffic.inFlight = flying ++ [call]) :
    let l' := l.after (.abort flying.length)
    l'.traffic.breaker = l.traffic.breaker ∧ l'.traffic.inFlight = flying := by
  obtain ⟨hcall, herase⟩ := getElem?_of_concat h
  simp only [after, hcall]
  exact ⟨trivial, herase⟩

lemma after_request_of_some {period : Nat} {now : Float}
    (h : (l.traffic.breaker.request now).period? = some period) :
    let l' := l.after (.ordinary (.request now))
    l'.traffic.breaker = (l.traffic.breaker.request now).breaker ∧
      ∃ moment, l'.traffic.inFlight = l.traffic.inFlight ++ [⟨period, moment⟩] := by
  simp only [after, Traffic.after, h]
  exact ⟨rfl, _, rfl⟩

lemma after_request_of_none {now : Float} (h : (l.traffic.breaker.request now).period? = none) :
    let l' := l.after (.ordinary (.request now))
    l'.traffic.breaker = (l.traffic.breaker.request now).breaker ∧
      l'.traffic.inFlight = l.traffic.inFlight := by
  simp only [after, Traffic.after, h]
  exact ⟨rfl, rfl⟩

end Lossy

section Carried

variable {clock : ω → Float}

lemma carried_of_same {act : Act (Breaker × ω) α}
    (h : ∀ scene, (act.perform scene).2.world.1 = scene.world.1) : Carried mayAbort act := by
  intro l scene hb
  rw [h, hb]
  exact .refl l

lemma carried_pure (a : α) : Carried mayAbort (pure a : Act (Breaker × ω) α) :=
  carried_of_same fun _ => rfl

lemma carried_throw (f : Fault) : Carried mayAbort (throw f : Act (Breaker × ω) α) :=
  carried_of_same fun _ => rfl

lemma carried_outside (act : Act ω α) :
    Carried mayAbort (Act.outside act : Act (Breaker × ω) α) :=
  carried_of_same fun _ => rfl

lemma carried_outcome {act : Act (Breaker × ω) α} (h : Carried mayAbort act) :
    Carried mayAbort act.outcome :=
  h

lemma carried_bind {act : Act (Breaker × ω) α} {next : α → Act (Breaker × ω) β}
    (h : Carried mayAbort act) (hnext : ∀ a, Carried mayAbort (next a)) :
    Carried mayAbort (act >>= next) := by
  intro l scene hb
  have hact := h l scene hb
  rw [Act.perform_bind]
  generalize act.perform scene = ended at hact
  rcases ended with ⟨f | a, later⟩
  · exact hact
  · exact hact.trans fun l' => hnext a l' later

lemma carried_map {act : Act (Breaker × ω) α} (f : α → β) (h : Carried mayAbort act) :
    Carried mayAbort (f <$> act) := by
  rw [← bind_pure_comp]
  exact carried_bind h fun a => carried_pure (f a)

lemma carried_rescue {act : Act (Breaker × ω) α} {handle : Fault → Act (Breaker × ω) α}
    (h : Carried mayAbort act) (hhandle : ∀ f, Carried mayAbort (handle f)) :
    Carried mayAbort (act.rescue handle) := by
  intro l scene hb
  have hact := h l scene hb
  rw [Act.perform_rescue]
  generalize act.perform scene = ended at hact
  rcases ended with ⟨f | a, later⟩
  · rw [Act.rescued_error]
    by_cases hcatch : f.isCatchable = true
    · rw [if_pos hcatch]
      exact hact.trans fun l' => hhandle f l' later
    · rw [if_neg hcatch]
      exact hact
  · exact hact

lemma carried_readState : Carried mayAbort (readState clock) := by
  intro l scene hb
  refine ⟨[.ordinary (.read (clock scene.world.2))], ?_, rfl, .inr rfl⟩
  rw [perform_readState, hb]
  rfl

lemma scene_continued_conclude (period : Nat) (start : Float) (failed : Bool)
    (scene : Scene (Breaker × ω)) {next : Act (Breaker × ω) α}
    (hnext : ∀ scene, (next.perform scene).2 = scene) :
    (Act.continued (fun _ => next) ((conclude clock period start failed).perform scene)).2 =
      ((conclude clock period start failed).perform scene).2 := by
  rcases (conclude clock period start failed).perform scene with ⟨_ | _, later⟩
  · rfl
  · exact hnext later

/-- However the act of a call ends that was let through last, an event does the same. It is an abort
only if the act ended with a fault that cannot be met. -/
lemma exists_end (call : Call) (start : Float) {l : Lossy} {flying : List Call}
    (ended : Except Fault α × Scene (Breaker × ω)) (hb : ended.2.world.1 = l.traffic.breaker)
    (hflying : l.traffic.inFlight = flying ++ [call])
    (hmet : mayAbort ∨ ∀ f, ended.1 = .error f → f.isCatchable = true) :
    ∃ event, (concluded clock call.period start ended).2.world.1 =
        (l.after event).traffic.breaker ∧ (l.after event).traffic.inFlight = flying ∧
      (mayAbort ∨ (l.after event).aborted = l.aborted) := by
  rcases ended with ⟨f | a, later⟩
  · rw [concluded]
    by_cases hcatch : f.isCatchable = true
    · have hsettle := Lossy.after_settle_last hflying true (clock later.world.2 - start)
        (clock later.world.2)
      refine ⟨_, ?_, hsettle.2, .inr rfl⟩
      rw [if_pos hcatch, scene_continued_conclude call.period start true later fun _ => rfl,
        world_conclude, hsettle.1, ← hb]
    · have habort := Lossy.after_abort_last hflying
      refine ⟨_, ?_, habort.2, .inl (hmet.resolve_right fun h => hcatch (h f rfl))⟩
      rw [if_neg hcatch, habort.1]
      exact hb
  · rw [concluded]
    have hsettle := Lossy.after_settle_last hflying false (clock later.world.2 - start)
      (clock later.world.2)
    refine ⟨_, ?_, hsettle.2, .inr rfl⟩
    rw [scene_continued_conclude call.period start false later fun _ => rfl, world_conclude,
      hsettle.1, ← hb]

/-- A call is carried if its act is. It may abort if the act may, or if that may end with a fault that
cannot be met. -/
theorem carried_call {act : Act (Breaker × ω) α} (h : Carried mayAbort act)
    (hmet : mayAbort ∨ ∀ scene f, (act.perform scene).1 = .error f → f.isCatchable = true) :
    Carried mayAbort (call clock act) := by
  intro l scene hb
  cases hperiod : (scene.world.1.request (clock scene.world.2)).period? with
  | none =>
    have hrequest := Lossy.after_request_of_none (hb ▸ hperiod)
    refine ⟨[.ordinary (.request (clock scene.world.2))], ?_, hrequest.2, .inr rfl⟩
    rw [perform_call_of_none clock act scene hperiod]
    simp only [List.foldl_cons, List.foldl_nil]
    rw [hrequest.1, ← hb]
  | some period =>
    obtain ⟨hbreaker, moment, hflying⟩ := Lossy.after_request_of_some (hb ▸ hperiod)
    rw [perform_call_of_some clock act scene hperiod]
    generalize hgranted : l.after (.ordinary (.request (clock scene.world.2))) = granted
    have hkept : granted.aborted = l.aborted := by rw [← hgranted]; rfl
    rw [hgranted] at hbreaker hflying
    dsimp only
    generalize hscene : (⟨_, (_, scene.world.2)⟩ : Scene (Breaker × ω)) = within
    have hwithin : within.world.1 = granted.traffic.breaker := by
      rw [hbreaker, ← hscene, hb]
    obtain ⟨events, hdone, hsame, haborted⟩ := h granted within hwithin
    obtain ⟨event, hend, hleft, hlost⟩ := exists_end ⟨period, moment⟩ (clock scene.world.2)
      (act.perform within) hdone (hsame.trans hflying) (hmet.imp_right fun h => h within)
    have hall : (.ordinary (.request (clock scene.world.2)) :: (events ++ [event])).foldl
        Lossy.after l = (events.foldl Lossy.after granted).after event := by
      rw [List.foldl_cons, hgranted, List.foldl_concat]
    refine ⟨.ordinary (.request (clock scene.world.2)) :: (events ++ [event]), ?_, ?_, ?_⟩
    · rw [hall]
      exact hend
    · rw [hall]
      exact hleft
    · rw [hall]
      rcases haborted with hmay | haborted
      · exact .inl hmay
      · exact hlost.imp_right fun h => h.trans (haborted.trans hkept)

end Carried

end IncidentTriage.Breaker

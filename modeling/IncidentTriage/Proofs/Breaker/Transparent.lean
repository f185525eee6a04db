import IncidentTriage.Proofs.Breaker.Carried

/-!
# Transparent calls

A call through a breaker is turned away, or its act is done once and the call ends as the act did.
That holds whatever happens to the breaker while the act is being done, provided that its window has
room for an outcome. The rates of a window that has none cannot be computed, and then the fault of
the breaker takes the place of what a call ended with.
-/

namespace IncidentTriage.Breaker

variable {ω α : Type}

/-- Whatever else becomes of the breaker while the act is done, its configuration stays. -/
def KeepsConfig (act : Act (Breaker × ω) α) : Prop :=
  ∀ scene, (act.perform scene).2.world.1.config = scene.world.1.config

/-- The scene in which the act of a call is done, if it is. -/
def asked (clock : ω → Float) (scene : Scene (Breaker × ω)) : Scene (Breaker × ω) :=
  let admission := scene.world.1.request (clock scene.world.2)
  ⟨scene.journal ++ admission.notices.map (Notice.entry admission.breaker.config.name),
    (admission.breaker, scene.world.2)⟩

/-- The call is turned away and its act is not done, or its act is done once, and the call ends as it
did and leaves the surroundings as it did. -/
def Transparent (clock : ω → Float) (act : Act (Breaker × ω) α) (scene : Scene (Breaker × ω)) : Prop :=
  let within := asked clock scene
  let ended := act.perform within
  match (scene.world.1.request (clock scene.world.2)).period? with
  | none => (call clock act).perform scene = (.error (rejection within.world.1), within)
  | some _ => ∃ journal b,
      (call clock act).perform scene = (ended.1, ⟨journal, (b, ended.2.world.2)⟩)

section Configs

lemma Lossy.config_after (l : Lossy) (event : Lossy.Event) :
    (l.after event).traffic.breaker.config = l.traffic.breaker.config := by
  cases event with
  | abort i =>
    simp only [Lossy.after]
    split <;> rfl
  | ordinary event => cases event with
    | request now =>
      simp only [Lossy.after, Traffic.after]
      split <;> exact config_request _ now
    | settle i failed elapsed now =>
      simp only [Lossy.after, Traffic.after]
      split
      · rfl
      · split
        · rename_i hsettle
          exact (settles_of_settle hsettle).config
        · rfl
    | read now => exact config_refresh _ now
    | reset now => rfl

lemma Lossy.config_foldl (l : Lossy) (events : List Lossy.Event) :
    (events.foldl Lossy.after l).traffic.breaker.config = l.traffic.breaker.config := by
  induction events generalizing l with
  | nil => rfl
  | cons event events ih => rw [List.foldl_cons, ih, l.config_after]

/-- What calls and looks do to a breaker keeps its configuration. -/
lemma keepsConfig_of_carried {mayAbort : Prop} {act : Act (Breaker × ω) α}
    (h : Carried mayAbort act) : KeepsConfig act := by
  intro scene
  obtain ⟨events, hevents, -⟩ := h { traffic := { breaker := scene.world.1 } } scene rfl
  rw [hevents, Lossy.config_foldl]

end Configs

section Ends

variable (clock : ω → Float)

/-- A call that was let through ends as its act did, if the window has room. -/
lemma concluded_of_room (scene : Scene (Breaker × ω)) (hsize : 1 ≤ scene.world.1.config.windowSize)
    (period : Nat) (start : Float) (result : Except Fault α) :
    ∃ journal b, concluded clock period start (result, scene) =
      (result, ⟨journal, (b, scene.world.2)⟩) := by
  by_cases hmet : ∀ f, result = .error f → f.isCatchable = true
  · obtain ⟨journal, b, -, hconcluded⟩ := concluded_eq clock scene hsize period start hmet
    exact ⟨journal, b, hconcluded⟩
  · push Not at hmet
    obtain ⟨f, rfl, hf⟩ := hmet
    refine ⟨scene.journal, scene.world.1, ?_⟩
    rw [concluded, if_neg hf]

lemma transparent_of_room {act : Act (Breaker × ω) α} (hact : KeepsConfig act)
    (scene : Scene (Breaker × ω)) (hsize : 1 ≤ scene.world.1.config.windowSize) :
    Transparent clock act scene := by
  cases hperiod : (scene.world.1.request (clock scene.world.2)).period? with
  | none =>
    simp only [Transparent, hperiod]
    exact perform_call_of_none clock act scene hperiod
  | some period =>
    have hroom : 1 ≤ (act.perform (asked clock scene)).2.world.1.config.windowSize := by
      rw [hact]
      exact (config_request scene.world.1 _).symm ▸ hsize
    obtain ⟨journal, b, hconcluded⟩ := concluded_of_room clock (act.perform (asked clock scene)).2
      hroom period (clock scene.world.2) (act.perform (asked clock scene)).1
    simp only [Transparent, hperiod]
    refine ⟨journal, b, ?_⟩
    rw [perform_call_of_some clock act scene hperiod]
    exact hconcluded

end Ends

section NoRoom

variable {b : Breaker}

/-- The outcome of a call of the present period cannot be told to a closed breaker without room. -/
lemma settle_of_no_room (hsize : b.config.windowSize = 0) (hclosed : b.state = .closed)
    (failed : Bool) (elapsed now : Float) :
    b.settle b.period failed elapsed now = .error .emptyWindow := by
  have hpushed : ∀ o, b.pushed o = [] := by
    intro o
    simp [pushed, hsize]
  have henough : ¬ (0 : Int) < b.config.enough := by
    rw [Config.enough, hsize]
    omega
  simp [settle, settleClosed, hclosed, hpushed, henough, rate?]

lemma closed_settled_of_no_room (hsize : b.config.windowSize = 0) (hclosed : b.state = .closed)
    {later : Breaker} {period : Nat} {failed : Bool} {elapsed now : Float} {notices : List Notice}
    (h : b.settle period failed elapsed now = .ok (later, notices)) : later.state = .closed := by
  by_cases hperiod : period = b.period
  · rw [hperiod, settle_of_no_room hsize hclosed] at h
    cases h
  · simp only [settle, if_pos hperiod] at h
    cases h
    exact hclosed

/-- A breaker without room in its window never leaves the closed state. -/
lemma Lossy.closed_after {l : Lossy} (hsize : l.traffic.breaker.config.windowSize = 0)
    (hclosed : l.traffic.breaker.state = .closed) (event : Lossy.Event) :
    (l.after event).traffic.breaker.state = .closed := by
  cases event with
  | abort i =>
    simp only [Lossy.after]
    split <;> exact hclosed
  | ordinary event => cases event with
    | request now =>
      simp only [Lossy.after, Traffic.after, request_of_closed hclosed]
      exact hclosed
    | settle i failed elapsed now =>
      simp only [Lossy.after, Traffic.after]
      split
      · exact hclosed
      · split
        · rename_i hsettle
          exact closed_settled_of_no_room hsize hclosed hsettle
        · exact hclosed
    | read now =>
      have hdue : l.traffic.breaker.isDue now = false := by simp [isDue, hclosed]
      simp only [Lossy.after, Traffic.after, refresh_of_not_due hdue]
      exact hclosed
    | reset now => rfl

lemma Lossy.closed_run {c : Config} (hsize : c.windowSize = 0) (events : List Lossy.Event) :
    (Lossy.run c events).traffic.breaker.state = .closed := by
  induction events using List.reverseRecOn with
  | nil => rfl
  | append_singleton events event ih =>
    rw [Lossy.run_append]
    have hconfig : (Lossy.run c events).traffic.breaker.config = c := Lossy.config_foldl _ events
    exact Lossy.closed_after (hconfig.symm ▸ hsize) ih event

/-- Without room in the window, the fault of the breaker takes the place of what an act on the
surroundings ends with. -/
lemma call_of_no_room (clock : ω → Float) (act : Act ω α) (scene : Scene (Breaker × ω))
    (hsize : scene.world.1.config.windowSize = 0) (hclosed : scene.world.1.state = .closed)
    (hmet : ∀ f, (act.perform ⟨scene.journal, scene.world.2⟩).1 = .error f →
      f.isCatchable = true) :
    ((call clock (Act.outside act)).perform scene).1 =
      .error ⟨.zeroDivision, RateError.emptyWindow.message⟩ := by
  have hrequest := request_of_closed hclosed (clock scene.world.2)
  rw [perform_call_of_some clock _ scene (congrArg Admission.period? hrequest), hrequest]
  simp only [List.map_nil, List.append_nil, Act.perform_outside]
  generalize act.perform ⟨scene.journal, scene.world.2⟩ = ended at hmet
  have hconclude : ∀ failed, (conclude clock scene.world.1.period (clock scene.world.2) failed).perform
      ⟨ended.2.journal, (scene.world.1, ended.2.world)⟩ =
        (.error ⟨.zeroDivision, RateError.emptyWindow.message⟩,
          ⟨ended.2.journal, (scene.world.1, ended.2.world)⟩) := by
    intro failed
    simp only [conclude, Act.perform_bind, Act.perform_world, Act.continued_ok,
      settle_of_no_room hsize hclosed, Act.perform_fail]
  rcases ended with ⟨f | a, after⟩
  · rw [concluded, if_pos (hmet f rfl), hconclude]
    rfl
  · rw [concluded, hconclude]
    rfl

/-- After whatever has happened to it, a breaker without room masks every call that is not aborted. -/
lemma masked_of_no_room {c : Config} (hsize : c.windowSize = 0) (clock : ω → Float) (act : Act ω α)
    (events : List Lossy.Event) (journal : List Entry) (w : ω)
    (hmet : ∀ f, (act.perform ⟨journal, w⟩).1 = .error f → f.isCatchable = true) :
    ((call clock (Act.outside act)).perform
      ⟨journal, ((Lossy.run c events).traffic.breaker, w)⟩).1 =
        .error ⟨.zeroDivision, RateError.emptyWindow.message⟩ := by
  have hconfig : (Lossy.run c events).traffic.breaker.config = c := Lossy.config_foldl _ events
  exact call_of_no_room clock act ⟨journal, ((Lossy.run c events).traffic.breaker, w)⟩
    (hconfig.symm ▸ hsize) (Lossy.closed_run hsize events) hmet

/-- An act that returns is masked, so the call of it is not transparent. -/
lemma not_transparent_of_no_room {c : Config} (hsize : c.windowSize = 0) :
    ¬ Transparent id (Act.outside (pure ())) ⟨[], ({ config := c }, (0.0 : Float))⟩ := by
  intro htransparent
  have hmasked := masked_of_no_room hsize id (pure ()) [] [] (0.0 : Float) nofun
  have hclosed : ({ config := c } : Breaker).state = .closed := rfl
  simp only [Transparent, request_of_closed hclosed] at htransparent
  obtain ⟨journal, b, hcall⟩ := htransparent
  have hends := hmasked.symm.trans (congrArg Prod.fst hcall)
  cases hends

end NoRoom

/-- Calls through a breaker are transparent, however they are nested and whatever happens to the
breaker meanwhile, exactly if its window has room for an outcome. Without room, the fault of the
breaker takes the place of what a call ended with, at any time and unless it was aborted. -/
theorem transparent_iff_window_has_room (c : Config) :
    ((∀ (ω α : Type) (clock : ω → Float) (act : Act (Breaker × ω) α) (scene : Scene (Breaker × ω)),
        KeepsConfig act → scene.world.1.config = c → Transparent clock act scene) ↔
      1 ≤ c.windowSize) ∧
    (c.windowSize = 0 → ∀ (ω α : Type) (clock : ω → Float) (act : Act ω α) (events : List Lossy.Event)
      (journal : List Entry) (w : ω),
      (∀ f, (act.perform ⟨journal, w⟩).1 = .error f → f.isCatchable = true) →
        ((call clock (Act.outside act)).perform
          ⟨journal, ((Lossy.run c events).traffic.breaker, w)⟩).1 =
            .error ⟨.zeroDivision, RateError.emptyWindow.message⟩) := by
  refine ⟨⟨fun htransparent => ?_, fun hsize ω α clock act scene hact hconfig => ?_⟩,
    fun hsize ω α => masked_of_no_room hsize⟩
  · by_contra hsize
    have hnone : c.windowSize = 0 := by omega
    exact not_transparent_of_no_room hnone (htransparent Float Unit id _ _ (fun _ => rfl) rfl)
  · exact transparent_of_room clock hact scene (hconfig.symm ▸ hsize)

/-- The act of the call makes another call, which fails and opens the breaker, so that its own outcome
comes late. -/
theorem transparent_of_late_call :
    let c : Config := { name := "answers", windowSize := 1, minimumCalls := 1 }
    let act : Act (Breaker × Float) Nat := do
      let _ ← (call id (Act.fail .runtime "down" : Act (Breaker × Float) Unit)).outcome
      return 7
    let scene : Scene (Breaker × Float) := ⟨[], ({ config := c }, 0.0)⟩
    1 ≤ c.windowSize ∧ KeepsConfig act ∧ Transparent id act scene := by
  intro c act scene
  have hfails : Carried True (Act.fail .runtime "down" : Act (Breaker × Float) Unit) :=
    carried_throw _
  have hinner : Carried True (call id (Act.fail .runtime "down" : Act (Breaker × Float) Unit)) :=
    carried_call hfails (.inl trivial)
  have hact : Carried True act := carried_bind (carried_outcome hinner) fun _ => carried_pure 7
  have hkeeps := keepsConfig_of_carried hact
  have hsize : 1 ≤ c.windowSize := by decide
  exact ⟨hsize, hkeeps,
    (transparent_iff_window_has_room c).1.2 hsize Float Nat id act scene hkeeps rfl⟩

/-- A window of size zero is accepted, and a call that returned an answer ends with a fault. -/
theorem no_room_masks_answer :
    let c : Config := { name := "answers", windowSize := 0 }
    ({ name := "answers" } : Config).withWindow 0 = .ok c ∧
      ((call id (pure 7 : Act (Breaker × Float) Nat)).perform ⟨[], ({ config := c }, 0.0)⟩).1 =
        .error ⟨.zeroDivision, "division by zero"⟩ := by
  intro c
  have hsize : c.windowSize = 0 := rfl
  exact ⟨rfl, call_of_no_room id (pure 7) ⟨[], ({ config := c }, 0.0)⟩ hsize rfl nofun⟩

end IncidentTriage.Breaker

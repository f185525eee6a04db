import IncidentTriage.Proofs.Act
import IncidentTriage.Proofs.Breaker.Traffic
import IncidentTriage.Breaker.Call

/-!
# What a call through a breaker does

A call asks the breaker first. If it is let through, its act is done in the scene that the breaker
leaves, and then its outcome is told to the breaker, unless the act was aborted. Otherwise the act is
not done at all.
-/

namespace IncidentTriage.Breaker

variable {ω α : Type}

section Pure

variable {b : Breaker}

/-- What becomes of the breaker when an outcome is told to it. -/
def settled (b : Breaker) (period : Nat) (failed : Bool) (elapsed now : Float) : Breaker :=
  match b.settle period failed elapsed now with
  | .ok (b, _) => b
  | .error _ => b

lemma isDue_refresh (b : Breaker) (now : Float) : (b.refresh now).1.isDue now = false := by
  rw [refresh]
  by_cases hdue : b.isDue now = true
  · rw [if_pos hdue]
    rfl
  · rw [if_neg hdue]
    exact Bool.eq_false_iff.2 hdue

lemma refresh_of_not_due {now : Float} (h : b.isDue now = false) : b.refresh now = (b, []) := by
  rw [refresh, h, if_neg Bool.false_ne_true]

/-- A closed breaker lets every call through and stays as it is. -/
lemma request_of_closed (h : b.state = .closed) (now : Float) :
    b.request now = ⟨some b.period, b, []⟩ := by
  have hdue : b.isDue now = false := by
    rw [isDue, h]
    rfl
  simp only [request, refresh_of_not_due hdue, h]

/-- To look at the state first makes no difference to a call. -/
lemma request_refresh (b : Breaker) (now : Float) :
    ((b.refresh now).1.request now).period? = (b.request now).period? ∧
      ((b.refresh now).1.request now).breaker = (b.request now).breaker := by
  have hrefresh : (b.refresh now).1.refresh now = ((b.refresh now).1, []) :=
    refresh_of_not_due (isDue_refresh b now)
  simp only [request, hrefresh]
  cases (b.refresh now).1.state with
  | opened => exact ⟨rfl, rfl⟩
  | closed => exact ⟨rfl, rfl⟩
  | halfOpened =>
    dsimp only
    by_cases hpermits : (b.refresh now).1.config.halfOpenCalls ≤ ((b.refresh now).1.permits : Int)
    · rw [if_pos hpermits, if_pos hpermits]
      exact ⟨rfl, rfl⟩
    · rw [if_neg hpermits, if_neg hpermits]
      exact ⟨rfl, rfl⟩

lemma config_refresh (b : Breaker) (now : Float) : (b.refresh now).1.config = b.config := by
  rw [refresh]
  split <;> rfl

lemma config_request (b : Breaker) (now : Float) : (b.request now).breaker.config = b.config := by
  have hconfig := config_refresh b now
  simp only [request]
  split
  · exact hconfig
  · split
    · exact hconfig
    · exact hconfig
  · exact hconfig

/-- What an outcome may make of a breaker: it is taken in, or it opens the breaker, or it closes one
that is half open. -/
inductive Settles (b : Breaker) (now : Float) : Breaker → Prop
  | stays (window : List Outcome) (successes : Nat) : Settles b now { b with window, successes }
  | opens : Settles b now (b.moveTo .opened now)
  | closes (hstate : b.state = .halfOpened) : Settles b now (b.moveTo .closed now)

section Settling

variable {now : Float} {later : Breaker} {notices : List Notice}

lemma settles_of_settleClosed {o : Outcome} (h : b.settleClosed o now = .ok (later, notices)) :
    Settles b now later := by
  simp only [settleClosed] at h
  split at h
  · cases h
    exact .stays (b.pushed o) b.successes
  · split at h
    · split at h
      · cases h
        exact .opens
      · cases h
        exact .stays (b.pushed o) b.successes
    · cases h

lemma settles_settleTrial (hstate : b.state = .halfOpened) (o : Outcome) :
    Settles b now (b.settleTrial o now).1 := by
  simp only [settleTrial]
  split
  · exact .opens
  · split
    · exact .closes hstate
    · exact .stays b.window (b.successes + 1)

lemma settles_of_settle {period : Nat} {failed : Bool} {elapsed : Float}
    (h : b.settle period failed elapsed now = .ok (later, notices)) : Settles b now later := by
  simp only [settle] at h
  split at h
  · cases h
    exact .stays b.window b.successes
  · split at h
    · rename_i hstate
      obtain ⟨hlater, -⟩ := Prod.mk.inj (Except.ok.inj h)
      rw [← hlater]
      exact settles_settleTrial hstate _
    · exact settles_of_settleClosed h

lemma Settles.config (h : Settles b now later) : later.config = b.config := by
  cases h <;> rfl

end Settling

/-- An outcome can always be told to a breaker whose window has room. -/
lemma settle_eq_ok (hsize : 1 ≤ b.config.windowSize) (period : Nat) (failed : Bool)
    (elapsed now : Float) :
    ∃ b' notices, b.settle period failed elapsed now = .ok (b', notices) ∧
      b'.config = b.config := by
  have hok : ∃ r, b.settle period failed elapsed now = .ok r := by
    by_cases hperiod : period = b.period
    · by_cases hstate : b.state = .halfOpened
      · exact ⟨b.settleTrial (b.config.judge failed elapsed) now, by
          simp [settle, hperiod, hstate, Config.judge]⟩
      · have hsettle : b.settle period failed elapsed now =
            b.settleClosed (b.config.judge failed elapsed) now := by
          cases hs : b.state with
          | halfOpened => contradiction
          | closed => simp [settle, hperiod, hs, Config.judge]
          | opened => simp [settle, hperiod, hs, Config.judge]
        rw [hsettle]
        by_cases htrips : b.config.trips (b.pushed (b.config.judge failed elapsed))
        · obtain ⟨notices, hclosed⟩ := settleClosed_of_trips hsize now htrips
          exact ⟨_, hclosed⟩
        · exact ⟨_, settleClosed_of_not_trips hsize now htrips⟩
    · exact ⟨(b, []), by simp [settle, hperiod]⟩
  obtain ⟨⟨b', notices⟩, hsettle⟩ := hok
  exact ⟨b', notices, hsettle, (settles_of_settle hsettle).config⟩

end Pure

section Acts

variable (clock : ω → Float)

@[simp] lemma perform_become (b : Breaker) (notices : List Notice) (scene : Scene (Breaker × ω)) :
    (become b notices).perform scene =
      (.ok (), ⟨scene.journal ++ notices.map (Notice.entry b.config.name), (b, scene.world.2)⟩) := by
  simp [become]

@[simp] lemma perform_readState (scene : Scene (Breaker × ω)) :
    (readState clock).perform scene =
      let refreshed := scene.world.1.refresh (clock scene.world.2)
      (.ok refreshed.1.state, ⟨scene.journal ++
        refreshed.2.map (Notice.entry refreshed.1.config.name), (refreshed.1, scene.world.2)⟩) := by
  simp [readState, Except.map]

lemma world_conclude (period : Nat) (start : Float) (failed : Bool) (scene : Scene (Breaker × ω)) :
    ((conclude clock period start failed).perform scene).2.world =
      (scene.world.1.settled period failed (clock scene.world.2 - start) (clock scene.world.2),
        scene.world.2) := by
  simp only [conclude, Act.perform_bind, Act.perform_world, Act.continued_ok, settled]
  cases scene.world.1.settle period failed (clock scene.world.2 - start)
    (clock scene.world.2) with
  | ok r => simp
  | error e => simp

/-- What becomes of a call that was let through, by the end of its act. -/
def concluded (period : Nat) (start : Float) :
    Except Fault α × Scene (Breaker × ω) → Except Fault α × Scene (Breaker × ω)
  | (.ok a, scene) => Act.continued (fun _ => pure a) ((conclude clock period start false).perform scene)
  | (.error f, scene) =>
    if f.isCatchable then
      Act.continued (fun _ => throw f) ((conclude clock period start true).perform scene)
    else (.error f, scene)

lemma perform_call_of_none (act : Act (Breaker × ω) α) (scene : Scene (Breaker × ω))
    (h : (scene.world.1.request (clock scene.world.2)).period? = none) :
    (call clock act).perform scene =
      let admission := scene.world.1.request (clock scene.world.2)
      (.error (rejection admission.breaker), ⟨scene.journal ++
        admission.notices.map (Notice.entry admission.breaker.config.name),
        (admission.breaker, scene.world.2)⟩) := by
  simp [call, h]

lemma perform_call_of_some (act : Act (Breaker × ω) α) (scene : Scene (Breaker × ω)) {period : Nat}
    (h : (scene.world.1.request (clock scene.world.2)).period? = some period) :
    (call clock act).perform scene =
      let admission := scene.world.1.request (clock scene.world.2)
      concluded clock period (clock scene.world.2) (act.perform ⟨scene.journal ++
        admission.notices.map (Notice.entry admission.breaker.config.name),
        (admission.breaker, scene.world.2)⟩) := by
  simp only [call, Act.perform_bind, Act.perform_world, Act.continued_ok, perform_become, h]
  rw [Act.perform_outcome]
  generalize act.perform _ = ended
  rcases ended with ⟨f | a, after⟩
  · simp only [Act.continued_ok, concluded, Act.perform_ite, Act.perform_bind, Act.perform_throw]
  · simp only [Act.continued_ok, concluded, Act.perform_bind]

lemma conclude_end (period : Nat) (start : Float) (failed : Bool) (scene : Scene (Breaker × ω)) :
    ∃ after, (conclude clock period start failed).perform scene = (.ok (), after) ∨
      (conclude clock period start failed).perform scene =
        (.error ⟨.zeroDivision, RateError.emptyWindow.message⟩, after) := by
  simp only [conclude, Act.perform_bind, Act.perform_world, Act.continued_ok]
  cases scene.world.1.settle period failed (clock scene.world.2 - start)
    (clock scene.world.2) with
  | ok r => exact ⟨_, .inl (perform_become _ _ _)⟩
  | error e => exact ⟨_, .inr rfl⟩

/-- Whatever room the window has, a call that was let through ends as its act did, or with the fault
of a breaker that has nothing to judge by. -/
lemma concluded_end (period : Nat) (start : Float) (ended : Except Fault α × Scene (Breaker × ω)) :
    (concluded clock period start ended).1 = ended.1 ∨
      (concluded clock period start ended).1 =
        .error ⟨.zeroDivision, RateError.emptyWindow.message⟩ := by
  rcases ended with ⟨f | a, scene⟩
  · rw [concluded]
    by_cases hmet : f.isCatchable = true
    · rw [if_pos hmet]
      obtain ⟨after, hend⟩ := conclude_end clock period start true scene
      cases hend with
      | inl hend => exact .inl (by rw [hend, Act.continued_ok, Act.perform_throw])
      | inr hend => exact .inr (by rw [hend, Act.continued_error])
    · rw [if_neg hmet]
      exact .inl rfl
  · rw [concluded]
    obtain ⟨after, hend⟩ := conclude_end clock period start false scene
    cases hend with
    | inl hend => exact .inl (by rw [hend, Act.continued_ok, Act.perform_pure])
    | inr hend => exact .inr (by rw [hend, Act.continued_error])

/-- An outcome is told to a breaker whose window has room without a fault. -/
lemma perform_conclude (scene : Scene (Breaker × ω)) (hsize : 1 ≤ scene.world.1.config.windowSize)
    (period : Nat) (start : Float) (failed : Bool) :
    ∃ journal b, b.config = scene.world.1.config ∧
      (conclude clock period start failed).perform scene =
        (.ok (), ⟨journal, (b, scene.world.2)⟩) := by
  obtain ⟨b, notices, hsettle, hconfig⟩ := settle_eq_ok hsize period failed
    (clock scene.world.2 - start) (clock scene.world.2)
  refine ⟨scene.journal ++ notices.map (Notice.entry b.config.name), b, hconfig, ?_⟩
  simp only [conclude, Act.perform_bind, Act.perform_world, Act.continued_ok, hsettle,
    perform_become]

/-- A call that was not aborted ends as its act did, and the breaker takes in its outcome. -/
lemma concluded_eq (scene : Scene (Breaker × ω)) (hsize : 1 ≤ scene.world.1.config.windowSize)
    (period : Nat) (start : Float) {result : Except Fault α}
    (hmet : ∀ f, result = .error f → f.isCatchable = true) :
    ∃ journal b, b.config = scene.world.1.config ∧
      concluded clock period start (result, scene) = (result, ⟨journal, (b, scene.world.2)⟩) := by
  cases result with
  | ok a =>
    obtain ⟨journal, b, hconfig, hconclude⟩ := perform_conclude clock scene hsize period start false
    refine ⟨journal, b, hconfig, ?_⟩
    rw [concluded, hconclude]
    rfl
  | error f =>
    obtain ⟨journal, b, hconfig, hconclude⟩ := perform_conclude clock scene hsize period start true
    refine ⟨journal, b, hconfig, ?_⟩
    rw [concluded, if_pos (hmet f rfl), hconclude]
    rfl

end Acts

end IncidentTriage.Breaker

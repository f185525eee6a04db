import IncidentTriage.Proofs.Breaker.Call
import IncidentTriage.Proofs.Breaker.Trials

/-!
# Aborted calls

The outcome of a call that is aborted is not told to the breaker, and the permit of an aborted trial
is never given back. As long as no trial of the present period is aborted, a breaker whose cool-down
is over and that no call is on its way through lets the next call through. A half-open breaker that
has lost the permits of its last trials turns every call away until it is reset.
-/

namespace IncidentTriage.Breaker

/-- The traffic at a breaker together with the calls that were aborted. They are no longer in flight,
and no outcome of theirs is recorded. -/
structure Lossy where
  traffic : Traffic
  aborted : List Call := []

namespace Lossy

/-- An event of the traffic, or the abort of a call, given by its place among those in flight. -/
inductive Event
  | ordinary (event : Breaker.Event)
  | abort (index : Nat)

def after (l : Lossy) : Event → Lossy
  | .ordinary event => { l with traffic := l.traffic.after event }
  | .abort index =>
    match l.traffic.inFlight[index]? with
    | none => l
    | some call =>
      { traffic := { l.traffic with inFlight := l.traffic.inFlight.eraseIdx index }
        aborted := l.aborted ++ [call] }

/-- What has come of a new breaker after some events. -/
def run (c : Config) (events : List Event) : Lossy :=
  events.foldl after { traffic := { breaker := { config := c } } }

lemma run_append (c : Config) (events later : List Event) :
    run c (events ++ later) = later.foldl after (run c events) :=
  List.foldl_append

/-- The same traffic, but the aborted calls stay in flight. -/
inductive Covers : Traffic → Lossy → Prop
  | intro {t : Traffic} {flying aborted : List Call} (h : t.inFlight.Perm (flying ++ aborted)) :
      Covers t ⟨{ t with inFlight := flying }, aborted⟩

lemma Covers.eq {t : Traffic} {l : Lossy} (h : Covers t l) :
    l.traffic.breaker = t.breaker ∧ t.inFlight.Perm (l.traffic.inFlight ++ l.aborted) := by
  obtain ⟨hperm⟩ := h
  exact ⟨rfl, hperm⟩

lemma exists_index {α : Type} {l flying others : List α} (h : l.Perm (flying ++ others)) {i : Nat}
    {a : α} (hi : flying[i]? = some a) :
    ∃ j, l[j]? = some a ∧ (l.eraseIdx j).Perm (flying.eraseIdx i ++ others) := by
  obtain ⟨hlt, rfl⟩ := List.getElem?_eq_some_iff.1 hi
  have hmem : flying[i] ∈ l := h.mem_iff.2 (List.mem_append_left _ (List.getElem_mem hlt))
  obtain ⟨j, hj, hjl⟩ := List.getElem_of_mem hmem
  refine ⟨j, List.getElem?_eq_some_iff.2 ⟨hj, hjl⟩, ?_⟩
  have hl := List.getElem_cons_eraseIdx_perm hj
  have hflying := (List.getElem_cons_eraseIdx_perm hlt).symm.append_right others
  rw [hjl] at hl
  exact ((hl.trans h).trans hflying).cons_inv

section Covering

variable {c : Config} {t : Traffic} {l : Lossy}

lemma Covers.request (h : Covers t l) (now : Float) :
    Covers (t.after (.request now)) (l.after (.ordinary (.request now))) := by
  obtain ⟨h⟩ := h
  rename_i flying aborted
  cases hperiod : (t.breaker.request now).period? with
  | none =>
    simp only [after, Traffic.after, hperiod]
    exact .intro h
  | some period =>
    simp only [after, Traffic.after, hperiod]
    refine .intro (t := (t.move (t.breaker.request now).breaker).letThrough period) ?_
    have hcall := h.append_right [(⟨period, t.time + 1⟩ : Call)]
    refine hcall.trans ?_
    rw [List.append_assoc, List.append_assoc]
    exact List.perm_append_comm.append_left flying

lemma Covers.settle (h : Covers t l) (i : Nat) (failed : Bool) (elapsed now : Float) :
    ∃ j, Covers (t.after (.settle j failed elapsed now))
      (l.after (.ordinary (.settle i failed elapsed now))) := by
  obtain ⟨h⟩ := h
  rename_i flying aborted
  cases hi : flying[i]? with
  | none =>
    have hnone : t.inFlight[t.inFlight.length]? = none := List.getElem?_eq_none (Nat.le_refl _)
    refine ⟨t.inFlight.length, ?_⟩
    simp only [after, Traffic.after, hi, hnone]
    exact .intro h
  | some call =>
    obtain ⟨j, hj, hperm⟩ := exists_index h hi
    refine ⟨j, ?_⟩
    simp only [after, Traffic.after, hi, hj]
    cases t.breaker.settle call.period failed elapsed now with
    | ok r => exact .intro hperm
    | error e => exact .intro hperm

lemma Covers.abort (h : Covers t l) (i : Nat) : Covers t (l.after (.abort i)) := by
  obtain ⟨h⟩ := h
  rename_i flying aborted
  cases hi : flying[i]? with
  | none =>
    simp only [after, hi]
    exact .intro h
  | some call =>
    obtain ⟨hlt, rfl⟩ := List.getElem?_eq_some_iff.1 hi
    simp only [after, hi]
    refine .intro (h.trans ?_)
    have hflying := (List.getElem_cons_eraseIdx_perm hlt).symm.append_right aborted
    refine hflying.trans ?_
    rw [← List.append_assoc]
    exact (List.perm_append_singleton _ _).symm

lemma Covers.ordinary (h : Covers t l) (event : Breaker.Event) :
    ∃ covering, Covers (t.after covering) (l.after (.ordinary event)) := by
  cases event with
  | request now => exact ⟨_, h.request now⟩
  | settle i failed elapsed now =>
    obtain ⟨j, hj⟩ := h.settle i failed elapsed now
    exact ⟨_, hj⟩
  | read now =>
    obtain ⟨h⟩ := h
    exact ⟨.read now, .intro h⟩
  | reset now =>
    obtain ⟨h⟩ := h
    exact ⟨.reset now, .intro h⟩

/-- Every run is covered by one without aborts. -/
lemma exists_covers (c : Config) (events : List Event) :
    ∃ kept, Covers (Traffic.run c kept) (run c events) := by
  induction events using List.reverseRecOn with
  | nil => exact ⟨[], .intro (List.Perm.refl _)⟩
  | append_singleton events event ih =>
    obtain ⟨kept, h⟩ := ih
    rw [run_append]
    cases event with
    | abort i => exact ⟨kept, h.abort i⟩
    | ordinary event =>
      obtain ⟨covering, hcovering⟩ := h.ordinary event
      refine ⟨kept ++ [covering], ?_⟩
      rw [Traffic.run_append]
      exact hcovering

/-- What a half-open breaker has granted is accounted for by the trials of the present period that
did well, those in flight and those that were aborted. -/
structure Accounted (c : Config) (l : Lossy) : Prop where
  config : l.traffic.breaker.config = c
  bound : (l.traffic.breaker.permits : Int) ≤ c.halfOpenCalls
  permits : l.traffic.breaker.state = .halfOpened → l.traffic.breaker.permits =
    l.traffic.outcomes.length + l.traffic.inFlight.countP l.traffic.isCurrent +
      l.aborted.countP l.traffic.isCurrent
  unfinished : l.traffic.breaker.state = .halfOpened →
    (l.traffic.outcomes.length : Int) < c.halfOpenCalls

lemma Covers.accounted (h : Covers t l) (hs : Traffic.Sound c t) (ht : Traffic.Accounted t) :
    Accounted c l := by
  obtain ⟨hperm⟩ := h
  rename_i flying aborted
  have hconfig := hs.config
  have hbound := ht.bound
  have hunfinished := ht.unfinished
  have hinFlight := ht.inFlight
  have hcount := hperm.countP_eq t.isCurrent
  rw [List.countP_append] at hcount
  rw [hconfig] at hbound hunfinished
  refine ⟨hconfig, hbound, ?_, ?_⟩
  · intro hstate
    have hpermits := hinFlight hstate
    rw [ht.recorded hstate, hcount, ← Nat.add_assoc] at hpermits
    exact hpermits
  · intro hstate
    have hless := hunfinished hstate
    rw [ht.recorded hstate] at hless
    exact hless

lemma accounted_run (hsize : 1 ≤ c.windowSize) (hcalls : 1 ≤ c.halfOpenCalls)
    (events : List Event) : Accounted c (run c events) := by
  obtain ⟨kept, hcovers⟩ := exists_covers c events
  obtain ⟨hs, ht⟩ := Traffic.accounted_run hsize hcalls kept
  exact hcovers.accounted hs ht

end Covering

section Turning

variable {b : Breaker}

/-- An open breaker whose cool-down is over lets a first trial through. -/
lemma request_opened {now : Float} (h : b.state = .opened)
    (hdue : b.config.openSeconds ≤ now - b.openedAt) (hcalls : 1 ≤ b.config.halfOpenCalls) :
    (b.request now).period? = some (b.period + 1) := by
  have hopen : b.isDue now = true := by
    rw [isDue, h, decide_eq_true hdue]
    rfl
  have hpermits : ¬ b.config.halfOpenCalls ≤ 0 := by omega
  simp [Breaker.request, refresh, hopen, moveTo, hpermits]

lemma request_halfOpened (h : b.state = .halfOpened) (now : Float) :
    ((b.request now).period? = none ↔ b.config.halfOpenCalls ≤ b.permits) ∧
      (b.config.halfOpenCalls ≤ b.permits → (b.request now).breaker = b) := by
  have hdue : b.isDue now = false := by
    rw [isDue, h]
    rfl
  by_cases hpermits : b.config.halfOpenCalls ≤ (b.permits : Int)
  · simp [Breaker.request, refresh, hdue, h, hpermits]
  · simp [Breaker.request, refresh, hdue, h, hpermits]

end Turning

/-- With no call in flight, the next call is turned away when the trials that did well and those
that were aborted are all that may be let through. -/
lemma Accounted.turned_away_iff {c : Config} {l : Lossy} (h : Accounted c l)
    (hcalls : 1 ≤ c.halfOpenCalls) (hquiet : l.traffic.inFlight = []) (now : Float)
    (hdue : l.traffic.breaker.state = .opened →
      c.openSeconds ≤ now - l.traffic.breaker.openedAt) :
    (l.traffic.breaker.request now).period? = none ↔ l.traffic.breaker.state = .halfOpened ∧
      (l.traffic.outcomes.length + l.aborted.countP l.traffic.isCurrent : Int) =
        c.halfOpenCalls := by
  have hconfig := h.config
  cases hstate : l.traffic.breaker.state with
  | closed =>
    rw [request_of_closed hstate]
    exact iff_of_false (by simp) (by simp)
  | opened =>
    rw [← hconfig] at hdue hcalls
    rw [request_opened hstate (hdue hstate) hcalls]
    exact iff_of_false (by simp) (by simp)
  | halfOpened =>
    have hpermits := h.permits hstate
    have hbound := h.bound
    rw [hquiet, List.countP_nil] at hpermits
    rw [(request_halfOpened hstate now).1, hconfig]
    constructor
    · intro hfull
      exact ⟨rfl, by omega⟩
    · rintro ⟨-, hall⟩
      omega

/-- All permits of a half-open breaker are gone, and no call is left to give an outcome. -/
def Wedged (l : Lossy) : Prop :=
  l.traffic.inFlight = [] ∧ l.traffic.breaker.state = .halfOpened ∧
    l.traffic.breaker.config.halfOpenCalls ≤ l.traffic.breaker.permits

/-- Only a reset makes anything of a wedged breaker. -/
lemma Wedged.after_eq {l : Lossy} (h : Wedged l) {event : Event}
    (hreset : ∀ now, event ≠ .ordinary (.reset now)) :
    (l.after event).traffic.inFlight = [] ∧ (l.after event).traffic.breaker = l.traffic.breaker := by
  obtain ⟨hquiet, hstate, hpermits⟩ := h
  have hnone : ∀ i : Nat, l.traffic.inFlight[i]? = none := by
    intro i
    rw [hquiet, List.getElem?_nil]
  cases event with
  | abort i =>
    simp only [after, hnone]
    exact ⟨hquiet, trivial⟩
  | ordinary event =>
    cases event with
    | request now =>
      have hrequest := request_halfOpened hstate now
      simp only [after, Traffic.after, hrequest.1.2 hpermits]
      exact ⟨hquiet, hrequest.2 hpermits⟩
    | settle i failed elapsed now =>
      simp only [after, Traffic.after, hnone]
      exact ⟨hquiet, rfl⟩
    | read now =>
      have hdue : l.traffic.breaker.isDue now = false := by
        rw [isDue, hstate]
        rfl
      have hrefresh : l.traffic.breaker.refresh now = (l.traffic.breaker, []) := by
        simp [refresh, hdue]
      simp only [after, Traffic.after, hrefresh]
      exact ⟨hquiet, rfl⟩
    | reset now => exact absurd rfl (hreset now)

lemma Wedged.after {l : Lossy} (h : Wedged l) {event : Event}
    (hreset : ∀ now, event ≠ .ordinary (.reset now)) : Wedged (l.after event) := by
  have hafter := h.after_eq hreset
  rw [Wedged, hafter.2]
  exact ⟨hafter.1, h.2⟩

lemma Wedged.run {l : Lossy} (h : Wedged l) {later : List Event}
    (hreset : ∀ event ∈ later, ∀ now, event ≠ .ordinary (.reset now)) :
    (later.foldl Lossy.after l).traffic.breaker = l.traffic.breaker := by
  induction later generalizing l with
  | nil => rfl
  | cons event later ih =>
    have hevent := hreset event List.mem_cons_self
    have hlater := ih (h.after hevent) fun e he => hreset e (List.mem_cons_of_mem event he)
    rw [List.foldl_cons, hlater]
    exact (h.after_eq hevent).2

/-- With no call in flight, and its cool-down over if it is open, a breaker turns the next call away
exactly when it is half open and the trials of this period that did well and those that were aborted
are all it may let through. So it never does if none of them was aborted; and if it does, it does so
at every later moment, until it is reset. -/
theorem turned_away_iff_trials_aborted (c : Config) (hsize : 1 ≤ c.windowSize)
    (hcalls : 1 ≤ c.halfOpenCalls) (events : List Event)
    (hquiet : (run c events).traffic.inFlight = []) (now : Float)
    (hdue : (run c events).traffic.breaker.state = .opened →
      c.openSeconds ≤ now - (run c events).traffic.breaker.openedAt) :
    let l := run c events
    let b := l.traffic.breaker
    ((b.request now).period? = none ↔ b.state = .halfOpened ∧
      (l.traffic.outcomes.length + l.aborted.countP l.traffic.isCurrent : Int) =
        c.halfOpenCalls) ∧
    ((∀ call ∈ l.aborted, l.traffic.isCurrent call = false) →
      ∃ period, (b.request now).period? = some period) ∧
    ((b.request now).period? = none → ∀ later : List Event,
      (∀ event ∈ later, ∀ now, event ≠ .ordinary (.reset now)) → ∀ now,
        ((run c (events ++ later)).traffic.breaker.request now).period? = none) := by
  intro l b
  have h : Accounted c l := accounted_run hsize hcalls events
  have hexact := h.turned_away_iff hcalls hquiet now hdue
  refine ⟨hexact, ?_, ?_⟩
  · intro hkept
    cases hperiod : (b.request now).period? with
    | some period => exact ⟨period, rfl⟩
    | none =>
      obtain ⟨hstate, hall⟩ := hexact.1 hperiod
      have hcount : l.aborted.countP l.traffic.isCurrent = 0 :=
        List.countP_eq_zero.2 fun call hcall => Bool.eq_false_iff.1 (hkept call hcall)
      have hless := h.unfinished hstate
      omega
  · intro haway later hreset now'
    obtain ⟨hstate, -⟩ := hexact.1 haway
    have hpermits := (request_halfOpened hstate now).1.1 haway
    have hwedged : Wedged l := ⟨hquiet, hstate, hpermits⟩
    rw [run_append, hwedged.run hreset]
    exact (request_halfOpened hstate now').1.2 hpermits

theorem turned_away_after_aborted_trial :
    let c : Config := { name := "answers", windowSize := 1, minimumCalls := 1, halfOpenCalls := 1 }
    let events : List Event := [.ordinary (.request 0.0), .ordinary (.settle 0 true 0.0 0.0),
      .ordinary (.request 30.0), .abort 0]
    let b := (run c events).traffic.breaker
    (1 ≤ c.windowSize ∧ 1 ≤ c.halfOpenCalls ∧ (run c events).traffic.inFlight = []) ∧
      b.state = .halfOpened ∧ (b.request 60.0).period? = none := by
  intro c events b
  have hquiet : (run c events).traffic.inFlight = [] := List.isEmpty_iff.1 (by decide +kernel)
  have hstate : b.state = .halfOpened := by decide +kernel
  have hdue : b.state = .opened → c.openSeconds ≤ 60.0 - b.openedAt := by
    intro hopened
    exact absurd (hstate.symm.trans hopened) (by decide)
  have hexact := (turned_away_iff_trials_aborted c (by decide) (by decide) events hquiet 60.0 hdue).1
  exact ⟨⟨by decide, by decide, hquiet⟩, hstate, hexact.2 ⟨hstate, by decide +kernel⟩⟩

/-- A call that fails opens the breaker, and the first trial call is aborted: the breaker then turns
every call away, whatever the clock shows, though none is on its way through. -/
theorem wedged_by_aborted_trial :
    let c : Config := { name := "answers", windowSize := 1, minimumCalls := 1, halfOpenCalls := 1 }
    let past : Act (Breaker × Float) Unit := do
      let _ ← (call id (Act.fail .runtime "down" : Act (Breaker × Float) Unit)).outcome
      Act.outside (Act.setWorld 30.0)
      let _ ← (call id (Act.fail .abort "" : Act (Breaker × Float) Unit)).outcome
    let b := (past.perform ⟨[], ({ config := c }, 0.0)⟩).2.world.1
    b.state = .halfOpened ∧ ∀ (now : Float) (act : Act (Breaker × Float) Unit),
      ((call id act).perform ⟨[], (b, now)⟩).1 = .error (rejection b) := by
  intro c past b
  have hstate : b.state = .halfOpened := by decide +kernel
  have hpermits : b.config.halfOpenCalls ≤ b.permits := by decide +kernel
  clear_value b
  refine ⟨hstate, fun now act => ?_⟩
  have hrequest := request_halfOpened hstate now
  rw [perform_call_of_none id act ⟨[], (b, now)⟩ (hrequest.1.2 hpermits)]
  exact congrArg (fun b => Except.error (rejection b)) (hrequest.2 hpermits)

end Lossy

end IncidentTriage.Breaker

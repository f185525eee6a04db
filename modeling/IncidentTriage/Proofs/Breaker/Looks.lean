import IncidentTriage.Proofs.Breaker.Call
import Mathlib.Data.List.Forall2

/-!
# Looks at the state

A look at an open breaker whose cool-down is over makes it half open and so begins a period, but the
next call would have done the same. Between the two nothing can happen that tells such a breaker from
one that was not looked at, since no call was let through while it was open: only the numbers of
their periods differ. So, as long as a cool-down that is over stays over, further looks at the state
change nothing of what calls, other looks and resets come to.
-/

namespace IncidentTriage.Breaker

/-- The breaker with the numbers of its periods shifted. -/
def renumber (b : Breaker) (k : Nat) : Breaker :=
  { b with period := b.period + k }

section Renumbering

variable (b : Breaker) (k : Nat) (now : Float)

lemma moveTo_renumber (state : State) :
    (b.renumber k).moveTo state now = (b.moveTo state now).renumber k := by
  simp only [renumber, moveTo, Nat.add_right_comm]

lemma isDue_renumber : (b.renumber k).isDue now = b.isDue now := rfl

lemma refresh_renumber :
    (b.renumber k).refresh now = ((b.refresh now).1.renumber k, (b.refresh now).2) := by
  rw [refresh, refresh, isDue_renumber]
  split
  · rw [moveTo_renumber]
    rfl
  · rfl

lemma request_renumber :
    (b.renumber k).request now = ⟨(b.request now).period?.map (· + k),
      (b.request now).breaker.renumber k, (b.request now).notices⟩ := by
  simp only [request, refresh_renumber]
  generalize (b.refresh now).1 = refreshed
  have hstate : (refreshed.renumber k).state = refreshed.state := rfl
  rw [hstate]
  cases refreshed.state with
  | opened => rfl
  | closed => rfl
  | halfOpened =>
    have hpermits : (refreshed.renumber k).permits = refreshed.permits := rfl
    have hconfig : (refreshed.renumber k).config = refreshed.config := rfl
    dsimp only
    rw [hpermits, hconfig]
    split <;> rfl

lemma settleClosed_renumber (o : Outcome) :
    (b.renumber k).settleClosed o now =
      (b.settleClosed o now).map fun r => (r.1.renumber k, r.2) := by
  have hpushed : (b.renumber k).pushed o = b.pushed o := rfl
  have hmoved := moveTo_renumber { b with window := b.pushed o } k now .opened
  simp only [settleClosed, hpushed]
  have hconfig : (b.renumber k).config = b.config := rfl
  rw [hconfig]
  split
  · rfl
  · split
    · split
      · simp only [Except.map, ← hmoved]
        rfl
      · rfl
    · rfl

lemma settleTrial_renumber (o : Outcome) :
    (b.renumber k).settleTrial o now =
      ((b.settleTrial o now).1.renumber k, (b.settleTrial o now).2) := by
  have hmoved := moveTo_renumber { b with successes := b.successes + 1 } k now .closed
  have hconfig : (b.renumber k).config = b.config := rfl
  have hsuccesses : (b.renumber k).successes = b.successes := rfl
  simp only [settleTrial, hconfig, hsuccesses]
  split
  · rw [moveTo_renumber]
    rfl
  · split
    · rw [← hmoved]
      rfl
    · rfl

lemma settle_renumber (period : Nat) (failed : Bool) (elapsed : Float) :
    (b.renumber k).settle (period + k) failed elapsed now =
      (b.settle period failed elapsed now).map fun r => (r.1.renumber k, r.2) := by
  have hperiod : period + k ≠ (b.renumber k).period ↔ period ≠ b.period := by
    simp only [renumber]
    omega
  have hconfig : (b.renumber k).config = b.config := rfl
  have hstate : (b.renumber k).state = b.state := rfl
  simp only [settle, hperiod, hconfig, hstate]
  split
  · rfl
  · split
    · rw [settleTrial_renumber]
      rfl
    · exact settleClosed_renumber b k now _

end Renumbering

/-- The same period goes on, or a later one has begun. -/
def Follows (b later : Breaker) : Prop :=
  later.period = b.period ∧ later.state = b.state ∨ b.period < later.period

section Following

variable (b : Breaker) (now : Float)

lemma follows_moveTo (state : State) : b.Follows (b.moveTo state now) :=
  .inr (Nat.lt_succ_self _)

lemma follows_refresh : b.Follows (b.refresh now).1 := by
  rw [refresh]
  split
  · exact b.follows_moveTo now .halfOpened
  · exact .inl ⟨rfl, rfl⟩

/-- A call is turned away, or it is told the number of the present period and the breaker is not
open. -/
lemma request_cases :
    b.request now = ⟨none, (b.refresh now).1, (b.refresh now).2⟩ ∨
      (b.refresh now).1.state ≠ .opened ∧ ∃ permits, b.request now =
        ⟨some (b.refresh now).1.period, { (b.refresh now).1 with permits }, (b.refresh now).2⟩ := by
  simp only [request]
  generalize b.refresh now = refreshed
  rcases refreshed with ⟨⟨config, state, window, openedAt, permits, successes, period⟩, notices⟩
  cases state with
  | opened => exact .inl rfl
  | closed => exact .inr ⟨State.noConfusion, permits, rfl⟩
  | halfOpened =>
    dsimp only
    split
    · exact .inl rfl
    · exact .inr ⟨State.noConfusion, permits + 1, rfl⟩

lemma follows_request : b.Follows (b.request now).breaker := by
  have hrefresh := b.follows_refresh now
  rcases b.request_cases now with hnone | ⟨-, permits, hsome⟩
  · rw [hnone]
    exact hrefresh
  · rw [hsome]
    exact hrefresh

variable {b now}

lemma Settles.follows {later : Breaker} (h : Settles b now later) : b.Follows later := by
  cases h with
  | stays window successes => exact .inl ⟨rfl, rfl⟩
  | opens => exact b.follows_moveTo now .opened
  | closes _ => exact b.follows_moveTo now .closed

/-- An outcome of another period changes nothing. -/
lemma settle_of_ne {period : Nat} (h : period ≠ b.period) (failed : Bool) (elapsed now : Float) :
    b.settle period failed elapsed now = .ok (b, []) := by
  simp [settle, h]

end Following

/-- What an event comes to for whoever causes it. A call that ends, ends as its act did if it can be
told to the breaker. -/
inductive Answer
  | letThrough
  | turnedAway (f : Fault)
  | ended
  | failed (e : RateError)
  | saw (state : State)
  | done

/-- An event of a run, or a further look at the state. -/
inductive Step
  | own (event : Event)
  | look (now : Float)

def Step.event : Step → Event
  | own event => event
  | look now => .read now

def Step.own? : Step → Option Event
  | own event => some event
  | look _ => none

/-- What the clock shows at an event at which a cool-down can end by itself. -/
def Event.looksAt? : Event → Option Float
  | .request now => some now
  | .read now => some now
  | _ => none

namespace Traffic

def answer (t : Traffic) : Event → Answer
  | .request now =>
    let admission := t.breaker.request now
    if admission.period?.isSome then .letThrough else .turnedAway (rejection admission.breaker)
  | .settle index failed elapsed now =>
    match t.inFlight[index]? with
    | none => .done
    | some call =>
      match t.breaker.settle call.period failed elapsed now with
      | .ok _ => .ended
      | .error e => .failed e
  | .read now => .saw (t.breaker.refresh now).1.state
  | .reset _ => .done

/-- What the events of a run come to, in order. -/
def answers (t : Traffic) : List Event → List Answer
  | [] => []
  | event :: events => t.answer event :: (t.after event).answers events

/-- What the events of a run itself come to, further looks being taken in between. -/
def ownAnswers (t : Traffic) : List Step → List Answer
  | [] => []
  | .own event :: steps => t.answer event :: (t.after event).ownAnswers steps
  | .look now :: steps => (t.after (.read now)).ownAnswers steps

/-- A cool-down that is over at one look is over at all later ones. -/
def StaysOver (t : Traffic) (events : List Event) : Prop :=
  ∀ i < events.length,
    let b := ((events.take i).foldl after t).breaker
    ((events.drop i).filterMap Event.looksAt?).Pairwise fun earlier later =>
      b.isDue earlier = true → b.isDue later = true

instance (t : Traffic) (events : List Event) : Decidable (t.StaysOver events) :=
  inferInstanceAs (Decidable (∀ i < events.length, _))

/-- Both calls were told the number of the present period, or neither. -/
structure AlikeCalls (period k : Nat) (call other : Call) : Prop where
  le : call.period ≤ period
  other_le : other.period ≤ period + k
  current : call.period = period ↔ other.period = period + k

/-- The two are told apart by the numbers of their periods only. -/
structure Alike (k : Nat) (t u : Traffic) : Prop where
  breaker : u.breaker = t.breaker.renumber k
  inFlight : List.Forall₂ (AlikeCalls t.breaker.period k) t.inFlight u.inFlight
  opened : t.breaker.state = .opened → ∀ call ∈ t.inFlight, call.period < t.breaker.period

section Alike

variable {k : Nat} {t u : Traffic}

lemma forall₂_cases {α β : Type} {R : α → β → Prop} {l : List α} {l' : List β}
    (h : List.Forall₂ R l l') (i : Nat) :
    l[i]? = none ∧ l'[i]? = none ∨
      ∃ a b, l[i]? = some a ∧ l'[i]? = some b ∧ R a b := by
  rcases Nat.lt_or_ge i l.length with hi | hi
  · have hi' : i < l'.length := h.length_eq ▸ hi
    exact .inr ⟨_, _, List.getElem?_eq_getElem hi, List.getElem?_eq_getElem hi', h.get hi hi'⟩
  · have hi' : l'.length ≤ i := h.length_eq ▸ hi
    exact .inl ⟨List.getElem?_eq_none hi, List.getElem?_eq_none hi'⟩

lemma forall₂_eraseIdx {α β : Type} {R : α → β → Prop} {l : List α} {l' : List β}
    (h : List.Forall₂ R l l') (i : Nat) : List.Forall₂ R (l.eraseIdx i) (l'.eraseIdx i) := by
  rw [List.eraseIdx_eq_take_drop_succ, List.eraseIdx_eq_take_drop_succ]
  exact List.rel_append (List.forall₂_take i h) (List.forall₂_drop (i + 1) h)

lemma AlikeCalls.mono {period later : Nat} {call other : Call} (h : AlikeCalls period k call other)
    (hle : period ≤ later) : AlikeCalls later k call other := by
  obtain ⟨hcall, hother, hcurrent⟩ := h
  exact ⟨by omega, by omega, by omega⟩

lemma le_of_forall₂ {period : Nat} {calls others : List Call}
    (h : List.Forall₂ (AlikeCalls period k) calls others) : ∀ call ∈ calls, call.period ≤ period :=
  ((List.forall₂_and_left _ _).1 (h.imp fun _ _ hcalls => ⟨hcalls.le, hcalls⟩)).1

lemma period_le_of_follows {b later : Breaker} (h : b.Follows later) : b.period ≤ later.period := by
  rcases h with ⟨hperiod, -⟩ | hlt <;> omega

/-- The two stay alike when both breakers go on in the same way and no call is let through. -/
lemma Alike.goOn {t' u' : Traffic} (h : Alike k t u) (hb : u'.breaker = t'.breaker.renumber k)
    (hfollows : t.breaker.Follows t'.breaker)
    (hinFlight : List.Forall₂ (AlikeCalls t.breaker.period k) t'.inFlight u'.inFlight)
    (hsub : ∀ call ∈ t'.inFlight, call ∈ t.inFlight) : Alike k t' u' where
  breaker := hb
  inFlight := hinFlight.imp fun _ _ hcalls => hcalls.mono (period_le_of_follows hfollows)
  opened := by
    intro hopened call hcall
    rcases hfollows with ⟨hperiod, hstate⟩ | hlt
    · rw [hperiod]
      exact h.opened (hstate.symm.trans hopened) call (hsub call hcall)
    · exact Nat.lt_of_le_of_lt (le_of_forall₂ hinFlight call hcall) hlt

lemma Alike.move (h : Alike k t u) {b : Breaker} (hfollows : t.breaker.Follows b) :
    Alike k (t.move b) (u.move (b.renumber k)) :=
  h.goOn rfl hfollows h.inFlight fun _ => id

/-- A call is let through both. -/
lemma Alike.letThrough (h : Alike k t u) (hstate : t.breaker.state ≠ .opened) :
    Alike k (t.letThrough t.breaker.period) (u.letThrough (t.breaker.period + k)) where
  breaker := h.breaker
  inFlight := by
    refine List.rel_append h.inFlight (.cons ?_ .nil)
    exact ⟨Nat.le_refl _, Nat.le_refl _, iff_of_true rfl rfl⟩
  opened := fun hopened => absurd hopened hstate

lemma Alike.request (h : Alike k t u) (now : Float) :
    u.answer (.request now) = t.answer (.request now) ∧
      Alike k (t.after (.request now)) (u.after (.request now)) := by
  have hfollows := t.breaker.follows_request now
  simp only [answer, after, h.breaker, request_renumber]
  rcases t.breaker.request_cases now with hnone | ⟨hstate, permits, hsome⟩
  · rw [hnone] at hfollows ⊢
    exact ⟨rfl, h.move hfollows⟩
  · rw [hsome] at hfollows ⊢
    exact ⟨rfl, (h.move hfollows).letThrough hstate⟩

lemma Alike.settle (h : Alike k t u) (i : Nat) (failed : Bool) (elapsed now : Float) :
    u.answer (.settle i failed elapsed now) = t.answer (.settle i failed elapsed now) ∧
      Alike k (t.after (.settle i failed elapsed now)) (u.after (.settle i failed elapsed now)) := by
  rcases forall₂_cases h.inFlight i with ⟨hnone, hnone'⟩ | ⟨call, other, hcall, hother, hcalls⟩
  · simp only [answer, after, hnone, hnone', h.breaker]
    exact ⟨trivial, h.move (.inl ⟨rfl, rfl⟩)⟩
  · have hsettle : u.breaker.settle other.period failed elapsed now =
        (t.breaker.settle call.period failed elapsed now).map fun r => (r.1.renumber k, r.2) := by
      rw [h.breaker]
      by_cases hcurrent : call.period = t.breaker.period
      · rw [hcalls.current.1 hcurrent, hcurrent, settle_renumber]
      · have hpast : other.period ≠ (t.breaker.renumber k).period := mt hcalls.current.2 hcurrent
        rw [settle_of_ne hcurrent, settle_of_ne hpast]
        rfl
    have herased := forall₂_eraseIdx h.inFlight i
    have hsub : ∀ call ∈ t.inFlight.eraseIdx i, call ∈ t.inFlight :=
      fun _ => List.mem_of_mem_eraseIdx
    simp only [answer, after, hcall, hother, hsettle]
    cases hresult : t.breaker.settle call.period failed elapsed now with
    | ok r => exact ⟨rfl, h.goOn rfl (settles_of_settle hresult).follows herased hsub⟩
    | error e => exact ⟨rfl, h.goOn h.breaker (.inl ⟨rfl, rfl⟩) herased hsub⟩

lemma Alike.read (h : Alike k t u) (now : Float) :
    u.answer (.read now) = t.answer (.read now) ∧
      Alike k (t.after (.read now)) (u.after (.read now)) := by
  simp only [answer, after, h.breaker, refresh_renumber]
  exact ⟨rfl, h.move (t.breaker.follows_refresh now)⟩

lemma Alike.reset (h : Alike k t u) (now : Float) :
    Alike k (t.after (.reset now)) (u.after (.reset now)) := by
  have hmoved := moveTo_renumber t.breaker k now .closed
  refine h.goOn ?_ (t.breaker.follows_moveTo now .closed) h.inFlight fun _ => id
  simp only [after, Breaker.reset, Traffic.move, h.breaker, hmoved]

/-- An event comes to the same in both, and leaves them alike. -/
lemma Alike.step (h : Alike k t u) (event : Event) :
    u.answer event = t.answer event ∧ Alike k (t.after event) (u.after event) := by
  cases event with
  | request now => exact h.request now
  | settle i failed elapsed now => exact h.settle i failed elapsed now
  | read now => exact h.read now
  | reset now => exact ⟨rfl, h.reset now⟩

/-- Only the breakers and the calls in flight count. -/
lemma Alike.congr {t' u' : Traffic} (h : Alike k t u) (hb : t'.breaker = t.breaker)
    (hinFlight : t'.inFlight = t.inFlight) (hb' : u'.breaker = u.breaker)
    (hinFlight' : u'.inFlight = u.inFlight) : Alike k t' u' := by
  obtain ⟨hbreaker, hcalls, hopened⟩ := h
  constructor
  · rw [hb, hb', hbreaker]
  · rw [hb, hinFlight, hinFlight']
    exact hcalls
  · rw [hb, hinFlight]
    exact hopened

/-- A further look at one of the two leaves them alike unless it ends a cool-down. -/
lemma Alike.look (h : Alike k t u) {now : Float} (hdue : t.breaker.isDue now = false) :
    Alike k t (u.after (.read now)) := by
  have hrefresh : t.breaker.refresh now = (t.breaker, []) := by simp [refresh, hdue]
  have hread := (h.read now).2
  simp only [after, hrefresh] at hread
  exact hread.congr rfl rfl rfl rfl

end Alike

/-- The cool-down of the breaker has ended. -/
def cooled (t : Traffic) : Traffic :=
  { t with breaker := t.breaker.moveTo .halfOpened t.breaker.openedAt }

/-- After its cool-down was over, the breaker of `u` has been looked at and that of `t` has not. All
the looks to come find that it is over. -/
structure Ahead (k : Nat) (t u : Traffic) (looks : List Float) : Prop where
  opened : t.breaker.state = .opened
  past : ∀ call ∈ t.inFlight, call.period < t.breaker.period
  alike : Alike k t.cooled u
  due : ∀ now ∈ looks, t.breaker.isDue now = true

section Ahead

variable {k : Nat} {t u : Traffic} {now : Float}

lemma refresh_of_isDue (hdue : t.breaker.isDue now = true) :
    (t.breaker.refresh now).1 = t.cooled.breaker := by
  rw [refresh, if_pos hdue]
  rfl

lemma Alike.ahead (h : Alike k t u) (hdue : t.breaker.isDue now = true) {looks : List Float}
    (hlooks : ∀ later ∈ looks, t.breaker.isDue later = true) :
    Ahead k t (u.after (.read now)) looks where
  opened := by
    rw [isDue, Bool.and_eq_true, beq_iff_eq] at hdue
    exact hdue.1
  past := by
    rw [isDue, Bool.and_eq_true, beq_iff_eq] at hdue
    exact h.opened hdue.1
  alike := by
    have hread := (h.read now).2
    exact hread.congr (refresh_of_isDue hdue).symm rfl rfl rfl
  due := hlooks

lemma Ahead.look {looks : List Float} (h : Ahead k t u looks) (now : Float) :
    Ahead k t (u.after (.read now)) looks :=
  ⟨h.opened, h.past, h.alike.look rfl, h.due⟩

/-- A look that finds the cool-down over comes to what it would come to if it had been found over
before. -/
lemma request_of_isDue (hdue : t.breaker.isDue now = true) :
    t.answer (.request now) = t.cooled.answer (.request now) ∧
      (t.after (.request now)).breaker = (t.cooled.after (.request now)).breaker ∧
      (t.after (.request now)).inFlight = (t.cooled.after (.request now)).inFlight := by
  obtain ⟨hperiod, hbreaker⟩ := t.breaker.request_refresh now
  rw [refresh_of_isDue hdue] at hperiod hbreaker
  simp only [answer, after, hperiod, hbreaker]
  cases (t.breaker.request now).period? with
  | none => exact ⟨trivial, rfl, rfl⟩
  | some period => exact ⟨trivial, rfl, rfl⟩

lemma read_of_isDue (hdue : t.breaker.isDue now = true) :
    t.answer (.read now) = t.cooled.answer (.read now) ∧
      (t.after (.read now)).breaker = (t.cooled.after (.read now)).breaker := by
  simp only [answer, after, refresh_of_isDue hdue]
  exact ⟨rfl, rfl⟩

variable {looks : List Float}

lemma Ahead.request (h : Ahead k t u looks) (hdue : t.breaker.isDue now = true) :
    u.answer (.request now) = t.answer (.request now) ∧
      Alike k (t.after (.request now)) (u.after (.request now)) := by
  obtain ⟨hanswer, hbreaker, hinFlight⟩ := request_of_isDue hdue
  obtain ⟨hsame, halike⟩ := h.alike.request now
  exact ⟨hsame.trans hanswer.symm, halike.congr hbreaker hinFlight rfl rfl⟩

lemma Ahead.read (h : Ahead k t u looks) (hdue : t.breaker.isDue now = true) :
    u.answer (.read now) = t.answer (.read now) ∧
      Alike k (t.after (.read now)) (u.after (.read now)) := by
  obtain ⟨hanswer, hbreaker⟩ := read_of_isDue hdue
  obtain ⟨hsame, halike⟩ := h.alike.read now
  exact ⟨hsame.trans hanswer.symm, halike.congr hbreaker rfl rfl rfl⟩

/-- No call in flight was let through while the breaker was open, so what ends changes neither. -/
lemma Ahead.settle (h : Ahead k t u looks) (i : Nat) (failed : Bool) (elapsed now : Float) :
    u.answer (.settle i failed elapsed now) = t.answer (.settle i failed elapsed now) ∧
      Ahead k (t.after (.settle i failed elapsed now)) (u.after (.settle i failed elapsed now))
        looks := by
  rcases forall₂_cases h.alike.inFlight i with
    ⟨hnone, hnone'⟩ | ⟨call, other, hcall, hother, hcalls⟩
  · change t.inFlight[i]? = none at hnone
    simp only [answer, after, hnone, hnone']
    exact ⟨trivial, h.opened, h.past, h.alike.congr rfl rfl rfl rfl, h.due⟩
  · change t.inFlight[i]? = some call at hcall
    have hpast : call.period < t.breaker.period := h.past call (List.mem_of_getElem? hcall)
    have hother' : other.period ≠ u.breaker.period := by
      have hcurrent := hcalls.current
      rw [h.alike.breaker]
      simp only [cooled, moveTo, renumber] at hcurrent ⊢
      omega
    have herased := forall₂_eraseIdx h.alike.inFlight i
    simp only [answer, after, hcall, hother, settle_of_ne hother',
      settle_of_ne (Nat.ne_of_lt hpast)]
    refine ⟨trivial, h.opened, ?_, ?_, h.due⟩
    · exact fun call hcall => h.past call (List.mem_of_mem_eraseIdx hcall)
    · exact h.alike.goOn h.alike.breaker (.inl ⟨rfl, rfl⟩) herased
        fun call => List.mem_of_mem_eraseIdx

/-- A reset makes up for what the breaker of `t` has missed. -/
lemma Ahead.reset (h : Ahead k t u looks) (now : Float) :
    Alike (k + 1) (t.after (.reset now)) (u.after (.reset now)) := by
  have hb := h.alike.breaker
  constructor
  case breaker =>
    simp only [after, Breaker.reset, Traffic.move, hb, cooled, renumber, moveTo]
    simp
    omega
  case inFlight =>
    have hcalls := (List.forall₂_and_left _ _).2 ⟨h.past, h.alike.inFlight⟩
    refine hcalls.imp fun call other hcalls => ?_
    obtain ⟨hpast, -, hother, -⟩ := hcalls
    change other.period ≤ t.breaker.period + 1 + k at hother
    change AlikeCalls (t.breaker.period + 1) (k + 1) call other
    exact ⟨by omega, by omega, by omega⟩
  case opened => exact State.noConfusion

end Ahead

/-- What has been looked at further cannot be told from what has not, nor will it be by the looks to
come. -/
inductive Related (t u : Traffic) (looks : List Float) : Prop
  | alike (k : Nat) (h : Alike k t u)
  | ahead (k : Nat) (h : Ahead k t u looks)

lemma Related.step {t u : Traffic} {event : Event} {looks : List Float}
    (h : Related t u (event.looksAt?.toList ++ looks)) :
    u.answer event = t.answer event ∧ Related (t.after event) (u.after event) looks := by
  cases h with
  | alike k h => exact (h.step event).imp_right (.alike k)
  | ahead k h => cases event with
    | request now =>
      have hdue := h.due now List.mem_cons_self
      exact (h.request hdue).imp_right (.alike k)
    | read now =>
      have hdue := h.due now List.mem_cons_self
      exact (h.read hdue).imp_right (.alike k)
    | settle i failed elapsed now => exact (h.settle i failed elapsed now).imp_right (.ahead k)
    | reset now => exact ⟨rfl, .alike (k + 1) (h.reset now)⟩

lemma Related.look {t u : Traffic} {now : Float} {looks : List Float} (h : Related t u (now :: looks))
    (hover : ∀ later ∈ looks, u.breaker.isDue now = true → u.breaker.isDue later = true) :
    Related t (u.after (.read now)) looks := by
  cases h with
  | alike k h =>
    rw [h.breaker] at hover
    cases hdue : t.breaker.isDue now with
    | true => exact .ahead k (h.ahead hdue fun later hlater => hover later hlater hdue)
    | false => exact .alike k (h.look hdue)
  | ahead k h =>
    have hlook := h.look now
    exact .ahead k { hlook with due := fun later hlater => h.due later (List.mem_cons_of_mem _ hlater) }

lemma StaysOver.tail {t : Traffic} {event : Event} {events : List Event}
    (h : t.StaysOver (event :: events)) : (t.after event).StaysOver events :=
  fun i hi => h (i + 1) (Nat.succ_lt_succ hi)

lemma StaysOver.head {t : Traffic} {now : Float} {events : List Event}
    (h : t.StaysOver (.read now :: events)) :
    ∀ later ∈ events.filterMap Event.looksAt?,
      t.breaker.isDue now = true → t.breaker.isDue later = true :=
  (List.pairwise_cons.1 (h 0 (Nat.succ_pos _))).1

lemma ownAnswers_eq {t u : Traffic} {steps : List Step}
    (h : Related t u ((steps.map Step.event).filterMap Event.looksAt?))
    (hover : u.StaysOver (steps.map Step.event)) :
    u.ownAnswers steps = t.answers (steps.filterMap Step.own?) := by
  induction steps generalizing t u with
  | nil => rfl
  | cons step steps ih =>
    rw [List.map_cons] at h hover
    cases step with
    | own event =>
      have hlooks : (event :: steps.map Step.event).filterMap Event.looksAt? =
          event.looksAt?.toList ++ (steps.map Step.event).filterMap Event.looksAt? := by
        cases event <;> rfl
      obtain ⟨hanswer, hrelated⟩ := Related.step (hlooks ▸ h)
      have hrest := ih hrelated hover.tail
      rw [ownAnswers, hanswer, hrest]
      rfl
    | look now => exact ih (h.look hover.head) hover.tail

/-- Wherever and however often the state of a breaker is looked at further, the calls, the looks and
the resets of a run come to the same, as long as a cool-down that is over at one look is over at all
later ones. -/
theorem further_looks_change_nothing (c : Config) (steps : List Step)
    (hover : StaysOver { breaker := { config := c } } (steps.map Step.event)) :
    ownAnswers { breaker := { config := c } } steps =
      answers { breaker := { config := c } } (steps.filterMap Step.own?) := by
  refine ownAnswers_eq (.alike 0 ?_) hover
  exact ⟨rfl, .nil, State.noConfusion⟩

theorem further_looks_change_nothing_while_cooling :
    let t : Traffic := { breaker := { config := { name := "answers", windowSize := 1, minimumCalls := 1 } } }
    let steps : List Step := [.own (.request 0.0), .own (.request 1.0),
      .own (.settle 0 true 2.0 2.0), .look 10.0, .look 32.0, .own (.settle 0 false 32.0 33.0),
      .own (.request 40.0), .own (.read 41.0)]
    t.StaysOver (steps.map Step.event) ∧
      t.ownAnswers steps = t.answers [.request 0.0, .request 1.0, .settle 0 true 2.0 2.0,
        .settle 0 false 32.0 33.0, .request 40.0, .read 41.0] := by
  intro t steps
  have hover : t.StaysOver (steps.map Step.event) := by decide +kernel
  exact ⟨hover, further_looks_change_nothing _ steps hover⟩

end Traffic

end IncidentTriage.Breaker

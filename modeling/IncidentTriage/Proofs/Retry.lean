import IncidentTriage.Proofs.Raises
import IncidentTriage.Retry

/-!
# How retried calls end

An attempt is followed by a pause and the next attempt, or by giving up, when its fault is worth
another try; any other fault ends the call. As long as nothing keeps a call from pausing, and its
fallback answers, it raises only those faults of its act that are not worth another try.
-/

namespace IncidentTriage.RetryPolicy

variable {ω α : Type} {p : RetryPolicy} {sleep : Float → Act ω Unit} {name : Text.Wide}
  {act : Act ω α} {fallback : Option (Fault → Act ω α)}

/-- Nothing keeps the policy from pausing: every wait before another attempt is defined, and the
sleep comes to its end. -/
structure Unhindered (p : RetryPolicy) (sleep : Float → Act ω Unit) : Prop where
  waits : ∀ attempt : Nat, 1 ≤ attempt → attempt < p.maxAttempts →
    ∃ wait, p.waitFor attempt = .ok wait
  sleeps : ∀ wait, (sleep wait).Returns

/-- A policy of one attempt has nothing to wait for. -/
lemma unhindered_of_one (h : p.maxAttempts = 1) (hsleep : ∀ wait, (sleep wait).Returns) :
    p.Unhindered sleep := by
  refine ⟨fun attempt hpos hlt => ?_, hsleep⟩
  omega

/-- The first wait is defined whatever the backoff, as its power is the zeroth. -/
lemma exists_waitFor_one (p : RetryPolicy) : ∃ wait, p.waitFor 1 = .ok wait := by
  have hzero : Decimal.wholePart? (Float.ofInt (1 - 1)) = some 0 := by decide +kernel
  rw [waitFor, Decimal.power, hzero]
  exact ⟨_, rfl⟩

lemma unhindered_of_two (h : p.maxAttempts = 2) (hsleep : ∀ wait, (sleep wait).Returns) :
    p.Unhindered sleep := by
  refine ⟨fun attempt hpos hlt => ?_, hsleep⟩
  have hfirst : attempt = 1 := by omega
  rw [hfirst]
  exact p.exists_waitFor_one

lemma exists_perform_pauseAfter (sleep : Float → Act ω Unit) (name : Text.Wide) {attempt : Nat}
    {wait : Float} (hwait : p.waitFor attempt = .ok wait) (f : Fault) (scene : Scene ω) :
    ∃ journal, (p.pauseAfter sleep name attempt f).perform scene =
      (sleep wait).perform ⟨journal, scene.world⟩ := by
  unfold RetryPolicy.pauseAfter
  rw [hwait]
  exact ⟨_, rfl⟩

lemma Unhindered.pauseAfter (h : p.Unhindered sleep) {attempt : Nat} (hpos : 1 ≤ attempt)
    (hlt : attempt < p.maxAttempts) (f : Fault) : (p.pauseAfter sleep name attempt f).Returns := by
  obtain ⟨wait, hwait⟩ := h.waits attempt hpos hlt
  intro scene
  obtain ⟨journal, hpause⟩ := exists_perform_pauseAfter sleep name hwait f scene
  rw [hpause]
  exact h.sleeps wait _

/-- What follows the end of an attempt that `more` may follow. -/
def following (p : RetryPolicy) (sleep : Float → Act ω Unit) (name : Text.Wide) (act : Act ω α)
    (fallback : Option (Fault → Act ω α)) (attempt : Nat) : Nat → Fault → Act ω α
  | 0, f => giveUp name attempt fallback f
  | more + 1, f => do
    p.pauseAfter sleep name attempt f
    p.attemptsFrom sleep name act fallback (attempt + 1) more

lemma attemptsFrom_eq (attempt more : Nat) :
    p.attemptsFrom sleep name act fallback attempt more =
      tryCatch act fun f =>
        if p.isRetried f then p.following sleep name act fallback attempt more f else throw f := by
  refine Act.ext fun scene => ?_
  rw [attemptsFrom, Act.perform_bind, Act.perform_outcome, Act.continued_ok, Act.perform_tryCatch]
  rcases act.perform scene with ⟨f | a, s⟩
  · rw [Act.handled]
    cases more <;> rfl
  · rfl

/-- An attempt that ends in no fault worth another try ends them all. -/
lemma perform_attemptsFrom_of_settled {attempt more : Nat} {scene after : Scene ω}
    {e : Except Fault α} (h : act.perform scene = (e, after))
    (he : ∀ f, e = .error f → p.isRetried f = false) :
    (p.attemptsFrom sleep name act fallback attempt more).perform scene = (e, after) := by
  rw [attemptsFrom_eq, Act.perform_tryCatch, h]
  cases e with
  | ok a => rfl
  | error f =>
    rw [Act.handled, he f rfl]
    rfl

lemma perform_call_of_ok {scene after : Scene ω} {a : α}
    (h : act.perform scene = (.ok a, after)) :
    (p.call sleep name act fallback).perform scene = (.ok a, after) :=
  perform_attemptsFrom_of_settled h (by simp)

/-- A fault of the first attempt that is not worth another try ends the call. -/
lemma perform_call_of_not_retried {scene after : Scene ω} {f : Fault}
    (h : act.perform scene = (.error f, after)) (hf : p.isRetried f = false) :
    (p.call sleep name act fallback).perform scene = (.error f, after) := by
  refine perform_attemptsFrom_of_settled h fun g hg => ?_
  rw [Except.error.injEq] at hg
  exact hg ▸ hf

variable {P : Fault → Prop} {answer : Fault → Act ω α}

lemma raisesOnly_attempt {attempt more : Nat} (hact : act.RaisesOnly P)
    (hnext : ∀ f, (p.following sleep name act fallback attempt more f).RaisesOnly
      fun f => P f ∧ p.isRetried f = false) :
    (p.attemptsFrom sleep name act fallback attempt more).RaisesOnly
      fun f => P f ∧ p.isRetried f = false := by
  rw [attemptsFrom_eq]
  refine hact.tryCatch fun f hf => ?_
  cases hretried : p.isRetried f with
  | true => exact hnext f
  | false => exact Act.raisesOnly_throw ⟨hf, hretried⟩

lemma raisesOnly_attemptsFrom (h : p.Unhindered sleep) (hact : act.RaisesOnly P)
    (hanswer : ∀ f, (answer f).Returns) {attempt more : Nat} (hpos : 1 ≤ attempt)
    (hmore : attempt + more ≤ p.maxAttempts) :
    (p.attemptsFrom sleep name act (some answer) attempt more).RaisesOnly
      fun f => P f ∧ p.isRetried f = false := by
  induction more generalizing attempt with
  | zero =>
    refine raisesOnly_attempt hact fun f => ?_
    have hgiveUp : (giveUp name attempt (some answer) f).Returns :=
      (Act.returns_note _ _ _).bind fun _ => hanswer f
    exact hgiveUp.raisesOnly
  | succ more ih =>
    refine raisesOnly_attempt hact fun f => ?_
    have hpause : (p.pauseAfter sleep name attempt f).Returns :=
      h.pauseAfter hpos (by omega) f
    exact hpause.raisesOnly.bind fun _ => ih (by omega) (by omega)

/-- A call that is unhindered, and whose fallback answers, raises only faults of its act that are
not worth another try. -/
lemma raisesOnly_call (h : p.Unhindered sleep) (hact : act.RaisesOnly P)
    (hanswer : ∀ f, (answer f).Returns) :
    (p.call sleep name act (some answer)).RaisesOnly fun f => P f ∧ p.isRetried f = false := by
  have hpos := p.maxAttempts_pos
  exact raisesOnly_attemptsFrom h hact hanswer (Nat.le_refl 1) (by omega)

end IncidentTriage.RetryPolicy

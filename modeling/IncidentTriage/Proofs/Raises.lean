import IncidentTriage.Proofs.Act

/-!
# What acts raise

An act raises only certain faults if it ends with no others, whatever the scene. What is put together
from acts raises only what they raise, less what is handled.
-/

namespace IncidentTriage.Act

variable {ω α β : Type} {P Q : Fault → Prop}

lemma ext {act other : Act ω α} (h : ∀ scene, act.perform scene = other.perform scene) :
    act = other :=
  funext h

def RaisesOnly (P : Fault → Prop) (act : Act ω α) : Prop :=
  ∀ scene f after, act.perform scene = (.error f, after) → P f

/-- The act ends with a value, whatever the scene. -/
def Returns (act : Act ω α) : Prop :=
  ∀ scene, ∃ a after, act.perform scene = (.ok a, after)

lemma returns_iff {act : Act ω α} : act.Returns ↔ act.RaisesOnly fun _ => False := by
  constructor
  · intro h scene f after hf
    obtain ⟨a, _, ha⟩ := h scene
    simp [ha] at hf
  · intro h scene
    rcases hend : act.perform scene with ⟨f | a, after⟩
    · exact (h scene f after hend).elim
    · exact ⟨a, after, rfl⟩

lemma RaisesOnly.mono {act : Act ω α} (h : act.RaisesOnly P) (hPQ : ∀ f, P f → Q f) :
    act.RaisesOnly Q :=
  fun scene f after hf => hPQ f (h scene f after hf)

lemma Returns.raisesOnly {act : Act ω α} (h : act.Returns) : act.RaisesOnly P :=
  (returns_iff.1 h).mono fun _ hf => hf.elim

lemma returns_pure (a : α) : (pure a : Act ω α).Returns :=
  fun scene => ⟨a, scene, rfl⟩

lemma returns_note (level : Level) (author : String) (text : Text.Wide) :
    (note level author text : Act ω Unit).Returns :=
  fun _ => ⟨(), _, rfl⟩

lemma raisesOnly_throw {f : Fault} (h : P f) : (throw f : Act ω α).RaisesOnly P := by
  intro scene f' after hf
  rw [perform_throw, Prod.mk.injEq, Except.error.injEq] at hf
  exact hf.1 ▸ h

lemma raisesOnly_ofOutcome {r : Except Fault α} (h : ∀ f, r = .error f → P f) :
    (ofOutcome r : Act ω α).RaisesOnly P := by
  intro scene f after hf
  rw [perform_ofOutcome, Prod.mk.injEq] at hf
  exact h f hf.1

/-- What follows an act need only be looked at after the ends that the act can have. -/
lemma RaisesOnly.bind_of_end {act : Act ω α} {next : α → Act ω β} (h : act.RaisesOnly P)
    (hnext : ∀ scene a s, act.perform scene = (.ok a, s) →
      ∀ f after, (next a).perform s = (.error f, after) → P f) : (act >>= next).RaisesOnly P := by
  intro scene f after hf
  rw [perform_bind] at hf
  rcases hend : act.perform scene with ⟨g | a, s⟩
  · rw [hend, continued_error, Prod.mk.injEq, Except.error.injEq] at hf
    exact hf.1 ▸ h scene g s hend
  · rw [hend, continued_ok] at hf
    exact hnext scene a s hend f after hf

lemma RaisesOnly.bind {act : Act ω α} {next : α → Act ω β} (h : act.RaisesOnly P)
    (hnext : ∀ a, (next a).RaisesOnly P) : (act >>= next).RaisesOnly P :=
  h.bind_of_end fun _ a s _ => hnext a s

lemma Returns.bind {act : Act ω α} {next : α → Act ω β} (h : act.Returns)
    (hnext : ∀ a, (next a).Returns) : (act >>= next).Returns :=
  returns_iff.2 ((returns_iff.1 h).bind fun a => returns_iff.1 (hnext a))

lemma returns_noting (level : Level) (author : String) (text : Text.Wide) (a : α) :
    (do note level author text; return a : Act ω α).Returns :=
  (returns_note level author text).bind fun _ => returns_pure a

lemma returns_bind_iff {act : Act ω α} {next : α → Act ω β} (hnext : ∀ a, (next a).Returns) :
    (act >>= next).Returns ↔ act.Returns := by
  constructor
  · intro h scene
    obtain ⟨b, after, hb⟩ := h scene
    rcases hend : act.perform scene with ⟨f | a, s⟩
    · simp [hend] at hb
    · exact ⟨a, s, rfl⟩
  · intro h
    exact h.bind hnext

/-- What becomes of an act's end when its faults are handled. -/
def handled (handle : Fault → Act ω α) : Except Fault α × Scene ω → Except Fault α × Scene ω
  | (.ok a, scene) => (.ok a, scene)
  | (.error f, scene) => (handle f).perform scene

lemma perform_tryCatch (act : Act ω α) (handle : Fault → Act ω α) (scene : Scene ω) :
    (tryCatch act handle).perform scene = handled handle (act.perform scene) := by
  unfold perform
  rw [ExceptT.run_tryCatch, StateT.run_bind]
  rcases ExceptT.run act |>.run scene with ⟨_ | _, _⟩ <;> rfl

lemma RaisesOnly.tryCatch {act : Act ω α} {handle : Fault → Act ω α} (h : act.RaisesOnly P)
    (hhandle : ∀ f, P f → (handle f).RaisesOnly Q) : (tryCatch act handle).RaisesOnly Q := by
  intro scene f after hf
  rw [perform_tryCatch] at hf
  rcases hend : act.perform scene with ⟨g | a, s⟩
  · rw [hend, handled] at hf
    exact hhandle g (h scene g s hend) s f after hf
  · simp [hend, handled] at hf

end IncidentTriage.Act

import IncidentTriage.Act
import Mathlib.Tactic.Common

/-!
# What acts do

The end of an act and the scene it leaves, read off its parts. An act is performed step by step: a
fault ends it where it stands, and the scene keeps everything done before.
-/

namespace IncidentTriage.Act

variable {ω ς α β : Type}

/-- What follows the end of an act. -/
def continued (next : α → Act ω β) : Except Fault α × Scene ω → Except Fault β × Scene ω
  | (.ok a, scene) => (next a).perform scene
  | (.error f, scene) => (.error f, scene)

@[simp] lemma continued_ok (next : α → Act ω β) (a : α) (scene : Scene ω) :
    continued next (.ok a, scene) = (next a).perform scene := rfl

@[simp] lemma continued_error (next : α → Act ω β) (f : Fault) (scene : Scene ω) :
    continued next (.error f, scene) = (.error f, scene) := rfl

@[simp] lemma perform_pure (a : α) (scene : Scene ω) :
    (pure a : Act ω α).perform scene = (.ok a, scene) := rfl

@[simp] lemma perform_throw (f : Fault) (scene : Scene ω) :
    (throw f : Act ω α).perform scene = (.error f, scene) := rfl

@[simp] lemma perform_bind (act : Act ω α) (next : α → Act ω β) (scene : Scene ω) :
    (act >>= next).perform scene = continued next (act.perform scene) := by
  unfold perform
  rw [ExceptT.run_bind, StateT.run_bind]
  rcases ExceptT.run act |>.run scene with ⟨_ | _, _⟩ <;> rfl

@[simp] lemma perform_map (f : α → β) (act : Act ω α) (scene : Scene ω) :
    (f <$> act).perform scene = ((act.perform scene).1.map f, (act.perform scene).2) := by
  rw [← bind_pure_comp, perform_bind]
  rcases act.perform scene with ⟨_ | _, _⟩ <;> rfl

@[simp] lemma perform_world (scene : Scene ω) :
    (world : Act ω ω).perform scene = (.ok scene.world, scene) := rfl

@[simp] lemma perform_setWorld (w : ω) (scene : Scene ω) :
    (setWorld w).perform scene = (.ok (), { scene with world := w }) := rfl

@[simp] lemma perform_modifyWorld (f : ω → ω) (scene : Scene ω) :
    (modifyWorld f).perform scene = (.ok (), { scene with world := f scene.world }) := rfl

@[simp] lemma perform_record (entries : List Entry) (scene : Scene ω) :
    (record entries).perform scene = (.ok (), { scene with journal := scene.journal ++ entries }) :=
  rfl

@[simp] lemma perform_note (level : Level) (author : String) (text : Text.Wide) (scene : Scene ω) :
    (note level author text).perform scene =
      (.ok (), { scene with journal := scene.journal ++ [{ level, author, text }] }) := rfl

@[simp] lemma perform_fail (kind : Fault.Kind) (text : String) (scene : Scene ω) :
    (fail kind text : Act ω α).perform scene = (.error ⟨kind, text⟩, scene) := rfl

@[simp] lemma perform_outcome (act : Act ω α) (scene : Scene ω) :
    act.outcome.perform scene = (.ok (act.perform scene).1, (act.perform scene).2) := rfl

@[simp] lemma perform_ofOutcome (r : Except Fault α) (scene : Scene ω) :
    (ofOutcome r : Act ω α).perform scene = (r, scene) := by
  cases r <;> rfl

/-- What becomes of an act's end when faults that can be met are handled. -/
def rescued (handle : Fault → Act ω α) : Except Fault α × Scene ω → Except Fault α × Scene ω
  | (.ok a, scene) => (.ok a, scene)
  | (.error f, scene) => if f.isCatchable then (handle f).perform scene else (.error f, scene)

@[simp] lemma rescued_ok (handle : Fault → Act ω α) (a : α) (scene : Scene ω) :
    rescued handle (.ok a, scene) = (.ok a, scene) := rfl

lemma rescued_error (handle : Fault → Act ω α) (f : Fault) (scene : Scene ω) :
    rescued handle (.error f, scene) =
      if f.isCatchable then (handle f).perform scene else (.error f, scene) := rfl

@[simp] lemma perform_rescue (act : Act ω α) (handle : Fault → Act ω α) (scene : Scene ω) :
    (act.rescue handle).perform scene = rescued handle (act.perform scene) := by
  unfold rescue perform
  rw [ExceptT.run_tryCatch, StateT.run_bind]
  rcases ExceptT.run act |>.run scene with ⟨f | _, s⟩
  · change (if f.isCatchable then handle f else throw f : Act ω α).perform s = _
    rw [rescued_error]
    split <;> rfl
  · rfl

@[simp] lemma perform_outside (act : Act ω α) (scene : Scene (ς × ω)) :
    (outside act).perform scene =
      ((act.perform ⟨scene.journal, scene.world.2⟩).1,
        ⟨(act.perform ⟨scene.journal, scene.world.2⟩).2.journal,
          (scene.world.1, (act.perform ⟨scene.journal, scene.world.2⟩).2.world)⟩) := rfl

@[simp] lemma perform_own (scene : Scene (ς × ω)) :
    (own : Act (ς × ω) ς).perform scene = (.ok scene.world.1, scene) := rfl

@[simp] lemma perform_setOwn (s : ς) (scene : Scene (ς × ω)) :
    (setOwn s).perform scene = (.ok (), { scene with world := (s, scene.world.2) }) := rfl

@[simp] lemma perform_modifyOwn (f : ς → ς) (scene : Scene (ς × ω)) :
    (modifyOwn f).perform scene =
      (.ok (), { scene with world := (f scene.world.1, scene.world.2) }) := rfl

@[simp] lemma perform_ite {p : Prop} [Decidable p] (act other : Act ω α) (scene : Scene ω) :
    (if p then act else other).perform scene =
      if p then act.perform scene else other.perform scene := by
  split <;> rfl

/-- A note that is made only sometimes changes nothing but the journal. -/
lemma perform_noteIf (p : Prop) [Decidable p] (level : Level) (author : String)
    (text : Text.Wide) (act : Act ω α) (scene : Scene ω) :
    ∃ journal, (if p then do note level author text; act else act).perform scene =
      act.perform ⟨journal, scene.world⟩ := by
  split
  · exact ⟨_, rfl⟩
  · exact ⟨scene.journal, rfl⟩

end IncidentTriage.Act

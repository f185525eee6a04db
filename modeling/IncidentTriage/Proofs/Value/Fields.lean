import IncidentTriage.Value.Basic
import Mathlib.Tactic.Common

/-!
# Fields that are set

After a field is set it reads as what it was set to, and every other field reads as before.
-/

namespace IncidentTriage.Fields

variable {τ : Type} [DecidableEq τ]

lemma find?_map_set (fields : FieldsOf τ) (name other : τ) (value : ValueOf τ) :
    (fields.map fun f => if f.1 = name then (name, value) else f).find? (·.1 = other) =
      (fields.find? (·.1 = other)).map fun f => if f.1 = name then (name, value) else f := by
  rw [List.find?_map]
  congr 1
  congr 1
  funext f
  by_cases h : f.1 = name <;> simp [h]

lemma get?_set (fields : FieldsOf τ) (name other : τ) (value : ValueOf τ) :
    get? (set fields name value) other = if other = name then some value else get? fields other := by
  unfold set get?
  by_cases hany : fields.any (·.1 = name)
  · rw [if_pos hany, find?_map_set, Option.map_map]
    by_cases ho : other = name
    · subst ho
      obtain ⟨f, hf⟩ : ∃ f, fields.find? (·.1 = other) = some f := by
        rw [← Option.isSome_iff_exists, List.find?_isSome]
        simpa using hany
      have := List.find?_some hf
      simp_all
    · rw [if_neg ho]
      cases hf : fields.find? (·.1 = other) with
      | none => rfl
      | some f =>
        have hname : f.1 = other := by simpa using List.find?_some hf
        simp [hname, ho]
  · rw [if_neg hany, List.find?_append]
    by_cases ho : other = name
    · subst ho
      have hnone : fields.find? (·.1 = other) = none := by
        rw [List.find?_eq_none]
        exact fun f hf heq => hany (List.any_eq_true.2 ⟨f, hf, heq⟩)
      simp [hnone]
    · have hne : name ≠ other := fun h => ho h.symm
      simp [ho, hne]

@[simp] lemma get_set_self (fields : FieldsOf τ) (name : τ) (value : ValueOf τ) :
    get (set fields name value) name = value := by
  rw [get, get?_set, if_pos rfl, Option.getD_some]

lemma get_set_of_ne (fields : FieldsOf τ) {name other : τ} (value : ValueOf τ) (h : other ≠ name) :
    get (set fields name value) other = get fields other := by
  rw [get, get?_set, if_neg h, get]

end IncidentTriage.Fields

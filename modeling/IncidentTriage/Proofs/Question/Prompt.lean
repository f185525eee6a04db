import IncidentTriage.Question.Prompt
import Mathlib.Data.List.Forall2
import Mathlib.Tactic.Common

/-!
# What prompts and answers show

Texts are shown in a text if they stand in it one after the other, each as it is, whatever they hold.
A prompt shows the context and the question, and the answer that stands in for the model's shows the
text of every chunk.
-/

namespace IncidentTriage.Question

/-- The texts stand in the characters one after the other, each as it is. -/
def ShowsInOrder : List String → List Char → Prop
  | [], _ => True
  | s :: rest, cs => ∃ before after, cs = before ++ s.toList ++ after ∧ ShowsInOrder rest after

lemma ShowsInOrder.append_left {texts : List String} {cs : List Char} (h : ShowsInOrder texts cs)
    (before : List Char) : ShowsInOrder texts (before ++ cs) := by
  cases texts with
  | nil => trivial
  | cons s rest =>
    obtain ⟨first, after, rfl, hrest⟩ := h
    exact ⟨before ++ first, after, by simp, hrest⟩

lemma ShowsInOrder.append_right {texts : List String} {cs : List Char} (h : ShowsInOrder texts cs)
    (after : List Char) : ShowsInOrder texts (cs ++ after) := by
  induction texts generalizing cs with
  | nil => trivial
  | cons s rest ih =>
    obtain ⟨before, middle, rfl, hrest⟩ := h
    exact ⟨before, middle ++ after, by simp, ih hrest⟩

/-- The text stands somewhere in the part. -/
def IsPartOf (s part : String) : Prop :=
  s.toList <:+: part.toList

lemma isPartOf_refl (s : String) : IsPartOf s s :=
  List.infix_refl s.toList

lemma isPartOf_append (before s : String) : IsPartOf s (before ++ s) :=
  ⟨before.toList, [], by simp⟩

lemma isPartOf_between (before s after : String) : IsPartOf s (before ++ s ++ after) :=
  ⟨before.toList, after.toList, by simp⟩

lemma exists_intercalate_cons (separator part : String) (parts : List String) :
    ∃ gap, (separator.intercalate (part :: parts)).toList =
      part.toList ++ gap ++ (separator.intercalate parts).toList := by
  cases parts with
  | nil => exact ⟨[], by simp⟩
  | cons next rest =>
    refine ⟨separator.toList, ?_⟩
    rw [String.intercalate_cons_cons]
    simp

/-- Parts that are put side by side show, in order, what stands in some of them. -/
lemma showsInOrder_intercalate (separator : String) {texts parts : List String}
    (h : List.SublistForall₂ IsPartOf texts parts) :
    ShowsInOrder texts (separator.intercalate parts).toList := by
  induction h with
  | nil => trivial
  | @cons s part texts parts hs _ ih =>
    obtain ⟨gap, hgap⟩ := exists_intercalate_cons separator part parts
    obtain ⟨before, after, hpart⟩ := hs
    refine ⟨before, after ++ gap ++ (separator.intercalate parts).toList, ?_, ih.append_left _⟩
    rw [hgap, ← hpart]
    simp
  | @cons_right part texts parts _ ih =>
    obtain ⟨gap, hgap⟩ := exists_intercalate_cons separator part parts
    rw [hgap]
    exact ih.append_left _

lemma sublistForall₂_annotate (docs : List Document) :
    List.SublistForall₂ IsPartOf (docs.map Document.text) (docs.map annotate) := by
  induction docs with
  | nil => exact .nil
  | cons d docs ih => exact .cons (isPartOf_append (heading d) d.text) ih

lemma context_shows (docs : List Document) :
    ShowsInOrder (docs.map Document.text) (context docs).toList :=
  showsInOrder_intercalate _ (sublistForall₂_annotate docs)

/-- A prompt shows the whole context and then the question. -/
theorem prompt_shows (services : List String) (q : Classified) (context question : String) :
    ShowsInOrder [context, question] (prompt services q context question).toList := by
  refine showsInOrder_intercalate _ ?_
  iterate 15 refine .cons_right ?_
  refine .cons (isPartOf_refl context) ?_
  refine .cons_right ?_
  exact .cons (isPartOf_append "QUESTION: " question) .nil

lemma isPartOf_fallbackAnswer (context : String) : IsPartOf context (fallbackAnswer context) :=
  isPartOf_between _ context _

/-- The answer in place of the model's shows the text of every chunk, in the order they were found. -/
theorem fallbackAnswer_shows (docs : List Document) :
    ShowsInOrder (docs.map Document.text) (fallbackAnswer (context docs)).toList := by
  obtain ⟨before, after, hparts⟩ := isPartOf_fallbackAnswer (context docs)
  rw [← hparts]
  exact ((context_shows docs).append_left before).append_right after

end IncidentTriage.Question

import IncidentTriage.Proofs.Question.Mentions
import IncidentTriage.Proofs.Text.Lowercase

/-!
# How urgent a question is

A question calls for every intent whose words stand in it, and it gets the most urgent one of them.
Text around a question can change the lower-case form of a letter in it, but not of one that goes
with a letter of a keyword or of a name in ASCII. So what a question calls for is also called for with
more text around it, and it cannot become less urgent.
-/

namespace IncidentTriage
open IncidentTriage.Text

namespace Intent

def rank : Intent → Nat
  | .general => 0
  | .serviceSpecific => 1
  | .architectureDocs => 2
  | .performanceAnalysis => 3
  | .errorAnalysis => 4

lemma eq_errorAnalysis_of_le_rank {intent : Intent} (h : 4 ≤ intent.rank) :
    intent = .errorAnalysis := by
  cases intent <;> simp_all [rank]

lemma eq_or_eq_of_le_rank {intent : Intent} (h : 3 ≤ intent.rank) :
    intent = .performanceAnalysis ∨ intent = .errorAnalysis := by
  cases intent <;> simp_all [rank]

end Intent

namespace Question

variable {services : List String}

/-- What stands in a text, which is in lower case, for an intent. -/
def CallsFor (services : List String) (cs : List Char) : Intent → Prop
  | .general => True
  | .serviceSpecific => ∃ n ∈ wantedNames services, n <:+: cs
  | .architectureDocs => ∃ w ∈ architectureWords, w.toList <:+: cs
  | .performanceAnalysis => ∃ w ∈ performanceWords, w.toList <:+: cs
  | .errorAnalysis => ∃ w ∈ errorWords, w.toList <:+: cs

lemma mentions_iff {words : List String} {cs : List Char} :
    mentions words cs = true ↔ ∃ w ∈ words, w.toList <:+: cs := by
  unfold mentions
  rw [List.any_eq_true]
  simp only [occurs_iff]

lemma callsFor_serviceSpecific_iff {cs : List Char} :
    CallsFor services cs .serviceSpecific ↔ serviceIn? services cs ≠ none := by
  unfold CallsFor serviceIn?
  rw [ne_eq, Option.map_eq_none_iff, firstName_eq_none_iff (nil_notMem_wantedNames services)]
  simp only [not_forall, not_not, exists_prop]

/-- Of the intents that a text calls for, none is more urgent than this one. -/
structure MostUrgent (services : List String) (cs : List Char) (intent : Intent) : Prop where
  called : CallsFor services cs intent
  most : ∀ other, CallsFor services cs other → other.rank ≤ intent.rank

section Classified

variable (services : List String) (question : String)

/-- A question calls for the intent that it gets. -/
lemma callsFor_intent :
    CallsFor services (lower question.toList) (classify services question).intent := by
  unfold classify
  dsimp only
  by_cases herror : mentions errorWords (lower question.toList) = true
  · rw [if_pos herror]
    exact mentions_iff.1 herror
  · rw [if_neg herror]
    by_cases hslow : mentions performanceWords (lower question.toList) = true
    · rw [if_pos hslow]
      exact mentions_iff.1 hslow
    · rw [if_neg hslow]
      by_cases hdesign : mentions architectureWords (lower question.toList) = true
      · rw [if_pos hdesign]
        exact mentions_iff.1 hdesign
      · rw [if_neg hdesign]
        by_cases hnamed : (serviceIn? services (lower question.toList)).isSome = true
        · rw [if_pos hnamed, callsFor_serviceSpecific_iff]
          exact Option.isSome_iff_ne_none.1 hnamed
        · rw [if_neg hnamed]
          trivial

/-- A question calls for no intent that is more urgent than the one that it gets. -/
lemma rank_le_of_callsFor {intent : Intent}
    (h : CallsFor services (lower question.toList) intent) :
    intent.rank ≤ (classify services question).intent.rank := by
  unfold classify
  dsimp only
  cases intent with
  | general => exact Nat.zero_le _
  | serviceSpecific =>
    rw [callsFor_serviceSpecific_iff, ← Option.isSome_iff_ne_none] at h
    rw [if_pos h]
    split_ifs <;> decide
  | architectureDocs =>
    rw [if_pos (mentions_iff.2 h)]
    split_ifs <;> decide
  | performanceAnalysis =>
    rw [if_pos (mentions_iff.2 h)]
    split_ifs <;> decide
  | errorAnalysis =>
    rw [if_pos (mentions_iff.2 h)]

lemma mostUrgent_intent :
    MostUrgent services (lower question.toList) (classify services question).intent where
  called := callsFor_intent services question
  most _ h := rank_le_of_callsFor services question h

end Classified

section Around

lemma isAscii_of_mem {words : List String}
    (hwords : words.all (fun w => w.toList.all fun c => decide (c.toNat < 128)) = true) {w : String}
    (hw : w ∈ words) : IsAscii w.toList := by
  exact forall_mem_of_all (List.all_eq_true.1 hwords w hw)

/-- What is called for by a text is called for by the text with more around it. -/
lemma CallsFor.around (hservices : ∀ s ∈ services, IsAscii s.toList) {cs : List Char}
    {intent : Intent} (h : CallsFor services (lower cs) intent) (before after : List Char) :
    CallsFor services (lower (before ++ cs ++ after)) intent := by
  cases intent with
  | general => trivial
  | serviceSpecific =>
    obtain ⟨n, hn, hin⟩ := h
    obtain ⟨s, hs, -, rfl⟩ := mem_wantedNames.1 hn
    exact ⟨_, hn, infix_lower_around (isAscii_lower (hservices s hs)) hin before after⟩
  | architectureDocs =>
    obtain ⟨w, hw, hin⟩ := h
    exact ⟨w, hw, infix_lower_around (isAscii_of_mem (by decide) hw) hin before after⟩
  | performanceAnalysis =>
    obtain ⟨w, hw, hin⟩ := h
    exact ⟨w, hw, infix_lower_around (isAscii_of_mem (by decide) hw) hin before after⟩
  | errorAnalysis =>
    obtain ⟨w, hw, hin⟩ := h
    exact ⟨w, hw, infix_lower_around (isAscii_of_mem (by decide) hw) hin before after⟩

end Around

/-- A question is as urgent as what it calls for. With text around it, it is at least as urgent as it
is alone, and it still names a service if it names one alone. So an error stays an error, and a
question on performance can only become one on errors. -/
theorem urgency_is_monotone (services : List String) (hservices : ∀ s ∈ services, IsAscii s.toList)
    (before question after : String) :
    let alone := classify services question
    let embedded := classify services (before ++ question ++ after)
    MostUrgent services (lower question.toList) alone.intent ∧
      alone.intent.rank ≤ embedded.intent.rank ∧
      (alone.service ≠ none → embedded.service ≠ none) ∧
      (alone.intent = .errorAnalysis → embedded.intent = .errorAnalysis) ∧
      (alone.intent = .performanceAnalysis →
        embedded.intent = .performanceAnalysis ∨ embedded.intent = .errorAnalysis) := by
  intro alone embedded
  have haround : ∀ intent, CallsFor services (lower question.toList) intent →
      CallsFor services (lower (before ++ question ++ after).toList) intent := by
    intro intent h
    rw [String.toList_append, String.toList_append]
    exact h.around hservices before.toList after.toList
  have halone := mostUrgent_intent services question
  have hembedded := mostUrgent_intent services (before ++ question ++ after)
  have hrank : alone.intent.rank ≤ embedded.intent.rank :=
    hembedded.most alone.intent (haround alone.intent halone.called)
  refine ⟨halone, hrank, ?_, ?_, ?_⟩
  · intro hnamed
    exact callsFor_serviceSpecific_iff.1 (haround _ (callsFor_serviceSpecific_iff.2 hnamed))
  · intro herror
    rw [herror] at hrank
    exact Intent.eq_errorAnalysis_of_le_rank hrank
  · intro hslow
    rw [hslow] at hrank
    exact Intent.eq_or_eq_of_le_rank hrank

/-- The sigma at the end of a question has another form with a letter after it. -/
theorem urgency_is_monotone_of_sigma :
    let services := ["Cart"]
    let question := "CART slow ΟΔΟΣ"
    (∀ s ∈ services, IsAscii s.toList) ∧
      (classify services question).intent.rank = 3 ∧
      (classify services question).intent.rank ≤
        (classify services ("İ" ++ question ++ "Ω? error 500")).intent.rank := by
  intro services question
  have hservices : ∀ s ∈ services, IsAscii s.toList := fun s hs => isAscii_of_mem (by decide) hs
  exact ⟨hservices, by decide +kernel,
    (urgency_is_monotone services hservices "İ" question "Ω? error 500").2.1⟩

/-- A name that is not in ASCII can be hidden. -/
example : (classify ["ΟΔΟΣ"] "ΟΔΟΣ").service = some "οδος" ∧
    (classify ["ΟΔΟΣ"] "ΟΔΟΣΑ").service = none := by
  decide +kernel

end Question

end IncidentTriage

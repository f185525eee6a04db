import IncidentTriage.Proofs.Chunk.Fragments
import IncidentTriage.Proofs.Question.Degradation
import IncidentTriage.Question.Provider

/-!
# Blank replies

A reply that says nothing is refused before the blanks around it are dropped. So a reply of nothing
but blanks is not refused, and nothing is left of it: it comes back as an empty text and passes for an
answer. Every other answer has a character that is not blank, whatever the model replies and whatever
the breaker does: it is what the model says, without the blanks around it, or it shows the context.
-/

namespace IncidentTriage

namespace Text

/-- A character of the text is not blank. -/
def IsVisible (s : String) : Prop :=
  ∃ c ∈ s.toList, isBlank c = false

lemma not_isVisible_of_all {s : String} (h : s.toList.all isBlank = true) : ¬IsVisible s := by
  rintro ⟨c, hc, hvisible⟩
  rw [List.all_eq_true.1 h c hc] at hvisible
  cases hvisible

/-- What is not blank is not trimmed away. -/
lemma isVisible_trimmed_iff (s : String) : IsVisible (trimmed s) ↔ IsVisible s := by
  obtain ⟨blanks, piece, blanks', hs, hblanks, hblanks', htrim⟩ := exists_trim s.toList
  unfold IsVisible trimmed
  rw [String.toList_ofList, htrim, hs]
  constructor
  · rintro ⟨c, hc, hvisible⟩
    exact ⟨c, List.mem_append_left _ (List.mem_append_right _ hc), hvisible⟩
  · rintro ⟨c, hc, hvisible⟩
    rw [List.mem_append, List.mem_append] at hc
    rcases hc with (hc | hc) | hc
    · exact absurd hvisible (by simp [hblanks c hc])
    · exact ⟨c, hc, hvisible⟩
    · exact absurd hvisible (by simp [hblanks' c hc])

lemma trimmed_of_blank {s : String} (h : ¬IsVisible s) : trimmed s = "" := by
  have hblank : ∀ c ∈ s.toList, isBlank c = true := by
    intro c hc
    by_contra hvisible
    exact h ⟨c, hc, Bool.eq_false_iff.2 hvisible⟩
  have hleft : trimLeft s.toList = [] := List.dropWhile_eq_nil_iff.2 hblank
  unfold trimmed trim
  rw [hleft]
  rfl

end Text

namespace Provider
open Text

/-- What blocks say: the texts of those that have one, side by side. -/
inductive BlocksSay : List Value → String → Prop
  | nil : BlocksSay [] ""
  | text {fields : Fields} {s : String} {rest : List Value} {said : String}
      (htext : Fields.get? fields "text" = some (.text s)) (hrest : BlocksSay rest said) :
      BlocksSay (.object fields :: rest) (s ++ said)
  | silent {block : Value} {rest : List Value} {said : String}
      (hsilent : ∀ fields, block = .object fields → Fields.get? fields "text" = none)
      (hrest : BlocksSay rest said) : BlocksSay (block :: rest) said

/-- What a reply says: the text of its first choice, and nothing if there is none in it, or the texts
of its blocks. -/
inductive Reply.Says : Reply → String → Prop
  | null (rest : List Value) : Says (.choices (.null :: rest)) ""
  | choice (s : String) (rest : List Value) : Says (.choices (.text s :: rest)) s
  | blocks {parts : List Value} {s : String} (h : BlocksSay parts s) : Says (.blocks parts) s

section Saying

lemma blockTexts_of_silent {block : Value} (rest : List Value)
    (h : ∀ fields, block = .object fields → Fields.get? fields "text" = none) :
    blockTexts (block :: rest) = blockTexts rest := by
  unfold blockTexts
  rw [List.filterMap_cons]
  cases block with
  | object fields => simp only [h fields rfl]
  | _ => rfl

lemma blockTexts_of_text {fields : Fields} {v : Value} (rest : List Value)
    (h : Fields.get? fields "text" = some v) :
    blockTexts (.object fields :: rest) = v :: blockTexts rest := by
  unfold blockTexts
  rw [List.filterMap_cons]
  simp only [h]

lemma joinTexts_of_blocksSay {parts : List Value} {s : String} (h : BlocksSay parts s)
    (position : Nat) : joinTexts position (blockTexts parts) = .ok s := by
  induction h generalizing position with
  | nil => rfl
  | text htext _ ih =>
    rw [blockTexts_of_text _ htext, joinTexts, ih]
    rfl
  | silent hsilent _ ih => rw [blockTexts_of_silent _ hsilent, ih]

lemma blocksSay_of_joinTexts {parts : List Value} {s : String} {position : Nat}
    (h : joinTexts position (blockTexts parts) = .ok s) : BlocksSay parts s := by
  induction parts generalizing s position with
  | nil =>
    cases h
    exact .nil
  | cons block rest ih =>
    by_cases hsilent : ∀ fields, block = .object fields → Fields.get? fields "text" = none
    · rw [blockTexts_of_silent rest hsilent] at h
      exact .silent hsilent (ih h)
    · push Not at hsilent
      obtain ⟨fields, rfl, htext⟩ := hsilent
      obtain ⟨v, hv⟩ := Option.ne_none_iff_exists'.1 htext
      rw [blockTexts_of_text rest hv] at h
      cases v with
      | text head =>
        rw [joinTexts] at h
        cases hrest : joinTexts (position + 1) (blockTexts rest) with
        | error e =>
          rw [hrest] at h
          cases h
        | ok said =>
          rw [hrest] at h
          cases h
          exact .text hv (ih hrest)
      | _ => cases h

variable {r : Reply} {s : String}

/-- Nothing is refused, and of anything else only the blanks around it are dropped. -/
lemma Reply.text_of_says (h : r.Says s) :
    r.text = if s = "" then .error .empty else .ok (trimmed s) := by
  cases h with
  | null rest => rfl
  | choice s rest => simp only [Reply.text, String.isEmpty_iff]
  | blocks h => simp only [Reply.text, joinTexts_of_blocksSay h 0, String.isEmpty_iff]

/-- What comes of a reply is something that it says. -/
lemma Reply.exists_says_of_text {text : String} (h : r.text = .ok text) : ∃ s, r.Says s := by
  cases r with
  | choices contents =>
    cases contents with
    | nil => cases h
    | cons v rest =>
      cases v with
      | text s => exact ⟨s, .choice s rest⟩
      | _ =>
        simp only [Reply.text] at h
        split at h <;> cases h
  | blocks parts =>
    cases hjoin : joinTexts 0 (blockTexts parts) with
    | ok s => exact ⟨s, .blocks (blocksSay_of_joinTexts hjoin)⟩
    | error e =>
      simp only [Reply.text, hjoin] at h
      cases h

end Saying

lemma ReplyError.isCatchable (e : ReplyError) : Fault.isCatchable ⟨e.kind, e.message⟩ = true := by
  cases e <;> rfl

end Provider

namespace Question
open Text Provider

variable {σ : Type}

/-- A connection to a provider: what it replies to a request, if it does not refuse, and the state in
which this leaves it, which shows a clock. -/
structure Connection (σ : Type) where
  clock : σ → Float
  send : Fields → σ → Except Refusal Reply × σ

namespace Connection

variable (c : Connection σ) (m : Model)

def sending (fields : Fields) : Act (Breaker × σ) Reply :=
  Act.outside do
    let w ← Act.world
    Act.setWorld (c.send fields w).2
    Act.ofOutcome ((c.send fields w).1.mapError Refusal.fault)

/-- The model that is asked through the provider. -/
def model (prompt : String) : Act (Breaker × σ) Value :=
  ValueOf.text <$> Provider.generate m c.sending prompt

/-- How the provider's attempt to get a text ends. -/
def ended (prompt : String) (w : σ) : Except Fault String :=
  match (c.send (request m prompt) w).1 with
  | .error r => .error r.fault
  | .ok reply => reply.text.mapError fun e => ⟨e.kind, e.message⟩

/-- The reply to the prompt says the text. -/
def Says (prompt : String) (w : σ) (s : String) : Prop :=
  ∃ reply, (c.send (request m prompt) w).1 = .ok reply ∧ reply.Says s

/-- The reply to the prompt says something, but nothing that is not blank. -/
def SaysBlank (prompt : String) (w : σ) : Prop :=
  ∃ s, c.Says m prompt w s ∧ s ≠ "" ∧ ¬IsVisible s

section Ends

variable {prompt : String} {w : σ}

lemma perform_provider (prompt : String) (scene : Scene (Breaker × σ)) :
    (Provider.generate m c.sending prompt).perform scene =
      (c.ended m prompt scene.world.2, ⟨scene.journal,
        (scene.world.1, (c.send (request m prompt) scene.world.2).2)⟩) := by
  simp only [Provider.generate, sending, ended, Act.perform_bind, Act.perform_outside,
    Act.perform_world, Act.continued_ok, Act.perform_setWorld, Act.perform_ofOutcome]
  cases (c.send (request m prompt) scene.world.2).1 with
  | error r => rfl
  | ok reply =>
    simp only [Except.mapError, Act.continued_ok, Act.perform_ofOutcome]

lemma isCatchable_of_ended {f : Fault} (h : c.ended m prompt w = .error f) :
    f.isCatchable = true := by
  unfold ended at h
  split at h
  · cases h
    exact Refusal.isCatchable _
  · rename_i reply _
    cases htext : reply.text with
    | ok s =>
      rw [htext] at h
      cases h
    | error e =>
      rw [htext] at h
      cases h
      exact e.isCatchable

lemma ended_of_says {s : String} (h : c.Says m prompt w s) :
    c.ended m prompt w =
      if s = "" then .error ⟨.value, "LLM returned an empty response"⟩ else .ok (trimmed s) := by
  obtain ⟨reply, hreply, hsays⟩ := h
  unfold ended
  rw [hreply]
  dsimp only
  rw [Reply.text_of_says hsays]
  split <;> rfl

lemma exists_says_of_ended {text : String} (h : c.ended m prompt w = .ok text) :
    ∃ s, c.Says m prompt w s ∧ s ≠ "" ∧ text = trimmed s := by
  have hsays : ∃ s, c.Says m prompt w s := by
    unfold ended at h
    split at h
    · cases h
    · rename_i reply hreply
      cases htext : reply.text with
      | ok said =>
        obtain ⟨s, hs⟩ := Reply.exists_says_of_text htext
        exact ⟨s, reply, hreply, hs⟩
      | error e =>
        rw [htext] at h
        cases h
  obtain ⟨s, hs⟩ := hsays
  rw [c.ended_of_says m hs] at h
  by_cases hempty : s = ""
  · rw [if_pos hempty] at h
    cases h
  · rw [if_neg hempty] at h
    cases h
    exact ⟨s, hs, hempty, rfl⟩

lemma ended_of_saysBlank (h : c.SaysBlank m prompt w) : c.ended m prompt w = .ok "" := by
  obtain ⟨s, hs, hempty, hblank⟩ := h
  rw [c.ended_of_says m hs, if_neg hempty, trimmed_of_blank hblank]

/-- A text that comes of a reply is visible, or empty because the reply is blank. -/
lemma visible_or_blank_of_ended {text : String} (h : c.ended m prompt w = .ok text) :
    IsVisible text ∨ c.SaysBlank m prompt w ∧ text = "" := by
  obtain ⟨s, hs, hempty, rfl⟩ := c.exists_says_of_ended m h
  by_cases hvisible : IsVisible s
  · exact .inl ((isVisible_trimmed_iff s).2 hvisible)
  · exact .inr ⟨⟨s, hs, hempty, hvisible⟩, trimmed_of_blank hvisible⟩

end Ends

section Answers

variable (prompt context : String) (scene : Scene (Breaker × σ))

/-- A call that is let through asks the provider. -/
lemma perform_call {period : Nat}
    (h : (scene.world.1.request (c.clock scene.world.2)).period? = some period) :
    ∃ journal, (Breaker.call c.clock (c.model m prompt)).perform scene =
      Breaker.concluded c.clock period (c.clock scene.world.2)
        ((c.ended m prompt scene.world.2).map ValueOf.text,
          ⟨journal, ((scene.world.1.request (c.clock scene.world.2)).breaker,
            (c.send (request m prompt) scene.world.2).2)⟩) := by
  have hcall := Breaker.perform_call_of_some c.clock (c.model m prompt) scene h
  unfold model at hcall
  simp only [Act.perform_map, perform_provider] at hcall
  exact ⟨_, hcall⟩

/-- A call ends with a fault that can be met, or it is let through and ends with what comes of the
reply. -/
lemma call_end :
    (∃ f, f.isCatchable = true ∧
      ((Breaker.call c.clock (c.model m prompt)).perform scene).1 = .error f) ∨
    ((scene.world.1.request (c.clock scene.world.2)).period?.isSome ∧
      ∃ text, c.ended m prompt scene.world.2 = .ok text ∧
        ((Breaker.call c.clock (c.model m prompt)).perform scene).1 = .ok (.text text)) := by
  cases hperiod : (scene.world.1.request (c.clock scene.world.2)).period? with
  | none =>
    left
    rw [Breaker.perform_call_of_none c.clock (c.model m prompt) scene hperiod]
    exact ⟨Breaker.rejection _, rfl, rfl⟩
  | some period =>
    obtain ⟨journal, hcalled⟩ := c.perform_call m prompt scene hperiod
    rw [hcalled]
    cases Breaker.concluded_end c.clock period (c.clock scene.world.2)
        ((c.ended m prompt scene.world.2).map ValueOf.text,
          ⟨journal, ((scene.world.1.request (c.clock scene.world.2)).breaker,
            (c.send (request m prompt) scene.world.2).2)⟩) with
    | inr hfault => exact .inl ⟨⟨.zeroDivision, _⟩, rfl, hfault⟩
    | inl hend =>
      rw [hend]
      cases hended : c.ended m prompt scene.world.2 with
      | error f => exact .inl ⟨f, c.isCatchable_of_ended m hended, rfl⟩
      | ok text => exact .inr ⟨rfl, text, rfl, rfl⟩

/-- An answer shows the context, or it comes of a reply to a call that was let through. -/
lemma exists_answer :
    ∃ answer later, (generate c.clock (c.model m) prompt context).perform scene =
        (.ok (.text answer), later) ∧
      (answer = fallbackAnswer context ∨
        (scene.world.1.request (c.clock scene.world.2)).period?.isSome ∧
          c.ended m prompt scene.world.2 = .ok answer) := by
  obtain ⟨journal, hanswer⟩ := perform_generate c.clock (c.model m) prompt context scene
  obtain ⟨hsame, -⟩ := Breaker.request_refresh scene.world.1 (c.clock scene.world.2)
  have hend := c.call_end m prompt
    ⟨journal, ((scene.world.1.refresh (c.clock scene.world.2)).1, scene.world.2)⟩
  dsimp only at hanswer hend
  rw [hsame] at hend
  rcases hend with ⟨f, hmet, hcalled⟩ | ⟨hthrough, text, hended, hcalled⟩
  · rw [hcalled] at hanswer
    obtain ⟨journal', hgenerate⟩ := hanswer fun f' hf' => by
      cases hf'
      exact hmet
    exact ⟨_, _, hgenerate, .inl rfl⟩
  · rw [hcalled] at hanswer
    obtain ⟨journal', hgenerate⟩ := hanswer fun f hf => by cases hf
    exact ⟨text, _, hgenerate, .inr ⟨hthrough, hended⟩⟩

/-- What comes of a reply is the answer and counts as a success, if the window has room. -/
lemma answer_of_ended (hsize : 1 ≤ scene.world.1.config.windowSize) {period : Nat}
    (h : (scene.world.1.request (c.clock scene.world.2)).period? = some period) {text : String}
    (hended : c.ended m prompt scene.world.2 = .ok text) :
    let now := c.clock (c.send (request m prompt) scene.world.2).2
    ∃ later, (generate c.clock (c.model m) prompt context).perform scene =
        (.ok (.text text), later) ∧
      later.world.1 = (scene.world.1.request (c.clock scene.world.2)).breaker.settled period false
        (now - c.clock scene.world.2) now := by
  intro now
  obtain ⟨journal, hanswer⟩ := perform_generate c.clock (c.model m) prompt context scene
  -- The breaker is looked at before the call, which makes no difference to what it lets through.
  obtain ⟨hsame, hbreaker⟩ := Breaker.request_refresh scene.world.1 (c.clock scene.world.2)
  obtain ⟨asked, hcalled⟩ := c.perform_call m prompt
    ⟨journal, ((scene.world.1.refresh (c.clock scene.world.2)).1, scene.world.2)⟩
    (hsame.trans h)
  dsimp only at hcalled
  rw [hended, hbreaker] at hcalled
  have hconfig := Breaker.config_request scene.world.1 (c.clock scene.world.2)
  obtain ⟨told, b, -, hconclude⟩ := Breaker.perform_conclude c.clock
    ⟨asked, ((scene.world.1.request (c.clock scene.world.2)).breaker,
      (c.send (request m prompt) scene.world.2).2)⟩
    (hconfig ▸ hsize) period (c.clock scene.world.2) false
  have hworld := Breaker.world_conclude c.clock period (c.clock scene.world.2) false
    ⟨asked, ((scene.world.1.request (c.clock scene.world.2)).breaker,
      (c.send (request m prompt) scene.world.2).2)⟩
  rw [hconclude] at hworld
  simp only [Except.map, Breaker.concluded] at hcalled
  rw [hconclude, Act.continued_ok, Act.perform_pure] at hcalled
  rw [hcalled] at hanswer
  obtain ⟨journal', hgenerate⟩ := hanswer fun f hf => by cases hf
  exact ⟨_, hgenerate, congrArg Prod.fst hworld⟩

end Answers

end Connection

lemma isVisible_fallbackAnswer (context : String) : IsVisible (fallbackAnswer context) := by
  refine ⟨'T', ?_, by decide⟩
  unfold fallbackAnswer
  rw [String.toList_append, String.toList_append]
  refine List.mem_append_left _ (List.mem_append_left _ ?_)
  decide

/-- A reply that says nothing is refused, and what any other says comes back without the blanks around
it. So a text comes back that is visible, or none, if and only if the reply is not blank. The answer
shows the context or is what the reply says, and it is visible unless a call was let through and its
reply was blank. If the window has room, what is said in reply to a call that was let through is the
answer, blank or not, and the breaker takes the call for a success. -/
theorem visible_unless_reply_blank (c : Connection σ) (m : Model) (prompt context : String)
    (scene : Scene (Breaker × σ)) :
    let w := scene.world.2
    let admission := scene.world.1.request (c.clock w)
    let ended := ((Provider.generate m c.sending prompt).perform scene).1
    let now := c.clock (c.send (request m prompt) w).2
    (∀ s, c.Says m prompt w s → ended =
      if s = "" then .error ⟨.value, "LLM returned an empty response"⟩ else .ok (trimmed s)) ∧
    ((∀ text, ended = .ok text → IsVisible text) ↔ ¬c.SaysBlank m prompt w) ∧
    ∃ answer later, (generate c.clock (c.model m) prompt context).perform scene =
        (.ok (.text answer), later) ∧
      (answer = fallbackAnswer context ∨
        ∃ s, c.Says m prompt w s ∧ s ≠ "" ∧ answer = trimmed s) ∧
      (IsVisible answer ∨
        admission.period?.isSome ∧ c.SaysBlank m prompt w ∧ answer = "") ∧
      ∀ period s, admission.period? = some period → c.Says m prompt w s → s ≠ "" →
        1 ≤ scene.world.1.config.windowSize → answer = trimmed s ∧
          (IsVisible answer ↔ IsVisible s) ∧
          later.world.1 = admission.breaker.settled period false (now - c.clock w) now := by
  intro w admission ended now
  have hended : ended = c.ended m prompt w := congrArg Prod.fst (c.perform_provider m prompt scene)
  rw [hended]
  refine ⟨fun s hs => c.ended_of_says m hs, ?_, ?_⟩
  · constructor
    · intro hvisible hblank
      exact not_isVisible_of_all rfl (hvisible "" (c.ended_of_saysBlank m hblank))
    · intro hblank text htext
      cases c.visible_or_blank_of_ended m htext with
      | inl hvisible => exact hvisible
      | inr h => exact absurd h.1 hblank
  · obtain ⟨answer, later, hgenerate, hanswer⟩ := c.exists_answer m prompt context scene
    refine ⟨answer, later, hgenerate, ?_, ?_, ?_⟩
    · cases hanswer with
      | inl hfallback => exact .inl hfallback
      | inr h => exact .inr (c.exists_says_of_ended m h.2)
    · cases hanswer with
      | inl hfallback => exact .inl (hfallback ▸ isVisible_fallbackAnswer context)
      | inr h =>
        cases c.visible_or_blank_of_ended m h.2 with
        | inl hvisible => exact .inl hvisible
        | inr hblank => exact .inr ⟨h.1, hblank⟩
    · intro period s hperiod hs hsaid hsize
      have hreply : c.ended m prompt w = .ok (trimmed s) := by
        rw [c.ended_of_says m hs, if_neg hsaid]
      obtain ⟨left, hleft, hsettled⟩ := c.answer_of_ended m prompt context scene hsize hperiod hreply
      rw [hgenerate] at hleft
      cases hleft
      exact ⟨rfl, isVisible_trimmed_iff s, hsettled⟩

/-- A connection that always replies the same. -/
def replying (reply : Reply) : Connection Float where
  clock := id
  send _ now := (.ok reply, now)

theorem visible_unless_reply_blank_of_blocks :
    let c := replying (.blocks [.object [("type", .text "thinking")],
      .object [("text", .text " \n")], .object [("text", .text "\t")]])
    let m : Model := ⟨.anthropic, "m", 256⟩
    let scene : Scene (Breaker × Float) := ⟨[], ({ config := { name := "answers" } }, 0.0)⟩
    c.SaysBlank m "Why?" 0.0 ∧ ∃ later,
      (generate c.clock (c.model m) "Why?" "context").perform scene = (.ok (.text ""), later) := by
  intro c m scene
  have hsilent : ∀ fields, (.object [("type", .text "thinking")] : Value) = .object fields →
      Fields.get? fields "text" = none := by
    intro fields h
    cases h
    rfl
  have hsays : c.Says m "Why?" 0.0 (" \n" ++ ("\t" ++ "")) :=
    ⟨_, rfl, .blocks (.silent hsilent (.text rfl (.text rfl .nil)))⟩
  have hblank : c.SaysBlank m "Why?" 0.0 :=
    ⟨_, hsays, by decide, not_isVisible_of_all rfl⟩
  obtain ⟨answer, later, hgenerate, -, -, hreply⟩ :=
    (visible_unless_reply_blank c m "Why?" "context" scene).2.2
  obtain ⟨hanswer, -⟩ := hreply 0 _ rfl hsays (by decide) (by decide)
  have hempty : answer = "" := hanswer.trans (trimmed_of_blank (not_isVisible_of_all rfl))
  exact ⟨hblank, later, hempty ▸ hgenerate⟩

/-- A reply of three spaces passes for an answer. -/
theorem blank_reply_passes :
    let c := replying (.choices [.text "   "])
    let m : Model := ⟨.openrouter, "some/model", 256⟩
    let scene : Scene (Breaker × Float) := ⟨[], ({ config := { name := "answers" } }, 0.0)⟩
    ((Provider.generate m c.sending "prompt").perform scene).1 = .ok "" ∧
      ((generate c.clock (c.model m) "prompt" "context").perform scene).1 = .ok (.text "") ∧
      ¬IsVisible "" := by
  intro c m scene
  exact ⟨rfl, rfl, not_isVisible_of_all rfl⟩

end Question

end IncidentTriage

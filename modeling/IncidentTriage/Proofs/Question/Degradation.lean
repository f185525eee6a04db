import IncidentTriage.Proofs.Breaker.Call
import IncidentTriage.Proofs.Index.Store
import IncidentTriage.Proofs.Question.Prompt
import IncidentTriage.Question.Answer

/-!
# How answers degrade

The surroundings of a question are an index and a model that do as they like: they find anything,
reply anything or refuse, and their state shows any clock. A question asks the index once, and the
model at most once, if the breaker lets it. Every question is answered: by the model, by the chunks
that were found, or by one of two fixed messages.
-/

namespace IncidentTriage.Question

variable {σ α : Type}

inductive Inquiry
  | search (question : String) (spec : Retrieval)
  | prompt (text : String)

/-- What a search finds and what the model replies, if they do not refuse, and the state in which
this leaves them. -/
structure Surroundings (σ : Type) where
  clock : σ → Float
  search : String → Retrieval → σ → Except Refusal (List Document) × σ
  reply : String → σ → Except Refusal Value × σ

/-- The state of the surroundings and all that was asked of them, in order. -/
structure Outside (σ : Type) where
  state : σ
  inquiries : List Inquiry := []

def Outside.asked (w : Outside σ) (inquiry : Inquiry) (state : σ) : Outside σ :=
  ⟨state, w.inquiries ++ [inquiry]⟩

/-- Once the breaker was looked at, its call decides the answer, and a fault that can be met is
answered with the context. -/
lemma perform_generate {ω : Type} (clock : ω → Float) (model : String → Act (Breaker × ω) Value)
    (text context : String) (scene : Scene (Breaker × ω)) :
    ∃ journal,
      let called := (Breaker.call clock (model text)).perform
        ⟨journal, ((scene.world.1.refresh (clock scene.world.2)).1, scene.world.2)⟩
      (∀ f, called.1 = .error f → f.isCatchable = true) →
        ∃ journal', (generate clock model text context).perform scene =
          (.ok (called.1.toOption.getD (.text (fallbackAnswer context))),
            ⟨journal', called.2.world⟩) := by
  simp only [generate, Act.perform_bind, Act.perform_own, Act.continued_ok,
    Act.perform_rescue, Breaker.perform_readState, Act.perform_note]
  generalize scene.journal ++ List.map _ _ ++ [_] = journal
  refine ⟨journal, ?_⟩
  generalize (Breaker.call clock (model text)).perform _ = called
  rcases called with ⟨f | a, after⟩
  · intro hmet
    simp only [Act.continued_error, Act.rescued_error, if_pos (hmet f rfl), Act.perform_bind,
      Act.perform_ite, Act.perform_note, Act.perform_record, Act.continued_ok]
    split
    · exact ⟨_, rfl⟩
    · exact ⟨_, rfl⟩
  · intro _
    exact ⟨_, rfl⟩

namespace Surroundings

/-- The surroundings are asked, which is remembered, and react. -/
def consult (inquiry : Inquiry) (react : σ → Except Refusal α × σ) : Act (Outside σ) α := do
  let w ← Act.world
  Act.setWorld (w.asked inquiry (react w.state).2)
  Act.ofOutcome ((react w.state).1.mapError Refusal.fault)

variable (s : Surroundings σ)

def now (w : Outside σ) : Float :=
  s.clock w.state

def searching : Search (Breaker × Outside σ) := fun question spec =>
  Act.outside (consult (.search question spec) (s.search question spec))

def model (text : String) : Act (Breaker × Outside σ) Value :=
  Act.outside (consult (.prompt text) (s.reply text))

def answer (services : List String) (question : String) : Act (Breaker × Outside σ) Value :=
  Question.answer services s.searching (Question.generate s.now s.model) question

/-- A question is answered, or the surroundings change of themselves. -/
inductive Step (σ : Type)
  | ask (question : String)
  | change (state : σ)

def after (services : List String) (scene : Scene (Breaker × Outside σ)) :
    Step σ → Scene (Breaker × Outside σ)
  | .ask question => ((s.answer services question).perform scene).2
  | .change state => { scene with world := (scene.world.1, { scene.world.2 with state }) }

/-- The scene that some steps leave, from a new breaker on. -/
def run (services : List String) (c : Breaker.Config) (start : σ) (steps : List (Step σ)) :
    Scene (Breaker × Outside σ) :=
  steps.foldl (s.after services) ⟨[], ({ config := c }, { state := start })⟩

lemma perform_consult (inquiry : Inquiry) (react : σ → Except Refusal α × σ)
    (scene : Scene (Outside σ)) :
    (consult inquiry react).perform scene =
      ((react scene.world.state).1.mapError Refusal.fault,
        ⟨scene.journal, scene.world.asked inquiry (react scene.world.state).2⟩) := by
  simp [consult]

lemma perform_searching (question : String) (spec : Retrieval)
    (scene : Scene (Breaker × Outside σ)) :
    (s.searching question spec).perform scene =
      let found := s.search question spec scene.world.2.state
      (found.1.mapError Refusal.fault, ⟨scene.journal,
        (scene.world.1, scene.world.2.asked (.search question spec) found.2)⟩) := by
  simp [searching, perform_consult]

lemma perform_model (text : String) (scene : Scene (Breaker × Outside σ)) :
    (s.model text).perform scene =
      let replied := s.reply text scene.world.2.state
      (replied.1.mapError Refusal.fault, ⟨scene.journal,
        (scene.world.1, scene.world.2.asked (.prompt text) replied.2)⟩) := by
  simp [model, perform_consult]

/-- A search that is refused is met. -/
lemma perform_lookUp (question : String) (spec : Retrieval) (scene : Scene (Breaker × Outside σ)) :
    ∃ journal, (lookUp s.searching question spec).perform scene =
      let found := s.search question spec scene.world.2.state
      (.ok found.1.toOption, ⟨journal,
        (scene.world.1, scene.world.2.asked (.search question spec) found.2)⟩) := by
  rw [lookUp, Act.perform_rescue, Act.perform_map, perform_searching]
  dsimp only
  cases (s.search question spec scene.world.2.state).1 with
  | ok docs => exact ⟨_, rfl⟩
  | error r =>
    have hmet := r.isCatchable
    simp only [Except.mapError, Except.map, Act.rescued_error, if_pos hmet]
    exact ⟨_, rfl⟩

lemma isCatchable_of_mapError {r : Except Refusal α} {f : Fault}
    (h : r.mapError Refusal.fault = .error f) : f.isCatchable = true := by
  cases r with
  | ok a => cases h
  | error r =>
    cases h
    exact r.isCatchable

lemma toOption_mapError (r : Except Refusal α) :
    (r.mapError Refusal.fault).toOption = r.toOption := by
  cases r <;> rfl

/-- The call that asks the model, if it is let through. -/
lemma perform_call_model (text : String) (scene : Scene (Breaker × Outside σ))
    (hsize : 1 ≤ scene.world.1.config.windowSize) {period : Nat}
    (h : (scene.world.1.request (s.now scene.world.2)).period? = some period) :
    ∃ journal b, b.config = scene.world.1.config ∧
      (Breaker.call s.now (s.model text)).perform scene =
        let replied := s.reply text scene.world.2.state
        (replied.1.mapError Refusal.fault,
          ⟨journal, (b, scene.world.2.asked (.prompt text) replied.2)⟩) := by
  have hconfig := Breaker.config_request scene.world.1 (s.now scene.world.2)
  rw [Breaker.perform_call_of_some s.now (s.model text) scene h]
  dsimp only
  rw [perform_model]
  generalize scene.journal ++ _ = journal
  obtain ⟨journal', b, hb, hconcluded⟩ := Breaker.concluded_eq s.now
    ⟨journal, ((scene.world.1.request (s.now scene.world.2)).breaker,
      scene.world.2.asked (.prompt text) (s.reply text scene.world.2.state).2)⟩
    (hconfig ▸ hsize) period (s.now scene.world.2)
    (fun _ => isCatchable_of_mapError)
  exact ⟨journal', b, hb.trans hconfig, hconcluded⟩

lemma perform_generate_of_none (text context : String) (scene : Scene (Breaker × Outside σ))
    (h : (scene.world.1.request (s.now scene.world.2)).period? = none) :
    ∃ journal, (Question.generate s.now s.model text context).perform scene =
      (.ok (.text (fallbackAnswer context)),
        ⟨journal, ((scene.world.1.request (s.now scene.world.2)).breaker, scene.world.2)⟩) := by
  obtain ⟨hperiod, hbreaker⟩ := Breaker.request_refresh scene.world.1 (s.now scene.world.2)
  obtain ⟨journal, hanswer⟩ := perform_generate s.now s.model text context scene
  have hcall := Breaker.perform_call_of_none s.now (s.model text)
    ⟨journal, ((scene.world.1.refresh (s.now scene.world.2)).1, scene.world.2)⟩
    (hperiod.trans h)
  rw [hcall] at hanswer
  have hmet {rejecting : Breaker} {f : Fault} (hf : Except.error (α := Value)
      (Breaker.rejection rejecting) = .error f) : f.isCatchable = true := by
    cases hf
    rfl
  obtain ⟨journal', hgenerate⟩ := hanswer fun _ => hmet
  refine ⟨journal', ?_⟩
  rw [hgenerate, ← hbreaker]
  rfl

lemma perform_generate_of_some (text context : String) (scene : Scene (Breaker × Outside σ))
    (hsize : 1 ≤ scene.world.1.config.windowSize) {period : Nat}
    (h : (scene.world.1.request (s.now scene.world.2)).period? = some period) :
    ∃ journal b, b.config = scene.world.1.config ∧
      (Question.generate s.now s.model text context).perform scene =
        let replied := s.reply text scene.world.2.state
        (.ok (replied.1.toOption.getD (.text (fallbackAnswer context))),
          ⟨journal, (b, scene.world.2.asked (.prompt text) replied.2)⟩) := by
  have hconfig := Breaker.config_refresh scene.world.1 (s.now scene.world.2)
  obtain ⟨hperiod, -⟩ := Breaker.request_refresh scene.world.1 (s.now scene.world.2)
  obtain ⟨journal, hanswer⟩ := perform_generate s.now s.model text context scene
  obtain ⟨journal', b, hb, hcall⟩ := s.perform_call_model text
    ⟨journal, ((scene.world.1.refresh (s.now scene.world.2)).1, scene.world.2)⟩
    (hconfig ▸ hsize) (hperiod.trans h)
  rw [hcall] at hanswer
  obtain ⟨journal'', hgenerate⟩ := hanswer fun f => isCatchable_of_mapError
  refine ⟨journal'', b, hb.trans hconfig, ?_⟩
  rw [hgenerate]
  dsimp only
  rw [toOption_mapError]

/-- What a question comes to. Without chunks the answer is a fixed message, nothing more is asked and
the breaker stays as it is. Otherwise the model is asked if the breaker lets it, and the chunks stand
in for what it does not reply. -/
def Delivers (services : List String) (question : String) (b : Breaker) (w : Outside σ)
    (answer : Value) (left : Breaker × Outside σ) : Prop :=
  let q := classify services question
  let spec := Retrieval.configure q
  let (found, state) := s.search question spec w.state
  let searched := w.asked (.search question spec) state
  match found with
  | .error _ => answer = .text knowledgeBaseUnavailable ∧ left = (b, searched)
  | .ok [] => answer = .text insufficientContext ∧ left = (b, searched)
  | .ok docs =>
    let fallback := fallbackAnswer (context docs)
    ShowsInOrder (docs.map Document.text) fallback.toList ∧
      match (b.request (s.clock state)).period? with
      | none =>
        answer = .text fallback ∧ left = ((b.request (s.clock state)).breaker, searched)
      | some _ =>
        let text := prompt services q (context docs) question
        ShowsInOrder [context docs, question] text.toList ∧
          answer = (s.reply text state).1.toOption.getD (.text fallback) ∧
          left.2 = searched.asked (.prompt text) (s.reply text state).2

/-- What is done once chunks were looked up. -/
lemma perform_generate_delivers (services : List String) {question : String} {b : Breaker}
    {w : Outside σ} (hsize : 1 ≤ b.config.windowSize) {d : Document} {docs : List Document}
    {state : σ} (journal : List Entry)
    (hfound : s.search question (Retrieval.configure (classify services question)) w.state =
      (.ok (d :: docs), state)) :
    let q := classify services question
    let ctx := context (d :: docs)
    let searched := w.asked (.search question (Retrieval.configure q)) state
    ∃ answer later, (Question.generate s.now s.model (prompt services q ctx question) ctx).perform
        ⟨journal, (b, searched)⟩ = (.ok answer, later) ∧
      later.world.1.config = b.config ∧ s.Delivers services question b w answer later.world := by
  intro q ctx searched
  have hshows := fallbackAnswer_shows (d :: docs)
  have hprompt := prompt_shows services q ctx question
  cases hperiod : (b.request (s.clock state)).period? with
  | none =>
    obtain ⟨journal', hgenerate⟩ := s.perform_generate_of_none (prompt services q ctx question) ctx
      ⟨journal, (b, searched)⟩ hperiod
    refine ⟨_, _, hgenerate, Breaker.config_request b _, ?_⟩
    simp only [Delivers, hfound, hperiod]
    exact ⟨hshows, rfl, rfl⟩
  | some period =>
    obtain ⟨journal', b', hconfig, hgenerate⟩ := s.perform_generate_of_some
      (prompt services q ctx question) ctx ⟨journal, (b, searched)⟩ hsize hperiod
    refine ⟨_, _, hgenerate, hconfig, ?_⟩
    simp only [Delivers, hfound, hperiod]
    exact ⟨hshows, hprompt, rfl, rfl⟩

/-- A question is answered whatever the surroundings do, and the breaker keeps its configuration. -/
lemma perform_answer (services : List String) (question : String)
    (scene : Scene (Breaker × Outside σ)) (hsize : 1 ≤ scene.world.1.config.windowSize) :
    ∃ answer later, (s.answer services question).perform scene = (.ok answer, later) ∧
      later.world.1.config = scene.world.1.config ∧
      s.Delivers services question scene.world.1 scene.world.2 answer later.world := by
  simp only [answer, Question.answer, Act.perform_bind, Act.perform_note, Act.continued_ok]
  generalize scene.journal ++ [_] ++ [_] = journal
  obtain ⟨journal', hlookUp⟩ := s.perform_lookUp question
    (Retrieval.configure (classify services question)) ⟨journal, scene.world⟩
  rw [hlookUp]
  dsimp only
  rcases hfound : s.search question (Retrieval.configure (classify services question))
    scene.world.2.state with ⟨found, state⟩
  cases found with
  | error r =>
    refine ⟨_, _, rfl, rfl, ?_⟩
    rw [Delivers, hfound]
    exact ⟨rfl, rfl⟩
  | ok docs =>
    cases docs with
    | nil =>
      refine ⟨_, _, rfl, rfl, ?_⟩
      rw [Delivers, hfound]
      exact ⟨rfl, rfl⟩
    | cons d docs => exact s.perform_generate_delivers services hsize _ hfound

lemma config_after (services : List String) {scene : Scene (Breaker × Outside σ)}
    (hsize : 1 ≤ scene.world.1.config.windowSize) (step : Step σ) :
    (s.after services scene step).world.1.config = scene.world.1.config := by
  cases step with
  | ask question =>
    obtain ⟨answer, later, hanswer, hconfig, -⟩ := s.perform_answer services question scene hsize
    rw [after, hanswer]
    exact hconfig
  | change state => rfl

lemma config_foldl (services : List String) (steps : List (Step σ))
    {scene : Scene (Breaker × Outside σ)} (hsize : 1 ≤ scene.world.1.config.windowSize) :
    (steps.foldl (s.after services) scene).world.1.config = scene.world.1.config := by
  induction steps generalizing scene with
  | nil => rfl
  | cons step steps ih =>
    have hstep := s.config_after services hsize step
    rw [List.foldl_cons, ih (hstep ▸ hsize), hstep]

/-- Whatever was asked before and whatever became of it, a question is answered, and its answer is
what the surroundings, the breaker and the chunks allow. -/
theorem answers_degrade (services : List String) (c : Breaker.Config) (hsize : 1 ≤ c.windowSize)
    (start : σ) (steps : List (Step σ)) (question : String) :
    let scene := s.run services c start steps
    ∃ answer later, (s.answer services question).perform scene = (.ok answer, later) ∧
      s.Delivers services question scene.world.1 scene.world.2 answer later.world := by
  intro scene
  have hconfig : scene.world.1.config = c := s.config_foldl services steps hsize
  obtain ⟨answer, later, hanswer, -, hdelivers⟩ :=
    s.perform_answer services question scene (hconfig ▸ hsize)
  exact ⟨answer, later, hanswer, hdelivers⟩

/-- Every search finds the chunk, and the model is down. -/
def silent (chunk : Document) : Surroundings Float where
  clock := id
  search _ _ now := (.ok [chunk], now)
  reply _ now := (.error ⟨⟨.runtime, "down"⟩, rfl⟩, now)

theorem chunk_answers_while_turned_away :
    let c : Breaker.Config := { name := "answers", windowSize := 1, minimumCalls := 1 }
    let chunk : Document := ⟨"\x7bcontext\x7d ---", [], .null⟩
    let scene := (silent chunk).run [] c 0.0 [.ask "Why?"]
    1 ≤ c.windowSize ∧ (scene.world.1.request scene.world.2.state).period? = none ∧
      (((silent chunk).answer [] "Why?").perform scene).1 =
        .ok (.text (fallbackAnswer (context [chunk]))) := by
  intro c chunk scene
  have hnone : (scene.world.1.request scene.world.2.state).period? = none := by decide +kernel
  obtain ⟨answer, later, hanswer, hdelivers⟩ : ∃ answer later,
      ((silent chunk).answer [] "Why?").perform scene = (.ok answer, later) ∧
        (silent chunk).Delivers [] "Why?" scene.world.1 scene.world.2 answer later.world :=
    (silent chunk).answers_degrade [] c (by decide) 0.0 [.ask "Why?"] "Why?"
  refine ⟨by decide, hnone, ?_⟩
  clear_value scene chunk
  rw [hanswer]
  simp only [Delivers, silent, id, hnone] at hdelivers
  exact congrArg Except.ok hdelivers.2.1

end Surroundings

end IncidentTriage.Question

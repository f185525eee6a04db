import IncidentTriage.Proofs.Index.Exchange

/-!
# The discipline of statements

However the server answers, and whatever operations come one after the other, an index sends nothing
that needs its table before the creation of the table has been confirmed. It asks for the creation
again as long as it is not confirmed, and never after that. An addition inserts once, one row for each
document in order, and a deletion has a condition that asks for the filter that it was given.
-/

namespace IncidentTriage.Index
open IncidentTriage.Filter Session

def Call.isCreate (table : String) : Call → Bool
  | .command statement none => statement == createStatement table
  | _ => false

def Call.isInsert : Call → Bool
  | .insert .. => true
  | _ => false

/-- An insertion, a query or a command other than the creation of the table. -/
def Call.needsTable (table : String) : Call → Bool
  | .connect _ | .loadModel _ | .encode _ => false
  | .insert .. | .query .. => true
  | .command statement params => !(Call.command statement params).isCreate table

/-- The server has confirmed that the table is created. -/
def HasCreated (table : String) (log : List Exchange) : Prop :=
  ∃ e ∈ log, e.call.isCreate table = true ∧ ∃ values, e.answer = .ok values

/-- An operation and what it asked. -/
structure Turn where
  operation : Operation
  sent : List Exchange

/-- The turns of some operations one after the other, whether or not they fail. -/
def turnsFrom (settings : Settings) (server : Server) (table : String) :
    List Operation → Scene (Session × List Exchange) → List Turn
  | [], _ => []
  | operation :: rest, scene =>
    let after := ((operation.act settings server.client table).perform scene).2
    ⟨operation, after.world.2.drop scene.world.2.length⟩ ::
      turnsFrom settings server table rest after

/-- It holds of every turn and all that was asked before it. -/
def Throughout (P : List Exchange → Turn → Prop) (turns : List Turn) : Prop :=
  ∀ before turn after, turns = before ++ turn :: after → P (before.flatMap (·.sent)) turn

/-- The turn keeps to the discipline, after what was asked before it. Once the creation has been asked
for, no connection is missing. -/
structure Disciplined (settings : Settings) (table : String) (past : List Exchange) (turn : Turn) :
    Prop where
  needsTable : ∀ before e after, turn.sent = before ++ e :: after →
    e.call.needsTable table = true → HasCreated table (past ++ before)
  createsOnce : ∀ before e after, turn.sent = before ++ e :: after →
    e.call.isCreate table = true → ¬ HasCreated table (past ++ before)
  createsAgain : turn.operation.hasWork = true → ¬ HasCreated table past →
    (∃ before e after, turn.sent = before ++ e :: after ∧ e.call.isCreate table = true ∧
      ∀ x ∈ before, x.call = .connect (connection settings)) ∨
    (∀ e ∈ past, e.call.isCreate table = false) ∧
      ∃ f, turn.sent = [⟨.connect (connection settings), .error f⟩]
  idle : turn.operation.hasWork = false → turn.sent = []
  inserts : ∀ e ∈ turn.sent, e.call.isInsert = true → ∃ docs vectors,
    turn.operation = .add docs ∧ ⟨.encode (docs.map (·.text)), .ok vectors⟩ ∈ turn.sent ∧
    turn.sent.filter (·.call.isInsert) = [e] ∧
    e.call = .insert table columns (docs.zipWith rowOf vectors) ∧
    (vectors.length = docs.length →
      (docs.zipWith rowOf vectors).map (fun r => (r.content, r.metadata)) =
        docs.map fun d => (d.text, d.metadata.map fun f => (f.1, f.2.metadataText)))
  deletes : ∀ e ∈ turn.sent, ∀ statement params, e.call = .command statement params →
    e.call.isCreate table = false → ∃ filter groups condition bound,
      turn.operation = .delete (some filter) ∧ parse filter = .ok groups ∧
      groups ≠ [] ∧ (∀ g ∈ groups, g ≠ []) ∧
      statement = deleteStatement table condition ∧ params = some bound ∧
      ∀ others, Asks bound condition others ↔ others = groups

section Log

variable {table : String} {past sent : List Exchange}

lemma isCreate_createStatement (table : String) :
    (Call.command (createStatement table) none).isCreate table = true :=
  beq_self_eq_true _

lemma hasCreated_append :
    HasCreated table (past ++ sent) ↔ HasCreated table past ∨ HasCreated table sent := by
  simp only [HasCreated, List.mem_append, or_and_right, exists_or]

lemma hasCreated_singleton {call : Call} {answer : Except Fault (List Value)} :
    HasCreated table [⟨call, answer⟩] ↔
      call.isCreate table = true ∧ ∃ values, answer = .ok values := by
  simp [HasCreated]

lemma not_hasCreated (h : ∀ e ∈ sent, e.call.isCreate table = false) : ¬ HasCreated table sent := by
  rintro ⟨e, he, hcreate, -⟩
  rw [h e he] at hcreate
  cases hcreate

lemma isCreate_of_connects {settings : Settings}
    (h : ∀ e ∈ sent, e.call = .connect (connection settings)) :
    ∀ e ∈ sent, e.call.isCreate table = false := by
  intro e he
  rw [h e he]
  rfl

lemma needsTable_of_prepares {call : Call} (h : call.prepares = true) :
    call.needsTable table = false ∧ call.isCreate table = false := by
  cases call <;> first | exact ⟨rfl, rfl⟩ | cases h

lemma needsTable_of_isCreate {call : Call} (h : call.isCreate table = true) :
    call.needsTable table = false := by
  cases call with
  | command statement params => rw [Call.needsTable, h, Bool.not_true]
  | _ => cases h

end Log

section Opens

variable {settings : Settings} {table : String} {s s' : Session} {sent : List Exchange}
  {ended : Except Fault Unit}

lemma Opens.needsTable (h : Opens settings table s ended sent s') :
    ∀ e ∈ sent, e.call.needsTable table = false := by
  have hlast {connecting : List Exchange} {answer : Except Fault (List Value)}
      (h : ∀ e ∈ connecting, e.call = .connect (connection settings)) :
      ∀ e ∈ connecting ++ [⟨.command (createStatement table) none, answer⟩],
        e.call.needsTable table = false := by
    refine List.forall_mem_append.2 ⟨fun e he => by rw [h e he]; rfl, ?_⟩
    exact List.forall_mem_singleton.2 (needsTable_of_isCreate (isCreate_createStatement table))
  cases h with
  | ready => simp
  | unreachable => simp [Call.needsTable]
  | refused _ hconnecting => exact hlast hconnecting
  | created _ hconnecting => exact hlast hconnecting

lemma Opens.created_iff (h : Opens settings table s ended sent s') :
    s'.tableReady = true ↔ s.tableReady = true ∨ HasCreated table sent := by
  cases h with
  | ready hready => simp [hready]
  | unreachable => simp [hasCreated_singleton, Call.isCreate]
  | refused hready hconnecting =>
    have hnone : ¬ HasCreated table _ := not_hasCreated (isCreate_of_connects hconnecting)
    simp [hasCreated_append, hasCreated_singleton, hready, hnone]
  | created => simp [hasCreated_append, hasCreated_singleton, isCreate_createStatement]

/-- The creation is asked for only if it is not confirmed, and once. -/
lemma Opens.countP_isCreate (h : Opens settings table s ended sent s') :
    sent.countP (·.call.isCreate table) ≤ if s.tableReady then 0 else 1 := by
  have hnone {connecting : List Exchange}
      (h : ∀ e ∈ connecting, e.call = .connect (connection settings)) :
      connecting.countP (·.call.isCreate table) = 0 :=
    List.countP_eq_zero.2 fun e he => by simp [isCreate_of_connects h e he]
  cases h with
  | ready => simp
  | unreachable => simp [Call.isCreate]
  | refused hready hconnecting => simp [hready, hnone hconnecting, isCreate_createStatement]
  | created hready hconnecting => simp [hready, hnone hconnecting, isCreate_createStatement]

/-- A connection that there is stays, and to ask for the creation there has to be one. -/
lemma Opens.connected (h : Opens settings table s ended sent s')
    (hs : s.connected = true ∨ ∃ e ∈ sent, e.call.isCreate table = true) : s'.connected = true := by
  cases h with
  | ready => simpa using hs
  | unreachable => simpa [Call.isCreate] using hs
  | refused => rfl
  | created => rfl

end Opens

section Sends

variable {settings : Settings} {table : String} {operation : Operation} {s s' : Session}
  {sent : List Exchange}

lemma Works.isCreate (h : Works table operation sent) : ∀ e ∈ sent, e.call.isCreate table = false := by
  obtain ⟨prepared, last, rfl, hprepared, hlast⟩ := h
  refine List.forall_mem_append.2 ⟨fun e he => (needsTable_of_prepares (hprepared e he)).2, ?_⟩
  rcases hlast with rfl | ⟨⟨call, answer⟩, rfl, hconcludes⟩
  · simp
  · rw [List.forall_mem_singleton]
    cases hconcludes <;> rfl

lemma eq_of_concat {α : Type} {xs before rest : List α} {x y : α} (h : xs ++ [x] = before ++ y :: rest)
    (hy : y ∉ xs) : before = xs ∧ y = x ∧ rest = [] := by
  rcases List.eq_nil_or_concat rest with rfl | ⟨rest, z, rfl⟩
  · obtain ⟨hxs, hx⟩ := List.append_inj' h rfl
    exact ⟨hxs.symm, (List.cons.inj hx).1.symm, rfl⟩
  · rw [List.concat_eq_append, ← List.cons_append, ← List.append_assoc] at h
    rw [(List.append_inj' h rfl).1] at hy
    simp at hy

/-- What is sent that needs the table is the last thing sent, it is the statement that the operation
is about, and the table is there by then. -/
lemma Sends.statement (h : Sends settings table operation s sent s')
    {before rest : List Exchange} {e : Exchange} (hsent : sent = before ++ e :: rest)
    (he : e.call.needsTable table = true) :
    ∃ opening prepared, before = opening ++ prepared ∧ rest = [] ∧
      (∀ x ∈ before, x.call.needsTable table = false) ∧
      (s.tableReady = true ∨ HasCreated table opening) ∧
      Concludes table operation prepared e.call := by
  have hmem : e ∈ sent := by simp [hsent]
  cases h with
  | idle => cases hmem
  | stopped _ hopens =>
    rw [hopens.needsTable e hmem] at he
    cases he
  | @worked _ _ opening _ _ hopens _ hworks =>
    obtain ⟨prepared, last, rfl, hprepared, hlast⟩ := hworks
    have hbefore : ∀ x ∈ opening ++ prepared, x.call.needsTable table = false :=
      List.forall_mem_append.2 ⟨hopens.needsTable, fun x hx =>
        (needsTable_of_prepares (hprepared x hx)).1⟩
    have hnot : e ∉ opening ++ prepared := fun hin => by
      rw [hbefore e hin] at he
      cases he
    rcases hlast with rfl | ⟨x, rfl, hconcludes⟩
    · rw [List.append_nil] at hmem
      exact absurd hmem hnot
    · rw [← List.append_assoc] at hsent
      obtain ⟨rfl, rfl, rfl⟩ := eq_of_concat hsent hnot
      refine ⟨opening, prepared, rfl, rfl, hbefore, ?_, hconcludes⟩
      rw [← hopens.created_iff]
      cases hopens with
      | ready hready => exact hready
      | created => rfl

lemma Sends.created_iff (h : Sends settings table operation s sent s') :
    s'.tableReady = true ↔ s.tableReady = true ∨ HasCreated table sent := by
  cases h with
  | idle => simp [HasCreated]
  | stopped _ hopens => exact hopens.created_iff
  | worked _ hopens hretains hworks =>
    rw [hretains.tableReady, hopens.created_iff, hasCreated_append,
      or_iff_left (not_hasCreated hworks.isCreate)]

lemma Sends.countP_isCreate (h : Sends settings table operation s sent s') :
    sent.countP (·.call.isCreate table) ≤ if s.tableReady then 0 else 1 := by
  cases h with
  | idle => simp
  | stopped _ hopens => exact hopens.countP_isCreate
  | @worked _ _ opening sent _ hopens _ hworks =>
    have hnone : sent.countP (·.call.isCreate table) = 0 :=
      List.countP_eq_zero.2 fun e he => by simp [hworks.isCreate e he]
    rw [List.countP_append, hnone]
    exact hopens.countP_isCreate

lemma Sends.connected (h : Sends settings table operation s sent s')
    (hs : s.connected = true ∨ ∃ e ∈ sent, e.call.isCreate table = true) : s'.connected = true := by
  cases h with
  | idle => simpa using hs
  | stopped _ hopens => exact hopens.connected hs
  | worked _ hopens hretains hworks =>
    refine hretains.connected (hopens.connected (hs.imp_right fun ⟨e, he, hcreate⟩ => ?_))
    rcases List.mem_append.1 he with he | he
    · exact ⟨e, he, hcreate⟩
    · rw [hworks.isCreate e he] at hcreate
      cases hcreate

/-- Before the creation is confirmed, an operation asks for it, unless there is no connection. -/
lemma Sends.asks (h : Sends settings table operation s sent s') (hready : s.tableReady = false)
    (hwork : operation.hasWork = true) :
    (∃ before e rest, sent = before ++ e :: rest ∧ e.call.isCreate table = true ∧
      ∀ x ∈ before, x.call = .connect (connection settings)) ∨
    s.connected = false ∧ ∃ f, sent = [⟨.connect (connection settings), .error f⟩] := by
  cases h with
  | idle hidle =>
    rw [hidle] at hwork
    cases hwork
  | stopped _ hopens =>
    cases hopens with
    | unreachable _ hconnected => exact .inr ⟨hconnected, _, rfl⟩
    | refused _ hconnecting =>
      exact .inl ⟨_, _, [], rfl, isCreate_createStatement table, hconnecting⟩
  | @worked _ _ _ sent _ hopens =>
    cases hopens with
    | ready h =>
      rw [hready] at h
      cases h
    | created _ hconnecting =>
      exact .inl ⟨_, _, sent, List.append_assoc .., isCreate_createStatement table, hconnecting⟩

end Sends

section Turns

variable {settings : Settings} {table : String} {past : List Exchange} {turn : Turn}
  {s s' : Session}

lemma map_zipWith_rowOf {docs : List Document} {vectors : List Value}
    (h : vectors.length = docs.length) :
    (docs.zipWith rowOf vectors).map (fun r => (r.content, r.metadata)) =
      docs.map fun d => (d.text, d.metadata.map fun f => (f.1, f.2.metadataText)) := by
  induction docs generalizing vectors with
  | nil => rfl
  | cons d docs ih =>
    cases vectors with
    | nil => cases h
    | cons v vectors =>
      rw [List.zipWith_cons_cons, List.map_cons, ih (Nat.succ.inj h)]
      rfl

lemma needsTable_of_isInsert {call : Call} (h : call.isInsert = true) :
    call.needsTable table = true := by
  cases call <;> first | rfl | cases h

lemma filter_isInsert {before : List Exchange} {e : Exchange}
    (hbefore : ∀ x ∈ before, x.call.needsTable table = false) (he : e.call.isInsert = true) :
    (before ++ [e]).filter (·.call.isInsert) = [e] := by
  have hnone : before.filter (·.call.isInsert) = [] := by
    refine List.filter_eq_nil_iff.2 fun x hx hinsert => ?_
    have hneeds : x.call.needsTable table = true := needsTable_of_isInsert hinsert
    rw [hbefore x hx] at hneeds
    cases hneeds
  simp [hnone, he]

/-- The index knows what the server has confirmed, and has a connection once it has asked for the
table. -/
structure Informed (table : String) (s : Session) (past : List Exchange) : Prop where
  ready : s.tableReady = true ↔ HasCreated table past
  connected : (∃ e ∈ past, e.call.isCreate table = true) → s.connected = true

lemma Sends.informed {operation : Operation} {sent : List Exchange}
    (h : Sends settings table operation s sent s') (hs : Informed table s past) :
    Informed table s' (past ++ sent) := by
  refine ⟨by rw [h.created_iff, hs.ready, hasCreated_append], ?_⟩
  rintro ⟨e, he, hcreate⟩
  rcases List.mem_append.1 he with he | he
  · exact h.connected (.inl (hs.connected ⟨e, he, hcreate⟩))
  · exact h.connected (.inr ⟨e, he, hcreate⟩)

/-- An operation of an informed index keeps to the discipline. -/
lemma Sends.disciplined (h : Sends settings table turn.operation s turn.sent s')
    (hs : Informed table s past) : Disciplined settings table past turn where
  needsTable before e rest hsent he := by
    obtain ⟨opening, prepared, rfl, -, -, hthere, -⟩ := h.statement hsent he
    rw [hasCreated_append, hasCreated_append, ← hs.ready]
    exact hthere.imp_right .inl
  createsOnce before e rest hsent he hcreated := by
    -- A creation that is confirmed within the turn would be a second one that the turn asks for.
    have hcount := h.countP_isCreate
    rw [hsent, List.countP_append, List.countP_cons, if_pos he] at hcount
    rw [hasCreated_append, ← hs.ready] at hcreated
    rcases hcreated with hready | ⟨x, hx, hcreate, -⟩
    · rw [if_pos hready] at hcount
      omega
    · have hpos : 0 < before.countP (·.call.isCreate table) :=
        List.countP_pos_iff.2 ⟨x, hx, hcreate⟩
      split at hcount <;> omega
  createsAgain hwork hnone := by
    -- Whoever has asked for the creation has been connected, and a connection stays.
    rw [← hs.ready, Bool.not_eq_true] at hnone
    refine (h.asks hnone hwork).imp_right fun ⟨hconnected, hfailed⟩ => ⟨?_, hfailed⟩
    intro e he
    by_contra hcreate
    rw [Bool.not_eq_false] at hcreate
    rw [hs.connected ⟨e, he, hcreate⟩] at hconnected
    cases hconnected
  idle hidle := by
    generalize turn.sent = sent at h
    cases h with
    | idle => rfl
    | _ hwork => simp [hidle] at hwork
  inserts e he hinsert := by
    obtain ⟨before, rest, hsent⟩ := List.append_of_mem he
    obtain ⟨opening, prepared, rfl, rfl, hbefore, -, hconcludes⟩ :=
      h.statement hsent (needsTable_of_isInsert hinsert)
    rw [hsent, filter_isInsert hbefore hinsert]
    rcases e with ⟨call, answer⟩
    generalize turn.operation = operation at hconcludes
    cases hconcludes with
    | @insert docs vectors _ hencode =>
      exact ⟨docs, vectors, rfl, by simp [hencode], rfl, rfl, map_zipWith_rowOf⟩
    | _ => cases hinsert
  deletes e he statement params hcall hcreate := by
    obtain ⟨before, rest, hsent⟩ := List.append_of_mem he
    have hneeds : e.call.needsTable table = true := by
      rw [hcall] at hcreate ⊢
      rw [Call.needsTable, hcreate]
      rfl
    obtain ⟨opening, prepared, -, -, -, -, hconcludes⟩ := h.statement hsent hneeds
    rw [hcall] at hconcludes
    generalize turn.operation = operation at hconcludes
    cases hconcludes with
    | delete hparse hrenders =>
      obtain ⟨hne, hgroups⟩ := ne_nil_of_parse hparse
      exact ⟨_, _, _, _, rfl, hparse, hne, hgroups, rfl, rfl, hrenders.asks⟩

end Turns

section Runs

variable (settings : Settings) (server : Server) (table : String)

lemma disciplined_from (operations : List Operation) (scene : Scene (Session × List Exchange))
    (hs : Informed table scene.world.1 scene.world.2) {before after : List Turn} {turn : Turn}
    (h : turnsFrom settings server table operations scene = before ++ turn :: after) :
    Disciplined settings table (scene.world.2 ++ before.flatMap (·.sent)) turn := by
  induction operations generalizing scene before with
  | nil => simp [turnsFrom] at h
  | cons operation rest ih =>
    obtain ⟨journal, s, past⟩ := scene
    have hact : Ensures (operation.act settings server.client table) s past fun _ s' sent =>
      Sends settings table operation s sent s' := ensures_act operation
    obtain ⟨ended, journal', s', sent, hperform, hsends⟩ := hact journal
    simp only [turnsFrom, hperform, List.drop_left] at h
    cases before with
    | nil =>
      obtain ⟨rfl, -⟩ := List.cons.inj h
      rw [List.flatMap_nil, List.append_nil]
      exact Sends.disciplined hsends hs
    | cons first before =>
      obtain ⟨rfl, hrest⟩ := List.cons.inj h
      rw [List.flatMap_cons, ← List.append_assoc]
      exact ih _ (hsends.informed hs) hrest

/-- The first creation fails and is asked for again; the third addition finds the table created. -/
example (settings : Settings) :
    let server : Server := fun past _ =>
      if past.length = 1 then .error ⟨.transport, ""⟩ else .ok [.null]
    let addition : Operation := .add [{ text := "text", metadata := [] }]
    (turnsFrom settings server "chunks" [addition, addition, addition] ⟨[], ({}, [])⟩).map
      (·.sent.length) = [2, 4, 2] := rfl

end Runs

end IncidentTriage.Index

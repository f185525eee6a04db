import IncidentTriage.Proofs.Act
import IncidentTriage.Proofs.Filter.Bound
import IncidentTriage.Proofs.Filter.Reading
import IncidentTriage.Index.Statement

/-!
# What an index asks of its store

A server answers every call as it likes, a failure included, given all that was asked before. What an
operation of an index asks of it has three parts: it opens the table, unless that has been done; it
prepares what it needs; and it concludes with the one statement that it is about, unless something
fails on the way.
-/

namespace IncidentTriage.Index
open IncidentTriage.Filter Session

inductive Call
  | connect (fields : Fields)
  | loadModel (name : String)
  | command (statement : String) (params : Option Parameters)
  | encode (texts : List String)
  | insert (table : String) (columns : List String) (rows : List Row)
  | query (statement : String) (params : Parameters)

/-- A call and the answer to it. -/
structure Exchange where
  call : Call
  answer : Except Fault (List Value)

/-- How calls are answered, after all that was asked before. -/
abbrev Server := List Exchange → Call → Except Fault (List Value)

namespace Server

variable (server : Server)

def ask (call : Call) : Act (List Exchange) (List Value) := do
  let past ← Act.world
  Act.setWorld (past ++ [⟨call, server past call⟩])
  Act.ofOutcome (server past call)

/-- A call whose answer says no more than that it succeeded. -/
def tell (call : Call) : Act (List Exchange) Unit :=
  (fun _ => ()) <$> server.ask call

def client : Client (List Exchange) where
  connect fields := server.tell (.connect fields)
  loadModel name := server.tell (.loadModel name)
  command statement params := server.tell (.command statement params)
  encode texts := server.ask (.encode texts)
  insert table columns rows := server.tell (.insert table columns rows)
  query statement params := server.ask (.query statement params)

end Server

inductive Operation
  | add (docs : List Document)
  | search (question : String) (topK : Int) (minScore : Value) (filter : Option String)
  | delete (filter : Option String)

namespace Operation

def act {ω : Type} (settings : Settings) (client : Client ω) (table : String) :
    Operation → Act (Session × ω) Unit
  | .add docs => (fun _ => ()) <$> Session.add settings client table docs
  | .search question topK minScore filter =>
    (fun _ => ()) <$> Session.search settings client table question topK minScore filter
  | .delete filter => Session.delete settings client table filter

/-- There is something to be done: not so for no documents, and without a filter to delete by. -/
def hasWork : Operation → Bool
  | .add docs => !docs.isEmpty
  | .search .. => true
  | .delete none => false
  | .delete (some filter) => !filter.isEmpty

end Operation

/-- The statement that an operation is about, after what was asked to prepare it. -/
inductive Concludes (table : String) : Operation → List Exchange → Call → Prop
  | insert {docs : List Document} {vectors : List Value} {prepared : List Exchange}
      (hencode : ⟨.encode (docs.map (·.text)), .ok vectors⟩ ∈ prepared) :
      Concludes table (.add docs) prepared (.insert table columns (docs.zipWith rowOf vectors))
  | query {question : String} {topK : Int} {minScore : Value} {filter : Option String}
      {prepared : List Exchange} (statement : String) (params : Parameters) :
      Concludes table (.search question topK minScore filter) prepared (.query statement params)
  | delete {filter condition : String} {groups : List Group} {params : Parameters}
      {prepared : List Exchange} (hparse : parse filter = .ok groups)
      (hrenders : Renders [] groups condition params) :
      Concludes table (.delete (some filter)) prepared
        (.command (deleteStatement table condition) (some params))

/-- What is asked before the statement of an operation. -/
def Call.prepares : Call → Bool
  | .connect _ | .loadModel _ | .encode _ => true
  | _ => false

/-- What an operation asks once the table is there. -/
def Works (table : String) (operation : Operation) (sent : List Exchange) : Prop :=
  ∃ prepared last : List Exchange, sent = prepared ++ last ∧
    (∀ e ∈ prepared, e.call.prepares = true) ∧
    (last = [] ∨ ∃ e, last = [e] ∧ Concludes table operation prepared e.call)

/-- What is asked to have the table there, from a session on, and the session it leaves. -/
inductive Opens (settings : Settings) (table : String) (s : Session) :
    Except Fault Unit → List Exchange → Session → Prop
  | ready (h : s.tableReady = true) : Opens settings table s (.ok ()) [] s
  | unreachable (h : s.tableReady = false) (hconnected : s.connected = false) (f : Fault) :
      Opens settings table s (.error f) [⟨.connect (connection settings), .error f⟩] s
  | refused {connecting : List Exchange} (h : s.tableReady = false)
      (hconnecting : ∀ e ∈ connecting, e.call = .connect (connection settings)) (f : Fault) :
      Opens settings table s (.error f)
        (connecting ++ [⟨.command (createStatement table) none, .error f⟩])
        { s with connected := true }
  | created {connecting : List Exchange} (h : s.tableReady = false)
      (hconnecting : ∀ e ∈ connecting, e.call = .connect (connection settings))
      (values : List Value) :
      Opens settings table s (.ok ())
        (connecting ++ [⟨.command (createStatement table) none, .ok values⟩])
        { s with connected := true, tableReady := true }

/-- The table is taken to be there as before, and no connection is lost. -/
structure Retains (s s' : Session) : Prop where
  tableReady : s'.tableReady = s.tableReady
  connected : s.connected = true → s'.connected = true

/-- What an operation asks, from a session on, and the session it leaves. -/
inductive Sends (settings : Settings) (table : String) (operation : Operation) (s : Session) :
    List Exchange → Session → Prop
  | idle (h : operation.hasWork = false) : Sends settings table operation s [] s
  | stopped {s' : Session} {sent : List Exchange} {f : Fault} (hwork : operation.hasWork = true)
      (hopens : Opens settings table s (.error f) sent s') :
      Sends settings table operation s sent s'
  | worked {s' s'' : Session} {opening sent : List Exchange} (hwork : operation.hasWork = true)
      (hopens : Opens settings table s (.ok ()) opening s') (hretains : Retains s' s'')
      (hworks : Works table operation sent) :
      Sends settings table operation s (opening ++ sent) s''

/-- From the session on, after all that was asked, the act ends so that `Q` holds of its end, of the
session it leaves and of what it asked. -/
def Ensures {α : Type} (act : Act (Session × List Exchange) α) (s : Session) (past : List Exchange)
    (Q : Except Fault α → Session → List Exchange → Prop) : Prop :=
  ∀ journal, ∃ e journal' s' sent,
    act.perform ⟨journal, (s, past)⟩ = (e, ⟨journal', (s', past ++ sent)⟩) ∧ Q e s' sent

section Ensures

variable {α β : Type} {s : Session} {past : List Exchange}
  {Q : Except Fault α → Session → List Exchange → Prop} {server : Server}

lemma Ensures.mono {P : Except Fault α → Session → List Exchange → Prop}
    {act : Act (Session × List Exchange) α} (h : Ensures act s past P)
    (hPQ : ∀ e s' sent, P e s' sent → Q e s' sent) : Ensures act s past Q := by
  intro journal
  obtain ⟨e, journal', s', sent, hperform, hP⟩ := h journal
  exact ⟨e, journal', s', sent, hperform, hPQ e s' sent hP⟩

lemma ensures_ofOutcome {r : Except Fault α} (h : Q r s []) : Ensures (Act.ofOutcome r) s past Q := by
  intro journal
  exact ⟨r, journal, s, [], by simp, h⟩

lemma ensures_pure {a : α} (h : Q (.ok a) s []) : Ensures (pure a) s past Q :=
  ensures_ofOutcome h

lemma ensures_throw {f : Fault} (h : Q (.error f) s []) : Ensures (throw f) s past Q :=
  ensures_ofOutcome h

lemma ensures_own {Q : Except Fault Session → Session → List Exchange → Prop} (h : Q (.ok s) s []) :
    Ensures Act.own s past Q := by
  intro journal
  exact ⟨.ok s, journal, s, [], by simp, h⟩

lemma ensures_note {Q : Except Fault Unit → Session → List Exchange → Prop} (level : Level)
    (author : String) (text : Text.Wide) (h : Q (.ok ()) s []) :
    Ensures (Act.note level author text) s past Q := by
  intro journal
  exact ⟨.ok (), _, s, [], by rw [Act.perform_note, List.append_nil], h⟩

lemma ensures_modifyOwn {Q : Except Fault Unit → Session → List Exchange → Prop}
    {f : Session → Session} (h : Q (.ok ()) (f s) []) : Ensures (Act.modifyOwn f) s past Q := by
  intro journal
  exact ⟨.ok (), journal, f s, [], by simp, h⟩

lemma ensures_ask {Q : Except Fault (List Value) → Session → List Exchange → Prop} {call : Call}
    (h : ∀ answer, Q answer s [⟨call, answer⟩]) : Ensures (Act.outside (server.ask call)) s past Q := by
  intro journal
  exact ⟨server past call, journal, s, _, by simp [Server.ask], h _⟩

lemma ensures_map {f : α → β} {act : Act (Session × List Exchange) α}
    {Q : Except Fault β → Session → List Exchange → Prop}
    (h : Ensures act s past fun e s' sent => Q (e.map f) s' sent) : Ensures (f <$> act) s past Q := by
  intro journal
  obtain ⟨e, journal', s', sent, hperform, hQ⟩ := h journal
  exact ⟨e.map f, journal', s', sent, by rw [Act.perform_map, hperform], hQ⟩

lemma ensures_tell {Q : Except Fault Unit → Session → List Exchange → Prop} {call : Call}
    (h : ∀ answer, Q (answer.map fun _ => ()) s [⟨call, answer⟩]) :
    Ensures (Act.outside (server.tell call)) s past Q := by
  intro journal
  exact ⟨(server past call).map fun _ => (), journal, s, _,
    by simp [Server.tell, Server.ask], h _⟩

/-- An act is followed by the next one if it ends with a value, and by nothing if it fails. -/
lemma ensures_bind {Q : Except Fault β → Session → List Exchange → Prop}
    {act : Act (Session × List Exchange) α} {next : α → Act (Session × List Exchange) β}
    (h : Ensures act s past fun e s' sent =>
      match e with
      | .ok a => Ensures (next a) s' (past ++ sent) fun e' s'' more => Q e' s'' (sent ++ more)
      | .error f => Q (.error f) s' sent) :
    Ensures (act >>= next) s past Q := by
  intro journal
  obtain ⟨e, journal', s', sent, hperform, hnext⟩ := h journal
  rw [Act.perform_bind, hperform]
  cases e with
  | error f => exact ⟨.error f, journal', s', sent, rfl, hnext⟩
  | ok a =>
    obtain ⟨e, journal'', s'', more, hperform', hQ⟩ := hnext journal'
    exact ⟨e, journal'', s'', sent ++ more, by rw [Act.continued_ok, hperform', List.append_assoc], hQ⟩

end Ensures

section Acts

variable {settings : Settings} {server : Server} {table : String} {s : Session}
  {past : List Exchange}

lemma Retains.refl (s : Session) : Retains s s :=
  ⟨rfl, id⟩

lemma Retains.trans {s s' s'' : Session} (h : Retains s s') (h' : Retains s' s'') : Retains s s'' :=
  ⟨h'.tableReady.trans h.tableReady, h'.connected ∘ h.connected⟩

lemma retains_connected (s : Session) : Retains s { s with connected := true } :=
  ⟨rfl, fun _ => rfl⟩

lemma ensures_ensureConnected :
    Ensures (ensureConnected settings server.client) s past fun e s' sent =>
      (∀ x ∈ sent, x.call = .connect (connection settings)) ∧
        match e with
        | .ok _ => s' = { s with connected := true }
        | .error f => s.connected = false ∧ s' = s ∧
            sent = [⟨.connect (connection settings), .error f⟩] := by
  refine ensures_bind (ensures_own ?_)
  dsimp only
  cases hconnected : s.connected with
  | true =>
    refine ensures_pure ⟨by simp, ?_⟩
    rw [← hconnected]
  | false =>
    refine ensures_bind (ensures_tell fun answer => ?_)
    cases answer with
    | ok values => exact ensures_modifyOwn ⟨by simp, rfl⟩
    | error f => exact ⟨by simp, rfl, rfl, rfl⟩

lemma ensures_ensureModel :
    Ensures (ensureModel settings server.client) s past fun _ s' sent =>
      Retains s s' ∧ ∀ x ∈ sent, x.call.prepares = true := by
  refine ensures_bind (ensures_own ?_)
  dsimp only
  split
  · refine ensures_bind (ensures_note _ _ _ (ensures_bind (ensures_tell fun answer => ?_)))
    cases answer with
    | ok values => exact ensures_modifyOwn ⟨⟨rfl, id⟩, by simp [Call.prepares]⟩
    | error f => exact ⟨.refl s, by simp [Call.prepares]⟩
  · exact ensures_pure ⟨.refl s, by simp⟩

lemma ensures_embed (texts : List String) :
    Ensures (embed settings server.client texts) s past fun e s' sent =>
      Retains s s' ∧ (∀ x ∈ sent, x.call.prepares = true) ∧
        ∀ vectors, e = .ok vectors → ⟨.encode texts, .ok vectors⟩ ∈ sent := by
  refine ensures_bind (ensures_ensureModel.mono ?_)
  rintro (f | ⟨⟩) s' sent ⟨hretains, hsent⟩
  · exact ⟨hretains, hsent, by simp⟩
  · refine ensures_ask fun answer => ⟨hretains, ?_, ?_⟩
    · simpa [or_imp, forall_and, Call.prepares] using hsent
    · rintro vectors rfl
      simp

lemma ensures_ensureTable :
    Ensures (ensureTable settings server.client table) s past fun e s' sent =>
      Opens settings table s e sent s' := by
  refine ensures_bind (ensures_own ?_)
  dsimp only
  cases hready : s.tableReady with
  | true => exact ensures_pure (.ready hready)
  | false =>
    refine ensures_bind (ensures_ensureConnected.mono ?_)
    rintro (f | ⟨⟩) s' sent ⟨hconnecting, hend⟩
    · obtain ⟨hconnected, rfl, rfl⟩ := hend
      exact .unreachable hready hconnected f
    · subst hend
      refine ensures_bind (ensures_tell fun answer => ?_)
      cases answer with
      | ok values => exact ensures_modifyOwn (.created hready hconnecting values)
      | error f => exact .refused hready hconnecting f

/-- What an operation asks, by what it asks once the table is there. -/
lemma ensures_once_open {α : Type} {operation : Operation} (hwork : operation.hasWork = true)
    {rest : Act (Session × List Exchange) α}
    (hrest : ∀ s past, Ensures rest s past fun _ s' sent =>
      Retains s s' ∧ Works table operation sent) :
    Ensures (ensureTable settings server.client table >>= fun _ => rest) s past fun _ s' sent =>
      Sends settings table operation s sent s' := by
  refine ensures_bind (ensures_ensureTable.mono ?_)
  rintro (f | ⟨⟩) s' opening hopens
  · exact .stopped hwork hopens
  · exact (hrest s' _).mono fun _ s'' sent hworked => .worked hwork hopens hworked.1 hworked.2

lemma works_of_prepares {operation : Operation} {prepared : List Exchange}
    (h : ∀ e ∈ prepared, e.call.prepares = true) : Works table operation prepared :=
  ⟨prepared, [], (List.append_nil _).symm, h, .inl rfl⟩

/-- An operation ends with its statement, unless there is no connection. -/
lemma ensures_conclude {α : Type} {operation : Operation} {prepared : List Exchange} {call : Call}
    {stating : Act (Session × List Exchange) α}
    (hprepared : ∀ e ∈ prepared, e.call.prepares = true)
    (hconcludes : ∀ more, Concludes table operation (prepared ++ more) call)
    (hstating : ∀ s past, Ensures stating s past fun _ s' sent =>
      s' = s ∧ ∃ answer, sent = [⟨call, answer⟩]) :
    Ensures (ensureConnected settings server.client >>= fun _ => stating) s past fun _ s' sent =>
      Retains s s' ∧ Works table operation (prepared ++ sent) := by
  have hall {connecting : List Exchange}
      (h : ∀ e ∈ connecting, e.call = .connect (connection settings)) :
      ∀ e ∈ prepared ++ connecting, e.call.prepares = true :=
    List.forall_mem_append.2 ⟨hprepared, fun e he => by rw [h e he]; rfl⟩
  refine ensures_bind (ensures_ensureConnected.mono ?_)
  rintro (f | ⟨⟩) s' connecting ⟨hconnecting, hend⟩
  · obtain ⟨-, rfl, -⟩ := hend
    exact ⟨.refl s', works_of_prepares (hall hconnecting)⟩
  · subst hend
    refine (hstating _ _).mono ?_
    rintro e s' sent ⟨rfl, answer, rfl⟩
    refine ⟨retains_connected s, prepared ++ connecting, [⟨call, answer⟩],
      (List.append_assoc ..).symm, hall hconnecting, .inr ⟨_, rfl, hconcludes connecting⟩⟩

lemma ensures_add {docs : List Document} (hdocs : docs ≠ []) :
    Ensures (Session.add settings server.client table docs) s past fun _ s' sent =>
      Sends settings table (.add docs) s sent s' := by
  rw [Session.add, if_neg (by simpa using hdocs)]
  refine ensures_once_open (by simpa [Operation.hasWork] using hdocs) fun s past => ?_
  refine ensures_bind ((ensures_embed _).mono ?_)
  rintro (f | vectors) s' encoding ⟨hretains, hencoding, hencode⟩
  · exact ⟨hretains, works_of_prepares hencoding⟩
  · have hconcludes (more : List Exchange) : Concludes table (.add docs) (encoding ++ more)
        (.insert table columns (docs.zipWith rowOf vectors)) :=
      .insert (List.mem_append_left _ (hencode vectors rfl))
    refine (ensures_conclude hencoding hconcludes fun s past => ?_).mono
      fun _ s'' sent h => ⟨hretains.trans h.1, h.2⟩
    refine ensures_bind (ensures_tell fun answer => ?_)
    cases answer with
    | ok values => exact ensures_bind (ensures_note _ _ _ (ensures_pure ⟨rfl, _, rfl⟩))
    | error f => exact ⟨rfl, _, rfl⟩

lemma ensures_search (question : String) (topK : Int) (minScore : Value) (filter : Option String) :
    Ensures (Session.search settings server.client table question topK minScore filter) s past
      fun _ s' sent => Sends settings table (.search question topK minScore filter) s sent s' := by
  rw [Session.search]
  refine ensures_once_open rfl fun s past => ?_
  refine ensures_bind ((ensures_embed _).mono ?_)
  rintro (f | vectors) s' encoding ⟨hretains, hencoding, -⟩
  · exact ⟨hretains, works_of_prepares hencoding⟩
  · dsimp only
    generalize toSqlWith [("emb", vectors.headD .null), ("min_score", minScore),
      ("limit", .int topK)] filter = rendered
    obtain ⟨condition, params⟩ := rendered
    refine ensures_bind (ensures_ofOutcome ?_)
    cases condition with
    | error e => exact ⟨hretains, by simpa using works_of_prepares hencoding⟩
    | ok condition =>
      refine (ensures_conclude hencoding (fun _ => .query (searchStatement table condition) params)
        fun s past => ?_).mono fun _ s'' sent h => ⟨hretains.trans h.1, h.2⟩
      refine ensures_bind (ensures_ask fun answer => ?_)
      cases answer with
      | ok rows => exact ensures_ofOutcome ⟨rfl, _, rfl⟩
      | error f => exact ⟨rfl, _, rfl⟩

lemma ensures_delete {filter : String} (hfilter : filter ≠ "") :
    Ensures (Session.delete settings server.client table (some filter)) s past fun _ s' sent =>
      Sends settings table (.delete (some filter)) s sent s' := by
  rw [Session.delete, if_neg (by simpa using hfilter)]
  refine ensures_once_open (by simpa [Operation.hasWork] using hfilter) fun s past => ?_
  have hnone : ∀ e ∈ ([] : List Exchange), e.call.prepares = true := by simp
  cases hparse : parse filter with
  | error e =>
    rw [toSqlWith_of_error hfilter hparse]
    exact ensures_bind (ensures_ofOutcome ⟨.refl s, works_of_prepares hnone⟩)
  | ok groups =>
    have hcounted : Counted [] := fun p hp => absurd hp List.not_mem_nil
    rw [toSqlWith_eq hcounted hfilter hparse]
    exact ensures_bind (ensures_ofOutcome (ensures_conclude hnone
      (fun _ => .delete hparse (renders_bindings hcounted groups))
      fun s past => ensures_tell fun answer => ⟨rfl, _, rfl⟩))

/-- What an operation asks, whatever the server answers. -/
lemma ensures_act (operation : Operation) :
    Ensures (operation.act settings server.client table) s past fun _ s' sent =>
      Sends settings table operation s sent s' := by
  cases operation with
  | add docs =>
    by_cases hdocs : docs = []
    · subst hdocs
      exact ensures_map (ensures_pure (.idle rfl))
    · exact ensures_map (ensures_add hdocs)
  | search question topK minScore filter =>
    exact ensures_map (ensures_search question topK minScore filter)
  | delete filter =>
    cases filter with
    | none => exact ensures_throw (.idle rfl)
    | some filter =>
      by_cases hfilter : filter = ""
      · subst hfilter
        exact ensures_throw (.idle rfl)
      · exact ensures_delete hfilter

end Acts

end IncidentTriage.Index

import IncidentTriage.Proofs.Backend.Script
import IncidentTriage.Proofs.Value.Nesting

/-!
# Batches

A batch lists the services until a listing brings any, as often as its policy allows and with its
pause after each empty listing but the last. Then it asks for the traces of each service that is
wanted, in the order of the listing and once each, and puts together what they bring. Nothing that
comes of these requests makes it list the services again.
-/

namespace IncidentTriage.Backend
open IncidentTriage.Text IncidentTriage.Act

/-- The names of services that the data of a listing hold. -/
def namesOf (data : List Json.Content) : List Wide :=
  (data.filter ValueOf.isPresent).map ValueOf.wideDisplay

/-- What a batch does: it lists the services, asks for the traces of one, or pauses after the given
attempt. With the first two goes what they bring. -/
inductive Call
  | services (found : Except Fault (List Wide))
  | traces (service : Wide) (found : Except Fault (List Json.Content))
  | pause (attempt : Nat)

section Course

variable (c : Client) (s : Script) (lookback : String) (limit : Int)

/-- What is called goes through the tier of single requests. -/
inductive Called : History → Call → History → Prop
  | services {past after : History} {e : Except Fault (List Json.Content)}
      (h : Brings c.requests s (.ok .services) past e after) :
      Called past (.services (e.map namesOf)) after
  | traces {service : Wide} {past after : History} {e : Except Fault (List Json.Content)}
      (h : Brings c.requests s (Request.traces s.toBounds service lookback limit) past e after) :
      Called past (.traces service (e.map (·.filter Client.isObject))) after
  | pause {attempt : Nat} {seconds : Float} {past : History}
      (h : c.batches.waitFor attempt = .ok seconds) :
      Called past (.pause attempt) (past ++ [.pausedBatch seconds])

/-- Calls made one after the other. -/
inductive Course : History → List Call → History → Prop
  | done (past : History) : Course past [] past
  | next {past between after : History} {call : Call} {calls : List Call}
      (h : Called c s lookback limit past call between) (hrest : Course between calls after) :
      Course past (call :: calls) after

end Course

/-- Empty listings from the given attempt on, each with the pause after it. -/
def dry (attempt n : Nat) : List Call :=
  (List.range' attempt n).flatMap fun k => [.services (.ok []), .pause k]

/-- The traces of services that have all been brought. -/
def served (services : List Wide) (parts : List (List Json.Content)) : List Call :=
  services.zipWith (fun service traces => .traces service (.ok traces)) parts

/-- The calls for the traces of services, each service in its turn, and their end: all traces put
together, or the first fault that the client has no answer to. -/
inductive Fetched (services : List Wide) : List Call → Except Fault (List Json.Content) → Prop
  | all {parts : List (List Json.Content)} (h : parts.length = services.length) :
      Fetched services (served services parts) (.ok parts.flatten)
  | upTo {before later : List Wide} {service : Wide} {parts : List (List Json.Content)} {f : Fault}
      (h : services = before ++ service :: later) (hparts : parts.length = before.length) :
      Fetched services (served before parts ++ [.traces service (.error f)]) (.error f)

/-- The calls of a batch from the given attempt on, which `more` may follow, and its end. -/
inductive Batched (c : Client) (attempt more : Nat) :
    List Call → Except Fault (List Json.Content) → Prop
  | empty : Batched c attempt more (dry attempt more ++ [.services (.ok [])]) (.ok [])
  | unlisted {n : Nat} {f : Fault} (hn : n ≤ more) :
      Batched c attempt more (dry attempt n ++ [.services (.error f)]) (.error f)
  | listed {n : Nat} {found : List Wide} {calls : List Call}
      {e : Except Fault (List Json.Content)} (hn : n ≤ more) (hfound : found ≠ [])
      (h : Fetched (c.wanted found) calls e) :
      Batched c attempt more (dry attempt n ++ .services (.ok found) :: calls) e

lemma dry_succ (attempt n : Nat) :
    dry attempt (n + 1) = .services (.ok []) :: .pause attempt :: dry (attempt + 1) n := by
  rw [dry, List.range'_succ, List.flatMap_cons]
  rfl

/-- One more empty listing may come before. -/
lemma Batched.cons {c : Client} {attempt more : Nat} {calls : List Call}
    {e : Except Fault (List Json.Content)} (h : Batched c (attempt + 1) more calls e) :
    Batched c attempt (more + 1) (.services (.ok []) :: .pause attempt :: calls) e := by
  cases h with
  | empty =>
    rw [← List.cons_append, ← List.cons_append, ← dry_succ]
    exact .empty
  | unlisted hn =>
    rw [← List.cons_append, ← List.cons_append, ← dry_succ]
    exact .unlisted (Nat.succ_le_succ hn)
  | listed hn hfound h =>
    rw [← List.cons_append, ← List.cons_append, ← dry_succ]
    exact .listed (Nat.succ_le_succ hn) hfound h

lemma Fetched.none : Fetched [] [] (.ok []) :=
  @Fetched.all [] [] rfl

lemma Fetched.first (service : Wide) (later : List Wide) (f : Fault) :
    Fetched (service :: later) [.traces service (.error f)] (.error f) :=
  @Fetched.upTo _ [] later service [] f rfl rfl

lemma Fetched.cons {service : Wide} {services : List Wide} {calls : List Call}
    {e : Except Fault (List Json.Content)} (h : Fetched services calls e)
    (traces : List Json.Content) :
    Fetched (service :: services) (.traces service (.ok traces) :: calls)
      (e.map (traces ++ ·)) := by
  cases h with
  | @all parts h =>
    have hparts : (traces :: parts).length = (service :: services).length := by simp [h]
    exact .all hparts
  | @upTo before later broken parts f h hparts =>
    have hbefore : (traces :: parts).length = (service :: before).length := by simp [hparts]
    exact .upTo (by rw [h, List.cons_append]) hbefore

section Batches

variable {c : Client} {s : Script} {lookback : String} {limit : Int} {past after : History}
  {calls : List Call} {e : Except Fault (List Json.Content)}

lemma Course.append {between : History} {more : List Call}
    (h : Course c s lookback limit past calls between)
    (hmore : Course c s lookback limit between more after) :
    Course c s lookback limit past (calls ++ more) after := by
  induction h with
  | done => exact hmore
  | next hcall _ ih => exact .next hcall (ih hmore)

/-- A course sends requests for the services and for the traces that it calls for, and no others. -/
lemma Course.events (h : Course c s lookback limit past calls after) :
    ∃ events, after = past ++ events ∧ ∀ r, .sent r ∈ events →
      r = .services ∨ ∃ service found, .traces service found ∈ calls ∧
        Request.traces s.toBounds service lookback limit = .ok r := by
  induction h with
  | done => exact ⟨[], by simp, by simp⟩
  | @next past between after call calls hcall _ ih =>
    obtain ⟨events, rfl, hevents⟩ := ih
    have hlater : ∀ r, .sent r ∈ events → r = .services ∨ ∃ service found,
        .traces service found ∈ call :: calls ∧
          Request.traces s.toBounds service lookback limit = .ok r := by
      intro r hr
      refine (hevents r hr).imp_right ?_
      rintro ⟨service, found, hmem, hrequest⟩
      exact ⟨service, found, List.mem_cons_of_mem _ hmem, hrequest⟩
    cases hcall with
    | services h =>
      obtain ⟨first, rfl, hfirst⟩ := h.events
      refine ⟨first ++ events, by rw [List.append_assoc], fun r hr => ?_⟩
      rcases List.mem_append.1 hr with hr | hr
      · cases hfirst r hr
        exact .inl rfl
      · exact hlater r hr
    | traces h =>
      obtain ⟨first, rfl, hfirst⟩ := h.events
      refine ⟨first ++ events, by rw [List.append_assoc], fun r hr => ?_⟩
      rcases List.mem_append.1 hr with hr | hr
      · exact .inr ⟨_, _, List.mem_cons_self, hfirst r hr⟩
      · exact hlater r hr
    | @pause attempt seconds _ _ =>
      refine ⟨.pausedBatch seconds :: events, by simp, fun r hr => ?_⟩
      exact hlater r (by simpa using hr)

lemma Fetched.mem_services {services : List Wide} (h : Fetched services calls e) {service : Wide}
    {found : Except Fault (List Json.Content)} (hmem : .traces service found ∈ calls) :
    service ∈ services := by
  have hserved : ∀ (names : List Wide) parts, .traces service found ∈ served names parts →
      service ∈ names := by
    intro names parts hmem
    induction names generalizing parts with
    | nil => simp [served] at hmem
    | cons name names ih =>
      cases parts with
      | nil => simp [served] at hmem
      | cons part parts =>
        rw [served, List.zipWith_cons_cons, List.mem_cons] at hmem
        rcases hmem with heq | hmem
        · cases heq
          exact List.mem_cons_self
        · exact List.mem_cons_of_mem _ (ih parts hmem)
  cases h with
  | all => exact hserved _ _ hmem
  | upTo h =>
    rw [h]
    rcases List.mem_append.1 hmem with hmem | hmem
    · exact List.mem_append_left _ (hserved _ _ hmem)
    · rw [List.mem_singleton] at hmem
      cases hmem
      simp

/-- The traces that a batch calls for are those of services that it has found and wants. -/
lemma Batched.mem_wanted {attempt more : Nat} (h : Batched c attempt more calls e) {service : Wide}
    {traces : Except Fault (List Json.Content)} (hmem : .traces service traces ∈ calls) :
    ∃ found, .services (.ok found) ∈ calls ∧ service ∈ c.wanted found := by
  have hdry : ∀ n, .traces service traces ∉ dry attempt n := by simp [dry]
  cases h with
  | empty => simp [hdry] at hmem
  | unlisted => simp [hdry] at hmem
  | @listed n found calls _ _ _ h =>
    simp only [List.mem_append, hdry, List.mem_cons, reduceCtorEq, false_or] at hmem
    exact ⟨found, by simp, h.mem_services hmem⟩

lemma exists_perform_tracesOf {ω : Type} (service : Wide) (lookback : String)
    (data : List Json.Content) (scene : Scene ω) :
    ∃ journal, (Client.tracesOf service lookback data).perform scene =
      (.ok (data.filter Client.isObject), ⟨journal, scene.world⟩) := by
  unfold Client.tracesOf
  dsimp only
  split <;> exact ⟨_, rfl⟩

/-- After a listing that is not empty, a batch ends as the listing of the traces does. -/
lemma exists_perform_gather {ω : Type} {around : Surroundings ω} {services : List Wide}
    (hne : services ≠ []) {scene last : Scene ω}
    (h : (c.listEach around lookback limit (c.wanted services)).perform scene = (e, last)) :
    ∃ journal, (c.gather around lookback limit services).perform scene =
      (e, ⟨journal, last.world⟩) := by
  cases e with
  | error f => exact ⟨_, Client.perform_gather_eq_error_iff.2 (.inr ⟨hne, h⟩)⟩
  | ok traces =>
    have hsome : ¬ services.isEmpty = true := by simpa using hne
    rw [Client.gather, if_neg hsome, perform_bind, h, continued_ok]
    exact ⟨_, rfl⟩

lemma not_retried_of_traces {p : RetryPolicy} (hretry : p.retryOn = retryable) {bounds : Bounds}
    {service : Wide} {f : Fault} (h : Request.traces bounds service lookback limit = .error f) :
    p.isRetried f = false := by
  rw [RetryPolicy.isRetried, hretry]
  unfold Request.traces at h
  split at h
  · cases h
    rfl
  · dsimp only at h
    split at h <;> cases h
    rfl

section Requests

variable (lookback limit) (hretry : c.requests.retryOn = retryable)
  (hwaits : c.requests.Unhindered s.surroundings.pause) (hs : s.FailsAsKnown)

include hretry hwaits

lemma exists_listServices (past : History) (journal : List Entry) :
    ∃ e after journal', Brings c.requests s (.ok .services) past e after ∧
      (c.listServices s.surroundings).perform ⟨journal, past⟩ =
        (e.map namesOf, ⟨journal', after⟩) := by
  obtain ⟨e, after, journal', h, hfetch⟩ := exists_brings hretry hwaits (.ok .services) (by simp)
    "Jaeger /api/services" past journal
  rw [Client.listServices_eq, perform_bind, hfetch]
  cases e with
  | error f => exact ⟨.error f, after, journal', h, rfl⟩
  | ok data => exact ⟨.ok data, after, _, h, rfl⟩

lemma exists_listTraces (service : Wide) (past : History) (journal : List Entry) :
    ∃ e after journal',
      Brings c.requests s (Request.traces s.toBounds service lookback limit) past e after ∧
        (c.listTraces s.surroundings service lookback limit).perform ⟨journal, past⟩ =
          (e.map (·.filter Client.isObject), ⟨journal', after⟩) := by
  obtain ⟨e, after, journal', h, hfetch⟩ :=
    exists_brings hretry hwaits (Request.traces s.toBounds service lookback limit)
      (fun _ => not_retried_of_traces hretry) ("Jaeger /api/traces for '" ++ service ++ "'")
      past journal
  rw [Client.listTraces_eq, s.toBounds_surroundings, perform_bind, hfetch]
  cases e with
  | error f => exact ⟨.error f, after, journal', h, rfl⟩
  | ok data =>
    obtain ⟨noted, htraces⟩ := exists_perform_tracesOf service lookback data ⟨journal', after⟩
    exact ⟨.ok data, after, noted, h, htraces⟩

include hs

/-- The services are served in their turn until the traces of one cannot be had. -/
lemma exists_listEach (services : List Wide) (past : History) (journal : List Entry) :
    ∃ calls e after journal', Course c s lookback limit past calls after ∧
      Fetched services calls e ∧ (∀ f, e = .error f → Escapes f) ∧
      (c.listEach s.surroundings lookback limit services).perform ⟨journal, past⟩ =
        (e, ⟨journal', after⟩) := by
  induction services generalizing past journal with
  | nil => exact ⟨[], .ok [], past, journal, .done past, .none, by simp, rfl⟩
  | cons service rest ih =>
    obtain ⟨brought, between, noted, hbrings, htraces⟩ :=
      exists_listTraces lookback limit hretry hwaits service past journal
    have hcall : Called c s lookback limit past _ between := .traces hbrings
    rw [Client.listEach, perform_bind, htraces]
    cases brought with
    | error f =>
      refine ⟨_, .error f, between, noted, .next hcall (.done between),
        .first service rest f, ?_, rfl⟩
      exact fun _ => hbrings.escapes hs fun _ => Client.isMet_of_traces
    | ok data =>
      obtain ⟨calls, e, after, journal', hcourse, hfetched, hescapes, hrest⟩ := ih between noted
      refine ⟨_, _, after, journal', .next hcall hcourse, hfetched.cons _, ?_, ?_⟩
      · intro f hf
        cases e with
        | error g => exact hescapes f hf
        | ok more => cases hf
      · rw [Except.map, continued_ok, perform_bind, hrest]
        cases e <;> rfl

/-- An attempt at a batch ends with an empty listing, or it is the last one. -/
lemma exists_batch (past : History) (journal : List Entry) :
    ∃ calls e after journal', Course c s lookback limit past calls after ∧
      (c.batch s.surroundings lookback limit).perform ⟨journal, past⟩ = (e, ⟨journal', after⟩) ∧
      (calls = [.services (.ok [])] ∧ e = .error Client.emptyListing ∨
        (∀ attempt more, Batched c attempt more calls e) ∧ ∀ f, e = .error f → Escapes f) := by
  obtain ⟨brought, between, noted, hbrings, hlisting⟩ :=
    exists_listServices hretry hwaits past journal
  have hcall : Called c s lookback limit past _ between := .services hbrings
  rw [Client.batch_eq, perform_bind, hlisting]
  cases brought with
  | error f =>
    refine ⟨_, _, between, noted, .next hcall (.done between), rfl,
      .inr ⟨fun attempt more => ?_, ?_⟩⟩
    · exact .unlisted (n := 0) (Nat.zero_le more)
    · exact fun _ => hbrings.escapes hs (by simp)
  | ok data =>
    rw [Except.map, continued_ok]
    rw [Except.map] at hcall
    generalize namesOf data = found at hcall
    by_cases hfound : found = []
    · subst hfound
      exact ⟨_, _, between, noted, .next hcall (.done between), rfl, .inl ⟨rfl, rfl⟩⟩
    · obtain ⟨calls, e, after, listed, hcourse, hfetched, hescapes, heach⟩ :=
        exists_listEach lookback limit hretry hwaits hs (c.wanted found) between noted
      obtain ⟨journal', hgather⟩ := exists_perform_gather hfound heach
      refine ⟨_, e, after, journal', .next hcall hcourse, hgather,
        .inr ⟨fun attempt more => ?_, ?_⟩⟩
      · exact .listed (n := 0) (Nat.zero_le more) hfound hfetched
      · exact hescapes

/-- The attempts at a batch from the given one on, each after an empty listing. -/
lemma exists_batches (hbatch : c.batches.retryOn = [.backendUnavailable])
    (hpauses : c.batches.Unhindered s.surroundings.pauseBatch) (name : Wide) {attempt more : Nat}
    (hpos : 1 ≤ attempt) (hmore : attempt + more = c.batches.maxAttempts) (past : History)
    (journal : List Entry) :
    ∃ calls e after journal', Course c s lookback limit past calls after ∧
      Batched c attempt more calls e ∧ (∀ f, e = .error f → Escapes f) ∧
      (c.batches.attemptsFrom s.surroundings.pauseBatch name
        (c.batch s.surroundings lookback limit) (some Client.batchFallback) attempt more).perform
          ⟨journal, past⟩ = (e, ⟨journal', after⟩) := by
  have hsettled : ∀ f, Escapes f → c.batches.isRetried f = false := by
    intro f hf
    rw [Bool.eq_false_iff, ne_eq, isRetried_iff hbatch]
    rcases hf with h | h <;> simp [h]
  have hretried := (isRetried_iff hbatch Client.emptyListing).2 rfl
  induction more generalizing attempt past journal with
  | zero =>
    obtain ⟨calls, e, after, noted, hcourse, hend, ⟨rfl, rfl⟩ | ⟨hbatched, hescapes⟩⟩ :=
      exists_batch lookback limit hretry hwaits hs past journal
    · rw [RetryPolicy.attemptsFrom_eq, perform_tryCatch, hend, handled, if_pos hretried]
      exact ⟨_, .ok [], after, _, hcourse, .empty, by simp, rfl⟩
    · refine ⟨calls, e, after, noted, hcourse, hbatched _ _, hescapes, ?_⟩
      exact RetryPolicy.perform_attemptsFrom_of_settled hend fun f hf => hsettled f (hescapes f hf)
  | succ more ih =>
    obtain ⟨calls, e, between, noted, hcourse, hend, ⟨rfl, rfl⟩ | ⟨hbatched, hescapes⟩⟩ :=
      exists_batch lookback limit hretry hwaits hs past journal
    · obtain ⟨seconds, hwait⟩ := hpauses.waits attempt hpos (by omega)
      obtain ⟨waiting, hpause⟩ := RetryPolicy.exists_perform_pauseAfter s.surroundings.pauseBatch
        name hwait Client.emptyListing ⟨noted, between⟩
      have hslept : (s.surroundings.pauseBatch seconds).perform ⟨waiting, between⟩ =
          (.ok (), ⟨waiting, between ++ [.pausedBatch seconds]⟩) := rfl
      have hcall : Called c s lookback limit between (.pause attempt) _ := .pause hwait
      obtain ⟨calls, e, after, journal', hlater, hbatched, hescapes, hrest⟩ :=
        ih (Nat.le_add_left 1 attempt) (by omega) (between ++ [.pausedBatch seconds]) waiting
      refine ⟨_, e, after, journal', hcourse.append (.next hcall hlater), hbatched.cons, hescapes,
        ?_⟩
      rw [RetryPolicy.attemptsFrom_eq, perform_tryCatch, hend, handled, if_pos hretried,
        RetryPolicy.following, perform_bind, hpause, hslept, continued_ok, hrest]
    · refine ⟨calls, e, between, noted, hcourse, hbatched _ _, hescapes, ?_⟩
      exact RetryPolicy.perform_attemptsFrom_of_settled hend fun f hf => hsettled f (hescapes f hf)

end Requests

end Batches

section Answers

variable {c : Client} {s : Script} {service : Wide} {lookback : String} {limit : Int}
  {past : History} {r : Request} {data : List Json.Content}

lemma exists_listServices_of_answer (journal : List Entry)
    (h : s.answer past .services = .ok data) :
    ∃ journal', (c.listServices s.surroundings).perform ⟨journal, past⟩ =
      (.ok (namesOf data), ⟨journal', past ++ [.sent .services]⟩) := by
  rw [Client.listServices_eq, perform_bind,
    Client.perform_fetch_of_ok ((perform_fetchOnce_script journal).trans (by rw [h]))]
  exact ⟨_, rfl⟩

lemma listTraces_fst_of_answer {journal : List Entry}
    (hrequest : Request.traces s.toBounds service lookback limit = .ok r)
    (h : s.answer past r = .ok data) :
    ((c.listTraces s.surroundings service lookback limit).perform ⟨journal, past⟩).1 =
      .ok (data.filter Client.isObject) := by
  rw [Client.listTraces_eq, s.toBounds_surroundings, hrequest, perform_bind,
    Client.perform_fetch_of_ok ((perform_fetchOnce_script journal).trans (by rw [h])), continued_ok]
  obtain ⟨noted, htraces⟩ :=
    exists_perform_tracesOf service lookback data (⟨journal, past ++ [.sent r]⟩ : Scene History)
  rw [htraces]

/-- What the client has no answer to, where the traces of the first wanted service are asked for,
ends the listing of all traces. -/
lemma listAllTraces_fst_of_unmet (hretry : c.requests.retryOn = retryable)
    (hbatch : c.batches.retryOn = [.backendUnavailable]) {services later : List Wide}
    {scene : Scene History} {noted : List Entry} {f : Fault}
    (hservices : (c.listServices s.surroundings).perform scene = (.ok services, ⟨noted, past⟩))
    (hwanted : c.wanted services = service :: later)
    (hrequest : Request.traces s.toBounds service lookback limit = .ok r)
    (h : s.answer past r = .error f)
    (hf : isMet f = false) (hkind : f.kind ≠ .backendUnavailable) :
    ((c.listAllTraces s.surroundings lookback limit).perform scene).1 = .error f := by
  have heach : (c.listEach s.surroundings lookback limit (c.wanted services)).perform
      ⟨noted, past⟩ = (.error f, ⟨noted, past ++ [.sent r]⟩) := by
    rw [hwanted, Client.listEach, perform_bind, Client.listTraces_eq, s.toBounds_surroundings,
      hrequest, perform_bind,
      Client.perform_fetch_of_unmet hretry ((perform_fetchOnce_script noted).trans (by rw [h])) hf]
    rfl
  have hne : services ≠ [] := by
    rintro rfl
    cases hwanted
  have hretried : c.batches.isRetried f = false := by
    rw [Bool.eq_false_iff, ne_eq, isRetried_iff hbatch]
    exact hkind
  have hend := Client.perform_batch_of_listEach hservices hne heach
  rw [Client.listAllTraces, RetryPolicy.perform_call_of_not_retried hend hretried]

end Answers

/-- The two tiers of a listing of all traces, against any script whose transport fails as it should,
with policies that try again what they should and whose waits are defined. The services are listed
until a listing brings any, as often as the batch policy allows, with the wait of the batch after
each empty listing but the last. The traces of the wanted services of that listing are then asked
for, each in its turn through the tier of requests, and put together; a request that fails brings an
empty list. Only an address that is not one and a body that nests too deep have no answer and end
the calls where they stand. No traces are asked for but those of services that are wanted. -/
theorem batches_until_first_listing (c : Client) (s : Script)
    (hretry : c.requests.retryOn = retryable) (hbatch : c.batches.retryOn = [.backendUnavailable])
    (hwaits : c.requests.Unhindered s.surroundings.pause)
    (hpauses : c.batches.Unhindered s.surroundings.pauseBatch) (hs : s.FailsAsKnown)
    (lookback : String) (limit : Int) (scene : Scene History) :
    ∃ calls ends events journal,
      (c.listAllTraces s.surroundings lookback limit).perform scene =
        (ends, ⟨journal, scene.world ++ events⟩) ∧
      Course c s lookback limit scene.world calls (scene.world ++ events) ∧
      Batched c 1 (c.batches.maxAttempts - 1) calls ends ∧
      (∀ f, ends = .error f → Escapes f) ∧
      ∀ r, .sent r ∈ events → r = .services ∨ ∃ found service,
        .services (.ok found) ∈ calls ∧ service ∈ c.wanted found ∧
          Request.traces s.toBounds service lookback limit = .ok r := by
  have hpos := c.batches.maxAttempts_pos
  have hmore : 1 + (c.batches.maxAttempts - 1) = c.batches.maxAttempts := by omega
  obtain ⟨calls, ends, after, journal, hcourse, hbatched, hescapes, hperform⟩ :=
    exists_batches lookback limit hretry hwaits hs hbatch hpauses "Jaeger trace batch"
      (Nat.le_refl 1) hmore scene.world scene.journal
  obtain ⟨events, rfl, hevents⟩ := hcourse.events
  refine ⟨calls, ends, events, journal, hperform, hcourse, hbatched, hescapes, fun r hr => ?_⟩
  refine (hevents r hr).imp_right ?_
  rintro ⟨service, traces, hmem, hrequest⟩
  obtain ⟨found, hfound, hwanted⟩ := hbatched.mem_wanted hmem
  exact ⟨found, service, hfound, hwanted, hrequest⟩

/-- A backend with two services that is down until it has been waited for. -/
def waking : Script where
  reply past r :=
    if past.isEmpty then .error ⟨.connectTimeout, "timed out"⟩
    else if r.path = "/api/services" then .ok ⟨200, listingBody⟩
    else .ok ⟨200, tracesBody⟩

theorem batches_until_first_listing_of_waking :
    let c : Client := ⟨["cart"], { maxAttempts := 1, retryOn := retryable },
      { maxAttempts := 2, retryOn := [.backendUnavailable] }⟩
    c.requests.Unhindered waking.surroundings.pause ∧
    c.batches.Unhindered waking.surroundings.pauseBatch ∧ waking.FailsAsKnown ∧
    ∃ calls ends events journal,
      (c.listAllTraces waking.surroundings "1h" 20).perform ⟨[], []⟩ = (ends, ⟨journal, events⟩) ∧
      Course c waking "1h" 20 [] calls events ∧ Batched c 1 1 calls ends ∧
      ∀ r, .sent r ∈ events → r = .services ∨ ∃ found service,
        .services (.ok found) ∈ calls ∧ service ∈ c.wanted found ∧
          Request.traces waking.toBounds service "1h" 20 = .ok r := by
  intro c
  have hknown : waking.FailsAsKnown := by
    intro past r f hf
    simp only [waking] at hf
    split at hf
    · cases hf
      exact .inl rfl
    · split at hf <;> cases hf
  have hwaits : c.requests.Unhindered waking.surroundings.pause :=
    RetryPolicy.unhindered_of_one rfl fun _ scene => ⟨(), _, rfl⟩
  have hpauses : c.batches.Unhindered waking.surroundings.pauseBatch :=
    RetryPolicy.unhindered_of_two rfl fun _ scene => ⟨(), _, rfl⟩
  obtain ⟨calls, ends, events, journal, hperform, hcourse, hbatched, _, hevents⟩ :=
    batches_until_first_listing c waking rfl rfl hwaits hpauses hknown "1h" 20 ⟨[], []⟩
  exact ⟨hwaits, hpauses, hknown, calls, ends, events, journal, hperform, hcourse, hbatched,
    hevents⟩

/-- The body of lists, one in the other, one more of them than may nest. -/
def nestedBody (depth : Nat) : List UInt8 :=
  List.replicate (depth + 1) 0x5b ++ List.replicate (depth + 1) 0x5d

def nestedFault : Fault :=
  ⟨.recursion, "maximum recursion depth exceeded while decoding a JSON array from a unicode string"⟩

lemma readBytes_nestedBody (depth : Nat) :
    Json.readBytes depth (nestedBody depth) = .error (.tooDeep "array") := by
  refine Json.readBytes_openings _ fun b hb => ?_
  rw [List.eq_of_mem_replicate hb]
  decide

lemma readReply_nestedBody (depth : Nat) (path : String) :
    Client.readReply depth path ⟨200, nestedBody depth⟩ = .error nestedFault := by
  rw [Client.readReply, if_neg (by simp), if_neg (by simp), readBytes_nestedBody]
  rfl

/-- A backend with two services whose reply for the first nests too deep. -/
def nesting (depth : Nat) : Script where
  nestingLimit := depth
  reply _ r :=
    if r.path = "/api/services" then .ok ⟨200, listingBody⟩
    else if r.query.head? = some ("service", "cart") then .ok ⟨200, nestedBody depth⟩
    else .ok ⟨200, tracesBody⟩

/-- The reply for one service nests too deep, and the traces of the other are lost with it. -/
theorem nested_body_loses_traces :
    let c : Client := ⟨[], { maxAttempts := 1, retryOn := retryable },
      { maxAttempts := 1, retryOn := [.backendUnavailable] }⟩
    let s := nesting 1000
    s.FailsAsKnown ∧
    ((c.listTraces s.surroundings "shop" "1h" 20).perform ⟨[], []⟩).1 =
        .ok [.object [("traceID", .text "t1")]] ∧
      ((c.listAllTraces s.surroundings "1h" 20).perform ⟨[], []⟩).1 = .error nestedFault := by
  intro c s
  have hlisting : s.answer [] .services = .ok [.text "cart", .text "shop"] :=
    readReply_listingBody (by decide) _
  have hcart : Request.traces s.toBounds "cart" "1h" 20 =
      .ok ⟨"/api/traces", [("service", "cart"), ("lookback", "1h"), ("limit", "20")]⟩ := rfl
  have hshop : Request.traces s.toBounds "shop" "1h" 20 =
      .ok ⟨"/api/traces", [("service", "shop"), ("lookback", "1h"), ("limit", "20")]⟩ := rfl
  refine ⟨fun past r f hf => ?_, ?_, ?_⟩
  · simp only [s, nesting] at hf
    split at hf
    · cases hf
    · split at hf <;> cases hf
  · have htraces : s.answer [] ⟨"/api/traces",
        [("service", "shop"), ("lookback", "1h"), ("limit", "20")]⟩ =
          .ok [.object [("traceID", .text "t1")]] := readReply_tracesBody (by decide) _
    exact listTraces_fst_of_answer hshop htraces
  · have hlost (past : History) : s.answer past ⟨"/api/traces",
        [("service", "cart"), ("lookback", "1h"), ("limit", "20")]⟩ = .error nestedFault :=
      readReply_nestedBody 1000 "/api/traces"
    obtain ⟨listed, hservices⟩ := exists_listServices_of_answer (c := c) [] hlisting
    have hwanted : c.wanted (namesOf [.text "cart", .text "shop"]) =
        (["cart", "shop"] : List Wide) := rfl
    exact listAllTraces_fst_of_unmet rfl rfl hservices hwanted hcart (hlost _) rfl (by decide)

end IncidentTriage.Backend

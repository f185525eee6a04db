import IncidentTriage.Proofs.Retry
import IncidentTriage.Proofs.Value.Nesting
import IncidentTriage.Backend.Client

/-!
# What the client of the trace backend raises

The client meets the faults of the transport, of a status and of a body that cannot be read. It has
no answer to an address that is not one, nor to a body that nests too deep, and it raises these: a
listing of all traces then ends with the fault, whatever the other services have.
-/

namespace IncidentTriage.Backend
open IncidentTriage.Text IncidentTriage.Act

/-- The client has an answer to the fault: another try or an empty list. -/
def isMet (f : Fault) : Bool :=
  f.kind.isA .transientStatus || f.kind.isA .http || f.kind.isA .value

/-- Whatever the scene, the client has an answer to every fault of the request. -/
def Surroundings.Meets {ω : Type} (around : Surroundings ω) (request : Except Fault Request) : Prop :=
  (Client.fetchOnce around request).RaisesOnly fun f => isMet f = true

/-- The fault of an address that is not one, or of a body that nests too deep. -/
def Escapes (f : Fault) : Prop :=
  f.kind = .invalidUrl ∨ f.kind = .recursion

lemma http_of_transport (k : Fault.Kind) (h : k.isA .transport = true) : k.isA .http = true := by
  revert h
  cases k <;> decide

lemma isMet_iff {p : RetryPolicy} (h : p.retryOn = retryable) (f : Fault) :
    isMet f = (p.isRetried f || (f.kind.isA .http || f.kind.isA .value)) := by
  have htransport := http_of_transport f.kind
  simp only [isMet, RetryPolicy.isRetried, h, retryable, List.any_cons, List.any_nil, Bool.or_false]
  cases h1 : f.kind.isA .transport <;> cases h2 : f.kind.isA .transientStatus <;>
    simp_all

lemma isRetried_iff {p : RetryPolicy} (h : p.retryOn = [.backendUnavailable]) (f : Fault) :
    p.isRetried f = true ↔ f.kind = .backendUnavailable := by
  simp only [RetryPolicy.isRetried, h, List.any_cons, List.any_nil, Bool.or_false]
  cases f.kind <;> decide

namespace Client

variable {ω : Type} {c : Client} {around : Surroundings ω} {P : Fault → Prop}

section Requests

variable {name : Wide} {request : Except Fault Request}

/-- A request raises only faults that the client has no answer to. -/
lemma raisesOnly_fetch (hretry : c.requests.retryOn = retryable)
    (hpause : c.requests.Unhindered around.pause) (h : (fetchOnce around request).RaisesOnly P) :
    (c.fetch around name request).RaisesOnly fun f => P f ∧ isMet f = false := by
  have hcall : (c.requests.call around.pause name (fetchOnce around request)
      (some fun _ => return [])).RaisesOnly fun f => P f ∧ c.requests.isRetried f = false :=
    RetryPolicy.raisesOnly_call hpause h fun _ => returns_pure _
  refine hcall.tryCatch fun f hf => ?_
  cases hmet : f.kind.isA .http || f.kind.isA .value with
  | true =>
    rw [if_pos rfl]
    exact (returns_noting _ _ _ _).raisesOnly
  | false =>
    have hunmet : isMet f = false := by rw [isMet_iff hretry, hf.2, hmet, Bool.or_false]
    rw [if_neg Bool.false_ne_true]
    exact raisesOnly_throw ⟨hf.1, hunmet⟩

lemma perform_fetch_of_ok {scene after : Scene ω} {data : List Json.Content}
    (h : (fetchOnce around request).perform scene = (.ok data, after)) :
    (c.fetch around name request).perform scene = (.ok data, after) := by
  rw [fetch, perform_tryCatch, RetryPolicy.perform_call_of_ok h, handled]

/-- A fault that the client has no answer to ends the request with it. -/
lemma perform_fetch_of_unmet (hretry : c.requests.retryOn = retryable) {scene after : Scene ω}
    {f : Fault} (h : (fetchOnce around request).perform scene = (.error f, after))
    (hf : isMet f = false) : (c.fetch around name request).perform scene = (.error f, after) := by
  rw [isMet_iff hretry, Bool.or_eq_false_iff] at hf
  rw [fetch, perform_tryCatch, RetryPolicy.perform_call_of_not_retried h hf.1, handled, hf.2]
  rfl

lemma fetch_returns_iff (hretry : c.requests.retryOn = retryable)
    (hpause : c.requests.Unhindered around.pause) :
    (c.fetch around name request).Returns ↔ around.Meets request := by
  constructor
  · intro h scene f after hf
    by_contra hmet
    rw [Bool.not_eq_true] at hmet
    obtain ⟨data, _, hdata⟩ := h scene
    rw [perform_fetch_of_unmet hretry hf hmet] at hdata
    simp at hdata
  · intro h
    rw [returns_iff]
    refine (raisesOnly_fetch hretry hpause h).mono fun f hf => ?_
    rw [hf.1] at hf
    simp at hf

end Requests

lemma listServices_eq : c.listServices around =
    c.fetch around "Jaeger /api/services" (.ok .services) >>= fun data => do
      let services := (data.filter ValueOf.isPresent).map ValueOf.wideDisplay
      note .info author s!"Found {services.length} services in Jaeger"
      return services := rfl

lemma listServices_fst (scene : Scene ω) : ((c.listServices around).perform scene).1 =
    ((c.fetch around "Jaeger /api/services" (.ok .services)).perform scene).1.map
      fun data => (data.filter ValueOf.isPresent).map ValueOf.wideDisplay := by
  rw [listServices_eq, perform_bind]
  rcases (c.fetch around "Jaeger /api/services" (.ok .services)).perform scene with ⟨_ | _, _⟩ <;>
    rfl

/-- What is made of the data for a service. -/
def tracesOf (service : Wide) (lookback : String) (data : List Json.Content) :
    Act ω (List Json.Content) := do
  let traces := data.filter isObject
  if traces.length ≠ data.length then
    note .warning author
      (s!"Dropped {data.length - traces.length} non-object traces for '" ++ service ++ "'")
  note .info author
    (s!"Fetched {traces.length} traces for service '" ++ service ++ s!"' (lookback: {lookback})")
  return traces

lemma returns_tracesOf (service : Wide) (lookback : String) (data : List Json.Content) :
    (tracesOf service lookback data : Act ω _).Returns := by
  unfold tracesOf
  dsimp only
  split
  · exact (returns_note _ _ _).bind fun _ => returns_noting _ _ _ _
  · exact returns_noting _ _ _ _

lemma listTraces_eq (service : Wide) (lookback : String) (limit : Int) :
    c.listTraces around service lookback limit =
      c.fetch around ("Jaeger /api/traces for '" ++ service ++ "'")
        (Request.traces around.toBounds service lookback limit) >>= tracesOf service lookback := rfl

section Listings

variable (hretry : c.requests.retryOn = retryable) (hpause : c.requests.Unhindered around.pause)
include hretry hpause

lemma listServices_returns_iff :
    (c.listServices around).Returns ↔ around.Meets (.ok .services) := by
  rw [listServices_eq, returns_bind_iff fun _ => returns_noting _ _ _ _]
  exact fetch_returns_iff hretry hpause

lemma listTraces_returns_iff (service : Wide) (lookback : String) (limit : Int) :
    (c.listTraces around service lookback limit).Returns ↔
      around.Meets (Request.traces around.toBounds service lookback limit) := by
  rw [listTraces_eq, returns_bind_iff (returns_tracesOf service lookback)]
  exact fetch_returns_iff hretry hpause

lemma raisesOnly_listServices (h : (fetchOnce around (.ok .services)).RaisesOnly P) :
    (c.listServices around).RaisesOnly fun f => P f ∧ isMet f = false := by
  rw [listServices_eq]
  exact (raisesOnly_fetch hretry hpause h).bind fun _ => (returns_noting _ _ _ _).raisesOnly

lemma raisesOnly_listTraces {service : Wide} {lookback : String} {limit : Int}
    (h : (fetchOnce around (Request.traces around.toBounds service lookback limit)).RaisesOnly P) :
    (c.listTraces around service lookback limit).RaisesOnly fun f => P f ∧ isMet f = false := by
  rw [listTraces_eq]
  exact (raisesOnly_fetch hretry hpause h).bind fun data =>
    (returns_tracesOf service lookback data).raisesOnly

end Listings

def emptyListing : Fault :=
  ⟨.backendUnavailable, "Jaeger returned no services; API may be down"⟩

/-- What follows a listing in a batch. -/
def gather (c : Client) (around : Surroundings ω) (lookback : String) (limit : Int)
    (services : List Wide) : Act ω (List Json.Content) := do
  if services.isEmpty then
    Act.fail .backendUnavailable "Jaeger returned no services; API may be down"
  let traces ← c.listEach around lookback limit (c.wanted services)
  Act.note .info author
    s!"Fetched {traces.length} total traces across {services.length} services"
  return traces

lemma batch_eq (lookback : String) (limit : Int) : c.batch around lookback limit =
    c.listServices around >>= c.gather around lookback limit := rfl

/-- The batch fails after the listing when this is empty, or when the traces of a service cannot be
listed. -/
lemma perform_gather_eq_error_iff {services : List Wide} {lookback : String} {limit : Int}
    {scene after : Scene ω} {f : Fault} :
    (c.gather around lookback limit services).perform scene = (.error f, after) ↔
      (services = [] ∧ f = emptyListing ∧ after = scene) ∨
        (services ≠ [] ∧ (c.listEach around lookback limit (c.wanted services)).perform scene =
          (.error f, after)) := by
  cases services with
  | nil =>
    have hgather : (c.gather around lookback limit []).perform scene = (.error emptyListing, scene) :=
      rfl
    simp [hgather, eq_comm]
  | cons service rest =>
    simp only [gather, List.isEmpty_cons, Bool.false_eq_true, if_false, perform_bind]
    rcases (c.listEach around lookback limit (c.wanted (service :: rest))).perform scene with
      ⟨g | traces, s⟩ <;> simp [Except.map]

/-- When the traces of a listed service cannot be listed, neither can those of the others. -/
lemma perform_batch_of_listEach {services : List Wide} {lookback : String} {limit : Int}
    {scene after last : Scene ω} {f : Fault}
    (hservices : (c.listServices around).perform scene = (.ok services, after))
    (hne : services ≠ [])
    (heach : (c.listEach around lookback limit (c.wanted services)).perform after =
      (.error f, last)) :
    (c.batch around lookback limit).perform scene = (.error f, last) := by
  have hgather := perform_gather_eq_error_iff.2 (.inr ⟨hne, heach⟩)
  rw [batch_eq, perform_bind, hservices, continued_ok, hgather]

/-- What a reply can fault that the client has no answer to is a body that nests too deep. -/
lemma isMet_of_readReply {depth : Nat} {path : String} {reply : Reply} {f : Fault}
    (h : readReply depth path reply = .error f) : isMet f = true ∨ f.kind = .recursion := by
  unfold readReply at h
  split at h
  · cases h
    exact .inl rfl
  · split at h
    · cases h
      exact .inl rfl
    · split at h
      · rename_i content _
        unfold dataOf at h
        split at h
        · split at h <;> cases h
          exact .inl rfl
        · cases h
          exact .inl rfl
      · rename_i e _
        cases h
        cases e
        case tooDeep => exact .inr rfl
        all_goals exact .inl rfl

lemma isMet_of_traces {bounds : Bounds} {service : Wide} {lookback : String} {limit : Int}
    {f : Fault} (h : Request.traces bounds service lookback limit = .error f) :
    isMet f = true ∨ f.kind = .invalidUrl := by
  unfold Request.traces at h
  split at h
  · cases h
    exact .inl rfl
  · dsimp only at h
    split at h <;> cases h
    exact .inr rfl

variable (hsend : ∀ r, (around.send r).RaisesOnly fun f =>
    f.kind.isA .http = true ∨ f.kind = .invalidUrl)

include hsend in
lemma raisesOnly_fetchOnce {request : Except Fault Request}
    (h : ∀ f, request = .error f → isMet f = true ∨ f.kind = .invalidUrl) :
    (fetchOnce around request).RaisesOnly fun f => isMet f = true ∨ Escapes f := by
  unfold fetchOnce
  refine (raisesOnly_ofOutcome fun f hf => (h f hf).imp_right .inl).bind fun r => ?_
  refine ((hsend r).mono fun f hf => ?_).bind fun reply => ?_
  · refine hf.imp (fun hhttp => ?_) .inl
    simp [isMet, hhttp]
  · exact raisesOnly_ofOutcome fun f hf => (isMet_of_readReply hf).imp_right .inr

section Batches

variable (hretry : c.requests.retryOn = retryable) (hpause : c.requests.Unhindered around.pause)

include hsend hretry hpause

lemma escapes_of_listServices : (c.listServices around).RaisesOnly Escapes := by
  have hfetch : (fetchOnce around (.ok .services)).RaisesOnly fun f => isMet f = true ∨ Escapes f :=
    raisesOnly_fetchOnce hsend fun _ h => by contradiction
  refine (raisesOnly_listServices hretry hpause hfetch).mono fun f hf => ?_
  exact hf.1.resolve_left (by simp [hf.2])

lemma escapes_of_listTraces (service : Wide) (lookback : String) (limit : Int) :
    (c.listTraces around service lookback limit).RaisesOnly Escapes := by
  have hfetch : (fetchOnce around (Request.traces around.toBounds service lookback limit)).RaisesOnly
      fun f => isMet f = true ∨ Escapes f :=
    raisesOnly_fetchOnce hsend fun _ => isMet_of_traces
  refine (raisesOnly_listTraces hretry hpause hfetch).mono fun f hf => ?_
  exact hf.1.resolve_left (by simp [hf.2])

lemma escapes_of_listEach (services : List Wide) (lookback : String) (limit : Int) :
    (c.listEach around lookback limit services).RaisesOnly Escapes := by
  induction services with
  | nil => exact (returns_pure _).raisesOnly
  | cons service rest ih =>
    rw [listEach]
    refine (escapes_of_listTraces hsend hretry hpause service lookback limit).bind fun _ => ?_
    exact ih.bind fun _ => (returns_pure _).raisesOnly

lemma escapes_of_batch (lookback : String) (limit : Int) :
    (c.batch around lookback limit).RaisesOnly
      fun f => Escapes f ∨ f.kind = .backendUnavailable := by
  rw [batch_eq]
  refine ((escapes_of_listServices hsend hretry hpause).mono fun _ => .inl).bind fun services => ?_
  intro scene f after hf
  rcases perform_gather_eq_error_iff.1 hf with ⟨_, rfl, _⟩ | ⟨_, heach⟩
  · exact .inr rfl
  · exact .inl (escapes_of_listEach hsend hretry hpause _ lookback limit scene f after heach)

/-- A batch meets nothing but an empty listing when every listing of services returns, and so does
the listing of the traces of the services that it brings. -/
lemma batch_raisesOnly_iff (lookback : String) (limit : Int) :
    ((c.batch around lookback limit).RaisesOnly fun f => f.kind = .backendUnavailable) ↔
      (c.listServices around).Returns ∧ ∀ scene services after,
        (c.listServices around).perform scene = (.ok services, after) → ∃ traces last,
          (c.listEach around lookback limit (c.wanted services)).perform after =
            (.ok traces, last) := by
  constructor
  · intro h
    constructor
    · refine returns_iff.2 fun scene f after hf => ?_
      have hkind := h scene f after (by rw [batch_eq, perform_bind, hf, continued_error])
      have hescapes := escapes_of_listServices hsend hretry hpause scene f after hf
      simp [Escapes, hkind] at hescapes
    · intro scene services after hservices
      rcases hend : (c.listEach around lookback limit (c.wanted services)).perform after with
        ⟨f | traces, last⟩
      · have hne : services ≠ [] := by
          rintro rfl
          simp [wanted, listEach] at hend
        have hkind := h scene f last (perform_batch_of_listEach hservices hne hend)
        have hescapes := escapes_of_listEach hsend hretry hpause _ lookback limit after f last hend
        simp [Escapes, hkind] at hescapes
      · exact ⟨traces, last, rfl⟩
  · rintro ⟨hlist, heach⟩
    rw [batch_eq]
    refine hlist.raisesOnly.bind_of_end fun scene services after hservices f last hf => ?_
    rcases perform_gather_eq_error_iff.1 hf with ⟨_, rfl, _⟩ | ⟨_, hend⟩
    · rfl
    · obtain ⟨traces, _, htraces⟩ := heach scene services after hservices
      simp [htraces] at hend

end Batches

section Tiers

variable (hretry : c.requests.retryOn = retryable) (hpause : c.requests.Unhindered around.pause)
  (hbatch : c.batches.retryOn = [.backendUnavailable])
  (hpauseBatch : c.batches.Unhindered around.pauseBatch)

include hbatch hpauseBatch

lemma raisesOnly_listAllTraces {lookback : String} {limit : Int}
    (h : (c.batch around lookback limit).RaisesOnly P) :
    (c.listAllTraces around lookback limit).RaisesOnly
      fun f => P f ∧ f.kind ≠ .backendUnavailable := by
  have hfallback : ∀ f, (batchFallback f : Act ω _).Returns :=
    fun f => returns_noting _ _ _ _
  refine (RetryPolicy.raisesOnly_call hpauseBatch h hfallback).mono fun f hf => ⟨hf.1, ?_⟩
  rw [ne_eq, ← isRetried_iff hbatch, hf.2]
  exact Bool.false_ne_true

lemma listAllTraces_returns_iff (lookback : String) (limit : Int) :
    (c.listAllTraces around lookback limit).Returns ↔
      (c.batch around lookback limit).RaisesOnly fun f => f.kind = .backendUnavailable := by
  constructor
  · intro h scene f after hf
    by_contra hkind
    have hretried : c.batches.isRetried f = false := by
      rw [Bool.eq_false_iff, ne_eq, isRetried_iff hbatch]
      exact hkind
    obtain ⟨traces, _, htraces⟩ := h scene
    rw [listAllTraces, RetryPolicy.perform_call_of_not_retried hf hretried] at htraces
    simp at htraces
  · intro h
    rw [returns_iff]
    exact (raisesOnly_listAllTraces hbatch hpauseBatch h).mono fun f hf => hf.2 hf.1

include hsend hretry hpause

lemma escapes_of_listAllTraces (lookback : String) (limit : Int) :
    (c.listAllTraces around lookback limit).RaisesOnly Escapes := by
  have hfaults := escapes_of_batch hsend hretry hpause lookback limit
  exact (raisesOnly_listAllTraces hbatch hpauseBatch hfaults).mono fun f hf => hf.1.resolve_right hf.2

end Tiers

end Client

/-- Surroundings in which every request ends in its own way, whenever it is made. -/
def answering (ends : Request → Except Fault Reply) : Surroundings Unit where
  send r := ofOutcome (ends r)
  pause _ := return ()
  pauseBatch _ := return ()

/-- How an attempt at a request ends in such surroundings. -/
def endOf (ends : Request → Except Fault Reply) (request : Except Fault Request) :
    Except Fault (List Json.Content) :=
  request.bind fun r => (ends r).bind (Client.readReply (answering ends).nestingLimit r.path)

lemma perform_fetchOnce_answering (ends : Request → Except Fault Reply)
    (request : Except Fault Request) (scene : Scene Unit) :
    (Client.fetchOnce (answering ends) request).perform scene = (endOf ends request, scene) := by
  cases request with
  | error f => rfl
  | ok r =>
    have hsend : ((answering ends).send r).perform scene = (ends r, scene) := perform_ofOutcome _ _
    simp only [Client.fetchOnce, endOf, perform_bind, perform_ofOutcome, continued_ok, hsend,
      Except.bind]
    cases ends r with
    | error f => rfl
    | ok reply => rw [continued_ok, perform_ofOutcome]

/-- What a client raises whose policies try again what they should and can pause between attempts.
A listing of the services or of the traces of one returns, whatever the scene, if and only if the
client has an answer to every fault of its request; a listing of all traces, if and only if every
listing of the services returns and is followed by the traces of all services that are wanted. What
is raised otherwise is the fault of an address that is not one, or of a body that nests too deep. -/
theorem client_returns_iff_met {ω : Type} (c : Client) (around : Surroundings ω)
    (hretry : c.requests.retryOn = retryable) (hbatch : c.batches.retryOn = [.backendUnavailable])
    (hpause : c.requests.Unhindered around.pause)
    (hpauseBatch : c.batches.Unhindered around.pauseBatch)
    (hsend : ∀ r, (around.send r).RaisesOnly fun f =>
      f.kind.isA .http = true ∨ f.kind = .invalidUrl) (lookback : String) (limit : Int) :
    ((c.listServices around).Returns ↔ around.Meets (.ok .services)) ∧
    (∀ service, (c.listTraces around service lookback limit).Returns ↔
      around.Meets (Request.traces around.toBounds service lookback limit)) ∧
    ((c.listAllTraces around lookback limit).Returns ↔ around.Meets (.ok .services) ∧
      ∀ scene services after, (c.listServices around).perform scene = (.ok services, after) →
        ∃ traces last, (c.listEach around lookback limit (c.wanted services)).perform after =
          (.ok traces, last)) ∧
    (c.listServices around).RaisesOnly Escapes ∧
    (∀ service, (c.listTraces around service lookback limit).RaisesOnly Escapes) ∧
    (c.listAllTraces around lookback limit).RaisesOnly Escapes := by
  have hservices := Client.listServices_returns_iff hretry hpause
  refine ⟨hservices, fun service => ?_, ?_, ?_, fun service => ?_, ?_⟩
  · exact Client.listTraces_returns_iff hretry hpause service lookback limit
  · rw [Client.listAllTraces_returns_iff hbatch hpauseBatch,
      Client.batch_raisesOnly_iff hsend hretry hpause, hservices]
  · exact Client.escapes_of_listServices hsend hretry hpause
  · exact Client.escapes_of_listTraces hsend hretry hpause service lookback limit
  · exact Client.escapes_of_listAllTraces hsend hretry hpause hbatch hpauseBatch lookback limit

theorem client_returns_of_timeout :
    let c : Client := ⟨[], { maxAttempts := 1, retryOn := retryable },
      { maxAttempts := 1, retryOn := [.backendUnavailable] }⟩
    let around := answering fun _ => .error ⟨.connectTimeout, "timed out"⟩
    (c.listServices around).Returns ∧ (c.listTraces around "cart" "1h" 20).Returns ∧
      (c.listAllTraces around "1h" 20).Returns := by
  intro c around
  have hpause : c.requests.Unhindered around.pause :=
    RetryPolicy.unhindered_of_one rfl fun _ => returns_pure ()
  have hpauseBatch : c.batches.Unhindered around.pauseBatch :=
    RetryPolicy.unhindered_of_one rfl fun _ => returns_pure ()
  have hsend : ∀ r, (around.send r).RaisesOnly fun f =>
      f.kind.isA .http = true ∨ f.kind = .invalidUrl :=
    fun r => raisesOnly_throw (.inl rfl)
  have hmeets : ∀ r, around.Meets (.ok r) := by
    intro r scene f after hf
    rw [perform_fetchOnce_answering] at hf
    cases hf
    rfl
  have hservices : ∀ scene, ((c.listServices around).perform scene).1 = .ok [] := by
    intro scene
    rw [Client.listServices_fst, Client.fetch, perform_tryCatch, RetryPolicy.call,
      RetryPolicy.attemptsFrom_eq, perform_tryCatch, perform_fetchOnce_answering]
    rfl
  have hcart : Request.traces around.toBounds "cart" "1h" 20 =
      .ok ⟨"/api/traces", [("service", "cart"), ("lookback", "1h"), ("limit", "20")]⟩ := rfl
  obtain ⟨hlist, htraces, hall, _⟩ :=
    client_returns_iff_met c around rfl rfl hpause hpauseBatch hsend "1h" 20
  refine ⟨hlist.2 (hmeets _), (htraces "cart").2 (hcart ▸ hmeets _), hall.2 ⟨hmeets _, ?_⟩⟩
  intro scene services after hend
  have hnone : services = [] := by simpa [hservices scene] using (congrArg Prod.fst hend).symm
  exact ⟨[], after, by rw [hnone]; rfl⟩

def listingBody : List UInt8 :=
  Utf8.encode "\x7b\"data\": [\"cart\", \"shop\"]\x7d".toList

def tracesBody : List UInt8 :=
  Utf8.encode "\x7b\"data\": [\x7b\"traceID\": \"t1\"\x7d]\x7d".toList

/-- What the two bodies spell. The reader is run on their characters. -/
lemma readBytes_bodies {depth : Nat} (h : 3 ≤ depth) :
    Json.readBytes depth listingBody =
        .ok (.object [("data", .list [.text "cart", .text "shop"])]) ∧
      Json.readBytes depth tracesBody =
        .ok (.object [("data", .list [.object [("traceID", .text "t1")]])]) := by
  obtain ⟨depth, rfl⟩ := Nat.exists_eq_add_of_le' h
  constructor <;> rw [Json.readBytes_ascii (by decide +kernel)] <;>
    simp [listingBody, tracesBody, Utf8.encode, Utf8.encodeChar, Symbol.ofCode, Wide.ofString,
      Json.read, Json.readValue, Json.readItems, Json.readMembers, Json.readText, Json.skipSpace,
      Json.isSpace, Json.isControl, Fields.ofPairs, Fields.set, bind, Except.bind, pure, Except.pure]

lemma readReply_listingBody {depth : Nat} (h : 3 ≤ depth) (path : String) :
    Client.readReply depth path ⟨200, listingBody⟩ = .ok [.text "cart", .text "shop"] := by
  rw [Client.readReply, if_neg (by simp), if_neg (by simp), (readBytes_bodies h).1]
  rfl

lemma readReply_tracesBody {depth : Nat} (h : 3 ≤ depth) (path : String) :
    Client.readReply depth path ⟨200, tracesBody⟩ = .ok [.object [("traceID", .text "t1")]] := by
  rw [Client.readReply, if_neg (by simp), if_neg (by simp), (readBytes_bodies h).2]
  rfl

/-- How the requests to a backend with two services end. The address for the traces of the first is
refused. -/
def refusing (r : Request) : Except Fault Reply :=
  if r.path = "/api/services" then .ok ⟨200, listingBody⟩
  else if r.query.head? = some ("service", "cart") then .error ⟨.invalidUrl, "bad address"⟩
  else .ok ⟨200, tracesBody⟩

/-- The address of one service is refused, and the traces of the other are lost with it. -/
theorem refused_address_loses_traces :
    let c : Client := ⟨[], { retryOn := retryable }, { retryOn := [.backendUnavailable] }⟩
    ((c.listTraces (answering refusing) "shop" "1h" 20).perform ⟨[], ()⟩).1 =
        .ok [.object [("traceID", .text "t1")]] ∧
      ((c.listAllTraces (answering refusing) "1h" 20).perform ⟨[], ()⟩).1 =
        .error ⟨.invalidUrl, "bad address"⟩ := by
  intro c
  have hlisting : endOf refusing (.ok .services) = .ok [.text "cart", .text "shop"] :=
    readReply_listingBody (by decide) _
  have hcart : endOf refusing (Request.traces (answering refusing).toBounds "cart" "1h" 20) =
      .error ⟨.invalidUrl, "bad address"⟩ := rfl
  have hshop : endOf refusing (Request.traces (answering refusing).toBounds "shop" "1h" 20) =
      .ok [.object [("traceID", .text "t1")]] := readReply_tracesBody (by decide) _
  have hattempt := perform_fetchOnce_answering refusing
  constructor
  · rw [Client.listTraces_eq, perform_bind,
      Client.perform_fetch_of_ok ((hattempt _ _).trans (by rw [hshop])), continued_ok]
    rfl
  · have hservices : ((c.listServices (answering refusing)).perform ⟨[], ()⟩).1 =
        .ok ["cart", "shop"] := by
      rw [Client.listServices_fst,
        Client.perform_fetch_of_ok ((hattempt _ _).trans (by rw [hlisting]))]
      rfl
    have hlost : ∀ scene, (c.listTraces (answering refusing) "cart" "1h" 20).perform scene =
        (.error ⟨.invalidUrl, "bad address"⟩, scene) := by
      intro scene
      rw [Client.listTraces_eq, perform_bind,
        Client.perform_fetch_of_unmet rfl ((hattempt _ _).trans (by rw [hcart])) rfl,
        continued_error]
    obtain ⟨s, hs⟩ : ∃ s, (c.listServices (answering refusing)).perform ⟨[], ()⟩ =
        (.ok ["cart", "shop"], s) := ⟨_, Prod.ext hservices rfl⟩
    have heach : (c.listEach (answering refusing) "1h" 20 (c.wanted ["cart", "shop"])).perform s =
        (.error ⟨.invalidUrl, "bad address"⟩, s) := by
      have hwanted : c.wanted ["cart", "shop"] = (["cart", "shop"] : List Wide) := rfl
      rw [hwanted, Client.listEach, perform_bind, hlost, continued_error]
    have hbatch := Client.perform_batch_of_listEach hs (by simp) heach
    rw [Client.listAllTraces, RetryPolicy.perform_call_of_not_retried hbatch rfl]

end IncidentTriage.Backend

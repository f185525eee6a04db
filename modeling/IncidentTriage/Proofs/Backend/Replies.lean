import IncidentTriage.Proofs.Attempts
import IncidentTriage.Proofs.Backend.Batches

/-!
# Replies in turn

A backend that replies in a given order is asked again as long as its replies are worth another try
and the policy allows one. The last reply that is taken in decides: the list under `data` in the body of
a success, or nothing. Only a body that nests too deep is neither.
-/

namespace IncidentTriage.Backend
open IncidentTriage.Text IncidentTriage.Act

def Event.isSent : Event → Bool
  | .sent _ => true
  | _ => false

/-- The backend replies in the given order, whatever the requests are for. -/
def inTurn (bounds : Bounds) (replies : Nat → Except Fault Reply) : Script where
  toBounds := bounds
  reply past _ := replies (past.countP Event.isSent)

lemma toBounds_inTurn (bounds : Bounds) (replies : Nat → Except Fault Reply) :
    (inTurn bounds replies).toBounds = bounds := rfl

lemma answer_inTurn (bounds : Bounds) (replies : Nat → Except Fault Reply) (past : History)
    (r : Request) : (inTurn bounds replies).answer past r =
      (replies (past.countP Event.isSent)).bind (Client.readReply bounds.nestingLimit r.path) := rfl

/-- A failure of the transport or of a server that is overloaded. -/
def isTransient : Except Fault Reply → Bool
  | .error f => f.kind.isA .transport
  | .ok reply => reply.status = 429 || 500 ≤ reply.status

/-- How many of the first `n` replies come before the first one that is not transient. -/
def leading (replies : Nat → Except Fault Reply) (n : Nat) : Nat :=
  ((List.range n).takeWhile fun i => isTransient (replies i)).length

/-- How many replies one request takes in: the leading transient ones and the next, as far as the
policy allows. -/
def taken (p : RetryPolicy) (replies : Nat → Except Fault Reply) : Nat :=
  min p.maxAttempts (1 + leading replies p.maxAttempts)

/-- The list under `data` in an object, and nothing where there is no such list. -/
def listUnderData : Json.Content → List Json.Content
  | .object fields =>
    match Fields.get fields "data" with
    | .list data => data
    | _ => []
  | _ => []

section Readings

variable (depth : Nat)

/-- The list in the body of a success, and nothing where there is none. -/
def dataIn : Except Fault Reply → List Json.Content
  | .error _ => []
  | .ok reply =>
    if 200 ≤ reply.status ∧ reply.status < 300 then
      match Json.readBytes depth reply.body with
      | .ok v => listUnderData v
      | .error _ => []
    else []

/-- A success whose body nests too deep to be read. -/
def NestsTooDeep (e : Except Fault Reply) : Prop :=
  ∃ reply container, e = .ok reply ∧ 200 ≤ reply.status ∧ reply.status < 300 ∧
    Json.readBytes depth reply.body = .error (.tooDeep container)

/-- What a call makes of the last reply: what it should, unless the reply nests too deep. -/
def Yields {α : Type} (last : Except Fault Reply) (data : α) (e : Except Fault α) : Prop :=
  ¬ NestsTooDeep depth last ∧ e = .ok data ∨
    NestsTooDeep depth last ∧ ∃ f, f.kind = .recursion ∧ e = .error f

/-- How a reply reads: as the data in it, as a fault that the client has an answer to, or as the fault
of a body that nests too deep. Faults worth another try are those of transient replies. -/
inductive Reads (e : Except Fault Reply) : Except Fault (List Json.Content) → Prop
  | data (hdeep : ¬ NestsTooDeep depth e) (htransient : isTransient e = false) :
      Reads e (.ok (dataIn depth e))
  | fault {f : Fault} (hdata : dataIn depth e = []) (hdeep : ¬ NestsTooDeep depth e)
      (hmet : isMet f = true)
      (htransient : (f.kind.isA .transport || f.kind.isA .transientStatus) = isTransient e) :
      Reads e (.error f)
  | deep {f : Fault} (hdeep : NestsTooDeep depth e) (hf : f.kind = .recursion)
      (htransient : isTransient e = false) : Reads e (.error f)

end Readings

section Replies

variable {depth : Nat} {p : RetryPolicy} {e : Except Fault Reply} {path : String}

lemma isTransient_ok_iff {reply : Reply} :
    isTransient (.ok reply) = true ↔ reply.status = 429 ∨ 500 ≤ reply.status := by
  simp [isTransient]

lemma isTransient_ok_eq_false {reply : Reply} (h : ¬ (reply.status = 429 ∨ 500 ≤ reply.status)) :
    isTransient (.ok reply) = false := by
  rwa [← isTransient_ok_iff, Bool.not_eq_true] at h

lemma not_nestsTooDeep_of_status {reply : Reply} (h : ¬ (200 ≤ reply.status ∧ reply.status < 300)) :
    ¬ NestsTooDeep depth (.ok reply) := by
  rintro ⟨_, _, hreply, hlow, hhigh, _⟩
  cases hreply
  exact h ⟨hlow, hhigh⟩

lemma not_nestsTooDeep_of_body {reply : Reply} {r : Except Json.Error Json.Content}
    (hbody : Json.readBytes depth reply.body = r)
    (h : ∀ container, r ≠ .error (.tooDeep container)) : ¬ NestsTooDeep depth (.ok reply) := by
  rintro ⟨_, container, hreply, _, _, hdeep⟩
  cases hreply
  exact h container (hbody.symm.trans hdeep)

lemma dataOf_cases (path : String) (v : Json.Content) :
    Client.dataOf path v = .ok (listUnderData v) ∨
      listUnderData v = [] ∧ ∃ text, Client.dataOf path v = .error ⟨.value, text⟩ := by
  cases v with
  | object fields =>
    rw [Client.dataOf, listUnderData]
    cases Fields.get fields "data" with
    | null => exact .inl rfl
    | list data => exact .inl rfl
    | _ => exact .inr ⟨rfl, _, rfl⟩
  | _ => exact .inr ⟨rfl, _, rfl⟩

/-- The body of a success, read. -/
lemma reads_body {reply : Reply} (hlow : 200 ≤ reply.status) (hhigh : reply.status < 300) :
    Reads depth (.ok reply) (match Json.readBytes depth reply.body with
      | .ok v => Client.dataOf path v
      | .error e => .error (Client.bodyFault e)) := by
  have htransient : isTransient (.ok reply) = false := isTransient_ok_eq_false (by omega)
  have hsuccess : 200 ≤ reply.status ∧ reply.status < 300 := ⟨hlow, hhigh⟩
  rcases hbody : Json.readBytes depth reply.body with e | v
  · have hnone : dataIn depth (.ok reply) = [] := by rw [dataIn, if_pos hsuccess, hbody]
    cases e with
    | tooDeep container => exact .deep ⟨reply, container, rfl, hlow, hhigh, hbody⟩ rfl htransient
    | _ => exact .fault hnone (not_nestsTooDeep_of_body hbody (by simp)) rfl htransient.symm
  · have hdeep : ¬ NestsTooDeep depth (.ok reply) := not_nestsTooDeep_of_body hbody (by simp)
    have hdata : dataIn depth (.ok reply) = listUnderData v := by rw [dataIn, if_pos hsuccess, hbody]
    rcases dataOf_cases path v with hlist | ⟨hnone, text, hfault⟩
    · dsimp only
      rw [hlist, ← hdata]
      exact .data hdeep htransient
    · dsimp only
      rw [hfault]
      exact .fault (hdata.trans hnone) hdeep rfl htransient.symm

/-- A reply reads so, whatever it is. -/
lemma reads_reply (path : String)
    (hknown : ∀ f, e = .error f → f.kind.isA .http = true ∨ f.kind.isA .value = true) :
    Reads depth e (e.bind (Client.readReply depth path)) := by
  cases e with
  | error f =>
    have hmet : isMet f = true := by
      rcases hknown f rfl with h | h <;> simp [isMet, h]
    have hstatus : f.kind.isA .transientStatus = false := by
      have h := hknown f rfl
      revert h
      cases f.kind <;> decide
    exact .fault rfl (by rintro ⟨_, _, h, _⟩; cases h) hmet (by rw [hstatus, Bool.or_false]; rfl)
  | ok reply =>
    rw [Except.bind, Client.readReply]
    split_ifs with hoverloaded hstatus
    · have hnone : ¬ (200 ≤ reply.status ∧ reply.status < 300) := by omega
      exact .fault (if_neg hnone) (not_nestsTooDeep_of_status hnone) rfl
        (isTransient_ok_iff.2 hoverloaded).symm
    · have hnone : ¬ (200 ≤ reply.status ∧ reply.status < 300) := by omega
      exact .fault (if_neg hnone) (not_nestsTooDeep_of_status hnone) rfl
        (isTransient_ok_eq_false hoverloaded).symm
    · exact reads_body (by omega) (by omega)

lemma Reads.isRetried_iff {r : Except Fault (List Json.Content)} (h : Reads depth e r)
    (hretry : p.retryOn = retryable) :
    (∃ f, r = .error f ∧ p.isRetried f = true) ↔ isTransient e = true := by
  have hretried (f : Fault) :
      p.isRetried f = (f.kind.isA .transport || f.kind.isA .transientStatus) := by
    simp [RetryPolicy.isRetried, hretry, retryable]
  cases h with
  | data _ htransient => simp [htransient]
  | fault _ _ _ htransient =>
    rw [← hretried] at htransient
    simp [htransient]
  | @deep f _ hf htransient =>
    have hkind : p.isRetried f = false := by
      rw [hretried, hf]
      rfl
    simp [hkind, htransient]

lemma Reads.yields {r : Except Fault (List Json.Content)} (h : Reads depth e r) :
    Yields depth e (dataIn depth e) (settled r) := by
  cases h with
  | data hdeep _ => exact .inl ⟨hdeep, rfl⟩
  | fault hdata hdeep hmet _ => exact .inl ⟨hdeep, by rw [settled, if_pos hmet, hdata]⟩
  | @deep f hdeep hf _ =>
    have hunmet : isMet f = false := by
      rw [isMet, hf]
      rfl
    exact .inr ⟨hdeep, f, hf, by rw [settled, hunmet]; rfl⟩

lemma Yields.map {α β : Type} {data : α} {r : Except Fault α} (h : Yields depth e data r)
    (g : α → β) : Yields depth e (g data) (r.map g) := by
  rcases h with ⟨hdeep, rfl⟩ | ⟨hdeep, f, hf, rfl⟩
  · exact .inl ⟨hdeep, rfl⟩
  · exact .inr ⟨hdeep, f, hf, rfl⟩

end Replies

section Turns

variable {bounds : Bounds} {replies : Nat → Except Fault Reply}

lemma leading_add {n : Nat} (h : ∀ i < n, isTransient (replies i) = true) (m : Nat) :
    leading replies (n + m) =
      n + (((List.range m).map (n + ·)).takeWhile fun i => isTransient (replies i)).length := by
  have hall : ∀ i ∈ List.range n, isTransient (replies i) = true :=
    fun i hi => h i (List.mem_range.1 hi)
  rw [leading, List.range_add, List.takeWhile_append_of_pos hall, List.length_append,
    List.length_range]

/-- So many replies are taken in as there are leading transient ones, and the one after them, where
the policy does not end the attempts before. -/
lemma taken_eq {p : RetryPolicy} {n : Nat} (hle : 1 + n ≤ p.maxAttempts)
    (h : ∀ i < n, isTransient (replies i) = true)
    (hlast : 1 + n < p.maxAttempts → isTransient (replies n) = false) : taken p replies = 1 + n := by
  obtain ⟨m, hm⟩ : ∃ m, p.maxAttempts = n + (m + 1) := ⟨p.maxAttempts - n - 1, by omega⟩
  have hleading := leading_add h (m + 1)
  rw [← hm] at hleading
  rw [taken]
  rcases Nat.lt_or_ge (1 + n) p.maxAttempts with hlt | hge
  · rw [List.range_succ_eq_map, List.map_cons, List.takeWhile_cons_of_neg (by simp [hlast hlt])]
      at hleading
    simp only [List.length_nil] at hleading
    omega
  · omega

variable {p : RetryPolicy} {r : Request} {waits : Nat → Float} (hretry : p.retryOn = retryable)
  (hwaits : ∀ i, 1 ≤ i → i < p.maxAttempts → p.waitFor i = .ok (waits i))
  (hknown : ∀ i f, replies i = .error f → f.kind.isA .http = true ∨ f.kind.isA .value = true)
include hretry hwaits hknown

/-- The attempts at a request take in the replies in turn, up to the first that is not transient. -/
lemma Attempts.exists_turns {attempt : Nat} {past after : History}
    {e : Except Fault (List Json.Content)}
    (h : Attempts p (inTurn bounds replies) r attempt past e after) {k : Nat}
    (hpast : past.countP Event.isSent = k) (hattempt : attempt = k + 1)
    (hle : attempt ≤ p.maxAttempts) :
    ∃ n, attempt + n ≤ p.maxAttempts ∧ (∀ i < n, isTransient (replies (k + i)) = true) ∧
      (attempt + n < p.maxAttempts → isTransient (replies (k + n)) = false) ∧
      e = (replies (k + n)).bind (Client.readReply bounds.nestingLimit r.path) ∧
      after = past ++ paced (.sent r) (fun i => .paused (waits i)) attempt n ++ [.sent r] := by
  induction h generalizing k with
  | @last attempt past e he hlast =>
    rw [answer_inTurn, hpast] at he
    refine ⟨0, hle, by simp, fun hlt => ?_, he.symm, by simp [paced]⟩
    rw [← Bool.not_eq_true, Nat.add_zero, ← (reads_reply r.path (hknown k)).isRetried_iff hretry, he]
    rintro ⟨f, hf, hretried⟩
    have := hlast f hf hretried
    omega
  | @again attempt past after f seconds e hanswer hf hlt hwait hrest ih =>
    rw [answer_inTurn, hpast] at hanswer
    have hfirst : isTransient (replies k) = true :=
      ((reads_reply r.path (hknown k)).isRetried_iff hretry).1 ⟨f, hanswer, hf⟩
    have hseconds : seconds = waits attempt := by
      have := hwait.symm.trans (hwaits attempt (by omega) hlt)
      rwa [Except.ok.injEq] at this
    have hcount : (past ++ [Event.sent r, Event.paused seconds]).countP Event.isSent = k + 1 := by
      simp [List.countP_append, List.countP_cons, Event.isSent, hpast]
    have hshift (i : Nat) : k + 1 + i = k + (i + 1) := by omega
    obtain ⟨n, hstop, hall, hlast, he, hafter⟩ := ih hcount (by omega) hlt
    refine ⟨n + 1, by omega, fun i hi => ?_, fun h => hshift n ▸ hlast (by omega), hshift n ▸ he, ?_⟩
    · cases i with
      | zero => exact hfirst
      | succ i => exact hshift i ▸ hall i (Nat.lt_of_succ_lt_succ hi)
    · rw [hafter, paced_succ, hseconds]
      simp

/-- What a request brings that is answered in turn, and the history that it leaves. -/
lemma Brings.turns {after : History} {e : Except Fault (List Json.Content)}
    (h : Brings p (inTurn bounds replies) (.ok r) [] e after) :
    Yields bounds.nestingLimit (replies (taken p replies - 1))
        (dataIn bounds.nestingLimit (replies (taken p replies - 1))) e ∧
      after = paced (.sent r) (fun i => .paused (waits i)) 1 (taken p replies - 1) ++ [.sent r] := by
  cases h with
  | @sent _ _ _ e h =>
    obtain ⟨n, hstop, hall, hlast, he, hafter⟩ :=
      h.exists_turns hretry hwaits hknown (k := 0) rfl rfl p.maxAttempts_pos
    simp only [Nat.zero_add] at hall hlast he
    rw [taken_eq hstop hall hlast, Nat.add_sub_cancel_left, hafter, he]
    exact ⟨(reads_reply r.path (hknown n)).yields, rfl⟩

end Turns

/-- A request that cannot be written brings nothing, or the fault of an address that is not one. -/
lemma settled_of_traces {bounds : Bounds} {service : Wide} {lookback : String} {limit : Int}
    {f : Fault} (h : Request.traces bounds service lookback limit = .error f) :
    settled (.error f) = if f.kind = .invalidUrl then .error f else .ok [] := by
  rcases Client.isMet_of_traces h with hmet | hkind
  · have hkind : f.kind ≠ .invalidUrl := by
      intro hkind
      rw [isMet, hkind] at hmet
      cases hmet
    rw [settled, if_pos hmet, if_neg hkind]
  · have hunmet : isMet f = false := by
      rw [isMet, hkind]
      rfl
    rw [settled, hunmet, if_pos hkind]
    rfl

/-- The law of one call, against a backend that replies in any order of replies and known failures,
within any bounds, and under any policy that tries again what it should and whose waits are defined.
The call takes in the leading transient replies and the next one, as far as the policy allows, with
one wait between a request and the next. What it brings is made of the list under `data` in the last
of these replies, and is empty where there is no such list: the names of what is present in the list,
or the objects in it. Only when the last reply nests too deep the call raises. The traces of a service
that cannot stand in a request take in no reply at all. -/
theorem call_takes_leading_failures (c : Client) (bounds : Bounds)
    (replies : Nat → Except Fault Reply) (waits : Nat → Float)
    (hretry : c.requests.retryOn = retryable)
    (hwaits : ∀ i, 1 ≤ i → i < c.requests.maxAttempts → c.requests.waitFor i = .ok (waits i))
    (hknown : ∀ i f, replies i = .error f → f.kind.isA .http = true ∨ f.kind.isA .value = true)
    (journal : List Entry) :
    let around := (inTurn bounds replies).surroundings
    let depth := bounds.nestingLimit
    let count := taken c.requests replies
    let last := replies (count - 1)
    let events := fun r => paced (.sent r) (fun i => .paused (waits i)) 1 (count - 1) ++ [.sent r]
    (∃ e journal', (c.listServices around).perform ⟨journal, []⟩ =
        (e, ⟨journal', events .services⟩) ∧
      Yields depth last (((dataIn depth last).filter ValueOf.isPresent).map ValueOf.wideDisplay) e) ∧
    ∀ service lookback limit,
      (∀ r, Request.traces bounds service lookback limit = .ok r → ∃ e journal',
        (c.listTraces around service lookback limit).perform ⟨journal, []⟩ =
          (e, ⟨journal', events r⟩) ∧
        Yields depth last ((dataIn depth last).filter Client.isObject) e) ∧
      (∀ f, Request.traces bounds service lookback limit = .error f → ∃ journal',
        (c.listTraces around service lookback limit).perform ⟨journal, []⟩ =
          (if f.kind = .invalidUrl then .error f else .ok [], ⟨journal', []⟩)) := by
  intro around depth count last events
  have hunhindered : c.requests.Unhindered around.pause :=
    ⟨fun i hpos hlt => ⟨waits i, hwaits i hpos hlt⟩, fun _ _ => ⟨(), _, rfl⟩⟩
  refine ⟨?_, fun service lookback limit => ⟨fun r hr => ?_, fun f hf => ?_⟩⟩
  · obtain ⟨e, after, journal', hbrings, hperform⟩ := exists_listServices hretry hunhindered [] journal
    obtain ⟨hyields, rfl⟩ := hbrings.turns hretry hwaits hknown
    exact ⟨_, journal', hperform, hyields.map namesOf⟩
  · obtain ⟨e, after, journal', hbrings, hperform⟩ :=
      exists_listTraces lookback limit hretry hunhindered service [] journal
    rw [toBounds_inTurn, hr] at hbrings
    obtain ⟨hyields, rfl⟩ := hbrings.turns hretry hwaits hknown
    exact ⟨_, journal', hperform, hyields.map _⟩
  · obtain ⟨e, after, journal', hbrings, hperform⟩ :=
      exists_listTraces lookback limit hretry hunhindered service [] journal
    rw [toBounds_inTurn, hf] at hbrings
    cases hbrings
    refine ⟨journal', hperform.trans ?_⟩
    rw [settled_of_traces hf]
    split <;> rfl

/-- The server is overloaded at first. -/
theorem call_takes_leading_failures_of_overload :
    let c : Client := ⟨[], { maxAttempts := 2, retryOn := retryable },
      { retryOn := [.backendUnavailable] }⟩
    let bounds : Bounds := {}
    let replies := fun i => .ok (if i = 0 then ⟨503, []⟩ else ⟨200, listingBody⟩)
    c.requests.retryOn = retryable ∧
    (∀ i f, replies i = .error f → f.kind.isA .http = true ∨ f.kind.isA .value = true) ∧
    ∃ wait, (∀ i : Nat, 1 ≤ i → i < c.requests.maxAttempts → c.requests.waitFor i = .ok wait) ∧
      ∃ journal, (c.listServices (inTurn bounds replies).surroundings).perform ⟨[], []⟩ =
        (.ok ["cart", "shop"], ⟨journal, [.sent .services, .paused wait, .sent .services]⟩) := by
  intro c bounds replies
  obtain ⟨wait, hwaits⟩ := RetryPolicy.exists_waits_of_two (p := c.requests) rfl
  have hknown : ∀ i f, replies i = .error f → f.kind.isA .http = true ∨ f.kind.isA .value = true :=
    fun i f hf => by cases hf
  have hbody : Json.readBytes bounds.nestingLimit listingBody =
      .ok (.object [("data", .list [.text "cart", .text "shop"])]) := (readBytes_bodies (by decide)).1
  obtain ⟨⟨e, journal, hperform, hyields⟩, -⟩ :=
    call_takes_leading_failures c bounds replies (fun _ => wait) rfl hwaits hknown []
  have hcount : taken c.requests replies = 2 := by decide
  rw [hcount] at hperform hyields
  have hread : ¬ NestsTooDeep bounds.nestingLimit (replies 1) :=
    not_nestsTooDeep_of_body hbody (by simp)
  have hdata : dataIn bounds.nestingLimit (replies 1) = [.text "cart", .text "shop"] := by
    change dataIn bounds.nestingLimit (.ok ⟨200, listingBody⟩) = _
    rw [dataIn, if_pos (by decide), hbody]
    rfl
  obtain ⟨-, rfl⟩ := hyields.resolve_right fun h => hread h.1
  refine ⟨rfl, hknown, wait, hwaits, journal, hperform.trans ?_⟩
  rw [hdata]
  rfl

/-- A listing that nests too deep is raised. -/
theorem nested_listing_raises :
    let c : Client := ⟨[], { maxAttempts := 1, retryOn := retryable },
      { retryOn := [.backendUnavailable] }⟩
    let bounds : Bounds := { nestingLimit := 1000 }
    let last : Except Fault Reply := .ok ⟨200, nestedBody 1000⟩
    dataIn bounds.nestingLimit last = [] ∧
      ((c.listServices (inTurn bounds fun _ => last).surroundings).perform ⟨[], []⟩).1 =
        .error nestedFault := by
  intro c bounds last
  constructor
  · rw [dataIn, if_pos (by simp), readBytes_nestedBody]
  · have hlast : (inTurn bounds fun _ => last).answer [] .services = .error nestedFault :=
      readReply_nestedBody 1000 _
    rw [Client.listServices_fst,
      Client.perform_fetch_of_unmet rfl ((perform_fetchOnce_script []).trans (by rw [hlast])) rfl]
    rfl

end IncidentTriage.Backend

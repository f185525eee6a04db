import IncidentTriage.Proofs.Backend.Unmet

/-!
# Scripted backends

A script says how a backend replies to each request, given all that has happened before: the
requests that were sent and the pauses that were made. It also says what bounds the requests and the
bodies. Against a script, a request through the tier
of single requests is a run of attempts at it. Each but the last fails in a way that is worth another
try and is followed by a pause, and the end of the last one settles what the request brings.
-/

namespace IncidentTriage.Backend
open IncidentTriage.Text IncidentTriage.Act

inductive Event
  | sent (r : Request)
  | paused (seconds : Float)
  | pausedBatch (seconds : Float)

/-- All that has happened, the oldest event first. -/
abbrev History := List Event

/-- How a backend replies to a request after a history, and what bounds the requests and the bodies
of the replies. -/
structure Script extends Bounds where
  reply : History → Request → Except Fault Reply

namespace Script

def surroundings (s : Script) : Surroundings History where
  toBounds := s.toBounds
  send r := do
    let past ← Act.world
    Act.setWorld (past ++ [.sent r])
    Act.ofOutcome (s.reply past r)
  pause seconds := Act.modifyWorld (· ++ [.paused seconds])
  pauseBatch seconds := Act.modifyWorld (· ++ [.pausedBatch seconds])

lemma toBounds_surroundings (s : Script) : s.surroundings.toBounds = s.toBounds := rfl

/-- How an attempt at a request ends. -/
def answer (s : Script) (past : History) (r : Request) : Except Fault (List Json.Content) :=
  (s.reply past r).bind (Client.readReply s.nestingLimit r.path)

/-- The transport fails as it does in the cases that it knows of. -/
def FailsAsKnown (s : Script) : Prop :=
  ∀ past r f, s.reply past r = .error f → f.kind.isA .http = true ∨ f.kind.isA .value = true

end Script

/-- The attempts at a request from the given one on, the end of the last of them, and the history
that they leave. -/
inductive Attempts (p : RetryPolicy) (s : Script) (r : Request) :
    Nat → History → Except Fault (List Json.Content) → History → Prop
  | last {attempt : Nat} {past : History} {e : Except Fault (List Json.Content)}
      (he : s.answer past r = e)
      (h : ∀ f, e = .error f → p.isRetried f = true → p.maxAttempts ≤ attempt) :
      Attempts p s r attempt past e (past ++ [.sent r])
  | again {attempt : Nat} {past after : History} {f : Fault} {seconds : Float}
      {e : Except Fault (List Json.Content)} (h : s.answer past r = .error f)
      (hf : p.isRetried f = true) (hlt : attempt < p.maxAttempts)
      (hwait : p.waitFor attempt = .ok seconds)
      (hrest : Attempts p s r (attempt + 1) (past ++ [.sent r, .paused seconds]) e after) :
      Attempts p s r attempt past e after

/-- What a request has brought when its last attempt ends so: a fault that the client has an answer
to counts as an empty list. -/
def settled : Except Fault (List Json.Content) → Except Fault (List Json.Content)
  | .ok data => .ok data
  | .error f => if isMet f then .ok [] else .error f

/-- What a request through the tier of single requests brings, and the history that it leaves. One
that cannot be written is not sent. -/
inductive Brings (p : RetryPolicy) (s : Script) :
    Except Fault Request → History → Except Fault (List Json.Content) → History → Prop
  | unsent (f : Fault) (past : History) : Brings p s (.error f) past (settled (.error f)) past
  | sent {r : Request} {past after : History} {e : Except Fault (List Json.Content)}
      (h : Attempts p s r 1 past e after) : Brings p s (.ok r) past (settled e) after

section Requests

variable {c : Client} {p : RetryPolicy} {s : Script} {r : Request} {past after : History}
  {e : Except Fault (List Json.Content)}

lemma perform_fetchOnce_script (journal : List Entry) :
    (Client.fetchOnce s.surroundings (.ok r)).perform ⟨journal, past⟩ =
      (s.answer past r, ⟨journal, past ++ [.sent r]⟩) := by
  have hsend : (s.surroundings.send r).perform ⟨journal, past⟩ =
      (s.reply past r, ⟨journal, past ++ [.sent r]⟩) := by
    simp only [Script.surroundings, perform_bind, perform_world, perform_setWorld,
      perform_ofOutcome, continued_ok]
  simp only [Client.fetchOnce, Script.answer, perform_bind, perform_ofOutcome, continued_ok, hsend,
    Except.bind]
  cases s.reply past r with
  | error f => rfl
  | ok reply =>
    rw [continued_ok, perform_ofOutcome]
    rfl

/-- The end of the attempts when a fault worth another try counts as an empty list. -/
def excused (p : RetryPolicy) : Except Fault (List Json.Content) → Except Fault (List Json.Content)
  | .ok data => .ok data
  | .error f => if p.isRetried f then .ok [] else .error f

/-- The retried call against a script makes its attempts. -/
lemma exists_attempts (hwaits : p.Unhindered s.surroundings.pause) (name : Wide)
    {attempt more : Nat} (hpos : 1 ≤ attempt) (hmore : attempt + more = p.maxAttempts) (past : History)
    (journal : List Entry) :
    ∃ e after journal', Attempts p s r attempt past e after ∧
      (p.attemptsFrom s.surroundings.pause name (Client.fetchOnce s.surroundings (.ok r))
        (some fun _ => return []) attempt more).perform ⟨journal, past⟩ =
          (excused p e, ⟨journal', after⟩) := by
  induction more generalizing attempt past journal with
  | zero =>
    rw [RetryPolicy.attemptsFrom_eq, perform_tryCatch, perform_fetchOnce_script]
    have hlast : Attempts p s r attempt past (s.answer past r) (past ++ [.sent r]) :=
      .last rfl fun _ _ _ => by omega
    refine ⟨s.answer past r, past ++ [.sent r], ?_⟩
    cases hanswer : s.answer past r with
    | ok data => exact ⟨journal, hanswer ▸ hlast, rfl⟩
    | error f =>
      rw [handled, excused]
      cases p.isRetried f <;> exact ⟨_, hanswer ▸ hlast, rfl⟩
  | succ more ih =>
    rw [RetryPolicy.attemptsFrom_eq, perform_tryCatch, perform_fetchOnce_script]
    cases hanswer : s.answer past r with
    | ok data => exact ⟨.ok data, _, journal, .last hanswer (by simp), rfl⟩
    | error f =>
      cases hf : p.isRetried f with
      | true =>
        obtain ⟨seconds, hwait⟩ := hwaits.waits attempt hpos (by omega)
        obtain ⟨noted, hpause⟩ := RetryPolicy.exists_perform_pauseAfter s.surroundings.pause name
          hwait f ⟨journal, past ++ [.sent r]⟩
        have hslept : (s.surroundings.pause seconds).perform ⟨noted, past ++ [.sent r]⟩ =
            (.ok (), ⟨noted, past ++ [.sent r, .paused seconds]⟩) := by
          simp [Script.surroundings]
        obtain ⟨e, after, journal', hrest, hperform⟩ :=
          ih (Nat.le_add_left 1 attempt) (by omega) (past ++ [.sent r, .paused seconds]) noted
        refine ⟨e, after, journal', .again hanswer hf (by omega) hwait hrest, ?_⟩
        rw [handled, if_pos hf, RetryPolicy.following, perform_bind, hpause, hslept, continued_ok,
          hperform]
      | false =>
        refine ⟨.error f, _, journal, .last hanswer fun g hg hretried => ?_, ?_⟩
        · rw [Except.error.injEq] at hg
          simp [← hg, hf] at hretried
        · rw [handled, hf, excused, hf]
          rfl

/-- Faults that are not worth another try, but that the client meets, count as an empty list too. -/
lemma exists_fetch_of_call (hretry : c.requests.retryOn = retryable) {name : Wide}
    {request : Except Fault Request} {scene : Scene History} {noted : List Entry}
    (hcall : (c.requests.call s.surroundings.pause name (Client.fetchOnce s.surroundings request)
      (some fun _ => return [])).perform scene = (excused c.requests e, ⟨noted, after⟩)) :
    ∃ journal, (c.fetch s.surroundings name request).perform scene =
      (settled e, ⟨journal, after⟩) := by
  rw [Client.fetch, perform_tryCatch, hcall]
  cases e with
  | ok data => exact ⟨noted, rfl⟩
  | error f =>
    rw [excused, settled, isMet_iff hretry]
    cases c.requests.isRetried f with
    | true => exact ⟨noted, rfl⟩
    | false =>
      rw [Bool.false_or, if_neg Bool.false_ne_true, handled]
      cases f.kind.isA .http || f.kind.isA .value <;> exact ⟨_, rfl⟩

/-- A request brings what its attempts settle. -/
lemma exists_brings (hretry : c.requests.retryOn = retryable)
    (hwaits : c.requests.Unhindered s.surroundings.pause) (request : Except Fault Request)
    (hrequest : ∀ f, request = .error f → c.requests.isRetried f = false) (name : Wide)
    (past : History) (journal : List Entry) :
    ∃ e after journal', Brings c.requests s request past e after ∧
      (c.fetch s.surroundings name request).perform ⟨journal, past⟩ = (e, ⟨journal', after⟩) := by
  cases request with
  | error f =>
    have hf := hrequest f rfl
    have hcall : (c.requests.call s.surroundings.pause name
        (Client.fetchOnce s.surroundings (.error f)) (some fun _ => return [])).perform
          ⟨journal, past⟩ = (excused c.requests (.error f), ⟨journal, past⟩) := by
      rw [excused, hf]
      exact RetryPolicy.perform_call_of_not_retried rfl hf
    obtain ⟨journal', hfetch⟩ := exists_fetch_of_call hretry hcall
    exact ⟨_, past, journal', .unsent f past, hfetch⟩
  | ok r =>
    have hpos := c.requests.maxAttempts_pos
    have hmore : 1 + (c.requests.maxAttempts - 1) = c.requests.maxAttempts := by omega
    obtain ⟨e, after, noted, hattempts, hcall⟩ := exists_attempts (r := r) hwaits name
      (Nat.le_refl 1) hmore past journal
    obtain ⟨journal', hfetch⟩ := exists_fetch_of_call hretry hcall
    exact ⟨_, after, journal', .sent hattempts, hfetch⟩

/-- Only requests for what is asked are sent, and nothing of the past is undone. -/
lemma Attempts.events {attempt : Nat} (h : Attempts p s r attempt past e after) :
    ∃ events, after = past ++ events ∧ ∀ r', .sent r' ∈ events → r' = r := by
  induction h with
  | last => exact ⟨[.sent r], rfl, by simp⟩
  | @again _ past _ _ seconds _ _ _ _ _ _ ih =>
    obtain ⟨events, rfl, hevents⟩ := ih
    refine ⟨.sent r :: .paused seconds :: events, by simp, ?_⟩
    intro r' hr'
    simp only [List.mem_cons, Event.sent.injEq, reduceCtorEq, false_or] at hr'
    exact hr'.elim id (hevents r')

lemma Brings.events {request : Except Fault Request} (h : Brings p s request past e after) :
    ∃ events, after = past ++ events ∧ ∀ r', .sent r' ∈ events → request = .ok r' := by
  cases h with
  | unsent => exact ⟨[], by simp, by simp⟩
  | sent h =>
    obtain ⟨events, hafter, hevents⟩ := h.events
    exact ⟨events, hafter, fun r' hr' => by rw [hevents r' hr']⟩

/-- The last attempt is an attempt: it ends as the script has it after some history. -/
lemma Attempts.exists_answer {attempt : Nat} (h : Attempts p s r attempt past e after) :
    ∃ before, s.answer before r = e := by
  induction h with
  | last he => exact ⟨_, he⟩
  | again _ _ _ _ _ ih => exact ih

/-- Where the transport fails as it should, what the client has no answer to is an address that is
not one, or a body that nests too deep. -/
lemma Brings.escapes {request : Except Fault Request} (h : Brings p s request past e after)
    (hs : s.FailsAsKnown)
    (hrequest : ∀ f, request = .error f → isMet f = true ∨ f.kind = .invalidUrl) {f : Fault}
    (he : e = .error f) : Escapes f := by
  have hof : ∀ e', settled e' = .error f → e' = .error f ∧ isMet f = false := by
    intro e' he'
    cases e' with
    | ok data => cases he'
    | error g =>
      cases hg : isMet g with
      | true => simp [settled, hg] at he'
      | false =>
        simp only [settled, hg, Bool.false_eq_true, if_false, Except.error.injEq] at he'
        exact ⟨by rw [he'], he' ▸ hg⟩
  cases h with
  | unsent g =>
    obtain ⟨hg, hmet⟩ := hof _ he
    cases hg
    rcases hrequest f rfl with h | h
    · rw [hmet] at h
      cases h
    · exact .inl h
  | @sent r past after e' hattempts =>
    obtain ⟨rfl, hmet⟩ := hof e' he
    obtain ⟨before, hbefore⟩ := hattempts.exists_answer
    unfold Script.answer at hbefore
    cases hreply : s.reply before r with
    | error g =>
      rw [hreply] at hbefore
      cases hbefore
      rcases hs before r f hreply with h | h <;> simp [isMet, h] at hmet
    | ok reply =>
      rw [hreply] at hbefore
      rcases Client.isMet_of_readReply hbefore with h | h
      · rw [hmet] at h
        cases h
      · exact .inr h

end Requests

end IncidentTriage.Backend

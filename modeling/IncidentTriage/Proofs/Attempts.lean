import IncidentTriage.Proofs.Retry

/-!
# The attempts of a retried call

A call under a policy is followed through all its attempts, whatever each of them ends with. The first
end that is not worth another try is the end of the call. When every attempt that the policy allows
fails, the fallback has the last word on the last fault.
-/

namespace IncidentTriage

/-- Something done `n` times, with the pause that follows each time. The times are counted from
`first` on. -/
def paced {ε : Type} (once : ε) (pause : Nat → ε) (first n : Nat) : List ε :=
  (List.range' first n).flatMap fun i => [once, pause i]

lemma paced_succ {ε : Type} (once : ε) (pause : Nat → ε) (first n : Nat) :
    paced once pause first (n + 1) = once :: pause first :: paced once pause (first + 1) n := by
  rw [paced, List.range'_succ, List.flatMap_cons]
  rfl

namespace RetryPolicy

/-- What happens in a call: an attempt with its arguments, a sleep, or a question to the fallback. -/
inductive Event (β : Type)
  | tried (args : β)
  | slept (seconds : Float)
  | fellBack (f : Fault)

def Event.isTry {β : Type} : Event β → Bool
  | .tried _ => true
  | _ => false

/-- How the attempts end, counted from one, and how the fallback answers a fault, where there is
one. -/
structure Script (α : Type) where
  ends : Nat → Except Fault α
  fallback : Option (Fault → Except Fault α)

namespace Script

variable {α β : Type} (s : Script α)

def attempt (args : β) : Act (List (Event β)) α := do
  let past ← Act.world
  Act.setWorld (past ++ [.tried args])
  Act.ofOutcome (s.ends (past.countP Event.isTry + 1))

def sleep (seconds : Float) : Act (List (Event β)) Unit :=
  Act.modifyWorld (· ++ [.slept seconds])

def recover : Option (Fault → Act (List (Event β)) α) :=
  s.fallback.map fun answer f => do
    Act.modifyWorld (· ++ [.fellBack f])
    Act.ofOutcome (answer f)

end Script

/-- An attempt ends with a fault of a kind that the policy tries again on. -/
def Retries {α : Type} (p : RetryPolicy) (e : Except Fault α) : Prop :=
  ∃ f, e = .error f ∧ ∃ k ∈ p.retryOn, f.kind.isA k = true

section Attempts

variable {α β : Type} {p : RetryPolicy} {s : Script α} {args : β} {name : Text.Wide}
  {past : List (Event β)} {attempt : Nat}

lemma Retries.exists_fault {e : Except Fault α} (h : p.Retries e) :
    ∃ f, e = .error f ∧ p.isRetried f = true := by
  obtain ⟨f, hf, hk⟩ := h
  exact ⟨f, hf, List.any_eq_true.2 hk⟩

lemma not_retried_of_not_retries {e : Except Fault α} (h : ¬ p.Retries e) {f : Fault}
    (hf : e = .error f) : p.isRetried f = false := by
  rw [Bool.eq_false_iff]
  exact fun hretried => h ⟨f, hf, List.any_eq_true.1 hretried⟩

lemma perform_attempt (hpast : past.countP Event.isTry + 1 = attempt) (journal : List Entry) :
    (s.attempt args).perform ⟨journal, past⟩ =
      (s.ends attempt, ⟨journal, past ++ [.tried args]⟩) := by
  simp [Script.attempt, hpast]

lemma perform_attemptsFrom_of_retried {more : Nat} (hpast : past.countP Event.isTry + 1 = attempt)
    {f : Fault} (hf : s.ends attempt = .error f) (hretried : p.isRetried f = true)
    (journal : List Entry) :
    (p.attemptsFrom Script.sleep name (s.attempt args) s.recover attempt more).perform
        ⟨journal, past⟩ =
      (p.following Script.sleep name (s.attempt args) s.recover attempt more f).perform
        ⟨journal, past ++ [.tried args]⟩ := by
  rw [attemptsFrom_eq, Act.perform_tryCatch, perform_attempt hpast, hf, Act.handled, if_pos hretried]

/-- After the last attempt the fallback answers, if there is one. -/
lemma exists_perform_giveUp (name : Text.Wide) (attempt : Nat) (f : Fault)
    (scene : Scene (List (Event β))) :
    ∃ journal, (giveUp name attempt s.recover f).perform scene =
      match s.fallback with
      | none => (.error f, ⟨journal, scene.world⟩)
      | some answer => (answer f, ⟨journal, scene.world ++ [.fellBack f]⟩) := by
  obtain ⟨ends, fallback⟩ := s
  cases fallback with
  | none => exact ⟨_, rfl⟩
  | some answer =>
    obtain ⟨journal, hanswer⟩ : ∃ journal, (giveUp name attempt (Script.mk ends answer).recover
        f).perform scene = (Act.ofOutcome (answer f)).perform
          ⟨journal, scene.world ++ [Event.fellBack f]⟩ := ⟨_, rfl⟩
    exact ⟨journal, hanswer.trans (Act.perform_ofOutcome _ _)⟩

variable {waits : Nat → Float}
  (hwaits : ∀ i, 1 ≤ i → i < p.maxAttempts → p.waitFor i = .ok (waits i))
include hwaits

variable (args name) in
/-- Attempts that end with faults worth another try are made one after the other, each with the wait
that follows it. -/
lemma exists_perform_later {n more : Nat} (hpos : 1 ≤ attempt)
    (hmore : attempt + (n + more) = p.maxAttempts) (hpast : past.countP Event.isTry + 1 = attempt)
    (hfails : ∀ i < n, p.Retries (s.ends (attempt + i))) (journal : List Entry) :
    ∃ noted later, later = past ++ paced (.tried args) (fun i => .slept (waits i)) attempt n ∧
      later.countP Event.isTry + 1 = attempt + n ∧
      (p.attemptsFrom Script.sleep name (s.attempt args) s.recover attempt (n + more)).perform
          ⟨journal, past⟩ =
        (p.attemptsFrom Script.sleep name (s.attempt args) s.recover (attempt + n) more).perform
          ⟨noted, later⟩ := by
  induction n generalizing attempt past journal with
  | zero => exact ⟨journal, past, by simp [paced], hpast, by rw [Nat.zero_add, Nat.add_zero]⟩
  | succ n ih =>
    obtain ⟨f, hf, hretried⟩ := (hfails 0 (Nat.succ_pos n)).exists_fault
    obtain ⟨noted, hpause⟩ := exists_perform_pauseAfter Script.sleep name
      (hwaits attempt hpos (by omega)) f ⟨journal, past ++ [.tried args]⟩
    have hshift (i : Nat) : attempt + 1 + i = attempt + (i + 1) := by omega
    have hcount : (past ++ [Event.tried args] ++ [Event.slept (waits attempt)]).countP Event.isTry + 1 =
        attempt + 1 := by
      simp [List.countP_append, List.countP_cons, Event.isTry, hpast]
    obtain ⟨noted', later, hlater, hcount', hperform⟩ := ih
      (Nat.le_add_left 1 attempt) (by omega) hcount
      (fun i hi => hshift i ▸ hfails (i + 1) (Nat.succ_lt_succ hi)) noted
    refine ⟨noted', later, ?_, hshift n ▸ hcount', ?_⟩
    · rw [hlater, paced_succ, List.append_assoc, List.append_assoc]
      rfl
    · rw [Nat.add_right_comm, perform_attemptsFrom_of_retried hpast hf hretried, following,
        Act.perform_bind, hpause, Script.sleep, Act.perform_modifyWorld, Act.continued_ok, hperform,
        hshift]

end Attempts

/-- A policy of two attempts has one wait, which is defined. -/
lemma exists_waits_of_two {p : RetryPolicy} (h : p.maxAttempts = 2) :
    ∃ wait, ∀ i : Nat, 1 ≤ i → i < p.maxAttempts → p.waitFor i = .ok wait := by
  obtain ⟨wait, hwait⟩ := p.exists_waitFor_one
  refine ⟨wait, fun i hpos hlt => ?_⟩
  obtain rfl : i = 1 := by omega
  exact hwait

/-- The whole law of a retried call, for any policy whose waits are defined, any ends of the attempts
and any fallback. The first attempt that ends otherwise than with a fault worth another try, if the
policy allows it, ends the call: its end is that of the call, and what has happened is the attempts
with the given arguments and between them the waits of the policy. If there is none, all allowed
attempts are made, with no wait after the last, and the call ends with the last fault or, where there
is a fallback, with its answer to that fault, for which it is asked once. -/
theorem call_ends_with_first_settled {α β : Type} (p : RetryPolicy) (waits : Nat → Float)
    (hwaits : ∀ i, 1 ≤ i → i < p.maxAttempts → p.waitFor i = .ok (waits i)) (s : Script α) (args : β)
    (name : Text.Wide) (journal : List Entry) :
    (∀ k, 1 ≤ k → k ≤ p.maxAttempts → (∀ i, 1 ≤ i → i < k → p.Retries (s.ends i)) →
      ¬ p.Retries (s.ends k) → ∃ journal',
        (p.call Script.sleep name (s.attempt args) s.recover).perform ⟨journal, []⟩ =
          (s.ends k, ⟨journal',
            paced (.tried args) (fun i => .slept (waits i)) 1 (k - 1) ++ [.tried args]⟩)) ∧
    ((∀ i, 1 ≤ i → i ≤ p.maxAttempts → p.Retries (s.ends i)) → ∃ f journal' events,
      s.ends p.maxAttempts = .error f ∧
      events = paced (.tried args) (fun i => .slept (waits i)) 1 (p.maxAttempts - 1) ++
        [.tried args] ∧
      (p.call Script.sleep name (s.attempt args) s.recover).perform ⟨journal, []⟩ =
        match s.fallback with
        | none => (.error f, ⟨journal', events⟩)
        | some answer => (answer f, ⟨journal', events ++ [.fellBack f]⟩)) := by
  have hpos := p.maxAttempts_pos
  have hnone : ([] : List (Event β)).countP Event.isTry + 1 = 1 := rfl
  constructor
  · intro k hk hle hfails hend
    obtain ⟨n, rfl⟩ := Nat.exists_eq_add_of_le hk
    obtain ⟨more, hmore⟩ : ∃ more, 1 + (n + more) = p.maxAttempts :=
      ⟨p.maxAttempts - (1 + n), by omega⟩
    obtain ⟨noted, later, hlater, hcount, hperform⟩ :=
      exists_perform_later args name hwaits (Nat.le_refl 1) hmore hnone
        (fun i hi => hfails (1 + i) (by omega) (by omega)) journal
    have hall : p.maxAttempts - 1 = n + more := by omega
    refine ⟨noted, ?_⟩
    rw [call, hall, hperform, Nat.add_sub_cancel_left,
      perform_attemptsFrom_of_settled (perform_attempt hcount noted)
        fun f hf => not_retried_of_not_retries hend hf, hlater, List.nil_append]
  · intro hfails
    obtain ⟨n, hn⟩ : ∃ n, 1 + (n + 0) = p.maxAttempts := ⟨p.maxAttempts - 1, by omega⟩
    obtain ⟨noted, later, hlater, hcount, hperform⟩ :=
      exists_perform_later args name hwaits (Nat.le_refl 1) hn hnone
        (fun i hi => hfails (1 + i) (by omega) (by omega)) journal
    obtain ⟨f, hf, hretried⟩ := (hfails (1 + n) (by omega) (by omega)).exists_fault
    have hall : p.maxAttempts - 1 = n := by omega
    obtain ⟨journal', hgiveUp⟩ := exists_perform_giveUp (s := s) name (1 + n) f
      ⟨noted, later ++ [.tried args]⟩
    refine ⟨f, journal', later ++ [.tried args], hn ▸ hf, by rw [hlater, hall, List.nil_append], ?_⟩
    rw [call, hall]
    refine Eq.trans hperform ?_
    rw [perform_attemptsFrom_of_retried hcount hf hretried, following, hgiveUp]

/-- A refused connection is tried again, an abort is not, and the fallback is not asked about it. -/
theorem call_ends_with_abort :
    let p : RetryPolicy := { maxAttempts := 2 }
    let s : Script Nat := ⟨fun i => .error (if i = 1 then ⟨.connect, "refused"⟩ else ⟨.abort, ""⟩),
      some fun _ => .ok 0⟩
    ∃ wait, (∀ i : Nat, 1 ≤ i → i < p.maxAttempts → p.waitFor i = .ok wait) ∧
      p.Retries (s.ends 1) ∧ ¬ p.Retries (s.ends 2) ∧ ∃ journal,
        (p.call Script.sleep "op" (s.attempt "cart") s.recover).perform ⟨[], []⟩ =
          (.error ⟨.abort, ""⟩, ⟨journal, [.tried "cart", .slept wait, .tried "cart"]⟩) := by
  intro p s
  obtain ⟨wait, hwaits⟩ := exists_waits_of_two (p := p) rfl
  have hfirst : p.Retries (s.ends 1) := ⟨_, rfl, .exception, by decide, by decide⟩
  have hsecond : ¬ p.Retries (s.ends 2) := by
    rintro ⟨f, hf, hk⟩
    cases hf
    revert hk
    decide
  obtain ⟨hsettled, -⟩ := call_ends_with_first_settled p (fun _ => wait) hwaits s "cart" "op" []
  refine ⟨wait, hwaits, hfirst, hsecond, hsettled 2 (by decide) (by decide) ?_ hsecond⟩
  intro i hpos hlt
  obtain rfl : i = 1 := Nat.le_antisymm (Nat.le_of_lt_succ hlt) hpos
  exact hfirst

end RetryPolicy

end IncidentTriage

import IncidentTriage.Proofs.Act
import IncidentTriage.Scheduler
import Mathlib.Data.List.Induction
import Mathlib.Data.List.InsertIdx
import Mathlib.Data.List.Nodup

/-!
# One ingestion of a kind at a time

Requests for ingestions start in any order, and the ingestions that they call end in any order and in
any way. Whatever has happened, of each kind at most one is in flight. A request of that kind is
skipped meanwhile, and one of another kind is not.
-/

namespace IncidentTriage.Scheduler

variable {ω : Type}

/-- A call of the schedule that asks for an ingestion. -/
inductive Request
  | docs
  | traces (lookback : String) (limit : Int)
  | tick

namespace Request

def kind : Request → Kind
  | .docs => .docs
  | .traces .. | .tick => .traces

/-- The request from its start to its end. -/
def act (c : Config) (services : Services ω) : Request → Act (Status × ω) Value
  | .docs => runDocs services
  | .traces lookback limit => runTraces services lookback limit
  | .tick => Scheduler.tick c services

/-- The call of a service that is asked for. -/
def ingestion (c : Config) (services : Services ω) : Request → Act (Status × ω) Value
  | .docs => services.docs
  | .traces lookback limit => services.traces lookback limit
  | .tick => services.traces c.lookback c.limit

/-- What the request answers after its ingestion has ended. A tick answers null for a fault that can
be met. With a strict log it also has to be able to write what was taken in, if anything was. -/
def answer (strict : Bool) : Request → Except Fault Value → Except Fault Value
  | .tick, .ok v => if strict && v.isPresent then (countText v).map fun _ => v else .ok v
  | .tick, .error f => if f.isCatchable then .ok .null else .error f
  | _, ended => ended

end Request

/-- Null, or a whole number, which truth values are too. -/
def isCount : Value → Bool
  | .null | .bool _ | .int _ => true
  | _ => false

def unmark (kind : Kind) (running : List Kind) : List Kind :=
  running.filter (· ≠ kind)

/-- The requests whose ingestions are in flight, and the kinds that are marked as under way. -/
structure Flights where
  running : List Kind := []
  inFlight : List Request := []

/-- A request starts, or an ingestion in flight ends. -/
inductive Flights.Event
  | start (request : Request)
  | finish (flight : Nat)

namespace Flights

def kinds (s : Flights) : List Kind :=
  s.inFlight.map Request.kind

/-- A request starts: it marks its kind and calls its ingestion, or it is skipped. -/
def start (s : Flights) (r : Request) : Flights :=
  if r.kind ∈ s.running then s
  else { running := r.kind :: s.running, inFlight := s.inFlight ++ [r] }

/-- An ingestion in flight ends, in whatever way, and its request unmarks the kind. -/
def finish (s : Flights) (flight : Nat) : Flights :=
  match s.inFlight[flight]? with
  | none => s
  | some r => { running := unmark r.kind s.running, inFlight := s.inFlight.eraseIdx flight }

def after (s : Flights) : Event → Flights
  | .start r => s.start r
  | .finish flight => s.finish flight

/-- What is in flight after some events, when nothing was at first. -/
def run (events : List Event) : Flights :=
  events.foldl after {}

/-- The kinds in flight are told apart, and they are those that are marked. -/
structure Marked (s : Flights) : Prop where
  nodup : s.kinds.Nodup
  mem_running : ∀ kind, kind ∈ s.running ↔ kind ∈ s.kinds

section Events

variable {s : Flights} (h : s.Marked)
include h

lemma start_of_mem {r : Request} (hr : r.kind ∈ s.kinds) : s.start r = s := by
  rw [start, if_pos ((h.mem_running r.kind).2 hr)]

lemma start_of_notMem {r : Request} (hr : r.kind ∉ s.kinds) :
    s.start r = { running := r.kind :: s.running, inFlight := s.inFlight ++ [r] } := by
  rw [start, if_neg fun hmem => hr ((h.mem_running r.kind).1 hmem)]

lemma Marked.start (r : Request) : (s.start r).Marked := by
  by_cases hr : r.kind ∈ s.kinds
  · rwa [start_of_mem h hr]
  · have hkinds : (s.inFlight ++ [r]).map Request.kind = s.kinds ++ [r.kind] := by
      rw [List.map_append, List.map_singleton, kinds]
    rw [start_of_notMem h hr]
    refine ⟨?_, fun kind => ?_⟩
    · rw [kinds, hkinds, List.nodup_append_comm, List.singleton_append, List.nodup_cons]
      exact ⟨hr, h.nodup⟩
    · rw [kinds, hkinds, List.mem_cons, List.mem_append, List.mem_singleton, h.mem_running, or_comm]

/-- A flight that ends frees its own kind and no other. -/
lemma mem_kinds_finish {flight : Nat} {r : Request} (hr : s.inFlight[flight]? = some r)
    (kind : Kind) : kind ∈ (s.finish flight).kinds ↔ kind ∈ s.kinds ∧ kind ≠ r.kind := by
  obtain ⟨hlt, hget⟩ := List.getElem?_eq_some_iff.1 hr
  have hlength : flight < s.kinds.length := by rwa [kinds, List.length_map]
  have hkind : s.kinds[flight] = r.kind := by simp only [kinds, List.getElem_map, hget]
  have hfinish : (s.finish flight).kinds = s.kinds.erase r.kind := by
    rw [← hkind, h.nodup.erase_getElem flight hlength, finish, hr, kinds, ← List.eraseIdx_map, kinds]
  rw [hfinish, h.nodup.mem_erase_iff, and_comm]

lemma Marked.finish (flight : Nat) : (s.finish flight).Marked := by
  cases hr : s.inFlight[flight]? with
  | none =>
    rw [Flights.finish, hr]
    exact h
  | some r =>
    have hmem := mem_kinds_finish h hr
    refine ⟨?_, fun kind => ?_⟩
    · rw [Flights.finish, hr]
      exact (List.eraseIdx_sublist ..).map Request.kind |>.nodup h.nodup
    · rw [hmem, ← h.mem_running, Flights.finish, hr]
      simp [unmark]

lemma Marked.after (event : Event) : (s.after event).Marked := by
  cases event with
  | start r => exact h.start r
  | finish flight => exact h.finish flight

end Events

lemma marked_run (events : List Event) : (run events).Marked := by
  induction events using List.reverseRecOn with
  | nil => exact ⟨List.nodup_nil, fun _ => Iff.rfl⟩
  | append_singleton events event ih =>
    rw [run, List.foldl_append]
    exact ih.after event

end Flights

section Acts

/-- The scene with these kinds marked as under way. -/
def marking (running : List Kind) (scene : Scene (Status × ω)) : Scene (Status × ω) :=
  { scene with world := ({ scene.world.1 with running }, scene.world.2) }

def writing (entries : List Entry) (scene : Scene (Status × ω)) : Scene (Status × ω) :=
  { scene with journal := scene.journal ++ entries }

/-- What is written when a request is skipped. -/
def skipEntry (kind : Kind) : Entry :=
  { level := .warning, author, text := s!"{kind.name} ingestion already in progress, skipping" }

@[simp] lemma perform_isRunning (kind : Kind) (scene : Scene (Status × ω)) :
    (isRunning kind).perform scene = (.ok (decide (kind ∈ scene.world.1.running)), scene) := by
  simp [isRunning, Except.map]

lemma perform_runExclusive_of_mem {kind : Kind} {scene : Scene (Status × ω)}
    (h : kind ∈ scene.world.1.running) (ingestion : Act (Status × ω) Value) :
    (runExclusive kind ingestion).perform scene =
      (.ok .null, writing [skipEntry kind] scene) := by
  simp only [runExclusive, Act.perform_bind, perform_isRunning, Act.continued_ok, h, decide_true,
    if_true]
  rfl

lemma perform_runExclusive_of_notMem {kind : Kind} {scene : Scene (Status × ω)}
    (h : kind ∉ scene.world.1.running) (ingestion : Act (Status × ω) Value) :
    (runExclusive kind ingestion).perform scene =
      let ended := ingestion.perform (marking (kind :: scene.world.1.running) scene)
      (ended.1, marking (unmark kind ended.2.world.1.running) ended.2) := by
  simp only [runExclusive, begin, finish, Act.perform_bind, perform_isRunning, Act.continued_ok, h,
    decide_false, Bool.false_eq_true, if_false, Act.perform_modifyOwn, Act.perform_outcome,
    Act.perform_ofOutcome]
  rfl

lemma writing_nil (scene : Scene (Status × ω)) : writing [] scene = scene := by
  rw [writing, List.append_nil]

/-- Only a strict log makes a fault of a count that cannot be written. -/
lemma perform_noteTaken (c : Config) (services : Services ω) (v : Value)
    (scene : Scene (Status × ω)) :
    ∃ notes, (noteTaken c services v).perform scene =
      (if services.strictLog then (countText v).map fun _ => () else .ok (),
        writing notes scene) := by
  rw [noteTaken]
  cases countText v with
  | ok taken =>
    simp only [Except.map, ite_self]
    exact ⟨_, rfl⟩
  | error f =>
    refine ⟨[], ?_⟩
    rw [writing_nil]
    cases services.strictLog <;> rfl

/-- A tick writes of its ingestion, and answers as it has to. -/
lemma perform_tick_of_ended {c : Config} {services : Services ω} {scene after : Scene (Status × ω)}
    {ended : Except Fault Value}
    (h : (runTraces services c.lookback c.limit).perform scene = (ended, after)) :
    ∃ notes, (tick c services).perform scene =
      (Request.tick.answer services.strictLog ended, writing notes after) := by
  rw [tick, Act.perform_bind, Act.perform_rescue, h]
  cases ended with
  | error f =>
    rw [Act.rescued_error, Request.answer]
    split
    · exact ⟨_, rfl⟩
    · exact ⟨[], by rw [writing_nil]; rfl⟩
  | ok v =>
    rw [Act.rescued_ok, Act.continued_ok, Request.answer]
    cases v.isPresent with
    | false => exact ⟨[], by rw [writing_nil, Bool.and_false]; rfl⟩
    | true =>
      obtain ⟨notes, hnoted⟩ := perform_noteTaken c services v after
      refine ⟨notes, ?_⟩
      rw [if_pos rfl, Act.perform_bind, hnoted, Bool.and_true]
      cases services.strictLog with
      | false => rfl
      | true => cases countText v <;> rfl

variable (c : Config) (services : Services ω) (r : Request) (scene : Scene (Status × ω))

lemma perform_act_of_mem (h : r.kind ∈ scene.world.1.running) :
    (r.act c services).perform scene = (.ok .null, writing [skipEntry r.kind] scene) := by
  cases r with
  | docs => exact perform_runExclusive_of_mem h _
  | traces lookback limit => exact perform_runExclusive_of_mem h _
  | tick =>
    have hskipped : (runTraces services c.lookback c.limit).perform scene =
        (.ok .null, writing [skipEntry .traces] scene) := perform_runExclusive_of_mem h _
    rw [Request.act, tick, Act.perform_bind, Act.perform_rescue, hskipped]
    rfl

/-- A request that is not skipped calls its ingestion once, between marking its kind and unmarking
it. -/
lemma perform_act_of_notMem (h : r.kind ∉ scene.world.1.running) :
    ∃ notes, (r.act c services).perform scene =
      let ended := (r.ingestion c services).perform
        (marking (r.kind :: scene.world.1.running) scene)
      (r.answer services.strictLog ended.1,
        writing notes (marking (unmark r.kind ended.2.world.1.running) ended.2)) := by
  have hcalled := perform_runExclusive_of_notMem h (r.ingestion c services)
  cases r with
  | docs => exact ⟨[], hcalled.trans (by simp [writing, Request.answer])⟩
  | traces lookback limit => exact ⟨[], hcalled.trans (by simp [writing, Request.answer])⟩
  | tick => exact perform_tick_of_ended hcalled

end Acts

/-- Counts can be written. -/
lemma exists_countText {v : Value} (h : isCount v = true) (hpresent : v.isPresent = true) :
    ∃ taken, countText v = .ok taken := by
  cases v with
  | null => cases hpresent
  | bool b => exact ⟨_, rfl⟩
  | int n => exact ⟨_, rfl⟩
  | _ => cases h

lemma not_isCatchable_of_answer {strict : Bool} {ended : Except Fault Value} {f : Fault}
    (hcount : strict = true → ∀ v, ended = .ok v → isCount v = true)
    (hanswer : Request.tick.answer strict ended = .error f) : f.isCatchable = false := by
  cases ended with
  | ok v =>
    rw [Request.answer] at hanswer
    split at hanswer
    · rename_i hwritten
      obtain ⟨hstrict, hpresent⟩ := Bool.and_eq_true_iff.1 hwritten
      obtain ⟨taken, htaken⟩ := exists_countText (hcount hstrict v rfl) hpresent
      rw [htaken] at hanswer
      cases hanswer
    · cases hanswer
  | error g =>
    rw [Request.answer] at hanswer
    split at hanswer
    · cases hanswer
    · rename_i hcatch
      cases hanswer
      simpa using hcatch

lemma not_isCatchable_of_tick {c : Config} {services : Services ω} {scene : Scene (Status × ω)}
    (hcount : services.strictLog = true → Kind.traces ∉ scene.world.1.running → ∀ v,
      ((services.traces c.lookback c.limit).perform
        (marking (.traces :: scene.world.1.running) scene)).1 = .ok v → isCount v = true)
    {f : Fault} (hf : ((tick c services).perform scene).1 = .error f) : f.isCatchable = false := by
  by_cases hrunning : Kind.traces ∈ scene.world.1.running
  · have hskipped : (tick c services).perform scene =
        (.ok .null, writing [skipEntry .traces] scene) :=
      perform_act_of_mem c services .tick scene hrunning
    rw [hskipped] at hf
    cases hf
  · obtain ⟨notes, hcalled⟩ := perform_act_of_notMem c services .tick scene hrunning
    rw [Request.act] at hcalled
    rw [hcalled] at hf
    exact not_isCatchable_of_answer (fun hstrict => hcount hstrict hrunning) hf

/-- What holds in a scene while some requests are in flight: they are of different kinds, and what a
further request does there depends only on whether one of its kind is among them. -/
structure SingleFlight (c : Config) (services : Services ω) (s : Flights)
    (scene : Scene (Status × ω)) : Prop where
  nodup : s.kinds.Nodup
  isRunning : ∀ kind, (isRunning kind).perform scene = (.ok (decide (kind ∈ s.kinds)), scene)
  /-- A request of a kind in flight answers null, calls nothing and changes nothing but the journal. -/
  skips : ∀ r : Request, r.kind ∈ s.kinds → s.start r = s ∧
    (r.act c services).perform scene = (.ok .null, writing [skipEntry r.kind] scene)
  /-- Any other request calls its ingestion once, in flight meanwhile, and whatever that does and
  however it ends, its kind and no other is unmarked then. -/
  calls : ∀ r : Request, r.kind ∉ s.kinds → (s.start r).inFlight = s.inFlight ++ [r] ∧
    ∃ notes, (r.act c services).perform scene =
      let ended := (r.ingestion c services).perform (marking (s.start r).running scene)
      (r.answer services.strictLog ended.1,
        writing notes (marking (unmark r.kind ended.2.world.1.running) ended.2))
  frees : ∀ (flight : Nat) (r : Request), s.inFlight[flight]? = some r →
    (s.finish flight).running = unmark r.kind s.running ∧
      ∀ kind, kind ∈ (s.finish flight).kinds ↔ kind ∈ s.kinds ∧ kind ≠ r.kind
  /-- No fault that can be met escapes from a tick, whatever its ingestion does. -/
  tick : services.strictLog = false →
    ∀ f, ((tick c services).perform scene).1 = .error f → f.isCatchable = false
  /-- With a strict log none does either, if the ingestion answers with counts. -/
  strictTick : (∀ v, ((services.traces c.lookback c.limit).perform
      (marking (s.start .tick).running scene)).1 = .ok v → isCount v = true) →
    ∀ f, ((Scheduler.tick c services).perform scene).1 = .error f → f.isCatchable = false

/-- Of each kind at most one ingestion is in flight, in whatever order requests have started and
ended before. -/
theorem single_flight (c : Config) (services : Services ω) (events : List Flights.Event)
    (scene : Scene (Status × ω)) :
    let s := Flights.run events
    SingleFlight c services s (marking s.running scene) := by
  intro s
  have hmarked : s.Marked := Flights.marked_run events
  refine ⟨hmarked.nodup, fun kind => ?_, fun r hr => ?_, fun r hr => ?_, fun flight r hr => ?_,
    fun hlax f hf => ?_, fun hcount f hf => ?_⟩
  · rw [perform_isRunning]
    simp only [marking, hmarked.mem_running]
  · have hrunning := (hmarked.mem_running r.kind).2 hr
    exact ⟨Flights.start_of_mem hmarked hr, perform_act_of_mem c services r _ hrunning⟩
  · have hrunning : r.kind ∉ s.running := fun h => hr ((hmarked.mem_running r.kind).1 h)
    rw [Flights.start_of_notMem hmarked hr]
    exact ⟨rfl, perform_act_of_notMem c services r _ hrunning⟩
  · refine ⟨?_, Flights.mem_kinds_finish hmarked hr⟩
    rw [Flights.finish, hr]
  · refine not_isCatchable_of_tick (fun hstrict => ?_) hf
    exact absurd (hlax.symm.trans hstrict) Bool.false_ne_true
  · refine not_isCatchable_of_tick (fun _ hrunning => ?_) hf
    have hr : Request.tick.kind ∉ s.kinds := fun h => hrunning ((hmarked.mem_running _).2 h)
    rw [Flights.start_of_notMem hmarked hr] at hcount
    exact hcount

/-- A tick starts while documentation is taken in, and answers as its ingestion does, though no log
can write that as a count. A tick that starts while traces are taken in as well is skipped. -/
theorem single_flight_of_ticks :
    let c : Config := {}
    let services : Services Unit :=
      { docs := return .int 0, traces := fun _ _ => return .text "many", pause := fun _ => return
        strictLog := false }
    let scene := fun kinds : List Kind => marking kinds (⟨[], ({}, ())⟩ : Scene (Status × Unit))
    (Flights.run [.start .docs]).running = [.docs] ∧
    (∃ notes, (tick c services).perform (scene [.docs]) =
      (.ok (.text "many"), writing notes (scene [.docs]))) ∧
    (∀ f, ((tick c services).perform (scene [.docs])).1 = .error f → f.isCatchable = false) ∧
    (Flights.run [.start .docs, .start .tick]).running = [.traces, .docs] ∧
    (tick c services).perform (scene [.traces, .docs]) =
      (.ok .null, writing [skipEntry .traces] (scene [.traces, .docs])) := by
  intro c services scene
  have hdocs := single_flight c services [.start .docs] ⟨[], ({}, ())⟩
  have hboth := single_flight c services [.start .docs, .start .tick] ⟨[], ({}, ())⟩
  exact ⟨rfl, (hdocs.calls .tick (by decide)).2, hdocs.tick rfl, rfl,
    (hboth.skips .tick (by decide)).2⟩

end IncidentTriage.Scheduler

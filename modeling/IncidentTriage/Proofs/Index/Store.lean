import IncidentTriage.Proofs.Act
import IncidentTriage.Proofs.Filter.Written
import IncidentTriage.Index.Basic

/-!
# An index that can refuse

A store is an index in memory that refuses batches, or removals, as long as it has a fault to answer
them with. What it refuses is not done at all. The removal of a trace takes away the chunks that
belong to it and nothing else, whatever the identifier looks like.
-/

namespace IncidentTriage

/-- The chunk is stored under the trace's identifier. -/
def Document.belongsTo (d : Document) (id : String) : Bool :=
  d.shown "traceId" == id

/-- A fault that its caller can meet. -/
structure Refusal where
  fault : Fault
  isCatchable : fault.isCatchable = true

namespace Index

/-- The chunks that are left once those of some traces are removed. -/
def Memory.without (m : Memory) (ids : List String) : Memory :=
  m.filter fun d => !ids.any d.belongsTo

namespace Memory

lemma without_nil (m : Memory) : m.without [] = m := by
  simp [without]

lemma without_without (m : Memory) (ids more : List String) :
    (m.without ids).without more = m.without (ids ++ more) := by
  simp [without, List.filter_filter, Bool.and_comm]

lemma belongsTo_unique {d : Document} {id other : String} (h : d.belongsTo id = true)
    (ho : d.belongsTo other = true) : id = other := by
  rw [Document.belongsTo, beq_iff_eq] at h ho
  exact h.symm.trans ho

lemma filter_without_of_mem (m : Memory) {ids : List String} {id : String} (h : id ∈ ids) :
    (m.without ids).filter (·.belongsTo id) = [] := by
  rw [List.filter_eq_nil_iff]
  intro d hd hid
  have hnone := (List.mem_filter.1 hd).2
  rw [Bool.not_eq_true', List.any_eq_false] at hnone
  exact hnone id h hid

/-- To remove some traces leaves every other trace as it is. -/
lemma filter_without_of_notMem (m : Memory) {ids : List String} {id : String} (h : id ∉ ids) :
    (m.without ids).filter (·.belongsTo id) = m.filter (·.belongsTo id) := by
  rw [without, List.filter_filter]
  apply List.filter_congr
  intro d _
  by_cases hid : d.belongsTo id = true
  · have hnone : ids.any d.belongsTo = false := by
      rw [List.any_eq_false]
      exact fun other hother ho => h (belongsTo_unique hid ho ▸ hother)
    rw [hid, hnone]
    rfl
  · rw [Bool.not_eq_true] at hid
    rw [hid, Bool.false_and]

end Memory

structure Store where
  chunks : Memory
  refusesAdd : Option Refusal := none
  refusesDelete : Option Refusal := none

namespace Store

/-- Nothing is done where there is a refusal. -/
def permit {ω : Type} : Option Refusal → Act ω Unit
  | some r => throw r.fault
  | none => return

def index : Index Store :=
  let kept := Index.inMemory (·.chunks) fun m s => { s with chunks := m }
  { add := fun docs => do
      permit (← Act.world).refusesAdd
      kept.add docs
    delete := fun filter => do
      permit (← Act.world).refusesDelete
      kept.delete filter }

/-- The index with removals that are refused one by one: those by the filters that have a refusal of
their own. -/
def refusing (refuses : String → Option Refusal) : Index Store :=
  { index with
    delete := fun filter => do
      permit (refuses filter)
      index.delete filter }

lemma refusing_none : refusing (fun _ => none) = index := rfl

/-- The store after the removal of a trace, which changes nothing when it is refused. -/
def clear (s : Store) (id : String) : Store :=
  if s.refusesDelete.isNone then { s with chunks := s.chunks.without [id] } else s

@[simp] lemma refusesAdd_clear (s : Store) (id : String) :
    (s.clear id).refusesAdd = s.refusesAdd := by
  unfold clear
  split <;> rfl

@[simp] lemma refusesDelete_clear (s : Store) (id : String) :
    (s.clear id).refusesDelete = s.refusesDelete := by
  unfold clear
  split <;> rfl

end Store

/-- A removal by the value of a piece of metadata takes away the chunks that show this value. -/
lemma delete_equals (m : Memory) {key : String} (hkey : Filter.isKey key.toList = true)
    (value : String) :
    m.delete (Filter.equals key (.text value)) = .ok (m.filter fun d => !(d.shown key == value)) := by
  rw [Memory.delete, Filter.equals, ValueOf.display, Filter.parse_render ⟨key, value⟩ hkey]
  simp [Except.map, Memory.matchesFilter, Filter.satisfied]

lemma delete_trace (m : Memory) (id : String) :
    m.delete (Filter.equals "traceId" (.text id)) = .ok (m.without [id]) := by
  rw [delete_equals m (by decide)]
  simp [Document.belongsTo, Memory.without]

namespace Store

lemma perform_add (docs : List Document) (scene : Scene Store) :
    (index.add docs).perform scene =
      match scene.world.refusesAdd with
      | some r => (.error r.fault, scene)
      | none => (.ok (), { scene with
          world := { scene.world with chunks := scene.world.chunks ++ docs } }) := by
  rcases scene with ⟨journal, chunks, _ | r, refusesDelete⟩ <;> rfl

/-- The end of a removal, and the store it leaves. -/
lemma perform_delete (id : String) (scene : Scene Store) :
    (index.delete (Filter.equals "traceId" (.text id))).perform scene =
      (match scene.world.refusesDelete with
        | some r => .error r.fault
        | none => .ok (), { scene with world := scene.world.clear id }) := by
  rcases scene with ⟨journal, chunks, refusesAdd, _ | r⟩
  · simp only [index, inMemory, permit, Act.perform_bind, Act.perform_pure, Act.perform_world,
      Act.continued_ok, delete_trace]
    rfl
  · rfl

/-- The removal of a trace is not refused. -/
def permits (refuses : String → Option Refusal) (id : String) : Bool :=
  (refuses (Filter.equals "traceId" (.text id))).isNone

lemma delete_refusing (refuses : String → Option Refusal) (filter : String) :
    (refusing refuses).delete filter = permit (refuses filter) >>= fun _ => index.delete filter :=
  rfl

lemma delete_of_permits {refuses : String → Option Refusal} {id : String}
    (h : permits refuses id = true) :
    (refusing refuses).delete (Filter.equals "traceId" (.text id)) =
      index.delete (Filter.equals "traceId" (.text id)) := by
  rw [permits, Option.isNone_iff_eq_none] at h
  rw [delete_refusing, h]
  rfl

lemma perform_delete_of_not_permits {refuses : String → Option Refusal} {id : String}
    (h : permits refuses id = false) (scene : Scene Store) :
    ∃ r : Refusal, ((refusing refuses).delete (Filter.equals "traceId" (.text id))).perform scene =
      (.error r.fault, scene) := by
  rw [permits, Option.isNone_eq_false_iff, Option.isSome_iff_exists] at h
  obtain ⟨r, hr⟩ := h
  rw [delete_refusing, hr]
  exact ⟨r, rfl⟩

end Store

end Index

end IncidentTriage

import IncidentTriage.Act
import IncidentTriage.Document
import IncidentTriage.Filter.Parser

/-!
# Indexes

An index takes in chunks and lets go of those that meet a filter. The one in memory keeps its chunks
in the order in which they came; metadata that a chunk does not have reads as null does.
-/

namespace IncidentTriage

/-- What the ingestion asks of an index. -/
structure Index (ω : Type) where
  add : List Document → Act ω Unit
  delete : String → Act ω Unit

namespace Index

abbrev Memory := List Document

namespace Memory

/-- The chunk meets the filter. -/
def matchesFilter (groups : List Filter.Group) (d : Document) : Bool :=
  Filter.satisfied d.shown groups

def add (m : Memory) (docs : List Document) : Memory :=
  m ++ docs

/-- The chunks that do not meet the filter. -/
def delete (m : Memory) (filter : String) : Except Filter.Error Memory :=
  (Filter.parse filter).map fun groups => m.filter fun d => !matchesFilter groups d

end Memory

/-- An index that is kept in a part of the world. It cannot fail to add, nor to delete by a filter
that can be read. -/
def inMemory {ω : Type} (kept : ω → Memory) (keep : Memory → ω → ω) : Index ω where
  add docs := Act.modifyWorld fun w => keep ((kept w).add docs) w
  delete filter := do
    match (kept (← Act.world)).delete filter with
    | .ok m => Act.modifyWorld (keep m)
    | .error e => throw e.toFault

end Index

end IncidentTriage

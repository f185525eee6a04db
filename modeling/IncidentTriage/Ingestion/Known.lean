import IncidentTriage.Index.Basic

/-!
# Traces that are known

A trace that has been taken in once is not taken in again while the process lives. A trace that is
new to the process may still be in the index from an earlier one, so its chunks are removed before
it is written.
-/

namespace IncidentTriage.Ingestion

/-- The identifiers of the traces that have been claimed, each once. -/
abbrev Known := List String

namespace Known

def mark (k : Known) (id : String) : Known :=
  if k.contains id then k else k ++ [id]

def release (k : Known) (id : String) : Known :=
  k.filter (· ≠ id)

variable {ω : Type}

/-- Takes the trace unless it has been taken. -/
def claim (id : String) : Act (Known × ω) Bool := do
  let known ← Act.own
  if known.contains id then return false
  Act.setOwn (known.mark id)
  return true

def releaseNow (id : String) : Act (Known × ω) Unit :=
  Act.modifyOwn fun known => release known id

/-- Removes what the index holds of the trace. That this fails does not matter. -/
def prepareReplacement (index : Index ω) (id : String) : Act (Known × ω) Unit :=
  (Act.outside (index.delete (Filter.equals "traceId" (.text id)))).rescue fun f =>
    Act.note .debug "dedup" s!"Dedup removal for trace {id} (may not exist yet): {f.text}"

end Known

end IncidentTriage.Ingestion

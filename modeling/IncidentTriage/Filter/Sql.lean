import IncidentTriage.Filter.Parser

/-!
# Filters in SQL

A filter becomes a condition of a query in which every key and every value is a bound parameter, so
that no text of the filter stands in the query itself. The parameters of the query are at hand while
the condition is written, and those of the filter are added to them one after the other.
-/

namespace IncidentTriage.Filter

abbrev Parameters := Fields

/-- Binds a text under a name that counts on from the parameters there are. -/
def bindText (stem text : String) : StateM Parameters String := do
  let name := stem ++ toString (← get).length
  modify fun params => Fields.set params name (.text text)
  return name

/-- The comparison for a term, its key and its value bound. -/
def Term.toSql (t : Term) : StateM Parameters String := do
  let key ← bindText "fk" t.key
  let value ← bindText "fv" t.value
  return "Metadata[\x7b" ++ key ++ ":String\x7d] = \x7b" ++ value ++ ":String\x7d"

def groupToSql (g : Group) : StateM Parameters String := do
  let comparisons ← g.mapM Term.toSql
  return "(" ++ " AND ".intercalate comparisons ++ ")"

def groupsToSql (groups : List Group) : StateM Parameters String := do
  let conjunctions ← groups.mapM groupToSql
  return "(" ++ " OR ".intercalate conjunctions ++ ")"

/-- The condition of a written filter. Without a filter the condition always holds. -/
def toSql : Option String → ExceptT Error (StateM Parameters) String
  | none => return "1"
  | some expression => do
    if expression.isEmpty then return "1"
    let groups ← parse expression
    groupsToSql groups

/-- The condition of a filter, or what keeps it from being read, and the parameters that it leaves
of those given. -/
def toSqlWith (params : Parameters) (expression : Option String) : Except Error String × Parameters :=
  (toSql expression).run.run params

end IncidentTriage.Filter

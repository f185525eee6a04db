import IncidentTriage.Value.Text

/-!
# Metadata filters

A filter is a disjunction of groups, a group a conjunction of terms, and a term asks that a piece of
metadata has a given text. In the written form a term is `key == 'value'`, with a backslash before
every quote and every backslash of the value; `&&` stands between the terms of a group and `||`
between groups.
-/

namespace IncidentTriage.Filter

structure Term where
  key : String
  value : String
  deriving DecidableEq, Repr

abbrev Group := List Term

/-- The value with a backslash before each quote and each backslash. -/
def escape (cs : List Char) : List Char :=
  cs.flatMap fun c => if c = '\'' ∨ c = '\\' then ['\\', c] else [c]

def Term.render (t : Term) : String :=
  t.key ++ " == '" ++ String.ofList (escape t.value.toList) ++ "'"

def renderGroup (g : Group) : String :=
  " && ".intercalate (g.map Term.render)

def render (groups : List Group) : String :=
  " || ".intercalate (groups.map renderGroup)

def equals (key : String) (value : Value) : String :=
  Term.render ⟨key, value.display⟩

/-- Some group has all its terms true of the metadata that `read` looks up. -/
def satisfied (read : String → String) (groups : List Group) : Bool :=
  groups.any fun g => g.all fun t => read t.key == t.value

end IncidentTriage.Filter

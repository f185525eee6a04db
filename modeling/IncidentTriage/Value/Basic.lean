import IncidentTriage.Text.Quoted

/-!
# Values

What a trace, a tag or a piece of metadata can hold. The fields of an object stand in the order in
which they were written, each name once. A value has texts of characters; a document, as it is read,
has wide texts instead.
-/

namespace IncidentTriage
open IncidentTriage.Text

/-- A value with texts of type `τ`. -/
inductive ValueOf (τ : Type)
  | null
  | bool (b : Bool)
  | int (n : Int)
  | float (x : Float)
  | text (s : τ)
  | list (items : List (ValueOf τ))
  | object (fields : List (τ × ValueOf τ))

abbrev Value := ValueOf String

abbrev FieldsOf (τ : Type) := List (τ × ValueOf τ)

abbrev Fields := FieldsOf String

namespace Fields

variable {τ : Type} [DecidableEq τ]

def get? (fields : FieldsOf τ) (name : τ) : Option (ValueOf τ) :=
  (fields.find? (·.1 = name)).map (·.2)

/-- The value of a field, null where there is none. -/
def get (fields : FieldsOf τ) (name : τ) : ValueOf τ :=
  (get? fields name).getD .null

/-- A field that is there keeps its place, and a new one goes to the end. -/
def set (fields : FieldsOf τ) (name : τ) (value : ValueOf τ) : FieldsOf τ :=
  if fields.any (·.1 = name) then
    fields.map fun f => if f.1 = name then (name, value) else f
  else fields ++ [(name, value)]

/-- Later values of a name replace earlier ones. -/
def ofPairs (pairs : List (τ × ValueOf τ)) : FieldsOf τ :=
  pairs.foldl (fun fields f => set fields f.1 f.2) []

end Fields

namespace ValueOf

variable {τ σ : Type}

mutual

/-- The value with every text of it, names included, replaced. -/
def mapText (f : τ → σ) : ValueOf τ → ValueOf σ
  | .null => .null
  | .bool b => .bool b
  | .int n => .int n
  | .float x => .float x
  | .text s => .text (f s)
  | .list items => .list (mapItems f items)
  | .object fields => .object (mapFields f fields)

def mapItems (f : τ → σ) : List (ValueOf τ) → List (ValueOf σ)
  | [] => []
  | v :: rest => mapText f v :: mapItems f rest

def mapFields (f : τ → σ) : List (τ × ValueOf τ) → List (σ × ValueOf σ)
  | [] => []
  | (name, v) :: rest => (f name, mapText f v) :: mapFields f rest

end

mutual

def isFinite : ValueOf τ → Bool
  | .float x => x.isFinite
  | .list items => areFinite items
  | .object fields => fieldsAreFinite fields
  | _ => true

def areFinite : List (ValueOf τ) → Bool
  | [] => true
  | v :: rest => isFinite v && areFinite rest

def fieldsAreFinite : List (τ × ValueOf τ) → Bool
  | [] => true
  | (_, v) :: rest => isFinite v && fieldsAreFinite rest

end

mutual

/-- The value without those fields, at any depth, whose names are picked out. -/
def without (isPicked : τ → Bool) : ValueOf τ → ValueOf τ
  | .list items => .list (itemsWithout isPicked items)
  | .object fields => .object (fieldsWithout isPicked fields)
  | v => v

def itemsWithout (isPicked : τ → Bool) : List (ValueOf τ) → List (ValueOf τ)
  | [] => []
  | v :: rest => without isPicked v :: itemsWithout isPicked rest

def fieldsWithout (isPicked : τ → Bool) : List (τ × ValueOf τ) → List (τ × ValueOf τ)
  | [] => []
  | (name, v) :: rest =>
    if isPicked name then fieldsWithout isPicked rest
    else (name, without isPicked v) :: fieldsWithout isPicked rest

end

def kindName : ValueOf τ → String
  | .null => "NoneType"
  | .bool _ => "bool"
  | .int _ => "int"
  | .float _ => "float"
  | .text _ => "str"
  | .list _ => "list"
  | .object _ => "dict"

/-- Null, false, zero and everything empty count as missing. -/
def isPresent [Spelled τ] : ValueOf τ → Bool
  | .null => false
  | .bool b => b
  | .int n => n != 0
  | .float x => x != 0.0
  | .text s => !Spelled.isEmpty s
  | .list items => !items.isEmpty
  | .object fields => !fields.isEmpty

end ValueOf

end IncidentTriage

import IncidentTriage.Http.Sending

/-!
# Problems of a body

A body that is refused is answered with a report of its problems: of each the kind, the place, a
sentence, and what was found there. The report is a document itself, and has to be one that can be
sent.
-/

namespace IncidentTriage.Http
open IncidentTriage.Text

namespace Problem

inductive Kind
  | jsonInvalid
  | missing
  | noObject
  | noText
  | brokenText
  | emptyText
  | wrongPattern (pattern : String)
  | noWhole
  | noWholeText
  | longWholeText
  | fraction
  | notFinite
  | notPositive
  deriving DecidableEq, Repr

namespace Kind

def name : Kind → String
  | .jsonInvalid => "json_invalid"
  | .missing => "missing"
  | .noObject => "model_attributes_type"
  | .noText => "string_type"
  | .brokenText => "string_unicode"
  | .emptyText => "string_too_short"
  | .wrongPattern _ => "string_pattern_mismatch"
  | .noWhole => "int_type"
  | .noWholeText => "int_parsing"
  | .longWholeText => "int_parsing_size"
  | .fraction => "int_from_float"
  | .notFinite => "finite_number"
  | .notPositive => "greater_than"

def message : Kind → String
  | .jsonInvalid => "JSON decode error"
  | .missing => "Field required"
  | .noObject => "Input should be a valid dictionary or object to extract fields from"
  | .noText => "Input should be a valid string"
  | .brokenText =>
    "Input should be a valid string, unable to parse raw data as a unicode string"
  | .emptyText => "String should have at least 1 character"
  | .wrongPattern pattern => s!"String should match pattern '{pattern}'"
  | .noWhole => "Input should be a valid integer"
  | .noWholeText => "Input should be a valid integer, unable to parse string as an integer"
  | .longWholeText => "Unable to parse input string as an integer, exceeded maximum size"
  | .fraction => "Input should be a valid integer, got a number with a fractional part"
  | .notFinite => "Input should be a finite number"
  | .notPositive => "Input should be greater than 0"

def bound : Kind → FieldsOf Wide
  | .emptyText => [("ctx", .object [("min_length", .int 1)])]
  | .wrongPattern pattern => [("ctx", .object [("pattern", .text pattern)])]
  | .notPositive => [("ctx", .object [("gt", .int 0)])]
  | _ => []

end Kind

end Problem

structure Problem where
  kind : Problem.Kind
  place : List String
  found : Json.Content

namespace Problem

def report (p : Problem) : Json.Content :=
  let place := p.place.map fun s => ValueOf.text (Wide.ofString s)
  let found : FieldsOf Wide :=
    [("type", .text p.kind.name), ("loc", .list place), ("msg", .text p.kind.message),
      ("input", p.found)]
  .object (found ++ p.kind.bound)

def reports (problems : List Problem) : Json.Content :=
  .object [("detail", .list (problems.map report))]

end Problem

def Problem.reportable (problems : List Problem) : Except Fault Unit := do
  let document := sharedWide (Problem.reports problems)
  finite document
  sendable (Json.write document)

end IncidentTriage.Http

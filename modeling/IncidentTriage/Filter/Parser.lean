import IncidentTriage.Filter.Basic
import IncidentTriage.Text.Blank
import IncidentTriage.Fault

/-!
# Reading filters

A filter is read token by token: a term, `&&` or `||`, with blanks around each. Terms and operators
take turns, beginning and ending with a term.
-/

namespace IncidentTriage.Filter
open IncidentTriage.Text

inductive Error
  | invalid (position : Nat) (rest : String)
  | incomplete (expression : String)
  | missing
  deriving DecidableEq, Repr

def Error.message : Error → String
  | .invalid position rest =>
    s!"Invalid filter expression at {position}: {quoted (trimmed rest)}"
  | .incomplete expression => s!"Incomplete filter expression: {quoted (trimmed expression)}"
  | .missing => "delete requires a filter expression"

def Error.toFault (e : Error) : Fault :=
  ⟨.filterExpression, e.message⟩

inductive Token
  | term (t : Term)
  | both
  | either

def isKeyStart (c : Char) : Bool :=
  decide ('A' ≤ c) && decide (c ≤ 'Z') || decide ('a' ≤ c) && decide (c ≤ 'z') || c == '_'

def isKeyPart (c : Char) : Bool :=
  isKeyStart c || decide ('0' ≤ c) && decide (c ≤ '9') || c == '.'

/-- The characters of a quoted value up to its closing quote, and what follows the quote. A
backslash stands before the character that is meant; it cannot stand before a line feed. -/
def scanBody : List Char → Option (List Char × List Char)
  | [] => none
  | '\'' :: rest => some ([], rest)
  | '\\' :: c :: rest =>
    if c = '\n' then none else (scanBody rest).map fun (body, rest) => (c :: body, rest)
  | ['\\'] => none
  | c :: rest => (scanBody rest).map fun (body, rest) => (c :: body, rest)

/-- What follows `==` and the blanks on both sides of it. -/
def afterEquals? (cs : List Char) : Option (List Char) :=
  match cs.dropWhile isBlank with
  | '=' :: '=' :: rest => some (rest.dropWhile isBlank)
  | _ => none

def scanTerm : List Char → Option (Term × List Char)
  | [] => none
  | c :: rest =>
    if isKeyStart c then
      match afterEquals? (rest.dropWhile isKeyPart) with
      | some ('\'' :: body) =>
        (scanBody body).map fun (value, rest') =>
          (⟨String.ofList (c :: rest.takeWhile isKeyPart), String.ofList value⟩, rest')
      | _ => none
    else none

/-- The token at the head of a text that does not begin with a blank. -/
def scanBare (cs : List Char) : Option (Token × List Char) :=
  match cs with
  | '&' :: '&' :: rest => some (.both, rest)
  | '|' :: '|' :: rest => some (.either, rest)
  | _ => (scanTerm cs).map fun (t, rest) => (.term t, rest)

/-- The token at the head of a text and what follows it, the blanks around it skipped. -/
def scan (cs : List Char) : Option (Token × List Char) :=
  (scanBare (cs.dropWhile isBlank)).map fun (t, rest) => (t, rest.dropWhile isBlank)

theorem length_of_scanBody {cs body rest : List Char} (h : scanBody cs = some (body, rest)) :
    rest.length < cs.length := by
  fun_induction scanBody cs generalizing body with
  | case1 => simp at h
  | case2 rest' => simp at h; simp [h.2]
  | case3 => simp at h
  | case4 c rest' hc ih =>
    simp only [Option.map_eq_some_iff, Prod.mk.injEq, Prod.exists] at h
    obtain ⟨_, _, h, _, rfl⟩ := h
    have := ih h
    simp only [List.length_cons]
    omega
  | case5 => simp at h
  | case6 c rest' _ _ _ ih =>
    simp only [Option.map_eq_some_iff, Prod.mk.injEq, Prod.exists] at h
    obtain ⟨_, _, h, _, rfl⟩ := h
    have := ih h
    simp only [List.length_cons]
    omega

theorem length_of_afterEquals {cs rest : List Char} (h : afterEquals? cs = some rest) :
    rest.length < cs.length := by
  unfold afterEquals? at h
  split at h
  · rename_i after heq
    cases h
    have h1 := (List.dropWhile_sublist (l := cs) isBlank).length_le
    have h2 := (List.dropWhile_sublist (l := after) isBlank).length_le
    rw [heq] at h1
    simp only [List.length_cons] at h1
    omega
  · simp at h

theorem length_of_scanTerm {cs rest : List Char} {t : Term} (h : scanTerm cs = some (t, rest)) :
    rest.length < cs.length := by
  unfold scanTerm at h
  split at h
  · simp at h
  · rename_i c tail
    split at h
    · split at h
      · rename_i body heq
        simp only [Option.map_eq_some_iff, Prod.mk.injEq, Prod.exists] at h
        obtain ⟨_, _, h, _, rfl⟩ := h
        have h1 := length_of_scanBody h
        have h2 := length_of_afterEquals heq
        have h3 := (List.dropWhile_sublist (l := tail) isKeyPart).length_le
        simp only [List.length_cons] at h2 ⊢
        omega
      · simp at h
    · simp at h

theorem length_of_scan {cs rest : List Char} {t : Token} (h : scan cs = some (t, rest)) :
    rest.length < cs.length := by
  unfold scan at h
  simp only [Option.map_eq_some_iff, Prod.mk.injEq, Prod.exists] at h
  obtain ⟨_, rest', h, _, rfl⟩ := h
  have h1 := (List.dropWhile_sublist (l := cs) isBlank).length_le
  have h2 := (List.dropWhile_sublist (l := rest') isBlank).length_le
  unfold scanBare at h
  split at h
  · rename_i heq
    simp only [Option.some.injEq, Prod.mk.injEq] at h
    rw [heq] at h1
    simp only [List.length_cons, h.2] at h1
    omega
  · rename_i heq
    simp only [Option.some.injEq, Prod.mk.injEq] at h
    rw [heq] at h1
    simp only [List.length_cons, h.2] at h1
    omega
  · simp only [Option.map_eq_some_iff, Prod.mk.injEq, Prod.exists] at h
    obtain ⟨_, _, h, _, rfl⟩ := h
    have := length_of_scanTerm h
    omega

/-- The groups spelled by the tokens of a text, or the part of the text where reading stops: none of
it when a term is still missing at the end. `terms` holds the group that is being read. -/
def groupsFrom (wantsTerm : Bool) (terms : Group) (cs : List Char) :
    Except (List Char) (List Group) :=
  if cs.isEmpty then
    if wantsTerm then .error [] else .ok [terms]
  else
    match _h : scan cs, wantsTerm with
    | some (.term t, rest), true => groupsFrom false (terms ++ [t]) rest
    | some (.both, rest), false => groupsFrom true terms rest
    | some (.either, rest), false => (groupsFrom true [] rest).map (terms :: ·)
    | _, _ => .error cs
termination_by cs.length
decreasing_by all_goals exact length_of_scan (by assumption)

def parse (expression : String) : Except Error (List Group) :=
  match groupsFrom true [] expression.toList with
  | .ok groups => .ok groups
  | .error [] => .error (.incomplete expression)
  | .error rest =>
    .error (.invalid (expression.length - rest.length) (String.ofList rest))

end IncidentTriage.Filter

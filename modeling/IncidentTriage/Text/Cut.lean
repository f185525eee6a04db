/-!
# Cutting a text

A text is cut at marks: the pieces stand before, between and after the marks, and any of them may be
empty.
-/

namespace IncidentTriage.Text

def cutWhere (isMark : Char → Bool) : List Char → List (List Char)
  | [] => [[]]
  | c :: rest =>
    if isMark c then [] :: cutWhere isMark rest
    else
      match cutWhere isMark rest with
      | [] => [[c]]
      | piece :: pieces => (c :: piece) :: pieces

def cutAt (mark : Char) (cs : List Char) : List (List Char) :=
  cutWhere (· == mark) cs

end IncidentTriage.Text

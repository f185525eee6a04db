import IncidentTriage.Chunk.Encoding

/-!
# Splitting a text into chunks

A text is cut into windows of at most `size` tokens, each of which begins `overlap` tokens before
the end of the one before it. The last window is the first that reaches the end of the text. The
chunks are the texts of the windows without blanks at their ends, empty ones left out.
-/

namespace IncidentTriage.Chunk
open IncidentTriage.Text

structure Window where
  size : Nat
  overlap : Nat
  overlap_lt_size : overlap < size

inductive WindowError
  | sizeNotPositive
  | overlapOutside
  deriving DecidableEq, Repr

def WindowError.message : WindowError → String
  | .sizeNotPositive => "chunk_size must be positive"
  | .overlapOutside => "overlap must be in [0, chunk_size)"

namespace Window

def make (size overlap : Int) : Except WindowError Window :=
  if size ≤ 0 then .error .sizeNotPositive
  else if h : 0 ≤ overlap ∧ overlap < size then
    .ok ⟨size.toNat, overlap.toNat, by omega⟩
  else .error .overlapOutside

/-- How far a window lies behind the one before it. -/
def step (w : Window) : Nat :=
  w.size - w.overlap

theorem step_pos (w : Window) : 0 < w.step :=
  Nat.sub_pos_of_lt w.overlap_lt_size

/-- The windows over a list of tokens, none over an empty one. -/
def windows {τ : Type} (w : Window) (tokens : List τ) : List (List τ) :=
  if tokens.isEmpty then []
  else if (tokens.drop w.size).isEmpty then [tokens]
  else tokens.take w.size :: w.windows (tokens.drop w.step)
termination_by tokens.length
decreasing_by
  have := w.step_pos
  simp_all only [List.isEmpty_iff, List.drop_eq_nil_iff, List.length_drop]
  omega

def chunks {τ : Type} (w : Window) (e : Encoding τ) (cs : List Char) : List (List Char) :=
  ((w.windows (e.encode (trim cs))).map fun tokens => trim (e.decode tokens)).filter (!·.isEmpty)

end Window

/-- The encodings by name. -/
inductive Scheme
  | word
  | char
  | byte
  deriving DecidableEq, Repr

/-- A window together with the scheme that its tokens follow. -/
structure Splitter where
  window : Window
  scheme : Scheme

def Splitter.split (s : Splitter) (text : String) : List String :=
  let chunks := match s.scheme with
    | .word => s.window.chunks wordEncoding text.toList
    | .char => s.window.chunks charEncoding text.toList
    | .byte => s.window.chunks byteEncoding text.toList
  chunks.map String.ofList

/-- The names of the tokenizers that have been loaded. The standard one is loaded when a text that
is not blank is first split. -/
abbrev Loaded := List String

def standardTokenizer : String := "cl100k_base"

def Loaded.after (loaded : Loaded) (text : String) : Loaded :=
  if (trim text.toList).isEmpty || loaded.contains standardTokenizer then loaded
  else loaded ++ [standardTokenizer]

end IncidentTriage.Chunk

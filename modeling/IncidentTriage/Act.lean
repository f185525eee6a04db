import IncidentTriage.Fault
import IncidentTriage.Text.Wide

/-!
# Acts

An act works on a world, writes to a journal and ends with a value or with a fault. What it did to
the world and to the journal before a fault stays done.
-/

namespace IncidentTriage

inductive Level
  | debug
  | info
  | warning
  | error
  deriving DecidableEq, Repr

def Level.name : Level → String
  | .debug => "DEBUG"
  | .info => "INFO"
  | .warning => "WARNING"
  | .error => "ERROR"

/-- A line of the journal: who wrote it, what, and whether the details of a fault go with it. -/
structure Entry where
  level : Level
  author : String
  text : Text.Wide
  withDetails : Bool := false
  deriving DecidableEq, Repr

def Entry.line (e : Entry) : Text.Wide :=
  s!"{e.level.name} {e.author}: " ++ e.text ++ (if e.withDetails then " (exc)" else "")

/-- A world together with the journal, the oldest entry first. -/
structure Scene (ω : Type) where
  journal : List Entry
  world : ω

abbrev Act (ω : Type) := ExceptT Fault (StateM (Scene ω))

namespace Act

variable {ω ς α : Type}

/-- The act's end and the scene it leaves. -/
def perform (act : Act ω α) (scene : Scene ω) : Except Fault α × Scene ω :=
  (ExceptT.run act).run scene

def world : Act ω ω := do
  return (← get).world

def setWorld (w : ω) : Act ω Unit :=
  modify fun scene => { scene with world := w }

def modifyWorld (f : ω → ω) : Act ω Unit :=
  modify fun scene => { scene with world := f scene.world }

def record (entries : List Entry) : Act ω Unit :=
  modify fun scene => { scene with journal := scene.journal ++ entries }

def note (level : Level) (author : String) (text : Text.Wide) : Act ω Unit :=
  record [{ level, author, text }]

def fail (kind : Fault.Kind) (text : String) : Act ω α :=
  throw ⟨kind, text⟩

/-- The end of an act as a value. -/
def outcome (act : Act ω α) : Act ω (Except Fault α) :=
  ExceptT.mk (Except.ok <$> ExceptT.run act)

/-- An end as an act. -/
def ofOutcome : Except Fault α → Act ω α
  | .ok a => pure a
  | .error f => throw f

/-- The act, with `handle` for a fault that can be met. -/
def rescue (act : Act ω α) (handle : Fault → Act ω α) : Act ω α :=
  tryCatch act fun f => if f.isCatchable then handle f else throw f

/-- An act on the surroundings of something that keeps a state of its own. -/
def outside (act : Act ω α) : Act (ς × ω) α :=
  ExceptT.mk fun scene =>
    let (own, world) := scene.world
    let (result, after) := act.perform { scene with world }
    (result, { after with world := (own, after.world) })

/-- The state of something that keeps one of its own. -/
def own : Act (ς × ω) ς := do
  return (← world).1

def setOwn (s : ς) : Act (ς × ω) Unit :=
  modifyWorld fun w => (s, w.2)

def modifyOwn (f : ς → ς) : Act (ς × ω) Unit :=
  modifyWorld fun w => (f w.1, w.2)

end Act

end IncidentTriage

import Mathlib.Data.List.Chain
import Mathlib.Algebra.Order.Ring.Nat
import Mathlib.Algebra.Ring.Int.Defs
set_option autoImplicit false

namespace TaskQueue

/-- The errors of the Go code, by their text; `none` stands for a nil `error`. -/
abbrev Error := String

inductive State
  | pending | scheduled | running | completed | failed | retrying | cancelled | deadLetter
  deriving DecidableEq, Repr

namespace State

def isFinal (s : State) : Bool :=
  s == completed || s == failed || s == cancelled || s == deadLetter

def isActive (s : State) : Bool := s == running || s == retrying

def validTransitions : State → List State
  | pending => [scheduled, running, cancelled]
  | scheduled => [pending, running, cancelled]
  | running => [completed, failed, retrying, cancelled]
  | retrying => [running, failed, deadLetter, cancelled]
  | failed => [retrying, deadLetter, pending]
  | completed => []
  | cancelled => []
  | deadLetter => [pending]

def canTransitionTo (s target : State) : Bool := (validTransitions s).contains target

theorem canTransitionTo_of_terminal {s : State} (h : s = completed ∨ s = cancelled)
    (target : State) : s.canTransitionTo target = false := by
  rcases h with rfl | rfl <;> cases target <;> rfl

end State

inductive Priority
  | low | normal | high | critical
  deriving DecidableEq, Repr

namespace Priority

def toString : Priority → String
  | low => "low"
  | normal => "normal"
  | high => "high"
  | critical => "critical"

def streamName (p : Priority) (streamPrefix : String) : String :=
  streamPrefix ++ ":" ++ p.toString

theorem streamName_injective (streamPrefix : String) :
    Function.Injective (streamName · streamPrefix) := by
  intro p p' h
  have hl : p.toString.length = p'.toString.length := by
    have := congrArg String.length h
    simp only [streamName, String.length_append] at this
    omega
  cases p <;> cases p' <;> first | rfl | exact absurd hl (by decide)

end Priority

def parsePriority : String → Priority
  | "low" => .low
  | "normal" => .normal
  | "high" => .high
  | "critical" => .critical
  | _ => .normal

def priorityFromInt (i : Int) : Priority :=
  if i < 0 ∨ i > 3 then .normal
  else if i = 0 then .low else if i = 1 then .normal else if i = 2 then .high else .critical

/-- The fields of `task.Task` that the modelled code reads or writes. Instants of
`time.Time` are nanoseconds since the epoch; the result map is kept as its JSON text,
`none` being the nil map. -/
structure Task where
  id : String
  type : String
  priority : Priority
  state : State
  attempts : Int
  maxRetries : Int
  error : String
  result : Option String
  workerID : String
  createdAt : Nat
  updatedAt : Nat
  startedAt : Option Nat
  completedAt : Option Nat
  scheduledAt : Option Nat
  deriving DecidableEq, Repr

/-- `task.New`, with the generated uuid and the clock reading as arguments. -/
def new (id taskType : String) (priority : Priority) (now : Nat) : Task where
  id := id
  type := taskType
  priority := priority
  state := .pending
  attempts := 0
  maxRetries := 3
  error := ""
  result := none
  workerID := ""
  createdAt := now
  updatedAt := now
  startedAt := none
  completedAt := none
  scheduledAt := none

structure CreateTaskRequest where
  type : String
  priority : Int
  maxRetries : Int
  scheduledAt : Option Nat
  deriving DecidableEq, Repr

def fromRequest (id : String) (now : Nat) (req : CreateTaskRequest) : Task :=
  let t := new id req.type (priorityFromInt req.priority) now
  let t := if req.maxRetries > 0 then { t with maxRetries := req.maxRetries } else t
  match req.scheduledAt with
  | some when => { t with scheduledAt := some when }
  | none => t

namespace Task

def canRetry (t : Task) : Bool := decide (t.attempts < t.maxRetries)

def incrementAttempts (now : Nat) (t : Task) : Task :=
  { t with attempts := t.attempts + 1, updatedAt := now }

end Task

end TaskQueue

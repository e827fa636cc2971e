import FormCheck.Text.Quoted

/-!
# Events

A validation reports each step that it takes as an event. An event has a level, which tells how
much it matters, and named attributes. Read in order, the events tell how the outcome came about.

## Main definitions

* `Event` : a step of a validation.
* `Event.level`, `Event.attributes` : what a log shows of an event.
* `Logged` : a result with the events that led to it.
-/

namespace FormCheck

/-- How much an event matters. -/
inductive Level where
  /-- It is of interest when every step matters. -/
  | trace
  /-- It is of interest when an outcome surprises. -/
  | debug
  /-- Something may be wrong. -/
  | warn
  deriving DecidableEq, Repr

/-- The name of a level. -/
def Level.name : Level → String
  | .trace => "TRACE"
  | .debug => "DEBUG"
  | .warn => "WARN"

/-- A step of a validation. -/
inductive Event where
  /-- The value of a field is empty and may be so. -/
  | permitted (field : String)
  /-- The value of a field is empty and not required. -/
  | skipped (field : String)
  /-- No provider knows a rule, which therefore passes. -/
  | unknown (field rule : String)
  /-- A rule was evaluated. -/
  | evaluated (field rule : String) (param : Option String) (passed : Bool)
  /-- A rule failed with a message. -/
  | failed (field rule message : String)
  deriving DecidableEq, Repr

namespace Event

/-- The level of an event. -/
def level : Event → Level
  | .permitted _ => .debug
  | .skipped _ => .debug
  | .unknown _ _ => .warn
  | .evaluated _ _ _ _ => .trace
  | .failed _ _ _ => .debug

/-- What happened, in words. -/
def summary : Event → String
  | .permitted _ => "Empty value permitted"
  | .skipped _ => "Empty value not required, skipping rules"
  | .unknown _ _ => "No rule provider implements rule, treating as passed"
  | .evaluated _ _ _ _ => "Rule evaluated"
  | .failed _ _ _ => "Rule failed"

/-- What an event is about. -/
def details : Event → List (String × String)
  | .permitted field => [("field", field)]
  | .skipped field => [("field", field)]
  | .unknown field rule => [("field", field), ("rule", rule)]
  | .evaluated field rule param passed =>
    [("field", field), ("rule", rule), ("param", Text.quotedOption param),
      ("passed", if passed then "true" else "false")]
  | .failed field rule message => [("field", field), ("rule", rule), ("message", message)]

/-- The attributes of an event in a log: what happened, and then what it is about. -/
def attributes (e : Event) : List (String × String) := ("message", e.summary) :: e.details

end Event

/-- A result with the events that led to it. -/
structure Logged (α : Type) where
  /-- The result. -/
  result : α
  /-- The events, in order. -/
  events : List Event
  deriving DecidableEq

namespace Logged

variable {α β : Type}

/-- A result with earlier events in front. -/
def after (earlier : List Event) (x : Logged α) : Logged α := ⟨x.result, earlier ++ x.events⟩

/-- A result changed by a function. -/
def map (f : α → β) (x : Logged α) : Logged β := ⟨f x.result, x.events⟩

end Logged

end FormCheck

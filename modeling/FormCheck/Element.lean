import FormCheck.Form

/-!
# Live elements

A form on a screen is a list of elements. An element may have a name and a spec, and it has a value
as typed. A checkbox submits its value only while it is checked; otherwise it counts as empty.

Several elements may share a name, as the checkboxes of a group do. Such a group reads as the value
of its first element that submits one.

## Main definitions

* `Element` : an element of a form.
* `Element.effectiveValue` : the value that rules look at.
* `Source.ofElements` : the current values of a form as a value source.
-/

namespace FormCheck

/-- The kinds of elements. -/
inductive Control where
  /-- An element that always submits its value. -/
  | field
  /-- An element that submits its value only while it is checked. -/
  | checkbox (checked : Bool)
  deriving DecidableEq, Repr

/-- An element of a form. -/
structure Element where
  /-- The name of its field. An element without one is not validated. -/
  name : Option String
  /-- The value as typed. -/
  value : String
  /-- The spec of its rules. An element without one is not validated. -/
  spec : Option String
  /-- What kind of element it is. -/
  control : Control
  deriving DecidableEq, Repr

namespace Element

/-- Whether an element submits its value. -/
def submits (e : Element) : Bool := e.control != .checkbox false

/-- The value that rules look at: that of an unchecked checkbox is empty. -/
def effectiveValue (e : Element) : String := if e.submits then e.value else ""

/-- Whether an element has the given name. -/
def isNamed (name : String) (e : Element) : Bool := e.name == some name

end Element

/-- The value of a field of a form: that of the first element that submits one, or nothing but the
empty text if there are only others. -/
def Element.valueIn (elements : List Element) (name : String) : Option String :=
  match elements.filter (Element.isNamed name) with
  | [] => none
  | group =>
    match group.find? Element.submits with
    | none => some ""
    | some e => some e.value

/-- The current values of a form as a value source. -/
def Source.ofElements (elements : List Element) : Source := ⟨Element.valueIn elements⟩

end FormCheck

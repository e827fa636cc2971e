import FormCheck.Spec.Basic
import FormCheck.Form

/-!
# Conditional requirements

Three rules say when an empty value is not looked at any further. They are markers: they are
consulted before all other rules and never looked up among them.

* `permit_empty` : an empty value passes.
* `required_with[a,b]` : an empty value is required only if all listed fields are filled.
* `required_without[a,b]` : an empty value is required only if none of the listed fields is filled.

The markers of the third kind are consulted only when there are none of the second kind. If all
that are consulted find that the value is not required, the rules are skipped.

## Main definitions

* `Marker` : the three markers.
* `permitsEmpty`, `gate` : what the markers of a list of rules decide.
-/

namespace FormCheck

/-- The rules that say when an empty value is not looked at. -/
inductive Marker where
  /-- An empty value passes. -/
  | permitEmpty
  /-- An empty value is required only if all listed fields are filled. -/
  | requiredWith
  /-- An empty value is required only if none of the listed fields is filled. -/
  | requiredWithout
  deriving DecidableEq, Repr

namespace Marker

/-- The name of a marker. -/
def name : Marker → String
  | .permitEmpty => "permit_empty"
  | .requiredWith => "required_with"
  | .requiredWithout => "required_without"

/-- All markers. -/
def all : List Marker := [.permitEmpty, .requiredWith, .requiredWithout]

end Marker

/-- Whether a name is that of a marker. -/
def isMarker (name : String) : Bool := Marker.all.any fun marker => marker.name == name

namespace Rule

/-- Whether a rule is a certain marker. -/
def isMarkedBy (r : Rule) (marker : Marker) : Bool := r.name == marker.name

end Rule

/-- The names in a list of fields, without the blanks around them. -/
def fieldNames (list : String) : List String :=
  (list.toList.splitOn ',').map fun name => String.ofList (Text.trim name)

namespace Source

/-- Whether a field has a value that is not empty. A field that is absent has none. -/
def isFilled (source : Source) (field : String) : Bool :=
  match source.valueOf field with
  | .none => false
  | some value => value != ""

/-- Whether all fields of a list are filled. -/
def allFilled (source : Source) (list : String) : Bool :=
  (fieldNames list).all source.isFilled

/-- Whether no field of a list is filled. -/
def noneFilled (source : Source) (list : String) : Bool :=
  (fieldNames list).all fun field => !source.isFilled field

end Source

/-- What the markers of a list of rules decide. -/
inductive Gate where
  /-- The rules are evaluated. -/
  | evaluate
  /-- The value is empty and not required, and the rules are skipped. -/
  | skip
  deriving DecidableEq, Repr

/-- The lists of fields of a marker, one for each time that it has a parameter. -/
def markerLists (rules : List Rule) (marker : Marker) : List String :=
  (rules.filter (·.isMarkedBy marker)).filterMap Rule.param

/-- What each of the markers that are consulted says about the need for a value. -/
def requirements (rules : List Rule) (source : Source) : List Bool :=
  match markerLists rules .requiredWith with
  | [] => (markerLists rules .requiredWithout).map source.noneFilled
  | lists => lists.map source.allFilled

/-- Whether rules are evaluated. They are skipped if the value is empty, some marker is consulted,
and none that is consulted requires a value. -/
def gate (rules : List Rule) (value : String) (source : Source) : Gate :=
  let required := requirements rules source
  if required.isEmpty || value != "" || required.any id then .evaluate else .skip

/-- Whether a value is empty and may be so. -/
def permitsEmpty (rules : List Rule) (value : String) : Bool :=
  value == "" && rules.any (·.isMarkedBy .permitEmpty)

end FormCheck

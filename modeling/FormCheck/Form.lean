import FormCheck.Value

/-!
# Form data and value sources

A rule may look at the values of other fields. All it learns of them is the text of the value
under a name, or that there is none. Such a source of values is, above all, form data: the values of
a form by the names of their fields, in the order of submission. Values are kept as they are
submitted, blanks included.

JSON is read as form data in two ways. `Form.ofData` takes the meaning of any document: what is not
an object yields no fields, the fields come in the order of their names, and an array or an object
in a field becomes a text. `Form.ofJson?` takes the document as it is written: it has to be an
object without arrays and objects in it, and keeps the order of its members.

## Main definitions

* `Source` : the texts of fields by their names.
* `Source.none`, `Source.ofTable` : the source without fields, and that of a table of texts.
* `Form` : form data.
* `Form.source` : form data as a value source.
* `Form.ofData`, `Form.ofJson?` : the two ways to read JSON.
-/

namespace FormCheck

/-! ### Value sources -/

/-- The texts of fields by their names. -/
@[ext] structure Source where
  /-- The text of the value of a field, if there is such a field. -/
  valueOf : String → Option String

namespace Source

/-- The source without fields. -/
def none : Source := ⟨fun _ => .none⟩

/-- The source of a table of texts. -/
def ofTable (t : Table String) : Source := ⟨t.get?⟩

/-- The text of a field, where a field that is absent counts as empty. -/
def textOf (source : Source) (field : String) : String := (source.valueOf field).getD ""

end Source

/-! ### Form data -/

/-- The values of a form by the names of their fields, in the order of submission. -/
abbrev Form := Table Value

namespace Form

/-- Form data as a value source: the texts of its values. -/
def source (form : Form) : Source := ⟨fun field => (form.get? field).map Value.toText⟩

/-- The form data in the meaning of a JSON document. -/
def ofData : Json.Data → Form
  | .object members => Table.ofList (members.map fun member => (member.1, Value.ofData member.2))
  | _ => .empty

/-- The form data that a JSON document writes. -/
def ofJson? (j : Json) : Option Form := Json.tableOf? Value.ofJson? j

/-- The JSON text of form data. -/
def json (form : Form) : List Char := Json.writeTable Value.json form

/-- Whether two forms have the same fields with the same values, in whatever order. -/
def same (form other : Form) : Bool :=
  form.size == other.size && form.entries.all fun entry =>
    match other.get? entry.1 with
    | some value => entry.2.same value
    | none => false

end Form

end FormCheck

import FormCheck.Table
import FormCheck.Text.Basic

/-!
# Message templates and catalogs

The message for a failed rule is written after a template with placeholders for the name of the
field, its value and the parameter of the rule. They are replaced one kind after another, in this
order, either at the first occurrence only or at every one. A rule without a parameter leaves the
placeholder for it as it is.

A catalog knows the message for a rule that failed on a field. A template given for this field and
rule comes first, then the built-in template of the rule, and last the one for all rules.

## Main definitions

* `Placeholder`, `Segment` : what templates consist of.
* `Substitution` : which occurrences of a placeholder are replaced.
* `substitute` : the message after a template.
* `builtInTemplate?` : the template of a rule that is known by name.
* `Overrides` : templates given for single fields and rules.
* `Catalog.templateFor`, `Catalog.message` : the template and the message for a failed rule.
-/

namespace FormCheck

/-! ### Templates -/

/-- What a template leaves open. -/
inductive Placeholder where
  /-- The name of the field. -/
  | field
  /-- The value of the field. -/
  | value
  /-- The parameter of the rule. -/
  | param
  deriving DecidableEq, Repr

namespace Placeholder

/-- The word between the braces of a placeholder. -/
def name : Placeholder → List Char
  | .field => ['f', 'i', 'e', 'l', 'd']
  | .value => ['v', 'a', 'l', 'u', 'e']
  | .param => ['p', 'a', 'r', 'a', 'm']

/-- A placeholder as it stands in a template. -/
def mark (p : Placeholder) : List Char := '\x7b' :: p.name ++ ['\x7d']

end Placeholder

/-- A part of a template. -/
inductive Segment where
  /-- A text that is kept. -/
  | text (s : String)
  /-- A placeholder. -/
  | hole (p : Placeholder)
  deriving DecidableEq, Repr

/-- The characters of a segment as they stand in a template. -/
def Segment.chars : Segment → List Char
  | .text s => s.toList
  | .hole p => p.mark

/-- The template of a list of segments. -/
def writeTemplate (segments : List Segment) : String :=
  String.ofList (segments.flatMap Segment.chars)

/-! ### Substitution -/

/-- Which occurrences of a placeholder are replaced. -/
inductive Substitution where
  /-- The first one. -/
  | first
  /-- All of them. -/
  | all
  deriving DecidableEq, Repr, Inhabited

namespace Substitution

/-- The name of a substitution in a configuration. -/
def name : Substitution → String
  | .first => "first_occurrence"
  | .all => "all"

/-- The substitution with a given name. -/
def ofName? (name : String) : Option Substitution :=
  if name = "first_occurrence" then some .first
  else if name = "all" then some .all
  else none

/-- A text in which a placeholder is replaced. -/
def replace (mode : Substitution) (p : Placeholder) (new : String) (s : List Char) : List Char :=
  match mode with
  | .first => Text.replaceFirst p.mark new.toList s
  | .all => Text.replaceAll p.mark new.toList s

end Substitution

/-- The message after a template: the placeholders replaced by the name of the field, then by its
value, then by the parameter if there is one. -/
def substitute (mode : Substitution) (template field value : String) (param : Option String) :
    String :=
  let s := mode.replace .value value (mode.replace .field field template.toList)
  String.ofList (match param with
    | none => s
    | some param => mode.replace .param param s)

/-! ### Built-in templates -/

/-- The segments of a sentence about the field. -/
def aboutField (sentence : String) : List Segment :=
  [.text "The ", .hole .field, .text (" field " ++ sentence)]

/-- The segments of a sentence about the field in which the parameter stands between two parts. -/
def aboutParam (before after : String) : List Segment :=
  aboutField before ++ [.hole .param, .text after]

/-- The segments of the built-in templates, by the names of the rules. -/
def builtInSegments : List (String × List Segment) := [
  ("alpha", aboutField "may only contain alphabetical characters."),
  ("alpha_dash",
    aboutField "may only contain alphanumeric, underscore, and dash characters."),
  ("alpha_numeric", aboutField "may only contain alphanumeric characters."),
  ("alpha_numeric_punct",
    aboutField ("may contain only alphanumeric characters, spaces, and " ++
      " ~ ! # $ % & * - _ + = | : . characters.")),
  ("alpha_numeric_space", aboutField "may only contain alphanumeric and space characters."),
  ("alpha_space", aboutField "may only contain alphabetical characters and spaces."),
  ("decimal", aboutField "must contain a decimal number."),
  ("differs", aboutParam "must differ from the " " field."),
  ("equals", aboutParam "must be exactly: " "."),
  ("exact_length", aboutParam "must be exactly " " characters in length."),
  ("greater_than", aboutParam "must contain a number greater than " "."),
  ("greater_than_equal_to", aboutParam "must contain a number greater than or equal to " "."),
  ("hex", aboutField "may only contain hexadecimal characters."),
  ("in_list", aboutParam "must be one of: " "."),
  ("integer", aboutField "must contain an integer."),
  ("is_natural", aboutField "must only contain digits."),
  ("is_natural_no_zero", aboutField "must only contain digits and must be greater than zero."),
  ("less_than", aboutParam "must contain a number less than " "."),
  ("less_than_equal_to", aboutParam "must contain a number less than or equal to " "."),
  ("matches", aboutParam "does not match the " " field."),
  ("max_length", aboutParam "cannot exceed " " characters in length."),
  ("min_length", aboutParam "must be at least " " characters in length."),
  ("not_equals", aboutParam "cannot be: " "."),
  ("not_in_list", aboutParam "must not be one of: " "."),
  ("numeric", aboutField "must contain only numbers."),
  ("regex_match", aboutField "is not in the correct format."),
  ("required", aboutField "is required."),
  ("required_with", aboutParam "is required when " " is present."),
  ("required_without", aboutParam "is required when " " is not present."),
  ("valid_email", aboutField "must contain a valid email address."),
  ("valid_ip", aboutField "must contain a valid IP."),
  ("valid_url", aboutField "must contain a valid URL."),
  ("valid_date", aboutField "must contain a valid date.")]

/-- The built-in template of a rule, if there is one. -/
def builtInTemplate? (rule : String) : Option String :=
  (Table.lookup rule builtInSegments).map writeTemplate

/-- The segments of the template for all other rules. -/
def fallbackSegments : List Segment := [.text "Please enter a valid: ", .hole .field]

/-- The template for all other rules. -/
def fallbackTemplate : String := writeTemplate fallbackSegments

/-! ### Catalogs -/

/-- Templates for the rules of one field. -/
abbrev RuleMessages := Table String

/-- Templates for the rules of single fields. -/
abbrev Overrides := Table RuleMessages

/-- The template given for a field and a rule. -/
def Overrides.template? (overrides : Overrides) (field rule : String) : Option String :=
  (overrides.get? field).bind fun messages => messages.get? rule

/-- The templates of one validation and the way to fill them in. -/
structure Catalog where
  /-- The templates given for single fields and rules. -/
  overrides : Overrides
  /-- Which occurrences of a placeholder are replaced. -/
  substitution : Substitution
  deriving DecidableEq

namespace Catalog

/-- The template for a rule that failed on a field. -/
def templateFor (catalog : Catalog) (field rule : String) : String :=
  match catalog.overrides.template? field rule with
  | some template => template
  | none => (builtInTemplate? rule).getD fallbackTemplate

/-- The message for a rule that failed on a value of a field. -/
def message (catalog : Catalog) (field rule : String) (param : Option String) (value : String) :
    String :=
  substitute catalog.substitution (catalog.templateFor field rule) field value param

end Catalog

end FormCheck

import FormCheck.Registry.RuleSet
import FormCheck.Check.Comparison
import FormCheck.Check.Shape
import FormCheck.Address.Internet
import FormCheck.WebAddress.Basic
import FormCheck.Calendar.Reading
import FormCheck.Pattern.Basic

/-!
# Built-in rules

The rules that every validator knows unless they are left out. Most look at the value alone. Those
that need a parameter fail without one. Two compare the value with that of another field, whose
name is the parameter.

## Main definitions

* `builtInRules` : the set of built-in rules.
-/

namespace FormCheck

namespace Predicate

/-- A rule that looks at the value alone. -/
def ofValue (check : String → Bool) : Predicate := fun value _ _ => check value

/-- A rule that needs its parameter. -/
def ofParam (check : String → String → Bool) : Predicate := fun value param _ =>
  match param with
  | none => false
  | some param => check value param

/-- A rule that looks at its parameter if it has one. -/
def ofOptionalParam (check : String → Option String → Bool) : Predicate :=
  fun value param _ => check value param

/-- A rule that compares with the field that the parameter names. Blanks around the name do not
count. -/
def ofOtherField (check : String → Option String → Bool) : Predicate := fun value param source =>
  check value (param.bind fun field => source.valueOf (Text.trimmed field))

end Predicate

/-- The built-in rules with their names. -/
def builtInPredicates : List (String × Predicate) := [
  ("required", .ofValue Check.isPresent),
  ("exact_length", .ofParam Check.hasLength),
  ("min_length", .ofParam Check.hasMinLength),
  ("max_length", .ofParam Check.hasMaxLength),
  ("greater_than", .ofParam Check.greaterThan),
  ("greater_than_equal_to", .ofParam Check.atLeast),
  ("less_than", .ofParam Check.lessThan),
  ("less_than_equal_to", .ofParam Check.atMost),
  ("equals", .ofParam Check.isEqual),
  ("not_equals", .ofParam Check.isNotEqual),
  ("matches", .ofOtherField Check.isSame),
  ("differs", .ofOtherField Check.isOther),
  ("in_list", .ofParam Check.isAmong),
  ("not_in_list", .ofParam Check.isNotAmong),
  ("alpha", .ofValue Check.isAlpha),
  ("alpha_space", .ofValue Check.isAlphaSpace),
  ("alpha_dash", .ofValue Check.isAlphaDash),
  ("alpha_numeric", .ofValue Check.isAlphaNumeric),
  ("alpha_numeric_space", .ofValue Check.isAlphaNumericSpace),
  ("alpha_numeric_punct", .ofValue Check.isAlphaNumericPunct),
  ("numeric", .ofValue Check.isNumeric),
  ("decimal", .ofValue Check.isNumeric),
  ("integer", .ofValue Check.isInteger),
  ("is_natural", .ofValue Check.isNatural),
  ("is_natural_no_zero", .ofValue Check.isPositive),
  ("hex", .ofValue Check.isHex),
  ("valid_email", .ofValue Check.isEmail),
  ("valid_url", .ofValue fun value => WebAddress.isValid value.toList),
  ("valid_ip", .ofOptionalParam fun value param =>
    (Address.Family.ofParam param).admits value.toList),
  ("valid_date", .ofOptionalParam Calendar.isDate),
  ("regex_match", .ofParam fun value text => Pattern.occurs text value)]

/-- The set of built-in rules. -/
def builtInRules : RuleSet := RuleSet.ofList "default" builtInPredicates

end FormCheck

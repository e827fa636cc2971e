import FormCheck.Form
import FormCheck.Text.Quoted

/-!
# Rule sets

What a rule demands is a predicate on a value, the parameter of the rule and the values of the
other fields. A provider knows predicates by name; the usual provider is a rule set, a table of
them.

## Main definitions

* `Predicate`, `Provider` : what a rule demands, and who knows it.
* `RuleSet` : a named table of predicates.
-/

namespace FormCheck

/-- What a rule demands of a value, given its parameter and the values of the other fields. -/
abbrev Predicate := (value : String) → (param : Option String) → (source : Source) → Bool

/-- Someone who knows predicates by name. -/
structure Provider where
  /-- The name of the provider itself. -/
  name : String
  /-- The predicate of a rule, if the provider knows the rule. -/
  predicate? : String → Option Predicate

/-- Whether a provider knows a rule. -/
def Provider.provides (provider : Provider) (rule : String) : Bool :=
  (provider.predicate? rule).isSome

/-- A named table of predicates. -/
structure RuleSet where
  /-- The name of the set. -/
  name : String
  /-- The predicates by the names of their rules. -/
  rules : Table Predicate

namespace RuleSet

/-- The set without rules. -/
def empty (name : String) : RuleSet := ⟨name, .empty⟩

/-- The set of the given rules, entered one after another. -/
def ofList (name : String) (rules : List (String × Predicate)) : RuleSet :=
  ⟨name, Table.ofList rules⟩

/-- Enters a rule or replaces it. -/
def insert (s : RuleSet) (rule : String) (predicate : Predicate) : RuleSet :=
  { s with rules := s.rules.insert rule predicate }

/-- The names of the rules, in order of first entry. -/
def ruleNames (s : RuleSet) : List String := s.rules.keys

/-- A rule set as a provider. -/
def provider (s : RuleSet) : Provider := ⟨s.name, s.rules.get?⟩

/-- The listing of a rule set for people who look for an error: its name and its rules. -/
def describe (s : RuleSet) : String :=
  "RuleSet \x7b name: " ++ Text.quoted s.name ++ ", rules: " ++ Text.quotedList s.ruleNames ++
    " \x7d"

end RuleSet

end FormCheck

import FormCheck.Registry.BuiltIn

/-!
# Rule registries

A registry is a list of providers, of which there is at least one. The first provider that knows a
rule decides what it demands, so a provider in front of the built-in rules replaces them, and one
behind them adds to them.

A value that fails is no error. Errors arise only when a validator is set up, the first of them when
a registry is to have no provider.

## Main definitions

* `SetupError` : what can be wrong when a validator is set up.
* `Registry` : at least one provider, the one with the highest priority first.
* `Registry.resolve?`, `Registry.providerOf?` : the predicate of a rule, and who provides it.
* `Registry.change` : a change of the providers.
-/

namespace FormCheck

/-! ### Errors -/

/-- What can be wrong when a validator is set up. -/
inductive SetupError where
  /-- There is no provider of rules. -/
  | emptyRegistry
  /-- The spec of a field names a rule that no provider knows. -/
  | unknownRule (field rule : String)
  /-- A text is no configuration. -/
  | invalidConfig
  deriving DecidableEq, Repr

/-- The text of an error. -/
def SetupError.message : SetupError → String
  | .emptyRegistry => "rule registry needs at least one rule provider"
  | .unknownRule field rule =>
    "field '" ++ field ++ "' uses rule '" ++ rule ++ "', which no rule provider implements"
  | .invalidConfig => "invalid validator configuration"

/-! ### Registries -/

/-- At least one provider, the one with the highest priority first. -/
structure Registry where
  /-- The providers, by descending priority. -/
  providers : List Provider
  /-- There is at least one. -/
  providers_ne_nil : providers ≠ []

namespace Registry

/-- The registry of the built-in rules. -/
def builtIn : Registry := ⟨[builtInRules.provider], by simp⟩

instance : Inhabited Registry := ⟨builtIn⟩

/-- The registry of the given providers. -/
def ofProviders (providers : List Provider) : Except SetupError Registry :=
  if h : providers = [] then .error .emptyRegistry else .ok ⟨providers, h⟩

/-- The first provider that knows a rule. -/
def find? (registry : Registry) (rule : String) : Option Provider :=
  registry.providers.find? fun provider => provider.provides rule

/-- The predicate of a rule by the first provider that knows it. -/
def resolve? (registry : Registry) (rule : String) : Option Predicate :=
  registry.providers.findSome? fun provider => provider.predicate? rule

/-- The name of the provider that decides about a rule. -/
def providerOf? (registry : Registry) (rule : String) : Option String :=
  (registry.find? rule).map Provider.name

/-- Whether some provider knows a rule. -/
def contains (registry : Registry) (rule : String) : Bool := (registry.resolve? rule).isSome

/-- A change of the providers. -/
inductive Change where
  /-- All providers are replaced by others. -/
  | replaceAll (providers : List Provider)
  /-- All providers are replaced by one. -/
  | replace (provider : Provider)
  /-- A provider is added with the lowest priority. -/
  | add (provider : Provider)

/-- The registry after a change. The last provider cannot be taken away. -/
def change (registry : Registry) : Change → Except SetupError Registry
  | .replaceAll providers => ofProviders providers
  | .replace provider => .ok ⟨[provider], by simp⟩
  | .add provider => .ok ⟨registry.providers ++ [provider], by simp⟩

/-- The registry after a change, or as it was if the change is refused. -/
def changeIfValid (registry : Registry) (c : Change) : Registry :=
  match registry.change c with
  | .ok changed => changed
  | .error _ => registry

/-- The names of the providers, in order. -/
def providerNames (registry : Registry) : List String := registry.providers.map Provider.name

/-- The listing of a registry for people who look for an error: the names of its providers. -/
def describe (registry : Registry) : String := Text.quotedList registry.providerNames

end Registry

end FormCheck

import FormCheck.Validator.Basic

/-!
# Setting up validators

A builder collects what a validator is set up with. Its own providers come before the built-in
rules, in the order in which they were added. A strict validator is only built if all rules in its
specs are known.

## Main definitions

* `Builder` : what has been collected.
* `Builder.build` : the validator.
* `Validator.ofConfig` : the validator of a configuration.
-/

namespace FormCheck

/-- What has been collected for a validator. -/
structure Builder where
  /-- The providers in front of the built-in rules. -/
  providers : List Provider
  /-- Whether the built-in rules are among the providers. -/
  hasBuiltIn : Bool
  /-- Everything else. -/
  config : Config

namespace Builder

/-- The builder in which nothing has been collected. -/
def empty : Builder := ⟨[], true, .default⟩

/-- Sets the spec of a field. -/
def rule (b : Builder) (field spec : String) : Builder :=
  { b with config := { b.config with rules := b.config.rules.insert field spec } }

/-- Sets the message template of a field and a rule. -/
def message (b : Builder) (field rule template : String) : Builder :=
  let messages := (b.config.messages.get? field).getD .empty
  { b with config := { b.config with
      messages := b.config.messages.insert field (messages.insert rule template) } }

/-- Adds a provider behind those added before. -/
def provider (b : Builder) (provider : Provider) : Builder :=
  { b with providers := b.providers ++ [provider] }

/-- Leaves out the built-in rules. -/
def withoutBuiltIn (b : Builder) : Builder := { b with hasBuiltIn := false }

/-- All providers, in order. -/
def allProviders (b : Builder) : List Provider :=
  b.providers ++ if b.hasBuiltIn then [builtInRules.provider] else []

/-- The validator with a given registry. -/
def withRegistry (b : Builder) (registry : Registry) : Validator where
  registry := registry
  rules := b.config.rules
  messages := b.config.messages
  stopOnFirstError := b.config.stopOnFirstError
  substitution := b.config.substitution

/-- The validator of a builder. There has to be a provider, and a strict validator has to know all
rules in its specs. -/
def build (b : Builder) : Except SetupError Validator := do
  let registry ← Registry.ofProviders b.allProviders
  let v := b.withRegistry registry
  if b.config.strict then v.checkRules
  return v

end Builder

/-- The validator of a configuration, with the built-in rules. -/
def Validator.ofConfig (config : Config) : Except SetupError Validator :=
  Builder.build { Builder.empty with config := config }

end FormCheck

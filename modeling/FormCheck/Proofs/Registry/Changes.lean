import FormCheck.Registry.Basic

/-!
# Registries that change

The providers of a registry may be replaced and added to as often as one likes. A list without
providers is refused, so a run of changes comes to the same as a run on plain lists of providers in
which such a list is passed over. After every run the three questions about a rule are answered
alike, by the first provider that knows it.

A provider that is added comes last. It answers for rules that nobody knew before, and whatever was
known before keeps its predicate.

## Main definitions

* `Registry.addAll` : a registry with providers added one after another.
* `Registry.IsSetUpWith` : the providers that a registry has at first.
* `Registry.changeAll` : a registry after changes, one after another.
* `Registry.Answers` : the answers to the three questions about a rule.

## Main results

* `Registry.contains_iff` : a rule is known if some provider knows it.
* `Registry.resolve?_addAll` : added providers are asked last.
* `Registry.providers_changeAll` : the providers after a run of changes.
* `Registry.answers` : all questions about a rule lead to the first provider that knows it.
* `Registry.answers_changeAll` : what holds of a registry after every run of changes.
-/

namespace FormCheck.Registry

/-! ### Providers that are added -/

/-- A registry with providers added one after another. -/
def addAll (registry : Registry) (added : List Provider) : Registry :=
  added.foldl (fun registry provider => registry.changeIfValid (.add provider)) registry

theorem contains_iff {registry : Registry} {rule : String} :
    registry.contains rule = true ↔
      ∃ provider ∈ registry.providers, provider.provides rule = true := by
  rw [contains, resolve?, List.findSome?_isSome_iff]
  rfl

theorem providers_addAll (registry : Registry) (added : List Provider) :
    (registry.addAll added).providers = registry.providers ++ added := by
  induction added generalizing registry with
  | nil => exact (List.append_nil _).symm
  | cons provider added ih => exact (ih _).trans (List.append_assoc _ [provider] added)

/-- Added providers are asked about a rule only if nobody knew it before. -/
theorem resolve?_addAll (registry : Registry) (added : List Provider) (rule : String) :
    (registry.addAll added).resolve? rule =
      (registry.resolve? rule).or (added.findSome? fun provider => provider.predicate? rule) := by
  rw [resolve?, providers_addAll, List.findSome?_append, resolve?]

/-- What is known stays known. -/
theorem contains_addAll {registry : Registry} {rule : String} (h : registry.contains rule = true)
    (added : List Provider) : (registry.addAll added).contains rule = true := by
  rw [contains, resolve?_addAll, Option.isSome_or, ← contains, h, Bool.true_or]

/-! ### Runs of changes -/

/-- A registry is set up with providers: with that of the built-in rules, or with those that are
given, if there are any. -/
inductive IsSetUpWith : Registry → List Provider → Prop
  /-- Nothing is given. -/
  | builtIn : IsSetUpWith builtIn [builtInRules.provider]
  /-- Some providers are given. -/
  | given {registry : Registry} {providers : List Provider}
      (h : ofProviders providers = .ok registry) : IsSetUpWith registry providers

/-- The providers after a change, where a change to no providers at all is passed over. -/
def Change.providersAfter (providers : List Provider) : Change → List Provider
  | .replaceAll [] => providers
  | .replaceAll (first :: rest) => first :: rest
  | .replace provider => [provider]
  | .add provider => providers ++ [provider]

/-- A registry after changes, one after another. A change that is refused leaves it as it was. -/
def changeAll (registry : Registry) (changes : List Change) : Registry :=
  changes.foldl changeIfValid registry

/-- The answers to the three questions about a rule by a list of providers: its predicate, who
decides about it, and whether it is known. -/
inductive Answers (rule : String) :
    List Provider → Option Predicate → Option String → Bool → Prop
  /-- Nobody knows the rule. -/
  | unknown {providers : List Provider}
      (h : ∀ provider ∈ providers, provider.predicate? rule = none) :
      Answers rule providers none none false
  /-- A provider knows the rule, and none before it does. -/
  | known {before after : List Provider} {provider : Provider} {predicate : Predicate}
      (hbefore : ∀ earlier ∈ before, earlier.predicate? rule = none)
      (h : provider.predicate? rule = some predicate) :
      Answers rule (before ++ provider :: after) (some predicate) (some provider.name) true

theorem IsSetUpWith.providers_eq {registry : Registry} {providers : List Provider}
    (h : registry.IsSetUpWith providers) : registry.providers = providers := by
  cases h with
  | builtIn => rfl
  | given h =>
    unfold ofProviders at h
    split at h
    · exact nomatch h
    · rw [← Except.ok.inj h]

/-! ### Changes -/

section Change

variable (registry : Registry)

/-- Only a list without providers is refused. -/
theorem change_eq_error_iff {c : Change} {error : SetupError} :
    registry.change c = .error error ↔ c = .replaceAll [] ∧ error = .emptyRegistry := by
  cases c with
  | replaceAll providers =>
    rw [change, ofProviders]
    split
    · next h => simp [h, eq_comm]
    · next h => simp [h]
  | replace provider => simp [change]
  | add provider => simp [change]

theorem changeIfValid_replaceAll_nil : registry.changeIfValid (.replaceAll []) = registry := rfl

theorem providers_changeIfValid (c : Change) :
    (registry.changeIfValid c).providers = c.providersAfter registry.providers := by
  cases c with
  | replaceAll providers => cases providers <;> rfl
  | replace provider => rfl
  | add provider => rfl

/-- The providers after a run of changes are those after the same run on plain lists. -/
theorem providers_changeAll (changes : List Change) :
    (registry.changeAll changes).providers =
      changes.foldl Change.providersAfter registry.providers := by
  induction changes generalizing registry with
  | nil => rfl
  | cons c changes ih =>
    rw [List.foldl_cons, ← providers_changeIfValid]
    exact ih (registry.changeIfValid c)

theorem changeAll_append (first second : List Change) :
    registry.changeAll (first ++ second) = (registry.changeAll first).changeAll second :=
  List.foldl_append

/-- A refused change has no consequences. -/
theorem changeAll_append_replaceAll_nil (changes later : List Change) :
    registry.changeAll (changes ++ .replaceAll [] :: later) =
      registry.changeAll (changes ++ later) := by
  rw [changeAll_append, changeAll_append]
  exact congrArg (·.changeAll later) (registry.changeAll changes).changeIfValid_replaceAll_nil

end Change

/-! ### Questions -/

section Questions

variable (registry : Registry) (provider : Provider) (rule : String)

/-- The three questions about a rule all lead to the first provider that knows it. -/
theorem answers :
    Answers rule registry.providers (registry.resolve? rule) (registry.providerOf? rule)
      (registry.contains rule) := by
  rw [contains]
  cases hresolve : registry.resolve? rule with
  | none =>
    have hunknown : ∀ provider ∈ registry.providers, provider.predicate? rule = none :=
      List.findSome?_eq_none_iff.mp hresolve
    have hfind : registry.find? rule = none := by
      simpa [find?, Provider.provides] using hunknown
    rw [providerOf?, hfind]
    exact .unknown hunknown
  | some predicate =>
    obtain ⟨before, provider, after, hproviders, h, hbefore⟩ :=
      List.findSome?_eq_some_iff.mp hresolve
    have hfind : registry.find? rule = some provider := by
      rw [find?, List.find?_eq_some_iff_append, Provider.provides, h]
      exact ⟨rfl, before, after, hproviders, by simpa [Provider.provides] using hbefore⟩
    rw [providerOf?, hfind, hproviders]
    exact .known hbefore h

theorem resolve?_add :
    (registry.changeIfValid (.add provider)).resolve? rule =
      (registry.resolve? rule).or (provider.predicate? rule) := by
  have hadded := registry.resolve?_addAll [provider] rule
  rwa [List.findSome?_singleton] at hadded

theorem find?_add :
    (registry.changeIfValid (.add provider)).find? rule =
      (registry.find? rule).or (if provider.provides rule then some provider else none) := by
  rw [find?, providers_changeIfValid, Change.providersAfter, List.find?_append,
    List.find?_singleton, find?]

theorem contains_add :
    (registry.changeIfValid (.add provider)).contains rule =
      (registry.contains rule || provider.provides rule) := by
  rw [contains, resolve?_add, Option.isSome_or, contains, Provider.provides]

theorem isSome_find? : (registry.find? rule).isSome = registry.contains rule := by
  rw [Bool.eq_iff_iff, contains_iff, find?, List.find?_isSome]

/-- An added provider changes no answer about a rule that was known. -/
theorem answers_add_of_contains (h : registry.contains rule = true) :
    let grown := registry.changeIfValid (.add provider)
    grown.resolve? rule = registry.resolve? rule ∧
      grown.providerOf? rule = registry.providerOf? rule ∧ grown.contains rule = true := by
  have hfind := (registry.isSome_find? rule).trans h
  refine ⟨?_, ?_, by rw [contains_add, h, Bool.true_or]⟩
  · rw [resolve?_add, Option.or_of_isSome h]
  · rw [providerOf?, find?_add, Option.or_of_isSome hfind, providerOf?]

/-- About a rule that nobody knew an added provider is asked alone. -/
theorem answers_add_of_not_contains (h : registry.contains rule = false) :
    let grown := registry.changeIfValid (.add provider)
    grown.resolve? rule = provider.predicate? rule ∧
      grown.providerOf? rule = (if provider.provides rule then some provider.name else none) ∧
      grown.contains rule = provider.provides rule := by
  have hresolve : registry.resolve? rule = none :=
    Option.isNone_iff_eq_none.mp (Option.isSome_eq_false_iff.mp h)
  have hfind : registry.find? rule = none :=
    Option.isNone_iff_eq_none.mp
      (Option.isSome_eq_false_iff.mp ((registry.isSome_find? rule).trans h))
  refine ⟨?_, ?_, by rw [contains_add, h, Bool.false_or]⟩
  · rw [resolve?_add, hresolve, Option.none_or]
  · rw [providerOf?, find?_add, hfind, Option.none_or]
    split <;> rfl

end Questions

/-- What holds of a registry after any run of changes, whatever it was set up with. Its providers
are those that the changes leave on plain lists, and there is always one. A change is refused only
if it leaves no provider, and then it is as if it had never been tried. The three questions about a
rule lead to the first provider that knows it, or all to nobody; and one more provider is asked only
about rules that nobody knew. -/
theorem answers_changeAll {start : Registry} {providers : List Provider}
    (hstart : start.IsSetUpWith providers) (changes : List Change) :
    let registry := start.changeAll changes
    registry.providers = changes.foldl Change.providersAfter providers ∧
      registry.providers ≠ [] ∧
      (∀ c error,
        registry.change c = .error error ↔ c = .replaceAll [] ∧ error = .emptyRegistry) ∧
      (∀ later, start.changeAll (changes ++ .replaceAll [] :: later) =
        start.changeAll (changes ++ later)) ∧
      (∀ rule, Answers rule registry.providers (registry.resolve? rule)
        (registry.providerOf? rule) (registry.contains rule)) ∧
      ∀ provider rule,
        let grown := start.changeAll (changes ++ [.add provider])
        (registry.contains rule = true →
          grown.resolve? rule = registry.resolve? rule ∧
            grown.providerOf? rule = registry.providerOf? rule ∧ grown.contains rule = true) ∧
        (registry.contains rule = false →
          grown.resolve? rule = provider.predicate? rule ∧
            grown.providerOf? rule =
              (if provider.provides rule then some provider.name else none) ∧
            grown.contains rule = provider.provides rule) := by
  intro registry
  refine ⟨?providers, registry.providers_ne_nil, fun _ _ => registry.change_eq_error_iff,
    start.changeAll_append_replaceAll_nil changes, registry.answers, ?added⟩
  case providers =>
    rw [← hstart.providers_eq]
    exact start.providers_changeAll changes
  case added =>
    intro provider rule grown
    have hgrown : grown = registry.changeIfValid (.add provider) :=
      start.changeAll_append changes [.add provider]
    rw [hgrown]
    exact ⟨registry.answers_add_of_contains provider rule,
      registry.answers_add_of_not_contains provider rule⟩

/-- Of a rule that a set enters twice the later entry counts, a set without rules knows nothing, and
sets that are added behind another do not change what it decides. -/
theorem answers_changeAll_repeated_rule :
    let long : Predicate := .ofValue fun value => 3 < value.length
    let short : Predicate := .ofValue fun value => value.length ≤ 3
    let nobody := (RuleSet.empty "none").provider
    let own := (RuleSet.ofList "own" [("size", long), ("blank", long), ("size", short)]).provider
    let late := (RuleSet.ofList "late" [("size", long), ("extra", long)]).provider
    let changes : List Change :=
      [.replace own, .replaceAll [nobody, own], .replaceAll [], .add late, .replaceAll []]
    let registry := builtIn.changeAll changes
    builtIn.IsSetUpWith [builtInRules.provider] ∧
      registry.providers = [nobody, own, late] ∧
      Answers "size" [nobody, own, late] (some short) (some "own") true ∧
      registry.providerOf? "extra" = some "late" ∧ registry.contains "required" = false := by
  intro long short nobody own late changes registry
  have hproviders : registry.providers = [nobody, own, late] :=
    (answers_changeAll .builtIn changes).1
  have hanswers := (answers_changeAll .builtIn changes).2.2.2.2.1 "size"
  rw [hproviders] at hanswers
  exact ⟨.builtIn, hproviders, hanswers, by decide +kernel, by decide +kernel⟩

end FormCheck.Registry

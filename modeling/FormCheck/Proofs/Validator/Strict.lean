import FormCheck.Validator.Builder
import FormCheck.Proofs.Registry.Changes
import FormCheck.Proofs.Validator.Batch
import FormCheck.Proofs.Validator.Ending

/-!
# Strict validators

A strict validator is only built if every rule in its specs is a marker or known to a provider. The
check before and the validations after it read the specs in the same way, and a provider that is
added takes nothing away. So no validation ever meets a rule that nobody knows.

## Main definitions

* `Rule.IsKnownTo` : a rule needs no provider, or has one.
* `Validator.addProviders` : a validator with providers added one after another.

## Main results

* `Validator.checkAll_eq_ok_iff`, `Validator.exists_of_checkAll_eq_error` : what the check finds.
* `Examiner.exists_not_isKnownTo_of_unknown_mem` : only a rule that nobody knows is reported.
* `Builder.build_of_strict` : when a strict validator is built, and what is wrong if it is not.
-/

namespace FormCheck

/-- A rule is a marker, or some provider of a list knows it. -/
def Rule.IsKnownTo (providers : List Provider) (r : Rule) : Prop :=
  isMarker r.name = true ∨ ∃ provider ∈ providers, provider.provides r.name = true

instance (providers : List Provider) (r : Rule) : Decidable (r.IsKnownTo providers) :=
  inferInstanceAs (Decidable (_ ∨ ∃ provider ∈ providers, provider.provides r.name = true))

theorem Rule.isKnownTo_iff {registry : Registry} {r : Rule} :
    r.IsKnownTo registry.providers ↔
      isMarker r.name = true ∨ registry.contains r.name = true := by
  rw [IsKnownTo, Registry.contains_iff]

/-- Added providers take nothing away. -/
theorem Rule.IsKnownTo.addAll {registry : Registry} {r : Rule}
    (h : r.IsKnownTo registry.providers) (added : List Provider) :
    r.IsKnownTo (registry.addAll added).providers :=
  isKnownTo_iff.mpr ((isKnownTo_iff.mp h).imp_right fun h => Registry.contains_addAll h added)

/-! ### The check -/

namespace Validator

variable (v : Validator)

theorem unknownRule?_eq (spec : String) :
    v.unknownRule? spec =
      (Spec.rules spec).find? fun r => !decide (r.IsKnownTo v.registry.providers) := by
  rw [unknownRule?, properRules, List.find?_filter]
  congr 1
  funext r
  rw [Bool.eq_iff_iff]
  simp [Rule.isKnownTo_iff]

theorem unknownRule?_eq_none_iff {spec : String} :
    v.unknownRule? spec = none ↔ ∀ r ∈ Spec.rules spec, r.IsKnownTo v.registry.providers := by
  simp [unknownRule?_eq]

/-- The rule that is found is the first that nobody knows. -/
theorem unknownRule?_eq_some_iff {spec : String} {r : Rule} :
    v.unknownRule? spec = some r ↔
      ¬ r.IsKnownTo v.registry.providers ∧
        ∃ before after, Spec.rules spec = before ++ r :: after ∧
          ∀ other ∈ before, other.IsKnownTo v.registry.providers := by
  simp [unknownRule?_eq, List.find?_eq_some_iff_append]

theorem checkSpec_eq_ok_iff {field spec : String} :
    v.checkSpec field spec = .ok () ↔
      ∀ r ∈ Spec.rules spec, r.IsKnownTo v.registry.providers := by
  rw [← unknownRule?_eq_none_iff, checkSpec]
  cases v.unknownRule? spec <;> simp

theorem checkAll_eq_ok_iff {fields : List (String × String)} :
    v.checkAll fields = .ok () ↔
      ∀ entry ∈ fields, ∀ r ∈ Spec.rules entry.2, r.IsKnownTo v.registry.providers := by
  induction fields with
  | nil => simp [checkAll]
  | cons entry rest ih =>
    rw [List.forall_mem_cons, ← ih, ← v.checkSpec_eq_ok_iff, checkAll]
    cases v.checkSpec entry.1 entry.2 <;> simp

/-- The check fails at the first rule that nobody knows of the first field that has one. -/
theorem exists_of_checkAll_eq_error {fields : List (String × String)} {error : SetupError}
    (h : v.checkAll fields = .error error) :
    ∃ before field spec after r, fields = before ++ (field, spec) :: after ∧
      (∀ entry ∈ before, ∀ r ∈ Spec.rules entry.2, r.IsKnownTo v.registry.providers) ∧
      v.unknownRule? spec = some r ∧ error = .unknownRule field r.name := by
  induction fields with
  | nil => simp [checkAll] at h
  | cons entry rest ih =>
    obtain ⟨field, spec⟩ := entry
    rw [checkAll] at h
    cases hunknown : v.unknownRule? spec with
    | some r =>
      have hcheck : v.checkSpec field spec = .error (.unknownRule field r.name) := by
        rw [checkSpec, hunknown]
      rw [hcheck] at h
      exact ⟨[], field, spec, rest, r, rfl, List.forall_mem_nil _, hunknown,
        (Except.error.inj h).symm⟩
    | none =>
      have hknown := v.unknownRule?_eq_none_iff.mp hunknown
      rw [v.checkSpec_eq_ok_iff.mpr hknown] at h
      obtain ⟨before, field', spec', after, r, hrest, hbefore, hr, herror⟩ := ih h
      exact ⟨(field, spec) :: before, field', spec', after, r, by rw [hrest, List.cons_append],
        List.forall_mem_cons.mpr ⟨hknown, hbefore⟩, hr, herror⟩

end Validator

/-! ### Validations after the check -/

namespace Examiner

variable (examiner : Examiner) (subject : Subject)

theorem resolve?_eq_none_of_unknown_mem {r : Rule} {field rule : String}
    (h : .unknown field rule ∈ examiner.ruleEvents subject r) :
    examiner.registry.resolve? r.name = none := by
  unfold ruleEvents at h
  split at h
  · assumption
  · split at h <;> simp at h

/-- A rule is only reported as unknown if some rule of the spec is. -/
theorem exists_not_isKnownTo_of_unknown_mem (spec : String) {field rule : String} :
    .unknown field rule ∈ (examiner.evaluateField subject spec).events →
      ∃ r ∈ Spec.rules spec, ¬ r.IsKnownTo examiner.registry.providers := by
  refine examiner.evaluateField_cases subject spec ?_ ?_ ?_
  · simp
  · simp
  · intro _ _ h
    obtain ⟨r, hr, hevent⟩ := List.mem_flatMap.mp h
    have hproper := mem_properRules.mp (examiner.mem_of_mem_evaluatedRules subject hr)
    have hresolve := examiner.resolve?_eq_none_of_unknown_mem subject hevent
    refine ⟨r, hproper.1, fun hknown => ?_⟩
    rw [Rule.isKnownTo_iff, hproper.2, Registry.contains, hresolve] at hknown
    simp at hknown

end Examiner

namespace Validator

variable (v : Validator)

/-- A validator with providers added one after another. -/
def addProviders (added : List Provider) : Validator :=
  { v with registry := v.registry.addAll added }

/-- If all rules of all specs are known, no validation reports one as unknown. -/
theorem unknown_notMem_events_validate
    (h : ∀ entry ∈ v.rules.entries, ∀ r ∈ Spec.rules entry.2, r.IsKnownTo v.registry.providers)
    (source : Source) (field rule : String) :
    .unknown field rule ∉ (v.validate source).events := by
  rw [validate, validateWith_eq, List.mem_flatMap]
  rintro ⟨entry, hentry, hunknown⟩
  obtain ⟨r, hr, hr'⟩ := Examiner.exists_not_isKnownTo_of_unknown_mem _ _ _ hunknown
  exact hr' (h entry hentry r hr)

end Validator

/-! ### Building -/

namespace Builder

variable {b : Builder}

/-- A strict validator with a provider is built as it is, unless the check fails. -/
theorem build_eq_map_checkRules (hstrict : b.config.strict = true) (h : b.allProviders ≠ []) :
    b.build = (b.withRegistry ⟨b.allProviders, h⟩).checkRules.map
      fun _ => b.withRegistry ⟨b.allProviders, h⟩ := by
  rw [build, Registry.ofProviders, dif_neg h]
  simp only [hstrict, if_true, bind, Except.bind, pure, Except.pure]
  cases (b.withRegistry ⟨b.allProviders, h⟩).checkRules <;> rfl

theorem build_eq_ok_iff (hstrict : b.config.strict = true) {v : Validator} :
    b.build = .ok v ↔ ∃ h : b.allProviders ≠ [],
      (∀ entry ∈ b.config.rules.entries, ∀ r ∈ Spec.rules entry.2, r.IsKnownTo b.allProviders) ∧
        b.withRegistry ⟨b.allProviders, h⟩ = v := by
  by_cases h : b.allProviders = []
  · have hbuild : b.build = .error .emptyRegistry := by
      rw [build, Registry.ofProviders, dif_pos h]
      rfl
    simp [hbuild, h]
  · rw [build_eq_map_checkRules hstrict h, exists_prop_of_true h]
    have hcheck : (b.withRegistry ⟨b.allProviders, h⟩).checkRules = .ok () ↔ _ :=
      Validator.checkAll_eq_ok_iff _
    refine Iff.trans ?_ (and_congr_left fun _ => hcheck)
    cases (b.withRegistry ⟨b.allProviders, h⟩).checkRules <;> simp [Except.map]

theorem build_eq_error_iff (hstrict : b.config.strict = true) (h : b.allProviders ≠ [])
    {error : SetupError} :
    b.build = .error error ↔
      (b.withRegistry ⟨b.allProviders, h⟩).checkRules = .error error := by
  rw [build_eq_map_checkRules hstrict h]
  cases (b.withRegistry ⟨b.allProviders, h⟩).checkRules <;> simp [Except.map]

/-- A strict validator is built if and only if there is a provider and every rule of every spec is
a marker or known. No validation by it reports a rule as unknown, whatever the values are and
whichever providers are added. If there is a provider and it is not built, the error names the first
field with a rule that nobody knows, and the first such rule of this field. -/
theorem build_of_strict (hstrict : b.config.strict = true) :
    ((∃ v, b.build = .ok v) ↔ b.allProviders ≠ [] ∧
        ∀ entry ∈ b.config.rules.entries, ∀ r ∈ Spec.rules entry.2, r.IsKnownTo b.allProviders) ∧
      (∀ v, b.build = .ok v → v.rules = b.config.rules ∧ v.registry.providers = b.allProviders ∧
        ∀ added source field rule,
          .unknown field rule ∉ ((v.addProviders added).validate source).events) ∧
      (b.allProviders ≠ [] → ∀ error, b.build = .error error →
        ∃ before field spec after known r rest,
          b.config.rules.entries = before ++ (field, spec) :: after ∧
          (∀ entry ∈ before, ∀ other ∈ Spec.rules entry.2, other.IsKnownTo b.allProviders) ∧
          Spec.rules spec = known ++ r :: rest ∧
          (∀ other ∈ known, other.IsKnownTo b.allProviders) ∧
          ¬ r.IsKnownTo b.allProviders ∧ error = .unknownRule field r.name) := by
  refine ⟨⟨?built, ?known⟩, ?unreported, ?firstUnknown⟩
  case built =>
    rintro ⟨v, hv⟩
    obtain ⟨hne, hknown, -⟩ := (build_eq_ok_iff hstrict).mp hv
    exact ⟨hne, hknown⟩
  case known =>
    rintro ⟨hne, hknown⟩
    exact ⟨_, (build_eq_ok_iff hstrict).mpr ⟨hne, hknown, rfl⟩⟩
  case unreported =>
    intro v hv
    obtain ⟨hne, hknown, rfl⟩ := (build_eq_ok_iff hstrict).mp hv
    refine ⟨rfl, rfl, fun added source field rule => ?_⟩
    -- Adding providers changes neither the specs nor what was known of their rules.
    refine Validator.unknown_notMem_events_validate _ (fun entry hentry r hr => ?_) _ _ _
    exact Rule.IsKnownTo.addAll (hknown entry hentry r hr) added
  case firstUnknown =>
    intro hne error herror
    obtain ⟨before, field, spec, after, r, hfields, hbefore, hunknown, rfl⟩ :=
      Validator.exists_of_checkAll_eq_error _ ((build_eq_error_iff hstrict hne).mp herror)
    obtain ⟨hr, known, rest, hspec, hknown⟩ :=
      (Validator.unknownRule?_eq_some_iff _).mp hunknown
    exact ⟨before, field, spec, after, known, r, rest, hfields, hbefore, hspec, hknown, hr, rfl⟩

/-- A rule of a provider of one's own, a built-in rule and a marker are known; without this provider
the rule is not. -/
theorem build_of_strict_own_provider :
    let own := (RuleSet.ofList "own" [("short", .ofValue fun value => value.length ≤ 3)]).provider
    let config : Config :=
      { Config.default with
        rules := Table.ofList [("name", "required"), ("age", "integer|short|required_with[name]")]
        strict := true }
    config.strict = true ∧ (∃ v, Builder.build ⟨[own], true, config⟩ = .ok v) ∧
      (∀ v, Builder.build ⟨[own], true, config⟩ = .ok v → ∀ source field rule,
        .unknown field rule ∉ ((v.addProviders [own]).validate source).events) ∧
      ¬ ∃ v, Builder.build ⟨[], true, config⟩ = .ok v := by
  intro own config
  have hstrict : config.strict = true := rfl
  obtain ⟨hok, hevents, -⟩ := build_of_strict (b := ⟨[own], true, config⟩) hstrict
  obtain ⟨hok', -, -⟩ := build_of_strict (b := ⟨[], true, config⟩) hstrict
  refine ⟨hstrict, hok.mpr ⟨List.cons_ne_nil _ _, by decide +kernel⟩, ?_, ?_⟩
  · intro v hv source
    exact (hevents v hv).2.2 [own] source
  · rw [hok']
    exact fun h => absurd h.2 (by decide +kernel)

-- The bracket that is never closed makes the whole token a name.
example : (Builder.build { Builder.empty with config :=
      { Config.default with
        rules := Table.ofList [("age", "integer"), ("list", "required|in_list[a,b|short")]
        strict := true } }).map (fun _ => ()) =
    .error (.unknownRule "list" "in_list[a,b|short") := by
  decide +kernel

end Builder

end FormCheck

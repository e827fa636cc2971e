import FormCheck.Requirement
import Mathlib.Logic.Basic

/-!
# What the markers of a spec decide

The two questions that the markers answer, put in terms of the rules of the spec and of the fields
that are filled in. They concern empty values only.

## Main definitions

* `IsExempt` : a value is empty and may be so.
* `IsSpared` : a value is empty, and every marker that is consulted says that it is not required.
* `Source.FillsWithin` : what is filled in one source is filled in another.

## Main results

* `isMarker_eq_false_iff` : the names of the rules that are no markers.
* `permitsEmpty_iff`, `gate_eq_skip_iff` : what the rules decide is what the definitions say.
* `gate_congr` : of other fields it only matters which of those that markers list are filled.
* `gate_monotone` : filling more fields changes the decision in one direction only, and the kind of
  marker that is consulted tells in which.
-/

namespace FormCheck

/-- A value is empty, and a rule says that it may be so. -/
def IsExempt (rules : List Rule) (value : String) : Prop :=
  value = "" ∧ ∃ r ∈ rules, r.name = "permit_empty"

/-- A value is empty, and every marker that is consulted says that it is not required: one of the
first kind when some field of its list is not filled, one of the second kind when some field of its
list is. Those of the second kind are consulted when none of the first kind has a list, and a
marker without a list is never consulted. -/
def IsSpared (rules : List Rule) (value : String) (source : Source) : Prop :=
  value = "" ∧
    if markerLists rules .requiredWith = [] then
      markerLists rules .requiredWithout ≠ [] ∧
        ∀ list ∈ markerLists rules .requiredWithout,
          ∃ field ∈ fieldNames list, source.isFilled field = true
    else
      ∀ list ∈ markerLists rules .requiredWith,
        ∃ field ∈ fieldNames list, source.isFilled field = false

/-- The markers are the rules with one of three names. -/
theorem isMarker_eq_false_iff {name : String} :
    isMarker name = false ↔ name ∉ ["permit_empty", "required_with", "required_without"] := by
  simp [isMarker, Marker.all, Marker.name, eq_comm (a := name)]

theorem permitsEmpty_iff {rules : List Rule} {value : String} :
    permitsEmpty rules value = true ↔ IsExempt rules value := by
  simp [permitsEmpty, IsExempt, Rule.isMarkedBy, Marker.name]

theorem Source.allFilled_eq_false_iff {source : Source} {list : String} :
    source.allFilled list = false ↔
      ∃ field ∈ fieldNames list, source.isFilled field = false := by
  simp [allFilled]

theorem Source.noneFilled_eq_false_iff {source : Source} {list : String} :
    source.noneFilled list = false ↔
      ∃ field ∈ fieldNames list, source.isFilled field = true := by
  simp [noneFilled]

/-- Rules are skipped when some marker is consulted and none requires a value. -/
theorem gate_eq_skip_iff_requirements {rules : List Rule} {value : String} {source : Source} :
    gate rules value source = .skip ↔
      value = "" ∧ requirements rules source ≠ [] ∧
        ∀ required ∈ requirements rules source, required = false := by
  unfold gate
  cases requirements rules source with
  | nil => simp
  | cons required rest => by_cases hv : value = "" <;> simp [hv]

theorem gate_eq_skip_iff {rules : List Rule} {value : String} {source : Source} :
    gate rules value source = .skip ↔ IsSpared rules value source := by
  rw [gate_eq_skip_iff_requirements, IsSpared]
  refine and_congr_right fun _ => ?_
  cases hwith : markerLists rules .requiredWith with
  | nil =>
    simp only [requirements, hwith, if_true, ne_eq, List.map_eq_nil_iff, List.forall_mem_map,
      Source.noneFilled_eq_false_iff]
  | cons list lists =>
    simp only [requirements, hwith, reduceCtorEq, if_false, ne_eq, List.map_eq_nil_iff,
      List.forall_mem_map, Source.allFilled_eq_false_iff, not_false_eq_true, true_and]

/-! ### Other sources -/

theorem mem_markerLists {rules : List Rule} {marker : Marker} {list : String} :
    list ∈ markerLists rules marker ↔
      ∃ r ∈ rules, r.name = marker.name ∧ r.param = some list := by
  simp [markerLists, Rule.isMarkedBy, and_assoc]

section Congruence

variable {s t : Source}

theorem Source.allFilled_congr {list : String}
    (h : ∀ field ∈ fieldNames list, s.isFilled field = t.isFilled field) :
    s.allFilled list = t.allFilled list := by
  rw [Bool.eq_iff_iff, allFilled, allFilled, List.all_eq_true, List.all_eq_true]
  exact forall₂_congr fun field hfield => by rw [h field hfield]

theorem Source.noneFilled_congr {list : String}
    (h : ∀ field ∈ fieldNames list, s.isFilled field = t.isFilled field) :
    s.noneFilled list = t.noneFilled list := by
  rw [Bool.eq_iff_iff, noneFilled, noneFilled, List.all_eq_true, List.all_eq_true]
  exact forall₂_congr fun field hfield => by rw [h field hfield]

/-- Two sources in which the same of the fields are filled that markers list decide alike. -/
theorem gate_congr {rules : List Rule} (value : String)
    (h : ∀ r ∈ rules, r.name = "required_with" ∨ r.name = "required_without" →
      ∀ list ∈ r.param, ∀ field ∈ fieldNames list, s.isFilled field = t.isFilled field) :
    gate rules value s = gate rules value t := by
  have hwith : (markerLists rules .requiredWith).map s.allFilled =
      (markerLists rules .requiredWith).map t.allFilled := by
    refine List.map_congr_left fun list hlist => Source.allFilled_congr ?_
    obtain ⟨r, hr, hname, hparam⟩ := mem_markerLists.mp hlist
    exact h r hr (.inl hname) list hparam
  have hwithout : (markerLists rules .requiredWithout).map s.noneFilled =
      (markerLists rules .requiredWithout).map t.noneFilled := by
    refine List.map_congr_left fun list hlist => Source.noneFilled_congr ?_
    obtain ⟨r, hr, hname, hparam⟩ := mem_markerLists.mp hlist
    exact h r hr (.inr hname) list hparam
  have hrequirements : requirements rules s = requirements rules t := by
    unfold requirements
    split
    · exact hwithout
    · exact hwith
  rw [gate, gate, hrequirements]

end Congruence

/-! ### Filling more fields -/

section Monotonicity

variable {rules : List Rule} {s t : Source}

/-- Every field that is filled in one source is filled in another. -/
def Source.FillsWithin (s t : Source) : Prop :=
  ∀ field, s.isFilled field = true → t.isFilled field = true

theorem Source.FillsWithin.isFilled_eq_false (h : s.FillsWithin t) {field : String}
    (hfield : t.isFilled field = false) : s.isFilled field = false := by
  rw [Bool.eq_false_iff] at hfield ⊢
  exact mt (h field) hfield

theorem gate_eq_evaluate_iff {value : String} {source : Source} :
    gate rules value source = .evaluate ↔ ¬ IsSpared rules value source := by
  rw [← gate_eq_skip_iff]
  cases gate rules value source <;> simp

/-- There is no list of the first kind exactly if every marker of this kind is bare. -/
theorem markerLists_eq_nil_iff {marker : Marker} :
    markerLists rules marker = [] ↔ ∀ r ∈ rules, r.name = marker.name → r.param = none := by
  simp [markerLists, Rule.isMarkedBy]

/-- Where markers of the first kind are consulted, a value that is spared is so with fewer fields
filled, too. -/
theorem IsSpared.anti (h : s.FillsWithin t) (hwith : markerLists rules .requiredWith ≠ [])
    {value : String} (hspared : IsSpared rules value t) : IsSpared rules value s := by
  rw [IsSpared, if_neg hwith] at hspared ⊢
  obtain ⟨hvalue, hlists⟩ := hspared
  refine ⟨hvalue, fun list hlist => ?_⟩
  obtain ⟨field, hmem, hfield⟩ := hlists list hlist
  exact ⟨field, hmem, h.isFilled_eq_false hfield⟩

/-- Where markers of the second kind are consulted, a value that is spared is so with more fields
filled, too. -/
theorem IsSpared.mono (h : s.FillsWithin t) (hwith : markerLists rules .requiredWith = [])
    {value : String} (hspared : IsSpared rules value s) : IsSpared rules value t := by
  rw [IsSpared, if_pos hwith] at hspared ⊢
  obtain ⟨hvalue, hne, hlists⟩ := hspared
  refine ⟨hvalue, hne, fun list hlist => ?_⟩
  obtain ⟨field, hmem, hfield⟩ := hlists list hlist
  exact ⟨field, hmem, h field hfield⟩

/-- An empty value, and two sources such that what is filled in the first is filled in the second.
If a marker of the first kind has a list, filling more fields never lifts a requirement; if none
has, filling more fields never adds one. -/
theorem gate_monotone (h : s.FillsWithin t) (rules : List Rule) :
    ((∃ r ∈ rules, r.name = "required_with" ∧ r.param ≠ none) →
      gate rules "" s = .evaluate → gate rules "" t = .evaluate) ∧
    ((¬ ∃ r ∈ rules, r.name = "required_with" ∧ r.param ≠ none) →
      gate rules "" t = .evaluate → gate rules "" s = .evaluate) := by
  have hbare : markerLists rules .requiredWith = [] ↔
      ¬ ∃ r ∈ rules, r.name = "required_with" ∧ r.param ≠ none := by
    simp [markerLists_eq_nil_iff, Marker.name]
  rw [gate_eq_evaluate_iff, gate_eq_evaluate_iff]
  refine ⟨fun hlist => mt ?_, fun hnone => mt ?_⟩
  · exact IsSpared.anti h (mt hbare.mp (not_not_intro hlist))
  · exact IsSpared.mono h (hbare.mpr hnone)

/-- Several markers of each kind, a bare one, and lists with blanks and without a name. -/
theorem gate_monotone_several :
    let s := Source.ofTable (Table.ofList [("a", "1"), ("b", "")])
    let t := Source.ofTable (Table.ofList [("b", "2"), ("a", "1")])
    let allOf := Spec.rules "required_without[a]|required_with[ a ]|required_with[b, c]"
    let noneOf := Spec.rules "required_with|required_without[ c ,]|required_without[a]"
    s.FillsWithin t ∧
      (gate allOf "" s = .evaluate ∧ gate allOf "" t = .evaluate) ∧
      gate noneOf "" t = .evaluate ∧ gate noneOf "" s = .evaluate := by
  intro s t allOf noneOf
  have hfills : s.FillsWithin t := by
    intro field hfield
    by_cases ha : field = "a"
    · subst ha
      decide
    · by_cases hb : field = "b"
      · subst hb
        decide
      · have hnone : s.valueOf field = none := by
          simp only [s, Source.ofTable, Table.ofList, Table.insertAll, List.foldl_cons,
            List.foldl_nil, Table.get?_insert, if_neg ha, if_neg hb, Table.get?_empty]
        rw [Source.isFilled, hnone] at hfield
        exact nomatch hfield
  have hall : gate allOf "" s = .evaluate := by decide +kernel
  have hnone : gate noneOf "" t = .evaluate := by decide +kernel
  exact ⟨hfills, ⟨hall, (gate_monotone hfills allOf).1 (by decide +kernel) hall⟩, hnone,
    (gate_monotone hfills noneOf).2 (by decide +kernel) hnone⟩

end Monotonicity

end FormCheck

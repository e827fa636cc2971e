import FormCheck.Json.Reading
import FormCheck.Proofs.Decimal.Double
import FormCheck.Proofs.Table
import FormCheck.Validator.Basic

/-!
# The two readings of form data

Form data is read from JSON in two ways: from the meaning of a document, in which each key stands
once with its last value and the keys are in order, and from the document as it is written, member
by member. If the object has no arrays and objects in it, both readings have the same values under
the same names, and only the order of the names may differ. Rules look at values by name, so nothing
that is validated can tell the two apart.

## Main definitions

* `Json.isScalar` : a document is neither an array nor an object.
* `Json.isFlat` : a document is an object of scalars.

## Main results

* `Value.ofJson?_eq_map_ofData` : a scalar has the value of its meaning.
* `Form.same_of_perm` : form data with the same entries in another order is the same.
* `Form.ofJson?_same_ofData` : both readings of an object of scalars are the same form data.
-/

namespace FormCheck

namespace Json

/-- A document is neither an array nor an object. -/
def isScalar : Json → Bool
  | .array _ => false
  | .object _ => false
  | _ => true

/-- A document is an object without arrays and objects in it. -/
def isFlat : Json → Bool
  | .object members => members.all fun member => member.2.isScalar
  | _ => false

theorem exists_of_isFlat {j : Json} (h : j.isFlat = true) :
    ∃ members, j = .object members ∧ ∀ member ∈ members, member.2.isScalar = true := by
  cases j with
  | object members => exact ⟨members, rfl, List.all_eq_true.mp h⟩
  | _ => exact nomatch h

theorem sorted_perm {α : Type} (l : List (String × α)) :
    (sorted l).Perm (Table.ofList l).entries :=
  List.mergeSort_perm _ _

/-- Every value that is read is that of a member. -/
theorem exists_read_of_mem_members? {α : Type} {read : Json → Option α}
    {members : List (List Piece × Json)} {l : List (String × α)}
    (h : members? read members = some l) {entry : String × α} (hentry : entry ∈ l) :
    ∃ member ∈ members, read member.2 = some entry.2 := by
  induction members generalizing l with
  | nil =>
    rw [← Option.some.inj h] at hentry
    exact absurd hentry List.not_mem_nil
  | cons member rest ih =>
    obtain ⟨key, value⟩ := member
    simp only [members?, Option.bind_eq_bind, Option.bind_eq_some_iff, Option.some.injEq] at h
    obtain ⟨name, -, a, ha, later, hlater, rfl⟩ := h
    rcases List.mem_cons.mp hentry with rfl | hlast
    · exact ⟨(key, value), List.mem_cons_self, ha⟩
    · obtain ⟨found, hfound, hread⟩ := ih hlater hlast
      exact ⟨found, List.mem_cons_of_mem _ hfound, hread⟩

end Json

namespace Value

/-- A scalar has the value of its meaning. -/
theorem ofJson?_eq_map_ofData {j : Json} (h : j.isScalar = true) :
    ofJson? j = (Json.meaning? j).map ofData := by
  cases j with
  | null => rfl
  | bool b => rfl
  | number n =>
    rw [ofJson?, Json.meaning?, Option.map_map]
    rfl
  | text pieces =>
    rw [ofJson?, Json.meaning?, Option.map_map]
    rfl
  | array items => exact nomatch h
  | object members => exact nomatch h

/-- A value that is read is the same as itself: it is not the double that is not a number. -/
theorem same_self_of_ofJson? {j : Json} {value : Value} (h : ofJson? j = some value) :
    value.same value = true := by
  cases j with
  | null =>
    rw [← Option.some.inj h]
    rfl
  | bool b =>
    rw [← Option.some.inj h]
    exact beq_self_eq_true b
  | number n =>
    obtain ⟨x, hx, rfl⟩ := Option.map_eq_some_iff.mp h
    exact (Json.Number.isNumber_of_value? hx).beq_self
  | text pieces =>
    obtain ⟨s, -, rfl⟩ := Option.map_eq_some_iff.mp h
    exact beq_self_eq_true s
  | array items => exact nomatch h
  | object members => exact nomatch h

end Value

namespace Form

/-- Form data with the same entries in another order is the same, if each of its values is. -/
theorem same_of_perm {form other : Form} (h : form.entries.Perm other.entries)
    (hself : ∀ entry ∈ form.entries, entry.2.same entry.2 = true) : form.same other = true := by
  rw [same, Bool.and_eq_true, beq_iff_eq, List.all_eq_true]
  refine ⟨h.length_eq, fun entry hentry => ?_⟩
  have hget : other.get? entry.1 = some entry.2 :=
    Table.get?_eq_some_iff.mpr (h.mem_iff.mp hentry)
  rw [hget]
  exact hself entry hentry

theorem source_eq_of_perm {form other : Form} (h : form.entries.Perm other.entries) :
    form.source = other.source := by
  ext1
  funext field
  simp only [source, Table.get?_eq_of_perm h]

/-- The members of an object of scalars have the values of their meanings. -/
theorem members?_eq_map_meaningMembers? {members : List (List Json.Piece × Json)}
    (h : ∀ member ∈ members, member.2.isScalar = true) :
    Json.members? Value.ofJson? members =
      (Json.meaningMembers? members).map (List.map (Prod.map id Value.ofData)) := by
  induction members with
  | nil => rfl
  | cons member rest ih =>
    obtain ⟨key, value⟩ := member
    rw [List.forall_mem_cons] at h
    rw [Json.members?, Json.meaningMembers?, ih h.2, Value.ofJson?_eq_map_ofData h.1]
    cases Json.string? key <;> cases Json.meaning? value <;> cases Json.meaningMembers? rest <;> rfl

/-- The meaning of an object gives each of its entries once. -/
theorem entries_ofData_sorted (l : List (String × Json.Data)) :
    (ofData (.object (Json.sorted l))).entries =
      (Json.sorted l).map (Prod.map id Value.ofData) := by
  refine Table.entries_ofList ?_
  have hkeys : ((Json.sorted l).map (Prod.map id Value.ofData)).map Prod.fst =
      (Json.sorted l).map Prod.fst := by
    rw [List.map_map]
    rfl
  exact hkeys ▸ ((Json.sorted_perm l).map Prod.fst).nodup_iff.mpr (Table.ofList l).keys_nodup

/-- An object of scalars that has a meaning is read as form data with the entries of its meaning, if
in another order. -/
theorem exists_ofJson?_perm_ofData {members : List (List Json.Piece × Json)} {data : Json.Data}
    (hscalar : ∀ member ∈ members, member.2.isScalar = true)
    (hdata : Json.data? (.object members) = some data) :
    ∃ form, ofJson? (.object members) = some form ∧ form.entries.Perm (ofData data).entries := by
  rw [Json.data?, Option.ite_none_right_eq_some, Json.meaning?, Option.map_eq_some_iff] at hdata
  obtain ⟨-, l, hl, rfl⟩ := hdata
  have hmembers := members?_eq_map_meaningMembers? hscalar
  rw [hl, Option.map_some] at hmembers
  refine ⟨Table.ofList (l.map (Prod.map id Value.ofData)), ?_, ?_⟩
  · rw [ofJson?, Json.tableOf?, hmembers, Option.map_some]
  · rw [Table.entries_ofList_map, entries_ofData_sorted]
    exact ((Json.sorted_perm l).map _).symm

/-- Every value of form data that is read is the same as itself. -/
theorem same_self_of_mem_entries {members : List (List Json.Piece × Json)} {form : Form}
    (h : ofJson? (.object members) = some form) {entry : String × Value}
    (hentry : entry ∈ form.entries) : entry.2.same entry.2 = true := by
  obtain ⟨l, hl, rfl⟩ := Option.map_eq_some_iff.mp h
  have hwritten : entry ∈ l := Table.mem_of_get?_ofList (Table.get?_eq_some_iff.mpr hentry)
  obtain ⟨member, -, hvalue⟩ := Json.exists_read_of_mem_members? hl hwritten
  exact Value.same_self_of_ofJson? hvalue

end Form

/-- A text of an object without arrays and objects in it, which may repeat keys and write keys and
texts with escapes, and which has a meaning, is read as form data: with the same values under the
same names as the form data of its meaning. So the two are the same up to the order of names, and
every validator has the same outcome for both. -/
theorem Form.ofJson?_same_ofData {text : String} {document : Json} {data : Json.Data}
    (hread : Json.read text = some document) (hflat : document.isFlat = true)
    (hdata : document.data? = some data) :
    ∃ form, (Json.read text).bind Form.ofJson? = some form ∧
      form.same (Form.ofData data) = true ∧
      (∀ name, form.get? name = (Form.ofData data).get? name) ∧
      ∀ v : Validator, v.validate form.source = v.validate (Form.ofData data).source ∧
        (∀ rules messages, v.validateWith form.source rules messages =
          v.validateWith (Form.ofData data).source rules messages) ∧
        ∀ e, v.validateElement e form.source = v.validateElement e (Form.ofData data).source := by
  obtain ⟨members, rfl, hscalar⟩ := Json.exists_of_isFlat hflat
  obtain ⟨form, hform, hperm⟩ := exists_ofJson?_perm_ofData hscalar hdata
  have hsource := source_eq_of_perm hperm
  rw [hread, Option.bind_some]
  refine ⟨form, hform, same_of_perm hperm fun _ => same_self_of_mem_entries hform,
    Table.get?_eq_of_perm hperm, fun v => ?_⟩
  simp only [hsource, implies_true, and_self]

/-- A key that comes again, now written with an escape, keeps its place in one reading; in the other
the keys are in order. Its last value counts in both. -/
theorem Form.ofJson?_same_ofData_repeated :
    let text := "\x7b\"b\": 1.5e1, \"a\": \"\\u00e9\", \"\\u0062\": null\x7d"
    ∃ document data form, Json.read text = some document ∧ document.isFlat = true ∧
      document.data? = some data ∧ (Json.read text).bind Form.ofJson? = some form ∧
      form.same (Form.ofData data) = true ∧
      form.entries.map (fun entry => (entry.1, entry.2.toText)) = [("b", ""), ("a", "é")] := by
  intro text
  have hchecked : ((Json.read text).bind fun document =>
      if document.isFlat then document.data? else none).isSome = true := by decide +kernel
  have htexts : ((Json.read text).bind Form.ofJson?).map (fun form =>
      form.entries.map fun entry => (entry.1, entry.2.toText)) = some [("b", ""), ("a", "é")] := by
    decide +kernel
  obtain ⟨data, hdata⟩ := Option.isSome_iff_exists.mp hchecked
  obtain ⟨document, hread, hboth⟩ := Option.bind_eq_some_iff.mp hdata
  rw [Option.ite_none_right_eq_some] at hboth
  obtain ⟨hflat, hdata⟩ := hboth
  obtain ⟨form, hform, hsame, -⟩ := Form.ofJson?_same_ofData hread hflat hdata
  rw [hform] at htexts
  exact ⟨document, data, form, hread, hflat, hdata, hform, hsame, Option.some.inj htexts⟩

end FormCheck

import FormCheck.Table
import FormCheck.Proofs.FirstOccurrence
import Mathlib.Data.List.Forall2

/-!
# Tables as histories of entries

A table that was filled by entering pairs one after another is described by their list: its keys
are the first occurrences of the keys of the list, and under each key stands the value that was
entered last.

## Main definitions

* `Table.Rel` : two tables with the same keys and related values.

## Main results

* `Table.keys_ofList` : the keys, in order of first entry.
* `Table.get?_ofList` : the value under a key is the last one entered.
* `Table.entries_ofList` : a list with distinct keys is kept as it is.
* `Table.entries_ofList_map` : values may be changed before they are entered or after.
* `Table.get?_eq_some_iff` : what stands under a key is what its entry says.
* `Table.rel_ofList_filterMap` : related values that are entered in the same order.
-/

namespace FormCheck.Table

variable {α : Type*}

theorem ofList_concat (l : List (String × α)) (entry : String × α) :
    ofList (l ++ [entry]) = (ofList l).insert entry.1 entry.2 := by
  rw [ofList, ofList, insertAll, insertAll, List.foldl_concat]

theorem insertAll_append (t : Table α) (l l' : List (String × α)) :
    t.insertAll (l ++ l') = (t.insertAll l).insertAll l' :=
  List.foldl_append

/-- A new key comes last. -/
theorem upsert_of_notMem {key : String} {value : α} {l : List (String × α)}
    (h : key ∉ l.map Prod.fst) : upsert key value l = l ++ [(key, value)] := by
  induction l with
  | nil => rfl
  | cons entry l ih =>
    rw [List.map_cons, List.mem_cons, not_or] at h
    rw [upsert, if_neg fun e => h.1 e.symm, ih h.2, List.cons_append]

theorem entries_insert_of_notMem {t : Table α} {key : String} (h : key ∉ t.keys) (value : α) :
    (t.insert key value).entries = t.entries ++ [(key, value)] :=
  upsert_of_notMem h

/-- Of two values that are entered under one key in a row only the later one is left. -/
theorem upsert_upsert (key : String) (value later : α) (l : List (String × α)) :
    upsert key later (upsert key value l) = upsert key later l := by
  induction l with
  | nil => simp [upsert]
  | cons entry l ih =>
    by_cases h : entry.1 = key
    · simp [upsert, h]
    · simp [upsert, h, ih]

theorem insert_insert (t : Table α) (key : String) (value later : α) :
    (t.insert key value).insert key later = t.insert key later :=
  Table.ext (upsert_upsert key value later t.entries)

theorem upsert_of_lookup_eq_some {key : String} {value : α} {l : List (String × α)}
    (h : lookup key l = some value) : upsert key value l = l := by
  induction l with
  | nil => exact nomatch h
  | cons entry rest ih =>
    rw [lookup] at h
    rw [upsert]
    split at h
    · next hkey => rw [if_pos hkey, ← hkey, ← Option.some.inj h]
    · next hkey => rw [if_neg hkey, ih h]

/-- Entering what is there already changes nothing. -/
theorem insert_of_get?_eq_some {t : Table α} {key : String} {value : α}
    (h : t.get? key = some value) : t.insert key value = t :=
  Table.ext (upsert_of_lookup_eq_some h)

/-- A new key makes a table longer by one. -/
theorem size_insert_of_notMem {t : Table α} {key : String} (h : key ∉ t.keys) (value : α) :
    (t.insert key value).size = t.size + 1 := by
  rw [size, entries_insert_of_notMem h, List.length_append, List.length_singleton, size]

/-- The keys of a table that was filled from a list: each where it was entered first. -/
theorem keys_ofList (l : List (String × α)) :
    (ofList l).keys = (l.map Prod.fst).eraseDups := by
  induction l using List.reverseRecOn with
  | nil => rfl
  | append_singleton l entry ih =>
    rw [ofList_concat, keys_insert, List.map_append, List.map_singleton, eraseDups_concat]
    simp only [ih, List.mem_eraseDups]

/-- The value under a key of a table that was filled from a list: the last one entered. -/
theorem get?_ofList (l : List (String × α)) (key : String) :
    (ofList l).get? key = ((l.filter fun entry => entry.1 = key).getLast?).map Prod.snd := by
  induction l using List.reverseRecOn with
  | nil => rfl
  | append_singleton l entry ih =>
    rw [ofList_concat, get?_insert, ih, List.filter_append]
    by_cases h : key = entry.1
    · simp [h]
    · have h' : ¬ entry.1 = key := fun e => h e.symm
      simp [h, h']

/-- What stands under a key was entered. -/
theorem mem_of_get?_ofList {l : List (String × α)} {key : String} {value : α}
    (h : (ofList l).get? key = some value) : (key, value) ∈ l := by
  rw [get?_ofList] at h
  obtain ⟨entry, hlast, rfl⟩ := Option.map_eq_some_iff.mp h
  obtain ⟨hmem, hkey⟩ := List.mem_filter.mp (List.mem_of_getLast? hlast)
  rwa [← of_decide_eq_true hkey]

/-- Pairs with distinct keys are kept as they are. -/
theorem entries_ofList {l : List (String × α)} (h : (l.map Prod.fst).Nodup) :
    (ofList l).entries = l := by
  induction l using List.reverseRecOn with
  | nil => rfl
  | append_singleton l entry ih =>
    rw [List.map_append] at h
    have hl := ih h.of_append_left
    have hnew : entry.1 ∉ (ofList l).keys := by
      rw [keys, hl]
      exact fun hmem => List.disjoint_of_nodup_append h hmem (List.mem_singleton_self _)
    rw [ofList_concat, entries_insert_of_notMem hnew, hl]

theorem entries_singleton (entry : String × α) : (ofList [entry]).entries = [entry] := rfl

theorem upsert_map {β : Type*} (f : α → β) (key : String) (value : α) (l : List (String × α)) :
    upsert key (f value) (l.map (Prod.map id f)) = (upsert key value l).map (Prod.map id f) := by
  induction l with
  | nil => rfl
  | cons entry l ih =>
    by_cases h : entry.1 = key
    · simp [upsert, h]
    · simp [upsert, h, ih]

/-- Values may be changed before or after they are entered. -/
theorem entries_ofList_map {β : Type*} (f : α → β) (l : List (String × α)) :
    (ofList (l.map (Prod.map id f))).entries = (ofList l).entries.map (Prod.map id f) := by
  induction l using List.reverseRecOn with
  | nil => rfl
  | append_singleton l entry ih =>
    rw [List.map_append, List.map_singleton, ofList_concat, ofList_concat]
    simp only [insert, ih]
    exact upsert_map f entry.1 entry.2 _

theorem isEmpty_eq_isEmpty_keys (t : Table α) : t.isEmpty = t.keys.isEmpty := by
  rw [isEmpty, keys, List.isEmpty_map]

theorem isEmpty_iff {t : Table α} : t.isEmpty = true ↔ t = empty := by
  rw [isEmpty, List.isEmpty_iff]
  exact ⟨fun h => Table.ext h, fun h => congrArg entries h⟩

/-- A table that was filled from a list is empty only if the list is. -/
theorem isEmpty_ofList (l : List (String × α)) : (ofList l).isEmpty = l.isEmpty := by
  rw [isEmpty_eq_isEmpty_keys, keys_ofList]
  cases l with
  | nil => rfl
  | cons entry l =>
    rw [List.map_cons, List.eraseDups_cons]
    rfl

/-- The entries of a list begin with that of its first element, if it has one. -/
theorem filterMap_cons_eq_append {β γ : Type*} (f : β → Option γ) (b : β) (l : List β) :
    (b :: l).filterMap f = (f b).toList ++ l.filterMap f := by
  simp only [List.filterMap_eq_flatMap_toList, List.flatMap_cons]

/-- If an element of a list has an entry only under its own key, the entries have keys of elements
and are in the same order. -/
theorem map_fst_filterMap_sublist {β : Type*} {f : β → Option (String × α)}
    {key : β → Option String} (h : ∀ b, ∀ entry ∈ f b, key b = some entry.1) (l : List β) :
    ((l.filterMap f).map Prod.fst).Sublist (l.filterMap key) := by
  induction l with
  | nil => exact List.Sublist.slnil
  | cons b l ih =>
    cases hentry : f b with
    | none =>
      rw [List.filterMap_cons_none hentry]
      exact ih.trans ((List.sublist_cons_self b l).filterMap key)
    | some entry =>
      rw [List.filterMap_cons_some hentry, List.filterMap_cons_some (h b entry hentry)]
      exact ih.cons_cons entry.1

/-! ### Reading entries -/

/-- If no two pairs have the same key, a key leads to a value only by their own pair. -/
theorem lookup_eq_some_iff {l : List (String × α)} (h : (l.map Prod.fst).Nodup) {key : String}
    {value : α} : lookup key l = some value ↔ (key, value) ∈ l := by
  induction l with
  | nil => simp [lookup]
  | cons entry l ih =>
    obtain ⟨k, a⟩ := entry
    rw [List.map_cons, List.nodup_cons] at h
    rw [lookup, List.mem_cons, Prod.mk.injEq]
    by_cases hk : k = key
    · subst hk
      have hother : (k, value) ∉ l := fun hmem => h.1 (List.mem_map.mpr ⟨_, hmem, rfl⟩)
      simp [hother, eq_comm]
    · simp [hk, Ne.symm hk, ih h.2]

theorem get?_eq_some_iff {t : Table α} {key : String} {value : α} :
    t.get? key = some value ↔ (key, value) ∈ t.entries :=
  lookup_eq_some_iff t.keys_nodup

/-- The keys of a table are those under which a value stands. -/
theorem mem_keys_iff {t : Table α} {key : String} :
    key ∈ t.keys ↔ ∃ value, t.get? key = some value := by
  simp only [get?_eq_some_iff, keys, List.mem_map, Prod.exists, exists_and_right, exists_eq_right]

theorem get?_eq_none_of_notMem {t : Table α} {key : String} (h : key ∉ t.keys) :
    t.get? key = none := by
  rw [mem_keys_iff, not_exists] at h
  exact Option.eq_none_iff_forall_ne_some.mpr h

/-- The order of entries does not matter for what stands under a key. -/
theorem get?_eq_of_perm {s t : Table α} (h : s.entries.Perm t.entries) (key : String) :
    s.get? key = t.get? key :=
  Option.ext fun value => by rw [get?_eq_some_iff, get?_eq_some_iff, h.mem_iff]

/-! ### Related tables -/

/-- Two tables have the same keys in the same order, and related values under each of them. -/
structure Rel {β : Type*} (R : String → α → β → Prop) (s : Table α) (t : Table β) : Prop where
  /-- The keys are the same. -/
  keys_eq : s.keys = t.keys
  /-- The values are related. -/
  rel : ∀ key a b, s.get? key = some a → t.get? key = some b → R key a b

section Rel

variable {β : Type*} {R : String → α → β → Prop} {s : Table α} {t : Table β}

theorem Rel.isEmpty_eq (h : Rel R s t) : s.isEmpty = t.isEmpty := by
  rw [isEmpty_eq_isEmpty_keys, isEmpty_eq_isEmpty_keys, h.keys_eq]

/-- Under every key stand related values, or there is none in either table. -/
theorem Rel.rel_get? (h : Rel R s t) (key : String) :
    Option.Rel (R key) (s.get? key) (t.get? key) := by
  by_cases hkey : key ∈ s.keys
  · obtain ⟨a, ha⟩ := mem_keys_iff.mp hkey
    obtain ⟨b, hb⟩ := mem_keys_iff.mp (h.keys_eq ▸ hkey)
    rw [ha, hb]
    exact .some (h.rel key a b ha hb)
  · rw [get?_eq_none_of_notMem hkey, get?_eq_none_of_notMem (h.keys_eq ▸ hkey)]
    exact .none

theorem rel_empty : Rel R empty empty := ⟨rfl, fun _ _ _ ha _ => nomatch ha⟩

theorem Rel.insert (h : Rel R s t) {key : String} {a : α} {b : β} (hab : R key a b) :
    Rel R (s.insert key a) (t.insert key b) where
  keys_eq := by rw [keys_insert, keys_insert, h.keys_eq]
  rel other a' b' ha hb := by
    rw [get?_insert] at ha hb
    by_cases hother : other = key
    · rw [if_pos hother] at ha hb
      rwa [hother, ← Option.some.inj ha, ← Option.some.inj hb]
    · rw [if_neg hother] at ha hb
      exact h.rel other a' b' ha hb

/-- Entering related values keeps tables related. -/
theorem Rel.insertAll (h : Rel R s t) {l : List (String × α)} {l' : List (String × β)}
    (hl : List.Forall₂ (fun a b => a.1 = b.1 ∧ R a.1 a.2 b.2) l l') :
    Rel R (s.insertAll l) (t.insertAll l') := by
  induction hl generalizing s t with
  | nil => exact h
  | @cons entry entry' _ _ hentry _ ih =>
    obtain ⟨hkey, hvalues⟩ := hentry
    have hinsert := h.insert hvalues
    rw [hkey] at hinsert
    rw [insertAll, insertAll, List.foldl_cons, List.foldl_cons, hkey]
    exact ih hinsert

/-- If the elements of a list have related entries in two ways, the tables filled with them are
related. -/
theorem rel_ofList_filterMap {γ : Type*} {f : γ → Option (String × α)}
    {g : γ → Option (String × β)} {l : List γ}
    (h : ∀ c ∈ l, Option.Rel (fun a b => a.1 = b.1 ∧ R a.1 a.2 b.2) (f c) (g c)) :
    Rel R (ofList (l.filterMap f)) (ofList (l.filterMap g)) := by
  refine rel_empty.insertAll ?_
  refine List.rel_filterMap (R := fun c d => c = d ∧ c ∈ l) ?_ ?_
  · rintro c _ ⟨rfl, hc⟩
    exact h c hc
  · exact List.forall₂_same.mpr fun c hc => ⟨rfl, hc⟩

theorem rel_ofList_toList {entry : Option (String × α)} {entry' : Option (String × β)}
    (h : Option.Rel (fun a b => a.1 = b.1 ∧ R a.1 a.2 b.2) entry entry') :
    Rel R (ofList entry.toList) (ofList entry'.toList) := by
  refine rel_empty.insertAll ?_
  cases h with
  | none => exact .nil
  | some h => exact .cons h .nil

end Rel

end FormCheck.Table

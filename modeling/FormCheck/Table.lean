/-!
# Ordered tables

A table maps text keys to values and remembers the order in which its keys were first entered.
Entering a key again keeps its place and replaces its value. Field rules, message templates, form
data and error reports are all tables, so the order of their answers is the order of entry.

## Main definitions

* `Table` : entries with pairwise distinct keys, in order of first entry.
* `Table.insert`, `Table.get?`, `Table.ofList` : entering, looking up, entering one after another.

## Main results

* `Table.get?_insert` : after an insertion the key has the new value and no other key changes.
* `Table.keys_insert` : an insertion appends a new key and otherwise keeps the keys as they are.
-/

namespace FormCheck

universe u

/-- Entries with pairwise distinct keys, in order of first entry. -/
structure Table (α : Type u) where
  /-- The keys with their values, in order of first entry. -/
  entries : List (String × α)
  /-- No key occurs twice. -/
  keys_nodup : (entries.map Prod.fst).Nodup

namespace Table

variable {α : Type u}

/-! ### Entries -/

/-- Puts `value` under `key` in a list of entries: in place when the key is there, and at the end
when it is not. -/
def upsert (key : String) (value : α) : List (String × α) → List (String × α)
  | [] => [(key, value)]
  | entry :: rest =>
    if entry.1 = key then (key, value) :: rest else entry :: upsert key value rest

/-- The value of the first entry under `key`. -/
def lookup (key : String) : List (String × α) → Option α
  | [] => none
  | entry :: rest => if entry.1 = key then some entry.2 else lookup key rest

/-- The keys after an entry: a new key comes last. -/
theorem map_fst_upsert (key : String) (value : α) (l : List (String × α)) :
    (upsert key value l).map Prod.fst =
      if key ∈ l.map Prod.fst then l.map Prod.fst else l.map Prod.fst ++ [key] := by
  induction l with
  | nil => simp [upsert]
  | cons entry rest ih =>
    by_cases h : entry.1 = key
    · simp [upsert, h]
    · have h' : key ≠ entry.1 := fun e => h e.symm
      simp only [upsert, if_neg h, List.map_cons, ih, List.mem_cons, h', false_or]
      split <;> rfl

/-- The new value is found under its key, and nothing else changes. -/
theorem lookup_upsert (key other : String) (value : α) (l : List (String × α)) :
    lookup other (upsert key value l) = if other = key then some value else lookup other l := by
  induction l with
  | nil => simp [upsert, lookup, eq_comm]
  | cons entry rest ih =>
    by_cases h : entry.1 = key
    · by_cases ho : key = other
      · simp [upsert, lookup, h, ho]
      · have ho' : other ≠ key := fun e => ho e.symm
        simp [upsert, lookup, h, ho, ho']
    · by_cases ho : entry.1 = other
      · have hne : other ≠ key := fun e => h (ho.trans e)
        simp [upsert, lookup, ho, hne]
      · simp [upsert, lookup, h, ho, ih]

/-! ### Building and reading -/

/-- The table without entries. -/
def empty : Table α := ⟨[], List.nodup_nil⟩

instance : EmptyCollection (Table α) := ⟨empty⟩

instance : Inhabited (Table α) := ⟨empty⟩

/-- Two tables with the same entries are the same. -/
@[ext] theorem ext {s t : Table α} (h : s.entries = t.entries) : s = t := by
  cases s
  cases t
  simp_all

instance [DecidableEq α] : DecidableEq (Table α) := fun _ _ =>
  decidable_of_iff _ ⟨Table.ext, congrArg Table.entries⟩

/-- Enters `value` under `key`: a known key keeps its place, a new one goes to the end. -/
def insert (t : Table α) (key : String) (value : α) : Table α where
  entries := upsert key value t.entries
  keys_nodup := by
    rw [map_fst_upsert]
    split
    · exact t.keys_nodup
    · next h =>
      refine List.nodup_append.2 ⟨t.keys_nodup, by simp, ?_⟩
      intro k hk k' hk' e
      simp only [List.mem_singleton] at hk'
      exact h (hk' ▸ e ▸ hk)

/-- Enters all pairs of `l` after what `t` holds, one after another. -/
def insertAll (t : Table α) (l : List (String × α)) : Table α :=
  l.foldl (fun t entry => t.insert entry.1 entry.2) t

/-- The table of the pairs of `l`, entered one after another. -/
def ofList (l : List (String × α)) : Table α :=
  empty.insertAll l

/-- The pairs of a table, in order. -/
def toList (t : Table α) : List (String × α) := t.entries

/-- The value under `key`, if there is one. -/
def get? (t : Table α) (key : String) : Option α := lookup key t.entries

/-- Whether `key` has a value. -/
def contains (t : Table α) (key : String) : Bool := (t.get? key).isSome

/-- The keys, in order. -/
def keys (t : Table α) : List String := t.entries.map Prod.fst

/-- The values, in the order of their keys. -/
def values (t : Table α) : List α := t.entries.map Prod.snd

/-- The number of keys. -/
def size (t : Table α) : Nat := t.entries.length

/-- Whether there is no key. -/
def isEmpty (t : Table α) : Bool := t.entries.isEmpty

/-- The table without entries holds no key. -/
@[simp] theorem get?_empty (key : String) : (empty : Table α).get? key = none := rfl

/-- After an insertion the key has the new value, and no other key changes. -/
theorem get?_insert (t : Table α) (key other : String) (value : α) :
    (t.insert key value).get? other = if other = key then some value else t.get? other :=
  lookup_upsert key other value t.entries

/-- An insertion appends a new key and otherwise keeps the keys as they are. -/
theorem keys_insert (t : Table α) (key : String) (value : α) :
    (t.insert key value).keys = if key ∈ t.keys then t.keys else t.keys ++ [key] :=
  map_fst_upsert key value t.entries

end Table

end FormCheck

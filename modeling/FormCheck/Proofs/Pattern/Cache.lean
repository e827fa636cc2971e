import FormCheck.Pattern.Cache
import FormCheck.Proofs.Table

/-!
# The cache of compiled patterns is not seen

Whoever asks a cache whether a pattern occurs gets the answer that there is without one, whatever
has been asked before. What the cache holds are the pattern texts of the most recent calls, without
their slashes, each with what it compiles to. Earlier calls are forgotten when the cache is full and
a pattern comes that is not in it, so that there are never more patterns than it may hold.

## Main definitions

* `Pattern.Call` : the question whether a pattern occurs in a value.
* `Pattern.Cache.run` : the answers to calls that are made one after another.
* `Pattern.Cache.Recalls` : a cache holds the patterns of the most recent calls.
* `Pattern.Cache.patternCount` : the number of different patterns that calls ask for.

## Main results

* `Pattern.Cache.Recalls.occurs` : one call keeps a cache in order and is answered as without it.
* `Pattern.Cache.Recalls.run` : so do any number of calls.
* `Pattern.Cache.compiled_run_of_le` : nothing is forgotten while all patterns fit in the cache.
* `Pattern.Cache.occurs_run` : the cache and the answer after any calls.
-/

namespace FormCheck.Pattern

/-- The question whether a pattern occurs in a value. -/
structure Call where
  /-- The text of the pattern, between slashes or not. -/
  text : String
  /-- The value. -/
  value : String

namespace Call

/-- The text of the pattern without its slashes. -/
def key (call : Call) : String := stripSlashes call.text

/-- The text without its slashes, with what it compiles to. -/
def entry (call : Call) : String × Option Pattern := (call.key, compile? call.key)

/-- The answer without a cache. -/
def answer (call : Call) : Bool := Pattern.occurs call.text call.value

end Call

namespace Cache

variable {calls : List Call} {cache : Cache}

/-! ### What a cache holds -/

/-- A cache holds what became of the patterns of the most recent calls, and no more than it may
hold. -/
structure Recalls (calls : List Call) (cache : Cache) : Prop where
  /-- There are no more patterns than the cache may hold. -/
  size_le : cache.compiled.size ≤ capacity
  /-- They are those of the last so many calls. -/
  exists_recent : ∃ recent, recent <:+ calls ∧
    cache.compiled = Table.ofList (recent.map Call.entry)

theorem recalls_empty : Recalls [] empty :=
  ⟨Nat.zero_le capacity, [], List.suffix_rfl, rfl⟩

theorem eq_compile?_of_get?_ofList {text : String} {pattern : Option Pattern}
    (hget : (Table.ofList (calls.map Call.entry)).get? text = some pattern) :
    pattern = compile? text ∧ ∃ call ∈ calls, text = call.key := by
  obtain ⟨call, hcall, hentry⟩ := List.mem_map.mp (Table.mem_of_get?_ofList hget)
  obtain ⟨rfl, rfl⟩ := Prod.mk.inj hentry
  exact ⟨rfl, call, hcall, rfl⟩

/-- A pattern text in the cache stands there with what it compiles to, and a call has asked for
it. -/
theorem Recalls.eq_compile?_of_get? (h : Recalls calls cache) {text : String}
    {pattern : Option Pattern} (hget : cache.compiled.get? text = some pattern) :
    pattern = compile? text ∧ ∃ call ∈ calls, text = call.key := by
  obtain ⟨recent, hsuffix, hcompiled⟩ := h.exists_recent
  obtain ⟨hpattern, call, hcall, hkey⟩ := eq_compile?_of_get?_ofList (hcompiled ▸ hget)
  exact ⟨hpattern, call, hsuffix.subset hcall, hkey⟩

/-! ### One call -/

/-- A pattern text is found in the cache, or it is compiled and put into a cache that has room. -/
theorem fetch_cases (cache : Cache) (text : String) :
    (∃ pattern, cache.compiled.get? text = some pattern ∧ cache.fetch text = (pattern, cache)) ∨
    (text ∉ cache.compiled.keys ∧ cache.fetch text =
      (compile? text, ⟨cache.makeRoom.compiled.insert text (compile? text)⟩)) := by
  cases hget : cache.compiled.get? text with
  | some pattern => exact .inl ⟨pattern, rfl, by rw [fetch, hget]⟩
  | none =>
    refine .inr ⟨fun hmem => ?_, by rw [fetch, hget]⟩
    obtain ⟨pattern, hsome⟩ := Table.mem_keys_iff.mp hmem
    rw [hget] at hsome
    exact nomatch hsome

/-- A cache is emptied when it is full, and otherwise stays as it is. -/
theorem makeRoom_cases (cache : Cache) :
    (cache.compiled.size < capacity ∧ cache.makeRoom = cache) ∨
      (capacity ≤ cache.compiled.size ∧ cache.makeRoom = empty) := by
  unfold makeRoom
  split
  · next hfull => exact .inr ⟨hfull, rfl⟩
  · next hroom => exact .inl ⟨Nat.lt_of_not_le hroom, rfl⟩

/-- With the pattern of one more call the patterns are still those of the last so many calls. -/
theorem Recalls.exists_recent_insert (h : Recalls calls cache) (call : Call) :
    ∃ recent, recent <:+ calls ++ [call] ∧
      cache.compiled.insert call.key (compile? call.key) =
        Table.ofList (recent.map Call.entry) := by
  obtain ⟨recent, hsuffix, hcompiled⟩ := h.exists_recent
  refine ⟨recent ++ [call], (List.suffix_append_inj_of_length_eq rfl).mpr ⟨hsuffix, rfl⟩, ?_⟩
  rw [List.map_append, List.map_singleton, Table.ofList_concat, ← hcompiled]
  rfl

/-- After a call its pattern is in the cache, beside patterns of the calls that came just before. -/
theorem Recalls.insert_makeRoom (h : Recalls calls cache) {call : Call}
    (hnew : call.key ∉ cache.compiled.keys) :
    Recalls (calls ++ [call])
      ⟨cache.makeRoom.compiled.insert call.key (compile? call.key)⟩ := by
  rcases cache.makeRoom_cases with ⟨hroom, hmake⟩ | ⟨-, hmake⟩
  · rw [hmake]
    refine ⟨?_, h.exists_recent_insert call⟩
    rw [Table.size_insert_of_notMem hnew]
    exact hroom
  · rw [hmake]
    have hone : 1 ≤ capacity := by decide
    exact ⟨hone, [call], List.suffix_append calls [call], rfl⟩

/-- A call gets from the cache what its pattern compiles to, and leaves it there. -/
theorem Recalls.fetch (h : Recalls calls cache) (call : Call) :
    (cache.fetch call.key).1 = compile? call.key ∧
      Recalls (calls ++ [call]) (cache.fetch call.key).2 ∧
      (cache.fetch call.key).2.compiled.get? call.key = some (compile? call.key) := by
  rcases cache.fetch_cases call.key with ⟨pattern, hget, hfetch⟩ | ⟨hnew, hfetch⟩
  · obtain ⟨rfl, -⟩ := h.eq_compile?_of_get? hget
    have hsame := Table.insert_of_get?_eq_some hget
    rw [hfetch]
    exact ⟨rfl, ⟨h.size_le, hsame ▸ h.exists_recent_insert call⟩, hget⟩
  · rw [hfetch]
    refine ⟨rfl, h.insert_makeRoom hnew, ?_⟩
    rw [Table.get?_insert, if_pos rfl]

/-- A call keeps a cache in order, and is answered as without it. -/
theorem Recalls.occurs (h : Recalls calls cache) (call : Call) :
    (cache.occurs call.text call.value).1 = call.answer ∧
      Recalls (calls ++ [call]) (cache.occurs call.text call.value).2 ∧
      (cache.occurs call.text call.value).2.compiled.get? call.key =
        some (compile? call.key) := by
  obtain ⟨hpattern, hrecalls, hget⟩ := h.fetch call
  refine ⟨?_, hrecalls, hget⟩
  rw [Call.answer, Pattern.occurs, ← Call.key, ← hpattern]
  rfl

/-! ### Runs -/

/-- The answers to calls that are made one after another, with the cache after all of them. -/
def run (cache : Cache) : List Call → List Bool × Cache
  | [] => ([], cache)
  | call :: calls =>
    let (answer, next) := cache.occurs call.text call.value
    let (answers, last) := run next calls
    (answer :: answers, last)

/-- Calls are answered as without a cache, and keep it in order. -/
theorem Recalls.run (h : Recalls calls cache) (later : List Call) :
    (cache.run later).1 = later.map Call.answer ∧
      Recalls (calls ++ later) (cache.run later).2 := by
  induction later generalizing calls cache with
  | nil =>
    rw [List.append_nil]
    exact ⟨rfl, h⟩
  | cons call later ih =>
    obtain ⟨hanswer, hrecalls, -⟩ := h.occurs call
    obtain ⟨hanswers, hlast⟩ := ih hrecalls
    rw [List.append_assoc] at hlast
    refine ⟨?_, hlast⟩
    rw [List.map_cons, ← hanswer, ← hanswers]
    rfl

/-! ### Few patterns -/

/-- The number of different patterns that calls ask for. -/
def patternCount (calls : List Call) : Nat := (calls.map Call.key).eraseDups.length

theorem patternCount_le_append (calls later : List Call) :
    patternCount calls ≤ patternCount (calls ++ later) := by
  rw [patternCount, patternCount, List.map_append, List.eraseDups_append, List.length_append]
  exact Nat.le_add_right _ _

section NothingForgotten

variable (h : cache.compiled = Table.ofList (calls.map Call.entry))

include h

/-- In a cache that has forgotten nothing each pattern text stands where it came first. -/
theorem keys_of_compiled_eq : cache.compiled.keys = (calls.map Call.key).eraseDups := by
  have hkeys : (calls.map Call.entry).map Prod.fst = calls.map Call.key := List.map_map ..
  rw [← hkeys, ← Table.keys_ofList, ← h]

/-- A cache that has forgotten nothing has the patterns of all calls. -/
theorem get?_of_compiled_eq {call : Call} (hcall : call ∈ calls) :
    cache.compiled.get? call.key = some (compile? call.key) := by
  have hmem : call.key ∈ cache.compiled.keys := by
    rw [keys_of_compiled_eq h, List.mem_eraseDups]
    exact List.mem_map_of_mem hcall
  obtain ⟨pattern, hget⟩ := Table.mem_keys_iff.mp hmem
  obtain ⟨rfl, -⟩ := eq_compile?_of_get?_ofList (h ▸ hget)
  exact hget

/-- A cache that has forgotten nothing forgets nothing when its patterns and one more fit in. -/
theorem compiled_occurs_of_le {call : Call} (hfew : patternCount (calls ++ [call]) ≤ capacity) :
    (cache.occurs call.text call.value).2.compiled =
      Table.ofList ((calls ++ [call]).map Call.entry) := by
  change (cache.fetch call.key).2.compiled = _
  rw [List.map_append, List.map_singleton, Table.ofList_concat, ← h]
  rcases cache.fetch_cases call.key with ⟨pattern, hget, hfetch⟩ | ⟨hnew, hfetch⟩
  · obtain ⟨rfl, -⟩ := eq_compile?_of_get?_ofList (h ▸ hget)
    rw [hfetch]
    exact (Table.insert_of_get?_eq_some hget).symm
  · have hkeys := keys_of_compiled_eq h
    have hsize : cache.compiled.size + 1 ≤ capacity := by
      rw [hkeys, List.mem_eraseDups] at hnew
      rw [patternCount, List.map_append, List.map_singleton, eraseDups_concat, if_neg hnew,
        ← hkeys, List.length_append, Table.keys, List.length_map] at hfew
      exact hfew
    rcases cache.makeRoom_cases with ⟨-, hmake⟩ | ⟨hfull, -⟩
    · rw [hfetch, hmake]
      rfl
    · omega

end NothingForgotten

/-- Nothing is forgotten while all patterns fit in the cache. -/
theorem compiled_run_of_le (h : cache.compiled = Table.ofList (calls.map Call.entry))
    {later : List Call} (hfew : patternCount (calls ++ later) ≤ capacity) :
    (cache.run later).2.compiled = Table.ofList ((calls ++ later).map Call.entry) := by
  induction later generalizing calls cache with
  | nil =>
    rw [List.append_nil]
    exact h
  | cons call later ih =>
    have hcalls : calls ++ call :: later = (calls ++ [call]) ++ later := List.append_cons ..
    rw [hcalls] at hfew ⊢
    have hnext := Nat.le_trans (patternCount_le_append (calls ++ [call]) later) hfew
    exact ih (compiled_occurs_of_le h hnext) hfew

/-- Any calls to the empty cache are answered as without it, and so is the next one. The cache then
has at most 256 patterns, that of this call among them, and each is the pattern text of some call,
without its slashes, with what it compiles to. As long as there have been no more than 256 different
patterns, it has all of them. -/
theorem occurs_run (calls : List Call) (call : Call) :
    let before := empty.run calls
    let outcome := before.2.occurs call.text call.value
    before.1 = calls.map (fun earlier => Pattern.occurs earlier.text earlier.value) ∧
      outcome.1 = Pattern.occurs call.text call.value ∧
      outcome.2.compiled.size ≤ 256 ∧
      outcome.2.compiled.get? (stripSlashes call.text) =
        some (compile? (stripSlashes call.text)) ∧
      (∀ entry ∈ outcome.2.compiled.entries, entry.2 = compile? entry.1 ∧
        ∃ asked ∈ calls ++ [call], entry.1 = stripSlashes asked.text) ∧
      (patternCount (calls ++ [call]) ≤ 256 → ∀ asked ∈ calls ++ [call],
        outcome.2.compiled.get? (stripSlashes asked.text) =
          some (compile? (stripSlashes asked.text))) := by
  intro before outcome
  obtain ⟨hanswers, hbefore⟩ := recalls_empty.run calls
  obtain ⟨hanswer, hrecalls, hget⟩ := hbefore.occurs call
  refine ⟨hanswers, hanswer, hrecalls.size_le, hget, fun entry hentry => ?_, fun hfew => ?_⟩
  · exact hrecalls.eq_compile?_of_get? (Table.get?_eq_some_iff.mpr hentry)
  · have hempty : empty.compiled = Table.ofList (([] : List Call).map Call.entry) := rfl
    have hcalls := Nat.le_trans (patternCount_le_append calls [call]) hfew
    have hall : before.2.compiled = Table.ofList (calls.map Call.entry) :=
      compiled_run_of_le hempty hcalls
    exact fun asked hasked => get?_of_compiled_eq (compiled_occurs_of_le hall hfew) hasked

/-- A pattern between slashes and without them, and one that does not compile. -/
theorem occurs_run_slashes :
    let calls : List Call := [⟨"/b+/", "aB"⟩, ⟨"(", "("⟩]
    let outcome := (empty.run calls).2.occurs "b+" "a"
    (empty.run calls).1 = [true, false] ∧ outcome.1 = false ∧
      patternCount (calls ++ [⟨"b+", "a"⟩]) ≤ 256 ∧ outcome.2.compiled.keys = ["b+", "("] ∧
      outcome.2.compiled.get? "(" = some none := by
  intro calls outcome
  obtain ⟨hanswers, hanswer, -, -, -, hfew⟩ := occurs_run calls ⟨"b+", "a"⟩
  have hcount : patternCount (calls ++ [⟨"b+", "a"⟩]) ≤ 256 := by decide
  have hparen : compile? "(" = none := by decide +kernel
  refine ⟨hanswers.trans (by decide +kernel), hanswer.trans (by decide +kernel), hcount,
    by decide +kernel, ?_⟩
  rw [← hparen]
  exact hfew hcount ⟨"(", "("⟩ (by simp [calls])

end Cache

end FormCheck.Pattern

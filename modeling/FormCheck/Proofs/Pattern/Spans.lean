import FormCheck.Pattern.Machine
import Mathlib.Logic.Relation

/-!
# The texts that a pattern spans

A pattern spans the text between two places. What it spans is defined by recursion on the pattern,
without machines: a class spans one of its characters, a condition on a place spans nothing there,
and the other patterns put together what their parts span.

A place is given by the character before it and the text after it, because the conditions on a
place look at the characters on both sides.

## Main definitions

* `Pattern.Place` : a place in a text.
* `Pattern.Times` : a relation between places taken a number of times.
* `Pattern.Expr.Spans` : a pattern spans the text between two places.
* `Pattern.Expr.OccursIn` : a pattern spans some part of a text.

## Main results

* `Pattern.times_succ_iff_last`, `Pattern.times_add_iff` : repetitions split at either end.
-/

namespace FormCheck.Pattern

/-- A place in a text: the character before it, if there is one, and the text after it. -/
structure Place where
  /-- The character before the place. -/
  before : Option Char
  /-- The text after the place. -/
  after : List Char

namespace Place

/-- The start of a text. -/
def start (s : List Char) : Place := ⟨none, s⟩

/-- The second place comes one character after the first. -/
def Next (p q : Place) : Prop := ∃ c, p.after = c :: q.after ∧ q.before = some c

/-- The second place comes one character of a set after the first. -/
def Reads (set : CodeSet) (p q : Place) : Prop :=
  p.Next q ∧ ∃ c ∈ q.before, set.contains c.toNat = true

/-- The second place is the first one or comes after it. -/
def Leads (p q : Place) : Prop := Relation.ReflTransGen Next p q

variable {p q : Place} {s : List Char}

/-- At the end of a text no character can be read. -/
theorem not_reads_nil {set : CodeSet} {before : Option Char} : ¬Reads set ⟨before, []⟩ q := by
  rintro ⟨⟨c, hc, -⟩, -⟩
  cases hc

/-- The character after a place can be read if it is in the set. -/
theorem reads_cons_iff {set : CodeSet} {before : Option Char} {c : Char} :
    Reads set ⟨before, c :: s⟩ q ↔ q = ⟨some c, s⟩ ∧ set.contains c.toNat = true := by
  obtain ⟨before', after⟩ := q
  constructor
  · rintro ⟨⟨d, hd, rfl⟩, d', hd', hset⟩
    obtain ⟨rfl, rfl⟩ := List.cons.inj hd
    obtain rfl := Option.mem_some.mp hd'
    exact ⟨rfl, hset⟩
  · rintro ⟨hq, hset⟩
    cases hq
    exact ⟨⟨c, rfl, rfl⟩, c, rfl, hset⟩

/-- Only the first place of a text has no character before it. -/
theorem Leads.eq_start (h : (start s).Leads p) (hp : p.before = none) : p = start s := by
  rcases Relation.ReflTransGen.cases_tail h with rfl | ⟨q, -, c, -, hc⟩
  · rfl
  · rw [hp] at hc
    cases hc

/-- The places from the end of the text on. -/
theorem leads_nil_iff {before : Option Char} : Leads ⟨before, []⟩ p ↔ p = ⟨before, []⟩ := by
  refine ⟨fun h => ?_, fun h => h ▸ .refl⟩
  rcases Relation.ReflTransGen.cases_head h with rfl | ⟨q, ⟨c, hc, -⟩, -⟩
  · rfl
  · cases hc

/-- The places from one with a character after it on. -/
theorem leads_cons_iff {before : Option Char} {c : Char} :
    Leads ⟨before, c :: s⟩ p ↔ p = ⟨before, c :: s⟩ ∨ Leads ⟨some c, s⟩ p := by
  constructor
  · intro h
    rcases Relation.ReflTransGen.cases_head h with rfl | ⟨⟨before', after⟩, ⟨d, hd, hb⟩, hq⟩
    · exact .inl rfl
    · obtain ⟨rfl, rfl⟩ := List.cons.inj hd
      obtain rfl : before' = some c := hb
      exact .inr hq
  · rintro (rfl | h)
    · exact .refl
    · exact .head ⟨c, rfl, rfl⟩ h

end Place

/-! ### Repetitions -/

/-- A relation between places taken a number of times. -/
def Times (r : Place → Place → Prop) : (count : Nat) → Place → Place → Prop
  | 0, p, q => p = q
  | count + 1, p, q => ∃ middle, r p middle ∧ Times r count middle q

/-- A relation between places taken at most a number of times. -/
def UpTo (r : Place → Place → Prop) (bound : Nat) (p q : Place) : Prop :=
  ∃ count ≤ bound, Times r count p q

section Times

variable {r : Place → Place → Prop} {p q : Place}

/-- The last time may be split off as well as the first one. -/
theorem times_succ_iff_last (count : Nat) :
    Times r (count + 1) p q ↔ ∃ middle, Times r count p middle ∧ r middle q := by
  induction count generalizing p with
  | zero => simp [Times]
  | succ count ih =>
    rw [Times]
    simp only [ih]
    constructor
    · rintro ⟨m, hm, l, hl, hlast⟩
      exact ⟨l, ⟨m, hm, hl⟩, hlast⟩
    · rintro ⟨l, ⟨m, hm, hl⟩, hlast⟩
      exact ⟨m, hm, l, hl, hlast⟩

/-- Taking a relation a number of times and then a number of times more. -/
theorem times_add_iff (first second : Nat) :
    Times r (first + second) p q ↔ ∃ middle, Times r first p middle ∧ Times r second middle q := by
  induction first generalizing p with
  | zero => simp [Times]
  | succ first ih =>
    rw [Nat.succ_add]
    simp only [Times, ih]
    constructor
    · rintro ⟨m, hm, l, hl, hlast⟩
      exact ⟨l, ⟨m, hm, hl⟩, hlast⟩
    · rintro ⟨l, ⟨m, hm, hl⟩, hlast⟩
      exact ⟨m, hm, l, hl, hlast⟩

/-- A number of times, and then as many more as admitted. -/
theorem exists_times_add_iff (first : Nat) (admits : Nat → Prop) :
    (∃ middle, Times r first p middle ∧ ∃ more, admits more ∧ Times r more middle q) ↔
      ∃ count, first ≤ count ∧ admits (count - first) ∧ Times r count p q := by
  constructor
  · rintro ⟨middle, hfirst, more, hadmits, hmore⟩
    refine ⟨first + more, Nat.le_add_right _ _, ?_, (times_add_iff _ _).mpr ⟨_, hfirst, hmore⟩⟩
    rwa [Nat.add_sub_cancel_left]
  · rintro ⟨count, hle, hadmits, htimes⟩
    obtain ⟨more, rfl⟩ := Nat.exists_eq_add_of_le hle
    rw [Nat.add_sub_cancel_left] at hadmits
    obtain ⟨middle, hfirst, hmore⟩ := (times_add_iff _ _).mp htimes
    exact ⟨middle, hfirst, more, hadmits, hmore⟩

theorem upTo_zero_iff : UpTo r 0 p q ↔ p = q := by
  simp [UpTo, Times]

/-- Once more at most: not at all, or once and then as often as before. -/
theorem upTo_succ_iff (bound : Nat) :
    UpTo r (bound + 1) p q ↔ (∃ middle, r p middle ∧ UpTo r bound middle q) ∨ p = q := by
  constructor
  · rintro ⟨_ | count, hle, htimes⟩
    · exact .inr htimes
    · obtain ⟨middle, hr, htimes⟩ := htimes
      exact .inl ⟨middle, hr, count, Nat.le_of_succ_le_succ hle, htimes⟩
  · rintro (⟨middle, hr, count, hle, htimes⟩ | rfl)
    · exact ⟨count + 1, Nat.succ_le_succ hle, middle, hr, htimes⟩
    · exact ⟨0, Nat.zero_le _, rfl⟩

end Times

/-! ### Patterns -/

/-- The pattern spans the text between two places. -/
def Expr.Spans : Expr → Place → Place → Prop
  | .empty => fun p q => p = q
  | .chars set => Place.Reads set
  | .look condition => fun p q => p = q ∧ Machine.holds condition p.before p.after.head? = true
  | .seq first second => fun p q => ∃ middle, first.Spans p middle ∧ second.Spans middle q
  | .alt first second => fun p q => first.Spans p q ∨ second.Spans p q
  | .repeated body min max => fun p q =>
    ∃ count, min ≤ count ∧ (∀ bound ∈ max, count ≤ min + (bound - min)) ∧
      Times body.Spans count p q

/-- The pattern spans some part of a text. -/
def Expr.OccursIn (e : Expr) (s : List Char) : Prop :=
  ∃ p q, (Place.start s).Leads p ∧ e.Spans p q

end FormCheck.Pattern

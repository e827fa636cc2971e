import FormCheck.Proofs.Pattern.Building
import Mathlib.Computability.Language

/-!
# The texts that a pattern reads

A pattern without conditions on places spans the same texts wherever it stands. These texts form a
language, which is put together as the pattern is: one pattern after another reads the product of
their languages, and a repetition reads powers. Between the start and the end of the text such a
pattern occurs in the texts of its language and in no others.

## Main definitions

* `Pattern.Place.Crosses` : the text between two places belongs to a language.
* `Pattern.Expr.Reads` : wherever a pattern stands, it spans the texts of a language.
* `Pattern.wordsOver`, `Pattern.repeats` : the texts of characters of a set that have certain
  lengths.
* `Pattern.Expr.anchoredAll`, `Pattern.Expr.anchored` : several patterns, or one, that span whole
  texts only.
* `Pattern.occursPlainly` : a pattern text occurs in a value when case counts.

## Main results

* `Pattern.Expr.reads_repeated_chars` : the texts that a repeated class reads.
* `Pattern.Expr.occursIn_anchoredAll_iff` : anchored patterns occur in the texts that they read.
* `Pattern.occursPlainly_iff_mem` : the same of the pattern text.
-/

namespace FormCheck.Pattern

/-! ### Crossing a text -/

namespace Place

/-- The text between two places belongs to a language. -/
def Crosses (l : Language Char) (p q : Place) : Prop :=
  ∃ part ∈ l, p.after = part ++ q.after ∧ q.before = part.getLast?.or p.before

variable {l m : Language Char} {p q : Place}

theorem crosses_one_iff : Crosses 1 p q ↔ p = q := by
  obtain ⟨before, after⟩ := p
  obtain ⟨before', after'⟩ := q
  simp [Crosses, eq_comm, and_comm]

/-- What belongs to a product is crossed in two steps. -/
theorem crosses_mul_iff :
    Crosses (l * m) p q ↔ ∃ middle, Crosses l p middle ∧ Crosses m middle q := by
  constructor
  · rintro ⟨part, hpart, hafter, hbefore⟩
    obtain ⟨first, hfirst, second, hsecond, rfl⟩ := Language.mem_mul.mp hpart
    rw [List.append_assoc] at hafter
    rw [List.getLast?_append, Option.or_assoc] at hbefore
    exact ⟨⟨first.getLast?.or p.before, second ++ q.after⟩, ⟨first, hfirst, hafter, rfl⟩,
      second, hsecond, rfl, hbefore⟩
  · rintro ⟨middle, ⟨first, hfirst, hafter, hbefore⟩, second, hsecond, hafter', hbefore'⟩
    refine ⟨first ++ second, Language.append_mem_mul hfirst hsecond, ?_, ?_⟩
    · rw [hafter, hafter', List.append_assoc]
    · rw [hbefore', hbefore, List.getLast?_append, Option.or_assoc]

/-- What belongs to a power is crossed in as many steps. -/
theorem crosses_pow_iff (count : Nat) : Crosses (l ^ count) p q ↔ Times (Crosses l) count p q := by
  induction count generalizing p with
  | zero => rw [pow_zero, crosses_one_iff, Times]
  | succ count ih =>
    rw [pow_succ', crosses_mul_iff, Times]
    simp only [ih]

end Place

/-! ### Texts of characters of a set -/

/-- The texts of characters of a set that have certain lengths. -/
def wordsOver (set : CodeSet) (admits : Nat → Prop) : Language Char :=
  {s | admits s.length ∧ ∀ c ∈ s, set.contains c.toNat = true}

theorem mem_wordsOver {set : CodeSet} {admits : Nat → Prop} {s : List Char} :
    s ∈ wordsOver set admits ↔ admits s.length ∧ ∀ c ∈ s, set.contains c.toNat = true :=
  Iff.rfl

theorem mem_wordsOver_single_iff {c : Char} {s : List Char} :
    s ∈ wordsOver (CodeSet.single c.toNat) (· = 1) ↔ s = [c] := by
  rw [mem_wordsOver, List.length_eq_one_iff]
  simp only [CodeSet.contains_single_iff]
  constructor
  · rintro ⟨⟨d, rfl⟩, hall⟩
    rw [hall d (List.mem_singleton_self d)]
  · rintro rfl
    exact ⟨⟨c, rfl⟩, fun d hd => List.mem_singleton.mp hd⟩

/-- Single characters one after another make up a text of as many characters. -/
theorem wordsOver_one_pow (set : CodeSet) (count : Nat) :
    wordsOver set (· = 1) ^ count = wordsOver set (· = count) := by
  induction count with
  | zero =>
    ext s
    rw [pow_zero, Language.mem_one, mem_wordsOver, List.length_eq_zero_iff, iff_self_and]
    rintro rfl
    simp
  | succ count ih =>
    ext s
    rw [pow_succ', ih, Language.mem_mul, mem_wordsOver]
    constructor
    · rintro ⟨first, ⟨hlength, hfirst⟩, rest, ⟨hlength', hrest⟩, rfl⟩
      exact ⟨by rw [List.length_append, hlength, hlength', Nat.add_comm],
        List.forall_mem_append.mpr ⟨hfirst, hrest⟩⟩
    · rintro ⟨hlength, hall⟩
      obtain ⟨c, rest, rfl⟩ := List.exists_cons_of_length_eq_add_one hlength
      obtain ⟨hc, hrest⟩ := List.forall_mem_cons.mp hall
      exact ⟨[c], ⟨rfl, by simpa using hc⟩, rest, ⟨Nat.succ.inj hlength, hrest⟩, rfl⟩

/-- The texts of characters of a set that are at least `min` and, if there is a `max`, at most as
many. -/
def repeats (set : CodeSet) (min : Nat) (max : Option Nat) : Language Char :=
  wordsOver set fun count => min ≤ count ∧ ∀ bound ∈ max, count ≤ min + (bound - min)

section Repeats

variable {set : CodeSet} {s : List Char}

theorem mem_repeats_any_iff :
    s ∈ repeats set 0 none ↔ ∀ c ∈ s, set.contains c.toNat = true := by
  simp [repeats, mem_wordsOver]

theorem mem_repeats_some_iff :
    s ∈ repeats set 1 none ↔ s ≠ [] ∧ ∀ c ∈ s, set.contains c.toNat = true := by
  simp [repeats, mem_wordsOver, Nat.one_le_iff_ne_zero]

theorem mem_repeats_optional_iff :
    s ∈ repeats set 0 (some 1) ↔ s = [] ∨ ∃ c, s = [c] ∧ set.contains c.toNat = true := by
  match s with
  | [] => simp [repeats, mem_wordsOver]
  | [c] => simp [repeats, mem_wordsOver]
  | c :: d :: s => simp [repeats, mem_wordsOver]

end Repeats

/-! ### Patterns -/

namespace Expr

/-- Wherever the pattern stands, it spans exactly the texts of a language. -/
def Reads (e : Expr) (l : Language Char) : Prop := ∀ p q, e.Spans p q ↔ Place.Crosses l p q

theorem reads_empty : Reads .empty 1 := fun _ _ => Place.crosses_one_iff.symm

theorem reads_chars (set : CodeSet) : Reads (.chars set) (wordsOver set (· = 1)) := by
  intro p q
  obtain ⟨before, s⟩ := p
  constructor
  · rintro ⟨⟨c, hafter, hbefore⟩, d, hd, hset⟩
    obtain rfl : c = d := Option.some.inj (hbefore.symm.trans hd)
    exact ⟨[c], ⟨rfl, by simpa using hset⟩, hafter, hbefore⟩
  · rintro ⟨part, ⟨hlength, hall⟩, hafter, hbefore⟩
    obtain ⟨c, rfl⟩ := List.length_eq_one_iff.mp hlength
    exact ⟨⟨c, hafter, hbefore⟩, c, hbefore, hall c (List.mem_singleton_self c)⟩

theorem Reads.seq {first second : Expr} {l m : Language Char} (h : first.Reads l)
    (h' : second.Reads m) : (Expr.seq first second).Reads (l * m) := by
  intro p q
  simp only [Spans, Place.crosses_mul_iff, h p, h' _ q]

theorem reads_seqAll {es : List Expr} {ls : List (Language Char)}
    (h : List.Forall₂ Reads es ls) : (seqAll es).Reads ls.prod := by
  induction h with
  | nil => exact reads_empty
  | @cons e l es ls hfirst hrest ih =>
    cases hrest with
    | nil =>
      rw [List.prod_singleton]
      exact hfirst
    | cons hsecond hrest =>
      rw [List.prod_cons]
      exact hfirst.seq ih

/-- A repetition reads the powers of what is repeated. -/
theorem Reads.repeated {body : Expr} {l : Language Char} (h : body.Reads l) (min : Nat)
    (max : Option Nat) :
    (Expr.repeated body min max).Reads
      {s | ∃ count, min ≤ count ∧ (∀ bound ∈ max, count ≤ min + (bound - min)) ∧
        s ∈ l ^ count} := by
  have hspans : body.Spans = Place.Crosses l := funext₂ fun p q => propext (h p q)
  intro p q
  simp only [Spans, hspans, ← Place.crosses_pow_iff, Place.Crosses]
  constructor
  · rintro ⟨count, hmin, hmax, part, hpart, hafter, hbefore⟩
    exact ⟨part, ⟨count, hmin, hmax, hpart⟩, hafter, hbefore⟩
  · rintro ⟨part, ⟨count, hmin, hmax, hpart⟩, hafter, hbefore⟩
    exact ⟨count, hmin, hmax, part, hpart, hafter, hbefore⟩

/-- A repeated class reads texts of its characters. -/
theorem reads_repeated_chars (set : CodeSet) (min : Nat) (max : Option Nat) :
    (Expr.repeated (.chars set) min max).Reads (repeats set min max) := by
  have hlanguage : repeats set min max =
      {s | ∃ count, min ≤ count ∧ (∀ bound ∈ max, count ≤ min + (bound - min)) ∧
        s ∈ wordsOver set (· = 1) ^ count} := by
    ext s
    simp only [wordsOver_one_pow]
    constructor
    · rintro ⟨⟨hmin, hmax⟩, hall⟩
      exact ⟨s.length, hmin, hmax, rfl, hall⟩
    · rintro ⟨_, hmin, hmax, rfl, hall⟩
      exact ⟨⟨hmin, hmax⟩, hall⟩
  rw [hlanguage]
  exact (reads_chars set).repeated min max

/-! ### Anchored patterns -/

theorem spans_seqAll_cons_iff (e : Expr) (es : List Expr) (p q : Place) :
    (seqAll (e :: es)).Spans p q ↔ ∃ middle, e.Spans p middle ∧ (seqAll es).Spans middle q := by
  cases es with
  | nil => simp [seqAll, Spans]
  | cons e' es => rfl

theorem spans_seqAll_append_iff (es es' : List Expr) (p q : Place) :
    (seqAll (es ++ es')).Spans p q ↔
      ∃ middle, (seqAll es).Spans p middle ∧ (seqAll es').Spans middle q := by
  induction es generalizing p with
  | nil => simp [seqAll, Spans]
  | cons e es ih =>
    rw [List.cons_append, spans_seqAll_cons_iff]
    simp only [ih, spans_seqAll_cons_iff]
    constructor
    · rintro ⟨first, hfirst, second, hsecond, hrest⟩
      exact ⟨second, ⟨first, hfirst, hsecond⟩, hrest⟩
    · rintro ⟨second, ⟨first, hfirst, hsecond⟩, hrest⟩
      exact ⟨first, hfirst, second, hsecond, hrest⟩

/-- Patterns one after another, between the conditions of the start and of the end of the text. -/
def anchoredAll (es : List Expr) : Expr := seqAll (.look .textStart :: (es ++ [.look .textEnd]))

/-- Anchored patterns occur in the texts that they read, and in no others. -/
theorem occursIn_anchoredAll_iff {es : List Expr} {l : Language Char} (h : (seqAll es).Reads l)
    (s : List Char) : (anchoredAll es).OccursIn s ↔ s ∈ l := by
  simp only [OccursIn, anchoredAll, spans_seqAll_cons_iff, spans_seqAll_append_iff, h _ _]
  constructor
  · rintro ⟨p, q, hp, _, ⟨rfl, hstart⟩, last, ⟨part, hpart, hafter, -⟩, _, ⟨rfl, hend⟩, -⟩
    obtain rfl := hp.eq_start (Option.isNone_iff_eq_none.mp hstart)
    have hnil : last.after = [] := List.head?_eq_none_iff.mp (Option.isNone_iff_eq_none.mp hend)
    rw [hnil, List.append_nil] at hafter
    obtain rfl : s = part := hafter
    exact hpart
  · intro hs
    have hcrosses : Place.Crosses l (Place.start s) ⟨s.getLast?.or none, []⟩ :=
      ⟨s, hs, (List.append_nil s).symm, rfl⟩
    exact ⟨_, _, .refl, _, ⟨rfl, rfl⟩, _, hcrosses, _, ⟨rfl, rfl⟩, rfl⟩

/-- The pattern that spans whole texts only: `e` between the conditions of the start and of the
end of the text. -/
def anchored (e : Expr) : Expr := .seq (.look .textStart) (.seq e (.look .textEnd))

/-- An anchored class that is repeated at least once occurs in the texts of its characters. -/
theorem occursIn_anchored_chars_iff (set : CodeSet) (s : List Char) :
    (Expr.repeated (.chars set) 1 none).anchored.OccursIn s ↔
      s ≠ [] ∧ ∀ c ∈ s, set.contains c.toNat = true := by
  have hreads := reads_seqAll (.cons (reads_repeated_chars set 1 none) .nil)
  refine (occursIn_anchoredAll_iff hreads s).trans ?_
  rw [List.prod_singleton, mem_repeats_some_iff]

end Expr

/-! ### Patterns in which case counts -/

/-- The flags of a pattern that is given none: case counts, and classes know all of Unicode. -/
def plainFlags : Flags := { ruleFlags with ignoreCase := false }

/-- Whether a text writes a pattern of admissible size, in which case counts, that occurs in a
value. -/
def occursPlainly (text value : String) : Bool :=
  match readExpr plainFlags text.toList with
  | none => false
  | some e => e.fits && (Machine.ofExpr e).occursIn value.toList

/-- A text that writes a pattern of admissible size occurs where the pattern spans some part. -/
theorem occursPlainly_iff {text : String} {e : Expr}
    (hread : readExpr plainFlags text.toList = some e) (hfits : e.fits = true) (value : String) :
    occursPlainly text value = true ↔ e.OccursIn value.toList := by
  rw [occursPlainly, hread]
  simp only [hfits, Bool.true_and, Machine.occursIn_ofExpr]

/-- An anchored pattern text occurs in the values that its parts read. -/
theorem occursPlainly_iff_mem {text : String} {es : List Expr} {l : Language Char}
    (hread : readExpr plainFlags text.toList = some (.anchoredAll es))
    (hfits : (Expr.anchoredAll es).fits = true) (hlanguage : (Expr.seqAll es).Reads l)
    (value : String) : occursPlainly text value = true ↔ value.toList ∈ l := by
  rw [occursPlainly_iff hread hfits, Expr.occursIn_anchoredAll_iff hlanguage]

end FormCheck.Pattern

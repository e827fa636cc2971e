import FormCheck.Calendar.Reading
import FormCheck.Proofs.Decimal.Digits
import Mathlib.Data.List.GetD
import Mathlib.Data.List.TakeWhile

/-!
# Dates with ones for digits

Whether a text reads as a date in some layout depends on its digits in one way only: the numbers in
it must lie between certain bounds. These bounds admit 1 and 11 everywhere. If a text is read in a
layout, the text with a one in the place of every digit is therefore read in this layout too, so a
layout is refused for all texts of one shape by a look at a single text.

## Main definitions

* `Calendar.withOnes` : a text with a one in the place of every digit.
* `Calendar.ReadsOnes`, `Calendar.Item.ReadsOnes` : what reads a text reads it with ones for digits.

## Main results

* `Calendar.Item.readsOnes` : an item of a layout reads ones for digits, unless it asks for a digit.
* `Calendar.readLayout_withOnes` : a layout that reads a text reads it with ones for digits.
* `Calendar.readTimestamp_withOnes` : so do internet timestamps.
* `Calendar.readMailDate_eq_none` : a text that begins with a digit is no date of a mail message
  unless blanks follow the day.
-/

namespace FormCheck.Calendar

open Decimal (isDigit natOf)

/-! ### Ones for digits -/

/-- A one for a digit, and any other character as it is. -/
def oneFor (c : Char) : Char := if isDigit c then '1' else c

/-- A text with a one in the place of every digit. -/
def withOnes (s : List Char) : List Char := s.map oneFor

theorem oneFor_eq_self {c : Char} (h : isDigit c = false) : oneFor c = c := by
  rw [oneFor, h]
  rfl

theorem oneFor_of_isDigit {c : Char} (h : isDigit c = true) : oneFor c = '1' := by
  rw [oneFor, h]
  rfl

theorem isDigit_oneFor (c : Char) : isDigit (oneFor c) = isDigit c := by
  cases h : isDigit c with
  | true => rw [oneFor_of_isDigit h]; rfl
  | false => rw [oneFor_eq_self h, h]

theorem isBlank_oneFor (c : Char) : Text.isBlank (oneFor c) = Text.isBlank c := by
  cases h : isDigit c with
  | true => rw [oneFor_of_isDigit h, Decimal.isBlank_of_isDigit h]; rfl
  | false => rw [oneFor_eq_self h]

/-- A character that is no digit is found where it was. -/
theorem eq_oneFor_iff {c d : Char} (h : isDigit c = false) : c = oneFor d ↔ c = d := by
  constructor
  · intro heq
    have hd : isDigit d = false := by rw [← isDigit_oneFor, ← heq, h]
    rw [heq, oneFor_eq_self hd]
  · rintro rfl
    exact (oneFor_eq_self h).symm

theorem oneFor_ne {c d : Char} (h : isDigit c = false) (hne : d ≠ c) : oneFor d ≠ c :=
  fun heq => hne ((eq_oneFor_iff h).mp heq.symm).symm

/-- Digits become ones, and their number stays. -/
theorem withOnes_of_forall_isDigit {s : List Char} (h : ∀ c ∈ s, isDigit c = true) :
    withOnes s = List.replicate s.length '1' :=
  List.eq_replicate_iff.mpr ⟨List.length_map _, fun _ hb => by
    obtain ⟨c, hc, rfl⟩ := List.mem_map.mp hb
    exact oneFor_of_isDigit (h c hc)⟩

/-- A text without digits is kept. -/
theorem withOnes_eq_self {s : List Char} (h : ∀ c ∈ s, isDigit c = false) : withOnes s = s :=
  (List.map_congr_left fun c hc => oneFor_eq_self (h c hc)).trans (List.map_id' s)

theorem takeWhile_withOnes (s : List Char) :
    (withOnes s).takeWhile isDigit = List.replicate (s.takeWhile isDigit).length '1' := by
  have hdigit : isDigit ∘ oneFor = isDigit := funext isDigit_oneFor
  rw [withOnes, List.takeWhile_map, hdigit]
  exact withOnes_of_forall_isDigit fun c hc => List.mem_takeWhile_imp hc

theorem trimStart_withOnes (s : List Char) :
    Text.trimStart (withOnes s) = withOnes (Text.trimStart s) := by
  have hblank : Text.isBlank ∘ oneFor = Text.isBlank := funext isBlank_oneFor
  rw [Text.trimStart, withOnes, List.dropWhile_map, hblank]
  rfl

theorem any_isDigit_head?_withOnes (s : List Char) :
    (withOnes s).head?.any isDigit = s.head?.any isDigit := by
  simp only [withOnes, List.head?_map, Option.any_map, isDigit_oneFor]

theorem any_isBlank_getLast?_withOnes (s : List Char) :
    (withOnes s).getLast?.any Text.isBlank = s.getLast?.any Text.isBlank := by
  simp only [withOnes, List.getLast?_map, Option.any_map, isBlank_oneFor]

/-- A reader reads a text with ones for its digits whenever it reads the text, and leaves the same
rest. -/
def ReadsOnes {α : Type*} (read : List Char → Option (α × List Char)) : Prop :=
  ∀ ⦃s n rest⦄, read s = some (n, rest) → ∃ n', read (withOnes s) = some (n', withOnes rest)

section ReadsOnes

variable {α β : Type*} {read : List Char → Option (α × List Char)} (hread : ReadsOnes read)

include hread

/-- It does not matter what is made of what has been read. -/
theorem ReadsOnes.map (f : α → β) :
    ReadsOnes fun s => (read s).map fun (n, tail) => (f n, tail) := by
  intro s b rest h
  obtain ⟨⟨n, tail⟩, hn, heq⟩ := Option.map_eq_some_iff.mp h
  cases heq
  obtain ⟨n', hones⟩ := hread hn
  exact ⟨f n', congrArg (Option.map fun (n, tail) => (f n, tail)) hones⟩

/-- It does not matter either what has been noted before. -/
theorem ReadsOnes.note (note : Fields → α → Fields) {f f' : Fields} {s rest : List Char}
    (h : (read s).map (fun (n, tail) => (note f n, tail)) = some (f', rest)) (g : Fields) :
    ∃ g', (read (withOnes s)).map (fun (n, tail) => (note g n, tail)) =
      some (g', withOnes rest) := by
  obtain ⟨⟨n, tail⟩, hn, heq⟩ := Option.map_eq_some_iff.mp h
  cases heq
  obtain ⟨n', hones⟩ := hread hn
  exact ⟨note g n', congrArg (Option.map fun (n, tail) => (note g n, tail)) hones⟩

/-- Blanks in front may be left out before. -/
theorem ReadsOnes.trimStart : ReadsOnes fun s => read (Text.trimStart s) := by
  intro s n rest h
  obtain ⟨n', hones⟩ := hread h
  rw [← trimStart_withOnes] at hones
  exact ⟨n', hones⟩

end ReadsOnes

/-! ### Numbers -/

/-- The digits from which a number is read: those that a text begins with, up to a bound if there is
one. -/
def leadingDigits (most : Option Nat) (s : List Char) : List Char :=
  match most with
  | some bound => (s.takeWhile isDigit).take bound
  | none => s.takeWhile isDigit

theorem readNumber_eq (least : Nat) (most : Option Nat) (s : List Char) :
    readNumber least most s =
      if (leadingDigits most s).length < least then none
      else some (natOf (leadingDigits most s), s.drop (leadingDigits most s).length) := by
  cases most <;> rfl

theorem length_leadingDigits_le {most : Option Nat} (s : List Char) :
    ∀ bound ∈ most, (leadingDigits most s).length ≤ bound := by
  rintro bound ⟨⟩
  exact List.length_take_le _ _

theorem leadingDigits_withOnes (most : Option Nat) (s : List Char) :
    leadingDigits most (withOnes s) = List.replicate (leadingDigits most s).length '1' := by
  cases most with
  | none => exact takeWhile_withOnes s
  | some bound => simp only [leadingDigits, takeWhile_withOnes, List.take_replicate,
      List.length_take]

/-- A number is read with ones for its digits, and it has as many of them. -/
theorem readNumber_withOnes {least : Nat} {most : Option Nat} {s rest : List Char} {n : Nat}
    (h : readNumber least most s = some (n, rest)) :
    ∃ k, least ≤ k ∧ (∀ bound ∈ most, k ≤ bound) ∧
      readNumber least most (withOnes s) =
        some (natOf (List.replicate k '1'), withOnes rest) := by
  rw [readNumber_eq, Option.ite_none_left_eq_some, Nat.not_lt] at h
  obtain ⟨hleast, heq⟩ := h
  cases heq
  refine ⟨_, hleast, length_leadingDigits_le s, ?_⟩
  rw [readNumber_eq, leadingDigits_withOnes, List.length_replicate, if_neg (Nat.not_lt.mpr hleast),
    withOnes, withOnes, List.map_drop]

theorem readsOnes_readNumber (least : Nat) (most : Option Nat) :
    ReadsOnes (readNumber least most) := by
  intro s n rest h
  obtain ⟨k, -, -, hones⟩ := readNumber_withOnes h
  exact ⟨_, hones⟩

/-- A number of one or two digits is read with ones if its bounds admit 1 and 11. -/
theorem readsOnes_readTwo (low high : Nat) (hlow : low ≤ 1) (hhigh : 11 ≤ high) :
    ReadsOnes (readTwo low high) := by
  intro s n rest h
  obtain ⟨⟨m, tail⟩, hnumber, hbounds⟩ := Option.bind_eq_some_iff.mp h
  rw [Option.ite_none_right_eq_some] at hbounds
  obtain ⟨-, heq⟩ := hbounds
  cases heq
  obtain ⟨k, hleast, hmost, hread⟩ := readNumber_withOnes hnumber
  have hvalue : low ≤ natOf (List.replicate k '1') ∧ natOf (List.replicate k '1') ≤ high := by
    obtain rfl | rfl : k = 1 ∨ k = 2 := by
      have := hmost 2 rfl
      omega
    · exact ⟨hlow, hhigh.trans' (by decide)⟩
    · exact ⟨hlow.trans (by decide), hhigh⟩
  have hones : readTwo low high (withOnes s) =
      some (natOf (List.replicate k '1'), withOnes rest) := by
    rw [readTwo, trimStart_withOnes, hread, Option.bind_some]
    exact if_pos hvalue
  exact ⟨_, hones⟩

/-- A number of exactly two digits is read as 11 if its bounds admit 11. -/
theorem readExact_withOnes {low high : Nat} (hlow : low ≤ 11) (hhigh : 11 ≤ high)
    {s rest : List Char} {n : Nat} (h : readExact low high s = some (n, rest)) :
    readExact low high (withOnes s) = some (11, withOnes rest) := by
  obtain ⟨⟨m, tail⟩, hnumber, hbounds⟩ := Option.bind_eq_some_iff.mp h
  rw [Option.ite_none_right_eq_some] at hbounds
  obtain ⟨-, heq⟩ := hbounds
  cases heq
  obtain ⟨k, hleast, hmost, hread⟩ := readNumber_withOnes hnumber
  obtain rfl : k = 2 := Nat.le_antisymm (hmost 2 rfl) hleast
  rw [readExact, hread, Option.bind_some]
  exact if_pos ⟨hlow, hhigh⟩

/-- A year without a sign has up to four digits. -/
theorem readYear_of_ne {c : Char} (hminus : c ≠ '-') (hplus : c ≠ '+') (rest : List Char) :
    readYear (c :: rest) =
      (readNumber 1 (some 4) (c :: rest)).map fun (n, tail) => ((n : Int), tail) := by
  rw [readYear]
  · rintro _ ⟨⟩
    exact hminus rfl
  · rintro _ ⟨⟩
    exact hplus rfl

theorem readsOnes_readYear : ReadsOnes readYear := by
  intro s n rest h
  cases s with
  | nil => exact nomatch h
  | cons c s =>
    by_cases hminus : c = '-'
    · subst hminus
      exact (readsOnes_readNumber 1 none).map (fun n => -(n : Int)) h
    by_cases hplus : c = '+'
    · subst hplus
      exact (readsOnes_readNumber 1 none).map (fun n => (n : Int)) h
    have hminus' : oneFor c ≠ '-' := oneFor_ne rfl hminus
    have hplus' : oneFor c ≠ '+' := oneFor_ne rfl hplus
    rw [readYear_of_ne hminus hplus] at h
    obtain ⟨n', hones⟩ := (readsOnes_readNumber 1 (some 4)).map (fun n => (n : Int)) h
    exact ⟨n', (readYear_of_ne hminus' hplus' (withOnes s)).trans hones⟩

/-- A fraction of a second is read with ones, and is less than a second. -/
theorem readFraction_withOnes {s rest : List Char} {n : Nat}
    (h : readFraction s = some (n, rest)) :
    ∃ n' < 1000000000, readFraction (withOnes s) = some (n', withOnes rest) := by
  have hdigits := leadingDigits_withOnes (some 9) s
  have hbound := length_leadingDigits_le s 9 rfl
  have hunfold (t : List Char) : readFraction t =
      if (leadingDigits (some 9) t).isEmpty then none
      else some (natOf (leadingDigits (some 9) t) *
        Nat.pow 10 (9 - (leadingDigits (some 9) t).length), t.drop (t.takeWhile isDigit).length) :=
    rfl
  rw [hunfold, Option.ite_none_left_eq_some] at h
  obtain ⟨hne, heq⟩ := h
  cases heq
  have hlt : ∀ k ≤ 9, natOf (List.replicate k '1') * Nat.pow 10 (9 - k) < 1000000000 := by decide
  refine ⟨_, hlt _ hbound, ?_⟩
  rw [hunfold, hdigits, List.isEmpty_replicate, if_neg (by simpa using hne), List.length_replicate,
    takeWhile_withOnes, List.length_replicate, withOnes, withOnes, List.map_drop]

theorem readsOnes_readFraction : ReadsOnes readFraction := fun _ _ _ h =>
  (readFraction_withOnes h).imp fun _ hn => hn.2

/-! ### Words -/

/-- A digit is no letter, so it is kept in small letters. -/
theorem isDigit_toLower {c : Char} (h : isDigit c = true) : isDigit c.toLower = true := by
  have hlower : c.toLower = c := by
    simp only [isDigit, Bool.and_eq_true, decide_eq_true_eq, Char.le_def, UInt32.le_iff_toNat_le]
      at h
    refine dif_neg fun hupper => ?_
    have hdigit : c.val.toNat ≤ 57 := h.2
    have hletter : 65 ≤ c.val.toNat := UInt32.le_iff_toNat_le.mp hupper.1
    omega
  rwa [hlower]

theorem isDigit_eq_false_of_toLower {c : Char} (h : isDigit c.toLower = false) :
    isDigit c = false := by
  by_contra hdigit
  rw [isDigit_toLower (Bool.not_eq_false _ ▸ hdigit)] at h
  exact nomatch h

theorem isDigit_eq_false_of_any {s : List Char} (h : s.any isDigit = false) :
    ∀ c ∈ s, isDigit c = false := fun c hc =>
  Bool.eq_false_iff.mpr (List.any_eq_false.mp h c hc)

/-- A text has no digits if it has none in small letters. -/
theorem isDigit_eq_false_of_map_toLower {word s : List Char} (h : s.map Char.toLower = word)
    (hword : ∀ c ∈ word, isDigit c = false) : ∀ c ∈ s, isDigit c = false :=
  fun c hc => isDigit_eq_false_of_toLower (hword c.toLower (h ▸ List.mem_map_of_mem hc))

/-- A word without digits stands in a text with ones if and only if it stands in the text. -/
theorem map_toLower_withOnes_eq_iff {word : List Char} (hword : ∀ c ∈ word, isDigit c = false)
    {s : List Char} : (withOnes s).map Char.toLower = word ↔ s.map Char.toLower = word := by
  constructor
  · intro h
    have hs : ∀ c ∈ s, isDigit c = false := fun c hc => by
      rw [← isDigit_oneFor]
      exact isDigit_eq_false_of_map_toLower h hword _ (List.mem_map_of_mem hc)
    rwa [withOnes_eq_self hs] at h
  · intro h
    rwa [withOnes_eq_self (isDigit_eq_false_of_map_toLower h hword)]

/-- A word without digits is read with ones. -/
theorem readWord_withOnes {words : List String}
    (hwords : ∀ word ∈ words, word.toList.any isDigit = false) {s rest : List Char} {n : Nat}
    (h : readWord words s = some (n, rest)) :
    readWord words (withOnes s) = some (n, withOnes rest) := by
  obtain ⟨i, hfind, heq⟩ := Option.map_eq_some_iff.mp h
  cases heq
  obtain ⟨hi, hword, -⟩ := List.findIdx?_eq_some_iff_getElem.mp hfind
  have hstart : (s.take 3).map Char.toLower = words[n].toList := by
    rw [eq_of_beq hword, String.toList_ofList]
  have htake : (withOnes s).take 3 = s.take 3 := by
    rw [withOnes, ← List.map_take]
    exact withOnes_eq_self
      (isDigit_eq_false_of_map_toLower hstart
        (isDigit_eq_false_of_any (hwords _ (List.getElem_mem hi))))
  rw [readWord, htake, hfind, Option.map_some, withOnes, withOnes, List.map_drop]

theorem readsOnes_readWeekday : ReadsOnes (readWord weekdayStarts) :=
  fun _ n _ h => ⟨n, readWord_withOnes (by decide) h⟩

/-- An ending without digits is skipped with ones too. -/
theorem skipEnding_withOnes {ending : List Char} (hending : ∀ c ∈ ending, isDigit c = false)
    (s : List Char) : skipEnding ending (withOnes s) = withOnes (skipEnding ending s) := by
  have htake : (withOnes s).take ending.length = withOnes (s.take ending.length) :=
    List.map_take.symm
  have hdrop : (withOnes s).drop ending.length = withOnes (s.drop ending.length) :=
    List.map_drop.symm
  simp only [skipEnding, htake, hdrop, map_toLower_withOnes_eq_iff hending]
  split <;> rfl

theorem any_isDigit_of_mem_monthEnds :
    ∀ ending ∈ monthEnds, ending.toList.any isDigit = false := by
  decide

theorem readsOnes_readMonth (full : Bool) : ReadsOnes (readMonth full) := by
  intro s n rest h
  obtain ⟨⟨i, tail⟩, hword, heq⟩ := Option.map_eq_some_iff.mp h
  cases heq
  have hones := readWord_withOnes (by decide) hword
  have hending : ∀ c ∈ (monthEnds.getD i "").toList, isDigit c = false := by
    by_cases hi : i < monthEnds.length
    · rw [List.getD_eq_getElem _ _ hi]
      exact isDigit_eq_false_of_any (any_isDigit_of_mem_monthEnds _ (List.getElem_mem hi))
    · rw [List.getD_eq_default _ _ (Nat.not_lt.mp hi)]
      exact fun c hc => absurd hc List.not_mem_nil
  refine ⟨i + 1, ?_⟩
  rw [readMonth, hones, Option.map_some]
  cases full with
  | true => exact congrArg (fun tail => some (i + 1, tail)) (skipEnding_withOnes hending tail)
  | false => rfl

/-! ### Layouts -/

/-- Whether an item of a layout asks for a certain digit. -/
def Item.asksForDigit : Item → Bool
  | .literal c => isDigit c
  | _ => false

/-- An item of a layout reads a text with ones for its digits whenever it reads the text, and leaves
the same rest, whatever has been noted before. -/
def Item.ReadsOnes (item : Item) : Prop :=
  ∀ ⦃f f' s rest⦄, item.read f s = some (f', rest) →
    ∀ g, ∃ g', item.read g (withOnes s) = some (g', withOnes rest)

theorem Item.readsOnes_literal {c : Char} (hc : isDigit c = false) : (literal c).ReadsOnes := by
  intro f f' s rest h g
  cases s with
  | nil => exact nomatch h
  | cons d s =>
    rw [Item.read, Option.ite_none_right_eq_some] at h
    obtain ⟨hcd, heq⟩ := h
    cases heq
    exact ⟨g, if_pos ((eq_oneFor_iff hc).mpr hcd)⟩

/-- Without a point there is no fraction. -/
theorem Item.read_fraction_of_ne {c : Char} (hc : c ≠ '.') (f : Fields) (s : List Char) :
    fraction.read f (c :: s) = some (f, c :: s) := by
  simp [Item.read, hc]

theorem Item.readsOnes_fraction : fraction.ReadsOnes := by
  intro f f' s rest h g
  cases s with
  | nil =>
    cases h
    exact ⟨g, rfl⟩
  | cons c s =>
    by_cases hpoint : c = '.'
    · subst hpoint
      exact readsOnes_readFraction.note (fun f n => { f with nanosecond := some n }) h g
    · rw [read_fraction_of_ne hpoint] at h
      cases h
      exact ⟨g, read_fraction_of_ne (oneFor_ne rfl hpoint) g (withOnes s)⟩

/-- The half of the day is read from two letters, `am` or `pm` in any case. -/
theorem Item.read_half_eq_some_iff {f f' : Fields} {s rest : List Char} :
    half.read f s = some (f', rest) ↔
      ∃ c d afternoon, s = c :: d :: rest ∧ d.toLower = 'm' ∧
        c.toLower = (if afternoon then 'p' else 'a') ∧
        f' = { f with afternoon := some afternoon } := by
  constructor
  · intro h
    match s with
    | [] => exact nomatch h
    | [_] => exact nomatch h
    | c :: d :: s =>
      simp only [Item.read, ne_eq, Option.ite_none_left_eq_some, not_not] at h
      obtain ⟨hd, h⟩ := h
      by_cases ha : c.toLower = 'a'
      · rw [if_pos ha] at h
        cases h
        exact ⟨c, d, false, rfl, hd, ha, rfl⟩
      · rw [if_neg ha, Option.ite_none_right_eq_some] at h
        obtain ⟨hp, heq⟩ := h
        cases heq
        exact ⟨c, d, true, rfl, hd, hp, rfl⟩
  · rintro ⟨c, d, afternoon, rfl, hd, hc, rfl⟩
    cases afternoon <;> simp_all [Item.read]

theorem Item.readsOnes_half : half.ReadsOnes := by
  intro f f' s rest h g
  obtain ⟨c, d, afternoon, rfl, hd, hc, -⟩ := read_half_eq_some_iff.mp h
  have hc' : isDigit c = false := isDigit_eq_false_of_toLower (by rw [hc]; cases afternoon <;> rfl)
  have hd' : isDigit d = false := isDigit_eq_false_of_toLower (by rw [hd]; rfl)
  have hones : withOnes (c :: d :: rest) = c :: d :: withOnes rest := by
    rw [withOnes, List.map_cons, List.map_cons, oneFor_eq_self hc', oneFor_eq_self hd']
    rfl
  exact ⟨_, hones ▸ read_half_eq_some_iff.mpr ⟨c, d, afternoon, rfl, hd, hc, rfl⟩⟩

/-- An item of a layout that asks for no digit reads a text with ones if it reads the text. -/
theorem Item.readsOnes {item : Item} (hitem : item.asksForDigit = false) : item.ReadsOnes := by
  cases item with
  | literal c => exact readsOnes_literal hitem
  | fraction => exact readsOnes_fraction
  | half => exact readsOnes_half
  | blanks =>
    rintro f f' s rest ⟨⟩ g
    exact ⟨g, by rw [Item.read, trimStart_withOnes]⟩
  | year =>
    exact fun _ _ _ _ => readsOnes_readYear.trimStart.note fun f n => { f with year := some n }
  | month =>
    exact fun _ _ _ _ => (readsOnes_readTwo 1 12 (by decide) (by decide)).note
      fun f n => { f with month := some n }
  | day =>
    exact fun _ _ _ _ => (readsOnes_readTwo 1 31 (by decide) (by decide)).note
      fun f n => { f with day := some n }
  | hour =>
    exact fun _ _ _ _ => (readsOnes_readTwo 0 23 (by decide) (by decide)).note
      fun f n => { f with hour := some n }
  | hour12 =>
    exact fun _ _ _ _ => (readsOnes_readTwo 1 12 (by decide) (by decide)).note
      fun f n => { f with hour12 := some (n % 12) }
  | minute =>
    exact fun _ _ _ _ => (readsOnes_readTwo 0 59 (by decide) (by decide)).note
      fun f n => { f with minute := some n }
  | second =>
    exact fun _ _ _ _ => (readsOnes_readTwo 0 60 (by decide) (by decide)).note
      fun f n => { f with second := some n }
  | monthName =>
    exact fun _ _ _ _ => (readsOnes_readMonth true).note fun f n => { f with month := some n }
  | shortMonthName =>
    exact fun _ _ _ _ => (readsOnes_readMonth false).note fun f n => { f with month := some n }
  | weekdayName =>
    exact fun _ _ _ _ => readsOnes_readWeekday.note fun f n => { f with weekday := some n }

/-- A layout that asks for no digit reads a text with ones if it reads the text. -/
theorem readLayout_withOnes {layout : List Item}
    (hlayout : ∀ item ∈ layout, item.asksForDigit = false) {f f' : Fields} {s : List Char}
    (h : readLayout f layout s = some f') (g : Fields) :
    ∃ g', readLayout g layout (withOnes s) = some g' := by
  induction layout generalizing f g s with
  | nil =>
    cases s with
    | nil => exact ⟨g, rfl⟩
    | cons c s => exact nomatch h
  | cons item layout ih =>
    obtain ⟨⟨noted, tail⟩, hitem, hrest⟩ := Option.bind_eq_some_iff.mp h
    obtain ⟨hhere, hlater⟩ := List.forall_mem_cons.mp hlayout
    obtain ⟨noted', hones⟩ := Item.readsOnes hhere hitem g
    obtain ⟨g', hread⟩ := ih hlater hrest noted'
    refine ⟨g', ?_⟩
    rw [readLayout, hones]
    exact hread

/-! ### Timestamps -/

theorem readChar_withOnes {c : Char} (hc : isDigit c = false) {s rest : List Char}
    (h : readChar c s = some rest) : readChar c (withOnes s) = some (withOnes rest) := by
  cases s with
  | nil => exact nomatch h
  | cons d s =>
    rw [readChar, Option.ite_none_right_eq_some] at h
    obtain ⟨hcd, heq⟩ := h
    cases heq
    exact if_pos ((eq_oneFor_iff hc).mpr hcd)

theorem readSign_withOnes {wide negative : Bool} {s rest : List Char}
    (h : readSign wide s = some (negative, rest)) :
    readSign wide (withOnes s) = some (negative, withOnes rest) := by
  unfold readSign at h
  split at h
  · cases h
    rfl
  · cases h
    rfl
  · rw [Option.ite_none_right_eq_some] at h
    obtain ⟨hwide, heq⟩ := h
    cases heq
    exact if_pos hwide
  · exact nomatch h

theorem readTimestampDivider_withOnes {s rest : List Char}
    (h : readTimestampDivider s = some rest) :
    readTimestampDivider (withOnes s) = some (withOnes rest) := by
  cases s with
  | nil => exact nomatch h
  | cons c s =>
    rw [readTimestampDivider, Option.ite_none_right_eq_some] at h
    obtain ⟨hc, heq⟩ := h
    cases heq
    obtain rfl | rfl | rfl := hc <;> rfl

theorem readTimestampFraction_withOnes {s rest : List Char} {n : Nat}
    (h : readTimestampFraction s = some (n, rest)) :
    ∃ n' < 1000000000, readTimestampFraction (withOnes s) = some (n', withOnes rest) := by
  have hnone {c : Char} (hc : c ≠ '.') (t : List Char) :
      readTimestampFraction (c :: t) = some (0, c :: t) := by
    simp [readTimestampFraction, hc]
  cases s with
  | nil =>
    cases h
    exact ⟨0, by decide, rfl⟩
  | cons c s =>
    by_cases hc : c = '.'
    · subst hc
      exact readFraction_withOnes h
    · have hc' : oneFor c ≠ '.' := oneFor_ne rfl hc
      rw [hnone hc] at h
      cases h
      exact ⟨0, by decide, hnone hc' (withOnes s)⟩

/-- The offset of a timestamp with ones for its digits is less than a day. -/
theorem readOffset_withOnes {s rest : List Char} {offset : Int}
    (h : readOffset true true s = some (offset, rest)) :
    ∃ offset', offset'.natAbs < 86400 ∧
      readOffset true true (withOnes s) = some (offset', withOnes rest) := by
  simp only [readOffset, Option.bind_eq_bind, Option.bind_eq_some_iff, Prod.exists, ite_true,
    Option.some.injEq, Prod.mk.injEq] at h
  obtain ⟨negative, s₁, hsign, hours, s₂, hhours, s₃, hcolon, minutes, s₄, hminutes, -, rfl⟩ := h
  refine ⟨if negative then -40260 else 40260, by cases negative <;> decide, ?_⟩
  simp only [readOffset, readSign_withOnes hsign, Option.bind_eq_bind, Option.bind_some,
    readExact_withOnes (by decide) (by decide) hhours, readChar_withOnes rfl hcolon, ite_true,
    readExact_withOnes (by decide) (by decide) hminutes]
  rfl

theorem readTimestampOffset_withOnes {s rest : List Char} {offset : Int}
    (h : readTimestampOffset s = some (offset, rest)) :
    ∃ offset', offset'.natAbs < 86400 ∧
      readTimestampOffset (withOnes s) = some (offset', withOnes rest) := by
  have hsign {c : Char} (hc : c ≠ 'Z') (hc' : c ≠ 'z') (t : List Char) :
      readTimestampOffset (c :: t) = readOffset true true (c :: t) := by
    simp [readTimestampOffset, hc, hc']
  cases s with
  | nil => exact nomatch h
  | cons c s =>
    by_cases hcapital : c = 'Z'
    · subst hcapital
      cases h
      exact ⟨0, by decide, rfl⟩
    by_cases hsmall : c = 'z'
    · subst hsmall
      cases h
      exact ⟨0, by decide, rfl⟩
    have hcapital' : oneFor c ≠ 'Z' := oneFor_ne rfl hcapital
    have hsmall' : oneFor c ≠ 'z' := oneFor_ne rfl hsmall
    rw [hsign hcapital hsmall] at h
    obtain ⟨offset', hoffset, hones⟩ := readOffset_withOnes h
    exact ⟨offset', hoffset, (hsign hcapital' hsmall' (withOnes s)).trans hones⟩

/-- Only the first and the last year of the calendar have moments that are outside of it
elsewhere. -/
theorem Moment.hasUniversal_of_year {m : Moment} (hfirst : m.date.year ≠ firstYear)
    (hlast : m.date.year ≠ lastYear) (offset : Int) : m.hasUniversal offset = true := by
  rw [hasUniversal, beq_false_of_ne hfirst, beq_false_of_ne hlast]
  rfl

/-- The parts of a timestamp with ones for its digits make up a moment. -/
theorem localMoment?_ones {nanosecond : Nat} (hnanosecond : nanosecond < 1000000000) {offset : Int}
    (hoffset : offset.natAbs < 86400) :
    ∃ m, localMoment?
      { Fields.empty with
        year := some 1111, month := some 11, day := some 11, hour := some 11,
        minute := some 11, second := some 11, nanosecond := some nanosecond }
      offset = some m := by
  have hdate : Date.ofParts? 1111 11 11 = some ⟨1111, 11, 11, by decide⟩ := rfl
  obtain ⟨time, htime⟩ : ∃ time, Time.ofParts? 11 11 11 nanosecond = some time :=
    ⟨_, dif_pos ⟨by decide, by decide, by decide, by omega, by omega⟩⟩
  have huniversal : Moment.hasUniversal ⟨⟨1111, 11, 11, by decide⟩, time⟩ offset = true :=
    Moment.hasUniversal_of_year (show (1111 : Int) ≠ firstYear by decide)
      (show (1111 : Int) ≠ lastYear by decide) offset
  refine ⟨⟨⟨1111, 11, 11, by decide⟩, time⟩, ?_⟩
  simp only [localMoment?, Fields.moment?, Fields.date?, Fields.time?, Fields.fullHour?,
    Fields.empty, Option.bind_eq_bind, Option.bind_some, hdate, Option.getD_some, htime]
  exact if_pos (Bool.and_eq_true_iff.mpr ⟨decide_eq_true hoffset, huniversal⟩)

/-- A part that is read hands over what it says and the rest. -/
theorem bind_of_eq_some {α β : Type} {x : Option α} {a : α} (h : x = some a) {f : α → Option β} :
    x >>= f = f a := by
  rw [h]
  rfl

/-- An internet timestamp is one with ones for its digits too. -/
theorem readTimestamp_withOnes {s : List Char} {m : Moment} (h : readTimestamp s = some m) :
    ∃ m', readTimestamp (withOnes s) = some m' := by
  -- What is read, part after part.
  obtain ⟨⟨year, s₁⟩, hyear, h⟩ := Option.bind_eq_some_iff.mp h
  obtain ⟨s₂, hdash, h⟩ := Option.bind_eq_some_iff.mp h
  obtain ⟨⟨month, s₃⟩, hmonth, h⟩ := Option.bind_eq_some_iff.mp h
  obtain ⟨s₄, hdash', h⟩ := Option.bind_eq_some_iff.mp h
  obtain ⟨⟨day, s₅⟩, hday, h⟩ := Option.bind_eq_some_iff.mp h
  obtain ⟨s₆, hdivider, h⟩ := Option.bind_eq_some_iff.mp h
  obtain ⟨⟨hour, s₇⟩, hhour, h⟩ := Option.bind_eq_some_iff.mp h
  obtain ⟨s₈, hcolon, h⟩ := Option.bind_eq_some_iff.mp h
  obtain ⟨⟨minute, s₉⟩, hminute, h⟩ := Option.bind_eq_some_iff.mp h
  obtain ⟨s₁₀, hcolon', h⟩ := Option.bind_eq_some_iff.mp h
  obtain ⟨⟨second, s₁₁⟩, hsecond, h⟩ := Option.bind_eq_some_iff.mp h
  obtain ⟨⟨nanosecond, s₁₂⟩, hfraction, h⟩ := Option.bind_eq_some_iff.mp h
  obtain ⟨⟨offset, s₁₃⟩, hoffset, h⟩ := Option.bind_eq_some_iff.mp h
  obtain ⟨hrest, -⟩ := Option.ite_none_left_eq_some.mp h
  obtain rfl : s₁₃ = [] := by simpa using hrest
  obtain ⟨k, hleast, hmost, hyear⟩ := readNumber_withOnes hyear
  obtain rfl : k = 4 := Nat.le_antisymm (hmost 4 rfl) hleast
  obtain ⟨n, hn, hfraction⟩ := readTimestampFraction_withOnes hfraction
  obtain ⟨ahead, hahead, hoffset⟩ := readTimestampOffset_withOnes hoffset
  obtain ⟨m', hm'⟩ := localMoment?_ones hn hahead
  refine ⟨m', ?_⟩
  -- The same parts are read with ones.
  refine (bind_of_eq_some hyear).trans ?_
  refine (bind_of_eq_some (readChar_withOnes rfl hdash)).trans ?_
  refine (bind_of_eq_some (readExact_withOnes (by decide) (by decide) hmonth)).trans ?_
  refine (bind_of_eq_some (readChar_withOnes rfl hdash')).trans ?_
  refine (bind_of_eq_some (readExact_withOnes (by decide) (by decide) hday)).trans ?_
  refine (bind_of_eq_some (readTimestampDivider_withOnes hdivider)).trans ?_
  refine (bind_of_eq_some (readExact_withOnes (by decide) (by decide) hhour)).trans ?_
  refine (bind_of_eq_some (readChar_withOnes rfl hcolon)).trans ?_
  refine (bind_of_eq_some (readExact_withOnes (by decide) (by decide) hminute)).trans ?_
  refine (bind_of_eq_some (readChar_withOnes rfl hcolon')).trans ?_
  refine (bind_of_eq_some (readExact_withOnes (by decide) (by decide) hsecond)).trans ?_
  refine (bind_of_eq_some hfraction).trans ?_
  exact (bind_of_eq_some hoffset).trans hm'

/-- A text is no timestamp if it is none with ones for its digits. -/
theorem readTimestamp_eq_none {s : List Char} (h : readTimestamp (withOnes s) = none) :
    readTimestamp s = none := by
  rw [Option.eq_none_iff_forall_ne_some]
  intro m hm
  obtain ⟨m', hones⟩ := readTimestamp_withOnes hm
  exact nomatch h.symm.trans hones

/-! ### Dates of mail messages -/

theorem readBlanks_withOnes (s : List Char) :
    readBlanks (withOnes s) = (readBlanks s).map withOnes := by
  cases s with
  | nil => rfl
  | cons c s =>
    have hones : readBlanks (withOnes (c :: s)) =
        if Text.isBlank (oneFor c) then some (Text.trimStart (withOnes (c :: s))) else none := rfl
    rw [hones, isBlank_oneFor, trimStart_withOnes, readBlanks]
    split <;> rfl

/-- No name of a day of the week begins with a digit. -/
theorem readWord_weekdayStarts_eq_none {c : Char} (hc : isDigit c = true) (s : List Char) :
    readWord weekdayStarts (c :: s) = none := by
  have hwords : ∀ word ∈ weekdayStarts, word.toList.any isDigit = false := by decide
  rw [readWord, Option.map_eq_none_iff, List.findIdx?_eq_none_iff]
  intro word hword
  refine beq_false_of_ne fun heq => ?_
  have hmem : c.toLower ∈ word.toList := by
    rw [heq, String.toList_ofList]
    exact List.mem_cons_self
  have hlower := isDigit_toLower hc
  rw [isDigit_eq_false_of_any (hwords word hword) _ hmem] at hlower
  exact nomatch hlower

/-- A text that begins with a digit is no date of a mail message unless blanks follow the day. -/
theorem readMailDate_eq_none {s : List Char} (hstart : ∀ c ∈ s.head?, isDigit c = true)
    (h : ((readTwo 1 31 (withOnes s)).bind fun (_, rest) => readBlanks rest) = none) :
    readMailDate s = none := by
  rw [Option.eq_none_iff_forall_ne_some]
  intro m hm
  obtain ⟨⟨f, s₁⟩, hweekday, hm⟩ := Option.bind_eq_some_iff.mp hm
  obtain ⟨⟨day, s₂⟩, hday, hm⟩ := Option.bind_eq_some_iff.mp hm
  obtain ⟨s₃, hblanks, -⟩ := Option.bind_eq_some_iff.mp hm
  obtain rfl : s₁ = s := by
    cases s with
    | nil =>
      cases hweekday
      rfl
    | cons c s =>
      have hc := hstart c rfl
      have htrim : Text.trimStart (c :: s) = c :: s :=
        Text.trimStart_eq_self fun d hd => Decimal.isBlank_of_isDigit (hstart d hd)
      rw [readMailWeekday, htrim, readWord_weekdayStarts_eq_none hc] at hweekday
      cases hweekday
      rfl
  obtain ⟨day', hones⟩ := readsOnes_readTwo 1 31 (by decide) (by decide) hday
  have hblanks' : readBlanks (withOnes s₂) = some (withOnes s₃) := by
    rw [readBlanks_withOnes, hblanks]
    rfl
  rw [hones] at h
  exact nomatch hblanks'.symm.trans h

end FormCheck.Calendar

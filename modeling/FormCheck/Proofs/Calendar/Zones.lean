import FormCheck.Proofs.Calendar.Rendering

/-!
# Dates with a zone

A date and a time of fixed width, with `T` or a space between them and possibly with a fraction of
the second, are read with a zone after them as well as without one. With a zone the text is an
internet timestamp, without one it is read in a layout; either way the moment is the one that the
text shows, so the zone shifts neither the date nor the time.

## Main definitions

* `Calendar.WrittenMoment` : a date with a time as it is written.
* `Calendar.WrittenMoment.moment` : the moment that it shows.
* `Calendar.Zone` : a zone: universal time or an offset.

## Main results

* `Calendar.WrittenMoment.readTimestamp_zone` : with a zone the moment is read as a timestamp.
* `Calendar.WrittenMoment.readMomentLayouts_text` : without a zone it is read in a layout.
* `Calendar.readMoment_zone` : a zone makes no difference.
-/

namespace FormCheck.Calendar

open Decimal

/-! ### Written moments and zones -/

/-- A date with a time as it is written: the year with four digits, everything else with two, and
any number of digits of a fraction of the second. -/
structure WrittenMoment where
  /-- The date. -/
  date : Date
  /-- Whether a space, and not the letter `T`, stands between the date and the time. -/
  spaced : Bool
  /-- The hour. -/
  hour : Nat
  /-- The minute. -/
  minute : Nat
  /-- The second. -/
  second : Nat
  /-- The digits of the fraction. Where there are none, there is no point either. -/
  fraction : List Char
  year_nonneg : 0 ≤ date.year
  year_le : date.year ≤ 9999
  hour_lt : hour < 24
  minute_lt : minute < 60
  second_lt : second < 60
  isDigit_of_mem : ∀ c ∈ fraction, isDigit c = true

namespace WrittenMoment

variable (w : WrittenMoment)

/-- The digits of the year. -/
def year : List Char := padZeros 4 (digitsOf w.date.year.natAbs)

/-- The character between the date and the time. -/
def divider : Char := if w.spaced then ' ' else 'T'

/-- The fraction with its point. -/
def fractionText : List Char := if w.fraction = [] then [] else '.' :: w.fraction

/-- The written date. -/
def dateText : List Char :=
  w.year ++ '-' :: (twoDigits true w.date.month ++ '-' :: twoDigits true w.date.day)

/-- The written time. -/
def timeText : List Char :=
  twoDigits true w.hour ++ ':' :: (twoDigits true w.minute ++
    ':' :: (twoDigits true w.second ++ w.fractionText))

/-- The text as a whole. -/
def text : List Char := w.dateText ++ w.divider :: w.timeText

/-- The fraction in nanoseconds: its first nine digits, zeros standing for those that are not
written. -/
def nanosecond : Nat := natOf ((w.fraction ++ List.replicate 9 '0').take 9)

theorem nanosecond_lt : w.nanosecond < 1000000000 := by
  have hdigits : ∀ c ∈ (w.fraction ++ List.replicate 9 '0').take 9, isDigit c = true := by
    intro c hc
    rcases List.mem_append.mp (List.mem_of_mem_take hc) with hfraction | hzero
    · exact w.isDigit_of_mem c hfraction
    · rw [(List.mem_replicate.mp hzero).2]
      rfl
  have hlength : ((w.fraction ++ List.replicate 9 '0').take 9).length = 9 := by simp
  have hlt := natOf_lt hdigits
  rwa [hlength] at hlt

/-- The time that the text shows. -/
def time : Time where
  hour := w.hour
  minute := w.minute
  second := w.second
  nanosecond := w.nanosecond
  hour_lt := w.hour_lt
  minute_lt := w.minute_lt
  second_lt := w.second_lt
  nanosecond_lt := w.nanosecond_lt.trans (by decide)
  leap h := absurd w.nanosecond_lt (Nat.not_lt.mpr h)

/-- The moment that the text shows. -/
def moment : Moment := ⟨w.date, w.time⟩

end WrittenMoment

/-- A zone as it is written after a time. -/
inductive Zone where
  /-- Universal time. -/
  | universal
  /-- So many hours and minutes ahead of universal time or behind it. -/
  | offset (behind : Bool) (hours : Fin 24) (minutes : Fin 60)

namespace Zone

/-- The text of a zone. -/
def text : Zone → List Char
  | .universal => ['Z']
  | .offset behind hours minutes =>
    (if behind then '-' else '+') :: (twoDigits true hours ++ ':' :: twoDigits true minutes)

/-- The seconds that a zone is ahead of universal time. -/
def seconds : Zone → Int
  | .universal => 0
  | .offset behind hours minutes =>
    let ahead : Int := 3600 * (hours : Nat) + 60 * (minutes : Nat)
    if behind then -ahead else ahead

end Zone

/-! ### Parts of fixed width -/

theorem readChar_self (c : Char) (rest : List Char) : readChar c (c :: rest) = some rest :=
  if_pos rfl

theorem readLayout_literal (f : Fields) (c : Char) (items : List Item) (rest : List Char) :
    readLayout f (.literal c :: items) (c :: rest) = readLayout f items rest := by
  rw [readLayout, Item.read, if_pos rfl, Option.bind_some]

theorem readLayout_blanks (f : Fields) (items : List Item) (s : List Char) :
    readLayout f (.blanks :: items) s = readLayout f items (Text.trimStart s) := rfl

theorem readExact_twoDigits {low high n : Nat} (hlow : low ≤ n) (hhigh : n ≤ high) (hn : n < 100)
    (rest : List Char) : readExact low high (twoDigits true n ++ rest) = some (n, rest) := by
  have hvalue : natOf (twoDigits true n) = n := (natOf_padZeros 2 _).trans (natOf_digitsOf n)
  have hread := readNumber_append (fun c => isDigit_of_mem_twoDigits) (length_twoDigits hn)
    (Nat.le_refl 2) rest
  rw [hvalue] at hread
  rw [readExact, hread]
  exact if_pos ⟨hlow, hhigh⟩

/-- Digits of a fraction are read as nanoseconds, whatever follows that is no digit. -/
theorem readFraction_append {digits rest : List Char} (hdigits : ∀ c ∈ digits, isDigit c = true)
    (hne : digits ≠ []) (hrest : ∀ c ∈ rest.head?, isDigit c = false) :
    readFraction (digits ++ rest) =
      some (natOf ((digits ++ List.replicate 9 '0').take 9), rest) := by
  have hempty : (digits.take 9).isEmpty = false := by simpa using hne
  have hvalue : natOf ((digits ++ List.replicate 9 '0').take 9) =
      natOf (digits.take 9) * 10 ^ (9 - (digits.take 9).length) := by
    have hzeros : min (9 - digits.length) 9 = 9 - (digits.take 9).length := by
      rw [List.length_take]
      omega
    rw [List.take_append, List.take_replicate, natOf_append_zeros, hzeros]
  rw [readFraction, takeWhile_isDigit_append hdigits hrest, hvalue, hempty, List.drop_left]
  rfl

/-! ### The written date and time -/

namespace WrittenMoment

variable (w : WrittenMoment)

theorem year_lt : w.date.year.natAbs < 10 ^ 4 := by
  have hnonneg := w.year_nonneg
  have hle := w.year_le
  omega

theorem isDigit_of_mem_year : ∀ c ∈ w.year, isDigit c = true := fun _ => isDigit_of_mem_padZeros

theorem length_year : w.year.length = 4 := length_padZeros_digitsOf (by decide) w.year_lt

theorem natOf_year : natOf w.year = w.date.year.natAbs :=
  (natOf_padZeros 4 _).trans (natOf_digitsOf _)

/-- The year is read whatever follows. -/
theorem readNumber_year {least : Nat} (hleast : least ≤ 4) (rest : List Char) :
    readNumber least (some 4) (w.year ++ rest) = some (w.date.year.natAbs, rest) := by
  rw [readNumber_append w.isDigit_of_mem_year w.length_year hleast, natOf_year]

theorem cast_natAbs_year : (w.date.year.natAbs : Int) = w.date.year :=
  Int.natAbs_of_nonneg w.year_nonneg

theorem exists_year_eq_cons : ∃ c digits, w.year = c :: digits ∧ isDigit c = true := by
  obtain ⟨c, digits, hcons⟩ := List.exists_cons_of_length_eq_add_one w.length_year
  exact ⟨c, digits, hcons, w.isDigit_of_mem_year c (hcons ▸ List.mem_cons_self)⟩

theorem readYear_year (rest : List Char) :
    readYear (Text.trimStart (w.year ++ rest)) = some (w.date.year, rest) := by
  obtain ⟨c, digits, hcons, hc⟩ := w.exists_year_eq_cons
  have hread := w.readNumber_year (show 1 ≤ 4 by decide) rest
  have hne : w.year ≠ [] := hcons ▸ List.cons_ne_nil c digits
  rw [trimStart_append w.isDigit_of_mem_year hne]
  rw [hcons, List.cons_append] at hread ⊢
  have hminus : c ≠ '-' := fun heq => absurd hc (by rw [heq]; decide)
  have hplus : c ≠ '+' := fun heq => absurd hc (by rw [heq]; decide)
  rw [readYear_of_ne hminus hplus, hread]
  exact congrArg (fun n => some (n, rest)) w.cast_natAbs_year

/-- The parts of the moment, as they are noted. -/
def fields (nanosecond : Option Nat) : Fields where
  year := some w.date.year
  month := some w.date.month
  day := some w.date.day
  hour := some w.hour
  minute := some w.minute
  second := some w.second
  nanosecond := nanosecond

/-- The noted parts make up the moment. Where no fraction is noted, none was written. -/
theorem moment?_fields {nanosecond : Option Nat} (h : nanosecond.getD 0 = w.nanosecond) :
    (w.fields nanosecond).moment? = some w.moment := by
  have hdate : Date.ofParts? w.date.year w.date.month w.date.day = some w.date :=
    dif_pos w.date.isDate
  have htime : Time.ofParts? w.hour w.minute w.second w.nanosecond = some w.time :=
    dif_pos ⟨w.time.hour_lt, w.time.minute_lt, w.time.second_lt, w.time.nanosecond_lt, w.time.leap⟩
  -- No leap second was written, so the branch for second 60 is not taken.
  have hne : w.second ≠ 60 := w.second_lt.ne
  simp only [fields, Fields.moment?, Fields.date?, Fields.time?, Fields.fullHour?, hdate, htime, h,
    Option.getD_some, Option.bind_eq_bind, Option.bind_some]
  rfl

end WrittenMoment

/-! ### Reading with a zone -/

namespace Zone

variable (z : Zone)

/-- A zone begins with a letter or a sign. -/
theorem head?_text : ∀ c ∈ z.text.head?, c = 'Z' ∨ c = '+' ∨ c = '-' := by
  intro c hc
  cases z with
  | universal => exact .inl (Option.some.inj hc).symm
  | offset behind hours minutes =>
    cases behind
    · exact .inr (.inl (Option.some.inj hc).symm)
    · exact .inr (.inr (Option.some.inj hc).symm)

theorem isDigit_head? : ∀ c ∈ z.text.head?, isDigit c = false := by
  intro c hc
  obtain rfl | rfl | rfl := z.head?_text c hc <;> rfl

theorem isBlank_of_mem_text : ∀ c ∈ z.text, Text.isBlank c = false := by
  intro c hc
  cases z with
  | universal =>
    rw [List.mem_singleton.mp hc]
    rfl
  | offset behind hours minutes =>
    rcases List.mem_cons.mp hc with rfl | hc
    · cases behind <;> rfl
    rcases List.mem_append.mp hc with hdigit | hc
    · exact isBlank_of_isDigit (isDigit_of_mem_twoDigits hdigit)
    rcases List.mem_cons.mp hc with rfl | hdigit
    · rfl
    · exact isBlank_of_isDigit (isDigit_of_mem_twoDigits hdigit)

/-- A zone is read as its offset. -/
theorem readTimestampOffset_text : readTimestampOffset z.text = some (z.seconds, []) := by
  cases z with
  | universal => rfl
  | offset behind hours minutes =>
    have hsign (rest : List Char) :
        readTimestampOffset ((if behind then '-' else '+') :: rest) =
          readOffset true true ((if behind then '-' else '+') :: rest) := by
      cases behind <;> simp [readTimestampOffset]
    have hread (rest : List Char) :
        readSign true ((if behind then '-' else '+') :: rest) = some (behind, rest) := by
      cases behind <;> rfl
    have hminutes := readExact_twoDigits (Nat.zero_le minutes) (Nat.le_of_lt_succ minutes.isLt)
      (by omega) []
    rw [List.append_nil] at hminutes
    rw [text, hsign]
    simp only [readOffset, hread, Option.bind_eq_bind, Option.bind_some,
      readExact_twoDigits (Nat.zero_le hours) (show (hours : Nat) ≤ 99 by omega) (by omega),
      readChar, if_true, hminutes]
    rfl

theorem natAbs_seconds_lt : z.seconds.natAbs < 86400 := by
  cases z with
  | universal => decide
  | offset behind hours minutes =>
    have hhours := hours.isLt
    have hminutes := minutes.isLt
    cases behind <;> simp only [seconds, Bool.false_eq_true, if_true, if_false] <;> omega

end Zone

namespace WrittenMoment

variable (w : WrittenMoment)

theorem readTimestampDivider_divider (rest : List Char) :
    readTimestampDivider (w.divider :: rest) = some rest := by
  rw [divider]
  cases w.spaced <;> rfl

theorem readTimestampFraction_append {rest : List Char}
    (hdigit : ∀ c ∈ rest.head?, isDigit c = false) (hpoint : ∀ c ∈ rest.head?, c ≠ '.') :
    readTimestampFraction (w.fractionText ++ rest) = some (w.nanosecond, rest) := by
  by_cases hnil : w.fraction = []
  · have hzero : w.nanosecond = 0 := by rw [nanosecond, hnil]; rfl
    rw [fractionText, if_pos hnil, hzero, List.nil_append]
    cases rest with
    | nil => rfl
    | cons c rest => simp [readTimestampFraction, hpoint c rfl]
  · rw [fractionText, if_neg hnil]
    exact readFraction_append w.isDigit_of_mem hnil hdigit

/-- The moment lies in the calendar wherever the clock is. -/
theorem hasUniversal_moment (offset : Int) : w.moment.hasUniversal offset = true := by
  have hnonneg := w.year_nonneg
  have hle := w.year_le
  refine Moment.hasUniversal_of_year ?_ ?_ offset
  · show w.date.year ≠ -262143
    omega
  · show w.date.year ≠ 262142
    omega

/-- After the written moment a timestamp has its offset. -/
theorem readTimestamp_text_append {rest : List Char} (hdigit : ∀ c ∈ rest.head?, isDigit c = false)
    (hpoint : ∀ c ∈ rest.head?, c ≠ '.') :
    readTimestamp (w.text ++ rest) =
      (readTimestampOffset rest).bind fun (offset, tail) =>
        if !tail.isEmpty then none else localMoment? (w.fields (some w.nanosecond)) offset := by
  obtain ⟨-, -, hmonth, hmonth', hday, -⟩ := w.date.isDate
  have hday' := w.date.day_le
  have hhour : w.hour ≤ 23 := Nat.le_of_lt_succ w.hour_lt
  have hminute : w.minute ≤ 59 := Nat.le_of_lt_succ w.minute_lt
  have hsecond : w.second ≤ 60 := w.second_lt.le
  have htext : w.text ++ rest = w.year ++ '-' :: (twoDigits true w.date.month ++
      '-' :: (twoDigits true w.date.day ++ w.divider :: (twoDigits true w.hour ++
        ':' :: (twoDigits true w.minute ++ ':' :: (twoDigits true w.second ++
          (w.fractionText ++ rest)))))) := by
    simp only [text, dateText, timeText, List.append_assoc, List.cons_append]
  rw [htext]
  -- The parts are read one after another.
  refine (bind_of_eq_some (w.readNumber_year (Nat.le_refl 4) _)).trans ?_
  refine (bind_of_eq_some (readChar_self '-' _)).trans ?_
  refine (bind_of_eq_some (readExact_twoDigits hmonth hmonth' (by omega) _)).trans ?_
  refine (bind_of_eq_some (readChar_self '-' _)).trans ?_
  refine (bind_of_eq_some (readExact_twoDigits hday hday' (by omega) _)).trans ?_
  refine (bind_of_eq_some (w.readTimestampDivider_divider _)).trans ?_
  refine (bind_of_eq_some (readExact_twoDigits w.hour.zero_le hhour (by omega) _)).trans ?_
  refine (bind_of_eq_some (readChar_self ':' _)).trans ?_
  refine (bind_of_eq_some (readExact_twoDigits w.minute.zero_le hminute (by omega) _)).trans ?_
  refine (bind_of_eq_some (readChar_self ':' _)).trans ?_
  refine (bind_of_eq_some (readExact_twoDigits w.second.zero_le hsecond (by omega) _)).trans ?_
  refine (bind_of_eq_some (w.readTimestampFraction_append hdigit hpoint)).trans ?_
  rw [w.cast_natAbs_year]
  rfl

/-- With a zone the moment is read as a timestamp. -/
theorem readTimestamp_zone (z : Zone) : readTimestamp (w.text ++ z.text) = some w.moment := by
  have hpoint : ∀ c ∈ z.text.head?, c ≠ '.' := by
    intro c hc
    obtain rfl | rfl | rfl := z.head?_text c hc <;> decide
  rw [w.readTimestamp_text_append z.isDigit_head? hpoint, z.readTimestampOffset_text,
    Option.bind_some]
  show localMoment? (w.fields (some w.nanosecond)) z.seconds = some w.moment
  rw [localMoment?, w.moment?_fields rfl]
  exact if_pos (Bool.and_eq_true_iff.mpr
    ⟨decide_eq_true z.natAbs_seconds_lt, w.hasUniversal_moment z.seconds⟩)

/-! ### Reading without a zone -/

/-- A timestamp has an offset. -/
theorem readTimestamp_text : readTimestamp w.text = none := by
  have hread := @readTimestamp_text_append w [] (by simp) (by simp)
  rwa [List.append_nil] at hread

theorem isDigit_head?_text (rest : List Char) :
    ∀ c ∈ (w.text ++ rest).head?, isDigit c = true := by
  obtain ⟨c, digits, hcons, hc⟩ := w.exists_year_eq_cons
  intro d hd
  rw [text, dateText, hcons] at hd
  cases hd
  exact hc

/-- No blank follows the first two digits, so the text is no date of a mail message. -/
theorem readMailDate_text : readMailDate w.text = none := by
  have hstart := w.isDigit_head?_text []
  rw [List.append_nil] at hstart
  refine readMailDate_eq_none hstart ?_
  have hones : withOnes w.year = ['1', '1', '1', '1'] := by
    rw [withOnes_of_forall_isDigit w.isDigit_of_mem_year, w.length_year]
    rfl
  rw [text, dateText, List.append_assoc, withOnes, List.map_append, ← withOnes, hones]
  rfl

/-- A layout that begins with the date reads the written date. -/
theorem readLayout_dateText (items : List Item) (rest : List Char) :
    readLayout .empty (yearFirst '-' ++ items) (w.dateText ++ rest) =
      readLayout { Fields.empty with
        year := some w.date.year, month := some w.date.month, day := some w.date.day }
        items rest := by
  obtain ⟨-, -, hmonth, hmonth', hday, -⟩ := w.date.isDate
  have hday' := w.date.day_le
  simp only [yearFirst, dateText, List.append_assoc, List.cons_append, List.nil_append, readLayout,
    Item.read, Option.map_some, Option.bind_some, if_true, w.readYear_year,
    readTwo_twoDigits hmonth hmonth' (by omega), readTwo_twoDigits hday hday' (by omega)]

/-- The written time is read with its fraction, if there is one. -/
theorem exists_readLayout_timeText :
    ∃ nanosecond : Option Nat, nanosecond.getD 0 = w.nanosecond ∧
      readLayout { Fields.empty with
        year := some w.date.year, month := some w.date.month, day := some w.date.day }
        (hourMinuteSecond ++ [.fraction]) w.timeText = some (w.fields nanosecond) := by
  have hhour : w.hour ≤ 23 := Nat.le_of_lt_succ w.hour_lt
  have hminute : w.minute ≤ 59 := Nat.le_of_lt_succ w.minute_lt
  have hsecond : w.second ≤ 60 := w.second_lt.le
  have hclock : readLayout { Fields.empty with
      year := some w.date.year, month := some w.date.month, day := some w.date.day }
      (hourMinuteSecond ++ [.fraction]) w.timeText =
        readLayout (w.fields none) [.fraction] w.fractionText := by
    simp only [hourMinuteSecond, hourMinute, timeText, List.cons_append, List.nil_append,
      readLayout, Item.read, Option.map_some, Option.bind_some, if_true,
      readTwo_twoDigits w.hour.zero_le hhour (by omega),
      readTwo_twoDigits w.minute.zero_le hminute (by omega),
      readTwo_twoDigits w.second.zero_le hsecond (by omega)]
    rfl
  rw [hclock]
  by_cases hnil : w.fraction = []
  · refine ⟨none, ?_, ?_⟩
    · rw [nanosecond, hnil]
      rfl
    · rw [fractionText, if_pos hnil]
      rfl
  · have hread := @readFraction_append _ [] w.isDigit_of_mem hnil (by simp)
    rw [List.append_nil] at hread
    refine ⟨some w.nanosecond, rfl, ?_⟩
    rw [fractionText, if_neg hnil]
    simp only [readLayout, Item.read, hread, Option.map_some, Option.bind_some]
    rfl

theorem trimStart_timeText : Text.trimStart w.timeText = w.timeText := by
  have hlength := length_twoDigits (w.hour_lt.trans (by decide))
  exact trimStart_append (fun _ => isDigit_of_mem_twoDigits)
    (List.ne_nil_of_length_pos (by rw [hlength]; decide)) _

/-- Without a zone the moment is read in a layout. -/
theorem readMomentLayouts_text : readMomentLayouts w.text = some w.moment := by
  obtain ⟨nanosecond, hnanosecond, htime⟩ := w.exists_readLayout_timeText
  have hmoment := w.moment?_fields hnanosecond
  cases hspaced : w.spaced with
  | false =>
    have hletter : readLayout .empty
        (yearFirst '-' ++ .literal 'T' :: hourMinuteSecond ++ [.fraction]) w.text =
          some (w.fields nanosecond) := by
      rw [text, divider, hspaced, List.append_assoc, readLayout_dateText]
      exact (readLayout_literal _ 'T' _ _).trans htime
    rw [readMomentLayouts, momentLayouts, List.findSome?_cons, hletter, Option.bind_some, hmoment]
  | true =>
    -- The layouts with the letter are refused at the space.
    have hletter (items : List Item) :
        readLayout .empty (yearFirst '-' ++ .literal 'T' :: items) w.text = none := by
      rw [text, divider, hspaced, readLayout_dateText]
      rfl
    have hblanks : readLayout .empty
        (yearFirst '-' ++ .blanks :: hourMinuteSecond ++ [.fraction]) w.text =
          some (w.fields nanosecond) := by
      have htrim : Text.trimStart (' ' :: w.timeText) = w.timeText := w.trimStart_timeText
      rw [text, divider, hspaced, if_pos rfl, List.append_assoc, readLayout_dateText,
        List.cons_append, readLayout_blanks, htrim, htime]
    rw [readMomentLayouts, momentLayouts, List.findSome?_cons, List.findSome?_cons,
      List.findSome?_cons, hblanks, List.append_assoc, List.cons_append, hletter, hletter,
      Option.bind_none, Option.bind_some, hmoment]

/-! ### Reading with and without a zone -/

theorem isBlank_of_mem_fractionText : ∀ c ∈ w.fractionText, Text.isBlank c = false := by
  intro c hc
  rw [fractionText] at hc
  split at hc
  · exact absurd hc List.not_mem_nil
  · rcases List.mem_cons.mp hc with rfl | hdigit
    · rfl
    · exact isBlank_of_isDigit (w.isDigit_of_mem c hdigit)

/-- No blanks are taken away from the text and from what follows it. -/
theorem trim_text_append {rest : List Char} (hrest : ∀ c ∈ rest, Text.isBlank c = false) :
    Text.trim (w.text ++ rest) = w.text ++ rest := by
  have hending : ∀ c ∈ twoDigits true w.second ++ (w.fractionText ++ rest),
      Text.isBlank c = false := by
    intro c hc
    rcases List.mem_append.mp hc with hdigit | hc
    · exact isBlank_of_isDigit (isDigit_of_mem_twoDigits hdigit)
    rcases List.mem_append.mp hc with hfraction | hrest'
    · exact w.isBlank_of_mem_fractionText c hfraction
    · exact hrest c hrest'
  have hsecond : twoDigits true w.second ≠ [] :=
    List.ne_nil_of_length_pos (by rw [length_twoDigits (w.second_lt.trans (by decide))]; decide)
  have hne : twoDigits true w.second ++ (w.fractionText ++ rest) ≠ [] :=
    List.append_ne_nil_of_left_ne_nil hsecond _
  obtain ⟨before, hbefore⟩ : ∃ before,
      w.text ++ rest = before ++ (twoDigits true w.second ++ (w.fractionText ++ rest)) :=
    ⟨w.dateText ++ w.divider ::
      (twoDigits true w.hour ++ ':' :: (twoDigits true w.minute ++ [':'])),
      by simp only [text, timeText, List.append_assoc, List.cons_append, List.nil_append]⟩
  refine Text.trim_eq_self (fun c hc => isBlank_of_isDigit (w.isDigit_head?_text rest c hc))
    fun c hc => hending c ?_
  rw [hbefore, List.getLast?_append, List.getLast?_eq_some_getLast hne, Option.some_or] at hc
  exact Option.some.inj hc ▸ List.getLast_mem hne

/-- The readers are tried in turn on the text and on what follows it. -/
theorem readMoment_text_append {rest : List Char} (hrest : ∀ c ∈ rest, Text.isBlank c = false) :
    readMoment (String.ofList (w.text ++ rest)) =
      (readTimestamp (w.text ++ rest) <|> readMailDate (w.text ++ rest) <|>
        readMomentLayouts (w.text ++ rest) <|> readDateLayouts (w.text ++ rest)) := by
  have hne : (w.text ++ rest).isEmpty = false := by
    obtain ⟨c, digits, hcons, -⟩ := w.exists_year_eq_cons
    rw [text, dateText, hcons]
    rfl
  rw [readMoment, String.toList_ofList, readMomentChars, w.trim_text_append hrest, hne]
  rfl

end WrittenMoment

/-- The zone of a written moment shifts neither the date nor the time: the moment is read as it is
written, with the zone and without it. -/
theorem readMoment_zone (w : WrittenMoment) (z : Zone) :
    readMoment (String.ofList (w.text ++ z.text)) = readMoment (String.ofList w.text) ∧
      readMoment (String.ofList w.text) = some w.moment := by
  have hzone : readMoment (String.ofList (w.text ++ z.text)) = some w.moment := by
    rw [w.readMoment_text_append z.isBlank_of_mem_text, w.readTimestamp_zone z]
    rfl
  have hplain : readMoment (String.ofList w.text) = some w.moment := by
    have hread := @WrittenMoment.readMoment_text_append w [] (by simp)
    rw [List.append_nil, w.readTimestamp_text, w.readMailDate_text, w.readMomentLayouts_text]
      at hread
    exact hread
  exact ⟨hzone.trans hplain.symm, hplain⟩

/-- The last second of the last year, in a zone far behind universal time. -/
theorem readMoment_zone_behind :
    let w : WrittenMoment :=
      ⟨⟨9999, 12, 31, by decide⟩, true, 23, 59, 59, ['5'], by decide, by decide, by decide,
        by decide, by decide, List.forall_mem_singleton.mpr rfl⟩
    readMoment "9999-12-31 23:59:59.5-23:59" = readMoment "9999-12-31 23:59:59.5" ∧
      readMoment "9999-12-31 23:59:59.5" = some w.moment ∧ w.time.nanosecond = 500000000 := by
  intro w
  have htext : String.ofList w.text = "9999-12-31 23:59:59.5" := by decide +kernel
  have hzone : String.ofList (w.text ++ (Zone.offset true 23 59).text) =
      "9999-12-31 23:59:59.5-23:59" := by decide +kernel
  obtain ⟨hsame, hmoment⟩ := readMoment_zone w (.offset true 23 59)
  rw [hzone, htext] at hsame
  rw [htext] at hmoment
  exact ⟨hsame, hmoment, by decide +kernel⟩

end FormCheck.Calendar

import FormCheck.Unicode.CaseFold

/-!
# Case folding of ASCII sets

The orbits of case folding with an ASCII member are those of the letters. Each consists of a capital
and its small letter, and two of them hold one more character outside ASCII: the Kelvin sign in the
orbit of `k` and the long s in the orbit of `s`. A set of ASCII characters is therefore closed by a
look at these orbits, and there is no need to go through the whole table.

## Main definitions

* `Unicode.asciiOrbits` : the orbits of the ASCII letters.

## Main results

* `Unicode.foldOrbits_filter_ascii` : these are all orbits with an ASCII member.
* `CodeSet.caseClosed_of_isAscii` : the case closure of an ASCII set.
-/

namespace FormCheck

/-- The orbits of the ASCII letters, first those with two members. -/
def Unicode.asciiOrbits : List (List Nat) :=
  (((List.range 26).filter fun i => i ≠ 0x4B - 0x41 ∧ i ≠ 0x53 - 0x41).map fun i =>
    [0x41 + i, 0x61 + i]) ++ [[0x4B, 0x6B, 0x212A], [0x53, 0x73, 0x17F]]

/-- The orbits of the ASCII letters are those with an ASCII member. -/
theorem Unicode.foldOrbits_filter_ascii :
    (Unicode.foldOrbits.filter fun orbit => orbit.any (· < 0x80)) = Unicode.asciiOrbits := by
  decide +kernel

namespace CodeSet

/-- The members of an ASCII set are ASCII characters. -/
theorem lt_of_contains_of_isAscii {s : CodeSet} (h : s.isAscii = true) {c : Nat}
    (hc : s.contains c = true) : c < 0x80 := by
  obtain ⟨ranges⟩ := s
  induction ranges with
  | nil => cases hc
  | cons range ranges ih =>
    obtain ⟨hhigh, hrest⟩ : range.2 < 0x80 ∧ isAscii ⟨ranges⟩ = true := by
      simpa [isAscii] using h
    rcases ((inRanges_cons_iff c range.1 range.2 ranges).mp hc).2 with hle | hin
    · omega
    · exact ih hrest hin

/-- The case closure of an ASCII set is found in the orbits of the ASCII letters. -/
theorem caseClosed_of_isAscii {s : CodeSet} (h : s.isAscii = true) :
    s.caseClosed = s.union (ofRanges
      ((Unicode.asciiOrbits.filter fun orbit => orbit.any s.contains).flatten.map fun c =>
        (c, c))) := by
  have htouched : (Unicode.foldOrbits.filter fun orbit => orbit.any s.contains) =
      Unicode.asciiOrbits.filter fun orbit => orbit.any s.contains := by
    rw [← Unicode.foldOrbits_filter_ascii, List.filter_filter]
    refine List.filter_congr fun orbit _ => ?_
    rw [Bool.eq_iff_iff, Bool.and_eq_true, iff_self_and]
    intro hany
    obtain ⟨c, hmem, hc⟩ := List.any_eq_true.mp hany
    exact List.any_eq_true.mpr ⟨c, hmem, by simpa using lt_of_contains_of_isAscii h hc⟩
  rw [caseClosed, htouched]

end CodeSet

end FormCheck

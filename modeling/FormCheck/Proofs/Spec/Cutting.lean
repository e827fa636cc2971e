import FormCheck.Proofs.Spec.Brackets

/-!
# Cutting a spec into its pieces

A bar separates when, since the bar that separated last, as many brackets were opened as closed.
This determines the pieces of every text, also where brackets never close, close too often or are
escaped: the scan, which counts over the whole text and never starts again, finds these pieces and
no others.

## Main definitions

* `Spec.IsWhole` : no bar of a text separates.
* `Spec.IsCutting` : pieces with separating bars between them and none inside them.

## Main results

* `Spec.pieces_append_bar` : the pieces of two texts with a separating bar between them.
* `Spec.isCutting_iff` : the pieces that the scan finds are the only cutting.
* `Spec.exists_cutting_tokens` : the tokens of a spec come from its only cutting.
-/

namespace FormCheck.Spec

/-- No bar of a text separates: before each of them, the numbers of opened and of closed brackets
differ. -/
def IsWhole (s : List Char) : Prop := ∀ i < s.length, s[i]? = some '|' → ¬ IsLevel (s.take i)

instance (s : List Char) : Decidable (IsWhole s) :=
  inferInstanceAs (Decidable (∀ i < s.length, s[i]? = some '|' → ¬ IsLevel (s.take i)))

/-- The pieces of a text between its separating bars. A piece starts at the start of the text or
right after a bar, so a run of backslashes before a bracket lies inside the piece. -/
structure IsCutting (s : List Char) (pieces : List (List Char)) : Prop where
  /-- With bars between them the pieces are the text. -/
  join_eq : join pieces = s
  /-- There is a piece. -/
  ne_nil : pieces ≠ []
  /-- The bar after a piece separates: as many brackets were opened as closed since the last. -/
  isLevel : ∀ piece ∈ pieces.dropLast, IsLevel piece
  /-- A bar inside a piece does not separate. -/
  isWhole : ∀ piece ∈ pieces, IsWhole piece

/-! ### Texts without separating bars -/

theorem isWhole_nil : IsWhole [] := by decide

theorem isWhole_concat {s : List Char} {c : Char} :
    IsWhole (s ++ [c]) ↔ IsWhole s ∧ (c = '|' → ¬ IsLevel s) := by
  constructor
  · intro h
    constructor
    · intro i hi hbar
      have hlt : i < (s ++ [c]).length := by
        rw [List.length_append]
        omega
      have hlevel := h i hlt (by rwa [List.getElem?_append_left hi])
      rwa [List.take_append_of_le_length (Nat.le_of_lt hi)] at hlevel
    · intro hc
      have hlevel := h s.length (by simp) (by simp [hc])
      rwa [List.take_left] at hlevel
  · rintro ⟨hs, hc⟩ i hi hbar
    rw [List.length_append, List.length_singleton] at hi
    by_cases hlt : i < s.length
    · rw [List.getElem?_append_left hlt] at hbar
      rw [List.take_append_of_le_length (Nat.le_of_lt hlt)]
      exact hs i hlt hbar
    · obtain rfl : i = s.length := by omega
      rw [List.take_left]
      exact hc (by simpa using hbar)

theorem IsWhole.of_append {a b : List Char} (h : IsWhole (a ++ b)) : IsWhole a := by
  induction b using List.reverseRecOn with
  | nil => simpa using h
  | append_singleton b c ih =>
    rw [← List.append_assoc] at h
    exact ih (isWhole_concat.mp h).1

/-! ### The scan after a text

The scan starts with a flag that is off and with balance zero, so after the text `a` its flag is
`IsEscaping a` and its balance is `depth a`, be there separating bars in `a` or not. -/

theorem cut_ne_nil (escaped : Bool) (d : Int) (t : List Char) : cut escaped d t ≠ [] := by
  cases t with
  | nil => exact List.cons_ne_nil _ _
  | cons c t =>
    rw [cut]
    split
    · exact List.cons_ne_nil _ _
    · unfold consFirst
      split <;> exact List.cons_ne_nil _ _

theorem consFirst_append (c : Char) {ps : List (List Char)} (h : ps ≠ []) (qs : List (List Char)) :
    consFirst c (ps ++ qs) = consFirst c ps ++ qs := by
  obtain ⟨p, ps, rfl⟩ := List.exists_cons_of_ne_nil h
  rfl

/-- Reading one more character. Whether it separates or not, the scan goes on with the flag and the
balance of the longer text. -/
theorem cut_cons (a : List Char) (c : Char) (t : List Char) :
    cut (decide (IsEscaping a)) (depth a) (c :: t) =
      if c = '|' ∧ IsLevel a then
        [] :: cut (decide (IsEscaping (a ++ [c]))) (depth (a ++ [c])) t
      else consFirst c (cut (decide (IsEscaping (a ++ [c]))) (depth (a ++ [c])) t) := by
  rw [cut, decide_isEscaping_concat, depth_concat]
  simp only [isLevel_iff_depth_eq_zero]
  split
  · next h =>
    have hweight (escaped : Bool) : weight escaped '|' = 0 := by cases escaped <;> rfl
    rw [h.1, hweight, Int.add_zero]
  · rfl

/-- Reading a character that does not separate. -/
theorem cut_cons_of_isWhole {a : List Char} {c : Char} (h : IsWhole (a ++ [c])) (t : List Char) :
    cut (decide (IsEscaping a)) (depth a) (c :: t) =
      consFirst c (cut (decide (IsEscaping (a ++ [c]))) (depth (a ++ [c])) t) := by
  rw [cut_cons, if_neg fun hbar => (isWhole_concat.mp h).2 hbar.1 hbar.2]

/-- Reading a bar that separates. The scan goes on as if the text began after the bar. -/
theorem cut_bar {a : List Char} (h : IsLevel a) (t : List Char) :
    cut (decide (IsEscaping a)) (depth a) ('|' :: t) = [] :: pieces t := by
  have hd : depth a = 0 := isLevel_iff_depth_eq_zero.mp h
  have hflag : escapes (decide (IsEscaping a)) '|' = false := by simp [escapes]
  rw [cut, if_pos ⟨rfl, hd⟩, hflag, hd, pieces]

/-- Reading the last piece to its end. -/
theorem cut_eq_singleton {a b : List Char} (h : IsWhole (a ++ b)) :
    cut (decide (IsEscaping a)) (depth a) b = [b] := by
  induction b generalizing a with
  | nil => rfl
  | cons c b ih =>
    rw [List.append_cons] at h
    rw [cut_cons_of_isWhole h.of_append, ih h, consFirst]

/-- Reading a text to a bar behind it that separates. -/
theorem cut_append_bar {a b : List Char} (h : IsLevel (a ++ b)) (t : List Char) :
    cut (decide (IsEscaping a)) (depth a) (b ++ '|' :: t) =
      cut (decide (IsEscaping a)) (depth a) b ++ pieces t := by
  induction b generalizing a with
  | nil => exact cut_bar (by simpa using h) t
  | cons c b ih =>
    rw [List.append_cons] at h
    rw [List.cons_append, cut_cons, cut_cons, ih h]
    split
    · rfl
    · exact consFirst_append c (cut_ne_nil _ _ _) _

theorem pieces_eq_singleton {s : List Char} (h : IsWhole s) : pieces s = [s] :=
  cut_eq_singleton (a := []) h

/-- Behind a text that opens as many brackets as it closes a bar separates, and the pieces are those
of the two texts. -/
theorem pieces_append_bar {s : List Char} (h : IsLevel s) (t : List Char) :
    pieces (s ++ '|' :: t) = pieces s ++ pieces t :=
  cut_append_bar (a := []) h t

/-! ### Cuttings -/

theorem isCutting_singleton {s : List Char} (h : IsWhole s) : IsCutting s [s] where
  join_eq := rfl
  ne_nil := List.cons_ne_nil _ _
  isLevel := by simp
  isWhole := by simpa using h

theorem IsCutting.cons {p t : List Char} {ps : List (List Char)} (h : IsWhole p) (hl : IsLevel p)
    (ht : IsCutting t ps) : IsCutting (p ++ '|' :: t) (p :: ps) := by
  obtain ⟨q, qs, rfl⟩ := List.exists_cons_of_ne_nil ht.ne_nil
  refine ⟨?_, List.cons_ne_nil _ _, ?_, ?_⟩
  · rw [join, ht.join_eq]
    exact List.cons_ne_nil _ _
  · rw [List.dropLast_cons_cons, List.forall_mem_cons]
    exact ⟨hl, ht.isLevel⟩
  · rw [List.forall_mem_cons]
    exact ⟨h, ht.isWhole⟩

/-- The pieces of a cutting are those that the scan finds. -/
theorem IsCutting.pieces_eq {s : List Char} {ps : List (List Char)} (h : IsCutting s ps) :
    pieces s = ps := by
  induction ps generalizing s with
  | nil => exact absurd rfl h.ne_nil
  | cons p ps ih =>
    have hp : IsWhole p := h.isWhole p List.mem_cons_self
    cases ps with
    | nil =>
      obtain rfl : p = s := h.join_eq
      exact pieces_eq_singleton hp
    | cons q qs =>
      obtain rfl : p ++ '|' :: join (q :: qs) = s := h.join_eq
      have hl : IsLevel p := h.isLevel p List.mem_cons_self
      have ht : IsCutting (join (q :: qs)) (q :: qs) :=
        ⟨rfl, List.cons_ne_nil _ _, fun r hr => h.isLevel r (List.mem_cons_of_mem _ hr),
          fun r hr => h.isWhole r (List.mem_cons_of_mem _ hr)⟩
      rw [pieces_append_bar hl, pieces_eq_singleton hp, ih ht, List.singleton_append]

/-- Whatever the scan has read of the piece it is in, it ends with a cutting. -/
theorem exists_isCutting_append {a : List Char} (ha : IsWhole a) (t : List Char) :
    ∃ ps, IsCutting (a ++ t) ps := by
  induction t generalizing a with
  | nil => exact ⟨[a], by simpa using isCutting_singleton ha⟩
  | cons c t ih =>
    by_cases hbar : c = '|' ∧ IsLevel a
    · obtain ⟨rfl, hl⟩ := hbar
      obtain ⟨ps, hps⟩ := ih isWhole_nil
      exact ⟨a :: ps, hps.cons ha hl⟩
    · have hac : IsWhole (a ++ [c]) :=
        isWhole_concat.mpr ⟨ha, fun hc hl => hbar ⟨hc, hl⟩⟩
      rw [List.append_cons]
      exact ih hac

theorem isCutting_pieces (s : List Char) : IsCutting s (pieces s) := by
  obtain ⟨ps, hps⟩ := exists_isCutting_append isWhole_nil s
  rw [List.nil_append] at hps
  rwa [hps.pieces_eq]

/-- The pieces that the scan finds are the only cutting of a text. -/
theorem isCutting_iff {s : List Char} {ps : List (List Char)} : IsCutting s ps ↔ pieces s = ps :=
  ⟨IsCutting.pieces_eq, fun h => h ▸ isCutting_pieces s⟩

/-- A spec has exactly one cutting. Joined by bars its pieces give back the spec; trimmed, without
the empty ones and with only the first of equal ones, they are the tokens. -/
theorem exists_cutting_tokens (spec : String) :
    ∃ ps, (∀ qs, IsCutting spec.toList qs ↔ qs = ps) ∧ join ps = spec.toList ∧
      tokens spec =
        (((ps.map Text.trim).filter (· ≠ [])).eraseDups).map String.ofList := by
  refine ⟨pieces spec.toList, fun qs => isCutting_iff.trans eq_comm,
    (isCutting_pieces spec.toList).join_eq, ?_⟩
  have hnonempty : (fun t : List Char => !t.isEmpty) = fun t => decide (t ≠ []) := by
    funext t
    cases t <;> rfl
  rw [tokens, tokensOf, hnonempty]

end FormCheck.Spec

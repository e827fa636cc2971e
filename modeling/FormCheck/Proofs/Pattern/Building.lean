import FormCheck.Pattern.Basic
import FormCheck.Proofs.Pattern.Following

/-!
# The machine of a pattern

The machine of a pattern is put together from the end: each part of the pattern adds its states in
front of the first state of what is there already. The states of a part lead from its own first
state to the first state of what was there before, and the places at which they are entered and
left are the places between which the part spans the text. This holds in any array of states that
holds the added ones, so it survives all that is added later, and it is enough to show it for one
way of putting parts together at a time.

In the direction from acceptance to a spanned text, the number of steps to acceptance goes down on
the way through a part. This is what the induction for a loop needs.

## Main definitions

* `Pattern.Machine.Fragment` : some states lead from one state to another just as a relation leads
  from one place to another.
* `Pattern.Machine.Builds` : a way of adding states adds a fragment for a relation.

## Main results

* `Pattern.Machine.builds_prepend` : the states added for a pattern lead from a place to another
  if and only if the pattern spans the text between them.
* `Pattern.Machine.occursIn_ofExpr` : the machine of a pattern finds out whether the pattern spans
  some part of a text.
* `Pattern.occurs_iff` : when a pattern text occurs in a value.
-/

namespace FormCheck.Pattern.Machine

/-! ### Fragments -/

/-- From the state `enter` to the state `exit`, the states of an array lead just as a relation leads
from one place to another. -/
structure Fragment (states : Array State) (enter exit : Nat) (r : Place → Place → Prop) : Prop where
  /-- Acceptance behind the relation gives acceptance in front of it. -/
  accepts : ∀ {p q}, r p q → Accepts states exit q → Accepts states enter p
  /-- Acceptance comes through the relation and takes no more steps behind it. -/
  exists_acceptsIn : ∀ {steps p}, AcceptsIn states steps enter p →
    ∃ q, r p q ∧ ∃ left ≤ steps, AcceptsIn states left exit q

namespace Fragment

variable {states : Array State} {enter middle exit number left right : Nat}
  {r r' : Place → Place → Prop}

theorem congr (h : Fragment states enter exit r) (hr : ∀ p q, r p q ↔ r' p q) :
    Fragment states enter exit r' := by
  obtain rfl : r = r' := funext fun p => funext fun q => propext (hr p q)
  exact h

/-- No states lead from a place to itself. -/
theorem refl : Fragment states enter enter (· = ·) where
  accepts := by
    rintro p _ rfl h
    exact h
  exists_acceptsIn h := ⟨_, rfl, _, Nat.le_refl _, h⟩

theorem eat {set : CodeSet} (h : states[number]? = some (.eat set exit)) :
    Fragment states number exit (Place.Reads set) where
  accepts hr hexit := (accepts_eat_iff h).mpr ⟨_, hr, hexit⟩
  exists_acceptsIn := by
    intro steps p hsteps
    obtain ⟨steps, rfl⟩ := hsteps.exists_eq_succ
    obtain ⟨q, hr, hexit⟩ := (acceptsIn_eat_iff h).mp hsteps
    exact ⟨q, hr, steps, Nat.le_succ _, hexit⟩

theorem check {condition : Look} (h : states[number]? = some (.check condition exit)) :
    Fragment states number exit
      (fun p q => p = q ∧ holds condition p.before p.after.head? = true) where
  accepts := by
    rintro p _ ⟨rfl, hholds⟩ hexit
    exact (accepts_check_iff h).mpr ⟨hholds, hexit⟩
  exists_acceptsIn := by
    intro steps p hsteps
    obtain ⟨steps, rfl⟩ := hsteps.exists_eq_succ
    obtain ⟨hholds, hexit⟩ := (acceptsIn_check_iff h).mp hsteps
    exact ⟨p, ⟨rfl, hholds⟩, steps, Nat.le_succ _, hexit⟩

/-- One fragment after another. -/
theorem comp (h : Fragment states enter middle r) (h' : Fragment states middle exit r') :
    Fragment states enter exit (fun p q => ∃ between, r p between ∧ r' between q) where
  accepts := by
    rintro p q ⟨between, hr, hr'⟩ hexit
    exact h.accepts hr (h'.accepts hr' hexit)
  exists_acceptsIn := by
    intro steps p hsteps
    obtain ⟨between, hr, left, hleft, hmiddle⟩ := h.exists_acceptsIn hsteps
    obtain ⟨q, hr', left', hleft', hexit⟩ := h'.exists_acceptsIn hmiddle
    exact ⟨q, ⟨between, hr, hr'⟩, left', Nat.le_trans hleft' hleft, hexit⟩

/-- One of two fragments. -/
theorem fork (hfork : states[number]? = some (.fork left right))
    (h : Fragment states left exit r) (h' : Fragment states right exit r') :
    Fragment states number exit (fun p q => r p q ∨ r' p q) where
  accepts := by
    rintro p q (hr | hr') hexit
    · exact (accepts_fork_iff hfork).mpr (.inl (h.accepts hr hexit))
    · exact (accepts_fork_iff hfork).mpr (.inr (h'.accepts hr' hexit))
  exists_acceptsIn := by
    intro steps p hsteps
    obtain ⟨steps, rfl⟩ := hsteps.exists_eq_succ
    rcases (acceptsIn_fork_iff hfork).mp hsteps with hleft | hright
    · obtain ⟨q, hr, fewer, hfewer, hexit⟩ := h.exists_acceptsIn hleft
      exact ⟨q, .inl hr, fewer, Nat.le_succ_of_le hfewer, hexit⟩
    · obtain ⟨q, hr', fewer, hfewer, hexit⟩ := h'.exists_acceptsIn hright
      exact ⟨q, .inr hr', fewer, Nat.le_succ_of_le hfewer, hexit⟩

/-- A fragment that leads back to a fork in front of it, any number of times. -/
theorem loop (hfork : states[number]? = some (.fork enter exit))
    (h : Fragment states enter number r) :
    Fragment states number exit (fun p q => ∃ count, Times r count p q) where
  accepts := by
    rintro p q ⟨count, htimes⟩ hexit
    induction count generalizing p with
    | zero =>
      obtain rfl : p = q := htimes
      exact (accepts_fork_iff hfork).mpr (.inr hexit)
    | succ count ih =>
      obtain ⟨between, hr, hrest⟩ := htimes
      exact (accepts_fork_iff hfork).mpr (.inl (h.accepts hr (ih hrest)))
  exists_acceptsIn := by
    intro steps
    induction steps using Nat.strongRecOn with
    | ind steps ih =>
      intro p hsteps
      obtain ⟨steps, rfl⟩ := hsteps.exists_eq_succ
      rcases (acceptsIn_fork_iff hfork).mp hsteps with hbody | hexit
      · obtain ⟨between, hr, fewer, hfewer, hagain⟩ := h.exists_acceptsIn hbody
        obtain ⟨q, ⟨count, htimes⟩, left, hleft, hexit⟩ :=
          ih fewer (Nat.lt_succ_of_le hfewer) hagain
        exact ⟨q, ⟨count + 1, between, hr, htimes⟩, left,
          Nat.le_trans hleft (Nat.le_succ_of_le hfewer), hexit⟩
      · exact ⟨p, ⟨0, rfl⟩, steps, Nat.le_succ _, hexit⟩

end Fragment

/-! ### Adding states -/

/-- The states of a machine stay what they are, under the same numbers, in another one. -/
structure Keeps (m m' : Machine) : Prop where
  /-- There are no fewer states. -/
  size_le : m.states.size ≤ m'.states.size
  /-- The states of the first machine are states of the second. -/
  getElem?_eq : ∀ number < m.states.size, m'.states[number]? = m.states[number]?

/-- An array holds the states that a machine has beyond those of another one. -/
def HoldsAdded (states : Array State) (m m' : Machine) : Prop :=
  ∀ number, m.states.size ≤ number → number < m'.states.size →
    states[number]? = m'.states[number]?

section Adding

variable {m m' m'' : Machine} {states : Array State}

theorem Keeps.trans (h : Keeps m m') (h' : Keeps m' m'') : Keeps m m'' :=
  ⟨Nat.le_trans h.size_le h'.size_le, fun number hlt =>
    (h'.getElem?_eq number (Nat.lt_of_lt_of_le hlt h.size_le)).trans (h.getElem?_eq number hlt)⟩

/-- The added states are those added first and those added later. -/
theorem HoldsAdded.split (h : HoldsAdded states m m'') (hkeeps : Keeps m m')
    (hkeeps' : Keeps m' m'') : HoldsAdded states m m' ∧ HoldsAdded states m' m'' := by
  constructor
  · intro number hle hlt
    rw [h number hle (Nat.lt_of_lt_of_le hlt hkeeps'.size_le), hkeeps'.getElem?_eq number hlt]
  · exact fun number hle hlt => h number (Nat.le_trans hkeeps.size_le hle) hlt

theorem keeps_add (m : Machine) (s : State) : Keeps m (m.add s) := by
  refine ⟨by simp [add], fun number hlt => ?_⟩
  simp [add, Array.getElem?_push, Nat.ne_of_lt hlt]

theorem HoldsAdded.getElem?_size {s : State} (h : HoldsAdded states m (m.add s)) :
    states[m.states.size]? = some s := by
  rw [h m.states.size (Nat.le_refl _) (by simp [add])]
  simp [add]

end Adding

/-! ### Ways of adding states -/

/-- A way of adding states in front of the first state of a machine adds a fragment for a
relation. -/
structure Builds (part : Machine → Machine) (r : Place → Place → Prop) : Prop where
  /-- What is there stays there. -/
  keeps : ∀ m, Keeps m (part m)
  /-- What is added leads to the first state of what was there. -/
  fragment : ∀ {m states}, HoldsAdded states m (part m) →
    Fragment states (part m).start m.start r

namespace Builds

variable {part first second : Machine → Machine} {r r' : Place → Place → Prop}

theorem congr (h : Builds part r) (hr : ∀ p q, r p q ↔ r' p q) : Builds part r' :=
  ⟨h.keeps, fun hstates => (h.fragment hstates).congr hr⟩

theorem refl : Builds id (· = ·) :=
  ⟨fun _ => ⟨Nat.le_refl _, fun _ _ => rfl⟩, fun _ => .refl⟩

theorem eat (set : CodeSet) : Builds (fun m => m.add (.eat set m.start)) (Place.Reads set) :=
  ⟨fun m => keeps_add m _, fun hstates => .eat hstates.getElem?_size⟩

theorem check (condition : Look) :
    Builds (fun m => m.add (.check condition m.start))
      (fun p q => p = q ∧ holds condition p.before p.after.head? = true) :=
  ⟨fun m => keeps_add m _, fun hstates => .check hstates.getElem?_size⟩

/-- One part in front of another. -/
theorem comp (h : Builds first r) (h' : Builds second r') :
    Builds (fun m => first (second m)) (fun p q => ∃ between, r p between ∧ r' between q) := by
  refine ⟨fun m => (h'.keeps m).trans (h.keeps _), fun hstates => ?_⟩
  obtain ⟨hsecond, hfirst⟩ := hstates.split (h'.keeps _) (h.keeps _)
  exact (h.fragment hfirst).comp (h'.fragment hsecond)

/-- Two parts side by side. -/
theorem alt (h : Builds first r) (h' : Builds second r') :
    Builds (fun m => (second ⟨(first m).states, m.start⟩).add
      (.fork (first m).start (second ⟨(first m).states, m.start⟩).start))
      (fun p q => r p q ∨ r' p q) := by
  have hkeeps : ∀ m, Keeps m ⟨(first m).states, m.start⟩ := fun m =>
    ⟨(h.keeps m).size_le, (h.keeps m).getElem?_eq⟩
  refine ⟨fun m => ((hkeeps m).trans (h'.keeps _)).trans (keeps_add _ _), fun {m} _ hstates => ?_⟩
  obtain ⟨hparts, hfork⟩ := hstates.split ((hkeeps m).trans (h'.keeps _)) (keeps_add _ _)
  obtain ⟨hfirst, hsecond⟩ := hparts.split (hkeeps m) (h'.keeps _)
  exact .fork hfork.getElem?_size (h.fragment hfirst) (h'.fragment hsecond)

/-- Copies of a part one after another. -/
theorem times (h : Builds part r) (count : Nat) : Builds (addTimes part count) (Times r count) := by
  induction count with
  | zero => exact refl
  | succ count ih => exact (ih.comp h).congr fun p q => (times_succ_iff_last count).symm

/-- What is there stays there when copies of a part are added that may be left out. -/
theorem keeps_addOptional (h : Builds part r) (exit count : Nat) (m : Machine) :
    Keeps m (addOptional part exit count m) := by
  induction count generalizing m with
  | zero => exact refl.keeps m
  | succ count ih => exact ((h.keeps m).trans (keeps_add _ _)).trans (ih _)

/-- Copies of a part that may be left out, added in front of copies that may be left out. -/
theorem fragment_addOptional (h : Builds part r) {exit count bound : Nat} {m : Machine}
    {states : Array State} (hstates : HoldsAdded states m (addOptional part exit count m))
    (hm : Fragment states m.start exit (UpTo r bound)) :
    Fragment states (addOptional part exit count m).start exit (UpTo r (bound + count)) := by
  induction count generalizing m bound with
  | zero => exact hm
  | succ count ih =>
    have hkeeps : Keeps m ((part m).add (.fork (part m).start exit)) :=
      (h.keeps m).trans (keeps_add _ _)
    obtain ⟨hadded, hrest⟩ := hstates.split hkeeps (h.keeps_addOptional exit count _)
    obtain ⟨hpart, hfork⟩ := hadded.split (h.keeps m) (keeps_add _ _)
    have hstep := (Fragment.fork hfork.getElem?_size ((h.fragment hpart).comp hm) .refl).congr
      fun p q => (upTo_succ_iff bound).symm
    rw [show bound + (count + 1) = bound + 1 + count by omega]
    exact ih hrest hstep

/-- Copies of a part one after another, of which the last ones may be left out. -/
theorem optional (h : Builds part r) (count : Nat) :
    Builds (fun m => addOptional part m.start count m) (UpTo r count) := by
  refine ⟨fun m => h.keeps_addOptional m.start count m, fun {m states} hstates => ?_⟩
  have hnone : Fragment states m.start m.start (UpTo r 0) :=
    Fragment.refl.congr fun p q => upTo_zero_iff.symm
  have hall := h.fragment_addOptional hstates hnone
  rwa [Nat.zero_add] at hall

/-- The states with a loop are those of the part that is repeated, with the fork completed. -/
theorem getElem?_addLoop (h : Builds part r) (m : Machine) (number : Nat) :
    (addLoop part m).states[number]? =
      if m.states.size = number then
        some (.fork (part (m.add (.fork m.start m.start))).start m.start)
      else (part (m.add (.fork m.start m.start))).states[number]? := by
  have hsize : m.states.size < (part (m.add (.fork m.start m.start))).states.size :=
    Nat.lt_of_lt_of_le (by simp [add]) (h.keeps _).size_le
  rw [addLoop, Array.set!_eq_setIfInBounds, Array.getElem?_setIfInBounds, if_pos hsize]

/-- A part any number of times. The fork that closes the loop is put in when the part is there. -/
theorem loop (h : Builds part r) :
    Builds (addLoop part) (fun p q => ∃ count, Times r count p q) := by
  have hopened : ∀ m : Machine, Keeps m (part (m.add (.fork m.start m.start))) := fun m =>
    (keeps_add m _).trans (h.keeps _)
  have hsize : ∀ m, (addLoop part m).states.size =
      (part (m.add (.fork m.start m.start))).states.size := fun m => by simp [addLoop]
  refine ⟨fun m => ⟨?_, fun number hlt => ?_⟩, fun {m states} hstates => ?_⟩
  · rw [hsize]
    exact (hopened m).size_le
  · rw [h.getElem?_addLoop, if_neg (Nat.ne_of_gt hlt), (hopened m).getElem?_eq number hlt]
  · have hfirst : m.states.size < (addLoop part m).states.size := by
      rw [hsize]
      exact Nat.lt_of_lt_of_le (by simp [add]) (h.keeps _).size_le
    have hfork : states[m.states.size]? =
        some (.fork (part (m.add (.fork m.start m.start))).start m.start) := by
      rw [hstates _ (Nat.le_refl _) hfirst, h.getElem?_addLoop, if_pos rfl]
    have hpart : HoldsAdded states (m.add (.fork m.start m.start))
        (part (m.add (.fork m.start m.start))) := by
      intro number hle hlt
      have hle' : m.states.size < number := by simpa [add, Nat.succ_le_iff] using hle
      rw [hstates number (Nat.le_of_lt hle') (by rwa [hsize]), h.getElem?_addLoop,
        if_neg (Nat.ne_of_lt hle')]
    exact .loop hfork (h.fragment hpart)

end Builds

/-- The states added for a pattern lead from a place to another if and only if the pattern spans
the text between them. -/
theorem builds_prepend (e : Expr) : Builds (prepend e) e.Spans := by
  induction e with
  | empty => exact .refl
  | chars set => exact .eat set
  | look condition => exact .check condition
  | seq first second ihfirst ihsecond => exact ihfirst.comp ihsecond
  | alt first second ihfirst ihsecond => exact ihfirst.alt ihsecond
  | repeated body min max ih =>
    cases max with
    | none =>
      refine ((ih.times min).comp ih.loop).congr fun p q => ?_
      simpa [Expr.Spans] using exists_times_add_iff min fun _ => True
    | some max =>
      refine ((ih.times min).comp (ih.optional (max - min))).congr fun p q => ?_
      simp only [UpTo, exists_times_add_iff, Expr.Spans, Option.mem_some, forall_eq',
        Nat.sub_le_iff_le_add']

/-- The machine of a pattern accepts at the places from which the pattern spans some text. -/
theorem accepts_ofExpr_iff (e : Expr) (p : Place) :
    Accepts (ofExpr e).states (ofExpr e).start p ↔ ∃ q, e.Spans p q := by
  have hfragment := (builds_prepend e).fragment (m := ⟨#[.done], 0⟩) fun _ _ _ => rfl
  have hdone : (ofExpr e).states[0]? = some .done :=
    ((builds_prepend e).keeps ⟨#[.done], 0⟩).getElem?_eq 0 (by decide)
  constructor
  · rintro ⟨steps, hsteps⟩
    obtain ⟨q, hspans, -⟩ := hfragment.exists_acceptsIn hsteps
    exact ⟨q, hspans⟩
  · rintro ⟨q, hspans⟩
    exact hfragment.accepts hspans (accepts_of_done hdone)

/-- The machine of a pattern finds out whether the pattern spans some part of a text. -/
theorem occursIn_ofExpr (e : Expr) (s : List Char) :
    (ofExpr e).occursIn s = true ↔ e.OccursIn s := by
  simp only [occursIn_iff, accepts_ofExpr_iff, Expr.OccursIn, exists_and_left]

end FormCheck.Pattern.Machine

namespace FormCheck.Pattern

/-- A text occurs as a pattern in a value if and only if it writes, between slashes or not, a
pattern of admissible size that spans some part of the value. -/
theorem occurs_iff (text value : String) :
    Pattern.occurs text value = true ↔
      ∃ e, readExpr ruleFlags (stripSlashes text).toList = some e ∧ e.fits = true ∧
        e.OccursIn value.toList := by
  rw [Pattern.occurs, compile?]
  cases readExpr ruleFlags (stripSlashes text).toList with
  | none => simp
  | some e =>
    cases hfits : e.fits with
    | false => simp [hfits]
    | true => simp [hfits, Pattern.occursIn, Machine.occursIn_ofExpr]

end FormCheck.Pattern

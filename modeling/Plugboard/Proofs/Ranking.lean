import Mathlib
import Plugboard.Proofs.IterationOrder
/-!
# Rankings by a double

Rankings put the larger double first. Doubles are not totally ordered: NaN compares with nothing,
so `descending` is an order only on the doubles that are not NaN. Each of those has a rank, its
place among negative infinity, the negative numbers, zero, the positive numbers and positive
infinity, and within the finite numbers its exponent and then its mantissa; `<` on such doubles is
`<` on their ranks. A ranking that compares doubles that are not NaN, then anything with a linear
order, is therefore a sort by a key into a linear order, and what such a sort gives is in order of
that key.
-/

namespace Float.Model.UnpackedFloat

/-- Where an unpacked double stands in the order `compare` gives; NaN, which `compare` leaves out,
last. Negative numbers with a larger exponent or mantissa stand further down. -/
def rank : UnpackedFloat → ℕ ×ₗ ℤ ×ₗ ℤ
  | .infinity .negative => toLex (0, toLex (0, 0))
  | .finite .negative m e _ => toLex (1, toLex (-e, -(m : ℤ)))
  | .zero _ => toLex (2, toLex (0, 0))
  | .finite .positive m e _ => toLex (3, toLex (e, (m : ℤ)))
  | .infinity .positive => toLex (4, toLex (0, 0))
  | .notANumber => toLex (5, toLex (0, 0))

theorem lt_iff_rank_lt {u v : UnpackedFloat} (hu : u.isNaN = false) (hv : v.isNaN = false) :
    u.lt v = true ↔ u.rank < v.rank := by
  have hs : compare Sign.negative Sign.positive = .lt := rfl
  -- apart from NaN, each pair of shapes and signs is one line of `UnpackedFloat.compare`
  rcases u with ⟨_ | _⟩ | _ | ⟨_ | _⟩ | ⟨_ | _, m, e, -⟩ <;>
    rcases v with ⟨_ | _⟩ | _ | ⟨_ | _⟩ | ⟨_ | _, m', e', -⟩ <;>
    simp_all [isNaN, UnpackedFloat.lt, UnpackedFloat.compare, rank, Prod.Lex.toLex_lt_toLex,
      Ordering.then_eq_lt, Ordering.then_eq_gt, compare_lt_iff_lt, compare_gt_iff_gt]

/-- Whatever `≤` holds between is a number. -/
theorem isNaN_eq_false_of_le {u v : UnpackedFloat} (h : u.le v = true) :
    u.isNaN = false ∧ v.isNaN = false := by
  cases u <;> cases v <;> simp_all [isNaN, UnpackedFloat.le, UnpackedFloat.compare]

/-- Whatever `<` holds between is a number. -/
theorem isNaN_eq_false_of_lt {u v : UnpackedFloat} (h : u.lt v = true) :
    u.isNaN = false ∧ v.isNaN = false := by
  cases u <;> cases v <;> simp_all [isNaN, UnpackedFloat.lt, UnpackedFloat.compare]

end Float.Model.UnpackedFloat

namespace Float

variable {x y : Float}

/-- The rank of a double, by its unpacked form. -/
def rank (x : Float) : ℕ ×ₗ ℤ ×ₗ ℤ := x.toModel.unpack.rank

theorem lt_iff_unpack_lt : x < y ↔ x.toModel.unpack.lt y.toModel.unpack = true := by
  show Float.lt x y = true ↔ _
  unfold Float.lt
  simp only [decide_eq_true_eq]
  rfl

theorem le_iff_unpack_le : x ≤ y ↔ x.toModel.unpack.le y.toModel.unpack = true := by
  show Float.le x y = true ↔ _
  unfold Float.le
  simp only [decide_eq_true_eq]
  rfl

theorem lt_iff_rank_lt (hx : x.isNaN = false) (hy : y.isNaN = false) : x < y ↔ x.rank < y.rank :=
  lt_iff_unpack_lt.trans (Model.UnpackedFloat.lt_iff_rank_lt hx hy)

theorem isNaN_eq_false_of_le (h : x ≤ y) : x.isNaN = false ∧ y.isNaN = false :=
  Model.UnpackedFloat.isNaN_eq_false_of_le (le_iff_unpack_le.1 h)

theorem isNaN_eq_false_of_lt (h : x < y) : x.isNaN = false ∧ y.isNaN = false :=
  Model.UnpackedFloat.isNaN_eq_false_of_lt (lt_iff_unpack_lt.1 h)

end Float

namespace Plugboard.Discovery

variable {a b : Float}

-- ---------------------------------------------------------------------------
-- The larger double first
-- ---------------------------------------------------------------------------

/-- A comparison that follows a linear order, refined by a second one, does not put the first
after the other exactly when the order puts it before, or ties and the second comparison does
not put it after. -/
theorem then_ne_gt_iff {κ : Type} [LinearOrder κ] {o o' : Ordering} {x y : κ}
    (hgt : o = .gt ↔ x < y) (heq : o = .eq ↔ x = y) :
    o.then o' ≠ .gt ↔ y < x ∨ x = y ∧ o' ≠ .gt := by
  rw [ne_eq, Ordering.then_eq_gt, hgt, heq]
  constructor
  · intro h
    rcases lt_trichotomy x y with hlt | hxy | hyx
    · exact absurd (Or.inl hlt) h
    · exact Or.inr ⟨hxy, fun ho => h (Or.inr ⟨hxy, ho⟩)⟩
    · exact Or.inl hyx
  · rintro (hyx | ⟨hxy, ho⟩) (hlt | ⟨hxy', ho'⟩)
    · exact lt_asymm hyx hlt
    · exact hyx.ne' hxy'
    · exact hxy.not_lt hlt
    · exact ho ho'

section Descending

variable (ha : a.isNaN = false) (hb : b.isNaN = false)
include ha hb

theorem descending_eq_gt_iff : descending a b = .gt ↔ a.rank < b.rank := by
  unfold descending
  split_ifs with h₁ h₂
  · simpa using le_of_lt ((Float.lt_iff_rank_lt hb ha).1 h₁)
  · simpa using (Float.lt_iff_rank_lt ha hb).1 h₂
  · simpa using mt (Float.lt_iff_rank_lt ha hb).2 h₂

theorem descending_eq_eq_iff : descending a b = .eq ↔ a.rank = b.rank := by
  unfold descending
  split_ifs with h₁ h₂
  · simpa using ((Float.lt_iff_rank_lt hb ha).1 h₁).ne'
  · simpa using ((Float.lt_iff_rank_lt ha hb).1 h₂).ne
  · simpa using le_antisymm (not_lt.1 (mt (Float.lt_iff_rank_lt hb ha).2 h₁))
      (not_lt.1 (mt (Float.lt_iff_rank_lt ha hb).2 h₂))

theorem descending_ne_gt_iff : descending a b ≠ .gt ↔ b.rank ≤ a.rank := by
  rw [ne_eq, descending_eq_gt_iff ha hb, not_lt]

/-- Comparing doubles larger first, then by a second order: the first comes first when its double
is larger, or when the doubles tie and the second order does not put it after. -/
theorem descending_then_ne_gt_iff (o : Ordering) :
    (descending a b).then o ≠ .gt ↔ b.rank < a.rank ∨ a.rank = b.rank ∧ o ≠ .gt :=
  then_ne_gt_iff (descending_eq_gt_iff ha hb) (descending_eq_eq_iff ha hb)

end Descending

-- ---------------------------------------------------------------------------
-- Sorting by a key
-- ---------------------------------------------------------------------------

/-- Sorting compares members of the list only, so an order that agrees with a key's order on the
members sorts by that key. -/
theorem pairwise_sortBy_of_key {α κ : Type} [LinearOrder κ] (key : α → κ) {cmp : α → α → Ordering}
    {l : List α} (h : ∀ x ∈ l, ∀ y ∈ l, (cmp x y != .gt) = decide (key x ≤ key y)) :
    (sortBy cmp l).Pairwise fun x y => key x ≤ key y := by
  have hsame : sortBy cmp l = l.mergeSort fun x y => decide (key x ≤ key y) := by
    simpa [sortBy] using List.map_mergeSort (f := id) h
  rw [hsame]
  exact pairwise_mergeSort_on key l

/-- In a list in strictly increasing order of a key, an element is among the first `k` exactly
when fewer than `k` elements of the list have a smaller key. -/
theorem mem_take_iff_length_filter_lt {α κ : Type} [LinearOrder κ] (key : α → κ) {l : List α}
    (hl : l.Pairwise fun x y => key x < key y) {p : α} (hp : p ∈ l) (k : Nat) :
    p ∈ l.take k ↔ (l.filter fun q => decide (key q < key p)).length < k := by
  induction l generalizing k with
  | nil => simp at hp
  | cons a l ih =>
    rw [List.pairwise_cons] at hl
    cases k with
    | zero => simp
    | succ k =>
      rw [List.take_succ_cons, List.mem_cons, List.filter_cons]
      rcases List.mem_cons.1 hp with rfl | hp
      · -- the head comes before everything else, so nothing is before it
        have hnone : l.filter (fun q => decide (key q < key p)) = [] :=
          List.filter_eq_nil_iff.2 fun q hq => by simpa using (hl.1 q hq).le
        simp [hnone]
      · -- the head is before `p`, and the rest is the same question one place on
        have hne : p ≠ a := fun h => lt_irrefl (key a) (h ▸ hl.1 p hp)
        simp [hne, hl.1 p hp, ih hl.2 hp]

end Plugboard.Discovery

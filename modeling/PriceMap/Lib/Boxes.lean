import Mathlib.Data.Fintype.Defs
import Mathlib.Order.Lattice

/-!
# Points and boxes

Closed boxes in the plane over any linear order. A box is cut at a point into
four quarters; which of them a point belongs to is found by comparing it with
the cut, and no more than comparing: the cut may be any point at all.

* `contains_quarter` — a point of a box lies in the quarter it belongs to.
* `contains_hull`    — the hull of some points contains them.
-/

namespace PriceMap.Lib

structure Point (K : Type*) where
  x : K
  y : K
  deriving DecidableEq, Repr

structure Box (K : Type*) where
  minX : K
  minY : K
  maxX : K
  maxY : K
  deriving DecidableEq, Repr

inductive Quarter where
  | topRight
  | topLeft
  | bottomRight
  | bottomLeft
  deriving DecidableEq, Repr

namespace Quarter

def all : List Quarter := [topRight, topLeft, bottomRight, bottomLeft]

theorem mem_all (q : Quarter) : q ∈ all := by
  cases q <;> decide

theorem nodup_all : all.Nodup := by decide

instance fintype : Fintype Quarter := ⟨⟨all, nodup_all⟩, mem_all⟩

/-- The quarter, cut at `cut`, that `p` belongs to. -/
def of {K : Type*} [LinearOrder K] (cut p : Point K) : Quarter :=
  if cut.y < p.y then if cut.x < p.x then topRight else topLeft
  else if cut.x < p.x then bottomRight else bottomLeft

end Quarter

namespace Box

variable {K : Type*} [LinearOrder K]

def contains (b : Box K) (p : Point K) : Bool :=
  decide (b.minX ≤ p.x ∧ p.x ≤ b.maxX ∧ b.minY ≤ p.y ∧ p.y ≤ b.maxY)

/-- What the four comparisons say. -/
theorem contains_iff {b : Box K} {p : Point K} :
    b.contains p = true ↔ (b.minX ≤ p.x ∧ p.x ≤ b.maxX) ∧ b.minY ≤ p.y ∧ p.y ≤ b.maxY := by
  rw [contains, decide_eq_true_eq, and_assoc]

-- ---------------------------------------------------------------------------
-- Quarters
-- ---------------------------------------------------------------------------

def quarter (b : Box K) (cut : Point K) : Quarter → Box K
  | .topRight => ⟨cut.x, cut.y, b.maxX, b.maxY⟩
  | .topLeft => ⟨b.minX, cut.y, cut.x, b.maxY⟩
  | .bottomRight => ⟨cut.x, b.minY, b.maxX, cut.y⟩
  | .bottomLeft => ⟨b.minX, b.minY, cut.x, cut.y⟩

/-- Every point of a box is in the quarter chosen for it. -/
theorem contains_quarter {b : Box K} {p : Point K} (h : b.contains p = true) (cut : Point K) :
    (b.quarter cut (Quarter.of cut p)).contains p = true := by
  rw [contains_iff] at h
  obtain ⟨⟨hMinX, hMaxX⟩, hMinY, hMaxY⟩ := h
  unfold Quarter.of
  rw [contains_iff]
  split_ifs with hUp hRight hRight
  · exact ⟨⟨hRight.le, hMaxX⟩, hUp.le, hMaxY⟩
  · exact ⟨⟨hMinX, not_lt.mp hRight⟩, hUp.le, hMaxY⟩
  · exact ⟨⟨hRight.le, hMaxX⟩, hMinY, not_lt.mp hUp⟩
  · exact ⟨⟨hMinX, not_lt.mp hRight⟩, hMinY, not_lt.mp hUp⟩

-- ---------------------------------------------------------------------------
-- The hull
-- ---------------------------------------------------------------------------

/-- The least box around a box and a point. -/
def extend (b : Box K) (p : Point K) : Box K :=
  ⟨min b.minX p.x, min b.minY p.y, max b.maxX p.x, max b.maxY p.y⟩

/-- An extended box has the point it was extended to. -/
theorem contains_extend_self (b : Box K) (p : Point K) : (b.extend p).contains p = true := by
  rw [contains_iff]
  exact ⟨⟨min_le_right _ _, le_max_right _ _⟩, min_le_right _ _, le_max_right _ _⟩

/-- Extending a box loses no point. -/
theorem contains_extend {b : Box K} {q : Point K} (h : b.contains q = true) (p : Point K) :
    (b.extend p).contains q = true := by
  rw [contains_iff] at h ⊢
  exact ⟨⟨(min_le_left _ _).trans h.1.1, h.1.2.trans (le_max_left _ _)⟩,
    (min_le_left _ _).trans h.2.1, h.2.2.trans (le_max_left _ _)⟩

/-- Extending a box over and over has all the points. -/
theorem contains_foldl_extend (points : List (Point K)) {b : Box K} {q : Point K}
    (h : b.contains q = true ∨ q ∈ points) : (points.foldl extend b).contains q = true := by
  induction points generalizing b with
  | nil => exact h.resolve_right List.not_mem_nil
  | cons p rest ih =>
    refine ih ?_
    rcases h with hOld | hNew
    · exact Or.inl (contains_extend hOld p)
    · rcases List.mem_cons.mp hNew with rfl | hRest
      · exact Or.inl (contains_extend_self b q)
      · exact Or.inr hRest

/-- The hull of the points `first :: rest`. -/
def hull (first : Point K) (rest : List (Point K)) : Box K :=
  rest.foldl extend ⟨first.x, first.y, first.x, first.y⟩

/-- The hull of points has each of them. -/
theorem contains_hull {first q : Point K} {rest : List (Point K)} (h : q ∈ first :: rest) :
    (hull first rest).contains q = true := by
  refine contains_foldl_extend rest ?_
  rcases List.mem_cons.mp h with rfl | hRest
  · refine Or.inl (contains_iff.mpr ?_)
    exact ⟨⟨le_rfl, le_rfl⟩, le_rfl, le_rfl⟩
  · exact Or.inr hRest

end Box

end PriceMap.Lib

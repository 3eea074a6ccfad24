import Mathlib
import PriceMap.Lib.Boxes
import PriceMap.Lib.Machines

/-!
# Heatmap tiles — the quad tree

`GQTPointQuadTreeChild` of the vendored map utilities, a node of the tree that
the heatmap layer keeps its points in. A node holds items until it would hold
more than 64, then it hands them on to its four children, down to depth 30.

The midpoint of a side is halved in floating point. Nothing below depends on
what that gives: `mean` is any function of the two ends. Coordinates are ordered,
so none is NaN, and `remove:` is given an item, not `nil`.

* `add_bag`, `remove_spec`, `search_eq` — what the operations do to the items,
  and which ones a search returns.
* `Placed` — every item is where `add` would look for it.
* `Capped` — only nodes that cannot be split hold more than 64 items.

`GQTPointQuadTree` puts bounds and a count around the root.

* `tree_answers` — it answers every sequence of calls as a bag of items does.
* `tree_sound`   — and keeps its root placed and capped.
-/

namespace PriceMap.Tiles

open Lib

abbrev GQTPoint (K : Type*) := Point K

abbrev GQTBounds (K : Type*) := Box K

def kMaxElements : ℕ := 64

def kMaxDepth : ℕ := 30

-- ---------------------------------------------------------------------------
-- Bounds
-- ---------------------------------------------------------------------------

section Bounds

variable {K : Type*} (mean : K → K → K)

def boundsMidpoint (bounds : GQTBounds K) : GQTPoint K :=
  ⟨mean bounds.minX bounds.maxX, mean bounds.minY bounds.maxY⟩

def boundsTopRightChildQuadBounds (parentBounds : GQTBounds K) : GQTBounds K :=
  let midPoint := boundsMidpoint mean parentBounds
  { minX := midPoint.x, minY := midPoint.y, maxX := parentBounds.maxX, maxY := parentBounds.maxY }

def boundsTopLeftChildQuadBounds (parentBounds : GQTBounds K) : GQTBounds K :=
  let midPoint := boundsMidpoint mean parentBounds
  { minX := parentBounds.minX, minY := midPoint.y, maxX := midPoint.x, maxY := parentBounds.maxY }

def boundsBottomRightChildQuadBounds (parentBounds : GQTBounds K) : GQTBounds K :=
  let midPoint := boundsMidpoint mean parentBounds
  { minX := midPoint.x, minY := parentBounds.minY, maxX := parentBounds.maxX, maxY := midPoint.y }

def boundsBottomLeftChildQuadBounds (parentBounds : GQTBounds K) : GQTBounds K :=
  let midPoint := boundsMidpoint mean parentBounds
  { minX := parentBounds.minX, minY := parentBounds.minY, maxX := midPoint.x, maxY := midPoint.y }

def childQuadBounds (parentBounds : GQTBounds K) : Quarter → GQTBounds K
  | .topRight => boundsTopRightChildQuadBounds mean parentBounds
  | .topLeft => boundsTopLeftChildQuadBounds mean parentBounds
  | .bottomRight => boundsBottomRightChildQuadBounds mean parentBounds
  | .bottomLeft => boundsBottomLeftChildQuadBounds mean parentBounds

def boundsIntersectsBounds [LinearOrder K] (bounds1 bounds2 : GQTBounds K) : Bool :=
  !(decide (bounds1.maxY < bounds2.minY) || decide (bounds2.maxY < bounds1.minY)) &&
    !(decide (bounds1.maxX < bounds2.minX) || decide (bounds2.maxX < bounds1.minX))

/-- The bounds of a child are a quarter of those of its parent. -/
theorem childQuadBounds_eq (parentBounds : GQTBounds K) (q : Quarter) :
    childQuadBounds mean parentBounds q =
      parentBounds.quarter (boundsMidpoint mean parentBounds) q := by
  cases q <;> rfl

/-- Boxes that share a point intersect. -/
theorem boundsIntersectsBounds_of_contains [LinearOrder K] {bounds1 bounds2 : GQTBounds K}
    {p : GQTPoint K} (h1 : bounds1.contains p = true) (h2 : bounds2.contains p = true) :
    boundsIntersectsBounds bounds1 bounds2 = true := by
  rw [Box.contains_iff] at h1 h2
  have hY : ¬ bounds1.maxY < bounds2.minY ∧ ¬ bounds2.maxY < bounds1.minY :=
    ⟨not_lt.mpr (h2.2.1.trans h1.2.2), not_lt.mpr (h1.2.1.trans h2.2.2)⟩
  have hX : ¬ bounds1.maxX < bounds2.minX ∧ ¬ bounds2.maxX < bounds1.minX :=
    ⟨not_lt.mpr (h2.1.1.trans h1.1.2), not_lt.mpr (h1.1.1.trans h2.1.2)⟩
  simp [boundsIntersectsBounds, hX.1, hX.2, hY.1, hY.2]

end Bounds

-- ---------------------------------------------------------------------------
-- Nodes
-- ---------------------------------------------------------------------------

/-- A node with `n` levels left below it, `kMaxDepth` less its depth. It has
items or children, and no children at depth `kMaxDepth`. -/
inductive GQTPointQuadTreeChild (α : Type*) : ℕ → Type _ where
  | items {n : ℕ} (items_ : List α) : GQTPointQuadTreeChild α n
  /-- `topRight_`, `topLeft_`, `bottomRight_` and `bottomLeft_` -/
  | quads {n : ℕ} (children : Quarter → GQTPointQuadTreeChild α n) :
    GQTPointQuadTreeChild α (n + 1)

namespace GQTPointQuadTreeChild

variable {α K : Type*} [LinearOrder K] (mean : K → K → K) (point : α → GQTPoint K) {n : ℕ}

def init : GQTPointQuadTreeChild α n := .items []

/-- The child an item belongs to. -/
def quadOf (bounds : GQTBounds K) (item : α) : Quarter :=
  Quarter.of (boundsMidpoint mean bounds) (point item)

/-- The branches of `add:withOwnBounds:atDepth:` on a node with children. -/
def addToChild
    (add : α → GQTBounds K → GQTPointQuadTreeChild α n → GQTPointQuadTreeChild α n)
    (bounds : GQTBounds K) (children : Quarter → GQTPointQuadTreeChild α n) (item : α) :
    Quarter → GQTPointQuadTreeChild α n :=
  let q := quadOf mean point bounds item
  Function.update children q (add item (childQuadBounds mean bounds q) (children q))

/-- The children `splitWithOwnBounds:atDepth:` makes of the items. -/
def splitWithOwnBounds
    (add : α → GQTBounds K → GQTPointQuadTreeChild α n → GQTPointQuadTreeChild α n)
    (ownBounds : GQTBounds K) (items : List α) : Quarter → GQTPointQuadTreeChild α n :=
  items.foldl (addToChild mean point add ownBounds) fun _ => init

/-- `add:withOwnBounds:atDepth:` at depth `kMaxDepth - n`. -/
def add : (n : ℕ) → α → GQTBounds K → GQTPointQuadTreeChild α n → GQTPointQuadTreeChild α n
  | 0, item, _, .items items_ => .items (items_ ++ [item])
  | n + 1, item, bounds, .items items_ =>
    if kMaxElements ≤ items_.length then
      .quads (addToChild mean point (add n) bounds
        (splitWithOwnBounds mean point (add n) bounds items_) item)
    else .items (items_ ++ [item])
  | n + 1, item, bounds, .quads children =>
    .quads (addToChild mean point (add n) bounds children item)

/-- `remove:withOwnBounds:`, with its answer. -/
def remove [DecidableEq α] (item : α) :
    {n : ℕ} → GQTBounds K → GQTPointQuadTreeChild α n → Bool × GQTPointQuadTreeChild α n
  | _, _, .items items_ =>
    if item ∈ items_ then (true, .items (items_.erase item)) else (false, .items items_)
  | _, bounds, .quads children =>
    let q := quadOf mean point bounds item
    let (removed, child) := remove item (childQuadBounds mean bounds q) (children q)
    (removed, .quads (Function.update children q child))

/-- What `searchWithBounds:withOwnBounds:results:` adds to the results. -/
def searchWithBounds (searchBounds : GQTBounds K) :
    {n : ℕ} → GQTBounds K → GQTPointQuadTreeChild α n → List α
  | _, _, .items items_ => items_.filter fun item => searchBounds.contains (point item)
  | _, ownBounds, .quads children =>
    Quarter.all.flatMap fun q =>
      if boundsIntersectsBounds (childQuadBounds mean ownBounds q) searchBounds then
        searchWithBounds searchBounds (childQuadBounds mean ownBounds q) (children q)
      else []

-- ---------------------------------------------------------------------------
-- The items of a node
-- ---------------------------------------------------------------------------

def toList : {n : ℕ} → GQTPointQuadTreeChild α n → List α
  | _, .items items_ => items_
  | _, .quads children => Quarter.all.flatMap fun q => toList (children q)

/-- Every item is in the bounds, and in the child it belongs to. -/
def Placed : {n : ℕ} → GQTBounds K → GQTPointQuadTreeChild α n → Prop
  | _, bounds, .items items_ => ∀ item ∈ items_, bounds.contains (point item) = true
  | _, bounds, .quads children =>
    ∀ q, Placed (childQuadBounds mean bounds q) (children q) ∧
      ∀ item ∈ toList (children q),
        bounds.contains (point item) = true ∧ quadOf mean point bounds item = q

/-- A node above the last level holds at most `kMaxElements` items. -/
def Capped : {n : ℕ} → GQTPointQuadTreeChild α n → Prop
  | n, .items items_ => n = 0 ∨ items_.length ≤ kMaxElements
  | _, .quads children => ∀ q, Capped (children q)

def bag (child : GQTPointQuadTreeChild α n) : Multiset α := toList child

variable {mean point} {bounds searchBounds : GQTBounds K} {item : α}
  {child : GQTPointQuadTreeChild α n} {children : Quarter → GQTPointQuadTreeChild α n}
  {addBelow : α → GQTBounds K → GQTPointQuadTreeChild α n → GQTPointQuadTreeChild α n}

theorem mem_bag : item ∈ bag child ↔ item ∈ toList child := Multiset.mem_coe

/-- The items of a node are those of its children. -/
theorem mem_toList_quads : item ∈ toList (.quads children) ↔ ∃ q, item ∈ toList (children q) := by
  rw [toList, List.mem_flatMap]
  exact ⟨fun ⟨q, _, h⟩ => ⟨q, h⟩, fun ⟨q, h⟩ => ⟨q, q.mem_all, h⟩⟩

/-- The items of one child, and those of the others. -/
theorem bag_quads (q : Quarter) :
    bag (.quads children) = bag (children q) + ∑ r ∈ Finset.univ \ {q}, bag (children r) := by
  have hSum : bag (.quads children) = ∑ r, bag (children r) := by
    have hAll : ∑ r, bag (children r) = (Quarter.all.map fun r => bag (children r)).sum := rfl
    rw [hAll]
    simp [bag, toList, Quarter.all]
  rw [hSum, ← Finset.sum_sdiff (Finset.subset_univ {q}), Finset.sum_singleton, add_comm]

/-- Replacing a child replaces its items. -/
theorem bag_quads_update (q : Quarter) :
    bag (.quads (Function.update children q child)) =
      bag child + ∑ r ∈ Finset.univ \ {q}, bag (children r) := by
  rw [bag_quads q, Function.update_self]
  congr 1
  refine Finset.sum_congr rfl fun r hr => ?_
  have hOther : r ≠ q := by simpa using hr
  rw [Function.update_of_ne hOther]

-- ---------------------------------------------------------------------------
-- Adding
-- ---------------------------------------------------------------------------

/-- Handing an item on adds it once. -/
theorem bag_addToChild (hAdd : ∀ item bounds child,
      bag (addBelow item bounds child) = item ::ₘ bag child) :
    bag (.quads (addToChild mean point addBelow bounds children item)) =
      item ::ₘ bag (.quads children) := by
  rw [addToChild, bag_quads_update, hAdd, bag_quads (quadOf mean point bounds item),
    Multiset.cons_add]

/-- A split keeps all items. -/
theorem bag_split (hAdd : ∀ item bounds child,
      bag (addBelow item bounds child) = item ::ₘ bag child) (items : List α) :
    bag (.quads (items.foldl (addToChild mean point addBelow bounds) children)) =
      items + bag (.quads children) := by
  induction items generalizing children with
  | nil => simp
  | cons item rest ih =>
    rw [List.foldl_cons, ih, bag_addToChild hAdd, ← Multiset.cons_coe, Multiset.cons_add,
      Multiset.add_cons]

theorem bag_init : bag (.quads fun _ => (init : GQTPointQuadTreeChild α n)) = 0 := rfl

theorem bag_append (items_ : List α) :
    bag (.items (items_ ++ [item]) : GQTPointQuadTreeChild α n) =
      item ::ₘ bag (.items items_ : GQTPointQuadTreeChild α n) :=
  Multiset.coe_eq_coe.mpr (List.perm_append_singleton item items_)

/-- **Adding adds the item.** -/
theorem add_bag (item : α) (bounds : GQTBounds K) (child : GQTPointQuadTreeChild α n) :
    bag (add mean point n item bounds child) = item ::ₘ bag child := by
  induction n generalizing item bounds with
  | zero =>
    cases child with
    | items items_ => exact bag_append items_
  | succ n ih =>
    cases child with
    | items items_ =>
      rw [add]
      split_ifs with hFull
      · rw [bag_addToChild ih, splitWithOwnBounds, bag_split ih, bag_init, add_zero]
        rfl
      · exact bag_append items_
    | quads children => rw [add, bag_addToChild ih]

-- ---------------------------------------------------------------------------
-- Where the items are
-- ---------------------------------------------------------------------------

/-- An item of the bounds is in those of the child it belongs to. -/
theorem contains_quadOf (h : bounds.contains (point item) = true) :
    (childQuadBounds mean bounds (quadOf mean point bounds item)).contains (point item) = true := by
  rw [childQuadBounds_eq]
  exact Box.contains_quarter h _

/-- Items are in the bounds of their node. -/
theorem Placed.contains (h : Placed mean point bounds child) (hItem : item ∈ toList child) :
    bounds.contains (point item) = true := by
  cases child with
  | items items_ => exact h item hItem
  | quads children =>
    obtain ⟨q, hq⟩ := mem_toList_quads.mp hItem
    exact ((h q).2 item hq).1

/-- An empty node has nothing out of place. -/
theorem placed_init : Placed mean point bounds (init : GQTPointQuadTreeChild α n) :=
  fun _ h => absurd h List.not_mem_nil

section Placing

variable (hBag : ∀ item bounds child, bag (addBelow item bounds child) = item ::ₘ bag child)
  (hPlaced : ∀ item bounds child, bounds.contains (point item) = true →
    Placed mean point bounds child → Placed mean point bounds (addBelow item bounds child))

include hBag hPlaced

/-- An item is handed on to the child that it is looked for in. -/
theorem placed_addToChild (h : Placed mean point bounds (.quads children))
    (hItem : bounds.contains (point item) = true) :
    Placed mean point bounds (.quads (addToChild mean point addBelow bounds children item)) := by
  intro q
  obtain ⟨hChild, hRoute⟩ := h q
  by_cases hq : q = quadOf mean point bounds item
  · subst hq
    rw [addToChild, Function.update_self]
    refine ⟨hPlaced _ _ _ (contains_quadOf hItem) hChild, fun other hOther => ?_⟩
    rw [← mem_bag, hBag, Multiset.mem_cons, mem_bag] at hOther
    rcases hOther with rfl | hOld
    · exact ⟨hItem, rfl⟩
    · exact hRoute other hOld
  · rw [addToChild, Function.update_of_ne hq]
    exact ⟨hChild, hRoute⟩

/-- A split places every item. -/
theorem placed_split (items : List α) (h : Placed mean point bounds (.quads children))
    (hItems : ∀ item ∈ items, bounds.contains (point item) = true) :
    Placed mean point bounds
      (.quads (items.foldl (addToChild mean point addBelow bounds) children)) := by
  induction items generalizing children with
  | nil => exact h
  | cons item rest ih =>
    refine ih (placed_addToChild hBag hPlaced h (hItems item (List.mem_cons_self ..))) ?_
    exact fun other hOther => hItems other (List.mem_cons_of_mem _ hOther)

end Placing

/-- **Adding keeps every item in its place.** -/
theorem add_placed (item : α) (bounds : GQTBounds K) (child : GQTPointQuadTreeChild α n)
    (hItem : bounds.contains (point item) = true) (h : Placed mean point bounds child) :
    Placed mean point bounds (add mean point n item bounds child) := by
  induction n generalizing item bounds with
  | zero =>
    cases child with
    | items items_ =>
      intro other hOther
      rcases List.mem_append.mp hOther with hOld | hNew
      · exact h other hOld
      · rw [List.mem_singleton.mp hNew]
        exact hItem
  | succ n ih =>
    cases child with
    | items items_ =>
      rw [add]
      split_ifs with hFull
      · have hEmpty : Placed mean point bounds
            (.quads fun _ => (init : GQTPointQuadTreeChild α n)) :=
          fun q => ⟨placed_init, fun other hOther => absurd hOther List.not_mem_nil⟩
        have hSplit := placed_split add_bag ih items_ hEmpty h
        exact placed_addToChild add_bag ih hSplit hItem
      · intro other hOther
        rcases List.mem_append.mp hOther with hOld | hNew
        · exact h other hOld
        · rw [List.mem_singleton.mp hNew]
          exact hItem
    | quads children =>
      rw [add]
      exact placed_addToChild add_bag ih h hItem

-- ---------------------------------------------------------------------------
-- Searching
-- ---------------------------------------------------------------------------

/-- **Nothing is lost by skipping children**: a search returns the items in the
search bounds. -/
theorem search_eq (h : Placed mean point bounds child) :
    searchWithBounds mean point searchBounds bounds child =
      (toList child).filter fun item => searchBounds.contains (point item) := by
  induction child generalizing bounds with
  | items items_ => rfl
  | quads children ih =>
    rw [searchWithBounds, toList, List.filter_flatMap]
    refine List.flatMap_congr fun q _ => ?_
    split_ifs with hMeets
    · exact ih q (h q).1
    · symm
      rw [List.filter_eq_nil_iff]
      intro item hItem hSearch
      exact hMeets (boundsIntersectsBounds_of_contains ((h q).1.contains hItem) hSearch)

-- ---------------------------------------------------------------------------
-- Removing
-- ---------------------------------------------------------------------------

variable (item) in
/-- An item is in the child it is looked for in, or nowhere. -/
theorem mem_quads_iff (h : Placed mean point bounds (.quads children)) :
    item ∈ toList (.quads children) ↔ item ∈ toList (children (quadOf mean point bounds item)) := by
  rw [mem_toList_quads]
  refine ⟨?_, fun hItem => ⟨_, hItem⟩⟩
  rintro ⟨q, hItem⟩
  rw [((h q).2 item hItem).2]
  exact hItem

section Removing

variable [DecidableEq α]

variable (item) in
/-- **Removing removes one such item**, and says whether there was one. -/
theorem remove_spec (h : Placed mean point bounds child) :
    (remove mean point item bounds child).1 = decide (item ∈ toList child) ∧
      bag (remove mean point item bounds child).2 = (bag child).erase item ∧
      Placed mean point bounds (remove mean point item bounds child).2 := by
  induction child generalizing bounds with
  | items items_ =>
    rw [remove]
    split_ifs with hMem
    · refine ⟨(decide_eq_true hMem).symm, (Multiset.coe_erase items_ item).symm, ?_⟩
      exact fun other hOther => h other (List.mem_of_mem_erase hOther)
    · refine ⟨(decide_eq_false hMem).symm, ?_, h⟩
      exact (Multiset.erase_of_notMem (mem_bag.not.mpr hMem)).symm
  | quads children ih =>
    rw [remove]
    generalize hq : quadOf mean point bounds item = q
    obtain ⟨hAnswer, hBag, hPlaced⟩ := ih q (h q).1
    have hMem := mem_quads_iff item h
    rw [hq] at hMem
    refine ⟨?_, ?_, fun r => ?_⟩
    · simp only [hAnswer, hMem]
    · rw [bag_quads_update, hBag, bag_quads q]
      by_cases hItem : item ∈ toList (children q)
      · rw [Multiset.erase_add_left_pos _ (mem_bag.mpr hItem)]
      · have hNone : item ∉ bag (.quads children) := fun hIn => hItem (hMem.mp (mem_bag.mp hIn))
        rw [Multiset.erase_of_notMem (mem_bag.not.mpr hItem), ← bag_quads q,
          Multiset.erase_of_notMem hNone]
    · by_cases hr : r = q
      · subst hr
        rw [Function.update_self]
        refine ⟨hPlaced, fun other hOther => (h r).2 other ?_⟩
        rw [← mem_bag, hBag] at hOther
        exact mem_bag.mp (Multiset.mem_of_mem_erase hOther)
      · rw [Function.update_of_ne hr]
        exact h r

end Removing

-- ---------------------------------------------------------------------------
-- The size of nodes
-- ---------------------------------------------------------------------------

theorem capped_init : Capped (init : GQTPointQuadTreeChild α n) := Or.inr (Nat.zero_le _)

/-- Handing an item on keeps the caps. -/
theorem capped_addToChild (hAdd : ∀ item bounds child, Capped child →
      Capped (addBelow item bounds child)) (h : Capped (.quads children)) :
    Capped (.quads (addToChild mean point addBelow bounds children item)) := by
  intro q
  by_cases hq : q = quadOf mean point bounds item
  · subst hq
    rw [addToChild, Function.update_self]
    exact hAdd _ _ _ (h _)
  · rw [addToChild, Function.update_of_ne hq]
    exact h q

/-- A split keeps the caps. -/
theorem capped_split (hAdd : ∀ item bounds child, Capped child →
      Capped (addBelow item bounds child)) (items : List α) (h : Capped (.quads children)) :
    Capped (.quads (items.foldl (addToChild mean point addBelow bounds) children)) := by
  induction items generalizing children with
  | nil => exact h
  | cons item rest ih => exact ih (capped_addToChild hAdd h)

/-- **A node that can be split never holds more than `kMaxElements` items.** -/
theorem add_capped (item : α) (bounds : GQTBounds K) (child : GQTPointQuadTreeChild α n)
    (h : Capped child) : Capped (add mean point n item bounds child) := by
  induction n generalizing item bounds with
  | zero =>
    cases child with
    | items items_ => exact Or.inl rfl
  | succ n ih =>
    cases child with
    | items items_ =>
      rw [add]
      split_ifs with hFull
      · have hEmpty : Capped (.quads fun _ => (init : GQTPointQuadTreeChild α n)) :=
          fun _ => capped_init
        exact capped_addToChild ih (capped_split ih items_ hEmpty)
      · refine Or.inr ?_
        rw [List.length_append, List.length_singleton]
        omega
    | quads children =>
      rw [add]
      exact capped_addToChild ih h

/-- Removing never fills a node. -/
theorem remove_capped [DecidableEq α] (h : Capped child) :
    Capped (remove mean point item bounds child).2 := by
  induction child generalizing bounds with
  | items items_ =>
    rw [remove]
    split_ifs with hMem
    · exact h.imp_right fun hSize => (List.erase_sublist.length_le).trans hSize
    · exact h
  | quads children ih =>
    rw [remove]
    intro q
    by_cases hq : q = quadOf mean point bounds item
    · subst hq
      rw [Function.update_self]
      exact ih _ (h _)
    · rw [Function.update_of_ne hq]
      exact h q

end GQTPointQuadTreeChild

-- ---------------------------------------------------------------------------
-- The tree
-- ---------------------------------------------------------------------------

structure GQTPointQuadTree (α K : Type*) where
  bounds_ : GQTBounds K
  root_ : GQTPointQuadTreeChild α kMaxDepth
  count_ : ℕ

/-- The methods a tree is called with. -/
inductive TreeCall (α K : Type*) where
  | add (item : Option α)
  | remove (item : α)
  | clear
  | searchWithBounds (searchBounds : GQTBounds K)
  | count
  deriving DecidableEq

/-- What a call returns; `φ` holds the items a search finds. -/
inductive TreeAnswer (φ : Type*) where
  | flag (flag : Bool)
  | done
  | found (results : φ)
  | count (count : ℕ)
  deriving DecidableEq

def TreeAnswer.map {φ ψ : Type*} (f : φ → ψ) : TreeAnswer φ → TreeAnswer ψ
  | .flag b => .flag b
  | .done => .done
  | .found xs => .found (f xs)
  | .count n => .count n

namespace GQTPointQuadTree

variable {α K : Type*} [LinearOrder K] (mean : K → K → K) (point : α → GQTPoint K)

def clear (tree : GQTPointQuadTree α K) : GQTPointQuadTree α K :=
  { tree with root_ := .init, count_ := 0 }

def initWithBounds (bounds : GQTBounds K) : GQTPointQuadTree α K :=
  { bounds_ := bounds, root_ := .init, count_ := 0 }

/-- The test that `add:` and `remove:` turn an item away with. -/
def outOfBounds (bounds : GQTBounds K) (p : GQTPoint K) : Bool :=
  decide (bounds.maxX < p.x) || decide (p.x < bounds.minX) || decide (bounds.maxY < p.y) ||
    decide (p.y < bounds.minY)

def add (tree : GQTPointQuadTree α K) : Option α → Bool × GQTPointQuadTree α K
  | none => (false, tree)
  | some item =>
    if outOfBounds tree.bounds_ (point item) then (false, tree)
    else (true, { tree with
      root_ := .add mean point kMaxDepth item tree.bounds_ tree.root_
      count_ := tree.count_ + 1 })

def remove [DecidableEq α] (tree : GQTPointQuadTree α K) (item : α) :
    Bool × GQTPointQuadTree α K :=
  if outOfBounds tree.bounds_ (point item) then (false, tree)
  else
    let (removed, root) := tree.root_.remove mean point item tree.bounds_
    (removed, { tree with
      root_ := root
      count_ := if removed then tree.count_ - 1 else tree.count_ })

def searchWithBounds (tree : GQTPointQuadTree α K) (searchBounds : GQTBounds K) : List α :=
  tree.root_.searchWithBounds mean point searchBounds tree.bounds_

def count (tree : GQTPointQuadTree α K) : ℕ := tree.count_

/-- What a tree keeps: `items` are the items in it, each in its place. -/
structure Holds (bounds : GQTBounds K) (tree : GQTPointQuadTree α K) (items : Multiset α) :
    Prop where
  bounds_ : tree.bounds_ = bounds
  bag : tree.root_.bag = items
  count_ : tree.count_ = Multiset.card items
  placed : tree.root_.Placed mean point bounds
  capped : tree.root_.Capped

variable {mean point} {bounds : GQTBounds K} {tree : GQTPointQuadTree α K} {items : Multiset α}

/-- Out of bounds is not in them. -/
theorem outOfBounds_eq (bounds : GQTBounds K) (p : GQTPoint K) :
    outOfBounds bounds p = !bounds.contains p := by
  rw [Bool.eq_iff_iff]
  simp only [outOfBounds, Box.contains, Bool.or_eq_true, decide_eq_true_eq, Bool.not_eq_true',
    decide_eq_false_iff_not]
  rw [not_and_or, not_and_or, not_and_or, not_le, not_le, not_le, not_le]
  tauto

theorem Holds.init : Holds mean point bounds (initWithBounds bounds) 0 :=
  ⟨rfl, rfl, rfl, GQTPointQuadTreeChild.placed_init, GQTPointQuadTreeChild.capped_init⟩

/-- The items are in the bounds of the tree. -/
theorem Holds.contains (h : Holds mean point bounds tree items) {item : α} (hItem : item ∈ items) :
    bounds.contains (point item) = true := by
  rw [← h.bag] at hItem
  exact h.placed.contains (GQTPointQuadTreeChild.mem_bag.mp hItem)

/-- What is in the bounds is added, and nothing else. -/
theorem Holds.add (h : Holds mean point bounds tree items) (item : α) :
    (tree.add mean point (some item)).1 = bounds.contains (point item) ∧
      Holds mean point bounds (tree.add mean point (some item)).2
        (if bounds.contains (point item) then item ::ₘ items else items) := by
  obtain rfl := h.bounds_
  cases hIn : tree.bounds_.contains (point item) with
  | true =>
    simp only [GQTPointQuadTree.add, outOfBounds_eq, hIn, Bool.not_true, Bool.false_eq_true,
      if_false, if_true, true_and]
    refine ⟨rfl, ?_, ?_, ?_, ?_⟩
    · rw [GQTPointQuadTreeChild.add_bag, h.bag]
    · rw [h.count_, Multiset.card_cons]
    · exact GQTPointQuadTreeChild.add_placed item tree.bounds_ tree.root_ hIn h.placed
    · exact GQTPointQuadTreeChild.add_capped item tree.bounds_ tree.root_ h.capped
  | false =>
    simp only [GQTPointQuadTree.add, outOfBounds_eq, hIn, Bool.not_false, if_true,
      Bool.false_eq_true, if_false, true_and]
    exact h

/-- A search finds the items of its bounds. -/
theorem Holds.search (h : Holds mean point bounds tree items) (searchBounds : GQTBounds K) :
    (tree.searchWithBounds mean point searchBounds : Multiset α) =
      items.filter fun item => searchBounds.contains (point item) = true := by
  rw [searchWithBounds, h.bounds_, GQTPointQuadTreeChild.search_eq h.placed, ← h.bag,
    GQTPointQuadTreeChild.bag, Multiset.filter_coe]
  simp

/-- What a search finds of the items of a list. -/
theorem Holds.search_perm {list : List α} (h : Holds mean point bounds tree list)
    (searchBounds : GQTBounds K) :
    (tree.searchWithBounds mean point searchBounds).Perm
      (list.filter fun item => searchBounds.contains (point item)) := by
  have hSearch := h.search searchBounds
  rw [Multiset.filter_coe, Multiset.coe_eq_coe] at hSearch
  simpa using hSearch

/-- Items of the bounds added one after the other. -/
theorem Holds.foldl_add (h : Holds mean point bounds tree items) {new : List α}
    (hNew : ∀ item ∈ new, bounds.contains (point item) = true) :
    Holds mean point bounds
      (new.foldl (fun tree item => (tree.add mean point (some item)).2) tree) (new + items) := by
  induction new generalizing tree items with
  | nil => simpa using h
  | cons item rest ih =>
    have hAdd := (h.add item).2
    rw [if_pos (hNew item (List.mem_cons_self ..))] at hAdd
    have hRest := ih hAdd fun other hOther => hNew other (List.mem_cons_of_mem _ hOther)
    rwa [Multiset.add_cons, ← Multiset.cons_add, Multiset.cons_coe] at hRest

/-- A removal takes one copy, and says whether there was one. -/
theorem Holds.remove [DecidableEq α] (h : Holds mean point bounds tree items) (item : α) :
    (tree.remove mean point item).1 = decide (item ∈ items) ∧
      Holds mean point bounds (tree.remove mean point item).2 (items.erase item) := by
  obtain rfl := h.bounds_
  cases hIn : tree.bounds_.contains (point item) with
  | true =>
    obtain ⟨hAnswer, hBag, hPlaced⟩ := GQTPointQuadTreeChild.remove_spec item h.placed
    have hMem : decide (item ∈ tree.root_.toList) = decide (item ∈ items) := by
      simp only [← h.bag, GQTPointQuadTreeChild.mem_bag]
    rw [hMem] at hAnswer
    simp only [GQTPointQuadTree.remove, outOfBounds_eq, hIn, Bool.not_true, Bool.false_eq_true,
      if_false]
    refine ⟨hAnswer, rfl, ?_, ?_, hPlaced, GQTPointQuadTreeChild.remove_capped h.capped⟩
    · rw [hBag, h.bag]
    · rw [hAnswer, h.count_]
      by_cases hItem : item ∈ items
      · rw [decide_eq_true hItem, if_pos rfl, Multiset.card_erase_of_mem hItem]
        rfl
      · rw [decide_eq_false hItem, if_neg Bool.false_ne_true, Multiset.erase_of_notMem hItem]
  | false =>
    have hNot : item ∉ items := fun hItem => by simp [h.contains hItem] at hIn
    simp only [GQTPointQuadTree.remove, outOfBounds_eq, hIn, Bool.not_false, if_true]
    rw [Multiset.erase_of_notMem hNot]
    exact ⟨(decide_eq_false hNot).symm, h⟩

variable [DecidableEq α] (mean point)

/-- A tree made by `initWithBounds:`, under the calls of its methods. -/
def machine (bounds : GQTBounds K) :
    Machine (GQTPointQuadTree α K) (TreeCall α K) (TreeAnswer (List α)) where
  init := initWithBounds bounds
  call tree
    | .add item => some ((tree.add mean point item).2, .flag (tree.add mean point item).1)
    | .remove item => some ((tree.remove mean point item).2, .flag (tree.remove mean point item).1)
    | .clear => some (tree.clear, .done)
    | .searchWithBounds searchBounds =>
      some (tree, .found (tree.searchWithBounds mean point searchBounds))
    | .count => some (tree, .count tree.count)

/-- A bag of items that takes in those of its bounds, under the same calls. -/
def bagMachine (bounds : GQTBounds K) :
    Machine (Multiset α) (TreeCall α K) (TreeAnswer (Multiset α)) where
  init := 0
  call items
    | .add none => some (items, .flag false)
    | .add (some item) =>
      some (if bounds.contains (point item) then item ::ₘ items else items,
        .flag (bounds.contains (point item)))
    | .remove item => some (items.erase item, .flag (decide (item ∈ items)))
    | .clear => some (0, .done)
    | .searchWithBounds searchBounds =>
      some (items, .found (items.filter fun item => searchBounds.contains (point item) = true))
    | .count => some (items, .count (Multiset.card items))

/-- The tree refines the bag. -/
theorem tree_refines (mean : K → K → K) (point : α → GQTPoint K) (bounds : GQTBounds K) :
    Simulation (machine mean point bounds) (bagMachine point bounds) (Holds mean point bounds)
      fun answer answer' => answer.map Multiset.ofList = answer' where
  init := Holds.init
  call tree items call h := by
    cases call with
    | add item =>
      cases item with
      | none => exact .some ⟨h, rfl⟩
      | some item =>
        obtain ⟨hAnswer, hHolds⟩ := h.add item
        exact .some ⟨hHolds, congrArg TreeAnswer.flag hAnswer⟩
    | remove item =>
      obtain ⟨hAnswer, hHolds⟩ := h.remove item
      exact .some ⟨hHolds, congrArg TreeAnswer.flag hAnswer⟩
    | clear =>
      exact .some ⟨⟨h.bounds_, rfl, rfl, GQTPointQuadTreeChild.placed_init,
        GQTPointQuadTreeChild.capped_init⟩, rfl⟩
    | searchWithBounds searchBounds =>
      exact .some ⟨h, congrArg TreeAnswer.found (h.search searchBounds)⟩
    | count => exact .some ⟨h, congrArg TreeAnswer.count h.count_⟩

/-- **The tree answers every run of calls as the bag does.** -/
theorem tree_answers (mean : K → K → K) (point : α → GQTPoint K) (bounds : GQTBounds K)
    (calls : List (TreeCall α K)) :
    ((machine mean point bounds).outputs calls).map (TreeAnswer.map Multiset.ofList) =
      (bagMachine point bounds).outputs calls := by
  have hAnswers := (tree_refines mean point bounds).outputs calls
  rw [← List.forall₂_eq_eq_eq, List.forall₂_map_left_iff]
  exact hAnswers

/-- **Every tree reached** has each item in the child it belongs to, within that
child's bounds, at most `kMaxElements` in a node that can be split, and counts them. -/
theorem tree_sound (mean : K → K → K) (point : α → GQTPoint K) (bounds : GQTBounds K)
    (calls : List (TreeCall α K)) :
    ∃ tree, (machine mean point bounds).stateAfter calls = some tree ∧
      tree.root_.Placed mean point bounds ∧ tree.root_.Capped ∧
      tree.count_ = tree.root_.toList.length := by
  obtain ⟨tree, hTree⟩ := Machine.exists_stateAfter
    (m := machine mean point bounds) (fun tree call => by cases call <;> rfl) calls
  obtain ⟨items, -, hHolds⟩ := (tree_refines mean point bounds).exists_rel hTree
  refine ⟨tree, hTree, hHolds.placed, hHolds.capped, ?_⟩
  rw [hHolds.count_, ← hHolds.bag]
  rfl

end GQTPointQuadTree

end PriceMap.Tiles

import Mathlib

/-!
# Arrays with checked indices

Reads and writes of arrays that fail out of range, as options, and the loops
over them that add to cells.

* `foldlM_setAt`, `foldlM_overwrite` — loops that write one cell after the other.
* `Adds` — a program adds a function of row and column to the cells of every
  buffer of a size. It never fails there; `Adds.bind` and `Adds.foldlM` add up
  what the parts of a program add.
-/

namespace PriceMap.Lib

-- ---------------------------------------------------------------------------
-- Arrays that grow
-- ---------------------------------------------------------------------------

section Growing

variable {α : Type*}

/-- Writes a cell, or appends one right behind the last; further on is an error. -/
def setAt (xs : List α) (i : ℕ) (v : α) : Option (List α) :=
  if i < xs.length then some (xs.set i v)
  else if i = xs.length then some (xs ++ [v])
  else none

/-- A loop that starts behind the last cell appends. -/
theorem foldlM_setAt (value : List α → ℕ → Option α) (f : ℕ → α) (k : ℕ) (xs : List α)
    (hValue : ∀ ys i, i < k → value (xs ++ ys) (xs.length + i) = some (f (xs.length + i))) :
    (List.range' xs.length k).foldlM (fun ys i => do setAt ys i (← value ys i)) xs =
      some (xs ++ (List.range' xs.length k).map f) := by
  induction k with
  | zero => simp
  | succ k ih =>
    have hRest := ih fun ys i hi => hValue ys i (Nat.lt_succ_of_lt hi)
    have hLast := hValue ((List.range' xs.length k).map f) k (Nat.lt_succ_self k)
    rw [List.range'_concat, List.foldlM_append, hRest]
    simp [hLast, setAt]

/-- A loop that writes one value to the first cells. -/
theorem foldlM_overwrite (value : List α → Option α) (v : α) (xs : List α) (k : ℕ)
    (hk : k ≤ xs.length) (hValue : ∀ ys, ys.length ≤ k → value (ys ++ xs.drop ys.length) = some v) :
    (List.range k).foldlM (fun ys i => do setAt ys i (← value ys)) xs =
      some (List.replicate k v ++ xs.drop k) := by
  induction k with
  | zero => simp
  | succ k ih =>
    have hRest := ih (by omega) fun ys hys => hValue ys (Nat.le_succ_of_le hys)
    have hRead := hValue (List.replicate k v) (by simp)
    rw [List.length_replicate] at hRead
    have hIn : k < (List.replicate k v ++ xs.drop k).length := by
      rw [List.length_append, List.length_replicate, List.length_drop]
      omega
    rw [List.range_succ, List.foldlM_append, hRest]
    simp only [Option.bind_eq_bind, Option.bind_some, List.foldlM_cons, List.foldlM_nil, hRead,
      setAt, if_pos hIn, Option.pure_def]
    rw [List.set_append_right k v (by simp), List.length_replicate, Nat.sub_self,
      List.drop_eq_getElem_cons (by omega), List.set_cons_zero, List.replicate_succ']
    simp

end Growing

-- ---------------------------------------------------------------------------
-- Buffers
-- ---------------------------------------------------------------------------

section Buffers

variable {α K : Type*}

def readAt (xs : List K) (i : ℤ) : Option K := if 0 ≤ i then xs[i.toNat]? else none

/-- A read succeeds exactly at an index of the list. -/
theorem readAt_eq_some_iff {xs : List K} {i : ℤ} {v : K} :
    readAt xs i = some v ↔ 0 ≤ i ∧ xs[i.toNat]? = some v := by
  rw [readAt]
  split_ifs with h <;> simp [h]

/-- Everything read of a fresh array is its fill value. -/
theorem readAt_replicate {n : ℕ} {v : K} {i : ℤ} (h : 0 ≤ i ∧ i < n) :
    readAt (List.replicate n v) i = some v := by
  rw [readAt_eq_some_iff]
  exact ⟨h.1, by rw [List.getElem?_replicate, if_pos (by omega)]⟩

variable [AddCommMonoid K]

/-- `xs[i] += v` -/
def addAt (xs : List K) (i : ℤ) (v : K) : Option (List K) :=
  if 0 ≤ i ∧ i < xs.length then some (xs.modify i.toNat (· + v)) else none

/-- `v` in one cell, 0 in all others. -/
def oneCell (p : ℤ × ℤ) (v : K) (q : ℤ × ℤ) : K := if q = p then v else 0

/-- On every buffer of `h` rows of `w` cells `f` succeeds, and adds `g (y, x)` to
the cell `x` of row `y`. -/
def Adds (h w : ℕ) (g : ℤ × ℤ → K) (f : List K → Option (List K)) : Prop :=
  ∀ xs, xs.length = h * w → ∃ ys, f xs = some ys ∧ ys.length = h * w ∧
    ∀ (y x : ℤ) v, 0 ≤ y ∧ y < h → 0 ≤ x ∧ x < w → readAt xs (y * w + x) = some v →
      readAt ys (y * w + x) = some (v + g (y, x))

/-- The cell of a row and a column is in the array. -/
theorem cell_mem {h w : ℕ} {y x : ℤ} (hy : 0 ≤ y ∧ y < h) (hx : 0 ≤ x ∧ x < w) :
    0 ≤ y * w + x ∧ y * w + x < (h * w : ℕ) := by
  have hRow : y * w + w ≤ h * w := by nlinarith
  have hStart : 0 ≤ y * w := mul_nonneg hy.1 (Int.natCast_nonneg w)
  push_cast
  omega

/-- Different places have different cells. -/
theorem cell_injective {w : ℕ} {y x y' x' : ℤ} (hx : 0 ≤ x ∧ x < w) (hx' : 0 ≤ x' ∧ x' < w)
    (h : y * w + x = y' * w + x') : (y, x) = (y', x') := by
  have hy : y = y' := by
    have hDiv := congrArg (· / (w : ℤ)) h
    rwa [mul_comm y, mul_comm y', Int.mul_add_ediv_left _ _ (by omega),
      Int.mul_add_ediv_left _ _ (by omega), Int.ediv_eq_zero_of_lt hx.1 hx.2,
      Int.ediv_eq_zero_of_lt hx'.1 hx'.2, add_zero, add_zero] at hDiv
  subst hy
  rw [Int.add_left_cancel h]

omit [AddCommMonoid K] in
/-- Every value is in some cell. -/
theorem exists_cell {h w : ℕ} {xs : List K} {v : K} (hLength : xs.length = h * w) (hv : v ∈ xs) :
    ∃ y x : ℤ, (0 ≤ y ∧ y < h) ∧ (0 ≤ x ∧ x < w) ∧ readAt xs (y * w + x) = some v := by
  obtain ⟨i, hi, rfl⟩ := List.getElem_of_mem hv
  rw [hLength] at hi
  have hw : 0 < w := Nat.pos_of_mul_pos_left (Nat.zero_lt_of_lt hi)
  have hIndex : ((i / w : ℕ) : ℤ) * w + (i % w : ℕ) = i := by
    exact_mod_cast Nat.div_add_mod' i w
  refine ⟨(i / w : ℕ), (i % w : ℕ), ⟨Int.natCast_nonneg _, ?_⟩, ⟨Int.natCast_nonneg _, ?_⟩, ?_⟩
  · exact_mod_cast (Nat.div_lt_iff_lt_mul hw).mpr hi
  · exact_mod_cast Nat.mod_lt i hw
  · rw [hIndex, readAt_eq_some_iff]
    exact ⟨Int.natCast_nonneg i, List.getElem?_eq_getElem _⟩

namespace Adds

variable {h w : ℕ} {g g' : ℤ × ℤ → K} {f f' : List K → Option (List K)}

/-- Doing nothing adds nothing. -/
theorem skip : Adds h w (0 : ℤ × ℤ → K) some := fun xs hxs =>
  ⟨xs, rfl, hxs, fun y x v _ _ hv => by rw [hv, Pi.zero_apply, add_zero]⟩

/-- One checked write adds to one cell. -/
theorem addAt {y x : ℤ} (hy : 0 ≤ y ∧ y < h) (hx : 0 ≤ x ∧ x < w) (v : K) :
    Adds h w (oneCell (y, x) v) fun xs => Lib.addAt xs (y * w + x) v := by
  intro xs hxs
  have hCell : 0 ≤ y * w + x ∧ y * w + x < xs.length := hxs ▸ cell_mem hy hx
  refine ⟨xs.modify (y * w + x).toNat (· + v), if_pos hCell, by rw [List.length_modify, hxs], ?_⟩
  intro y' x' u _ hx' hu
  rw [readAt_eq_some_iff] at hu ⊢
  refine ⟨hu.1, ?_⟩
  rw [List.getElem?_modify, hu.2]
  by_cases hSame : (y, x) = (y', x')
  · obtain ⟨rfl, rfl⟩ := Prod.mk.inj hSame
    simp [oneCell]
  · have hOther : (y * w + x).toNat ≠ (y' * w + x').toNat := fun hIndex =>
      hSame (cell_injective hx hx' (by omega))
    simp [hOther, oneCell, Ne.symm hSame]

/-- Two steps add what both add. -/
theorem bind (hf : Adds h w g f) (hf' : Adds h w g' f') :
    Adds h w (g + g') fun xs => (f xs).bind f' := by
  intro xs hxs
  obtain ⟨ys, hys, hLength, hCells⟩ := hf xs hxs
  obtain ⟨zs, hzs, hLength', hCells'⟩ := hf' ys hLength
  refine ⟨zs, by simp only [hys, Option.bind_some, hzs], hLength', fun y x v hy hx hv => ?_⟩
  rw [hCells' y x _ hy hx (hCells y x v hy hx hv), Pi.add_apply, add_assoc]

/-- A loop adds what its rounds add. -/
theorem foldlM {α : Type*} {l : List α} {g : α → ℤ × ℤ → K} {f : List K → α → Option (List K)}
    (hf : ∀ a ∈ l, Adds h w (g a) fun xs => f xs a) :
    Adds h w (fun i => (l.map fun a => g a i).sum) fun xs => l.foldlM f xs := by
  induction l with
  | nil => exact Adds.skip
  | cons a l ih =>
    have hRest := ih fun b hb => hf b (List.mem_cons_of_mem a hb)
    exact (hf a (List.mem_cons_self ..)).bind hRest

/-- A loop over the integers from `lo` to `hi - 1`. -/
theorem foldlM_range (lo hi : ℤ) {g : ℤ → ℤ × ℤ → K} {f : List K → ℤ → Option (List K)}
    (hf : ∀ a, lo ≤ a → a < hi → Adds h w (g a) fun xs => f xs a) :
    Adds h w (fun i => ∑ a ∈ Finset.Ico lo hi, g a i) fun xs => (Int.range lo hi).foldlM f xs := by
  have hLoop := foldlM (l := Int.range lo hi) fun a ha =>
    hf a (Int.mem_range_iff.mp ha).1 (Int.mem_range_iff.mp ha).2
  have hNodup : (Int.range lo hi).Nodup :=
    List.nodup_range.map fun a b hab => by simpa using hab
  have hSum : ∀ i, ∑ a ∈ Finset.Ico lo hi, g a i = ((Int.range lo hi).map fun a => g a i).sum := by
    intro i
    rw [← List.sum_toFinset _ hNodup]
    refine Finset.sum_congr ?_ fun _ _ => rfl
    ext a
    rw [Finset.mem_Ico, List.mem_toFinset, Int.mem_range_iff]
  simpa only [hSum] using hLoop

/-- On an empty buffer. -/
theorem of_zeros (hf : Adds h w g f) : ∃ ys, f (List.replicate (h * w) 0) = some ys ∧
    ys.length = h * w ∧ ∀ y x : ℤ, 0 ≤ y ∧ y < h → 0 ≤ x ∧ x < w →
      readAt ys (y * w + x) = some (g (y, x)) := by
  obtain ⟨ys, hys, hLength, hCells⟩ := hf _ List.length_replicate
  refine ⟨ys, hys, hLength, fun y x hy hx => ?_⟩
  rw [hCells y x 0 hy hx (readAt_replicate (cell_mem hy hx)), zero_add]

end Adds

end Buffers

end PriceMap.Lib

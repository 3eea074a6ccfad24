import Mathlib.Algebra.BigOperators.Group.List.Basic
import Mathlib.Algebra.Order.BigOperators.Group.List
import Mathlib.Data.Fintype.EquivFin
import Mathlib.Order.Bounds.Basic

/-!
# Tallies

Weights added up by key in a dictionary, with the greatest value written so far.

* `tally_total`      — the dictionary holds the total of each key.
* `tally_isGreatest` — without negative weights the greatest value written is
  the greatest total.
* `total_le_total`   — a coarser key has totals at least as great.
-/

namespace PriceMap.Lib

variable {α κ κ' K : Type*} [DecidableEq κ] [DecidableEq κ'] [AddCommMonoid K] [LinearOrder K]

section Totals

omit [LinearOrder K]

/-- The weights of the data with key `b`. -/
def total (key : α → κ) (weight : α → K) (data : List α) (b : κ) : K :=
  ((data.filter fun a => key a = b).map weight).sum

variable {key : α → κ} {weight : α → K} {data : List α} {a : α} {b : κ}

/-- An entry of the bucket counts. -/
theorem total_append_of_eq (h : key a = b) :
    total key weight (data ++ [a]) b = total key weight data b + weight a := by
  simp [total, h]

/-- An entry of another bucket does not. -/
theorem total_append_of_ne (h : key a ≠ b) :
    total key weight (data ++ [a]) b = total key weight data b := by
  simp [total, h]

/-- An empty bucket weighs nothing. -/
theorem total_of_notMem (h : b ∉ data.map key) : total key weight data b = 0 := by
  have hNone : (data.filter fun a => key a = b) = [] := by
    rw [List.filter_eq_nil_iff]
    intro a ha hKey
    exact h (List.mem_map.mpr ⟨a, ha, of_decide_eq_true hKey⟩)
  rw [total, hNone]
  rfl

end Totals

/-- Adds the weight of `a` to the value of its key, and compares the result with
the greatest so far. -/
def tallyStep (key : α → κ) (weight : α → K) (s : (κ → Option K) × K) (a : α) :
    (κ → Option K) × K :=
  let newValue := (s.1 (key a)).getD 0 + weight a
  (Function.update s.1 (key a) (some newValue), if s.2 < newValue then newValue else s.2)

def tally (key : α → κ) (weight : α → K) (data : List α) : (κ → Option K) × K :=
  data.foldl (tallyStep key weight) (fun _ => none, 0)

variable {key : α → κ} {weight : α → K} {data : List α}

/-- The last entry is a round of its own. -/
theorem tally_append (a : α) :
    tally key weight (data ++ [a]) = tallyStep key weight (tally key weight data) a := by
  rw [tally, List.foldl_append]
  rfl

/-- **The dictionary** holds the totals. -/
theorem tally_total (b : κ) : ((tally key weight data).1 b).getD 0 = total key weight data b := by
  induction data using List.reverseRecOn with
  | nil => rfl
  | append_singleton data a ih =>
    simp only [tally_append, tallyStep]
    by_cases h : key a = b
    · subst h
      rw [Function.update_self, Option.getD_some, total_append_of_eq rfl, ih]
    · rw [Function.update_of_ne (Ne.symm h), total_append_of_ne h, ih]

section Nonneg

variable [IsOrderedAddMonoid K] (hWeight : ∀ a ∈ data, 0 ≤ weight a)

include hWeight

/-- No entry weighs more than its bucket. -/
theorem weight_le_total {a : α} (h : a ∈ data) : weight a ≤ total key weight data (key a) := by
  refine List.single_le_sum (fun w hw => ?_) _ ?_
  · obtain ⟨x, hx, rfl⟩ := List.mem_map.mp hw
    exact hWeight x (List.mem_of_mem_filter hx)
  · exact List.mem_map_of_mem (List.mem_filter.mpr ⟨h, by simp⟩)

variable (key) in
/-- The tally keeps the greatest weight of a bucket. -/
theorem tally_greatest :
    (∀ b, total key weight data b ≤ (tally key weight data).2) ∧
      ((tally key weight data).2 = 0 ∨
        ∃ b, (tally key weight data).2 = total key weight data b) := by
  induction data using List.reverseRecOn with
  | nil => exact ⟨fun b => le_rfl, Or.inl rfl⟩
  | append_singleton data a ih =>
    obtain ⟨hBound, hReached⟩ := ih fun x hx => hWeight x (List.mem_append_left _ hx)
    have hOwn : 0 ≤ weight a := hWeight a (List.mem_append_right _ (List.mem_singleton_self a))
    have hNew : ((tally key weight data).1 (key a)).getD 0 + weight a =
        total key weight (data ++ [a]) (key a) := by
      rw [tally_total, total_append_of_eq rfl]
    have hStep : (tally key weight (data ++ [a])).2 =
        max (tally key weight data).2 (total key weight (data ++ [a]) (key a)) := by
      rw [← hNew, max_def_lt, tally_append]
      rfl
    rw [hStep]
    constructor
    · intro b
      by_cases h : key a = b
      · exact h ▸ le_max_right _ _
      · rw [total_append_of_ne h]
        exact (hBound b).trans (le_max_left _ _)
    · rcases max_choice (tally key weight data).2 (total key weight (data ++ [a]) (key a)) with
        hOld | hLast
      · rw [hOld]
        refine hReached.imp_right fun ⟨b, hb⟩ => ⟨b, ?_⟩
        by_cases h : key a = b
        · refine le_antisymm ?_ (h ▸ max_eq_left_iff.mp hOld)
          rw [hb, total_append_of_eq h]
          exact le_add_of_nonneg_right hOwn
        · rw [total_append_of_ne h, hb]
      · exact Or.inr ⟨key a, hLast⟩

/-- **The greatest value written** is the greatest total. -/
theorem tally_isGreatest [Infinite κ] :
    IsGreatest (Set.range (total key weight data)) (tally key weight data).2 := by
  obtain ⟨hBound, hReached⟩ := tally_greatest key hWeight
  refine ⟨?_, fun t ⟨b, hb⟩ => hb ▸ hBound b⟩
  rcases hReached with hZero | ⟨b, hb⟩
  · obtain ⟨b, hb⟩ := Infinite.exists_notMem_finset (data.map key).toFinset
    rw [List.mem_toFinset] at hb
    exact ⟨b, by rw [hZero, total_of_notMem hb]⟩
  · exact ⟨b, hb.symm⟩

/-- **A coarser key** gathers more. -/
theorem total_le_total {key' : α → κ'} (f : κ → κ') (h : ∀ a ∈ data, key' a = f (key a)) (b : κ) :
    total key weight data b ≤ total key' weight data (f b) := by
  induction data with
  | nil => exact le_rfl
  | cons a data ih =>
    have hRest := ih (fun x hx => hWeight x (List.mem_cons_of_mem a hx))
      fun x hx => h x (List.mem_cons_of_mem a hx)
    have hOwn : 0 ≤ weight a := hWeight a (List.mem_cons_self ..)
    have hKey := h a (List.mem_cons_self ..)
    simp only [total, List.filter_cons, decide_eq_true_eq] at hRest ⊢
    by_cases hb : key a = b
    · simpa [hKey, hb] using add_le_add_right hRest (weight a)
    · rw [if_neg hb]
      split_ifs
      · rw [List.map_cons, List.sum_cons]
        exact hRest.trans (le_add_of_nonneg_left hOwn)
      · exact hRest

end Nonneg

end PriceMap.Lib

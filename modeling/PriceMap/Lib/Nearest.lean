import Mathlib.Data.List.Induction
import Mathlib.Order.Lattice

/-!
# Greedy covers and nearest centres

Points are gathered around centres, one after the other: a point that no centre
reaches becomes a centre. Each point belongs to the nearest centre that reaches
it, among equals to the last. `reach x c` is the distance of the point `x` from
the centre `c`, if `c` reaches it.

* `nearest_spec`, `nearest_append` — the nearest centre, and how one more centre
  changes it.
* `cover_reaches`, `cover_apart` — every point is reached, and no centre by an
  earlier one.
-/

namespace PriceMap.Lib

variable {α β K : Type*} [LinearOrder K]

-- ---------------------------------------------------------------------------
-- The nearest centre
-- ---------------------------------------------------------------------------

/-- The better of the best centre so far and the centre `index`. -/
def closer (best : Option (ℕ × K)) (index : ℕ) : Option K → Option (ℕ × K)
  | none => best
  | some d =>
    match best with
    | some (i, e) => if e < d then some (i, e) else some (index, d)
    | none => some (index, d)

def nearestFrom (reach : β → Option K) : ℕ → Option (ℕ × K) → List β → Option (ℕ × K)
  | _, best, [] => best
  | index, best, c :: cs => nearestFrom reach (index + 1) (closer best index (reach c)) cs

/-- The index of the nearest centre, and its distance. -/
def nearest (reach : β → Option K) (centers : List β) : Option (ℕ × K) :=
  nearestFrom reach 0 none centers

/-- The centre `i` reaches the point at the distance `d`, no other from nearer
by, and no later one from as near. -/
structure IsNearest (reach : β → Option K) (centers : List β) (i : ℕ) (d : K) : Prop where
  reached : ∃ c, centers[i]? = some c ∧ reach c = some d
  least : ∀ (j : ℕ) c e, centers[j]? = some c → reach c = some e → d ≤ e
  last : ∀ (j : ℕ) c, centers[j]? = some c → reach c = some d → j ≤ i

variable {reach : β → Option K} {centers : List β}

/-- A last centre is weighed against the best of those before. -/
theorem nearestFrom_append (index : ℕ) (best : Option (ℕ × K)) (c : β) :
    nearestFrom reach index best (centers ++ [c]) =
      closer (nearestFrom reach index best centers) (index + centers.length) (reach c) := by
  induction centers generalizing index best with
  | nil => rfl
  | cons first rest ih =>
    rw [List.cons_append, nearestFrom, ih, nearestFrom, List.length_cons]
    congr 1
    omega

/-- The same from the first centre on. -/
theorem nearest_append (c : β) :
    nearest reach (centers ++ [c]) = closer (nearest reach centers) centers.length (reach c) := by
  rw [nearest, nearestFrom_append, Nat.zero_add]
  rfl

/-- Something is found if either is. -/
theorem closer_isSome (best : Option (ℕ × K)) (index : ℕ) (d : Option K) :
    (closer best index d).isSome = (best.isSome || d.isSome) := by
  unfold closer
  cases d with
  | none => simp
  | some d =>
    cases best with
    | none => rfl
    | some best =>
      dsimp only
      split_ifs <;> rfl

/-- An entry of an extended list is an old one or the last. -/
theorem getElem?_append_singleton {i : ℕ} {c c' : β} (h : (centers ++ [c])[i]? = some c') :
    centers[i]? = some c' ∨ i = centers.length ∧ c = c' := by
  rcases lt_trichotomy i centers.length with hLt | rfl | hGt
  · rw [List.getElem?_append_left hLt] at h
    exact Or.inl h
  · rw [List.getElem?_append_right le_rfl, Nat.sub_self] at h
    exact Or.inr ⟨rfl, Option.some.inj h⟩
  · rw [List.getElem?_eq_none (by simp; omega)] at h
    cases h

/-- The nearest centre is one of the centres. -/
theorem IsNearest.lt_length {i : ℕ} {d : K} (h : IsNearest reach centers i d) :
    i < centers.length := by
  obtain ⟨c, hc, -⟩ := h.reached
  exact (List.getElem?_eq_some_iff.mp hc).1

/-- A new centre that is not reached from changes nothing. -/
theorem IsNearest.keep {i : ℕ} {d : K} (h : IsNearest reach centers i d) {c : β}
    (hFurther : ∀ e, reach c = some e → d < e) : IsNearest reach (centers ++ [c]) i d := by
  obtain ⟨c', hc', hd⟩ := h.reached
  refine ⟨⟨c', ?_, hd⟩, fun j b e hb he => ?_, fun j b hb hd' => ?_⟩
  · rw [List.getElem?_append_left h.lt_length, hc']
  · rcases getElem?_append_singleton hb with hOld | ⟨-, rfl⟩
    · exact h.least j b e hOld he
    · exact (hFurther e he).le
  · rcases getElem?_append_singleton hb with hOld | ⟨-, rfl⟩
    · exact h.last j b hOld hd'
    · exact absurd (hFurther d hd') (lt_irrefl d)

/-- A new centre that is as near as the old ones. -/
theorem isNearest_new {c : β} {d : K} (hd : reach c = some d)
    (hLeast : ∀ b e, b ∈ centers → reach b = some e → d ≤ e) :
    IsNearest reach (centers ++ [c]) centers.length d := by
  refine ⟨⟨c, by simp, hd⟩, fun j b e hb he => ?_, fun j b hb _ => ?_⟩
  · rcases getElem?_append_singleton hb with hOld | ⟨-, rfl⟩
    · exact hLeast b e (List.mem_of_getElem? hOld) he
    · rw [hd] at he
      exact (Option.some.inj he).le
  · rcases getElem?_append_singleton hb with hOld | ⟨rfl, -⟩
    · exact (List.getElem?_eq_some_iff.mp hOld).1.le
    · exact le_rfl

/-- **The nearest centre**, if one reaches the point at all. -/
theorem nearest_spec (reach : β → Option K) (centers : List β) :
    (nearest reach centers = none ∧ ∀ c ∈ centers, reach c = none) ∨
      ∃ i d, nearest reach centers = some (i, d) ∧ IsNearest reach centers i d := by
  induction centers using List.reverseRecOn with
  | nil => exact Or.inl ⟨rfl, fun c hc => by cases hc⟩
  | append_singleton centers c ih =>
    rw [nearest_append]
    rcases ih with ⟨hNone, hUnreached⟩ | ⟨i, d, hSome, hNearest⟩
    · rw [hNone]
      cases hReach : reach c with
      | none =>
        refine Or.inl ⟨rfl, fun b hb => ?_⟩
        rcases List.mem_append.mp hb with hOld | hNew
        · exact hUnreached b hOld
        · rw [List.mem_singleton.mp hNew, hReach]
      | some e =>
        refine Or.inr ⟨centers.length, e, rfl, isNearest_new hReach fun b e' hb he' => ?_⟩
        rw [hUnreached b hb] at he'
        cases he'
    · rw [hSome]
      cases hReach : reach c with
      | none => exact Or.inr ⟨i, d, rfl, hNearest.keep fun e he => by rw [hReach] at he; cases he⟩
      | some e =>
        by_cases hFurther : d < e
        · refine Or.inr ⟨i, d, if_pos hFurther, hNearest.keep fun e' he' => ?_⟩
          rw [hReach] at he'
          exact Option.some.inj he' ▸ hFurther
        · refine Or.inr ⟨centers.length, e, if_neg hFurther, isNearest_new hReach ?_⟩
          intro b e' hb he'
          obtain ⟨j, hj⟩ := List.getElem?_of_mem hb
          exact (not_lt.mp hFurther).trans (hNearest.least j b e' hj he')

/-- There is one nearest centre at most. -/
theorem IsNearest.unique {i j : ℕ} {d e : K} (h : IsNearest reach centers i d)
    (h' : IsNearest reach centers j e) : i = j ∧ d = e := by
  obtain ⟨c, hc, hd⟩ := h.reached
  obtain ⟨c', hc', he⟩ := h'.reached
  obtain rfl := le_antisymm (h.least j c' e hc' he) (h'.least i c d hc hd)
  exact ⟨le_antisymm (h'.last i c hc hd) (h.last j c' hc' he), rfl⟩

/-- The loop finds the nearest centre. -/
theorem nearest_eq_some_iff {i : ℕ} {d : K} :
    nearest reach centers = some (i, d) ↔ IsNearest reach centers i d := by
  rcases nearest_spec reach centers with ⟨hNone, hUnreached⟩ | ⟨j, e, hSome, hNearest⟩
  · rw [hNone]
    refine ⟨fun h => (by cases h), fun h => ?_⟩
    obtain ⟨c, hc, hd⟩ := h.reached
    rw [hUnreached c (List.mem_of_getElem? hc)] at hd
    cases hd
  · rw [hSome]
    constructor
    · rintro ⟨⟩
      exact hNearest
    · intro h
      obtain ⟨rfl, rfl⟩ := h.unique hNearest
      rfl

/-- The loop finds nothing exactly if no centre reaches. -/
theorem nearest_eq_none_iff : nearest reach centers = none ↔ ∀ c ∈ centers, reach c = none := by
  rcases nearest_spec reach centers with ⟨hNone, hUnreached⟩ | ⟨i, d, hSome, hNearest⟩
  · exact iff_of_true hNone hUnreached
  · refine iff_of_false (by rw [hSome]; exact Option.some_ne_none _) fun h => ?_
    obtain ⟨c, hc, hd⟩ := hNearest.reached
    rw [h c (List.mem_of_getElem? hc)] at hd
    cases hd

-- ---------------------------------------------------------------------------
-- The greedy cover
-- ---------------------------------------------------------------------------

/-- A point that no centre reaches becomes one. -/
def coverStep (reach : α → α → Option K) (centers : List α) (x : α) : List α :=
  if (nearest (reach x) centers).isSome then centers else centers ++ [x]

def cover (reach : α → α → Option K) (points : List α) : List α :=
  points.foldl (coverStep reach) []

section Cover

variable {reach : α → α → Option K} {points : List α}

/-- The last point is a round of its own. -/
theorem cover_append (x : α) :
    cover reach (points ++ [x]) = coverStep reach (cover reach points) x := by
  rw [cover, List.foldl_append]
  rfl

/-- A covered point stays covered. -/
theorem isSome_nearest_coverStep {y : α} {centers : List α}
    (h : (nearest (reach y) centers).isSome = true) (x : α) :
    (nearest (reach y) (coverStep reach centers x)).isSome = true := by
  unfold coverStep
  split_ifs
  · exact h
  · rw [nearest_append, closer_isSome, h, Bool.true_or]

/-- **Every point is reached**, if centres reach themselves. -/
theorem cover_reaches (hSelf : ∀ x ∈ points, (reach x x).isSome = true) :
    ∀ x ∈ points, (nearest (reach x) (cover reach points)).isSome = true := by
  induction points using List.reverseRecOn with
  | nil => exact fun x hx => by cases hx
  | append_singleton points x ih =>
    have hRest := ih fun y hy => hSelf y (List.mem_append_left _ hy)
    rw [cover_append]
    intro y hy
    rcases List.mem_append.mp hy with hOld | hNew
    · exact isSome_nearest_coverStep (hRest y hOld) x
    · obtain rfl := List.mem_singleton.mp hNew
      unfold coverStep
      split_ifs with hReached
      · exact hReached
      · rw [nearest_append, closer_isSome, hSelf y hy, Bool.or_true]

/-- Only points become centres. -/
theorem cover_subset : ∀ c ∈ cover reach points, c ∈ points := by
  induction points using List.reverseRecOn with
  | nil => exact fun c hc => by cases hc
  | append_singleton points x ih =>
    rw [cover_append]
    unfold coverStep
    intro c hc
    split_ifs at hc with hReached
    · exact List.mem_append_left _ (ih c hc)
    · rcases List.mem_append.mp hc with hOld | hNew
      · exact List.mem_append_left _ (ih c hOld)
      · exact List.mem_append_right _ hNew

/-- **No centre is reached** by an earlier one. -/
theorem cover_apart : (cover reach points).Pairwise fun c c' => reach c' c = none := by
  induction points using List.reverseRecOn with
  | nil => exact List.Pairwise.nil
  | append_singleton points x ih =>
    rw [cover_append]
    unfold coverStep
    split_ifs with hReached
    · exact ih
    · rw [Bool.not_eq_true, Option.isSome_eq_false_iff, Option.isNone_iff_eq_none,
        nearest_eq_none_iff] at hReached
      refine List.pairwise_append.mpr ⟨ih, List.pairwise_singleton .., fun c hc c' hc' => ?_⟩
      rw [List.mem_singleton.mp hc']
      exact hReached c hc

end Cover

end PriceMap.Lib

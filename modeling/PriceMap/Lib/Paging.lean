import Mathlib.Data.List.Basic

/-!
# Reading a paged source

A reader asks a source for one page after another until a page comes back
empty or its budget of requests is spent. Which page it asks for in which
round is its schedule; a reader that counts right has the schedule `id`.

* `collect_id`    — with it, the reader gets the first pages, each once, as far
  as the pages or the budget go.
* `collect_delay` — a reader whose page number lags one round behind gets the
  first page, and then everything from the start.

Where requests may fail (`tryCollect`), a failed request ends the reader:

* `tryCollect_ok`, `tryCollect_error` — it gets what it would get from the pages
  if none of the requests it comes to fails, and nothing otherwise.
-/

namespace PriceMap.Lib

variable {α : Type*}

/-- What a reader with the given budget collects from round `i` on. -/
def collect (fetch : ℕ → List α) (schedule : ℕ → ℕ) : ℕ → ℕ → List α
  | 0, _ => []
  | budget + 1, i =>
    if (fetch (schedule i)).isEmpty then []
    else fetch (schedule i) ++ collect fetch schedule budget (i + 1)

/-- The source has exactly the pages below `n`, none of them empty. -/
structure PagesBelow (fetch : ℕ → List α) (n : ℕ) : Prop where
  nonempty : ∀ k < n, fetch k ≠ []
  empty : ∀ k, n ≤ k → fetch k = []

def firstPages (fetch : ℕ → List α) (n : ℕ) : List α := (List.range n).flatMap fetch

@[simp] theorem firstPages_zero (fetch : ℕ → List α) : firstPages fetch 0 = [] := rfl

theorem firstPages_succ (fetch : ℕ → List α) (n : ℕ) :
    firstPages fetch (n + 1) = firstPages fetch n ++ fetch n := by
  simp [firstPages, List.range_succ, List.flatMap_append]

/-- The entries of the first pages. -/
theorem mem_firstPages {fetch : ℕ → List α} {n : ℕ} {x : α} :
    x ∈ firstPages fetch n ↔ ∃ k < n, x ∈ fetch k := by
  simp [firstPages, List.mem_flatMap]

variable {fetch : ℕ → List α} {n : ℕ}

/-- From round `i` on, a reader that counts right adds the pages from `i`. -/
theorem firstPages_append_collect (h : PagesBelow fetch n) (budget i : ℕ) (hi : i ≤ n) :
    firstPages fetch i ++ collect fetch id budget i = firstPages fetch (min n (i + budget)) := by
  induction budget generalizing i with
  | zero => simp [collect, Nat.min_eq_right hi]
  | succ budget ih =>
    rw [collect, id]
    rcases Nat.lt_or_eq_of_le hi with hlt | rfl
    · have hNonempty : ¬ (fetch i).isEmpty = true := by
        simpa using h.nonempty i hlt
      rw [if_neg hNonempty, ← List.append_assoc, ← firstPages_succ, ih (i + 1) hlt]
      congr 2
      omega
    · have hEmpty : (fetch i).isEmpty = true := by
        simpa using h.empty i (Nat.le_refl i)
      rw [if_pos hEmpty, List.append_nil, Nat.min_eq_left (Nat.le_add_right ..)]

/-- **A reader that counts right** gets the pages below `n`, or as many as its
budget allows. -/
theorem collect_id (h : PagesBelow fetch n) (budget : ℕ) :
    collect fetch id budget 0 = firstPages fetch (min n budget) := by
  have hAll := firstPages_append_collect h budget 0 (Nat.zero_le n)
  simpa using hAll

/-- A lagging schedule is a prompt one from its second round on. -/
theorem collect_pred (budget i : ℕ) :
    collect fetch (fun j => j - 1) budget (i + 1) = collect fetch id budget i := by
  induction budget generalizing i with
  | zero => rfl
  | succ budget ih =>
    rw [collect, collect, ih (i + 1)]
    rfl

/-- **A reader that lags one round behind** reads the first page twice. -/
theorem collect_delay (h : PagesBelow fetch n) (budget : ℕ) :
    collect fetch (fun j => j - 1) (budget + 1) 0 =
      if n = 0 then [] else fetch 0 ++ firstPages fetch (min n budget) := by
  rw [collect, collect_pred, collect_id h]
  by_cases hn : n = 0
  · have hEmpty : (fetch (0 - 1)).isEmpty = true := by
      simpa using h.empty 0 (Nat.le_of_eq hn)
    rw [if_pos hEmpty, if_pos hn]
  · have hNonempty : ¬ (fetch (0 - 1)).isEmpty = true := by
      simpa using h.nonempty 0 (Nat.pos_of_ne_zero hn)
    rw [if_neg hNonempty, if_neg hn]

-- ---------------------------------------------------------------------------
-- Requests that may fail
-- ---------------------------------------------------------------------------

variable {ε : Type*}

/-- The same reader, of a source whose requests may fail. -/
def tryCollect (fetch : ℕ → Except ε (List α)) (schedule : ℕ → ℕ) : ℕ → ℕ → Except ε (List α)
  | 0, _ => .ok []
  | budget + 1, i =>
    match fetch (schedule i) with
    | .error e => .error e
    | .ok page =>
      if page.isEmpty then .ok []
      else (tryCollect fetch schedule budget (i + 1)).map (page ++ ·)

/-- From round `i` on, the reader comes to round `j`: no page before it is
empty. -/
def Reached (pages : ℕ → List α) (schedule : ℕ → ℕ) (i j : ℕ) : Prop :=
  i ≤ j ∧ ∀ l, i ≤ l → l < j → pages (schedule l) ≠ []

variable {answer : ℕ → Except ε (List α)} {pages : ℕ → List α} {schedule : ℕ → ℕ}

/-- A place reached later was reached before. -/
theorem Reached.of_succ {i j : ℕ} (h : Reached pages schedule (i + 1) j)
    (hPage : pages (schedule i) ≠ []) : Reached pages schedule i j := by
  refine ⟨by have hLe := h.1; omega, fun l hl hj => ?_⟩
  rcases Nat.eq_or_lt_of_le hl with rfl | hLater
  · exact hPage
  · exact h.2 l hLater hj

/-- A source none of whose reached requests fails. -/
theorem tryCollect_ok (budget i : ℕ)
    (h : ∀ j, Reached pages schedule i j → j < i + budget →
      answer (schedule j) = .ok (pages (schedule j))) :
    tryCollect answer schedule budget i = .ok (collect pages schedule budget i) := by
  induction budget generalizing i with
  | zero => rfl
  | succ budget ih =>
    have hNow := h i ⟨Nat.le_refl i, fun l hl hj => by omega⟩ (by omega)
    rw [tryCollect, hNow, collect]
    dsimp only
    split
    · rfl
    · next hPage =>
      have hNonempty : pages (schedule i) ≠ [] := by simpa using hPage
      rw [ih (i + 1) fun j hj hLt => h j (hj.of_succ hNonempty) (by omega)]
      rfl

/-- A source that answers truly, where it answers, but fails in round `j`. -/
theorem tryCollect_error (hTrue : ∀ k page, answer k = .ok page → page = pages k) (budget i j : ℕ)
    (hReached : Reached pages schedule i j) (hLt : j < i + budget)
    (hFail : ∃ e, answer (schedule j) = .error e) :
    ∃ e, tryCollect answer schedule budget i = .error e := by
  induction budget generalizing i with
  | zero =>
    have hLe := hReached.1
    omega
  | succ budget ih =>
    rw [tryCollect]
    cases hAnswer : answer (schedule i) with
    | error e => exact ⟨e, rfl⟩
    | ok page =>
      rcases Nat.eq_or_lt_of_le hReached.1 with rfl | hLater
      · obtain ⟨e, hError⟩ := hFail
        rw [hAnswer] at hError
        cases hError
      · have hPage : pages (schedule i) ≠ [] := hReached.2 i (Nat.le_refl i) hLater
        have hNonempty : ¬ page.isEmpty = true := by
          rw [hTrue _ _ hAnswer]
          simpa using hPage
        have hNext : Reached pages schedule (i + 1) j :=
          ⟨hLater, fun l hl hj => hReached.2 l (by omega) hj⟩
        obtain ⟨e, hError⟩ := ih (i + 1) hNext (by omega)
        dsimp only
        rw [if_neg hNonempty, hError]
        exact ⟨e, rfl⟩

/-- The reader that lags one round behind comes to the rounds up to the first
empty page. -/
theorem reached_delay_iff (h : PagesBelow pages n) (j : ℕ) :
    Reached pages (fun l => l - 1) 0 j ↔ j = 0 ∨ (n ≠ 0 ∧ j - 1 ≤ n) := by
  refine ⟨?_, ?_⟩
  · rintro ⟨-, hPages⟩
    by_contra hNot
    rcases Nat.eq_zero_or_pos n with hn | hn
    · exact hPages 0 (Nat.le_refl 0) (by omega) (h.empty _ (by omega))
    · exact hPages (n + 1) (by omega) (by omega) (h.empty n (Nat.le_refl n))
  · intro hj
    refine ⟨Nat.zero_le j, fun l _ hl => ?_⟩
    have hLt : l - 1 < n := by omega
    exact h.nonempty (l - 1) hLt

end PriceMap.Lib

import Mathlib.Data.List.Basic

/-!
# Requests in flight

Requests travel on channels. A sender that wants only its newest answer
cancels whatever is still in flight on the channel before it sends again
(`supersede`). What this buys is `LatestOn`: the only request that can still
be answered on that channel is the newest one. Nothing is said about the
other channels, where older requests may still be in flight.
-/

namespace PriceMap.Lib

variable {ρ κ : Type*} (chan : ρ → κ)

/-- Cancel what is in flight on the channel of `r`, then send `r`. -/
def supersede [DecidableEq κ] (r : ρ) (pool : List ρ) : List ρ :=
  pool.filter (fun x => chan x ≠ chan r) ++ [r]

/-- On channel `c`, only the request `n` can still be in flight. -/
def LatestOn (pool : List ρ) (c : κ) (n : Option ρ) : Prop :=
  ∀ r ∈ pool, chan r = c → n = some r

variable {chan}

/-- What is in flight after superseding a channel. -/
theorem mem_supersede [DecidableEq κ] {r x : ρ} {pool : List ρ} :
    x ∈ supersede chan r pool ↔ (x ∈ pool ∧ chan x ≠ chan r) ∨ x = r := by
  simp [supersede, List.mem_filter]

/-- The new request is the latest of its channel. -/
theorem latestOn_supersede [DecidableEq κ] (r : ρ) (pool : List ρ) :
    LatestOn chan (supersede chan r pool) (chan r) (some r) := by
  intro x hx hChan
  rcases mem_supersede.mp hx with ⟨-, hNe⟩ | rfl
  · exact absurd hChan hNe
  · rfl

/-- Requests may drop out. -/
theorem LatestOn.of_subset {pool pool' : List ρ} {c : κ} {n : Option ρ}
    (h : LatestOn chan pool c n) (hSub : pool' ⊆ pool) :
    LatestOn chan pool' c n :=
  fun r hr => h r (hSub hr)

/-- On a channel that nothing uses any request is the latest. -/
theorem latestOn_of_unused {pool : List ρ} {c : κ} (n : Option ρ)
    (h : ∀ r ∈ pool, chan r ≠ c) : LatestOn chan pool c n :=
  fun r hr hChan => absurd hChan (h r hr)

/-- While the newest request of all was sent on channel `c`, a request in
flight is the newest exactly when it was sent on `c`. -/
theorem LatestOn.eq_newest_iff {pool : List ρ} {c : κ} {n : Option ρ}
    (h : LatestOn chan pool c n) (hNewest : ∀ r, n = some r → chan r = c)
    {r : ρ} (hr : r ∈ pool) : n = some r ↔ chan r = c :=
  ⟨hNewest r, h r hr⟩

end PriceMap.Lib

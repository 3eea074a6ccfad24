import Mathlib.Tactic.IntervalCases
import PriceMap.Backend.Values
import PriceMap.Lib.Paging

/-!
# Backend — the transactions of a postcode

`services/priceService.js` reads the transactions of a postcode from the land
registry, page by page. The page number is kept in the options object, and the
loop stores its index there *after* the request: round `i` asks for page
`i - 1`, and the first two rounds for page 0.

* `getAllFromPostcode_eq`  — what the loop returns for any number of pages.
* `getAllFromPostcode_iff` — it returns each transaction once only where there
  are none.
* `getAllFromPostcode_complete_iff` — it returns a list that misses none, or is
  rejected, as far as 49 pages and no further.
-/

namespace PriceMap.Backend

-- ---------------------------------------------------------------------------
-- The loop
-- ---------------------------------------------------------------------------

structure Qs where
  _page : String
  postcode : String
  deriving DecidableEq, Repr

structure Options where
  method : String
  url : String
  qs : Qs
  deriving DecidableEq, Repr

/-- What the service uses of its platform. -/
structure Node where
  toUpperCase : String → String
  /-- `await request(options)` and `JSON.parse` of the body -/
  request : Options → Except JsError Json

/-- An element of `props`. -/
structure Transaction where
  pricePaid : Value
  propertyAddress : Value
  transactionDate : Value

def newItem (item : Value) : Except JsError Transaction := do
  let pricePaid ← getProperty item "pricePaid"
  let propertyAddress ← getProperty item "propertyAddress"
  let transactionDate ← getProperty item "transactionDate"
  return ⟨pricePaid, propertyAddress, transactionDate⟩

def resultItems (response : Json) : Except JsError Value := do
  let result ← getProperty (some response) "result"
  getProperty result "items"

/-- The options `getAllFromPostcode` starts with, for page `page`. -/
def optionsFor (postcode page : String) : Options where
  method := "GET"
  url := "http://landregistry.data.gov.uk/data/ppi/transaction-record.json"
  qs := { _page := page, postcode := postcode }

/-- The `for` loop of `getAllFromPostcode` with `rounds` rounds to go, from
index `i` on. -/
def pageLoop (node : Node) : ℕ → ℕ → Options → List Transaction →
    Except JsError (List Transaction)
  | 0, _, _, props => return props
  | rounds + 1, i, options, props => do
    let response ← node.request options
    let options := { options with qs := { options.qs with _page := toString i } }
    let items ← resultItems response
    if ← lengthIsZero items then
      return props
    let newItems ← (← iterate items).mapM newItem
    pageLoop node rounds (i + 1) options (props ++ newItems)

def getAllFromPostcode (node : Node) (postcode : String) : Except JsError (List Transaction) :=
  pageLoop node 50 0 (optionsFor (node.toUpperCase postcode) "0") []

-- ---------------------------------------------------------------------------
-- Against a paged registry
-- ---------------------------------------------------------------------------

abbrev Record := List (String × Json)

/-- What `props` keeps of a record. -/
def Record.transaction (record : Record) : Transaction where
  pricePaid := Json.member record "pricePaid"
  propertyAddress := Json.member record "propertyAddress"
  transactionDate := Json.member record "transactionDate"

/-- The registry answers requests for the transactions at `postcode` with the
records of `pages`. -/
def Serves (node : Node) (postcode : String) (pages : ℕ → List Record) : Prop :=
  ∀ k : ℕ, ∃ response, node.request (optionsFor postcode (toString k)) = .ok response ∧
    resultItems response = .ok (some (.arr ((pages k).map .obj)))

variable {node : Node} {postcode : String} {pages : ℕ → List Record}

theorem ok_bind {α β : Type} (a : α) (f : α → Except JsError β) :
    ((.ok a : Except JsError α) >>= f) = f a := rfl

theorem newItem_record (record : Record) :
    newItem (some (.obj record)) = .ok record.transaction := rfl

/-- Every record gives its transaction. -/
theorem mapM_newItem (records : List Record) :
    (records.map fun record => some (Json.obj record)).mapM newItem =
      .ok (records.map Record.transaction) := by
  induction records with
  | nil => rfl
  | cons record rest ih =>
    rw [List.map_cons, List.mapM_cons, ih, newItem_record]
    rfl

/-- The registry answers requests for the transactions at `postcode` with the
records of a page, or fails. -/
def Answers (node : Node) (postcode : String) (answer : ℕ → Except JsError (List Record)) : Prop :=
  ∀ k : ℕ, (node.request (optionsFor postcode (toString k)) >>= resultItems) =
    (answer k).map fun records => some (.arr (records.map .obj))

/-- A registry that serves pages fails at none. -/
theorem Serves.answers (h : Serves node postcode pages) :
    Answers node postcode fun k => .ok (pages k) := by
  intro k
  obtain ⟨response, hResponse, hItems⟩ := h k
  rw [hResponse, ok_bind, hItems]
  rfl

variable {answer : ℕ → Except JsError (List Record)}

/-- **One round** asks for the page in the options, stops if it is empty, and
else goes on with the page number `i`. -/
theorem pageLoop_succ (hAnswers : Answers node postcode answer) (rounds i k : ℕ)
    (props : List Transaction) :
    pageLoop node (rounds + 1) i (optionsFor postcode (toString k)) props =
      match answer k with
      | .error e => .error e
      | .ok page =>
        if page.isEmpty then .ok props
        else pageLoop node rounds (i + 1) (optionsFor postcode (toString i))
          (props ++ page.map Record.transaction) := by
  have hAnswer := hAnswers k
  rw [pageLoop]
  cases hRequest : node.request (optionsFor postcode (toString k)) with
  | error e =>
    rw [hRequest] at hAnswer
    cases hPage : answer k with
    | error e' =>
      rw [hPage] at hAnswer
      have hSame : (.error e : Except JsError Value) = .error e' := hAnswer
      obtain rfl := Except.error.inj hSame
      rfl
    | ok page =>
      rw [hPage] at hAnswer
      cases hAnswer
  | ok response =>
    rw [hRequest, ok_bind] at hAnswer
    rw [ok_bind]
    cases hPage : answer k with
    | error e =>
      rw [hPage] at hAnswer
      simp only [hAnswer]
      rfl
    | ok page =>
      rw [hPage] at hAnswer
      have hLength : lengthIsZero (some (.arr (page.map .obj))) = .ok page.isEmpty := by
        simp [lengthIsZero]
      have hIterate : iterate (some (.arr (page.map .obj))) =
          .ok (page.map fun record => some (Json.obj record)) := by
        simp [iterate]
      simp only [hAnswer, Except.map, ok_bind, hLength]
      split
      · rfl
      · rw [hIterate, ok_bind, mapM_newItem]
        rfl

/-- **The loop is a reader that lags one round behind.** -/
theorem pageLoop_eq (hAnswers : Answers node postcode answer) (rounds i : ℕ)
    (props : List Transaction) :
    pageLoop node rounds i (optionsFor postcode (toString (i - 1))) props =
      (Lib.tryCollect answer (fun j => j - 1) rounds i).map fun records =>
        props ++ records.map Record.transaction := by
  induction rounds generalizing i props with
  | zero => simp [pageLoop, Lib.tryCollect, Except.map, pure, Except.pure]
  | succ rounds ih =>
    rw [pageLoop_succ hAnswers, Lib.tryCollect]
    cases hPage : answer (i - 1) with
    | error e => rfl
    | ok page =>
      dsimp only
      split
      · simp [Except.map]
      · have hNext := ih (i + 1) (props ++ page.map Record.transaction)
        rw [Nat.add_sub_cancel] at hNext
        rw [hNext]
        cases Lib.tryCollect answer (fun j => j - 1) rounds (i + 1) with
        | error e => rfl
        | ok records => simp [Except.map]

/-- The loop is the one of the paging library, a round behind. -/
theorem getAllFromPostcode_answers (hAnswers : Answers node (node.toUpperCase postcode) answer) :
    getAllFromPostcode node postcode =
      (Lib.tryCollect answer (fun j => j - 1) 50 0).map fun records =>
        records.map Record.transaction := by
  have hLoop := pageLoop_eq hAnswers 50 0 []
  simp only [List.nil_append] at hLoop
  exact hLoop

/-- **What is returned, for any number of pages**: the first page, then the
first 49 pages from the start. -/
theorem getAllFromPostcode_eq {n : ℕ} (hServes : Serves node (node.toUpperCase postcode) pages)
    (hPages : Lib.PagesBelow pages n) :
    getAllFromPostcode node postcode =
      .ok ((if n = 0 then [] else pages 0 ++ Lib.firstPages pages (min n 49)).map
        Record.transaction) := by
  have hAll : Lib.tryCollect (fun k => (.ok (pages k) : Except JsError (List Record)))
      (fun j => j - 1) 50 0 = .ok (Lib.collect pages (fun j => j - 1) 50 0) :=
    Lib.tryCollect_ok 50 0 fun _ _ _ => rfl
  rw [getAllFromPostcode_answers hServes.answers, hAll, Lib.collect_delay hPages 49]
  rfl

/-- **Each transaction exactly once, only where there is none.** With at most
49 pages of transactions, the answer is the concatenation of the pages if and
only if the postcode has no transactions. -/
theorem getAllFromPostcode_iff (node : Node) (postcode : String) (pages : ℕ → List Record) (n : ℕ)
    (hServes : Serves node (node.toUpperCase postcode) pages) (hPages : Lib.PagesBelow pages n)
    (hBudget : n ≤ 49) :
    getAllFromPostcode node postcode =
        .ok ((Lib.firstPages pages n).map Record.transaction) ↔
      n = 0 := by
  rw [getAllFromPostcode_eq hServes hPages, Nat.min_eq_left hBudget]
  refine ⟨?_, ?_⟩
  · intro h
    by_contra hn
    rw [if_neg hn] at h
    have hLength := congrArg List.length (Except.ok.inj h)
    have hFirst : 0 < (pages 0).length :=
      List.length_pos_of_ne_nil (hPages.nonempty 0 (Nat.pos_of_ne_zero hn))
    simp only [List.length_map, List.length_append] at hLength
    omega
  · rintro rfl
    rfl

-- ---------------------------------------------------------------------------
-- A postcode with one transaction
-- ---------------------------------------------------------------------------

def sale : Record :=
  [("pricePaid", .num 285000), ("transactionDate", .str "Wed, 08 May 2013")]

/-- A registry whose page 0 has one transaction and whose other pages are
empty. -/
def oneSale : Node where
  toUpperCase := String.toUpper
  request options := .ok (.obj [("result", .obj [("items",
    .arr (if options.qs._page = "0" then [.obj sale] else []))])])

def oneSalePages (k : ℕ) : List Record := if k = 0 then [sale] else []

/-- Only the number 0 is written as a 0. -/
theorem toString_eq_zero_iff (k : ℕ) : toString k = "0" ↔ k = 0 := by
  refine ⟨?_, ?_⟩
  · intro h
    rw [Nat.toString_eq_repr] at h
    have hLength : k.repr.length ≤ 1 := by
      rw [h]
      decide
    have hDigit : k < 10 := (Nat.length_repr_le_iff (by decide)).mp hLength
    rw [Nat.repr_of_lt hDigit] at h
    interval_cases k <;> first | rfl | exact absurd h (by decide)
  · rintro rfl
    rfl

theorem oneSale_serves (postcode : String) : Serves oneSale postcode oneSalePages := by
  intro k
  refine ⟨_, rfl, ?_⟩
  show Except.ok (some (Json.arr (if toString k = "0" then [.obj sale] else []))) = _
  simp only [oneSalePages, toString_eq_zero_iff]
  split <;> rfl

theorem oneSale_pages : Lib.PagesBelow oneSalePages 1 where
  nonempty k hk := by
    obtain rfl : k = 0 := by omega
    simp [oneSalePages]
  empty k hk := if_neg (by omega)

/-- A registry with one sale, which is listed twice. -/
theorem getAllFromPostcode_twice :
    ¬ ∀ (node : Node) (postcode : String) (pages : ℕ → List Record) (n : ℕ),
      Serves node (node.toUpperCase postcode) pages → Lib.PagesBelow pages n → n ≤ 49 →
        getAllFromPostcode node postcode =
          .ok ((Lib.firstPages pages n).map Record.transaction) := by
  intro h
  have hOnce := h oneSale "BN1 7JJ" oneSalePages 1 (oneSale_serves _) oneSale_pages (by decide)
  rw [getAllFromPostcode_eq (oneSale_serves _) oneSale_pages] at hOnce
  have hLength := congrArg List.length (Except.ok.inj hOnce)
  exact absurd hLength (by decide)

theorem getAllFromPostcode_iff_oneSale :
    getAllFromPostcode oneSale "BN1 7JJ" =
        .ok ((Lib.firstPages oneSalePages 1).map Record.transaction) ↔
      1 = 0 :=
  getAllFromPostcode_iff oneSale "BN1 7JJ" oneSalePages 1 (oneSale_serves _) oneSale_pages
    (by decide)

-- ---------------------------------------------------------------------------
-- More pages than rounds
-- ---------------------------------------------------------------------------

/-- A call that comes to a failing page is rejected. -/
theorem getAllFromPostcode_rejected {n k : ℕ}
    (hAnswers : Answers node (node.toUpperCase postcode) answer)
    (hTrue : ∀ k page, answer k = .ok page → page = pages k) (hPages : Lib.PagesBelow pages n)
    (hk : k ≤ n ∧ k ≤ 48) (hFail : ∃ e, answer k = .error e) :
    ∃ e, getAllFromPostcode node postcode = .error e := by
  obtain ⟨j, hj, hRound⟩ : ∃ j, (j = 0 ∨ (n ≠ 0 ∧ j - 1 ≤ n)) ∧ j < 50 ∧ j - 1 = k := by
    rcases Nat.eq_zero_or_pos k with rfl | hPos
    · exact ⟨0, Or.inl rfl, by decide, rfl⟩
    · exact ⟨k + 1, by omega, by omega, by omega⟩
  rw [← hRound.2] at hFail
  have hReached := (Lib.reached_delay_iff hPages j).mpr hj
  obtain ⟨e, hError⟩ := Lib.tryCollect_error hTrue 50 0 j hReached (by omega) hFail
  refine ⟨e, ?_⟩
  rw [getAllFromPostcode_answers hAnswers, hError]
  rfl

/-- A call that comes to no failing page returns what the pages hold. -/
theorem getAllFromPostcode_returned {n : ℕ}
    (hAnswers : Answers node (node.toUpperCase postcode) answer)
    (hTrue : ∀ k page, answer k = .ok page → page = pages k) (hPages : Lib.PagesBelow pages n)
    (hFail : ¬ ∃ k, (k ≤ n ∧ k ≤ 48) ∧ ∃ e, answer k = .error e) :
    getAllFromPostcode node postcode =
      .ok ((if n = 0 then [] else pages 0 ++ Lib.firstPages pages (min n 49)).map
        Record.transaction) := by
  have hPagesOk : ∀ j, Lib.Reached pages (fun j => j - 1) 0 j → j < 0 + 50 →
      answer (j - 1) = .ok (pages (j - 1)) := by
    intro j hReached hLt
    rw [Lib.reached_delay_iff hPages] at hReached
    cases hAnswer : answer (j - 1) with
    | error e => exact absurd ⟨j - 1, by omega, e, hAnswer⟩ hFail
    | ok page => rw [hTrue _ _ hAnswer]
  rw [getAllFromPostcode_answers hAnswers, Lib.tryCollect_ok 50 0 hPagesOk,
    Lib.collect_delay hPages 49]
  rfl

/-- **Complete or rejected, as far as 49 pages.** Over a registry whose answers
are its pages or failures, the call is rejected or returns every transaction if
and only if one of the pages up to the 49th fails, or every transaction on the
pages from the 50th on is on an earlier page too. -/
theorem getAllFromPostcode_complete_iff (node : Node) (postcode : String)
    (answer : ℕ → Except JsError (List Record)) (pages : ℕ → List Record) (n : ℕ)
    (hAnswers : Answers node (node.toUpperCase postcode) answer)
    (hTrue : ∀ k page, answer k = .ok page → page = pages k) (hPages : Lib.PagesBelow pages n) :
    ((∃ e, getAllFromPostcode node postcode = .error e) ∨
        ∃ props, getAllFromPostcode node postcode = .ok props ∧
          ∀ record ∈ Lib.firstPages pages n, record.transaction ∈ props) ↔
      (∃ k, (k ≤ n ∧ k ≤ 48) ∧ ∃ e, answer k = .error e) ∨
        ∀ k, 49 ≤ k → k < n → ∀ record ∈ pages k,
          record.transaction ∈ (Lib.firstPages pages 49).map Record.transaction := by
  by_cases hFail : ∃ k, (k ≤ n ∧ k ≤ 48) ∧ ∃ e, answer k = .error e
  · obtain ⟨k, hk, hError⟩ := hFail
    exact iff_of_true (Or.inl (getAllFromPostcode_rejected hAnswers hTrue hPages hk hError))
      (Or.inl ⟨k, hk, hError⟩)
  · have hReturned := getAllFromPostcode_returned hAnswers hTrue hPages hFail
    rw [hReturned]
    refine ⟨?_, ?_⟩
    · rintro (⟨e, hError⟩ | ⟨props, hProps, hAll⟩)
      · cases hError
      · refine Or.inr fun k hLow hHigh record hRecord => ?_
        have hMem := hAll record (Lib.mem_firstPages.mpr ⟨k, hHigh, hRecord⟩)
        rw [← Except.ok.inj hProps, if_neg (by omega), Nat.min_eq_right (by omega)] at hMem
        -- the first page is read a second time
        refine List.map_subset _ (fun x hx => ?_) hMem
        rcases List.mem_append.mp hx with hx | hx
        · exact Lib.mem_firstPages.mpr ⟨0, by decide, hx⟩
        · exact hx
    · rintro (hError | hTail)
      · exact absurd hError hFail
      · refine Or.inr ⟨_, rfl, fun record hRecord => ?_⟩
        obtain ⟨k, hk, hMem⟩ := Lib.mem_firstPages.mp hRecord
        rw [if_neg (by omega), List.map_append]
        refine List.mem_append_right _ ?_
        rcases Nat.lt_or_ge k 49 with hLow | hHigh
        · exact List.mem_map_of_mem (Lib.mem_firstPages.mpr ⟨k, by omega, hMem⟩)
        · rw [Nat.min_eq_right (by omega)]
          exact hTail k hHigh hk record hMem

/-- A registry that serves the given pages. -/
def pagedNode (pages : ℕ → List Record) : Node where
  toUpperCase := String.toUpper
  request options := .ok (.obj [("result", .obj [("items",
    .arr ((pages ((digitsValue options.qs._page.toList).getD 0)).map .obj))])])

theorem pagedNode_serves (pages : ℕ → List Record) (postcode : String) :
    Serves (pagedNode pages) postcode pages := by
  intro k
  have hPage : digitsValue (toString k).toList = some k := by
    rw [Nat.toString_eq_repr, Nat.toList_repr, digitsValue_toDigits]
  refine ⟨_, rfl, ?_⟩
  show Except.ok (some (Json.arr
    ((pages ((digitsValue (toString k).toList).getD 0)).map .obj))) = _
  rw [hPage]
  rfl

/-- 50 pages with one transaction each, for its own number of pounds. -/
def fiftyPages (k : ℕ) : List Record :=
  if k < 50 then [[("pricePaid", .num k)]] else []

theorem fiftyPages_below : Lib.PagesBelow fiftyPages 50 where
  nonempty k hk := by simp [fiftyPages, hk]
  empty k hk := if_neg (by omega)

/-- The first pages hold the cheaper transactions. -/
theorem fiftyPages_cheaper {k : ℕ} {record : Record}
    (h : record ∈ Lib.firstPages fiftyPages k) :
    ∃ j < k, record.transaction.pricePaid = some (.num j) := by
  obtain ⟨j, hj, hRecord⟩ := Lib.mem_firstPages.mp h
  unfold fiftyPages at hRecord
  split at hRecord
  · obtain rfl := List.mem_singleton.mp hRecord
    exact ⟨j, hj, rfl⟩
  · cases hRecord

/-- Fifty pages, the last of which is never asked for. -/
theorem getAllFromPostcode_complete_fails :
    ¬ ∀ (node : Node) (postcode : String) (answer : ℕ → Except JsError (List Record))
        (pages : ℕ → List Record) (n : ℕ),
      Answers node (node.toUpperCase postcode) answer →
      (∀ k page, answer k = .ok page → page = pages k) → Lib.PagesBelow pages n →
        (∃ e, getAllFromPostcode node postcode = .error e) ∨
          ∃ props, getAllFromPostcode node postcode = .ok props ∧
            ∀ record ∈ Lib.firstPages pages n, record.transaction ∈ props := by
  intro h
  have hServes := pagedNode_serves fiftyPages ((pagedNode fiftyPages).toUpperCase "BN1 7JJ")
  rcases h (pagedNode fiftyPages) "BN1 7JJ" _ fiftyPages 50 hServes.answers
    (fun k page hPage => (Except.ok.inj hPage).symm) fiftyPages_below with ⟨e, hError⟩ | h
  · rw [getAllFromPostcode_eq hServes fiftyPages_below] at hError
    cases hError
  · obtain ⟨props, hProps, hAll⟩ := h
    rw [getAllFromPostcode_eq hServes fiftyPages_below] at hProps
    -- the transaction for 49 pounds, on the last page
    have hLast := hAll [("pricePaid", .num (49 : ℕ))]
      (Lib.mem_firstPages.mpr ⟨49, by decide, List.mem_singleton.mpr rfl⟩)
    rw [← Except.ok.inj hProps] at hLast
    obtain ⟨record, hRecord, hSame⟩ := List.mem_map.mp hLast
    have hEarly : record ∈ Lib.firstPages fiftyPages 49 := by
      rcases List.mem_append.mp hRecord with hFirst | hRest
      · exact Lib.mem_firstPages.mpr ⟨0, by decide, hFirst⟩
      · exact hRest
    obtain ⟨j, hj, hPrice⟩ := fiftyPages_cheaper hEarly
    rw [hSame] at hPrice
    have hEq : ((49 : ℕ) : ℚ) = (j : ℚ) := Json.num.inj (Option.some.inj hPrice)
    have hNat : 49 = j := by exact_mod_cast hEq
    omega

theorem getAllFromPostcode_complete_iff_fifty :
    ((∃ e, getAllFromPostcode (pagedNode fiftyPages) "BN1 7JJ" = .error e) ∨
        ∃ props, getAllFromPostcode (pagedNode fiftyPages) "BN1 7JJ" = .ok props ∧
          ∀ record ∈ Lib.firstPages fiftyPages 50, record.transaction ∈ props) ↔
      (∃ k, (k ≤ 50 ∧ k ≤ 48) ∧ ∃ e, (.ok (fiftyPages k) : Except JsError _) = .error e) ∨
        ∀ k, 49 ≤ k → k < 50 → ∀ record ∈ fiftyPages k,
          record.transaction ∈ (Lib.firstPages fiftyPages 49).map Record.transaction :=
  getAllFromPostcode_complete_iff (pagedNode fiftyPages) "BN1 7JJ" (fun k => .ok (fiftyPages k))
    fiftyPages 50 (pagedNode_serves _ _).answers (fun _ _ hPage => (Except.ok.inj hPage).symm)
    fiftyPages_below

end PriceMap.Backend

import PriceMap.Backend.PriceService

/-!
# Backend — the average price of a postcode

`getAverageAtPostcode` of `services/priceService.js` adds up the prices of what
`getAllFromPostcode` returns, divides by their number, and rounds to two
decimals. Prices are JSON values, so that the sum may turn into a string.

* `getAverageAtPostcode_iff` — for integer prices, it is the mean of all prices
  where the first page, counted twice, does not carry the mean to another
  hundredth.
-/

namespace PriceMap.Backend

-- ---------------------------------------------------------------------------
-- Adding up
-- ---------------------------------------------------------------------------

/-- What `sum` can be. -/
inductive Primitive where
  | number (n : Number ℚ)
  | string (s : String)

def Primitive.text : Primitive → String
  | .number n => n.text
  | .string s => s

/-- `sum += price`. -/
def plus (sum : Primitive) (price : Value) : Except JsError Primitive :=
  match sum, price with
  | .number _, none => .ok (.number .NaN)
  | .number n, some .null => .ok (.number (n + .finite 0))
  | .number n, some (.bool b) => .ok (.number (n + .finite (if b then 1 else 0)))
  | .number n, some (.num q) => .ok (.number (n + .finite q))
  | sum, none => .ok (.string (sum.text ++ "undefined"))
  | sum, some value => (stringOf value).map fun s => .string (sum.text ++ s)

def Primitive.toNumber : Primitive → Number ℚ
  | .number n => n
  | .string s => numberOfString s

-- ---------------------------------------------------------------------------
-- Rounding
-- ---------------------------------------------------------------------------

def Math.round : Number ℚ → Number ℚ
  | .finite q => .finite ⌊q + 1 / 2⌋
  | n => n

/-- `parseFloat` of a number reads its text. -/
def parseFloat : Number ℚ → Number ℚ
  | .finite q =>
    match parseDecimal (Number.finite q).text with
    | some v => .finite v
    | none => .NaN
  | n => n

/-- The digits of `n`, filled up in front to more than `digits`. -/
def paddedDigits (n digits : ℕ) : List Char :=
  List.replicate (digits + 1 - (Nat.toDigits 10 n).length) '0' ++ Nat.toDigits 10 n

def fixedChars (n digits : ℕ) : List Char :=
  let m := paddedDigits n digits
  if digits = 0 then m
  else m.take (m.length - digits) ++ '.' :: m.drop (m.length - digits)

def toFixed (n : Number ℚ) (digits : ℕ) : String :=
  match n with
  | .finite q =>
    if 10 ^ 21 ≤ |q| then n.text
    else
      String.ofList (signed (q < 0) (fixedChars ⌊|q| * 10 ^ digits + 1 / 2⌋.toNat digits))
  | n => n.text

def getAverageAtPostcode (node : Node) (postcode : String) : Except JsError String := do
  let data ← getAllFromPostcode node postcode
  let allPrices := data.map Transaction.pricePaid
  let sum ← allPrices.foldlM plus (.number (.finite 0))
  let avg := sum.toNumber / .finite (allPrices.length : ℚ)
  return toFixed (parseFloat (Math.round (avg * .finite 100) / .finite 100)) 2

-- ---------------------------------------------------------------------------
-- The mean of integer prices
-- ---------------------------------------------------------------------------

def mean (prices : List ℚ) : ℚ := prices.sum / prices.length

def nearestHundredth (q : ℚ) : ℚ := ⌊q * 100 + 1 / 2⌋ / 100

/-- Numbers added in front move a mean towards their own. -/
theorem mean_append {xs ys : List ℚ} (hx : xs ≠ []) (hy : ys ≠ []) :
    mean (xs ++ ys) =
      mean ys + (mean xs - mean ys) * (xs.length / (xs.length + ys.length)) := by
  have hX : (xs.length : ℚ) ≠ 0 := by
    have hPos := List.length_pos_of_ne_nil hx
    positivity
  have hY : (ys.length : ℚ) ≠ 0 := by
    have hPos := List.length_pos_of_ne_nil hy
    positivity
  have hSum : (xs.length : ℚ) + ys.length ≠ 0 := by
    have hPos := List.length_pos_of_ne_nil hx
    positivity
  unfold mean
  rw [List.sum_append, List.length_append]
  push_cast
  field_simp
  ring

/-- The loop over numbers adds them up. -/
theorem foldlM_plus (prices : List ℚ) (sum : ℚ) :
    (prices.map fun q => some (Json.num q)).foldlM plus (.number (.finite sum)) =
      .ok (.number (.finite (sum + prices.sum))) := by
  induction prices generalizing sum with
  | nil => simp [pure, Except.pure]
  | cons q rest ih =>
    rw [List.map_cons, List.foldlM_cons]
    show ((.ok (.number (.finite sum + .finite q)) : Except JsError Primitive) >>= _) = _
    rw [ok_bind, Number.finite_add, ih, List.sum_cons, add_assoc]

/-- Padding puts digits only. -/
theorem digits_paddedDigits (n digits : ℕ) : Digits (paddedDigits n digits) :=
  (digits_replicate _).append (digits_toDigits n)

/-- Padding keeps the value. -/
theorem ofDigitChars_paddedDigits (n digits : ℕ) :
    Nat.ofDigitChars 10 (paddedDigits n digits) 0 = n := by
  rw [paddedDigits, Nat.ofDigitChars_append, Nat.ofDigitChars_replicate_zero, Nat.mul_zero,
    Nat.ofDigitChars_ten_toDigits]

/-- Padded digits have one in front of the point. -/
theorem lt_length_paddedDigits (n digits : ℕ) : digits < (paddedDigits n digits).length := by
  rw [paddedDigits, List.length_append, List.length_replicate]
  omega

/-- A number of hundredths, written with two digits behind the point. -/
theorem fixedChars_two (n : ℕ) :
    Unsigned (fixedChars n 2) ∧ mantissaValue (fixedChars n 2) = some ((n : ℚ) / 100) := by
  have hEq : fixedChars n 2 = (paddedDigits n 2).take ((paddedDigits n 2).length - 2) ++
      '.' :: (paddedDigits n 2).drop ((paddedDigits n 2).length - 2) := rfl
  have hValue := ofDigitChars_paddedDigits n 2
  have hDigits := digits_paddedDigits n 2
  have hLength := lt_length_paddedDigits n 2
  rw [hEq]
  generalize paddedDigits n 2 = m at hValue hDigits hLength ⊢
  have hTake : Digits (m.take (m.length - 2)) := hDigits.subset (List.take_subset ..)
  have hDrop : Digits (m.drop (m.length - 2)) := hDigits.subset (List.drop_subset ..)
  have hTakeNe : m.take (m.length - 2) ≠ [] := by
    refine List.ne_nil_of_length_pos ?_
    rw [List.length_take]
    omega
  have hDropLength : (m.drop (m.length - 2)).length = 2 := by
    rw [List.length_drop]
    omega
  have hDropNe : m.drop (m.length - 2) ≠ [] := by
    refine List.ne_nil_of_length_pos ?_
    omega
  refine ⟨.of_point hTake hDrop hTakeNe hDropNe, ?_⟩
  rw [mantissaValue_point hTake hDrop (List.append_ne_nil_of_left_ne_nil hTakeNe _),
    List.take_append_drop, hValue, hDropLength]
  norm_num

/-- Hundredths have two digits behind the point. -/
theorem den_hundredths_dvd (z : ℤ) : ((z : ℚ) / 100).den ∣ 10 ^ 2 := by
  have hDvd := Rat.den_dvd z 100
  rw [← Rat.intCast_div_eq_divInt] at hDvd
  exact_mod_cast hDvd

/-- **What `toFixed(2)` writes** for a number of hundredths reads back. -/
theorem parseDecimal_toFixed (z : ℤ) :
    parseDecimal (toFixed (.finite ((z : ℚ) / 100)) 2) = some ((z : ℚ) / 100) := by
  unfold toFixed
  dsimp only
  split
  · rw [Number.text, Decimal.parseDecimal_text, Decimal.value_ofRat (den_hundredths_dvd z)]
  · have hFloor : ⌊|(z : ℚ) / 100| * 10 ^ 2 + 1 / 2⌋ = (z.natAbs : ℤ) := by
      have hAbs : |(z : ℚ) / 100| * 10 ^ 2 = (z.natAbs : ℤ) := by
        rw [abs_div, abs_of_pos (show (0 : ℚ) < 100 by norm_num), Int.natCast_natAbs]
        push_cast
        ring
      rw [hAbs, Int.floor_intCast_add]
      norm_num
    rw [hFloor, Int.toNat_natCast, parseDecimal_plain (fixedChars_two _).1, (fixedChars_two _).2,
      Option.map_some, Nat.cast_natAbs, Int.cast_abs]
    refine congrArg some ?_
    by_cases hNeg : (z : ℚ) / 100 < 0
    · have hZ : (z : ℚ) < 0 := by linarith
      rw [if_pos (decide_eq_true hNeg), abs_of_neg hZ]
      ring
    · have hZ : 0 ≤ (z : ℚ) := by linarith
      rw [if_neg (by simpa using hNeg), abs_of_nonneg hZ]

-- ---------------------------------------------------------------------------
-- The average of a postcode
-- ---------------------------------------------------------------------------

/-- The prices of records, where every record has an integer. -/
def pricesPaid (price : Record → ℤ) (records : List Record) : List ℚ :=
  records.map fun record => (price record : ℚ)

variable {node : Node} {postcode : String} {pages : ℕ → List Record} {price : Record → ℤ} {n : ℕ}

/-- `parseFloat` reads hundredths back as they are. -/
theorem parseFloat_hundredths (z : ℤ) :
    parseFloat (.finite ((z : ℚ) / 100)) = .finite ((z : ℚ) / 100) := by
  unfold parseFloat
  simp only [Number.text, Decimal.parseDecimal_text, Decimal.value_ofRat (den_hundredths_dvd z)]

/-- **The average the code computes** is the mean of the first page and all
pages. -/
theorem getAverageAtPostcode_eq (hServes : Serves node (node.toUpperCase postcode) pages)
    (hPages : Lib.PagesBelow pages n) (hBudget : 1 ≤ n ∧ n ≤ 49)
    (hPrices : ∀ record ∈ Lib.firstPages pages n,
      Json.member record "pricePaid" = some (.num (price record))) :
    getAverageAtPostcode node postcode = .ok (toFixed (.finite (nearestHundredth
      (mean (pricesPaid price (pages 0) ++ pricesPaid price (Lib.firstPages pages n))))) 2) := by
  have hAll : ∀ record ∈ pages 0 ++ Lib.firstPages pages n,
      Json.member record "pricePaid" = some (.num (price record)) := by
    intro record hRecord
    rcases List.mem_append.mp hRecord with hFirst | hRest
    · exact hPrices record (Lib.mem_firstPages.mpr ⟨0, hBudget.1, hFirst⟩)
    · exact hPrices record hRest
  have hData : ((pages 0 ++ Lib.firstPages pages n).map Record.transaction).map
        Transaction.pricePaid =
      (pricesPaid price (pages 0 ++ Lib.firstPages pages n)).map fun q => some (Json.num q) := by
    rw [pricesPaid, List.map_map, List.map_map]
    exact List.map_congr_left hAll
  have hLength : ((pricesPaid price (pages 0 ++ Lib.firstPages pages n)).length : ℚ) ≠ 0 := by
    have hFirst := List.length_pos_of_ne_nil (hPages.nonempty 0 hBudget.1)
    rw [pricesPaid, List.length_map, List.length_append]
    positivity
  rw [getAverageAtPostcode, getAllFromPostcode_eq hServes hPages, if_neg (by omega),
    Nat.min_eq_left hBudget.2, ok_bind]
  dsimp only
  rw [hData, foldlM_plus, ok_bind, List.length_map, zero_add, Primitive.toNumber,
    Number.finite_div hLength, Number.finite_mul, Math.round, Number.finite_div (by norm_num),
    parseFloat_hundredths, ← mean, ← nearestHundredth, pricesPaid, List.map_append]
  rfl

/-- The text that is sent is a number exactly if the average is rounded to it. -/
theorem getAverageAtPostcode_parsed (hServes : Serves node (node.toUpperCase postcode) pages)
    (hPages : Lib.PagesBelow pages n) (hBudget : 1 ≤ n ∧ n ≤ 49)
    (hPrices : ∀ record ∈ Lib.firstPages pages n,
      Json.member record "pricePaid" = some (.num (price record))) (q : ℚ) :
    (∃ text, getAverageAtPostcode node postcode = .ok text ∧ parseDecimal text = some q) ↔
      nearestHundredth
        (mean (pricesPaid price (pages 0) ++ pricesPaid price (Lib.firstPages pages n))) = q := by
  rw [getAverageAtPostcode_eq hServes hPages hBudget hPrices]
  refine ⟨?_, ?_⟩
  · rintro ⟨text, hText, hParse⟩
    rw [← Except.ok.inj hText, nearestHundredth, parseDecimal_toFixed] at hParse
    exact Option.some.inj hParse
  · rintro rfl
    exact ⟨_, rfl, parseDecimal_toFixed _⟩

/-- **The mean of all prices, up to the first page.** On 1 to 49 pages of
integer prices, the answer is the mean of all prices to the nearest hundredth if
and only if it stays there when it is moved towards the mean of the first page,
by the share that page has once it is counted twice. -/
theorem getAverageAtPostcode_iff (node : Node) (postcode : String) (pages : ℕ → List Record)
    (n : ℕ) (price : Record → ℤ)
    (hServes : Serves node (node.toUpperCase postcode) pages) (hPages : Lib.PagesBelow pages n)
    (hBudget : 1 ≤ n ∧ n ≤ 49)
    (hPrices : ∀ record ∈ Lib.firstPages pages n,
      Json.member record "pricePaid" = some (.num (price record))) :
    (∃ text, getAverageAtPostcode node postcode = .ok text ∧ parseDecimal text =
        some (nearestHundredth (mean (pricesPaid price (Lib.firstPages pages n))))) ↔
      nearestHundredth (mean (pricesPaid price (Lib.firstPages pages n)) +
          (mean (pricesPaid price (pages 0)) - mean (pricesPaid price (Lib.firstPages pages n))) *
            ((pages 0).length / ((pages 0).length + (Lib.firstPages pages n).length))) =
        nearestHundredth (mean (pricesPaid price (Lib.firstPages pages n))) := by
  have hFirst := hPages.nonempty 0 hBudget.1
  have hFirstPrices : pricesPaid price (pages 0) ≠ [] := by
    simpa [pricesPaid] using hFirst
  have hAllPrices : pricesPaid price (Lib.firstPages pages n) ≠ [] := by
    obtain ⟨record, hRecord⟩ := List.exists_mem_of_ne_nil _ hFirst
    have hMem := Lib.mem_firstPages.mpr ⟨0, hBudget.1, hRecord⟩
    exact List.ne_nil_of_mem (List.mem_map_of_mem hMem)
  rw [getAverageAtPostcode_parsed hServes hPages hBudget hPrices,
    mean_append hFirstPrices hAllPrices]
  simp only [pricesPaid, List.length_map]

/-- The price of a record, where it is an integer. -/
def priceOf (record : Record) : ℤ :=
  match Json.member record "pricePaid" with
  | some (.num q) => q.num
  | _ => 0

/-- Two pages with one transaction each, for 100 and for 200 pounds. -/
def twoSales (k : ℕ) : List Record :=
  if k < 2 then [[("pricePaid", .num (100 * (k + 1) : ℕ))]] else []

theorem twoSales_below : Lib.PagesBelow twoSales 2 where
  nonempty k hk := by simp [twoSales, hk]
  empty k hk := if_neg (by omega)

theorem twoSales_prices : ∀ record ∈ Lib.firstPages twoSales 2,
    Json.member record "pricePaid" = some (.num (priceOf record)) := by
  intro record hRecord
  obtain ⟨k, hk, hMem⟩ := Lib.mem_firstPages.mp hRecord
  rw [twoSales, if_pos hk] at hMem
  obtain rfl := List.mem_singleton.mp hMem
  rfl

/-- Two pages with one sale each. -/
theorem getAverageAtPostcode_fails :
    ¬ ∀ (node : Node) (postcode : String) (pages : ℕ → List Record) (n : ℕ) (price : Record → ℤ),
      Serves node (node.toUpperCase postcode) pages → Lib.PagesBelow pages n →
      (1 ≤ n ∧ n ≤ 49) →
      (∀ record ∈ Lib.firstPages pages n,
        Json.member record "pricePaid" = some (.num (price record))) →
        ∃ text, getAverageAtPostcode node postcode = .ok text ∧ parseDecimal text =
          some (nearestHundredth (mean (pricesPaid price (Lib.firstPages pages n)))) := by
  intro h
  have hServes := pagedNode_serves twoSales ((pagedNode twoSales).toUpperCase "BN1 7JJ")
  have hMean := h (pagedNode twoSales) "BN1 7JJ" twoSales 2 priceOf hServes twoSales_below
    (by decide) twoSales_prices
  rw [getAverageAtPostcode_parsed hServes twoSales_below (by decide) twoSales_prices] at hMean
  -- 133.33 where the mean is 150
  have hCode : pricesPaid priceOf (twoSales 0) ++ pricesPaid priceOf (Lib.firstPages twoSales 2) =
      [100, 100, 200] := rfl
  have hAll : pricesPaid priceOf (Lib.firstPages twoSales 2) = [100, 200] := rfl
  rw [hCode, hAll] at hMean
  norm_num [mean, nearestHundredth] at hMean

theorem getAverageAtPostcode_iff_twoSales :
    (∃ text, getAverageAtPostcode (pagedNode twoSales) "BN1 7JJ" = .ok text ∧ parseDecimal text =
        some (nearestHundredth (mean (pricesPaid priceOf (Lib.firstPages twoSales 2))))) ↔
      nearestHundredth (mean (pricesPaid priceOf (Lib.firstPages twoSales 2)) +
          (mean (pricesPaid priceOf (twoSales 0)) -
              mean (pricesPaid priceOf (Lib.firstPages twoSales 2))) *
            ((twoSales 0).length /
              ((twoSales 0).length + (Lib.firstPages twoSales 2).length))) =
        nearestHundredth (mean (pricesPaid priceOf (Lib.firstPages twoSales 2))) :=
  getAverageAtPostcode_iff (pagedNode twoSales) "BN1 7JJ" twoSales 2 priceOf
    (pagedNode_serves twoSales _) twoSales_below (by decide) twoSales_prices

end PriceMap.Backend

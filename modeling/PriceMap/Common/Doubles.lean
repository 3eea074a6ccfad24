import PriceMap.Common.Numerals

/-!
# The texts of numbers in Java and in Swift

Both apps put numbers into their URLs, with string concatenation in Java and with
`String(_:)` in Swift. Like JavaScript they show the shortest decimal, but they lay
it out in their own ways: with a digit on either side of a point, and from
different magnitudes on with an exponent.

* `parseDecimal_javaText`, `parseDecimal_swiftText` — either text is read as the
  number it shows.
-/

namespace PriceMap

namespace Decimal

/-- The digits of `s * 10 ^ exponent` around a point, at least one on either side. -/
def pointChars (s : ℕ) (exponent : ℤ) : List Char :=
  let ds := Nat.toDigits 10 s
  let n := ds.length + exponent
  if n ≤ 0 then '0' :: '.' :: (List.replicate (-n).toNat '0' ++ ds)
  else if n < ds.length then ds.take n.toNat ++ '.' :: ds.drop n.toNat
  else ds ++ List.replicate exponent.toNat '0' ++ ['.', '0']

/-- `Double.toString` of a number that is not negative. -/
def javaChars (s : ℕ) (exponent : ℤ) : List Char :=
  let ds := Nat.toDigits 10 s
  let n := ds.length + exponent
  if -2 ≤ n ∧ n ≤ 7 then pointChars s exponent
  else
    ds.take 1 ++ '.' :: (if ds.length = 1 then ['0'] else ds.drop 1) ++
      'E' :: ((if n ≤ 0 then ['-'] else []) ++ Nat.toDigits 10 (n - 1).natAbs)

/-- `description` of a number that is not negative. -/
def swiftChars (s : ℕ) (exponent : ℤ) : List Char :=
  let ds := Nat.toDigits 10 s
  let n := ds.length + exponent
  if -3 ≤ n ∧ (s * 10 ^ exponent : ℚ) ≤ 2 ^ 53 then pointChars s exponent
  else
    (if ds.length = 1 then ds else ds.take 1 ++ '.' :: ds.drop 1) ++
      'e' :: (if n ≤ 0 then '-' else '+') ::
        ((if (n - 1).natAbs < 10 then ['0'] else []) ++ Nat.toDigits 10 (n - 1).natAbs)

def javaText (d : Decimal) : String :=
  String.ofList (signed (d.mantissa < 0) (javaChars d.mantissa.natAbs d.exponent))

def swiftText (d : Decimal) : String :=
  String.ofList (signed (d.mantissa < 0) (swiftChars d.mantissa.natAbs d.exponent))

-- ---------------------------------------------------------------------------
-- Reading a text
-- ---------------------------------------------------------------------------

/-- With either sign, the characters are read as `q` with that sign. -/
def Reads (q : ℚ) (cs : List Char) : Prop :=
  ∀ negative, parseDecimal (String.ofList (signed negative cs)) =
    some (if negative then -q else q)

variable {q : ℚ} {cs expo : List Char} {letter : Char} {e : ℤ}

/-- A text without an exponent. -/
theorem Reads.plain (h : Unsigned cs) (hValue : mantissaValue cs = some q) : Reads q cs := by
  intro negative
  rw [parseDecimal_plain h, hValue]
  rfl

/-- A text with an exponent. -/
theorem Reads.scaled {m : ℚ} (h : Unsigned cs) (hValue : mantissaValue cs = some m)
    (hLetter : letter = 'e' ∨ letter = 'E')
    (hExpo : signedValue (fun ds => (digitsValue ds).map Int.ofNat) expo = some e) :
    Reads (m * 10 ^ e) (cs ++ letter :: expo) := by
  intro negative
  have hAppend : signed negative (cs ++ letter :: expo) = signed negative cs ++ letter :: expo := by
    cases negative <;> rfl
  rw [hAppend, parseDecimal_scaled h hLetter hExpo, hValue]
  cases negative
  · rfl
  · exact congrArg some (neg_mul _ _)

/-- The sign of the mantissa is the sign of the number. -/
theorem Reads.parse {d : Decimal} (h : Reads (d.mantissa.natAbs * 10 ^ d.exponent) cs) :
    parseDecimal (String.ofList (signed (d.mantissa < 0) cs)) = some d.value := by
  rw [h, value, Nat.cast_natAbs, Int.cast_abs]
  refine congrArg some ?_
  by_cases hNeg : d.mantissa < 0
  · have hNegQ : (d.mantissa : ℚ) < 0 := by exact_mod_cast hNeg
    rw [if_pos (decide_eq_true hNeg), abs_of_neg hNegQ, neg_mul, neg_neg]
  · have hPosQ : (0 : ℚ) ≤ d.mantissa := by exact_mod_cast not_lt.mp hNeg
    rw [if_neg (by simpa using hNeg), abs_of_nonneg hPosQ]

-- ---------------------------------------------------------------------------
-- The layouts
-- ---------------------------------------------------------------------------

/-- Two rows of digits that together are the digits of a number, a point in between. -/
theorem reads_point {ds es : List Char} (h : Digits ds) (h' : Digits es) (hne : ds ≠ [])
    (hne' : es ≠ []) :
    Unsigned (ds ++ '.' :: es) ∧ mantissaValue (ds ++ '.' :: es) =
      some ((Nat.ofDigitChars 10 (ds ++ es) 0 : ℚ) * 10 ^ (-(es.length : ℤ))) := by
  refine ⟨.of_point h h' hne hne', ?_⟩
  rw [mantissaValue_point h h' (List.append_ne_nil_of_left_ne_nil hne _), div_pow_eq rfl]

/-- The first digit before the point, and an exponent. -/
theorem reads_leading {ds : List Char} {exponent : ℤ} (h : Digits ds) (hLength : 1 < ds.length)
    (hLetter : letter = 'e' ∨ letter = 'E')
    (hExpo : signedValue (fun ds => (digitsValue ds).map Int.ofNat) expo =
      some (ds.length + exponent - 1)) :
    Reads (Nat.ofDigitChars 10 ds 0 * 10 ^ exponent)
      (ds.take 1 ++ '.' :: ds.drop 1 ++ letter :: expo) := by
  have hTake : ds.take 1 ≠ [] := by
    intro hNil
    rcases List.take_eq_nil_iff.mp hNil with h | rfl
    · omega
    · exact absurd hLength (by decide)
  have hDrop : ds.drop 1 ≠ [] := by
    intro hNil
    have hLe := List.drop_eq_nil_iff.mp hNil
    omega
  obtain ⟨hUnsigned, hRead⟩ := reads_point (h.subset (List.take_subset ..))
    (h.subset (List.drop_subset ..)) hTake hDrop
  have hExponent : -((ds.length - 1 : ℕ) : ℤ) + (ds.length + exponent - 1) = exponent := by omega
  rw [List.take_append_drop, List.length_drop] at hRead
  have hReads := Reads.scaled hUnsigned hRead hLetter hExpo
  rwa [mul_assoc, ← zpow_add₀ (by norm_num), hExponent] at hReads

/-- The digits around a point are read as the number. -/
theorem reads_pointChars (s : ℕ) (exponent : ℤ) :
    Reads (s * 10 ^ exponent) (pointChars s exponent) := by
  have hDigits : Digits (Nat.toDigits 10 s) := digits_toDigits s
  have hne : Nat.toDigits 10 s ≠ [] := Nat.toDigits_ne_nil
  have hValue : Nat.ofDigitChars 10 (Nat.toDigits 10 s) 0 = s := Nat.ofDigitChars_ten_toDigits
  have hZero : Digits ['0'] := digits_replicate 1
  unfold pointChars
  generalize Nat.toDigits 10 s = ds at hDigits hne hValue ⊢
  dsimp only
  split
  · -- the point is before the first digit
    next h =>
    have hRest := (digits_replicate (-(ds.length + exponent)).toNat).append hDigits
    obtain ⟨hUnsigned, hRead⟩ := reads_point hZero hRest (by simp)
      (List.append_ne_nil_of_right_ne_nil _ hne)
    refine .plain hUnsigned ?_
    rw [List.singleton_append] at hRead
    rw [hRead, List.singleton_append, ← List.cons_append, ← List.replicate_succ,
      Nat.ofDigitChars_append, Nat.ofDigitChars_replicate_zero, Nat.mul_zero, hValue,
      List.length_append, List.length_replicate]
    congr 3
    omega
  · split
    · -- the point is between two digits
      next hPos h =>
      have hTake : ds.take (ds.length + exponent).toNat ≠ [] := by
        intro hNil
        rcases List.take_eq_nil_iff.mp hNil with h | h
        · omega
        · exact hne h
      have hDrop : ds.drop (ds.length + exponent).toNat ≠ [] := by
        intro hNil
        have hLe := List.drop_eq_nil_iff.mp hNil
        omega
      obtain ⟨hUnsigned, hRead⟩ := reads_point (hDigits.subset (List.take_subset ..))
        (hDigits.subset (List.drop_subset ..)) hTake hDrop
      refine .plain hUnsigned ?_
      rw [hRead, List.take_append_drop, hValue, List.length_drop]
      congr 3
      omega
    · -- an integer
      next hPos h =>
      have hWhole := hDigits.append (digits_replicate exponent.toNat)
      obtain ⟨hUnsigned, hRead⟩ := reads_point hWhole hZero
        (List.append_ne_nil_of_left_ne_nil hne _) (by simp)
      refine .plain hUnsigned ?_
      obtain ⟨j, rfl⟩ : ∃ j : ℕ, exponent = j := ⟨exponent.toNat, by omega⟩
      rw [hRead, Int.toNat_natCast, List.append_assoc, Nat.ofDigitChars_append, hValue,
        ← List.replicate_succ', Nat.ofDigitChars_replicate_zero, zpow_natCast]
      refine congrArg some ?_
      rw [List.length_singleton, pow_succ, Nat.cast_one, zpow_neg_one]
      push_cast
      ring

/-- The number of an exponent without a sign. -/
theorem signedValue_digits {ds : List Char} (h : Digits ds) (hne : ds ≠ []) :
    signedValue (fun ds => (digitsValue ds).map Int.ofNat) ds =
      some (Nat.ofDigitChars 10 ds 0 : ℤ) := by
  have hSigned := signedValue_signed (fun ds => (digitsValue ds).map Int.ofNat)
    (.of_digits h hne) false
  rw [digitsValue_eq h hne] at hSigned
  exact hSigned

/-- What Java writes is read as the number. -/
theorem reads_javaChars (s : ℕ) (exponent : ℤ) :
    Reads (s * 10 ^ exponent) (javaChars s exponent) := by
  have hDigits : Digits (Nat.toDigits 10 s) := digits_toDigits s
  have hne : Nat.toDigits 10 s ≠ [] := Nat.toDigits_ne_nil
  have hValue : Nat.ofDigitChars 10 (Nat.toDigits 10 s) 0 = s := Nat.ofDigitChars_ten_toDigits
  have hPoint := reads_pointChars s exponent
  unfold javaChars
  generalize Nat.toDigits 10 s = ds at hDigits hne hValue ⊢
  dsimp only
  split
  · exact hPoint
  · -- one digit before the point, and an exponent
    have hLength : 0 < ds.length := List.length_pos_of_ne_nil hne
    have hExpo : signedValue (fun ds => (digitsValue ds).map Int.ofNat)
        ((if ds.length + exponent ≤ 0 then ['-'] else []) ++
          Nat.toDigits 10 (ds.length + exponent - 1).natAbs) = some (ds.length + exponent - 1) := by
      split
      · rw [List.singleton_append, signedValue, digitsValue_toDigits]
        refine congrArg some ?_
        show -((ds.length + exponent - 1).natAbs : ℤ) = _
        omega
      · rw [List.nil_append, signedValue_digits (digits_toDigits _) Nat.toDigits_ne_nil,
          Nat.ofDigitChars_ten_toDigits]
        refine congrArg some ?_
        omega
    split
    · next hOne =>
      rw [List.take_of_length_le hOne.le]
      obtain ⟨hUnsigned, hRead⟩ := reads_point hDigits (digits_replicate 1) hne (by simp)
      have hTenth : (Nat.ofDigitChars 10 (ds ++ List.replicate 1 '0') 0 : ℚ) *
          10 ^ (-((List.replicate 1 '0').length : ℤ)) = s := by
        rw [Nat.ofDigitChars_append, hValue, Nat.ofDigitChars_replicate_zero,
          List.length_replicate, Nat.cast_one, zpow_neg_one]
        push_cast
        ring
      have hExponent : ds.length + exponent - 1 = exponent := by omega
      rw [hTenth] at hRead
      have hReads := Reads.scaled hUnsigned hRead (Or.inr rfl) hExpo
      rw [hExponent] at hReads ⊢
      exact hReads
    · next hOne =>
      exact hValue ▸ reads_leading hDigits (by omega) (Or.inr rfl) hExpo

/-- **Java's text reads back.** -/
theorem parseDecimal_javaText (d : Decimal) : parseDecimal d.javaText = some d.value :=
  (reads_javaChars _ _).parse

/-- What Swift writes is read as the number. -/
theorem reads_swiftChars (s : ℕ) (exponent : ℤ) :
    Reads (s * 10 ^ exponent) (swiftChars s exponent) := by
  have hDigits : Digits (Nat.toDigits 10 s) := digits_toDigits s
  have hne : Nat.toDigits 10 s ≠ [] := Nat.toDigits_ne_nil
  have hValue : Nat.ofDigitChars 10 (Nat.toDigits 10 s) 0 = s := Nat.ofDigitChars_ten_toDigits
  have hPoint := reads_pointChars s exponent
  unfold swiftChars
  generalize Nat.toDigits 10 s = ds at hDigits hne hValue ⊢
  dsimp only
  split
  · exact hPoint
  · -- an exponent of at least two digits
    have hLength : 0 < ds.length := List.length_pos_of_ne_nil hne
    have hPadded : ∀ k : ℕ, digitsValue ((if k < 10 then ['0'] else []) ++ Nat.toDigits 10 k) =
        some k := by
      intro k
      split
      · have hAll := (digits_replicate 1).append (digits_toDigits k)
        rw [List.replicate_one] at hAll
        rw [digitsValue_eq hAll (by simp), Nat.ofDigitChars_append]
        exact congrArg some Nat.ofDigitChars_ten_toDigits
      · exact digitsValue_toDigits k
    have hExpo : signedValue (fun ds => (digitsValue ds).map Int.ofNat)
        ((if ds.length + exponent ≤ 0 then '-' else '+') ::
          ((if (ds.length + exponent - 1).natAbs < 10 then ['0'] else []) ++
            Nat.toDigits 10 (ds.length + exponent - 1).natAbs)) =
        some (ds.length + exponent - 1) := by
      split
      · rw [signedValue, hPadded]
        refine congrArg some ?_
        show -((ds.length + exponent - 1).natAbs : ℤ) = _
        omega
      · rw [signedValue, hPadded]
        refine congrArg some ?_
        show ((ds.length + exponent - 1).natAbs : ℤ) = _
        omega
    split
    · next hOne =>
      have hRead := mantissaValue_digits hDigits hne
      have hExponent : ds.length + exponent - 1 = exponent := by omega
      rw [hValue] at hRead
      have hReads := Reads.scaled (.of_digits hDigits hne) hRead (Or.inl rfl) hExpo
      rw [hExponent] at hReads ⊢
      exact hReads
    · next hOne =>
      exact hValue ▸ reads_leading hDigits (by omega) (Or.inl rfl) hExpo

/-- **Swift's text reads back.** -/
theorem parseDecimal_swiftText (d : Decimal) : parseDecimal d.swiftText = some d.value :=
  (reads_swiftChars _ _).parse

end Decimal

end PriceMap

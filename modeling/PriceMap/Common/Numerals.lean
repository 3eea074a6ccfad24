import Mathlib.Data.List.TakeWhile
import Mathlib.Data.Nat.Factorization.Basic
import Mathlib.Tactic.Linarith
import Mathlib.Tactic.NormNum
import Mathlib.Tactic.Ring
import PriceMap.Common.Json

/-!
# Numbers and their text

A finite number of the programs is read exactly, as the shortest decimal that
stands for it (`Decimal`): this is the number the text of the number shows.
`Decimal.text` writes it the way JavaScript does, `parseDecimal` reads it.

* `parseDecimal_text` — a number that is written and read is the same number.
-/

namespace PriceMap

-- ---------------------------------------------------------------------------
-- Decimals
-- ---------------------------------------------------------------------------

/-- The number `mantissa * 10 ^ exponent`, with as few digits as possible. -/
structure Decimal where
  mantissa : ℤ
  exponent : ℤ
  shortest : mantissa % 10 ≠ 0 ∨ (mantissa = 0 ∧ exponent = 0)
  deriving DecidableEq

namespace Decimal

def value (d : Decimal) : ℚ := d.mantissa * 10 ^ d.exponent

/-- `mantissa * 10 ^ exponent` without its trailing zeros. -/
def ofParts (mantissa exponent : ℤ) : Decimal :=
  if hZero : mantissa = 0 then ⟨0, 0, Or.inr ⟨rfl, rfl⟩⟩
  else if hDigit : mantissa % 10 = 0 then ofParts (mantissa / 10) (exponent + 1)
  else ⟨mantissa, exponent, Or.inl hDigit⟩
termination_by mantissa.natAbs
decreasing_by omega

/-- The number of digits after the point in the expansion of `q`, if it ends,
and `20` otherwise. -/
def fractionDigits (q : ℚ) : ℕ :=
  ((List.range (q.den.log2 + 1)).find? fun k => q.den ∣ 10 ^ k).getD 20

def ofRat (q : ℚ) : Decimal := ofParts ⌊q * 10 ^ fractionDigits q⌋ (-fractionDigits q)

/-- The digits of a number `s * 10 ^ exponent` that is not negative, as
JavaScript's `Number::toString` lays them out. -/
def unsignedText (s : ℕ) (exponent : ℤ) : List Char :=
  let ds := Nat.toDigits 10 s
  let n := ds.length + exponent
  if ds.length ≤ n ∧ n ≤ 21 then ds ++ List.replicate exponent.toNat '0'
  else if 0 < n ∧ n ≤ 21 then ds.take n.toNat ++ '.' :: ds.drop n.toNat
  else if -6 < n ∧ n ≤ 0 then '0' :: '.' :: (List.replicate (-n).toNat '0' ++ ds)
  else
    (if ds.length = 1 then ds else ds.take 1 ++ '.' :: ds.drop 1) ++
      'e' :: (if 0 ≤ n - 1 then '+' else '-') :: Nat.toDigits 10 (n - 1).natAbs

def chars (d : Decimal) : List Char :=
  if d.mantissa < 0 then '-' :: unsignedText d.mantissa.natAbs d.exponent
  else unsignedText d.mantissa.natAbs d.exponent

def text (d : Decimal) : String := String.ofList d.chars

end Decimal

-- ---------------------------------------------------------------------------
-- Reading digits
-- ---------------------------------------------------------------------------

def Digits (ds : List Char) : Prop := ∀ c ∈ ds, c.isDigit = true

/-- The decimal digits of a number are digits. -/
theorem digits_toDigits (n : ℕ) : Digits (Nat.toDigits 10 n) :=
  fun _ hc => Nat.isDigit_of_mem_toDigits (by decide) (by decide) hc

theorem digits_replicate (n : ℕ) : Digits (List.replicate n '0') := by
  intro c hc
  rw [List.eq_of_mem_replicate hc]
  rfl

/-- Digits may be joined. -/
theorem Digits.append {ds es : List Char} (h : Digits ds) (h' : Digits es) : Digits (ds ++ es) :=
  fun c hc => (List.mem_append.mp hc).elim (h c) (h' c)

/-- Digits may be left out. -/
theorem Digits.subset {ds es : List Char} (h : Digits ds) (hSub : es ⊆ ds) : Digits es :=
  fun c hc => h c (hSub hc)

theorem ne_point_of_isDigit {c : Char} (h : c.isDigit = true) : c ≠ '.' := by
  rintro rfl
  exact absurd h (by decide)

/-- The value of digits is the one of the core library. -/
theorem digitsValue_eq {ds : List Char} (h : Digits ds) (hne : ds ≠ []) :
    digitsValue ds = some (Nat.ofDigitChars 10 ds 0) := by
  have hAll : ds.all Char.isDigit = true := List.all_eq_true.mpr h
  have hSome : (!ds.isEmpty) = true := by
    cases ds with
    | nil => exact absurd rfl hne
    | cons c rest => rfl
  rw [digitsValue, hAll, hSome, Nat.ofDigitChars_eq_foldl]
  rfl

/-- Reading the decimal digits of a number gives it back. -/
theorem digitsValue_toDigits (n : ℕ) : digitsValue (Nat.toDigits 10 n) = some n := by
  rw [digitsValue_eq (digits_toDigits n) Nat.toDigits_ne_nil, Nat.ofDigitChars_ten_toDigits]

/-- A row of digits is a mantissa without a point. -/
theorem mantissaValue_digits {ds : List Char} (h : Digits ds) (hne : ds ≠ []) :
    mantissaValue ds = some (Nat.ofDigitChars 10 ds 0 : ℚ) := by
  have hAll : ∀ c ∈ ds, decide (c ≠ '.') = true := by
    intro c hc
    exact decide_eq_true (ne_point_of_isDigit (h c hc))
  have hTake : ds.takeWhile (· ≠ '.') = ds := List.takeWhile_eq_self_iff.mpr hAll
  have hDrop : ds.dropWhile (· ≠ '.') = [] := List.dropWhile_eq_nil_iff.mpr hAll
  rw [mantissaValue, hTake, hDrop]
  simp [digitsValue_eq h hne]

/-- Two rows of digits with a point in between. -/
theorem mantissaValue_point {ds es : List Char} (h : Digits ds) (h' : Digits es)
    (hne : ds ++ es ≠ []) :
    mantissaValue (ds ++ '.' :: es) =
      some ((Nat.ofDigitChars 10 (ds ++ es) 0 : ℚ) / 10 ^ es.length) := by
  have hAll : ∀ c ∈ ds, decide (c ≠ '.') = true := by
    intro c hc
    exact decide_eq_true (ne_point_of_isDigit (h c hc))
  have hTake : (ds ++ '.' :: es).takeWhile (· ≠ '.') = ds := by
    rw [List.takeWhile_append_of_pos hAll]
    simp
  have hDrop : (ds ++ '.' :: es).dropWhile (· ≠ '.') = '.' :: es := by
    rw [List.dropWhile_append_of_pos hAll]
    simp
  rw [mantissaValue, hTake, hDrop]
  simp [digitsValue_eq (h.append h') hne]

-- ---------------------------------------------------------------------------
-- Reading a numeral
-- ---------------------------------------------------------------------------

/-- A numeral without sign and exponent, from its first digit to its last. -/
structure Unsigned (cs : List Char) : Prop where
  chars : ∀ c ∈ cs, c.isDigit = true ∨ c = '.'
  head : ∃ c rest, cs = c :: rest ∧ c.isDigit = true
  last : ∃ c ∈ cs.getLast?, c.isDigit = true

theorem Digits.getLast? {ds : List Char} (h : Digits ds) (hne : ds ≠ []) :
    ∃ c ∈ ds.getLast?, c.isDigit = true :=
  ⟨ds.getLast hne, List.getLast?_eq_some_getLast hne, h _ (List.getLast_mem hne)⟩

/-- Digits alone have no sign, point or exponent. -/
theorem Unsigned.of_digits {ds : List Char} (h : Digits ds) (hne : ds ≠ []) : Unsigned ds := by
  refine ⟨fun c hc => Or.inl (h c hc), ?_, h.getLast? hne⟩
  obtain ⟨c, rest, rfl⟩ := List.exists_cons_of_ne_nil hne
  exact ⟨c, rest, rfl, h c (List.mem_cons_self ..)⟩

/-- Digits around a point have no sign or exponent. -/
theorem Unsigned.of_point {ds es : List Char} (h : Digits ds) (h' : Digits es) (hne : ds ≠ [])
    (hne' : es ≠ []) : Unsigned (ds ++ '.' :: es) := by
  refine ⟨?_, ?_, ?_⟩
  · intro c hc
    rcases List.mem_append.mp hc with hc | hc
    · exact Or.inl (h c hc)
    · rcases List.mem_cons.mp hc with rfl | hc
      · exact Or.inr rfl
      · exact Or.inl (h' c hc)
  · obtain ⟨c, rest, rfl⟩ := List.exists_cons_of_ne_nil hne
    exact ⟨c, rest ++ '.' :: es, rfl, h c (List.mem_cons_self ..)⟩
  · obtain ⟨c, hc, hDigit⟩ := h'.getLast? hne'
    refine ⟨c, ?_, hDigit⟩
    have hCons : ('.' :: es).getLast? = es.getLast? := List.getLast?_cons_of_ne_nil hne'
    rw [List.getLast?_append_of_ne_nil _ (List.cons_ne_nil _ _), hCons]
    exact hc

def signed (negative : Bool) (cs : List Char) : List Char :=
  if negative then '-' :: cs else cs

/-- A sign that was written is read. -/
theorem signedValue_signed {α : Type} [Neg α] (value : List Char → Option α) {cs : List Char}
    (h : Unsigned cs) (negative : Bool) :
    signedValue value (signed negative cs) =
      (value cs).map fun a => if negative then -a else a := by
  obtain ⟨c, rest, rfl, hc⟩ := h.head
  cases negative with
  | true => rfl
  | false =>
    have hMinus : c ≠ '-' := by
      rintro rfl
      exact absurd hc (by decide)
    have hPlus : c ≠ '+' := by
      rintro rfl
      exact absurd hc (by decide)
    show signedValue value (c :: rest) = _
    rw [signedValue]
    · simp
    · intro cs hcs
      exact hMinus (List.cons.inj hcs).1
    · intro cs hcs
      exact hPlus (List.cons.inj hcs).1

/-- A sign brings no exponent. -/
theorem signed_no_exponent {cs : List Char} (h : Unsigned cs) (negative : Bool) :
    ∀ c ∈ signed negative cs, ¬ (c = 'e' ∨ c = 'E') := by
  have hPlain : ∀ c ∈ cs, ¬ (c = 'e' ∨ c = 'E') := by
    rintro c hc (rfl | rfl) <;> rcases h.chars _ hc with hDigit | hPoint <;>
      first | exact absurd hDigit (by decide) | exact absurd hPoint (by decide)
  cases negative with
  | false => exact hPlain
  | true =>
    intro c hc
    rcases List.mem_cons.mp hc with rfl | hc
    · decide
    · exact hPlain c hc

/-- A numeral without an exponent. -/
theorem parseDecimal_plain {cs : List Char} (h : Unsigned cs) (negative : Bool) :
    parseDecimal (String.ofList (signed negative cs)) =
      (mantissaValue cs).map fun q => if negative then -q else q := by
  have hAll : ∀ c ∈ signed negative cs, decide (¬ (c = 'e' ∨ c = 'E')) = true := by
    intro c hc
    exact decide_eq_true (signed_no_exponent h negative c hc)
  simp only [parseDecimal, String.toList_ofList]
  rw [List.takeWhile_eq_self_iff.mpr hAll, List.dropWhile_eq_nil_iff.mpr hAll]
  exact signedValue_signed mantissaValue h negative

/-- A numeral with an exponent, after either letter. -/
theorem parseDecimal_scaled {cs expo : List Char} {letter : Char} {e : ℤ} (h : Unsigned cs)
    (hLetter : letter = 'e' ∨ letter = 'E')
    (hExpo : signedValue (fun ds => (digitsValue ds).map Int.ofNat) expo = some e)
    (negative : Bool) :
    parseDecimal (String.ofList (signed negative cs ++ letter :: expo)) =
      (mantissaValue cs).map fun q => (if negative then -q else q) * 10 ^ e := by
  have hAll : ∀ c ∈ signed negative cs, decide (¬ (c = 'e' ∨ c = 'E')) = true := by
    intro c hc
    exact decide_eq_true (signed_no_exponent h negative c hc)
  simp only [parseDecimal, String.toList_ofList]
  rw [List.takeWhile_append_of_pos hAll, List.dropWhile_append_of_pos hAll]
  simp only [List.takeWhile_cons, List.dropWhile_cons]
  simp only [hLetter, not_true_eq_false, decide_false, Bool.false_eq_true, if_false,
    List.append_nil]
  rw [signedValue_signed mantissaValue h negative, hExpo]
  cases mantissaValue cs <;> rfl

/-- A numeral with an exponent. -/
theorem parseDecimal_exponent {cs : List Char} (h : Unsigned cs) (negative : Bool) (e : ℤ) :
    parseDecimal (String.ofList (signed negative cs ++
        'e' :: (if 0 ≤ e then '+' else '-') :: Nat.toDigits 10 e.natAbs)) =
      (mantissaValue cs).map fun q => (if negative then -q else q) * 10 ^ e := by
  refine parseDecimal_scaled h (Or.inl rfl) ?_ negative
  split
  · next hPos =>
    rw [signedValue, digitsValue_toDigits]
    exact congrArg some (by simpa using hPos)
  · next hNeg =>
    rw [signedValue, digitsValue_toDigits]
    refine congrArg some ?_
    show -(e.natAbs : ℤ) = e
    omega

-- ---------------------------------------------------------------------------
-- The characters of a numeral
-- ---------------------------------------------------------------------------

def NumeralChar (c : Char) : Prop := c.isDigit = true ∨ c ∈ ['.', '+', '-', 'e', 'E']

/-- The characters of numerals are no blanks. -/
theorem NumeralChar.visible {c : Char} (h : NumeralChar c) : ' ' < c := by
  rcases h with hDigit | hOther
  · have hRange : 48 ≤ c.val ∧ c.val ≤ 57 := by simpa [Char.isDigit] using hDigit
    exact Char.lt_def.mpr (UInt32.lt_of_lt_of_le (show 32 < 48 by decide) hRange.1)
  · simp only [List.mem_cons, List.not_mem_nil, or_false] at hOther
    rcases hOther with rfl | rfl | rfl | rfl | rfl <;> decide

/-- What reads as digits is digits. -/
theorem digits_of_digitsValue {ds : List Char} {n : ℕ} (h : digitsValue ds = some n) :
    ds ≠ [] ∧ Digits ds := by
  unfold digitsValue at h
  split at h
  · next hAll =>
    rw [Bool.and_eq_true, List.all_eq_true] at hAll
    exact ⟨by simpa using hAll.1, hAll.2⟩
  · cases h

/-- Around the first point there is everything else. -/
theorem mem_around_point {cs : List Char} {c : Char} (hc : c ∈ cs) :
    c = '.' ∨ c ∈ cs.takeWhile (· ≠ '.') ++ (cs.dropWhile (· ≠ '.')).drop 1 := by
  rw [← List.takeWhile_append_dropWhile (p := (· ≠ '.')) (l := cs)] at hc
  rcases List.mem_append.mp hc with hWhole | hRest
  · exact Or.inr (List.mem_append_left _ hWhole)
  · have hStop := List.head?_dropWhile_not (· ≠ '.') cs
    cases hPoint : cs.dropWhile (· ≠ '.') with
    | nil =>
      rw [hPoint] at hRest
      cases hRest
    | cons point frac =>
      rw [hPoint] at hRest hStop
      rcases List.mem_cons.mp hRest with rfl | hFrac
      · exact Or.inl (by simpa using hStop)
      · exact Or.inr (List.mem_append_right _ hFrac)

/-- What reads as a mantissa has the characters of numerals. -/
theorem chars_of_mantissaValue {cs : List Char} {q : ℚ} (h : mantissaValue cs = some q) :
    cs ≠ [] ∧ ∀ c ∈ cs, NumeralChar c := by
  cases hValue : digitsValue (cs.takeWhile (· ≠ '.') ++ (cs.dropWhile (· ≠ '.')).drop 1) with
  | none =>
    rw [mantissaValue, hValue] at h
    cases h
  | some n =>
    obtain ⟨hne, hDigits⟩ := digits_of_digitsValue hValue
    refine ⟨?_, fun c hc => ?_⟩
    · rintro rfl
      exact hne rfl
    · rcases mem_around_point hc with rfl | hDigit
      · exact Or.inr (by decide)
      · exact Or.inl (hDigits c hDigit)

/-- A sign in front leaves the characters those of numerals. -/
theorem chars_of_signedValue {α : Type} [Neg α] {value : List Char → Option α}
    (hValue : ∀ cs a, value cs = some a → cs ≠ [] ∧ ∀ c ∈ cs, NumeralChar c) {cs : List Char}
    {a : α} (h : signedValue value cs = some a) : cs ≠ [] ∧ ∀ c ∈ cs, NumeralChar c := by
  unfold signedValue at h
  split at h
  · next rest =>
    obtain ⟨b, hb, -⟩ := Option.map_eq_some_iff.mp h
    refine ⟨List.cons_ne_nil _ _, fun c hc => ?_⟩
    rcases List.mem_cons.mp hc with rfl | hc
    · exact Or.inr (by decide)
    · exact (hValue rest b hb).2 c hc
  · next rest =>
    refine ⟨List.cons_ne_nil _ _, fun c hc => ?_⟩
    rcases List.mem_cons.mp hc with rfl | hc
    · exact Or.inr (by decide)
    · exact (hValue rest a h).2 c hc
  · exact hValue _ a h

/-- A string that is read as a number is made of nothing else than its numeral. -/
theorem chars_of_parseDecimal {s : String} {q : ℚ} (h : parseDecimal s = some q) :
    s.toList ≠ [] ∧ ∀ c ∈ s.toList, NumeralChar c := by
  have hMantissa : ∀ cs a, mantissaValue cs = some a → cs ≠ [] ∧ ∀ c ∈ cs, NumeralChar c :=
    fun _ _ => chars_of_mantissaValue
  have hDigits : ∀ cs a, (digitsValue cs).map Int.ofNat = some a →
      cs ≠ [] ∧ ∀ c ∈ cs, NumeralChar c := by
    intro cs a ha
    obtain ⟨n, hn, -⟩ := Option.map_eq_some_iff.mp ha
    obtain ⟨hne, hAll⟩ := digits_of_digitsValue hn
    exact ⟨hne, fun c hc => Or.inl (hAll c hc)⟩
  have hSplit := List.takeWhile_append_dropWhile (p := fun c => ¬ (c = 'e' ∨ c = 'E'))
    (l := s.toList)
  have hStop := List.head?_dropWhile_not (fun c => ¬ (c = 'e' ∨ c = 'E')) s.toList
  unfold parseDecimal at h
  dsimp only at h
  cases hExponent : s.toList.dropWhile fun c => ¬ (c = 'e' ∨ c = 'E') with
  | nil =>
    rw [hExponent] at h hSplit
    rw [List.append_nil] at hSplit
    rw [hSplit] at h
    exact chars_of_signedValue hMantissa h
  | cons letter expo =>
    rw [hExponent] at h hSplit hStop
    obtain ⟨m, hm, hRest⟩ := Option.bind_eq_some_iff.mp h
    obtain ⟨e, he, -⟩ := Option.bind_eq_some_iff.mp hRest
    obtain ⟨hne, hBefore⟩ := chars_of_signedValue hMantissa hm
    have hAfter := (chars_of_signedValue hDigits he).2
    rw [← hSplit]
    refine ⟨List.append_ne_nil_of_left_ne_nil hne _, fun c hc => ?_⟩
    rcases List.mem_append.mp hc with hc | hc
    · exact hBefore c hc
    · rcases List.mem_cons.mp hc with rfl | hc
      · have hLetter : c = 'e' ∨ c = 'E' := by simpa [or_iff_not_imp_left] using hStop
        rcases hLetter with rfl | rfl <;> exact Or.inr (by decide)
      · exact hAfter c hc

-- ---------------------------------------------------------------------------
-- Writing and reading back
-- ---------------------------------------------------------------------------

namespace Decimal

/-- What `unsignedText` writes: a numeral of the value, or one that an exponent
scales to the value. -/
inductive Written (q : ℚ) : List Char → Prop
  | plain {cs : List Char} (h : Unsigned cs) (hValue : mantissaValue cs = some q) : Written q cs
  | scaled {cs : List Char} {m : ℚ} (e : ℤ) (h : Unsigned cs) (hValue : mantissaValue cs = some m)
      (hScale : m * 10 ^ e = q) :
      Written q (cs ++ 'e' :: (if 0 ≤ e then '+' else '-') :: Nat.toDigits 10 e.natAbs)

theorem div_pow_eq {s : ℚ} {j : ℕ} {e : ℤ} (h : e = -j) : s / 10 ^ j = s * 10 ^ e := by
  rw [h, zpow_neg, zpow_natCast, div_eq_mul_inv]

/-- The text of a number without its sign stands for it. -/
theorem written_unsignedText (s : ℕ) (exponent : ℤ) :
    Written (s * 10 ^ exponent) (unsignedText s exponent) := by
  have hDigits : Digits (Nat.toDigits 10 s) := digits_toDigits s
  have hne : Nat.toDigits 10 s ≠ [] := Nat.toDigits_ne_nil
  have hValue : Nat.ofDigitChars 10 (Nat.toDigits 10 s) 0 = s := Nat.ofDigitChars_ten_toDigits
  unfold unsignedText
  generalize Nat.toDigits 10 s = ds at hDigits hne hValue ⊢
  have hTake : ∀ n, Digits (ds.take n) := fun n => hDigits.subset (List.take_subset ..)
  have hDrop : ∀ n, Digits (ds.drop n) := fun n => hDigits.subset (List.drop_subset ..)
  have hTakeNe : ∀ n, 0 < n → ds.take n ≠ [] := by
    intro n hn hNil
    rcases List.take_eq_nil_iff.mp hNil with h | h
    · omega
    · exact hne h
  dsimp only
  split
  · -- an integer, its zeros written out
    next h =>
    obtain ⟨j, rfl⟩ : ∃ j : ℕ, exponent = j := ⟨exponent.toNat, by omega⟩
    have hAll := hDigits.append (digits_replicate j)
    have hAllNe : ds ++ List.replicate j '0' ≠ [] := List.append_ne_nil_of_left_ne_nil hne _
    refine .plain (.of_digits hAll hAllNe) ?_
    rw [Int.toNat_natCast, mantissaValue_digits hAll hAllNe, Nat.ofDigitChars_append, hValue,
      Nat.ofDigitChars_replicate_zero, zpow_natCast]
    push_cast
    rw [mul_comm]
  · split
    · -- the point is between two digits
      next hInt h =>
      obtain ⟨j, hj⟩ : ∃ j : ℕ, ds.length + exponent = j :=
        ⟨(ds.length + exponent).toNat, by omega⟩
      rw [hj, Int.toNat_natCast]
      have hPoint := mantissaValue_point (hTake j) (hDrop j)
        (by rwa [List.take_append_drop])
      have hDropNe : ds.drop j ≠ [] := by
        intro hNil
        have hLe := List.drop_eq_nil_iff.mp hNil
        omega
      refine .plain (.of_point (hTake j) (hDrop j) (hTakeNe j (by omega)) hDropNe) ?_
      rw [hPoint, List.take_append_drop, hValue, List.length_drop]
      exact congrArg some (div_pow_eq (by omega))
    · split
      · -- the point is before the first digit
        next hInt hFrac h =>
        obtain ⟨j, hj⟩ : ∃ j : ℕ, -(ds.length + exponent) = j :=
          ⟨(-(ds.length + exponent)).toNat, by omega⟩
        rw [hj, Int.toNat_natCast]
        have hZero : Digits ['0'] := digits_replicate 1
        have hRest := (digits_replicate j).append hDigits
        have hPoint := mantissaValue_point hZero hRest (by simp)
        have hRestNe := List.append_ne_nil_of_right_ne_nil (List.replicate j '0') hne
        refine .plain (.of_point hZero hRest (by simp) hRestNe) ?_
        rw [List.singleton_append] at hPoint
        rw [hPoint]
        have hDrop0 : Nat.ofDigitChars 10 ('0' :: (List.replicate j '0' ++ ds)) 0 = s := by
          rw [← List.cons_append, ← List.replicate_succ, Nat.ofDigitChars_append,
            Nat.ofDigitChars_replicate_zero, Nat.mul_zero, hValue]
        rw [List.singleton_append, hDrop0, List.length_append, List.length_replicate]
        exact congrArg some (div_pow_eq (by omega))
      · -- one digit before the point, and an exponent
        by_cases hOne : ds.length = 1
        · rw [if_pos hOne]
          refine .scaled _ (.of_digits hDigits hne) (mantissaValue_digits hDigits hne) ?_
          rw [hValue, hOne]
          congr 2
          omega
        · rw [if_neg hOne]
          have hPoint := mantissaValue_point (hTake 1) (hDrop 1)
            (by rwa [List.take_append_drop])
          have hLength : 0 < ds.length := List.length_pos_of_ne_nil hne
          have hDropNe : ds.drop 1 ≠ [] := by
            intro hNil
            have hLe := List.drop_eq_nil_iff.mp hNil
            omega
          refine .scaled _ (.of_point (hTake 1) (hDrop 1) (hTakeNe 1 (by decide)) hDropNe) hPoint ?_
          rw [List.take_append_drop, hValue, List.length_drop,
            div_pow_eq (e := -((ds.length - 1 : ℕ) : ℤ)) rfl, mul_assoc,
            ← zpow_add₀ (by norm_num)]
          congr 2
          omega

/-- A text that stands for a number parses as it, with its sign. -/
theorem Written.parse {q : ℚ} {cs : List Char} (h : Written q cs) (negative : Bool) :
    parseDecimal (String.ofList (signed negative cs)) = some (if negative then -q else q) := by
  cases h with
  | plain hUnsigned hValue => rw [parseDecimal_plain hUnsigned, hValue, Option.map_some]
  | scaled e hUnsigned hValue hScale =>
    have hAppend : ∀ cs es : List Char, signed negative (cs ++ es) = signed negative cs ++ es := by
      intro cs es
      cases negative <;> rfl
    rw [hAppend, parseDecimal_exponent hUnsigned, hValue, Option.map_some, ← hScale]
    cases negative
    · rfl
    · exact congrArg some (neg_mul _ _)

theorem chars_eq (d : Decimal) :
    d.chars = signed (d.mantissa < 0) (unsignedText d.mantissa.natAbs d.exponent) := by
  simp [chars, signed]

/-- **What is written reads back.** -/
theorem parseDecimal_text (d : Decimal) : parseDecimal d.text = some d.value := by
  rw [text, chars_eq, (written_unsignedText _ _).parse, value, Nat.cast_natAbs, Int.cast_abs]
  refine congrArg some ?_
  by_cases hNeg : d.mantissa < 0
  · have hNegQ : (d.mantissa : ℚ) < 0 := by exact_mod_cast hNeg
    rw [if_pos (decide_eq_true hNeg), abs_of_neg hNegQ, neg_mul, neg_neg]
  · have hPosQ : (0 : ℚ) ≤ d.mantissa := by exact_mod_cast not_lt.mp hNeg
    rw [if_neg (by simpa using hNeg), abs_of_nonneg hPosQ]

-- ---------------------------------------------------------------------------
-- The decimal of a number
-- ---------------------------------------------------------------------------

/-- Normalizing keeps the value. -/
theorem value_ofParts (mantissa exponent : ℤ) :
    (ofParts mantissa exponent).value = mantissa * 10 ^ exponent := by
  induction mantissa, exponent using ofParts.induct with
  | case1 exponent =>
    rw [ofParts, dif_pos rfl, value]
    simp
  | case2 mantissa exponent hZero hDigit ih =>
    rw [ofParts, dif_neg hZero, dif_pos hDigit, ih, zpow_add₀ (by norm_num), zpow_one]
    have hTens : (mantissa : ℚ) = (mantissa / 10 : ℤ) * 10 := by
      have h : mantissa = mantissa / 10 * 10 := by omega
      exact_mod_cast h
    rw [hTens]
    ring
  | case3 mantissa exponent hZero hDigit =>
    rw [ofParts, dif_neg hZero, dif_neg hDigit]
    rfl

/-- The digits behind the point are enough. -/
theorem fractionDigits_dvd {q : ℚ} {k : ℕ} (h : q.den ∣ 10 ^ k) :
    q.den ∣ 10 ^ fractionDigits q := by
  have hFound : ∃ j ∈ List.range (q.den.log2 + 1), q.den ∣ 10 ^ j := by
    refine ⟨q.den.log2, by simp, ?_⟩
    refine (Nat.factorization_le_iff_dvd q.den_nz (by positivity)).mp fun p => ?_
    by_cases hp : p.Prime ∧ p ∣ q.den
    · obtain ⟨hPrime, hDvd⟩ := hp
      have hTen : p ∣ 10 := hPrime.dvd_of_dvd_pow (hDvd.trans h)
      have hPow : p ^ q.den.factorization p ≤ q.den :=
        Nat.le_of_dvd q.den_pos (Nat.ordProj_dvd q.den p)
      have hTwo : 2 ^ q.den.factorization p ≤ q.den :=
        (Nat.pow_le_pow_left hPrime.two_le _).trans hPow
      have hLog : q.den.factorization p ≤ q.den.log2 := (Nat.le_log2 q.den_nz).mpr hTwo
      have hOne : 0 < (10 : ℕ).factorization p :=
        hPrime.factorization_pos_of_dvd (by decide) hTen
      rw [Nat.factorization_pow, Finsupp.smul_apply, smul_eq_mul]
      nlinarith
    · have hZero : q.den.factorization p = 0 := by
        rcases not_and_or.mp hp with h | h
        · exact Nat.factorization_eq_zero_of_not_prime _ h
        · exact Nat.factorization_eq_zero_of_not_dvd h
      rw [hZero]
      exact Nat.zero_le _
  unfold fractionDigits
  cases hFind : (List.range (q.den.log2 + 1)).find? fun k => q.den ∣ 10 ^ k with
  | none =>
    obtain ⟨j, hj, hDvd⟩ := hFound
    have hNone := List.find?_eq_none.mp hFind j hj
    simp [hDvd] at hNone
  | some j =>
    have hSome := List.find?_some hFind
    simpa using hSome

/-- A number whose expansion ends is the value of its decimal. -/
theorem value_ofRat {q : ℚ} {k : ℕ} (h : q.den ∣ 10 ^ k) : (ofRat q).value = q := by
  obtain ⟨j, hj⟩ := fractionDigits_dvd h
  have hInt : q * 10 ^ fractionDigits q = ((q.num * j : ℤ) : ℚ) := by
    have hPow : (10 : ℚ) ^ fractionDigits q = q.den * j := by exact_mod_cast hj
    rw [hPow, ← mul_assoc, Rat.mul_den_eq_num]
    push_cast
    ring
  rw [ofRat, value_ofParts, hInt, Int.floor_intCast, ← hInt, zpow_neg, zpow_natCast,
    mul_assoc, mul_inv_cancel₀ (by positivity), mul_one]

end Decimal

end PriceMap

import Mathlib.Algebra.Order.Field.Rat
import Mathlib.Data.Rat.Floor

/-!
# JSON values and decimal numerals

The values the backend sends and both clients read. Numbers are exact
rationals; a numeral in a string is read by `parseDecimal` (sign, digits,
fraction, exponent). The clients' own reading rules are in
`Android/Connections.lean` and `IOS/Records.lean`.
-/

namespace PriceMap

/-- A parsed JSON value. An object is the list of its members, each name once. -/
inductive Json where
  | null
  | bool (b : Bool)
  | num (q : ℚ)
  | str (s : String)
  | arr (elements : List Json)
  | obj (members : List (String × Json))

namespace Json

def member (members : List (String × Json)) (name : String) : Option Json :=
  (members.find? fun m => m.1 = name).map Prod.snd

end Json

-- ---------------------------------------------------------------------------
-- Decimal numerals
-- ---------------------------------------------------------------------------

def digitsValue (ds : List Char) : Option ℕ :=
  if !ds.isEmpty && ds.all Char.isDigit then
    some (ds.foldl (fun n d => 10 * n + (d.toNat - '0'.toNat)) 0)
  else
    none

/-- `digits`, `digits.digits`, `digits.` or `.digits`. -/
def mantissaValue (cs : List Char) : Option ℚ :=
  let whole := cs.takeWhile (· ≠ '.')
  let frac := (cs.dropWhile (· ≠ '.')).drop 1
  (digitsValue (whole ++ frac)).map fun n => (n : ℚ) / 10 ^ frac.length

/-- Read an optional sign off the front, then the rest by `value`. -/
def signedValue {α : Type} [Neg α] (value : List Char → Option α) :
    List Char → Option α
  | '-' :: cs => (value cs).map (- ·)
  | '+' :: cs => value cs
  | cs => value cs

/-- A decimal numeral with an optional exponent. -/
def parseDecimal (s : String) : Option ℚ :=
  let isE := fun c : Char => c = 'e' ∨ c = 'E'
  let cs := s.toList
  let mantissa := signedValue mantissaValue (cs.takeWhile fun c => ¬ isE c)
  match cs.dropWhile fun c => ¬ isE c with
  | [] => mantissa
  | _ :: expo => do
    let m ← mantissa
    let e ← signedValue (fun ds => (digitsValue ds).map Int.ofNat) expo
    return m * 10 ^ e

/-- The number in plain decimal notation: all its digits when the expansion
ends, the first `20` of the fraction otherwise. -/
def decimalText (q : ℚ) : String :=
  let rec fraction : ℕ → ℕ → String
    | 0, _ => ""
    | k + 1, rem =>
      if rem = 0 then "" else toString (10 * rem / q.den) ++ fraction k (10 * rem % q.den)
  let n := q.num.natAbs
  (if q < 0 then "-" else "") ++ toString (n / q.den) ++
    (if q.den = 1 then "" else "." ++ fraction 20 (n % q.den))

namespace Json

/-- A string literal, with quotes, slashes and backslashes escaped. -/
def quoted (s : String) : String :=
  "\"" ++ String.join (s.toList.map fun c =>
    if c = '"' ∨ c = '\\' ∨ c = '/' then "\\" ++ c.toString else c.toString) ++ "\""

def text : Json → String
  | .null => "null"
  | .bool b => toString b
  | .num q => decimalText q
  | .str s => quoted s
  | .arr es => "[" ++ elementsText es ++ "]"
  | .obj ms => "\x7b" ++ membersText ms ++ "\x7d"
where
  elementsText : List Json → String
    | [] => ""
    | [e] => text e
    | e :: es => text e ++ "," ++ elementsText es
  membersText : List (String × Json) → String
    | [] => ""
    | [m] => quoted m.1 ++ ":" ++ text m.2
    | m :: ms => quoted m.1 ++ ":" ++ text m.2 ++ "," ++ membersText ms

end Json

end PriceMap

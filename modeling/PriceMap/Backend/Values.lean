import Mathlib.Data.List.DropRight
import PriceMap.Backend.Numbers
import PriceMap.Common.Numerals

/-!
# Backend — values parsed from JSON

The services look into what `JSON.parse` makes of an answer without checking its
type. These are the operations they use: reading a property, running over a
value, and the conversions to a string and to a number behind `+` and `==`.
-/

namespace PriceMap.Backend

-- ---------------------------------------------------------------------------
-- Properties
-- ---------------------------------------------------------------------------

/-- What an `await` or a property access can throw here. -/
inductive JsError where
  | RequestError
  | SyntaxError
  | TypeError
  deriving DecidableEq, Repr

abbrev Value := Option Json

/-- `value.name` for a name that only objects have. -/
def getProperty (value : Value) (name : String) : Except JsError Value :=
  match value with
  | none | some .null => .error .TypeError
  | some (.obj members) => .ok (Json.member members name)
  | some _ => .ok none

/-- The values `for (… of value)` runs over. -/
def iterate (value : Value) : Except JsError (List Value) :=
  match value with
  | some (.arr elements) => .ok (elements.map some)
  | some (.str s) => .ok (s.toList.map fun c => some (.str (String.singleton c)))
  | _ => .error .TypeError

-- ---------------------------------------------------------------------------
-- Strings
-- ---------------------------------------------------------------------------

def Number.text : Number ℚ → String
  | .NaN => "NaN"
  | .finite q => (Decimal.ofRat q).text
  | .posInfinity => "Infinity"
  | .negInfinity => "-Infinity"

def isNull : Json → Bool
  | .null => true
  | _ => false

/-- `String(value)` of a parsed JSON value. A member `toString` is in the way of
the conversion of an object. -/
def stringOf : Json → Except JsError String
  | .null => .ok "null"
  | .bool b => .ok (toString b)
  | .num q => .ok (Number.finite q).text
  | .str s => .ok s
  | .arr elements => (join elements).map (String.intercalate ",")
  | .obj members =>
    if (Json.member members "toString").isSome then .error .TypeError else .ok "[object Object]"
where
  join : List Json → Except JsError (List String)
    | [] => .ok []
    | e :: es => do
      let first ← if isNull e then .ok "" else stringOf e
      let rest ← join es
      return first :: rest

-- ---------------------------------------------------------------------------
-- Numbers
-- ---------------------------------------------------------------------------

def whiteSpace (c : Char) : Bool :=
  c.toNat ∈ [0x9, 0xA, 0xB, 0xC, 0xD, 0x20, 0xA0, 0x1680, 0x2028, 0x2029, 0x202F, 0x205F, 0x3000,
    0xFEFF] || (0x2000 ≤ c.toNat && c.toNat ≤ 0x200A)

def digitValue (c : Char) : Option ℕ :=
  if c.isDigit then some (c.toNat - '0'.toNat)
  else if 'a' ≤ c ∧ c ≤ 'f' then some (c.toNat - 'a'.toNat + 10)
  else if 'A' ≤ c ∧ c ≤ 'F' then some (c.toNat - 'A'.toNat + 10)
  else none

/-- The digits of a numeral with another base than ten. -/
def radixValue (base : ℕ) (ds : List Char) : Option ℕ :=
  if ds.isEmpty then none
  else ds.foldlM (fun n c => (digitValue c).bind fun d =>
    if d < base then some (base * n + d) else none) 0

/-- `Number(s)`. -/
def numberOfString (s : String) : Number ℚ :=
  let cs := (s.toList.dropWhile whiteSpace).rdropWhile whiteSpace
  let value : Option ℚ :=
    match cs with
    | [] => some 0
    | '0' :: 'x' :: ds | '0' :: 'X' :: ds => (radixValue 16 ds).map fun n => (n : ℚ)
    | '0' :: 'o' :: ds | '0' :: 'O' :: ds => (radixValue 8 ds).map fun n => (n : ℚ)
    | '0' :: 'b' :: ds | '0' :: 'B' :: ds => (radixValue 2 ds).map fun n => (n : ℚ)
    | cs => parseDecimal (String.ofList cs)
  match value with
  | some q => .finite q
  | none =>
    if cs = "Infinity".toList ∨ cs = "+Infinity".toList then .posInfinity
    else if cs = "-Infinity".toList then .negInfinity
    else .NaN

/-- `value == 0`. An array or an object is converted to a string first. -/
def looselyZero : Json → Except JsError Bool
  | .null => .ok false
  | .num q => .ok (q = 0)
  | .bool b => .ok (!b)
  | value => (stringOf value).map fun s => numberOfString s = .finite 0

/-- `value.length == 0`. -/
def lengthIsZero (value : Value) : Except JsError Bool :=
  match value with
  | none | some .null => .error .TypeError
  | some (.arr elements) => .ok elements.isEmpty
  | some (.str s) => .ok s.isEmpty
  | some (.obj members) =>
    match Json.member members "length" with
    | none => .ok false
    | some length => looselyZero length
  | some _ => .ok false

example : lengthIsZero (some (.obj [("length", .arr [.str "0x0"])])) = .ok true := by
  decide +kernel

end PriceMap.Backend

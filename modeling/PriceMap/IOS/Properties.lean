import PriceMap.IOS.Selection

/-!
# iOS — the properties of a postcode

`PropertyTableViewController` loads the transactions of the postcode it was
handed and shows a row for each. The synthesised decoding of `[Property]`
rejects the whole array where one price has a fraction or one text is no
string.

* `decodeProperty_isSome_iff` — which objects are properties.
* `getPropertyData_ok`, `getPropertyData_error` — an array that is decoded is
  shown, or reported as empty; an error leaves the spinner on.
-/

namespace PriceMap.IOS

-- ---------------------------------------------------------------------------
-- Endpoints
-- ---------------------------------------------------------------------------

inductive PropertyAPI where
  | postCodes (lat long radius : String)
  | postCodeSpecific (postCode : String)

def PropertyAPI.path : PropertyAPI → String
  | .postCodes lat long radius => "/pcprices/" ++ lat ++ "/" ++ long ++ "/" ++ radius
  | .postCodeSpecific postCode => "/addresses/" ++ postCode.toLower

-- ---------------------------------------------------------------------------
-- Records
-- ---------------------------------------------------------------------------

structure Address where
  street : Option String
  paon : Option String
  deriving DecidableEq, Repr

structure Property where
  pricePaid : Option ℤ
  propertyAddress : Option Address
  transactionDate : Option String
  deriving DecidableEq, Repr

/-- An `Int` has 64 bits. -/
def decodeInt : Json → Option ℤ
  | .num q => if q.den = 1 ∧ -2 ^ 63 ≤ q.num ∧ q.num < 2 ^ 63 then some q.num else none
  | _ => none

def decodeAddress : Json → Option Address :=
  decodeKeyed fun members => do
    let street ← decodeIfPresent decodeString members "street"
    let paon ← decodeIfPresent decodeString members "paon"
    return ⟨street, paon⟩

def decodeProperty : Json → Option Property :=
  decodeKeyed fun members => do
    let pricePaid ← decodeIfPresent decodeInt members "pricePaid"
    let propertyAddress ← decodeIfPresent decodeAddress members "propertyAddress"
    let transactionDate ← decodeIfPresent decodeString members "transactionDate"
    return ⟨pricePaid, propertyAddress, transactionDate⟩

-- ---------------------------------------------------------------------------
-- Which objects are properties
-- ---------------------------------------------------------------------------

/-- The member is absent, null, or as `p` says. -/
def OptionalMember (p : Json → Prop) (members : List (String × Json)) (name : String) : Prop :=
  ∀ v ∈ Json.member members name, v = .null ∨ p v

def IsInt (v : Json) : Prop := ∃ z : ℤ, v = .num z ∧ -2 ^ 63 ≤ z ∧ z < 2 ^ 63

def IsString (v : Json) : Prop := ∃ s, v = .str s

def IsAddress (v : Json) : Prop :=
  ∃ members, v = .obj members ∧ OptionalMember IsString members "street" ∧
    OptionalMember IsString members "paon"

structure IsProperty (members : List (String × Json)) : Prop where
  pricePaid : OptionalMember IsInt members "pricePaid"
  propertyAddress : OptionalMember IsAddress members "propertyAddress"
  transactionDate : OptionalMember IsString members "transactionDate"

/-- An optional member decodes if it is absent, null or of its type. -/
theorem decodeIfPresent_isSome_iff {α : Type} {decode : Json → Option α} {p : Json → Prop}
    (h : ∀ v, (decode v).isSome ↔ p v) (members : List (String × Json)) (name : String) :
    (decodeIfPresent decode members name).isSome ↔ OptionalMember p members name := by
  unfold decodeIfPresent OptionalMember
  cases Json.member members name with
  | none => exact iff_of_true rfl (by rintro v ⟨⟩)
  | some v =>
    have hForall : (∀ x ∈ some v, x = .null ∨ p x) ↔ v = .null ∨ p v := by simp
    rw [hForall]
    cases v with
    | null => exact iff_of_true rfl (Or.inl rfl)
    | _ =>
      rw [← h]
      simp

/-- Only strings decode as strings. -/
theorem decodeString_isSome_iff (v : Json) : (decodeString v).isSome ↔ IsString v := by
  cases v <;> simp [decodeString, IsString]

/-- Only integers of the range of an `Int` decode as such. -/
theorem decodeInt_isSome_iff (v : Json) : (decodeInt v).isSome ↔ IsInt v := by
  cases v with
  | num q =>
    have hSome : (decodeInt (.num q)).isSome ↔ q.den = 1 ∧ -2 ^ 63 ≤ q.num ∧ q.num < 2 ^ 63 := by
      unfold decodeInt
      split <;> simp_all
    rw [hSome]
    refine ⟨?_, ?_⟩
    · rintro ⟨hDen, hBounds⟩
      exact ⟨q.num, congrArg Json.num (Rat.den_eq_one_iff q |>.mp hDen).symm, hBounds⟩
    · rintro ⟨z, hEq, hBounds⟩
      obtain rfl := Json.num.inj hEq
      exact ⟨Rat.den_intCast z, hBounds⟩
  | _ => simp [decodeInt, IsInt]

/-- Which values decode as an address. -/
theorem decodeAddress_isSome_iff (v : Json) : (decodeAddress v).isSome ↔ IsAddress v := by
  cases v with
  | obj members =>
    have hStreet := decodeIfPresent_isSome_iff decodeString_isSome_iff members "street"
    have hPaon := decodeIfPresent_isSome_iff decodeString_isSome_iff members "paon"
    have hBoth : IsAddress (.obj members) ↔
        OptionalMember IsString members "street" ∧ OptionalMember IsString members "paon" := by
      simp [IsAddress]
    rw [hBoth, ← hStreet, ← hPaon, decodeAddress, decodeKeyed]
    cases decodeIfPresent decodeString members "street" <;>
      cases decodeIfPresent decodeString members "paon" <;> simp
  | _ => simp [decodeAddress, decodeKeyed, IsAddress]

/-- **Which objects are properties.** -/
theorem decodeProperty_isSome_iff (members : List (String × Json)) :
    (decodeProperty (.obj members)).isSome ↔ IsProperty members := by
  have hPrice := decodeIfPresent_isSome_iff decodeInt_isSome_iff members "pricePaid"
  have hAddress := decodeIfPresent_isSome_iff decodeAddress_isSome_iff members "propertyAddress"
  have hDate := decodeIfPresent_isSome_iff decodeString_isSome_iff members "transactionDate"
  have hAll : IsProperty members ↔ OptionalMember IsInt members "pricePaid" ∧
      OptionalMember IsAddress members "propertyAddress" ∧
      OptionalMember IsString members "transactionDate" :=
    ⟨fun h => ⟨h.pricePaid, h.propertyAddress, h.transactionDate⟩, fun h => ⟨h.1, h.2.1, h.2.2⟩⟩
  rw [hAll, ← hPrice, ← hAddress, ← hDate, decodeProperty, decodeKeyed]
  cases decodeIfPresent decodeInt members "pricePaid" <;>
    cases decodeIfPresent decodeAddress members "propertyAddress" <;>
      cases decodeIfPresent decodeString members "transactionDate" <;> simp

-- ---------------------------------------------------------------------------
-- Rows
-- ---------------------------------------------------------------------------

structure PropertyTableViewCell where
  addressLabel : String
  priceLabel : String
  transactionDateLabel : Option String
  deriving DecidableEq, Repr

/-- A decimal number with points between groups of three digits. -/
def formattedPrice (price : ℤ) : String :=
  (if price < 0 then "-" else "") ++
    String.ofList (List.intercalate ['.']
      ((toString price.natAbs).toList.reverse.toChunks 3)).reverse

/-- `tableView(_:cellForRowAt:)` for a property. -/
def cellForRowAt (property : Property) : PropertyTableViewCell :=
  let address := property.propertyAddress
  { addressLabel :=
      (address.bind Address.paon).getD "" ++ " - " ++ (address.bind Address.street).getD ""
    priceLabel := formattedPrice (property.pricePaid.getD (-1)) ++ " £"
    transactionDateLabel := property.transactionDate }

-- ---------------------------------------------------------------------------
-- The controller
-- ---------------------------------------------------------------------------

/-- The controller once its view is loaded. -/
structure PropertyTable extends PropertyTableViewController where
  properties : List Property
  isAnimating : Bool
  alerts : List String
  /-- the rows since the table was last loaded -/
  rows : List PropertyTableViewCell
  deriving DecidableEq, Repr

namespace PropertyTable

def viewDidLoad (controller : PropertyTableViewController) : PropertyTable where
  toPropertyTableViewController := controller
  properties := []
  isAnimating := true
  alerts := []
  rows := []

/-- The request `viewDidLoad` starts, if any. -/
def endpoint (t : PropertyTable) : Option PropertyAPI :=
  if t.postCode.isEmpty then none else some (.postCodeSpecific t.postCode)

def alert (title : String) (t : PropertyTable) : PropertyTable :=
  { t with alerts := t.alerts ++ [title] }

/-- The block dispatched to the main queue. -/
def reloadData (t : PropertyTable) : PropertyTable :=
  { t with rows := t.properties.map cellForRowAt, isAnimating := false }

/-- The completion that `viewDidLoad` hands to `getPropertyData`. -/
def loaded (t : PropertyTable) : PropertyTable :=
  if t.properties.length > 0 then t.reloadData
  else { t.alert "No Data" with isAnimating := false }

/-- `getPropertyData`, once its data task ends. -/
def getPropertyData (reply : Reply) (t : PropertyTable) :
    PropertyTable :=
  match performNetworkTask (decodeArray decodeProperty) reply with
  | .error => t.alert "Unresponsive Backend"
  | .response properties => { t with properties := properties }.loaded
  | .nothing | .notCalled => t

variable {t : PropertyTable} {reply : Reply} {properties : List Property}

/-- A failure is reported, and nothing listed. -/
theorem getPropertyData_error
    (h : performNetworkTask (decodeArray decodeProperty) reply = .error) :
    t.getPropertyData reply = t.alert "Unresponsive Backend" := by
  rw [getPropertyData, h]

/-- A row for each property; without any there is an alert instead. -/
theorem getPropertyData_ok
    (h : performNetworkTask (decodeArray decodeProperty) reply = .response properties) :
    (t.getPropertyData reply).isAnimating = false ∧
      (t.getPropertyData reply).properties = properties ∧
      (t.getPropertyData reply).rows =
        (if properties = [] then t.rows else properties.map cellForRowAt) ∧
      (t.getPropertyData reply).alerts =
        t.alerts ++ if properties = [] then ["No Data"] else [] := by
  rw [getPropertyData, h]
  cases properties with
  | nil => exact ⟨rfl, rfl, rfl, rfl⟩
  | cons property rest => exact ⟨rfl, rfl, rfl, (List.append_nil _).symm⟩

end PropertyTable

end PriceMap.IOS

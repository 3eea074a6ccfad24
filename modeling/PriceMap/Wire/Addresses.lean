import PriceMap.IOS.Properties
import PriceMap.Wire.Requests

/-!
# The transactions between the registry and the clients

The backend looks a postcode up in the registry and passes on three members of
each record. Android asks for the postcode as it is on the marker, iOS for its
lower-case form, which the backend undoes.

* `get_listed` — both apps are answered with the same records.
* `addressEntry_members`, `decodeProperty_members` — neither app misses what is
  left out of a record.
* `transactions_accepted_iff` — Android lists each of them, iOS all or none.
-/

namespace PriceMap.Wire

open Backend

variable {ε : Type*} {server : Server ε} {postcode : String}

-- ---------------------------------------------------------------------------
-- Postcodes
-- ---------------------------------------------------------------------------

/-- A postcode as it is stored: letters, in upper case, digits and spaces. -/
structure StoredPostcode (postcode : String) : Prop where
  nonempty : postcode.toList ≠ []
  chars : ∀ c ∈ postcode.toList, c.isUpper = true ∨ c.isDigit = true ∨ c = ' '

/-- Such a text is a segment once its spaces are escaped. -/
theorem literal_of_alphanum (hne : postcode.toList ≠ [])
    (hChars : ∀ c ∈ postcode.toList, c.isAlphanum = true ∨ c = ' ') : Literal postcode := by
  refine ⟨hne, fun c hc => (hChars c hc).symm.imp_right fun hAlphanum => ⟨?_, ?_⟩⟩
  · rw [pathChar, hAlphanum, Bool.true_or]
  · rintro rfl
    exact absurd hAlphanum (by decide)

/-- A stored postcode has letters, digits and blanks. -/
theorem StoredPostcode.alphanum (h : StoredPostcode postcode) :
    ∀ c ∈ postcode.toList, c.isAlphanum = true ∨ c = ' ' := by
  intro c hc
  rcases h.chars c hc with hUpper | hDigit | hSpace
  · exact Or.inl ((Bool.or_eq_true ..).mpr (Or.inl ((Bool.or_eq_true ..).mpr (Or.inl hUpper))))
  · exact Or.inl ((Bool.or_eq_true ..).mpr (Or.inr hDigit))
  · exact Or.inr hSpace

/-- It survives the way through the path. -/
theorem StoredPostcode.literal (h : StoredPostcode postcode) : Literal postcode :=
  literal_of_alphanum h.nonempty h.alphanum

/-- Lower case is taken letter by letter. -/
theorem toList_toLower (s : String) : s.toLower.toList = s.toList.map Char.toLower := by
  unfold String.toLower
  exact String.toList_map

/-- Lower case keeps letters and digits. -/
theorem isAlphanum_toLower {c : Char} (h : c.isAlphanum = true) : c.toLower.isAlphanum = true := by
  unfold Char.toLower
  split
  · next hUpper =>
    have hShift : ('a'.val - 'A'.val).toNat = 32 := rfl
    have hA : 65 ≤ c.val.toNat := UInt32.le_iff_toNat_le.mp hUpper.1
    have hZ : c.val.toNat ≤ 90 := UInt32.le_iff_toNat_le.mp hUpper.2
    have hCode : (c.val + ('a'.val - 'A'.val)).toNat = c.val.toNat + 32 := by
      rw [UInt32.toNat_add, hShift]
      omega
    have hLow : 'a'.val ≤ c.val + ('a'.val - 'A'.val) := by
      rw [UInt32.le_iff_toNat_le, hCode]
      exact Nat.add_le_add_right hA 32
    have hHigh : c.val + ('a'.val - 'A'.val) ≤ 'z'.val := by
      rw [UInt32.le_iff_toNat_le, hCode]
      exact Nat.add_le_add_right hZ 32
    have hLower : ∀ d : Char, d.val = c.val + ('a'.val - 'A'.val) → d.isLower = true := by
      intro d hd
      exact (Bool.and_eq_true ..).mpr
        ⟨decide_eq_true (hd ▸ hLow), decide_eq_true (hd ▸ hHigh)⟩
    exact (Bool.or_eq_true ..).mpr (Or.inl ((Bool.or_eq_true ..).mpr (Or.inr (hLower _ rfl))))
  · exact h

/-- Lower case, it is a segment as well. -/
theorem StoredPostcode.literal_toLower (h : StoredPostcode postcode) :
    Literal postcode.toLower := by
  refine literal_of_alphanum ?_ ?_
  · rw [toList_toLower]
    exact fun hNil => h.nonempty (List.map_eq_nil_iff.mp hNil)
  · rw [toList_toLower]
    intro d hd
    obtain ⟨c, hc, rfl⟩ := List.mem_map.mp hd
    rcases h.alphanum c hc with hAlphanum | rfl
    · exact Or.inl (isAlphanum_toLower hAlphanum)
    · exact Or.inr (by decide)

-- ---------------------------------------------------------------------------
-- What the backend answers
-- ---------------------------------------------------------------------------

/-- The records that the paging loop reads of `n` pages. -/
def listed (pages : ℕ → List Record) (n : ℕ) : List Record :=
  if n = 0 then [] else pages 0 ++ Lib.firstPages pages (min n 49)

/-- The registry holds `count` pages of records of each stored postcode, and
upper case is what it is for letters without accents. -/
structure Registered (server : Server ε) (pages : String → ℕ → List Record)
    (count : String → ℕ) : Prop where
  upper : ∀ postcode, StoredPostcode postcode → server.node.toUpperCase postcode = postcode ∧
    server.node.toUpperCase postcode.toLower = postcode
  serves : ∀ postcode, StoredPostcode postcode → Serves server.node postcode (pages postcode)
  count : ∀ postcode, StoredPostcode postcode → Lib.PagesBelow (pages postcode) (count postcode)

/-- What is sent of a record. -/
def sent (record : Record) : Record := record.transaction.members

def listedResponse (records : List Record) : List Json :=
  records.map fun record => .obj (sent record)

variable {pages : String → ℕ → List Record} {count : String → ℕ}

/-- Whatever way a stored postcode is written. -/
theorem getPostcodeData_listed (hRegistered : Registered server pages count)
    (hPostcode : StoredPostcode postcode) {s : String}
    (hUpper : server.node.toUpperCase s = postcode) :
    ApiController.getPostcodeData server.node (some s) =
      ⟨200, .json (.arr (listedResponse (listed (pages postcode) (count postcode))))⟩ := by
  have hTwice : server.node.toUpperCase (server.node.toUpperCase s) = postcode := by
    rw [hUpper]
    exact (hRegistered.upper postcode hPostcode).1
  have hServes : Serves server.node
      (server.node.toUpperCase (server.node.toUpperCase s)) (pages postcode) := by
    rw [hTwice]
    exact hRegistered.serves postcode hPostcode
  have hAll := getAllFromPostcode_eq hServes (hRegistered.count postcode hPostcode)
  simp only [ApiController.getPostcodeData, getPostcodeData, hAll, listedResponse, List.map_map]
  rfl

/-- The path of an endpoint of the iOS app, with its spaces escaped. -/
def endpointPath (endpoint : IOS.PropertyAPI) : String :=
  "/api" ++ String.ofList (escapeSpaces endpoint.path.toList)

/-- iOS asks for the postcode in lower case. -/
theorem endpointPath_postCodeSpecific (postcode : String) :
    endpointPath (.postCodeSpecific postcode) = addressesPath postcode.toLower := by
  rw [← String.toList_inj]
  simp [endpointPath, addressesPath, IOS.PropertyAPI.path, escapeSpaces]

/-- **Both apps get the transactions of the postcode.** -/
theorem get_listed (hRegistered : Registered server pages count)
    (hPostcode : StoredPostcode postcode) :
    server.get (addressesPath postcode) =
        .ok ⟨200, .json (.arr (listedResponse (listed (pages postcode) (count postcode))))⟩ ∧
      server.get (endpointPath (.postCodeSpecific postcode)) =
        .ok ⟨200, .json (.arr (listedResponse (listed (pages postcode) (count postcode))))⟩ := by
  obtain ⟨hUpper, hLower⟩ := hRegistered.upper postcode hPostcode
  refine ⟨?_, ?_⟩
  · rw [get_addressesPath server hPostcode.literal,
      getPostcodeData_listed hRegistered hPostcode hUpper]
  · rw [endpointPath_postCodeSpecific, get_addressesPath server hPostcode.literal_toLower,
      getPostcodeData_listed hRegistered hPostcode hLower]

-- ---------------------------------------------------------------------------
-- What the clients read of a record
-- ---------------------------------------------------------------------------

/-- What is sent of a record are the fields that are read. -/
theorem member_sent (record : Record) :
    Json.member (sent record) "pricePaid" = Json.member record "pricePaid" ∧
      Json.member (sent record) "propertyAddress" = Json.member record "propertyAddress" ∧
      Json.member (sent record) "transactionDate" = Json.member record "transactionDate" := by
  unfold sent Record.transaction Transaction.members
  cases Json.member record "pricePaid" <;> cases Json.member record "propertyAddress" <;>
    cases Json.member record "transactionDate" <;> exact ⟨rfl, rfl, rfl⟩

/-- Android does not miss what is left out. -/
theorem addressEntry_sent (record : Record) :
    Android.addressEntry (sent record) = Android.addressEntry record := by
  obtain ⟨hPrice, hAddress, hDate⟩ := member_sent record
  simp only [Android.addressEntry, Android.getJSONObject, Android.getDouble, Android.getString,
    Android.get, hPrice, hAddress, hDate]

/-- Neither does iOS. -/
theorem decodeProperty_sent (record : Record) :
    IOS.decodeProperty (.obj (sent record)) = IOS.decodeProperty (.obj record) := by
  obtain ⟨hPrice, hAddress, hDate⟩ := member_sent record
  simp only [IOS.decodeProperty, IOS.decodeKeyed, IOS.decodeIfPresent, hPrice, hAddress, hDate]

/-- Android lists every record. -/
theorem onResponse_listedResponse (records : List Record) :
    Android.onResponse Android.addressEntry (listedResponse records) =
      .ok (records.map Android.addressEntry) := by
  have hObjects : listedResponse records = (records.map sent).map .obj := by
    rw [listedResponse, List.map_map]
    rfl
  rw [hObjects, Android.onResponse_objects, List.map_map]
  exact congrArg Except.ok (List.map_congr_left fun record _ => addressEntry_sent record)

-- ---------------------------------------------------------------------------
-- The table of iOS
-- ---------------------------------------------------------------------------

/-- What a data task makes of an answer. The messages of the controllers and the
pages of Express are no JSON. -/
def replyOf : Except ℕ Response → IOS.Reply
  | .ok ⟨_, .json value⟩ => ⟨some (some value), true, false⟩
  | .ok ⟨_, .message _⟩ | .error _ => ⟨some none, true, false⟩

/-- A body that decodes is a response. -/
theorem performNetworkTask_json {α : Type} (decode : Json → Option α) (value : Json) :
    IOS.performNetworkTask decode (replyOf (.ok ⟨200, .json value⟩)) =
      match decode value with
      | some decoded => .response decoded
      | none => .error := by
  unfold IOS.performNetworkTask replyOf
  simp only [Bool.false_eq_true, if_false, Option.bind_some]
  cases decode value <;> rfl

theorem performNetworkTask_message {α : Type} (decode : Json → Option α) (status : ℕ)
    (text : String) :
    IOS.performNetworkTask decode (replyOf (.ok ⟨status, .message text⟩)) = .error := rfl

/-- The table of a controller, once the backend has answered. -/
noncomputable def propertyTable (server : Server ε)
    (controller : IOS.PropertyTableViewController) : IOS.PropertyTable :=
  let t := IOS.PropertyTable.viewDidLoad controller
  match t.endpoint with
  | none => t
  | some endpoint => t.getPropertyData (replyOf (server.get (endpointPath endpoint)))

/-- The table asks once, with the path of its postcode. -/
theorem propertyTable_eq (hPostcode : StoredPostcode postcode) :
    propertyTable server ⟨postcode⟩ =
      (IOS.PropertyTable.viewDidLoad ⟨postcode⟩).getPropertyData
        (replyOf (server.get (endpointPath (.postCodeSpecific postcode)))) := by
  have hEndpoint : (IOS.PropertyTable.viewDidLoad ⟨postcode⟩).endpoint =
      some (.postCodeSpecific postcode) := by
    refine if_neg fun hEmpty => hPostcode.nonempty ?_
    rw [show postcode = "" from String.isEmpty_iff.mp hEmpty]
    rfl
  rw [propertyTable]
  simp only [hEndpoint]

/-- A row for each record, in order, and no spinner. -/
structure ListsAll (records : List Record) (t : IOS.PropertyTable) : Prop where
  properties : List.Forall₂ (fun record property =>
    IOS.decodeProperty (.obj record) = some property) records t.properties
  rows : t.rows = t.properties.map IOS.cellForRowAt
  isAnimating : t.isAnimating = false

/-- The table shows nothing and keeps its spinner. -/
structure Fails (t : IOS.PropertyTable) : Prop where
  rows : t.rows = []
  alerts : t.alerts = ["Unresponsive Backend"]
  isAnimating : t.isAnimating = true

/-- Records that all decode are all listed. -/
theorem listsAll_of_isProperty {records : List Record} (t : IOS.PropertyTable)
    (hRows : t.rows = []) (h : ∀ record ∈ records, IOS.IsProperty record) :
    ListsAll records
      (t.getPropertyData (replyOf (.ok ⟨200, .json (.arr (listedResponse records))⟩))) := by
  have hEach : ∀ record ∈ records, IOS.decodeProperty (.obj (sent record)) =
      some ((IOS.decodeProperty (.obj record)).getD ⟨none, none, none⟩) := by
    intro record hRecord
    rw [decodeProperty_sent]
    obtain ⟨property, hProperty⟩ := Option.isSome_iff_exists.mp
      ((IOS.decodeProperty_isSome_iff record).mpr (h record hRecord))
    rw [hProperty, Option.getD_some]
  have hDecoded : IOS.decodeArray IOS.decodeProperty (.arr (listedResponse records)) =
      some (records.map fun record => (IOS.decodeProperty (.obj record)).getD ⟨none, none, none⟩) :=
    IOS.decodeArray_some hEach
  have hTask := performNetworkTask_json (IOS.decodeArray IOS.decodeProperty)
    (.arr (listedResponse records))
  rw [hDecoded] at hTask
  obtain ⟨hStopped, hProperties, hLoaded, -⟩ :=
    IOS.PropertyTable.getPropertyData_ok (t := t) hTask
  refine ⟨?_, ?_, hStopped⟩
  · rw [hProperties, List.forall₂_map_right_iff, List.forall₂_same]
    intro record hRecord
    exact (decodeProperty_sent record).symm.trans (hEach record hRecord)
  · rw [hLoaded, hProperties, hRows]
    split
    · next hNil => rw [hNil, List.map_nil]
    · rfl

/-- One record that does not decode fails the table. -/
theorem fails_of_not_isProperty {records : List Record} {record : Record}
    (hRecord : record ∈ records) (h : ¬ IOS.IsProperty record) :
    Fails ((IOS.PropertyTable.viewDidLoad ⟨postcode⟩).getPropertyData
      (replyOf (.ok ⟨200, .json (.arr (listedResponse records))⟩))) := by
  have hNone : IOS.decodeProperty (.obj (sent record)) = none := by
    rw [decodeProperty_sent, ← Option.not_isSome_iff_eq_none, IOS.decodeProperty_isSome_iff]
    exact h
  have hDecoded : IOS.decodeArray IOS.decodeProperty (.arr (listedResponse records)) = none :=
    IOS.decodeArray_none (List.mem_map_of_mem hRecord) hNone
  have hTask := performNetworkTask_json (IOS.decodeArray IOS.decodeProperty)
    (.arr (listedResponse records))
  rw [hDecoded] at hTask
  rw [IOS.PropertyTable.getPropertyData_error hTask]
  exact ⟨rfl, rfl, rfl⟩

/-- The same over the registry. -/
theorem fails_propertyTable (hRegistered : Registered server pages count)
    (hPostcode : StoredPostcode postcode) {record : Record}
    (hRecord : record ∈ listed (pages postcode) (count postcode)) (h : ¬ IOS.IsProperty record) :
    Fails (propertyTable server ⟨postcode⟩) := by
  rw [propertyTable_eq hPostcode, (get_listed hRegistered hPostcode).2]
  exact fails_of_not_isProperty hRecord h

/-- One record that is no property keeps the whole list away. -/
theorem listsAll_propertyTable_iff (hRegistered : Registered server pages count)
    (hPostcode : StoredPostcode postcode) :
    ListsAll (listed (pages postcode) (count postcode)) (propertyTable server ⟨postcode⟩) ↔
      ∀ record ∈ listed (pages postcode) (count postcode), IOS.IsProperty record := by
  refine ⟨fun h => ?_, fun h => ?_⟩
  · by_contra hNot
    obtain ⟨record, hRecord, hNot⟩ : ∃ record ∈ listed (pages postcode) (count postcode),
        ¬ IOS.IsProperty record := by simpa using hNot
    have hFails := (fails_propertyTable hRegistered hPostcode hRecord hNot).isAnimating
    rw [h.isAnimating] at hFails
    cases hFails
  · rw [propertyTable_eq hPostcode, (get_listed hRegistered hPostcode).2]
    exact listsAll_of_isProperty _ rfl h

/-- **Android lists every transaction, iOS all or none.** -/
theorem transactions_accepted_iff (server : Server ε) (pages : String → ℕ → List Record)
    (count : String → ℕ) (postcode : String) (hRegistered : Registered server pages count)
    (hPostcode : StoredPostcode postcode) :
    (∃ response, server.get (addressesPath postcode) = .ok ⟨200, .json (.arr response)⟩ ∧
      Android.onResponse Android.addressEntry response =
        .ok ((listed (pages postcode) (count postcode)).map Android.addressEntry)) ∧
    (ListsAll (listed (pages postcode) (count postcode)) (propertyTable server ⟨postcode⟩) ↔
      ∀ record ∈ listed (pages postcode) (count postcode), IOS.IsProperty record) ∧
    ((∃ record ∈ listed (pages postcode) (count postcode), ¬ IOS.IsProperty record) →
      Fails (propertyTable server ⟨postcode⟩)) := by
  refine ⟨⟨_, (get_listed hRegistered hPostcode).1, onResponse_listedResponse _⟩, ?_, ?_⟩
  · exact listsAll_propertyTable_iff hRegistered hPostcode
  · rintro ⟨record, hRecord, hNot⟩
    exact fails_propertyTable hRegistered hPostcode hRecord hNot

-- ---------------------------------------------------------------------------
-- A registry with one sale
-- ---------------------------------------------------------------------------

/-- A character of a postcode is back in upper case. -/
theorem toUpper_toLower {c : Char} (h : c.isUpper = true ∨ c.isDigit = true ∨ c = ' ') :
    c.toUpper = c ∧ c.toLower.toUpper = c := by
  have hTable : ∀ n < 128, ((Char.ofNat n).isUpper = true ∨ (Char.ofNat n).isDigit = true ∨
      Char.ofNat n = ' ') → (Char.ofNat n).toUpper = Char.ofNat n ∧
        (Char.ofNat n).toLower.toUpper = Char.ofNat n := by decide +kernel
  have hCode : c.toNat < 128 := by
    rcases h with hUpper | hDigit | rfl
    · unfold Char.isUpper at hUpper
      simp only [decide_eq_true_eq, UInt32.le_iff_toNat_le] at hUpper
      exact lt_of_le_of_lt hUpper.2 (by decide)
    · simp only [Char.isDigit, Bool.and_eq_true, decide_eq_true_eq, UInt32.le_iff_toNat_le]
        at hDigit
      exact lt_of_le_of_lt hDigit.2 (by decide)
    · decide
  have hChar := hTable c.toNat hCode
  rw [Char.ofNat_toNat] at hChar
  exact hChar h

/-- A postcode is back in upper case. -/
theorem StoredPostcode.toUpper (h : StoredPostcode postcode) :
    postcode.toUpper = postcode ∧ postcode.toLower.toUpper = postcode := by
  have hSame : ∀ f : Char → Char, (∀ c ∈ postcode.toList, f c = c) →
      postcode.toList.map f = postcode.toList := by
    intro f hf
    rw [List.map_congr_left hf, List.map_id']
  refine ⟨?_, ?_⟩
  · rw [← String.toList_inj, String.toUpper, String.toList_map]
    exact hSame _ fun c hc => (toUpper_toLower (h.chars c hc)).1
  · rw [← String.toList_inj, String.toUpper, String.toList_map, toList_toLower, List.map_map]
    exact hSame _ fun c hc => (toUpper_toLower (h.chars c hc)).2

def oneSaleServer : Server Empty where
  express := documentedExpress
  models _ _ := .ok []
  findPostcode _ := .ok []
  node := oneSale
  getPostcodesNearAround _ _ := .ok (.arr [])

/-- The server sends what the registry holds. -/
theorem oneSaleServer_registered :
    Registered oneSaleServer (fun _ => oneSalePages) fun _ => 1 where
  upper _ h := h.toUpper
  serves postcode _ := oneSale_serves postcode
  count _ _ := oneSale_pages

theorem storedPostcode_brighton : StoredPostcode "BN1 7JJ" := by
  have hAll : "BN1 7JJ".toList.all (fun c => c.isUpper || c.isDigit || c == ' ') = true := by
    decide
  refine ⟨by decide, fun c hc => ?_⟩
  simpa [or_assoc] using List.all_eq_true.mp hAll c hc

theorem transactions_accepted_iff_sale :
    (∃ response, oneSaleServer.get (addressesPath "BN1 7JJ") =
        .ok ⟨200, .json (.arr response)⟩ ∧
      Android.onResponse Android.addressEntry response =
        .ok ((listed oneSalePages 1).map Android.addressEntry)) ∧
    (ListsAll (listed oneSalePages 1) (propertyTable oneSaleServer ⟨"BN1 7JJ"⟩) ↔
      ∀ record ∈ listed oneSalePages 1, IOS.IsProperty record) ∧
    ((∃ record ∈ listed oneSalePages 1, ¬ IOS.IsProperty record) →
      Fails (propertyTable oneSaleServer ⟨"BN1 7JJ"⟩)) :=
  transactions_accepted_iff oneSaleServer _ _ "BN1 7JJ" oneSaleServer_registered
    storedPostcode_brighton

end PriceMap.Wire

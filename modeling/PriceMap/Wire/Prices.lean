import PriceMap.Android.Connections
import PriceMap.Backend.PricesRequest
import PriceMap.IOS.Records

/-!
# The price records between the backend and its clients

One encoder, `getPricesAtAround` with its controller, and two decoders:
Android's `parseMarkerResponse` fills in a default where a field is missing or
malformed, iOS's synthesised decoding of `[PostCode]` rejects the whole array.
The coordinates are sent as strings, which both read back; the price is sent
as it is stored, and iOS wants a string.

* `prices_accepted_iff` — both clients get one record for each document if and
  only if no stored price is a number.
-/

namespace PriceMap.Wire

open Backend

variable {K : Type*} [Field K] [LinearOrder K] {ε : Type*}

-- ---------------------------------------------------------------------------
-- Android
-- ---------------------------------------------------------------------------

/-- Nothing visible is trimmed. -/
theorem dropWhile_visible {cs : List Char} (h : ∀ c ∈ cs, ' ' < c) :
    cs.dropWhile (· ≤ ' ') = cs := by
  cases cs with
  | nil => rfl
  | cons c rest =>
    have hc : ¬ c ≤ ' ' := Char.not_le.mpr (h c (List.mem_cons_self ..))
    simp [hc]

/-- `Double.valueOf` reads a numeral as it stands. -/
theorem doubleValueOf_eq {s : String} {q : ℚ} (h : parseDecimal s = some q) :
    Android.doubleValueOf s = some (.finite q) := by
  obtain ⟨hne, hChars⟩ := chars_of_parseDecimal h
  have hTrimmed : ((s.toList.dropWhile (· ≤ ' ')).reverse.dropWhile (· ≤ ' ')) =
      s.toList.reverse := by
    rw [dropWhile_visible fun c hc => (hChars c hc).visible,
      dropWhile_visible fun c hc => (hChars c (List.mem_reverse.mp hc)).visible]
  obtain ⟨c, rest, hRest⟩ := List.exists_cons_of_ne_nil (List.reverse_ne_nil_iff.mpr hne)
  have hLast : NumeralChar c := hChars c (List.mem_reverse.mp (hRest ▸ List.mem_cons_self ..))
  have hSuffix : ¬ (c = 'd' ∨ c = 'D' ∨ c = 'f' ∨ c = 'F') := by
    rintro (rfl | rfl | rfl | rfl) <;> rcases hLast with hDigit | hOther <;>
      first | exact absurd hDigit (by decide) | exact absurd hOther (by decide)
  have hString : String.ofList (c :: rest).reverse = s := by
    rw [← hRest, List.reverse_reverse, String.ofList_toList]
  unfold Android.doubleValueOf
  simp only [hTrimmed, hRest]
  rw [if_neg hSuffix, Android.numeral, hString, h]
  rfl

/-- The marker of a document. -/
theorem markerEntry_priceMembers (d : Document Decimal) :
    (Android.markerEntry (priceMembers d)).postcode = d._id ∧
      (Android.markerEntry (priceMembers d)).lat = .finite d.Latitude.value ∧
      (Android.markerEntry (priceMembers d)).lon = .finite d.Longitude.value := by
  have hPostcode : Json.member (priceMembers d) "postcode" = some (.str d._id) := by
    unfold priceMembers
    cases d.Average_price <;> rfl
  have hLatitude : Json.member (priceMembers d) "latitude" = some (.str d.Latitude.text) := by
    unfold priceMembers
    cases d.Average_price <;> rfl
  have hLongitude : Json.member (priceMembers d) "longitude" = some (.str d.Longitude.text) := by
    unfold priceMembers
    cases d.Average_price <;> rfl
  refine ⟨?_, ?_, ?_⟩ <;>
    simp [Android.markerEntry, Android.getString, Android.getDouble, Android.get, hPostcode,
      hLatitude, hLongitude, doubleValueOf_eq (Decimal.parseDecimal_text _), Android.orElse, bind,
      Except.bind, pure, Except.pure]

-- ---------------------------------------------------------------------------
-- iOS
-- ---------------------------------------------------------------------------

/-- What iOS makes of a document whose price is not a number. -/
def postCodeOf (d : Document Decimal) : IOS.PostCode where
  price :=
    match d.Average_price with
    | .string s => some s
    | _ => none
  postcode := some d._id
  latitude := some d.Latitude.text
  longitude := some d.Longitude.text

/-- Only a price that is a number does not decode. -/
theorem decodePostCode_priceRecord (d : Document Decimal) :
    IOS.decodePostCode (priceRecord d) =
      match d.Average_price with
      | .number _ => none
      | _ => some (postCodeOf d) := by
  unfold priceRecord priceMembers postCodeOf
  cases d.Average_price <;> rfl

-- ---------------------------------------------------------------------------
-- Both
-- ---------------------------------------------------------------------------

/-- Android makes one marker of each document, in order. -/
def AndroidAccepts (rows : List (Document Decimal)) (response : List Json) : Prop :=
  ∃ markers, Android.onResponse Android.markerEntry response = .ok markers ∧
    (markers.map fun m => (m.postcode, m.lat, m.lon)) =
      rows.map fun d => (d._id, .finite d.Latitude.value, .finite d.Longitude.value)

/-- iOS makes one record of each document, in order. -/
def IOSAccepts (rows : List (Document Decimal)) (response : List Json) : Prop :=
  ∃ postCodes, IOS.decodeArray IOS.decodePostCode (.arr response) = some postCodes ∧
    (postCodes.map fun p => (p.postcode, p.latitude.bind parseDecimal,
      p.longitude.bind parseDecimal)) =
      rows.map fun d => (some d._id, some d.Latitude.value, some d.Longitude.value)

/-- Android makes a marker of every row. -/
theorem androidAccepts (rows : List (Document Decimal)) :
    AndroidAccepts rows (rows.map priceRecord) := by
  have hObjects : rows.map priceRecord = (rows.map priceMembers).map .obj := by
    rw [List.map_map]
    rfl
  refine ⟨_, by rw [hObjects, Android.onResponse_objects], ?_⟩
  rw [List.map_map, List.map_map]
  refine List.map_congr_left fun d _ => ?_
  obtain ⟨hPostcode, hLat, hLon⟩ := markerEntry_priceMembers d
  simp [hPostcode, hLat, hLon]

/-- iOS accepts the rows exactly if no price is a number. -/
theorem iosAccepts_iff (rows : List (Document Decimal)) :
    IOSAccepts rows (rows.map priceRecord) ↔
      ∀ d ∈ rows, ∀ q, d.Average_price ≠ .number q := by
  refine ⟨?_, ?_⟩
  · rintro ⟨postCodes, hDecoded, -⟩ d hd q hNumber
    have hNone : IOS.decodePostCode (priceRecord d) = none := by
      rw [decodePostCode_priceRecord, hNumber]
    rw [IOS.decodeArray_none (List.mem_map_of_mem hd) hNone] at hDecoded
    cases hDecoded
  · intro h
    have hEach : ∀ d ∈ rows, IOS.decodePostCode (priceRecord d) = some (postCodeOf d) := by
      intro d hd
      rw [decodePostCode_priceRecord]
      split
      · next q hNumber => exact absurd hNumber (h d hd q)
      · rfl
    refine ⟨rows.map postCodeOf, IOS.decodeArray_some hEach, ?_⟩
    rw [List.map_map]
    refine List.map_congr_left fun d _ => ?_
    simp [postCodeOf, Decimal.parseDecimal_text]

/-- **Both clients accept what the backend sends, if and only if no stored
price is a number.** -/
theorem prices_accepted_iff (dbService : DbService K ε) (lat long : Number K) (radius : Radius K)
    (rows : List (Document Decimal)) (hRows : dbService (level radius) lat long radius = .ok rows) :
    (∃ response, ApiController.getPricesAtAround dbService (some lat) (some long) radius =
        ⟨200, .json (.arr response)⟩ ∧ AndroidAccepts rows response ∧ IOSAccepts rows response) ↔
      ∀ d ∈ rows, ∀ q, d.Average_price ≠ .number q := by
  have hSent : ApiController.getPricesAtAround dbService (some lat) (some long) radius =
      ⟨200, .json (.arr (rows.map priceRecord))⟩ := by
    simp only [ApiController.getPricesAtAround, getPricesAtAround_eq, hRows, Except.map]
  rw [← iosAccepts_iff, hSent]
  refine ⟨?_, ?_⟩
  · rintro ⟨response, hResponse, -, hIOS⟩
    obtain rfl : rows.map priceRecord = response := by simpa using hResponse
    exact hIOS
  · intro hIOS
    exact ⟨_, rfl, androidAccepts rows, hIOS⟩

-- ---------------------------------------------------------------------------
-- One stored postcode
-- ---------------------------------------------------------------------------

/-- A database that stores one postcode. -/
def onePostcode (d : Document Decimal) : Collections Decimal where
  postcodeData := [d]
  sector := []
  district := []
  area := []

noncomputable def oneModels (d : Document Decimal) : Models ℝ Empty :=
  (onePostcode d).models fun x => x.value

/-- Nothing else is found in it. -/
theorem eq_of_mem_oneModels {d d' : Document Decimal} {lookup : Lookup} {req : Bracket ℝ}
    {documents : List (Document Decimal)} (h : oneModels d lookup req = .ok documents)
    (hMem : d' ∈ documents) : d' = d := by
  obtain rfl := Except.ok.inj h
  have hStored : d' ∈ lookup.collection (onePostcode d) := List.mem_of_mem_filter hMem
  cases lookup with
  | getPostCodes => exact List.mem_singleton.mp hStored
  | getSectors => cases hStored
  | getDistricts => cases hStored
  | getAreas => cases hStored

/-- A radius below a kilometre finds the postcode at the point it is asked around. -/
theorem oneModels_finds (d : Document Decimal) {radius : ℝ} (hZero : 0 ≤ radius)
    (hOne : radius < 1) :
    oneModels d (level (some (.finite radius)))
      ((level (some (.finite radius))).bracketAt d.Latitude.value d.Longitude.value radius) =
        .ok [d] := by
  have hCentre : (Lookup.getPostCodes.bracketAt d.Latitude.value d.Longitude.value
      radius).contains d.Latitude.value d.Longitude.value = true := by
    rw [Lookup.bracketAt, contains_centre_iff Real.cos _ (cos_ratCast_ne_zero _), ge_scaled,
      Number.ge, decide_eq_true_eq]
    exact hZero
  rw [(level_finite radius).mpr hOne]
  show Except.ok (find _ _ [d]) = _
  rw [find, List.filter_cons, if_pos hCentre, List.filter_nil]

def brighton (price : StoredPrice) : Document Decimal :=
  ⟨"BN1 7JJ", .ofParts 508 (-1), .ofParts (-1) (-1), price⟩

/-- The lookups in a database that stores it. -/
noncomputable def brightonService (price : StoredPrice) : DbService ℝ Empty :=
  dbService Real.cos (oneModels (brighton price))

/-- A radius below a kilometre finds the postcode it is asked around. -/
theorem brightonService_finds (price : StoredPrice) (radius : ℝ) (hZero : 0 ≤ radius)
    (hOne : radius < 1) :
    brightonService price (level (some (.finite radius))) (.finite 50.8) (.finite (-0.1))
      (some (.finite radius)) = .ok [brighton price] := by
  have hLat : ((brighton price).Latitude.value : ℝ) = 50.8 := by
    norm_num [brighton, Decimal.value_ofParts]
  have hLong : ((brighton price).Longitude.value : ℝ) = -0.1 := by
    norm_num [brighton, Decimal.value_ofParts]
  rw [← hLat, ← hLong]
  exact oneModels_finds (brighton price) hZero hOne

/-- A house in Brighton whose price is a number. -/
theorem prices_accepted_fails :
    ¬ ∀ (dbService : DbService ℝ Empty) (lat long : Number ℝ) (radius : Radius ℝ)
      (rows : List (Document Decimal)), dbService (level radius) lat long radius = .ok rows →
      ∃ response, ApiController.getPricesAtAround dbService (some lat) (some long) radius =
        ⟨200, .json (.arr response)⟩ ∧ AndroidAccepts rows response ∧ IOSAccepts rows response := by
  intro h
  have hFound := brightonService_finds (.number 285000) 0.5 (by norm_num) (by norm_num)
  obtain ⟨response, hResponse, -, hIOS⟩ := h _ _ _ _ _ hFound
  obtain rfl : [priceRecord (brighton (.number 285000))] = response := by
    simpa [ApiController.getPricesAtAround, getPricesAtAround_eq, hFound, Except.map]
      using hResponse
  exact (iosAccepts_iff [_]).mp hIOS _ (List.mem_singleton.mpr rfl) 285000 rfl

theorem prices_accepted_iff_string :
    (∃ response, ApiController.getPricesAtAround (brightonService (.string "285000"))
        (some (.finite 50.8)) (some (.finite (-0.1))) (some (.finite 0.5)) =
          ⟨200, .json (.arr response)⟩ ∧
      AndroidAccepts [brighton (.string "285000")] response ∧
      IOSAccepts [brighton (.string "285000")] response) ↔
    ∀ d ∈ [brighton (.string "285000")], ∀ q, d.Average_price ≠ .number q :=
  prices_accepted_iff (brightonService (.string "285000")) (.finite 50.8) (.finite (-0.1))
    (some (.finite 0.5)) _ (brightonService_finds _ _ (by norm_num) (by norm_num))

end PriceMap.Wire

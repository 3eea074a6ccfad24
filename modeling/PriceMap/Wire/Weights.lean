import PriceMap.Android.Screen
import PriceMap.IOS.MapView
import PriceMap.Wire.Prices

/-!
# The heatmaps of the two clients

From one array of price records, both clients make a list of weighted points.
Android's `enableHeatMap` weighs a record by its price, iOS's
`deployMarkerAndHeatmapForProperty` by the remainder of its price modulo 10.

* `weights_ordered_iff` — the weights of iOS are in the order of the prices, and
  of Android's weights, if and only if prices grow by ten with every multiple of
  ten they pass.
-/

namespace PriceMap.Wire

-- ---------------------------------------------------------------------------
-- Orders of weights
-- ---------------------------------------------------------------------------

/-- `weights` belong to the records that `prices` belong to, one each, and are in
the same order. -/
def OrderedAs {α : Type} [LE α] (weights : List ℚ) (prices : List α) : Prop :=
  weights.length = prices.length ∧
    ∀ (i j : ℕ) (p q : α) (v w : ℚ), prices[i]? = some p → prices[j]? = some q →
      weights[i]? = some v → weights[j]? = some w → p ≤ q → v ≤ w

/-- A mapped list is ordered as before if the map keeps the order of its elements. -/
theorem orderedAs_map_iff (f : ℚ → ℚ) (prices : List ℚ) :
    OrderedAs (prices.map f) prices ↔ ∀ p ∈ prices, ∀ q ∈ prices, p ≤ q → f p ≤ f q := by
  have hWeight : ∀ (i : ℕ) (p : ℚ), prices[i]? = some p → (prices.map f)[i]? = some (f p) := by
    intro i p hp
    rw [List.getElem?_map, hp]
    rfl
  refine ⟨fun h p hp q hq hLe => ?_, fun h => ⟨List.length_map f, ?_⟩⟩
  · obtain ⟨i, hi⟩ := List.mem_iff_getElem?.mp hp
    obtain ⟨j, hj⟩ := List.mem_iff_getElem?.mp hq
    exact h.2 i j p q _ _ hi hj (hWeight i p hi) (hWeight j q hj) hLe
  · intro i j p q v w hi hj hv hw hLe
    obtain rfl : f p = v := Option.some.inj ((hWeight i p hi).symm.trans hv)
    obtain rfl : f q = w := Option.some.inj ((hWeight j q hj).symm.trans hw)
    exact h p (List.mem_of_getElem? hi) q (List.mem_of_getElem? hj) hLe

/-- The order of numbers is that of the finite doubles. -/
theorem orderedAs_finite {weights prices : List ℚ} :
    OrderedAs weights (prices.map Android.Double.finite) ↔ OrderedAs weights prices := by
  refine and_congr (by rw [List.length_map]) ⟨fun h i j p q v w hp hq hv hw hLe => ?_,
    fun h i j p q v w hp hq hv hw hLe => ?_⟩
  · refine h i j (.finite p) (.finite q) v w ?_ ?_ hv hw (Android.Double.finite_le_finite.mpr hLe)
    · rw [List.getElem?_map, hp, Option.map_some]
    · rw [List.getElem?_map, hq, Option.map_some]
  · rw [List.getElem?_map] at hp hq
    obtain ⟨x, hx, rfl⟩ := Option.map_eq_some_iff.mp hp
    obtain ⟨y, hy, rfl⟩ := Option.map_eq_some_iff.mp hq
    exact h i j x y v w hx hy hv hw (Android.Double.finite_le_finite.mp hLe)

-- ---------------------------------------------------------------------------
-- Records with a price and a place
-- ---------------------------------------------------------------------------

/-- The record has coordinates, and the price, a number from 0 on. -/
structure Priced (postCode : IOS.PostCode) (q : ℚ) : Prop where
  price : ∃ s, postCode.price = some s ∧ parseDecimal s = some q
  nonneg : 0 ≤ q
  latitude : ∃ s, postCode.latitude = some s ∧ (parseDecimal s).isSome
  longitude : ∃ s, postCode.longitude = some s ∧ (parseDecimal s).isSome

/-- The weights that `deployMarkerAndHeatmapForProperty` adds to the heat layer;
before them are those of what `list` already holds. -/
def iosWeights (s : IOS.MapViewController) : List ℚ :=
  (s.drawPostCodes.heatmapLayer.weightedData.drop s.list.length).map
    IOS.GMUWeightedLatLng.intensity

/-- The weights of the overlay that `enableHeatMap` builds of these markers. -/
def androidWeights (markerList : List Android.DrawnMarker) : List Android.Double :=
  (Android.Screen.heatOverlay markerList).weightedData.map Android.WeightedLatLng.intensity

variable {postCode : IOS.PostCode} {postCodes : List IOS.PostCode} {q : ℚ} {prices : List ℚ}

/-- The weight of a priced record is the remainder of its price by ten. -/
theorem Priced.weightedPostCode (h : Priced postCode q) :
    (IOS.weightedPostCode postCode).map IOS.GMUWeightedLatLng.intensity =
      some (IOS.truncatingRemainder q 10) := by
  obtain ⟨s, hs, hPrice⟩ := h.price
  obtain ⟨latitude, hLatitude, hLat⟩ := h.latitude
  obtain ⟨longitude, hLongitude, hLong⟩ := h.longitude
  obtain ⟨lat, hLat⟩ := Option.isSome_iff_exists.mp hLat
  obtain ⟨long, hLong⟩ := Option.isSome_iff_exists.mp hLong
  simp [IOS.weightedPostCode, hs, hPrice, hLatitude, hLat, hLongitude, hLong]

/-- Record by record. -/
theorem weightedPostCodes_priced (h : List.Forall₂ Priced postCodes prices) :
    (postCodes.filterMap IOS.weightedPostCode).map IOS.GMUWeightedLatLng.intensity =
      prices.map fun p => IOS.truncatingRemainder p 10 := by
  rw [List.map_filterMap]
  induction h with
  | nil => rfl
  | cons hPriced _ ih =>
    simp only [List.filterMap_cons, hPriced.weightedPostCode, ih, List.map_cons]

/-- The weights on the map are those remainders. -/
theorem iosWeights_priced {s : IOS.MapViewController}
    (h : List.Forall₂ Priced s.postCodes prices) :
    iosWeights s = prices.map fun p => IOS.truncatingRemainder p 10 := by
  have hDrawn : s.drawPostCodes.heatmapLayer.weightedData =
      s.list ++ s.postCodes.filterMap IOS.weightedPostCode := rfl
  rw [iosWeights, hDrawn, List.drop_left, weightedPostCodes_priced h]

/-- A price that iOS decodes is a JSON string. -/
theorem member_of_decodePostCode {o : List (String × Json)} {s : String}
    (hDecode : IOS.decodePostCode (.obj o) = some postCode) (hPrice : postCode.price = some s) :
    Json.member o "price" = some (.str s) := by
  obtain ⟨price, hField, hRest⟩ := Option.bind_eq_some_iff.mp hDecode
  obtain ⟨postcode, -, hRest⟩ := Option.bind_eq_some_iff.mp hRest
  obtain ⟨latitude, -, hRest⟩ := Option.bind_eq_some_iff.mp hRest
  obtain ⟨longitude, -, hRest⟩ := Option.bind_eq_some_iff.mp hRest
  obtain rfl : ⟨price, postcode, latitude, longitude⟩ = postCode := Option.some.inj hRest
  obtain rfl : price = some s := hPrice
  unfold IOS.decodeIfPresent at hField
  split at hField
  · cases hField
  · cases hField
  · next value _ hMember =>
    obtain ⟨t, ht, hEq⟩ := Option.map_eq_some_iff.mp hField
    obtain rfl : t = s := Option.some.inj hEq
    cases value with
    | str u =>
      obtain rfl : u = t := Option.some.inj ht
      exact hMember
    | _ => cases ht

/-- Android reads the price iOS reads. -/
theorem Priced.markerEntry {v : Json} (h : Priced postCode q)
    (hDecode : IOS.decodePostCode v = some postCode) :
    ∃ o, v = .obj o ∧ (Android.markerEntry o).price = .finite q := by
  obtain ⟨s, hs, hPrice⟩ := h.price
  cases v with
  | obj o =>
    refine ⟨o, rfl, ?_⟩
    simp [Android.markerEntry, Android.getDouble, Android.get, member_of_decodePostCode hDecode hs,
      doubleValueOf_eq hPrice, Android.orElse, bind, Except.bind, pure, Except.pure]
  | _ => cases hDecode

/-- Android gets the same records, with the same prices. -/
theorem markerEntries_priced {response : List Json}
    (hDecode : List.Forall₂ (fun v x => IOS.decodePostCode v = some x) response postCodes)
    (h : List.Forall₂ Priced postCodes prices) :
    ∃ objects : List (List (String × Json)), response = objects.map .obj ∧
      (objects.map Android.markerEntry).map Android.PostCodeMarker.price =
        prices.map .finite := by
  induction hDecode generalizing prices with
  | nil =>
    cases h
    exact ⟨[], rfl, rfl⟩
  | cons hHead _ ih =>
    cases h with
    | cons hPriced hRest =>
      obtain ⟨o, rfl, hPrice⟩ := hPriced.markerEntry hHead
      obtain ⟨objects, rfl, hPrices⟩ := ih hRest
      exact ⟨o :: objects, rfl, by simp only [List.map_cons, hPrice, hPrices]⟩

/-- Prices are not negative. -/
theorem nonneg_of_priced (h : List.Forall₂ Priced postCodes prices) : ∀ p ∈ prices, 0 ≤ p := by
  induction h with
  | nil => exact fun p hp => absurd hp List.not_mem_nil
  | cons hPriced _ ih => exact List.forall_mem_cons.mpr ⟨hPriced.nonneg, ih⟩

/-- Android weighs by the prices themselves. -/
theorem androidWeights_priced {r : Android.MarkerRequest} {response : List Json}
    {markerList : List Android.DrawnMarker} (hKind : r.connection.kind = .ServerConnection)
    (hIOS : IOS.decodeArray IOS.decodePostCode (.arr response) = some postCodes)
    (hAndroid : Android.Screen.parseMarkers r response = .ok markerList)
    (h : List.Forall₂ Priced postCodes prices) :
    androidWeights markerList = prices.map .finite := by
  obtain ⟨objects, rfl, hPrices⟩ := markerEntries_priced (IOS.forall₂_of_decodeArray hIOS) h
  have hMarkers : (objects.map Android.markerEntry).map (fun m => ⟨m, r⟩) = markerList := by
    rw [Android.Screen.parseMarkers, hKind] at hAndroid
    change (Android.onResponse Android.markerEntry (objects.map .obj)).map _ = _ at hAndroid
    rw [Android.onResponse_objects] at hAndroid
    exact Except.ok.inj hAndroid
  -- the constructor of `WeightedLatLng` keeps a weight that is not negative
  have hKept : ∀ p ∈ prices.map Android.Double.finite, ∀ latLng,
      (Android.weightedLatLng latLng p).intensity = p := by
    intro p hp latLng
    obtain ⟨q, hq, rfl⟩ := List.mem_map.mp hp
    exact if_pos (Android.Double.finite_le_finite.mpr (nonneg_of_priced h q hq))
  rw [← hMarkers, androidWeights, Android.Screen.heatOverlay, List.map_map, List.map_map,
    List.map_map]
  rw [List.map_map] at hPrices
  refine Eq.trans (List.map_congr_left fun o ho => ?_) hPrices
  exact hKept _ (hPrices ▸ List.mem_map_of_mem ho) _

-- ---------------------------------------------------------------------------
-- The order of the remainders
-- ---------------------------------------------------------------------------

/-- The remainders of two prices are in their order, if for every multiple of ten
that the prices pass they grow by ten. -/
theorem truncatingRemainder_le_iff {p : ℚ} (hp : 0 ≤ p) (hq : 0 ≤ q) :
    IOS.truncatingRemainder p 10 ≤ IOS.truncatingRemainder q 10 ↔
      10 * (⌊q / 10⌋ - ⌊p / 10⌋ : ℚ) ≤ q - p := by
  have hFloor : ∀ {x : ℚ}, 0 ≤ x → IOS.truncatingRemainder x 10 = x - 10 * ⌊x / 10⌋ := by
    intro x hx
    rw [IOS.truncatingRemainder, if_pos (by positivity)]
  rw [hFloor hp, hFloor hq]
  constructor <;> intro h <;> linarith

/-- **The heatmap of iOS is in the order of the prices, if these do not pass
multiples of ten in smaller steps.** -/
theorem weights_ordered_iff (s : IOS.MapViewController) (r : Android.MarkerRequest)
    (response : List Json) (markerList : List Android.DrawnMarker) (prices : List ℚ)
    (hKind : r.connection.kind = .ServerConnection)
    (hIOS : IOS.decodeArray IOS.decodePostCode (.arr response) = some s.postCodes)
    (hAndroid : Android.Screen.parseMarkers r response = .ok markerList)
    (hPriced : List.Forall₂ Priced s.postCodes prices) :
    OrderedAs (iosWeights s) prices ∧ OrderedAs (iosWeights s) (androidWeights markerList) ↔
      ∀ p ∈ prices, ∀ q ∈ prices, p ≤ q → 10 * (⌊q / 10⌋ - ⌊p / 10⌋ : ℚ) ≤ q - p := by
  rw [iosWeights_priced hPriced, androidWeights_priced hKind hIOS hAndroid hPriced,
    orderedAs_finite, and_self, orderedAs_map_iff]
  refine forall₂_congr fun p hp => forall₂_congr fun q hq => imp_congr_right fun _ => ?_
  have hNonneg := nonneg_of_priced hPriced
  exact truncatingRemainder_le_iff (hNonneg p hp) (hNonneg q hq)

-- ---------------------------------------------------------------------------
-- A price and the next
-- ---------------------------------------------------------------------------

/-- Records at one place. -/
def sold (price : String) : IOS.PostCode :=
  ⟨some price, some "BN1 7JJ", some "50.8", some "-0.1"⟩

def soldRecord (price : String) : List (String × Json) :=
  [("price", .str price), ("postcode", .str "BN1 7JJ"), ("latitude", .str "50.8"),
    ("longitude", .str "-0.1")]

def refreshed (postCodes : List IOS.PostCode) : IOS.MapViewController :=
  { IOS.MapViewController.viewDidLoad ⟨true⟩ with postCodes := postCodes }

def firstRequest : Android.MarkerRequest := ⟨0, ⟨0, .ServerConnection⟩, 50.8, -0.1, 0.5⟩

theorem priced_sold {price : String} {q : ℚ} (h : parseDecimal price = some q) (hq : 0 ≤ q) :
    Priced (sold price) q :=
  ⟨⟨price, rfl, h⟩, hq, ⟨"50.8", rfl, by decide +kernel⟩, ⟨"-0.1", rfl, by decide +kernel⟩⟩

/-- A cheaper house that weighs more. -/
theorem weights_ordered_fails :
    ¬ ∀ (s : IOS.MapViewController) (r : Android.MarkerRequest) (response : List Json)
      (markerList : List Android.DrawnMarker) (prices : List ℚ),
      r.connection.kind = .ServerConnection →
      IOS.decodeArray IOS.decodePostCode (.arr response) = some s.postCodes →
      Android.Screen.parseMarkers r response = .ok markerList →
      List.Forall₂ Priced s.postCodes prices →
      OrderedAs (iosWeights s) prices ∧
        OrderedAs (iosWeights s) (androidWeights markerList) := by
  intro h
  have hPriced : List.Forall₂ Priced [sold "249999", sold "250000"] [249999, 250000] :=
    .cons (priced_sold (by decide +kernel) (by norm_num))
      (.cons (priced_sold (by decide +kernel) (by norm_num)) .nil)
  have hOrdered := (h (refreshed [sold "249999", sold "250000"]) firstRequest
    ([soldRecord "249999", soldRecord "250000"].map .obj) _ _ rfl rfl rfl hPriced).1
  rw [iosWeights_priced hPriced, orderedAs_map_iff] at hOrdered
  have hLe := hOrdered 249999 (by simp) 250000 (by simp) (by norm_num)
  exact absurd hLe (by decide +kernel)

theorem weights_ordered_iff_decade :
    OrderedAs (iosWeights (refreshed [sold "250001", sold "250008"])) [(250001 : ℚ), 250008] ∧
        OrderedAs (iosWeights (refreshed [sold "250001", sold "250008"]))
          (androidWeights ([soldRecord "250001", soldRecord "250008"].map fun o =>
            ⟨Android.markerEntry o, firstRequest⟩)) ↔
      ∀ p ∈ ([250001, 250008] : List ℚ), ∀ q ∈ ([250001, 250008] : List ℚ), p ≤ q →
        10 * (⌊q / 10⌋ - ⌊p / 10⌋ : ℚ) ≤ q - p :=
  weights_ordered_iff (refreshed [sold "250001", sold "250008"]) firstRequest
    ([soldRecord "250001", soldRecord "250008"].map .obj) _ _ rfl rfl rfl
    (.cons (priced_sold (by decide +kernel) (by norm_num))
      (.cons (priced_sold (by decide +kernel) (by norm_num)) .nil))

end PriceMap.Wire

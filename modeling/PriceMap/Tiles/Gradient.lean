import PriceMap.Lib.Interpolation

/-!
# Heatmap tiles — the gradient

`GMUGradient` of the vendored map utilities: the colours an intensity between
0 and 1 is drawn in, and the table of them that a layer generates. `float` and
`CGFloat` values are taken exactly, and none of them is NaN.

* `initWithColors` — a gradient is made from what its header asks for, and the
  structure keeps that.
* `Shade` — the colour of an intensity, by the start points on either side.
* `colorMap_spec` — the table holds the shades of evenly spread intensities, up
  to the last colour; no read is out of range. Where colours convert, a shade is
  the last of them or lies between its neighbours (`Mixed`), on the shorter way
  round the colour wheel.
-/

namespace PriceMap.Tiles

open Lib

universe u

/-- Hue, saturation, brightness and alpha. -/
structure HSBA (K : Type*) where
  hue : K
  saturation : K
  brightness : K
  alpha : K
  deriving DecidableEq, Repr

/-- All components are from 0 to 1. -/
structure HSBA.Valid {K : Type*} [LE K] [Zero K] [One K] (a : HSBA K) : Prop where
  hue : 0 ≤ a.hue ∧ a.hue ≤ 1
  saturation : 0 ≤ a.saturation ∧ a.saturation ≤ 1
  brightness : 0 ≤ a.brightness ∧ a.brightness ≤ 1
  alpha : 0 ≤ a.alpha ∧ a.alpha ≤ 1

/-- `mid` is the fraction `r` of the way from `a` to `b`; for the hue, of the
shorter way round the wheel. -/
structure HSBA.Mix {K : Type*} [Field K] [LinearOrder K] [FloorRing K] (mid : HSBA K) (r : K)
    (a b : HSBA K) : Prop where
  fromHue : wheelDistance a.hue mid.hue = r * wheelDistance a.hue b.hue
  toHue : wheelDistance mid.hue b.hue = (1 - r) * wheelDistance a.hue b.hue
  saturation : mid.saturation = (1 - r) * a.saturation + r * b.saturation
  brightness : mid.brightness = (1 - r) * a.brightness + r * b.brightness
  alpha : mid.alpha = (1 - r) * a.alpha + r * b.alpha

/-- What the code asks of `UIColor`. -/
structure UIColors (C K : Type*) where
  clearColor : C
  /-- `getHue:saturation:brightness:alpha:`, `none` if the color can't be converted -/
  getHue : C → Option (HSBA K)
  /-- `colorWithHue:saturation:brightness:alpha:` -/
  colorWithHue : HSBA K → C

-- ---------------------------------------------------------------------------
-- Making a gradient
-- ---------------------------------------------------------------------------

/-- The exceptions `initWithColors:startPoints:colorMapSize:` raises. -/
inductive GradientException where
  | sizes (colors startPoints : ℕ)
  | order
  | range
  | mapSize
  deriving DecidableEq, Repr

structure GMUGradient (C K : Type*) [LinearOrder K] [Zero K] [One K] where
  colors : List C
  startPoints : List K
  mapSize : ℕ
  startPoints_ne : startPoints ≠ []
  length_eq : colors.length = startPoints.length
  ordered : startPoints.Pairwise (· ≤ ·)
  inRange : ∀ s ∈ startPoints, 0 ≤ s ∧ s ≤ 1
  two_le : 2 ≤ mapSize

namespace GMUGradient

section Init

variable {C K : Type*} [LinearOrder K] [Zero K] [One K]

/-- In order, the first and the last bound all. -/
theorem inRange_of_ends {startPoints : List K} (hOrder : startPoints.IsChain (· ≤ ·))
    (hne : startPoints ≠ []) (hFirst : 0 ≤ startPoints.head hne)
    (hLast : startPoints.getLast hne ≤ 1) : ∀ s ∈ startPoints, 0 ≤ s ∧ s ≤ 1 := by
  rw [List.isChain_iff_pairwise] at hOrder
  exact fun s hs => ⟨hFirst.trans (hOrder.rel_head hs), (hOrder.rel_getLast hs).trans hLast⟩

/-- `initWithColors:startPoints:colorMapSize:` -/
def initWithColors (colors : List C) (startPoints : List K) (mapSize : ℕ) :
    Except GradientException (GMUGradient C K) :=
  if hSizes : colors.length = 0 ∨ colors.length ≠ startPoints.length then
    .error (.sizes colors.length startPoints.length)
  else
    have hne : startPoints ≠ [] := by
      rintro rfl
      exact hSizes (by rw [List.length_nil]; omega)
    if hOrder : ¬ startPoints.IsChain (· ≤ ·) then .error .order
    else if hRange : startPoints.head hne < 0 ∨ 1 < startPoints.getLast hne then .error .range
    else if hSize : mapSize < 2 then .error .mapSize
    else .ok
      { colors, startPoints, mapSize
        startPoints_ne := hne
        length_eq := not_not.mp fun h => hSizes (Or.inr h)
        ordered := List.isChain_iff_pairwise.mp (not_not.mp hOrder)
        inRange := inRange_of_ends (not_not.mp hOrder) hne
          (not_lt.mp fun h => hRange (Or.inl h)) (not_lt.mp fun h => hRange (Or.inr h))
        two_le := not_lt.mp hSize }

/-- What the header asks for is accepted. -/
theorem initWithColors_of (colors : List C) (startPoints : List K) (mapSize : ℕ)
    (hColors : colors ≠ []) (hne : startPoints ≠ []) (hLength : colors.length = startPoints.length)
    (hOrder : startPoints.Pairwise (· ≤ ·)) (hRange : ∀ s ∈ startPoints, 0 ≤ s ∧ s ≤ 1)
    (hSize : 2 ≤ mapSize) :
    ∃ g, initWithColors colors startPoints mapSize = .ok g ∧ g.colors = colors ∧
      g.startPoints = startPoints ∧ g.mapSize = mapSize := by
  have hSizes : ¬ (colors.length = 0 ∨ colors.length ≠ startPoints.length) := by
    rw [List.length_eq_zero_iff]
    exact fun h => h.elim hColors fun hNot => hNot hLength
  have hEnds : ¬ (startPoints.head hne < 0 ∨ 1 < startPoints.getLast hne) := by
    rw [not_or, not_lt, not_lt]
    exact ⟨(hRange _ (List.head_mem hne)).1, (hRange _ (List.getLast_mem hne)).2⟩
  rw [initWithColors, dif_neg hSizes, dif_neg (not_not.mpr (List.isChain_iff_pairwise.mpr hOrder)),
    dif_neg hEnds, dif_neg (not_lt.mpr hSize)]
  exact ⟨_, rfl, rfl, rfl, rfl⟩

end Init

-- ---------------------------------------------------------------------------
-- Interpolating colours
-- ---------------------------------------------------------------------------

variable {C K : Type u} [Field K] [LinearOrder K] [FloorRing K] (ui : UIColors C K)

/-- `targetHue`, by the "shortest path" around the color wheel. -/
def targetHue (fromHue toHue ratio : K) : K :=
  if 0.5 < toHue - fromHue then fmodOne (1 + fromHue + (toHue - fromHue - 1) * ratio)
  else if toHue - fromHue < -0.5 then fmodOne (fromHue + (toHue + 1 - fromHue) * ratio)
  else fromHue + (toHue - fromHue) * ratio

/-- `interpolateColorFrom:to:ratio:` -/
def interpolateColor (fromColor toColor : C) (ratio : K) : C :=
  match ui.getHue fromColor with
  | none => fromColor
  | some a =>
    match ui.getHue toColor with
    | none => fromColor
    | some b =>
      ui.colorWithHue
        { hue := targetHue a.hue b.hue ratio
          saturation := a.saturation + (b.saturation - a.saturation) * ratio
          brightness := a.brightness + (b.brightness - a.brightness) * ratio
          alpha := a.alpha + (b.alpha - a.alpha) * ratio }

/-- `color` is the valid mix of two colours that convert, at the fraction `r` of the
way from the one to the other. -/
def MixOf (fromColor toColor : C) (r : K) (color : C) : Prop :=
  ∃ a b mid : HSBA K, ui.getHue fromColor = some a ∧ ui.getHue toColor = some b ∧
    color = ui.colorWithHue mid ∧ mid.Mix r a b ∧ mid.Valid ∧ 0 ≤ r ∧ r ≤ 1

variable {ui} in
/-- **Between two colours** that convert, the interpolated one is a mix of them. -/
theorem interpolateColor_spec [IsStrictOrderedRing K] {fromColor toColor : C} {a b : HSBA K}
    (hFrom : ui.getHue fromColor = some a) (hTo : ui.getHue toColor = some b) (ha : a.Valid)
    (hb : b.Valid) {r : K} (hr : 0 ≤ r ∧ r ≤ 1) :
    MixOf ui fromColor toColor r (interpolateColor ui fromColor toColor r) := by
  rw [interpolateColor, hFrom]
  simp only [hTo]
  obtain ⟨hNear, hFar⟩ := wheelDistance_turn ha.hue hb.hue hr
  refine ⟨a, b, _, hFrom, hTo, rfl, ⟨hNear, hFar, ?_, ?_, ?_⟩, ⟨turn_mem ha.hue hb.hue hr,
    between_mem ha.saturation hb.saturation hr, between_mem ha.brightness hb.brightness hr,
    between_mem ha.alpha hb.alpha hr⟩, hr⟩
  all_goals
    dsimp only
    ring

-- ---------------------------------------------------------------------------
-- The table of colours
-- ---------------------------------------------------------------------------

variable (g : GMUGradient C K)

/-- The "three cases" of `generateColorMap`; a read out of range raises. -/
def colorFor (curStartPoint : ℕ) (targetValue : K) : Option C :=
  if curStartPoint = g.startPoints.length then g.colors[curStartPoint - 1]?
  else do
    let curValue ← g.startPoints[curStartPoint]?
    let prevValue ← if curStartPoint = 0 then some 0 else g.startPoints[curStartPoint - 1]?
    let curColor ← g.colors[curStartPoint]?
    let prevColor ← if curStartPoint = 0 then some ui.clearColor
      else g.colors[curStartPoint - 1]?
    some (interpolateColor ui prevColor curColor
      ((targetValue - prevValue) / (curValue - prevValue)))

/-- `targetValue` in round `i`. -/
def targetValue (i : ℕ) : K := i / ((g.mapSize - 1 : ℕ) : K)

/-- Round `i` of the loop of `generateColorMap`. -/
def generateStep (state : ℕ × List C) (i : ℕ) : Option (ℕ × List C) := do
  let (curStartPoint, colorMap) := state
  let curStartPoint := seek (g.targetValue i) (g.startPoints.drop curStartPoint) curStartPoint
  let color ← g.colorFor ui curStartPoint (g.targetValue i)
  some (curStartPoint, colorMap ++ [color])

def generateColorMap : Option (List C) :=
  ((List.range g.mapSize).foldlM (g.generateStep ui) (0, [])).map Prod.snd

-- ---------------------------------------------------------------------------
-- Shades
-- ---------------------------------------------------------------------------

/-- The color of the intensity `t`. -/
inductive Shade (t : K) : C → Prop where
  /-- "higher values repeat the last provided color" -/
  | above (h : ∀ s ∈ g.startPoints, s ≤ t) {color : C} (hColor : g.colors.getLast? = some color) :
    Shade t color
  /-- "lower values interpolate towards transparent black" -/
  | below {s : K} (hs : g.startPoints.head? = some s) (h : t < s) {color : C}
    (hColor : g.colors.head? = some color) :
    Shade t (interpolateColor ui ui.clearColor color (t / s))
  | between {n : ℕ} {s s' : K} (hs : g.startPoints[n]? = some s)
    (hs' : g.startPoints[n + 1]? = some s') (h : s ≤ t) (h' : t < s') {color color' : C}
    (hColor : g.colors[n]? = some color) (hColor' : g.colors[n + 1]? = some color') :
    Shade t (interpolateColor ui color color' ((t - s) / (s' - s)))

/-- The color of the intensity `t`, where colours convert. -/
inductive Mixed (t : K) (color : C) : Prop where
  | above (h : ∀ s ∈ g.startPoints, s ≤ t) (hColor : g.colors.getLast? = some color)
  | below {s : K} {toColor : C} (hs : g.startPoints.head? = some s) (h : t < s)
    (hTo : g.colors.head? = some toColor) (hMix : MixOf ui ui.clearColor toColor (t / s) color)
  | between {n : ℕ} {s s' : K} {fromColor toColor : C} (hs : g.startPoints[n]? = some s)
    (hs' : g.startPoints[n + 1]? = some s') (h : s ≤ t) (h' : t < s')
    (hFrom : g.colors[n]? = some fromColor) (hTo : g.colors[n + 1]? = some toColor)
    (hMix : MixOf ui fromColor toColor ((t - s) / (s' - s)) color)

variable {ui g} {t : K}

variable (ui g t) in
/-- The case that `colorFor` chooses behind the start points passed. -/
theorem colorFor_passed : ∃ color, g.colorFor ui (passed g.startPoints t) t = some color ∧
    g.Shade ui t color := by
  have hLength : passed g.startPoints t ≤ g.startPoints.length := passed_le_length
  have hPos := List.length_pos_iff.mpr g.startPoints_ne
  have hEntry := fun {i : ℕ} (hi : i < g.startPoints.length) =>
    getElem_le_iff (t := t) g.ordered hi
  generalize passed g.startPoints t = n at hLength hEntry ⊢
  rw [colorFor]
  by_cases hAll : n = g.startPoints.length
  · rw [if_pos hAll]
    have hColor : n - 1 < g.colors.length := by rw [g.length_eq]; omega
    refine ⟨g.colors[n - 1], List.getElem?_eq_getElem hColor, .above ?_ ?_⟩
    · intro s hs
      obtain ⟨i, hi, rfl⟩ := List.getElem_of_mem hs
      exact (hEntry hi).mpr (by omega)
    · rw [List.getLast?_eq_getElem?, g.length_eq, ← hAll]
      exact List.getElem?_eq_getElem hColor
  · rw [if_neg hAll]
    have hn : n < g.startPoints.length := by omega
    have hnColor : n < g.colors.length := by rw [g.length_eq]; exact hn
    have hAbove : t < g.startPoints[n] := not_le.mp ((hEntry hn).not.mpr (lt_irrefl n))
    rw [List.getElem?_eq_getElem hn, List.getElem?_eq_getElem hnColor]
    cases n with
    | zero =>
      have hShade : g.Shade ui t
          (interpolateColor ui ui.clearColor g.colors[0] (t / g.startPoints[0])) :=
        .below (by rw [List.head?_eq_getElem?, List.getElem?_eq_getElem hn]) hAbove
          (by rw [List.head?_eq_getElem?, List.getElem?_eq_getElem hnColor])
      exact ⟨_, by simp, hShade⟩
    | succ n =>
      have hPrev : n < g.startPoints.length := by omega
      have hPrevColor : n < g.colors.length := by omega
      have hShade : g.Shade ui t _ := .between (List.getElem?_eq_getElem hPrev)
        (List.getElem?_eq_getElem hn) ((hEntry hPrev).mpr (Nat.lt_succ_self n)) hAbove
        (List.getElem?_eq_getElem hPrevColor) (List.getElem?_eq_getElem hnColor)
      refine ⟨_, ?_, hShade⟩
      simp [List.getElem?_eq_getElem hPrev, List.getElem?_eq_getElem hPrevColor]

/-- The loop goes through rising values. -/
theorem targetValue_mono [IsStrictOrderedRing K] {i j : ℕ} (h : i ≤ j) :
    g.targetValue i ≤ g.targetValue j := by
  refine div_le_div_of_nonneg_right (Nat.cast_le.mpr h) (Nat.cast_nonneg _)

variable (ui g) in
/-- What `generateColorMap` has after `n` rounds. -/
theorem generateSteps [IsStrictOrderedRing K] (n : ℕ) :
    ∃ colorMap : List C, (List.range n).foldlM (g.generateStep ui) (0, []) =
        some (if n = 0 then 0 else passed g.startPoints (g.targetValue (n - 1)), colorMap) ∧
      colorMap.length = n ∧
      ∀ i, (h : i < colorMap.length) → g.Shade ui (g.targetValue i) colorMap[i] := by
  induction n with
  | zero => exact ⟨[], rfl, rfl, fun i h => absurd h (Nat.not_lt_zero i)⟩
  | succ n ih =>
    obtain ⟨colorMap, hRun, hLength, hShades⟩ := ih
    obtain ⟨color, hColor, hShade⟩ := colorFor_passed ui g (g.targetValue n)
    refine ⟨colorMap ++ [color], ?_, by rw [List.length_append, hLength]; rfl, ?_⟩
    · have hBehind : (if n = 0 then 0 else passed g.startPoints (g.targetValue (n - 1))) ≤
          passed g.startPoints (g.targetValue n) := by
        split_ifs
        · exact Nat.zero_le _
        · exact passed_mono (targetValue_mono (Nat.sub_le n 1))
      rw [List.range_succ, List.foldlM_append, hRun]
      simp [generateStep, seek_drop g.ordered hBehind, hColor]
    · intro i hi
      rw [List.length_append, List.length_singleton] at hi
      rcases Nat.lt_succ_iff_lt_or_eq.mp hi with hOld | rfl
      · rw [List.getElem_append_left hOld]
        exact hShades i hOld
      · rw [List.getElem_append_right le_rfl]
        simpa [hLength] using hShade

/-- **The table is the gradient**: no read is out of range, and entry `i` of the
`mapSize` entries is the shade of `i / (mapSize - 1)`. -/
theorem generateColorMap_shades [IsStrictOrderedRing K] (ui : UIColors C K) (g : GMUGradient C K) :
    ∃ colorMap, g.generateColorMap ui = some colorMap ∧ colorMap.length = g.mapSize ∧
      ∀ i, (h : i < colorMap.length) →
        g.Shade ui ((i : K) / ((g.mapSize - 1 : ℕ) : K)) colorMap[i] := by
  obtain ⟨colorMap, hRun, hLength, hShades⟩ := generateSteps ui g g.mapSize
  exact ⟨colorMap, by rw [generateColorMap, hRun]; rfl, hLength, hShades⟩

/-- The last color has the highest intensity. -/
theorem Shade.of_one {color : C} (h : g.Shade ui 1 color) : g.colors.getLast? = some color := by
  cases h with
  | above _ hColor => exact hColor
  | below hs h => exact absurd h (not_lt.mpr (g.inRange _ (List.mem_of_head? hs)).2)
  | between _ hs' _ h' => exact absurd h' (not_lt.mpr (g.inRange _ (List.mem_of_getElem? hs')).2)

/-- **Every shade** is the last color or a valid mix of its neighbours, where the
colours and the clear color convert. -/
theorem Shade.mixed [IsStrictOrderedRing K] {color : C} (h : g.Shade ui t color) (ht : 0 ≤ t)
    (hValid : ∀ c ∈ ui.clearColor :: g.colors, ∃ a, ui.getHue c = some a ∧ a.Valid) :
    g.Mixed ui t color := by
  have hMix : ∀ fromColor ∈ ui.clearColor :: g.colors, ∀ toColor ∈ g.colors, ∀ r : K,
      0 ≤ r ∧ r ≤ 1 → MixOf ui fromColor toColor r (interpolateColor ui fromColor toColor r) := by
    intro fromColor hFrom toColor hTo r hr
    obtain ⟨a, hA, haValid⟩ := hValid fromColor hFrom
    obtain ⟨b, hB, hbValid⟩ := hValid toColor (List.mem_cons_of_mem _ hTo)
    exact interpolateColor_spec hA hB haValid hbValid hr
  cases h with
  | above h hColor => exact .above h hColor
  | below hs h hColor =>
    have hr := fraction_mem ht h
    rw [sub_zero, sub_zero] at hr
    exact .below hs h hColor (hMix _ (List.mem_cons_self ..) _ (List.mem_of_head? hColor) _ hr)
  | between hs hs' h h' hColor hColor' =>
    have hFrom := List.mem_cons_of_mem ui.clearColor (List.mem_of_getElem? hColor)
    exact .between hs hs' h h' hColor hColor'
      (hMix _ hFrom _ (List.mem_of_getElem? hColor') _ (fraction_mem h h'))

/-- **The table of colours.** -/
theorem colorMap_spec [IsStrictOrderedRing K] (ui : UIColors C K) (g : GMUGradient C K)
    (hValid : ∀ c ∈ ui.clearColor :: g.colors, ∃ a, ui.getHue c = some a ∧ a.Valid) :
    ∃ colorMap, g.generateColorMap ui = some colorMap ∧ colorMap.length = g.mapSize ∧
      colorMap.getLast? = g.colors.getLast? ∧
      ∀ i, (h : i < colorMap.length) →
        g.Shade ui ((i : K) / ((g.mapSize - 1 : ℕ) : K)) colorMap[i] ∧
          g.Mixed ui ((i : K) / ((g.mapSize - 1 : ℕ) : K)) colorMap[i] := by
  obtain ⟨colorMap, hRun, hLength, hShades⟩ := generateColorMap_shades ui g
  refine ⟨colorMap, hRun, hLength, ?_, fun i hi => ⟨hShades i hi, ?_⟩⟩
  · have hTwo := g.two_le
    have hIn : g.mapSize - 1 < colorMap.length := by omega
    have hSteps : ((g.mapSize - 1 : ℕ) : K) ≠ 0 := Nat.cast_ne_zero.mpr (by omega)
    have hLast := hShades _ hIn
    rw [div_self hSteps] at hLast
    rw [hLast.of_one, List.getLast?_eq_getElem?, hLength]
    exact List.getElem?_eq_getElem hIn
  · exact (hShades i hi).mixed (div_nonneg (Nat.cast_nonneg _) (Nat.cast_nonneg _)) hValid

/-- Colours that are their own components. -/
def ownComponents : UIColors (HSBA K) K where
  clearColor := ⟨0, 0, 0, 0⟩
  getHue := some
  colorWithHue := id

/-- From green to red, as the map view draws prices. -/
def greenRed [IsStrictOrderedRing K] : GMUGradient (HSBA K) K where
  colors := [⟨1 / 3, 1, 1, 1⟩, ⟨0, 1, 1, 1⟩]
  startPoints := [3 / 5, 1]
  mapSize := 256
  startPoints_ne := by simp
  length_eq := rfl
  ordered := by
    have h : (3 : K) / 5 ≤ 1 := by norm_num
    simpa using h
  inRange := by
    have h : (0 : K) ≤ 3 / 5 ∧ (3 : K) / 5 ≤ 1 := by constructor <;> norm_num
    simpa using h
  two_le := by omega

theorem colorMap_spec_greenRed :
    ∃ colorMap, (greenRed : GMUGradient (HSBA ℚ) ℚ).generateColorMap ownComponents =
        some colorMap ∧ colorMap.length = 256 ∧ colorMap.getLast? = some ⟨0, 1, 1, 1⟩ := by
  have hValid : ∀ c ∈ (ownComponents (K := ℚ)).clearColor :: greenRed.colors,
      ∃ a, ownComponents.getHue c = some a ∧ a.Valid := by
    intro c hc
    refine ⟨c, rfl, ?_⟩
    simp only [ownComponents, greenRed, List.mem_cons, List.not_mem_nil, or_false] at hc
    rcases hc with rfl | rfl | rfl <;> constructor <;> norm_num
  obtain ⟨colorMap, hRun, hLength, hLast, -⟩ := colorMap_spec ownComponents greenRed hValid
  exact ⟨colorMap, hRun, hLength, hLast⟩

end GMUGradient

end PriceMap.Tiles

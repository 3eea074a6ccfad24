import PriceMap.Lib.Machines
import PriceMap.Tiles.Coloring

/-!
# Heatmap tiles — the layer

`GMUHeatmapTileLayer` as a machine: its properties are set, its map is set, and
the map asks it for tiles. "The configuration properties are captured when
changing the map property": the header's promise is the second machine below,
which knows nothing of dirty flags and prepared data.

* `layer_answers`    — both machines answer every run alike.
* `data_of_captured` — between two settings of the map the tiles are drawn from
  what was set before the first.
-/

namespace PriceMap.Tiles

open Lib

variable {C K M : Type} [Field K] [LinearOrder K] [FloorRing K]

structure GMUHeatmapTileLayer (C K M : Type) [LinearOrder K] [Zero K] [One K] extends
    LayerProperties C K where
  /-- `_dirty` -/
  dirty : Bool
  /-- `_data` -/
  data : Option (GMUHeatmapTileCreationData C K)
  map : Option M

/-- What is done to a layer. -/
inductive LayerCall (C K M : Type) [LinearOrder K] [Zero K] [One K] where
  | setRadius (value : ℕ)
  | setGradient (gradient : GMUGradient C K)
  | setMinimumZoomIntensity (minimumZoomIntensity : ℕ)
  | setMaximumZoomIntensity (maximumZoomIntensity : ℕ)
  | setWeightedData (weightedData : List (GMUWeightedLatLng K))
  | setMap (map : Option M)
  | tileForX (x y zoom : ℕ)

/-- What a setter does to the properties; the other calls leave them. -/
def LayerProperties.set (layer : LayerProperties C K) : LayerCall C K M → LayerProperties C K
  | .setRadius value => { layer with radius := value }
  | .setGradient gradient => { layer with gradient }
  | .setMinimumZoomIntensity minimumZoomIntensity => { layer with minimumZoomIntensity }
  | .setMaximumZoomIntensity maximumZoomIntensity => { layer with maximumZoomIntensity }
  | .setWeightedData weightedData => { layer with weightedData }
  | .setMap _ | .tileForX .. => layer

namespace GMUHeatmapTileLayer

variable (ui : UIColors C K) (colorWithRed : RGBA K → C) (getRed : C → Option (RGBA K))
  (fp : FloatingPoint K)

/-- The properties that `init` sets, but for the gradient. -/
def initialProperties (gradient : GMUGradient C K) : LayerProperties C K where
  weightedData := []
  radius := 20
  gradient := gradient
  minimumZoomIntensity := 5
  maximumZoomIntensity := 10

def withGradient (gradient : GMUGradient C K) : GMUHeatmapTileLayer C K M :=
  { initialProperties gradient with dirty := true, data := none, map := none }

/-- `init`; `colorWithRed` is `colorWithRed:green:blue:alpha:`. -/
def init : Except GradientException (GMUHeatmapTileLayer C K M) :=
  (GMUGradient.initWithColors
    [colorWithRed { red := 102.0 / 255.0, green := 225.0 / 255.0, blue := 0, alpha := 1 },
      colorWithRed { red := 1, green := 0, blue := 0, alpha := 1 }]
    [(0.2 : K), 1] 1000).map withGradient

/-- `setMap:` up to the call of `super`; `none` if `prepare` raises. -/
def prepareIfDirty (layer : GMUHeatmapTileLayer C K M) : Option (GMUHeatmapTileLayer C K M) :=
  if layer.dirty then do
    let data ← prepare ui fp layer.toLayerProperties
    some { layer with data := some data, dirty := false }
  else some layer

/-- A layer under the calls; a tile that cannot be drawn kills it, and so does
asking for one before `setMap:`. -/
def machine (gradient : GMUGradient C K) :
    Machine (GMUHeatmapTileLayer C K M) (LayerCall C K M) (Option Tile) where
  init := withGradient gradient
  call layer
    | .setMap map => do
      let layer ← layer.prepareIfDirty ui fp
      some ({ layer with map }, none)
    | .tileForX x y zoom => do
      let data ← layer.data
      let tile ← tileForX fp getRed data x y zoom
      some (layer, some tile)
    | .setRadius value => some ({ layer with radius := value, dirty := true }, none)
    | .setGradient gradient => some ({ layer with gradient, dirty := true }, none)
    | .setMinimumZoomIntensity minimumZoomIntensity =>
      some ({ layer with minimumZoomIntensity, dirty := true }, none)
    | .setMaximumZoomIntensity maximumZoomIntensity =>
      some ({ layer with maximumZoomIntensity, dirty := true }, none)
    | .setWeightedData weightedData => some ({ layer with weightedData, dirty := true }, none)

-- ---------------------------------------------------------------------------
-- What the header promises
-- ---------------------------------------------------------------------------

/-- A layer as its header describes it: live properties, and those captured when
the map was last set. -/
structure CapturingLayer (C K M : Type) [LinearOrder K] [Zero K] [One K] where
  properties : LayerProperties C K
  captured : Option (LayerProperties C K)
  map : Option M

/-- Setting the map captures the properties, and a tile is drawn from what was
captured. -/
def capturingMachine (gradient : GMUGradient C K) :
    Machine (CapturingLayer C K M) (LayerCall C K M) (Option Tile) where
  init := { properties := initialProperties gradient, captured := none, map := none }
  call layer
    | .setMap map =>
      if layer.properties.minimumZoomIntensity ≤ layer.properties.maximumZoomIntensity then
        some ({ layer with captured := some layer.properties, map }, none)
      else none
    | .tileForX x y zoom => do
      let captured ← layer.captured
      let data ← prepare ui fp captured
      let tile ← tileForX fp getRed data x y zoom
      some (layer, some tile)
    | call => some ({ layer with properties := layer.properties.set call }, none)

/-- The data is what `prepare` makes of the captured properties, and of the live
ones if nothing is dirty. -/
structure Captures (layer : GMUHeatmapTileLayer C K M) (capturing : CapturingLayer C K M) :
    Prop where
  properties : layer.toLayerProperties = capturing.properties
  map : layer.map = capturing.map
  data : layer.data = capturing.captured.bind (prepare ui fp)
  captured : capturing.captured.isSome = layer.data.isSome
  clean : layer.dirty = false → capturing.captured = some capturing.properties

variable {ui getRed fp} [IsStrictOrderedRing K] {layer : GMUHeatmapTileLayer C K M}
  {capturing : CapturingLayer C K M}

omit [IsStrictOrderedRing K] in
/-- A setter keeps the data and the captured properties as they are. -/
theorem Captures.set (h : Captures ui fp layer capturing) (properties : LayerProperties C K) :
    Captures ui fp { layer with toLayerProperties := properties, dirty := true }
      { capturing with properties } :=
  ⟨rfl, h.map, h.data, h.captured, fun hClean => by cases hClean⟩

/-- Setting the map captures the properties, dirty or not. -/
theorem Captures.setMap (h : Captures ui fp layer capturing) (map : Option M) :
    Option.Rel (fun x y => Captures ui fp x.1 y.1 ∧ x.2 = y.2)
      ((layer.prepareIfDirty ui fp).bind fun layer =>
        some ({ layer with map }, (none : Option Tile)))
      (if capturing.properties.minimumZoomIntensity ≤ capturing.properties.maximumZoomIntensity then
        some ({ capturing with captured := some capturing.properties, map }, none)
      else none) := by
  rw [prepareIfDirty, h.properties]
  cases hDirty : layer.dirty with
  | true =>
    rw [if_pos rfl]
    split_ifs with hZoom
    · obtain ⟨data, hData⟩ := exists_prepare _ ui fp hZoom
      rw [hData]
      exact .some ⟨⟨rfl, rfl, hData.symm, rfl, fun _ => rfl⟩, rfl⟩
    · rw [prepare_of_lt (not_le.mp hZoom)]
      exact .none
  | false =>
    rw [if_neg Bool.false_ne_true]
    have hCaptured := h.clean hDirty
    have hSome := h.captured
    have hData := h.data
    rw [hCaptured, Option.bind_some] at hData
    rw [hCaptured, hData] at hSome
    have hZoom : capturing.properties.minimumZoomIntensity ≤
        capturing.properties.maximumZoomIntensity := by
      by_contra hNot
      rw [prepare_of_lt (not_le.mp hNot)] at hSome
      cases hSome
    rw [if_pos hZoom]
    refine .some ⟨⟨h.properties, rfl, hData, ?_, fun _ => rfl⟩, rfl⟩
    rw [hData, ← hSome]

/-- The layer does what its header promises. -/
theorem layer_captures (ui : UIColors C K) (getRed : C → Option (RGBA K)) (fp : FloatingPoint K)
    (gradient : GMUGradient C K) :
    Simulation (machine (M := M) ui getRed fp gradient) (capturingMachine ui getRed fp gradient)
      (Captures ui fp) Eq where
  init := ⟨rfl, rfl, rfl, rfl, fun hClean => by cases hClean⟩
  call layer capturing call h := by
    cases call with
    | setMap map => exact h.setMap map
    | tileForX x y zoom =>
      have hData := h.data
      cases hCaptured : capturing.captured with
      | none =>
        rw [hCaptured] at hData
        simp only [machine, capturingMachine, hData, hCaptured]
        exact .none
      | some captured =>
        rw [hCaptured, Option.bind_some] at hData
        simp only [machine, capturingMachine, hData, hCaptured, Option.bind_eq_bind,
          Option.bind_some]
        cases hPrepared : prepare ui fp captured with
        | none => exact .none
        | some data =>
          cases hTile : tileForX fp getRed data x y zoom with
          | none =>
            simp only [Option.bind_some, hTile]
            exact .none
          | some tile =>
            simp only [Option.bind_some, hTile]
            exact .some ⟨h, rfl⟩
    | setRadius value => exact .some ⟨h.properties ▸ h.set _, rfl⟩
    | setGradient gradient => exact .some ⟨h.properties ▸ h.set _, rfl⟩
    | setMinimumZoomIntensity low => exact .some ⟨h.properties ▸ h.set _, rfl⟩
    | setMaximumZoomIntensity high => exact .some ⟨h.properties ▸ h.set _, rfl⟩
    | setWeightedData weightedData => exact .some ⟨h.properties ▸ h.set _, rfl⟩

section Between

variable {gradient : GMUGradient C K} {call : LayerCall C K M} {calls : List (LayerCall C K M)}
  {capturing' : CapturingLayer C K M}

omit [IsStrictOrderedRing K] in
/-- What a call does to the properties, and when they are captured. -/
theorem capturing_step (h : (capturingMachine ui getRed fp gradient).step capturing call =
      some capturing') :
    capturing'.properties = capturing.properties.set call ∧
      ((∃ map, call = .setMap map ∧ capturing'.captured = some capturing.properties) ∨
        (∀ map, call ≠ .setMap map) ∧ capturing'.captured = capturing.captured) := by
  rw [Machine.step, capturingMachine] at h
  cases call with
  | setMap map =>
    dsimp only at h
    split_ifs at h with hZoom
    · cases h
      exact ⟨rfl, Or.inl ⟨map, rfl, rfl⟩⟩
    · cases h
  | tileForX x y zoom =>
    obtain ⟨⟨capturing'', tile⟩, hCall, rfl⟩ := Option.map_eq_some_iff.mp h
    obtain ⟨captured, -, hCall⟩ := Option.bind_eq_some_iff.mp hCall
    obtain ⟨data, -, hCall⟩ := Option.bind_eq_some_iff.mp hCall
    obtain ⟨tile', -, hCall⟩ := Option.bind_eq_some_iff.mp hCall
    cases hCall
    exact ⟨rfl, Or.inr ⟨fun _ h => (by cases h), rfl⟩⟩
  | setRadius => cases h; exact ⟨rfl, Or.inr ⟨fun _ h => (by cases h), rfl⟩⟩
  | setGradient => cases h; exact ⟨rfl, Or.inr ⟨fun _ h => (by cases h), rfl⟩⟩
  | setMinimumZoomIntensity => cases h; exact ⟨rfl, Or.inr ⟨fun _ h => (by cases h), rfl⟩⟩
  | setMaximumZoomIntensity => cases h; exact ⟨rfl, Or.inr ⟨fun _ h => (by cases h), rfl⟩⟩
  | setWeightedData => cases h; exact ⟨rfl, Or.inr ⟨fun _ h => (by cases h), rfl⟩⟩

omit [IsStrictOrderedRing K] in
/-- Between two settings of the map nothing is captured. -/
theorem capturing_run
    (h : calls.foldlM (capturingMachine ui getRed fp gradient).step capturing =
      some capturing') :
    capturing'.properties = calls.foldl LayerProperties.set capturing.properties ∧
      ((∀ call ∈ calls, ∀ map, call ≠ .setMap map) → capturing'.captured = capturing.captured) := by
  induction calls generalizing capturing with
  | nil =>
    cases h
    exact ⟨rfl, fun _ => rfl⟩
  | cons call rest ih =>
    rw [List.foldlM_cons] at h
    obtain ⟨next, hStep, hRest⟩ := Option.bind_eq_some_iff.mp h
    obtain ⟨hProperties, hCaptured⟩ := capturing_step hStep
    obtain ⟨hProperties', hCaptured'⟩ := ih hRest
    refine ⟨by rw [hProperties', hProperties, List.foldl_cons], fun hNone => ?_⟩
    rw [hCaptured' fun other hOther => hNone other (List.mem_cons_of_mem _ hOther)]
    rcases hCaptured with ⟨map, hMap, -⟩ | ⟨-, hSame⟩
    · exact absurd hMap (hNone call (List.mem_cons_self ..) map)
    · exact hSame

/-- **Between two settings of the map** the tiles are drawn from the properties
at the first, whatever is set meanwhile. -/
theorem data_of_captured {before after : List (LayerCall C K M)} {map : Option M}
    (h : (machine ui getRed fp gradient).stateAfter (before ++ .setMap map :: after) = some layer)
    (hAfter : ∀ call ∈ after, ∀ map, call ≠ .setMap map) :
    layer.data = prepare ui fp
      (before.foldl LayerProperties.set (initialProperties gradient)) := by
  obtain ⟨capturing, hRun, hRel⟩ := (layer_captures ui getRed fp gradient).exists_rel h
  rw [Machine.stateAfter, List.foldlM_append] at hRun
  obtain ⟨atSet, hBefore, hRest⟩ := Option.bind_eq_some_iff.mp hRun
  rw [List.foldlM_cons] at hRest
  obtain ⟨next, hSet, hAfterRun⟩ := Option.bind_eq_some_iff.mp hRest
  rw [hRel.data, (capturing_run hAfterRun).2 hAfter]
  rcases (capturing_step hSet).2 with ⟨_, -, hCaptured⟩ | ⟨hNot, -⟩
  · rw [hCaptured, Option.bind_some, (capturing_run hBefore).1]
    rfl
  · exact absurd rfl (hNot map)

end Between

variable (ui getRed fp) in
/-- Setting the map does not raise. -/
theorem exists_stateAfter_setMap (gradient : GMUGradient C K) (map : Option M) (value : ℕ) :
    ∃ layer, (machine ui getRed fp gradient).stateAfter
      ([.setRadius 80] ++ .setMap map :: [.setRadius value]) = some layer := by
  have hZoom : (initialProperties gradient).minimumZoomIntensity ≤
      (initialProperties gradient).maximumZoomIntensity := show 5 ≤ 10 by omega
  obtain ⟨data, hData⟩ := exists_prepare { initialProperties gradient with radius := 80 } ui fp
    hZoom
  rw [← Option.isSome_iff_exists]
  simp [Machine.stateAfter, Machine.step, machine, withGradient, prepareIfDirty, hData]

theorem data_of_captured_live :
    ∃ layer, (machine (M := Unit) GMUGradient.ownComponents (fun _ => none) FloatingPoint.exp
        .greenRed).stateAfter ([.setRadius 80] ++ .setMap (some ()) :: [.setRadius 5]) =
          some layer ∧
      layer.data = prepare GMUGradient.ownComponents FloatingPoint.exp
        (([.setRadius 80] : List (LayerCall (HSBA ℝ) ℝ Unit)).foldl LayerProperties.set
          (initialProperties .greenRed)) := by
  have hNone : ∀ call ∈ ([.setRadius 5] : List (LayerCall (HSBA ℝ) ℝ Unit)),
      ∀ map, call ≠ .setMap map := by simp
  obtain ⟨layer, hRun⟩ := exists_stateAfter_setMap GMUGradient.ownComponents
    (fun _ => none) FloatingPoint.exp .greenRed (some ()) 5
  exact ⟨layer, hRun, data_of_captured hRun hNone⟩

/-- The gradient that `init` sets is accepted. -/
theorem init_isOk (colorWithRed : RGBA K → C) :
    ∃ gradient, (init colorWithRed : Except GradientException (GMUHeatmapTileLayer C K M)) =
      .ok (withGradient gradient) := by
  have hFifth : (0 : K) ≤ 0.2 ∧ (0.2 : K) ≤ 1 := by
    constructor <;> norm_num
  obtain ⟨gradient, hGradient, -⟩ := GMUGradient.initWithColors_of
    [colorWithRed { red := 102.0 / 255.0, green := 225.0 / 255.0, blue := 0, alpha := 1 },
      colorWithRed { red := 1, green := 0, blue := 0, alpha := 1 }] [(0.2 : K), 1] 1000
    (by simp) (by simp) rfl (by simpa using hFifth.2) (by simpa using hFifth) (by norm_num)
  exact ⟨gradient, by rw [init, hGradient]; rfl⟩

end GMUHeatmapTileLayer

end PriceMap.Tiles

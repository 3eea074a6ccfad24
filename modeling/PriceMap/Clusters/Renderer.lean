import PriceMap.Clusters.Algorithm

/-!
# Clusters — the renderer

`GMUDefaultClusterRenderer` of the vendored map utilities: the markers of the
clusters in view. A cluster goes by its place among the clusters being rendered.
A marker goes by its `userData`; where an animation starts and ends is left out.
With animation, markers of earlier clusters that move into a new one stay on the
map until a block takes them off (`leaving`).

* `Drawn` — the markers are those of the rendered clusters: a cluster of four or
  more items has one, or each of its items has.
* `InView` — every cluster in view is rendered.
* `renderClusters_spec`, `update_spec` — what the two entry points keep.
* `Drawn.items_subperm` — an item is in one marker at most.
-/

namespace PriceMap.Clusters

def kGMUMinClusterSize : ℕ := 4

def kGMUMaxClusterZoom : ℕ := 20

/-- The camera of the map: its zoom, and whether `visibleBounds` contains a
position. -/
structure Camera (P K : Type*) where
  zoom : K
  visible : P → Bool

/-- A marker, by its `userData`. -/
inductive GMSMarker (α P : Type*) where
  | cluster (cluster : GMUStaticCluster α P)
  | item (item : α)
  deriving DecidableEq, Repr

/-- The items that a marker stands for. -/
def GMSMarker.items {α P : Type*} : GMSMarker α P → List α
  | .cluster c => c.items
  | .item x => [x]

structure GMUDefaultClusterRenderer (α P K : Type*) where
  animatesClusters : Bool
  markers : List (GMSMarker α P)
  clusters : List (GMUStaticCluster α P)
  renderedClusters : List ℕ
  renderedClusterItems : List α
  previousZoom : K
  itemToOldClusterMap : α → Option (GMUStaticCluster α P)
  itemToNewClusterMap : α → Option (GMUStaticCluster α P)
  /-- the markers on their way off the map, by the blocks that take them off -/
  leaving : List (List (GMSMarker α P))

namespace GMUDefaultClusterRenderer

variable {α P K : Type*} [DecidableEq α] [LinearOrder K] [NatCast K]

def initWithMapView (animatesClusters : Bool) : GMUDefaultClusterRenderer α P K where
  animatesClusters
  markers := []
  clusters := []
  renderedClusters := []
  renderedClusterItems := []
  previousZoom := (0 : ℕ)
  itemToOldClusterMap _ := none
  itemToNewClusterMap _ := none
  leaving := []

def shouldRenderAsCluster (cluster : GMUStaticCluster α P) (zoom : K) : Bool :=
  decide (kGMUMinClusterSize ≤ cluster.count) && decide (zoom ≤ kGMUMaxClusterZoom)

-- ---------------------------------------------------------------------------
-- Clusters coming into view
-- ---------------------------------------------------------------------------

variable (position : α → P) (camera : Camera P K) (s : GMUDefaultClusterRenderer α P K)

def shouldShowCluster (animated : Bool) (cluster : GMUStaticCluster α P) : Bool :=
  camera.visible cluster.position || cluster.items.any fun item =>
    (!shouldRenderAsCluster cluster camera.zoom && camera.visible (position item)) ||
      (animated && (s.itemToOldClusterMap item).any fun oldCluster =>
        camera.visible oldCluster.position)

def renderCluster (cluster : GMUStaticCluster α P × ℕ) : GMUDefaultClusterRenderer α P K :=
  if shouldRenderAsCluster cluster.1 camera.zoom then
    { s with
      markers := s.markers ++ [.cluster cluster.1]
      renderedClusters := s.renderedClusters ++ [cluster.2] }
  else
    { s with
      markers := s.markers ++ cluster.1.items.map .item
      renderedClusterItems := s.renderedClusterItems ++ cluster.1.items
      renderedClusters := s.renderedClusters ++ [cluster.2] }

/-- The body of the loop of `addOrUpdateClusters:animated:`. -/
def addOrUpdateCluster (animated : Bool) (s : GMUDefaultClusterRenderer α P K)
    (cluster : GMUStaticCluster α P × ℕ) : GMUDefaultClusterRenderer α P K :=
  if cluster.2 ∈ s.renderedClusters then s
  else if s.shouldShowCluster position camera animated cluster.1 then s.renderCluster camera cluster
  else s

def addOrUpdateClusters (animated : Bool) : GMUDefaultClusterRenderer α P K :=
  s.clusters.zipIdx.foldl (addOrUpdateCluster position camera animated) s

/-- "Called when camera is changed to reevaluate if new clusters need to be
displayed because they become visible." -/
def update : GMUDefaultClusterRenderer α P K := s.addOrUpdateClusters position camera false

-- ---------------------------------------------------------------------------
-- New clusters
-- ---------------------------------------------------------------------------

/-- A lookup map from the items of the chosen clusters. -/
def itemMap (chosen : GMUStaticCluster α P → Bool) (clusters : List (GMUStaticCluster α P)) :
    α → Option (GMUStaticCluster α P) :=
  (clusters.filter chosen).foldl
    (fun map cluster => cluster.items.foldl
      (fun map item => Function.update map item (some cluster)) map)
    fun _ => none

def prepareClustersForAnimation (newClusters : List (GMUStaticCluster α P))
    (isZoomingIn : Bool) : GMUDefaultClusterRenderer α P K :=
  if isZoomingIn then
    { s with
      itemToOldClusterMap := itemMap (fun cluster =>
        shouldRenderAsCluster cluster camera.zoom ||
          shouldRenderAsCluster cluster s.previousZoom) s.clusters
      itemToNewClusterMap := fun _ => none }
  else
    { s with
      itemToOldClusterMap := fun _ => none
      itemToNewClusterMap := itemMap (shouldRenderAsCluster · camera.zoom) newClusters }

/-- Whether `clearMarkersAnimated:` lets a marker move before it goes. -/
def isAnimatedOff : GMSMarker α P → Bool
  | .cluster cluster =>
    camera.visible cluster.position && (cluster.items.findSome? s.itemToNewClusterMap).isSome
  | .item item =>
    !decide (item ∈ s.renderedClusterItems) && camera.visible (position item) &&
      (s.itemToNewClusterMap item).isSome

def renderAnimatedClusters (clusters : List (GMUStaticCluster α P)) :
    GMUDefaultClusterRenderer α P K :=
  let isZoomingIn := decide (s.previousZoom < camera.zoom)
  let existingMarkers := s.markers
  let s := s.prepareClustersForAnimation camera clusters isZoomingIn
  let s := addOrUpdateClusters position camera
    { s with previousZoom := camera.zoom, clusters, markers := [] } isZoomingIn
  if isZoomingIn then s
  else { s with
    leaving := s.leaving ++ [existingMarkers.filter (s.isAnimatedOff position camera)] }

def renderClusters (clusters : List (GMUStaticCluster α P)) : GMUDefaultClusterRenderer α P K :=
  let s := { s with renderedClusters := [], renderedClusterItems := [] }
  if s.animatesClusters then s.renderAnimatedClusters position camera clusters
  else addOrUpdateClusters position camera { s with clusters, markers := [] } false

/-- The first block of `clearMarkersAnimated:` runs. -/
def clearMarkers : GMUDefaultClusterRenderer α P K := { s with leaving := s.leaving.tail }

/-- What is on the map. -/
def onMap : List (GMSMarker α P) := s.markers ++ s.leaving.flatten

-- ---------------------------------------------------------------------------
-- What is drawn
-- ---------------------------------------------------------------------------

/-- The markers of a cluster. -/
def Draws (cluster : GMUStaticCluster α P) (part : List (GMSMarker α P)) : Prop :=
  (kGMUMinClusterSize ≤ cluster.count ∧ part = [.cluster cluster]) ∨
    part = cluster.items.map .item

/-- The markers are those of the rendered clusters, which are rendered once. -/
def Drawn : Prop :=
  s.renderedClusters.Nodup ∧ ∃ parts, s.markers = parts.flatten ∧
    List.Forall₂ (fun (i : ℕ) part => ∃ cluster, s.clusters[i]? = some cluster ∧
      Draws cluster part) s.renderedClusters parts

/-- A cluster is in view if its position is, or an item of it if its items are
to be shown. -/
def isInView (cluster : GMUStaticCluster α P) : Bool :=
  camera.visible cluster.position || cluster.items.any fun item =>
    !shouldRenderAsCluster cluster camera.zoom && camera.visible (position item)

/-- Every cluster in view is rendered. -/
def InView : Prop :=
  ∀ (i : ℕ) cluster, s.clusters[i]? = some cluster →
    isInView position camera cluster = true → i ∈ s.renderedClusters

variable {position camera s} {cluster : GMUStaticCluster α P × ℕ} {animated : Bool}

omit [DecidableEq α] in
/-- Rendering a cluster leaves the clusters. -/
theorem renderCluster_clusters : (s.renderCluster camera cluster).clusters = s.clusters := by
  unfold renderCluster
  split_ifs <;> rfl

omit [DecidableEq α] in
/-- And remembers it. -/
theorem renderCluster_renderedClusters :
    (s.renderCluster camera cluster).renderedClusters = s.renderedClusters ++ [cluster.2] := by
  unfold renderCluster
  split_ifs <;> rfl

omit [DecidableEq α] in
/-- The markers stay those of rendered clusters. -/
theorem Drawn.renderCluster (h : s.Drawn) (hAt : s.clusters[cluster.2]? = some cluster.1)
    (hNew : cluster.2 ∉ s.renderedClusters) : (s.renderCluster camera cluster).Drawn := by
  obtain ⟨hNodup, parts, hMarkers, hParts⟩ := h
  refine ⟨?_, ?_⟩
  · rw [renderCluster_renderedClusters, ← List.concat_eq_append]
    exact hNodup.concat hNew
  · have hPart : ∃ part, (s.renderCluster camera cluster).markers = s.markers ++ part ∧
        Draws cluster.1 part := by
      unfold GMUDefaultClusterRenderer.renderCluster
      split_ifs with hAs
      · rw [shouldRenderAsCluster, Bool.and_eq_true, decide_eq_true_eq] at hAs
        exact ⟨_, rfl, Or.inl ⟨hAs.1, rfl⟩⟩
      · exact ⟨_, rfl, Or.inr rfl⟩
    obtain ⟨part, hEq, hDraws⟩ := hPart
    refine ⟨parts ++ [part], by rw [hEq, hMarkers, List.flatten_concat], ?_⟩
    rw [renderCluster_renderedClusters, renderCluster_clusters]
    exact List.rel_append hParts (.cons ⟨cluster.1, hAt, hDraws⟩ .nil)

variable (position camera animated)

omit [DecidableEq α] in
/-- A cluster in view is rendered, once. -/
theorem addOrUpdateCluster_spec (h : s.Drawn) (hAt : s.clusters[cluster.2]? = some cluster.1) :
    (addOrUpdateCluster position camera animated s cluster).Drawn ∧
      (addOrUpdateCluster position camera animated s cluster).clusters = s.clusters ∧
      s.renderedClusters ⊆
        (addOrUpdateCluster position camera animated s cluster).renderedClusters ∧
      (isInView position camera cluster.1 = true →
        cluster.2 ∈ (addOrUpdateCluster position camera animated s cluster).renderedClusters) := by
  have hShown : isInView position camera cluster.1 = true →
      s.shouldShowCluster position camera animated cluster.1 = true := by
    unfold isInView shouldShowCluster
    intro hView
    rw [Bool.or_eq_true, List.any_eq_true] at hView ⊢
    refine hView.imp_right fun ⟨item, hItem, hVisible⟩ => ⟨item, hItem, ?_⟩
    rw [hVisible, Bool.true_or]
  unfold addOrUpdateCluster
  split_ifs with hRendered hShow
  · exact ⟨h, rfl, List.Subset.refl _, fun _ => hRendered⟩
  · refine ⟨h.renderCluster hAt hRendered, renderCluster_clusters, ?_, fun _ => ?_⟩
    · rw [renderCluster_renderedClusters]
      exact List.subset_append_left _ _
    · rw [renderCluster_renderedClusters]
      simp
  · exact ⟨h, rfl, List.Subset.refl _, fun hView => absurd (hShown hView) hShow⟩

omit [DecidableEq α] in
/-- The loop over some of the clusters, each at its place. -/
theorem foldl_spec {clusters : List (GMUStaticCluster α P × ℕ)} (h : s.Drawn)
    (hAt : ∀ cluster ∈ clusters, s.clusters[cluster.2]? = some cluster.1) :
    (clusters.foldl (addOrUpdateCluster position camera animated) s).Drawn ∧
      (clusters.foldl (addOrUpdateCluster position camera animated) s).clusters = s.clusters ∧
      s.renderedClusters ⊆
        (clusters.foldl (addOrUpdateCluster position camera animated) s).renderedClusters ∧
      ∀ cluster ∈ clusters, isInView position camera cluster.1 = true →
        cluster.2 ∈
          (clusters.foldl (addOrUpdateCluster position camera animated) s).renderedClusters := by
  induction clusters generalizing s with
  | nil => exact ⟨h, rfl, List.Subset.refl _, fun cluster hMem => by cases hMem⟩
  | cons cluster rest ih =>
    obtain ⟨hDrawn, hSame, hKept, hShown⟩ :=
      addOrUpdateCluster_spec position camera animated h (hAt cluster (List.mem_cons_self ..))
    obtain ⟨hDrawn', hSame', hKept', hShown'⟩ := ih hDrawn fun other hOther => by
      rw [hSame]
      exact hAt other (List.mem_cons_of_mem _ hOther)
    refine ⟨hDrawn', hSame'.trans hSame, fun i hi => hKept' (hKept hi),
      fun other hOther hView => ?_⟩
    rcases List.mem_cons.mp hOther with rfl | hRest
    · exact hKept' (hShown hView)
    · exact hShown' other hRest hView

omit [DecidableEq α] in
/-- All clusters in view are rendered. -/
theorem addOrUpdateClusters_spec (h : s.Drawn) :
    (s.addOrUpdateClusters position camera animated).Drawn ∧
      (s.addOrUpdateClusters position camera animated).clusters = s.clusters ∧
      (s.addOrUpdateClusters position camera animated).InView position camera := by
  obtain ⟨hDrawn, hSame, -, hShown⟩ := foldl_spec position camera animated h fun cluster
    (hCluster : cluster ∈ s.clusters.zipIdx) => List.mem_zipIdx_iff_getElem?.mp hCluster
  refine ⟨hDrawn, hSame, fun i cluster hAt hView => ?_⟩
  rw [addOrUpdateClusters, hSame] at hAt
  exact hShown (cluster, i) (List.mem_zipIdx_iff_getElem?.mpr hAt) hView

omit [DecidableEq α] [LinearOrder K] [NatCast K] in
/-- Without markers nothing has to be rendered. -/
theorem drawn_start (hMarkers : s.markers = []) (hRendered : s.renderedClusters = []) :
    s.Drawn := by
  refine ⟨hRendered ▸ List.nodup_nil, [], hMarkers, ?_⟩
  rw [hRendered]
  exact .nil

theorem prepareClustersForAnimation_renderedClusters (clusters : List (GMUStaticCluster α P))
    (isZoomingIn : Bool) :
    (s.prepareClustersForAnimation camera clusters isZoomingIn).renderedClusters =
      s.renderedClusters := by
  unfold prepareClustersForAnimation
  split_ifs <;> rfl

variable (s) in
/-- **New clusters**: the markers are theirs, and those in view have them. -/
theorem renderClusters_spec (clusters : List (GMUStaticCluster α P)) :
    (s.renderClusters position camera clusters).Drawn ∧
      (s.renderClusters position camera clusters).clusters = clusters ∧
      (s.renderClusters position camera clusters).InView position camera := by
  simp only [renderClusters]
  split_ifs with hAnimates
  · simp only [renderAnimatedClusters]
    generalize hPrepared : prepareClustersForAnimation camera
      { s with renderedClusters := [], renderedClusterItems := [] } clusters
      (decide (s.previousZoom < camera.zoom)) = prepared
    have hStart : ({ prepared with previousZoom := camera.zoom, clusters, markers := [] } :
        GMUDefaultClusterRenderer α P K).Drawn := by
      refine drawn_start rfl ?_
      rw [← hPrepared]
      exact prepareClustersForAnimation_renderedClusters camera clusters _
    obtain ⟨hDrawn, hSame, hView⟩ := addOrUpdateClusters_spec position camera
      (decide (s.previousZoom < camera.zoom)) hStart
    split_ifs
    · exact ⟨hDrawn, hSame, hView⟩
    · exact ⟨hDrawn, hSame, hView⟩
  · exact addOrUpdateClusters_spec position camera false (drawn_start rfl rfl)

omit [DecidableEq α] in
/-- **A moved camera**: what comes into view gets its markers. -/
theorem update_spec (h : s.Drawn) :
    (s.update position camera).Drawn ∧ (s.update position camera).clusters = s.clusters ∧
      (s.update position camera).InView position camera :=
  addOrUpdateClusters_spec position camera false h

-- ---------------------------------------------------------------------------
-- What the markers stand for
-- ---------------------------------------------------------------------------

/-- Entries at different places are some of the entries, each at most once. -/
theorem subperm_of_places {β : Type*} {l : List β} {places : List ℕ} (hNodup : places.Nodup)
    (hLt : ∀ i ∈ places, i < l.length) : (places.filterMap (l[·]?)).Subperm l := by
  have hMap : (List.range l.length).map (l[·]?) = l.map some :=
    List.ext_getElem (by simp) fun i hi hi' => by simp
  have hAll : (List.range l.length).filterMap (l[·]?) = l :=
    calc (List.range l.length).filterMap (l[·]?)
        = ((List.range l.length).map (l[·]?)).filterMap id := by rw [List.filterMap_map]; rfl
      _ = (l.map some).filterMap id := by rw [hMap]
      _ = l := by rw [List.filterMap_map]; exact List.filterMap_some
  obtain ⟨chosen, hPerm, hSublist⟩ := hNodup.subperm fun i hi => List.mem_range.mpr (hLt i hi)
  have hChosen := hSublist.filterMap (l[·]?)
  rw [hAll] at hChosen
  exact ⟨_, hPerm.filterMap _, hChosen⟩

omit [DecidableEq α] in
/-- The markers of clusters stand for their items. -/
theorem items_of_parts {clusters : List (GMUStaticCluster α P)} {places : List ℕ}
    {parts : List (List (GMSMarker α P))}
    (h : List.Forall₂ (fun (i : ℕ) part => ∃ cluster, clusters[i]? = some cluster ∧
      Draws cluster part) places parts) :
    (∀ i ∈ places, i < clusters.length) ∧
      parts.flatten.flatMap GMSMarker.items =
        (places.filterMap (clusters[·]?)).flatMap GMUStaticCluster.items := by
  induction h with
  | nil => exact ⟨fun i hi => (by cases hi), rfl⟩
  | cons hPart _ ih =>
    obtain ⟨cluster, hAt, hDraws⟩ := hPart
    refine ⟨List.forall_mem_cons.mpr ⟨(List.getElem?_eq_some_iff.mp hAt).1, ih.1⟩, ?_⟩
    rw [List.flatten_cons, List.flatMap_append, ih.2, List.filterMap_cons, hAt, List.flatMap_cons]
    rcases hDraws with ⟨-, rfl⟩ | rfl
    · simp [GMSMarker.items]
    · simp [GMSMarker.items, List.flatMap_map]

omit [DecidableEq α] [LinearOrder K] [NatCast K] in
/-- The markers stand for items of the clusters, as often as those have them. -/
theorem Drawn.items_subperm (h : s.Drawn) :
    (s.markers.flatMap GMSMarker.items).Subperm
      (s.clusters.flatMap GMUStaticCluster.items) := by
  obtain ⟨hNodup, parts, hMarkers, hParts⟩ := h
  obtain ⟨hLt, hItems⟩ := items_of_parts hParts
  obtain ⟨chosen, hPerm, hSublist⟩ := subperm_of_places hNodup hLt
  rw [hMarkers, hItems]
  exact ⟨_, hPerm.flatMap_right _, hSublist.flatMap _⟩

end GMUDefaultClusterRenderer

end PriceMap.Clusters

import PriceMap.Clusters.Algorithm

/-!
# Clusters — every item by its nearest centre

The loops of `clustersAtZoom` keep, for every item seen, the cluster it is in
and its distance from the centre. `Gathered` says so of the two maps, the set of
processed items and the clusters at once: one visit takes an item to the better
of two clusters (`Gathered.visit`), one round of the outer loop adds a centre.

* `clusters_right` — the clusters of every state that a run reaches.
-/

namespace PriceMap.Clusters

open Lib Tiles

variable {α P K : Type*} [DecidableEq α]

-- ---------------------------------------------------------------------------
-- Items in clusters
-- ---------------------------------------------------------------------------

/-- Every item is once in the cluster that owns it, and in no other. -/
structure Sorted (clusters : List (GMUStaticCluster α P)) (owner : α → Option ℕ) : Prop where
  nodup : ∀ cluster ∈ clusters, cluster.items.Nodup
  mem_iff : ∀ (i : ℕ) cluster, clusters[i]? = some cluster →
    ∀ x, x ∈ cluster.items ↔ owner x = some i
  lt : ∀ x i, owner x = some i → i < clusters.length

variable {clusters : List (GMUStaticCluster α P)} {owner : α → Option ℕ} {x : α} {k : ℕ}

omit [DecidableEq α] in
theorem sorted_nil : Sorted ([] : List (GMUStaticCluster α P)) fun _ : α => none :=
  ⟨fun _ h => (by cases h), fun _ _ h => (by cases h), fun _ _ h => (by cases h)⟩

omit [DecidableEq α] in
/-- A new cluster owns nothing. -/
theorem Sorted.push (h : Sorted clusters owner) (position : P) :
    Sorted (clusters ++ [.initWithPosition position]) owner := by
  refine ⟨fun cluster hMem => ?_, fun i cluster hAt y => ?_, fun y i hOwner => ?_⟩
  · rcases List.mem_append.mp hMem with hOld | hNew
    · exact h.nodup cluster hOld
    · rw [List.mem_singleton.mp hNew]
      exact List.nodup_nil
  · rcases getElem?_append_singleton hAt with hOld | ⟨rfl, rfl⟩
    · exact h.mem_iff i cluster hOld y
    · refine iff_of_false List.not_mem_nil fun hOwner => ?_
      exact absurd (h.lt y _ hOwner) (lt_irrefl _)
  · have hLt := h.lt y i hOwner
    rw [List.length_append]
    omega

/-- A removed item has no owner. -/
theorem Sorted.removeItem (h : Sorted clusters owner) (hOwner : owner x = some k) :
    Sorted (clusters.modify k (.removeItem x)) (Function.update owner x none) := by
  refine ⟨fun cluster hMem => ?_, fun i cluster hAt y => ?_, fun y i hy => ?_⟩
  · obtain ⟨i, hi⟩ := List.getElem?_of_mem hMem
    rw [List.getElem?_modify, Option.map_eq_map, Option.map_eq_some_iff] at hi
    obtain ⟨old, hOld, rfl⟩ := hi
    have hNodup := h.nodup old (List.mem_of_getElem? hOld)
    split_ifs
    · exact hNodup.filter _
    · exact hNodup
  · rw [List.getElem?_modify, Option.map_eq_map, Option.map_eq_some_iff] at hAt
    obtain ⟨old, hOld, rfl⟩ := hAt
    have hMem := h.mem_iff i old hOld y
    by_cases hy : y = x
    · subst hy
      rw [Function.update_self]
      split_ifs with hk
      · simp [GMUStaticCluster.removeItem]
      · rw [hMem, hOwner]
        simp [hk]
    · rw [Function.update_of_ne hy, ← hMem]
      split_ifs
      · simp [GMUStaticCluster.removeItem, hy]
      · rfl
  · rw [List.length_modify]
    by_cases hyx : y = x
    · rw [hyx, Function.update_self] at hy
      cases hy
    · rw [Function.update_of_ne hyx] at hy
      exact h.lt y i hy

/-- An item without an owner gets one. -/
theorem Sorted.addItem (h : Sorted clusters owner) (hOwner : owner x = none)
    (hk : k < clusters.length) :
    Sorted (clusters.modify k (.addItem x)) (Function.update owner x (some k)) := by
  have hNew : ∀ (i : ℕ) cluster, clusters[i]? = some cluster → x ∉ cluster.items := by
    intro i cluster hAt hMem
    rw [h.mem_iff i cluster hAt, hOwner] at hMem
    cases hMem
  refine ⟨fun cluster hMem => ?_, fun i cluster hAt y => ?_, fun y i hy => ?_⟩
  · obtain ⟨i, hi⟩ := List.getElem?_of_mem hMem
    rw [List.getElem?_modify, Option.map_eq_map, Option.map_eq_some_iff] at hi
    obtain ⟨old, hOld, rfl⟩ := hi
    have hNodup := h.nodup old (List.mem_of_getElem? hOld)
    split_ifs
    · rw [GMUStaticCluster.addItem, ← List.concat_eq_append]
      exact hNodup.concat (hNew i old hOld)
    · exact hNodup
  · rw [List.getElem?_modify, Option.map_eq_map, Option.map_eq_some_iff] at hAt
    obtain ⟨old, hOld, rfl⟩ := hAt
    have hMem := h.mem_iff i old hOld y
    by_cases hy : y = x
    · subst hy
      rw [Function.update_self]
      split_ifs with hki
      · simp [GMUStaticCluster.addItem, hki]
      · simp [hNew i old hOld, hki]
    · rw [Function.update_of_ne hy, ← hMem]
      split_ifs
      · simp [GMUStaticCluster.addItem, hy]
      · rfl
  · rw [List.length_modify]
    by_cases hyx : y = x
    · rw [hyx, Function.update_self] at hy
      exact Option.some.inj hy ▸ hk
    · rw [Function.update_of_ne hyx] at hy
      exact h.lt y i hy

omit [DecidableEq α] in
/-- The clusters together have the items that are owned. -/
theorem Sorted.perm (h : Sorted clusters owner) {items : List α} (hItems : items.Nodup)
    (hOwned : ∀ x, x ∈ items ↔ (owner x).isSome = true) :
    (clusters.flatMap GMUStaticCluster.items).Perm items := by
  have hNodup : (clusters.flatMap GMUStaticCluster.items).Nodup := by
    refine List.nodup_flatMap.mpr ⟨h.nodup, List.pairwise_iff_getElem.mpr fun i j hi hj hij => ?_⟩
    intro x hx hx'
    have hOwner := (h.mem_iff i _ (List.getElem?_eq_getElem hi) x).mp hx
    rw [(h.mem_iff j _ (List.getElem?_eq_getElem hj) x).mp hx'] at hOwner
    exact absurd (Option.some.inj hOwner) (by omega)
  refine (List.perm_ext_iff_of_nodup hNodup hItems).mpr fun x => ?_
  rw [hOwned, List.mem_flatMap, Option.isSome_iff_exists]
  constructor
  · rintro ⟨cluster, hCluster, hx⟩
    obtain ⟨i, hi⟩ := List.getElem?_of_mem hCluster
    exact ⟨i, (h.mem_iff i cluster hi x).mp hx⟩
  · rintro ⟨i, hi⟩
    have hAt := List.getElem?_eq_getElem (h.lt x i hi)
    exact ⟨_, List.mem_of_getElem? hAt, (h.mem_iff i _ hAt x).mpr hi⟩

-- ---------------------------------------------------------------------------
-- One centre
-- ---------------------------------------------------------------------------

variable [Field K] [LinearOrder K]

/-- What the loops know: `record` is the cluster and the distance of an item. -/
structure Gathered (g : Geometry α P K) (centers : List α) (record : α → Option (ℕ × K))
    (s : Clustering α P K) : Prop where
  position : s.clusters.map GMUStaticCluster.position = centers.map g.position
  sorted : Sorted s.clusters fun x => (record x).map Prod.fst
  cluster : ∀ x, s.itemToClusterMap.lookup x = (record x).map Prod.fst
  distance : ∀ x, s.itemToClusterDistanceMap.lookup x = (record x).map Prod.snd
  processed : ∀ x, x ∈ s.processedItems ↔ (record x).isSome = true

variable {g : Geometry α P K} {centers : List α} {record : α → Option (ℕ × K)}
  {s : Clustering α P K} {point : GQTPoint K}

omit [Field K] [LinearOrder K] in
/-- Before the first visit nothing is gathered. -/
theorem gathered_empty : Gathered g [] (fun _ => none) (.empty : Clustering α P K) :=
  ⟨rfl, sorted_nil, fun _ => rfl, fun _ => rfl, fun x => by simp [Clustering.empty]⟩

omit [Field K] [LinearOrder K] in
/-- A record is updated in every view of it. -/
theorem map_update {β γ : Type*} (record : α → Option β) (x : α) (v : Option β) (f : β → γ) :
    (fun y => (Function.update record x v y).map f) =
      Function.update (fun y => (record y).map f) x (v.map f) := by
  funext y
  by_cases hy : y = x
  · subst hy
    simp
  · simp [hy]

omit [DecidableEq α] in
/-- Items move between clusters, centres stay. -/
theorem map_position_modify (f : GMUStaticCluster α P → GMUStaticCluster α P)
    (hf : ∀ cluster, (f cluster).position = cluster.position) :
    (clusters.modify k f).map GMUStaticCluster.position =
      clusters.map GMUStaticCluster.position := by
  refine List.ext_getElem? fun i => ?_
  rw [List.getElem?_map, List.getElem?_map, List.getElem?_modify]
  cases clusters[i]? with
  | none => rfl
  | some cluster =>
    simp only [Option.map_eq_map, Option.map_some]
    split_ifs
    · rw [hf]
    · rfl

omit [Field K] [LinearOrder K] in
/-- An item in no cluster is put in one. -/
theorem Gathered.addToCluster (h : Gathered g centers record s) {d : K}
    {clusters : List (GMUStaticCluster α P)}
    (hPosition : clusters.map GMUStaticCluster.position =
      s.clusters.map GMUStaticCluster.position)
    (hSorted : Sorted clusters (Function.update (fun y => (record y).map Prod.fst) x none))
    (hk : k < clusters.length) :
    Gathered g centers (Function.update record x (some (k, d)))
      (Clustering.addToCluster k d x { s with clusters }) := by
  refine ⟨?_, ?_, fun y => ?_, fun y => ?_, fun y => ?_⟩
  · show (clusters.modify k (.addItem x)).map GMUStaticCluster.position = _
    rw [map_position_modify (.addItem x) fun _ => rfl, hPosition, h.position]
  · rw [map_update]
    have hAdded := hSorted.addItem (Function.update_self ..) hk
    rwa [Function.update_idem] at hAdded
  · by_cases hy : y = x
    · subst hy
      rw [Clustering.addToCluster, AList.lookup_insert, Function.update_self]
      rfl
    · rw [Clustering.addToCluster, AList.lookup_insert_ne hy, Function.update_of_ne hy]
      exact h.cluster y
  · by_cases hy : y = x
    · subst hy
      rw [Clustering.addToCluster, AList.lookup_insert, Function.update_self]
      rfl
    · rw [Clustering.addToCluster, AList.lookup_insert_ne hy, Function.update_of_ne hy]
      exact h.distance y
  · rw [Clustering.addToCluster, Finset.mem_insert]
    by_cases hy : y = x
    · subst hy
      simp
    · rw [Function.update_of_ne hy, ← h.processed]
      simp [hy]

variable (point) in
/-- **One visit** takes the item to the better of two clusters. -/
theorem Gathered.visit (h : Gathered g centers record s) (hk : k < s.clusters.length) (x : α) :
    Gathered g centers
      (Function.update record x
        (closer (record x) k (some (distanceSquaredBetweenPointA point (g.point x)))))
      (visit g point k s x) := by
  have hDistance := h.distance x
  have hCluster := h.cluster x
  unfold Clusters.visit
  cases hRecord : record x with
  | none =>
    rw [hRecord, Option.map_none] at hDistance
    simp only [hDistance, closer]
    refine h.addToCluster rfl ?_ hk
    have hOwner : (record x).map Prod.fst = none := by rw [hRecord]; rfl
    rw [← hOwner, Function.update_eq_self x fun y => (record y).map Prod.fst]
    exact h.sorted
  | some best =>
    obtain ⟨i, e⟩ := best
    rw [hRecord, Option.map_some] at hDistance hCluster
    simp only [hDistance, closer]
    split_ifs with hFurther
    · rw [← hRecord, Function.update_eq_self]
      refine ⟨h.position, h.sorted, h.cluster, h.distance, fun y => ?_⟩
      rw [Finset.mem_insert, ← h.processed]
      refine ⟨fun hy => hy.elim (fun hyx => ?_) id, Or.inr⟩
      rw [hyx, h.processed, hRecord]
      rfl
    · rw [Clustering.removeFromExistingCluster, hCluster]
      refine h.addToCluster (map_position_modify _ fun _ => rfl) ?_ ?_
      · exact h.sorted.removeItem (by rw [hRecord]; rfl)
      · rw [List.length_modify]
        exact hk

/-- A visit makes no cluster. -/
theorem length_clusters_visit (x : α) :
    (visit g point k s x).clusters.length = s.clusters.length := by
  unfold visit Clustering.removeFromExistingCluster Clustering.addToCluster
  cases s.itemToClusterDistanceMap.lookup x with
  | none => simp
  | some e =>
    dsimp only
    split_ifs
    · rfl
    · cases s.itemToClusterMap.lookup x <;> simp

variable (point) in
/-- **The loop over the items nearby.** -/
theorem Gathered.visits (h : Gathered g centers record s) (hk : k < s.clusters.length)
    {nearbyItems : List α} (hNodup : nearbyItems.Nodup) :
    Gathered g centers
      (fun x => if x ∈ nearbyItems then
        closer (record x) k (some (distanceSquaredBetweenPointA point (g.point x))) else record x)
      (nearbyItems.foldl (Clusters.visit g point k) s) := by
  induction nearbyItems generalizing s record with
  | nil => simpa using h
  | cons x rest ih =>
    obtain ⟨hx, hRest⟩ := List.nodup_cons.mp hNodup
    have hVisits := ih (h.visit point hk x) (by rwa [length_clusters_visit]) hRest
    rw [List.foldl_cons]
    refine cast (congrArg (Gathered g centers · _) (funext fun y => ?_)) hVisits
    by_cases hy : y = x
    · subst hy
      simp [hx]
    · simp [hy]

-- ---------------------------------------------------------------------------
-- All centres
-- ---------------------------------------------------------------------------

variable (g) in
/-- The distance of an item from a centre whose bounds it is in, squared. -/
def reach (zoom : ℕ) (item center : α) : Option K :=
  if (clusterBounds zoom (g.point center)).contains (g.point item) then
    some (distanceSquaredBetweenPointA (g.point center) (g.point item))
  else none

variable (g) in
/-- The items found in the tree, by their nearest centre. -/
def recorded (zoom : ℕ) (items centers : List α) (item : α) : Option (ℕ × K) :=
  if item ∈ items then nearest (reach g zoom item) centers else none

variable {zoom : ℕ} {items : List α} {quadTree : GQTPointQuadTree α K} {item : α}

/-- **One round** of the outer loop. -/
theorem Gathered.clusterItem (h : Gathered g centers (recorded g zoom items centers) s)
    (hItems : items.Nodup)
    (hSearch : ∀ searchBounds, (quadTree.searchWithBounds g.mean g.point searchBounds).Perm
      (items.filter fun x => searchBounds.contains (g.point x)))
    (hItem : item ∈ items) :
    Gathered g (coverStep (reach g zoom) centers item)
      (recorded g zoom items (coverStep (reach g zoom) centers item))
      (Clusters.clusterItem g quadTree zoom s item) := by
  have hProcessed := h.processed item
  rw [recorded, if_pos hItem] at hProcessed
  unfold Clusters.clusterItem coverStep
  simp only [hProcessed]
  split_ifs with hReached
  · exact h
  · have hLength : s.clusters.length = centers.length := by
      simpa using congrArg List.length h.position
    have hPushed : Gathered g (centers ++ [item]) (recorded g zoom items centers)
        { s with clusters := s.clusters ++ [.initWithPosition (g.position item)] } := by
      refine ⟨?_, h.sorted.push _, h.cluster, h.distance, h.processed⟩
      rw [List.map_append, List.map_append, h.position]
      rfl
    have hPerm := hSearch (clusterBounds zoom (g.point item))
    have hVisits := hPushed.visits (g.point item) (k := s.clusters.length) (by simp)
      (hPerm.nodup_iff.mpr (hItems.filter _))
    refine cast (congrArg (Gathered g (centers ++ [item]) · _) (funext fun x => ?_)) hVisits
    simp only [hPerm.mem_iff, List.mem_filter, hLength, recorded]
    by_cases hx : x ∈ items
    · simp only [hx, true_and, if_true, nearest_append, reach]
      split_ifs <;> rfl
    · simp only [hx, false_and, if_false]

/-- The outer loop gathers all its points. -/
theorem gathered_foldl (hItems : items.Nodup)
    (hSearch : ∀ searchBounds, (quadTree.searchWithBounds g.mean g.point searchBounds).Perm
      (items.filter fun x => searchBounds.contains (g.point x)))
    {points : List α} (hPoints : ∀ x ∈ points, x ∈ items) :
    Gathered g (cover (reach g zoom) points) (recorded g zoom items (cover (reach g zoom) points))
      (points.foldl (Clusters.clusterItem g quadTree zoom) .empty) := by
  induction points using List.reverseRecOn with
  | nil =>
    refine cast (congrArg (Gathered g [] · _) (funext fun x => ?_)) gathered_empty
    rw [recorded]
    split_ifs <;> rfl
  | append_singleton points x ih =>
    have hRest := ih fun y hy => hPoints y (List.mem_append_left _ hy)
    rw [List.foldl_append, cover_append]
    exact hRest.clusterItem hItems hSearch (hPoints x (by simp))

-- ---------------------------------------------------------------------------
-- Every state of a run
-- ---------------------------------------------------------------------------

variable (g) in
/-- What the clusters of a zoom are for: the items by their nearest centre, where
no centre is near an earlier one. -/
structure IsClustering (zoom : ℕ) (items centers : List α)
    (clusters : List (GMUStaticCluster α P)) : Prop where
  among : ∀ c ∈ centers, c ∈ items
  apart : centers.Pairwise fun c c' => reach g zoom c' c = none
  position : clusters.map GMUStaticCluster.position = centers.map g.position
  partition : (clusters.flatMap GMUStaticCluster.items).Perm items
  nearest : ∀ (i : ℕ) cluster, clusters[i]? = some cluster →
    ∀ x, x ∈ cluster.items ↔ x ∈ items ∧ ∃ d, IsNearest (reach g zoom x) centers i d

variable (g) in
/-- The list and the tree hold the same items, each once. -/
structure Stored (s : GMUNonHierarchicalDistanceBasedAlgorithm α K) : Prop where
  nodup : s.items.Nodup
  tree : GQTPointQuadTree.Holds g.mean g.point GMUNonHierarchicalDistanceBasedAlgorithm.world
    s.quadTree s.items

open GMUNonHierarchicalDistanceBasedAlgorithm

variable {a a' : GMUNonHierarchicalDistanceBasedAlgorithm α K}

/-- Every item has a centre in reach, at worst itself. -/
theorem recorded_isSome [IsStrictOrderedRing K] (x : α) :
    x ∈ items ↔
      (recorded g zoom items (cover (reach g zoom) items) x).isSome = true := by
  have hSelf : ∀ x ∈ items, (reach g zoom x x).isSome = true := by
    intro x _
    have hRadius : (0 : K) ≤ clusterRadius zoom := by
      rw [clusterRadius]
      positivity
    have hIn : (clusterBounds zoom (g.point x)).contains (g.point x) = true := by
      refine Box.contains_iff.mpr ⟨⟨?_, ?_⟩, ?_, ?_⟩ <;> simp [clusterBounds, hRadius]
    rw [reach, if_pos hIn]
    rfl
  rw [recorded]
  by_cases hx : x ∈ items
  · rw [if_pos hx]
    exact iff_of_true hx (cover_reaches hSelf x hx)
  · rw [if_neg hx]
    exact iff_of_false hx Bool.false_ne_true

omit [Field K] [LinearOrder K] in
/-- A map with an entry for each item. -/
theorem length_keys {β : Type*} {entries : AList fun _ : α => β} (hItems : items.Nodup)
    (hKeys : ∀ x, x ∈ items ↔ (entries.lookup x).isSome = true) :
    entries.keys.length = items.length := by
  refine ((List.perm_ext_iff_of_nodup entries.keys_nodup hItems).mpr fun x => ?_).length_eq
  rw [hKeys, AList.lookup_isSome, AList.mem_keys]

/-- **The assertions hold**, and the clusters are those of the items. -/
theorem Stored.clustersAtZoom [IsStrictOrderedRing K] (h : Stored g a) (zoom : ℕ) :
    ∃ clusters centers, a.clustersAtZoom g zoom = some clusters ∧
      IsClustering g zoom a.items centers clusters := by
  have hFound : Gathered g _ _ (a.items.foldl (clusterItem g a.quadTree zoom) .empty) :=
    gathered_foldl h.nodup h.tree.search_perm fun x hx => hx
  rw [GMUNonHierarchicalDistanceBasedAlgorithm.clustersAtZoom]
  generalize a.items.foldl (clusterItem g a.quadTree zoom) .empty = found at hFound ⊢
  have hOwned : ∀ x, x ∈ a.items ↔
      ((recorded g zoom a.items (cover (reach g zoom) a.items) x).map Prod.fst).isSome = true := by
    intro x
    rw [Option.isSome_map]
    exact recorded_isSome x
  have hPartition := hFound.sorted.perm h.nodup hOwned
  have hDistances : found.itemToClusterDistanceMap.keys.length = a.items.length := by
    refine length_keys h.nodup fun x => ?_
    rw [hFound.distance, Option.isSome_map]
    exact recorded_isSome x
  have hClusters : found.itemToClusterMap.keys.length = a.items.length := by
    refine length_keys h.nodup fun x => ?_
    rw [hFound.cluster, Option.isSome_map]
    exact recorded_isSome x
  have hCount : (found.clusters.map GMUStaticCluster.count).sum = a.items.length := by
    have hLength := hPartition.length_eq
    rwa [List.length_flatMap] at hLength
  refine ⟨found.clusters, cover (reach g zoom) a.items, if_pos ⟨hDistances, hClusters, hCount⟩,
    cover_subset, cover_apart, hFound.position, hPartition, fun i cluster hAt x => ?_⟩
  rw [hFound.sorted.mem_iff i cluster hAt, recorded, Option.map_eq_some_iff]
  constructor
  · rintro ⟨⟨j, d⟩, hNearest, rfl⟩
    split_ifs at hNearest with hx
    exact ⟨hx, d, nearest_eq_some_iff.mp hNearest⟩
  · rintro ⟨hx, d, hNearest⟩
    exact ⟨(i, d), by rw [if_pos hx, nearest_eq_some_iff]; exact hNearest, rfl⟩

variable (g) in
/-- What is added is on the map, and new. -/
def AddsNew (t : Transition (GMUNonHierarchicalDistanceBasedAlgorithm α K) (ItemsCall α)) : Prop :=
  ∀ items, t.event = .addItems items →
    items.Nodup ∧ ∀ x ∈ items, x ∉ t.pre.items ∧ world.contains (g.point x) = true

omit [DecidableEq α] in
/-- The algorithm starts with nothing. -/
theorem stored_init : Stored g (init : GMUNonHierarchicalDistanceBasedAlgorithm α K) :=
  ⟨List.nodup_nil, .init⟩

/-- Calls keep list and tree alike. -/
theorem Stored.step (h : Stored g a) {call : ItemsCall α} (hStep : a.step g call = some a')
    (hNew : AddsNew g ⟨a, call, a'⟩) : Stored g a' := by
  cases call with
  | addItems items =>
    obtain rfl := Option.some.inj hStep
    obtain ⟨hNodup, hFresh⟩ := hNew items rfl
    refine ⟨h.nodup.append hNodup fun x hx hx' => (hFresh x hx').1 hx, ?_⟩
    have hAdded := h.tree.foldl_add fun x hx => (hFresh x hx).2
    rwa [Multiset.coe_add, Multiset.coe_eq_coe.mpr List.perm_append_comm] at hAdded
  | removeItem item =>
    obtain rfl := Option.some.inj hStep
    refine ⟨h.nodup.filter _, ?_⟩
    have hItems : a.items.erase item = a.items.filter (· ≠ item) := by
      rw [h.nodup.erase_eq_filter]
      refine List.filter_congr fun x _ => ?_
      rw [Bool.eq_iff_iff, bne_iff_ne, decide_eq_true_eq]
    have hRemoved := (h.tree.remove item).2
    rwa [Multiset.coe_erase, hItems] at hRemoved
  | clearItems =>
    obtain rfl := Option.some.inj hStep
    refine ⟨List.nodup_nil, ?_⟩
    have hEmpty := h.tree.bounds_
    exact ⟨hEmpty, rfl, rfl, GQTPointQuadTreeChild.placed_init, GQTPointQuadTreeChild.capped_init⟩

/-- **Every run that adds what is new**: the assertions never fail, and the
clusters of every zoom are the items by their nearest centre. -/
theorem clusters_right [IsStrictOrderedRing K] (g : Geometry α P K) (calls : List (ItemsCall α))
    (h : ∀ t ∈ transitions (step g) init calls, AddsNew g t) :
    ∀ s ∈ states (step g) init calls, ∀ zoom, ∃ clusters centers,
      s.clustersAtZoom g zoom = some clusters ∧ IsClustering g zoom s.items centers clusters :=
  fun s hs zoom =>
    (forall_states (fun _ _ _ hStored hStep hNew => hStored.step hStep hNew) stored_init h s
      hs).clustersAtZoom zoom

/-- Items on the equator, each at the longitude of its number. -/
noncomputable def equator : Geometry ℕ (ℝ × ℝ) ℝ where
  position n := (0, n)
  project p := GMSProject p.1 p.2
  mean := halfway

/-- Points of the equator are on the map. -/
theorem world_equator {n : ℕ} (hn : n ≤ 180) :
    (world : GQTBounds ℝ).contains (equator.point n) = true := by
  have hX : Backend.toRadians n / Real.pi = n / 180 := by
    rw [Backend.toRadians]
    field_simp
  have hY : Backend.toRadians 0 = 0 := by simp [Backend.toRadians]
  have hLongitude : (n : ℝ) / 180 ≤ 1 := by
    rw [div_le_one (by norm_num)]
    exact_mod_cast hn
  have hZero : 0 ≤ (n : ℝ) / 180 := by positivity
  refine Box.contains_iff.mpr ⟨⟨?_, ?_⟩, ?_, ?_⟩ <;>
    simp [world, equator, Geometry.point, GMSProject, hX, hY] <;> linarith

theorem clusters_right_equator :
    ∃ clusters centers,
      (((init.addItems equator [10, 20]).removeItem equator 10).addItems equator
        [10]).clustersAtZoom equator 3 = some clusters ∧
      IsClustering equator 3 [20, 10] centers clusters := by
  refine clusters_right equator [.addItems [10, 20], .removeItem 10, .addItems [10]]
    (fun t ht => ?_) _ (by simp [states, transitions, step]) 3
  simp only [transitions, step, List.mem_cons, List.not_mem_nil, or_false] at ht
  rcases ht with rfl | rfl | rfl
  · rintro items ⟨⟩
    simp [init, world_equator]
  · rintro items ⟨⟩
  · rintro items ⟨⟩
    simp [init, GMUNonHierarchicalDistanceBasedAlgorithm.addItems,
      GMUNonHierarchicalDistanceBasedAlgorithm.removeItem, world_equator]

end PriceMap.Clusters

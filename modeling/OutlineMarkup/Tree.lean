import OutlineMarkup.Forest
import OutlineMarkup.Node.Basic

/-! A template's nodes in one arena. A node is created detached, gets the next free number as its
name, and is attached to a parent at most once. -/
namespace OutlineMarkup

/-- A node's name: its position in the arena. -/
abbrev NodeId := Nat

/-- Where an attached node stands: its parent and its position among the parent's children. -/
structure Place where
  parent : NodeId
  index : Nat
  deriving Repr, DecidableEq

/-- A node with its place, once it has one, and its children in order. -/
structure Slot where
  node : Node
  place? : Option Place := none
  children : List NodeId := []
  deriving Repr, DecidableEq

/-- All nodes ever created, the root first. -/
structure Tree where
  slots : Array Slot := #[{ node := .root }]
  deriving Repr, DecidableEq

namespace Tree

def root : NodeId := 0

/-- The number of nodes, detached ones included. -/
def size (tree : Tree) : Nat := tree.slots.size

def isEmpty (tree : Tree) : Bool := tree.size == 1

/-- A node by its name; a name not in use reads as a blank line. -/
def node (tree : Tree) (id : NodeId) : Node := (tree.slots[id]?.map Slot.node).getD .empty

def children (tree : Tree) (id : NodeId) : List NodeId :=
  (tree.slots[id]?.map Slot.children).getD []

def place? (tree : Tree) (id : NodeId) : Option Place := tree.slots[id]?.bind Slot.place?

def parent? (tree : Tree) (id : NodeId) : Option NodeId := (tree.place? id).map Place.parent

def previous? (tree : Tree) (id : NodeId) : Option NodeId :=
  match tree.place? id with
  | some ⟨parent, index + 1⟩ => (tree.children parent)[index]?
  | _ => none

def next? (tree : Tree) (id : NodeId) : Option NodeId :=
  (tree.place? id).bind fun place => (tree.children place.parent)[place.index + 1]?

/-- Add a detached node; its name is the size of the tree before. -/
def create (tree : Tree) (node : Node) : Tree := ⟨tree.slots.push { node }⟩

/-- Put a node at the end of another's children and record its place there. -/
def link (tree : Tree) (parent child : NodeId) : Tree :=
  let place : Place := ⟨parent, (tree.children parent).length⟩
  ⟨(tree.slots.modify parent fun slot => { slot with children := slot.children ++ [child] })
    |>.modify child fun slot => { slot with place? := some place }⟩

/-- Whether a node can be attached to another: it is in use, has no place yet, and is neither the
root nor the other node. -/
def isFree (tree : Tree) (parent child : NodeId) : Bool :=
  child < tree.size && (tree.place? child).isNone && child != root && child != parent

/-- Attach a node as the last child of another. The other has to be of a kind that has children, and
the node has to be free. -/
def attach (tree : Tree) (parent child : NodeId) : Except Fault Tree :=
  if !(tree.node parent).allowsChildren then .error (.childrenNotAllowed (tree.node parent).kind)
  else if tree.isFree parent child then .ok (tree.link parent child)
  else .error .alreadyParented

/-- The number of steps from a node up to one that has no parent, in at most `fuel` steps. -/
def climb (tree : Tree) : (fuel : Nat) → NodeId → Nat
  | 0, _ => 0
  | fuel + 1, id =>
    match tree.parent? id with
    | some parent => tree.climb fuel parent + 1
    | none => 0

/-- The number of ancestors above a node's parent, for a node that has a parent. -/
def depth? (tree : Tree) (id : NodeId) : Option Nat :=
  (tree.parent? id).map (tree.climb tree.size)

/-- The forest below a list of nodes, down to `fuel` levels. -/
def grow (tree : Tree) : (fuel : Nat) → List NodeId → Forest NodeId
  | 0, _ => .nil
  | fuel + 1, ids =>
    ids.foldr (fun id siblings => .cons id (tree.grow fuel (tree.children id)) siblings) .nil

/-- The names below a node, as a forest. No path below the root is longer than the number of
nodes. -/
def below (tree : Tree) (id : NodeId) : Forest NodeId := tree.grow tree.size (tree.children id)

/-- A node's own name and all names below it, in document order. -/
def preorder (tree : Tree) (id : NodeId) : List NodeId := id :: (tree.below id).preorder

def outline (tree : Tree) (id : NodeId) : Forest Node := (tree.below id).map tree.node

@[simp] theorem size_create (tree : Tree) (node : Node) :
    (tree.create node).size = tree.size + 1 := by
  simp [size, create]

@[simp] theorem node_create (tree : Tree) (node : Node) (id : NodeId) :
    (tree.create node).node id = if id = tree.size then node else tree.node id := by
  by_cases h : id = tree.size <;> simp_all [Tree.node, create, size, Array.getElem?_push]

@[simp] theorem children_create (tree : Tree) (node : Node) (id : NodeId) :
    (tree.create node).children id = tree.children id := by
  by_cases h : id = tree.size <;> simp_all [children, create, size, Array.getElem?_push]

@[simp] theorem place?_create (tree : Tree) (node : Node) (id : NodeId) :
    (tree.create node).place? id = tree.place? id := by
  by_cases h : id = tree.size <;> simp_all [place?, create, size, Array.getElem?_push]

@[simp] theorem size_link (tree : Tree) (parent child : NodeId) :
    (tree.link parent child).size = tree.size := by
  simp [size, link]

theorem getElem?_link (tree : Tree) (parent child id : NodeId) :
    (tree.link parent child).slots[id]? = tree.slots[id]?.map fun slot =>
      { slot with
        children := if id = parent then slot.children ++ [child] else slot.children
        place? := if id = child then some ⟨parent, (tree.children parent).length⟩
          else slot.place? } := by
  simp only [link, Array.getElem?_modify]
  cases tree.slots[id]? with
  | none => simp
  | some slot => by_cases hp : parent = id <;> by_cases hc : child = id <;> simp [hp, hc, Ne.symm]

@[simp] theorem node_link (tree : Tree) (parent child id : NodeId) :
    (tree.link parent child).node id = tree.node id := by
  unfold node
  rw [getElem?_link]
  cases tree.slots[id]? <;> rfl

/-- Linking adds the child at the end of its parent's children. -/
theorem children_link (tree : Tree) {parent child : NodeId} (h : parent < tree.size)
    (id : NodeId) :
    (tree.link parent child).children id =
      if id = parent then tree.children id ++ [child] else tree.children id := by
  have hs : (tree.link parent child).children id =
      (tree.slots[id]?.map fun slot =>
        if id = parent then slot.children ++ [child] else slot.children).getD [] := by
    rw [children, getElem?_link, Option.map_map]
    rfl
  rw [hs, children]
  by_cases hp : id = parent
  · subst hp
    simp [Array.getElem?_eq_getElem (show id < tree.slots.size from h)]
  · simp [hp]

/-- Linking gives the child its place. -/
theorem place?_link (tree : Tree) {parent child : NodeId} (h : child < tree.size) (id : NodeId) :
    (tree.link parent child).place? id =
      if id = child then some ⟨parent, (tree.children parent).length⟩ else tree.place? id := by
  rw [place?, getElem?_link, place?]
  by_cases hc : id = child
  · subst hc
    simp [Array.getElem?_eq_getElem (show id < tree.slots.size from h)]
  · simp only [hc, if_false]
    cases tree.slots[id]? <;> rfl

theorem attach_eq_ok_iff {tree tree' : Tree} {parent child : NodeId} :
    tree.attach parent child = .ok tree' ↔
      (tree.node parent).allowsChildren ∧ tree.isFree parent child ∧
        tree' = tree.link parent child := by
  unfold attach
  cases (tree.node parent).allowsChildren <;> cases tree.isFree parent child <;> simp [eq_comm]

end Tree
end OutlineMarkup

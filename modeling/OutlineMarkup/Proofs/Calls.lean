import Mathlib.Data.List.Induction
import Mathlib.Data.List.Nodup
import OutlineMarkup.Proofs.Arena

/-! Calls on a tree in any order, with those that fail among them. Attaching a node writes to two
slots, its parent's list of children and its own place; both checks come before the first write, so
an attachment that is refused has written nothing. What children are listed, what places are
recorded and which siblings are found from them stay three views of one arrangement. -/
namespace OutlineMarkup.Tree

def listChild (tree : Tree) (parent child : NodeId) : Tree :=
  ⟨tree.slots.modify parent fun slot => { slot with children := slot.children ++ [child] }⟩

def recordPlace (tree : Tree) (child : NodeId) (place : Place) : Tree :=
  ⟨tree.slots.modify child fun slot => { slot with place? := some place }⟩

/-- A program that changes a tree in place. What it has written before a fault stays written. -/
abbrev InPlace (α : Type) := ExceptT Fault (StateM Tree) α

def InPlace.runOn {α : Type} (program : InPlace α) (tree : Tree) : Except Fault α × Tree :=
  (ExceptT.run program).run tree

def createInPlace (node : Node) : InPlace NodeId := do
  let tree ← get
  set (tree.create node)
  return tree.size

/-- Attach a node in place, one check and one write after another. -/
def attachInPlace (parent child : NodeId) : InPlace Unit := do
  let tree ← get
  unless (tree.node parent).allowsChildren do
    throw (.childrenNotAllowed (tree.node parent).kind)
  unless tree.isFree parent child do
    throw .alreadyParented
  let index := (tree.children parent).length
  modify fun tree => tree.listChild parent child
  modify fun tree => tree.recordPlace child ⟨parent, index⟩

/-- A program that reads the tree first goes on with the tree it runs on. -/
lemma runOn_get_bind {α : Type} (next : Tree → InPlace α) (tree : Tree) :
    InPlace.runOn (get >>= next) tree = (next tree).runOn tree := rfl

/-- Attaching in place leaves the attached tree behind, or the tree as it was and the fault. -/
lemma runOn_attachInPlace (tree : Tree) (parent child : NodeId) :
    (attachInPlace parent child).runOn tree =
      match tree.attach parent child with
      | .ok tree' => (.ok (), tree')
      | .error fault => (.error fault, tree) := by
  rw [attachInPlace, runOn_get_bind, attach]
  cases (tree.node parent).allowsChildren with
  | false => rfl
  | true =>
    cases tree.isFree parent child with
    | false => rfl
    | true => rfl

/-- A fault found in place is that of the attachment, and nothing was written before it. -/
lemma eq_of_runOn_attachInPlace {tree left : Tree} {parent child : NodeId} {fault : Fault}
    (h : (attachInPlace parent child).runOn tree = (.error fault, left)) :
    tree.attach parent child = .error fault ∧ left = tree := by
  rw [runOn_attachInPlace] at h
  split at h
  · cases h
  · next hfault =>
    cases h
    exact ⟨hfault, rfl⟩

inductive Call where
  | create (node : Node)
  | attach (parent child : NodeId)
  deriving Repr, DecidableEq

def Call.perform : Call → InPlace Unit
  | create node => discard (createInPlace node)
  | attach parent child => attachInPlace parent child

/-- The tree that some calls leave behind, each run on what the one before has left, whether that
one failed or not. -/
def after (calls : List Call) : Tree :=
  calls.foldl (fun tree call => (call.perform.runOn tree).2) {}

lemma after_concat (calls : List Call) (call : Call) :
    after (calls ++ [call]) = (call.perform.runOn (after calls)).2 := by
  rw [after, List.foldl_append]
  rfl

/-- One call, failing or not, leaves a grown tree behind. -/
lemma Grown.perform {tree : Tree} (grown : Grown tree) (call : Call) :
    Grown (call.perform.runOn tree).2 := by
  cases call with
  | create node => exact grown.create node
  | attach parent child =>
    rw [Call.perform, runOn_attachInPlace]
    cases attached : tree.attach parent child with
    | error fault => exact grown
    | ok tree' => exact grown.attach attached

/-- Every run of calls leaves a grown tree behind. -/
theorem grown_after (calls : List Call) : Grown (after calls) := by
  induction calls using List.reverseRecOn with
  | nil => exact .start
  | append_singleton calls call ih =>
    rw [after_concat]
    exact ih.perform call

namespace Sound

variable {tree : Tree}

/-- The sibling after a node has the next place. -/
lemma next?_eq_some_iff (sound : Sound tree) {id other : NodeId} :
    tree.next? id = some other ↔ ∃ parent index,
      tree.place? id = some ⟨parent, index⟩ ∧ tree.place? other = some ⟨parent, index + 1⟩ := by
  rw [next?, Option.bind_eq_some_iff]
  constructor
  · rintro ⟨⟨parent, index⟩, hplace, hother⟩
    exact ⟨parent, index, hplace, (sound.getElem?_children_iff _ _ _).1 hother⟩
  · rintro ⟨parent, index, hplace, hother⟩
    exact ⟨⟨parent, index⟩, hplace, (sound.getElem?_children_iff _ _ _).2 hother⟩

/-- The sibling before a node has the place before. -/
lemma previous?_eq_some_iff (sound : Sound tree) {id other : NodeId} :
    tree.previous? other = some id ↔ ∃ parent index,
      tree.place? id = some ⟨parent, index⟩ ∧ tree.place? other = some ⟨parent, index + 1⟩ := by
  unfold previous?
  constructor
  · intro h
    split at h
    · next parent index hother =>
      exact ⟨parent, index, (sound.getElem?_children_iff _ _ _).1 h, hother⟩
    · cases h
  · rintro ⟨parent, index, hplace, hother⟩
    rw [hother]
    exact (sound.getElem?_children_iff _ _ _).2 hplace

/-- No node is listed twice, neither by one node nor by two. -/
lemma nodup_flatMap_children (sound : Sound tree) :
    ((List.range tree.size).flatMap tree.children).Nodup := by
  rw [List.nodup_flatMap]
  refine ⟨fun id _ => sound.nodup_children id, ?_⟩
  refine List.nodup_range.pairwise_of_forall_ne fun parent _ other _ hne => ?_
  intro child hchild hchild'
  exact hne (sound.parent_unique hchild hchild')

end Sound

/-- Lists of children, recorded places and siblings agree, and a refused attachment changes
nothing. -/
structure Consistent (tree : Tree) : Prop where
  getElem?_children_iff : ∀ parent index child,
    (tree.children parent)[index]? = some child ↔ tree.place? child = some ⟨parent, index⟩
  nodup_children : ((List.range tree.size).flatMap tree.children).Nodup
  parent?_root : tree.parent? root = none
  allowsChildren : ∀ id, tree.children id ≠ [] → (tree.node id).allowsChildren
  next?_iff_previous? : ∀ id other, tree.next? id = some other ↔ tree.previous? other = some id
  places_of_next? : ∀ id other, tree.next? id = some other → ∃ parent index,
    tree.place? id = some ⟨parent, index⟩ ∧ tree.place? other = some ⟨parent, index + 1⟩
  eq_of_fault : ∀ parent child fault left,
    (attachInPlace parent child).runOn tree = (.error fault, left) →
      tree.attach parent child = .error fault ∧ left = tree

/-- Whatever calls were made, in any order and with those that failed, the tree they leave behind
is consistent. -/
theorem consistent_after (calls : List Call) : Consistent (after calls) := by
  have sound := (grown_after calls).sound
  constructor
  case getElem?_children_iff => exact sound.getElem?_children_iff
  case nodup_children => exact sound.nodup_flatMap_children
  case parent?_root => rw [parent?, sound.place?_root, Option.map_none]
  case allowsChildren =>
    intro id hne
    obtain ⟨child, hchild⟩ := List.exists_mem_of_ne_nil _ hne
    exact sound.allowsChildren id child hchild
  case next?_iff_previous? =>
    intro id other
    rw [sound.next?_eq_some_iff, sound.previous?_eq_some_iff]
  case places_of_next? => exact fun id other => sound.next?_eq_some_iff.1
  case eq_of_fault => exact fun _ _ _ _ => eq_of_runOn_attachInPlace

end OutlineMarkup.Tree

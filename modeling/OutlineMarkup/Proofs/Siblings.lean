import OutlineMarkup.Layout
import OutlineMarkup.Proofs.Planting

/-! Siblings and chains of control tags. A node looks forward one sibling to see whether it is gone
on with, and back along its siblings for the node that began its chain. Walking a forest from left
to right with a link to the sibling before finds the same. -/
namespace OutlineMarkup

namespace Forest

variable {α β : Type}

/-- What a walk meets, in order: something when it enters a tree, then the children's, then
something when it leaves the tree. -/
def walk (enter leave : α → List β) : Forest α → List β
  | nil => []
  | cons label children siblings =>
    enter label ++ children.walk enter leave ++ leave label ++ siblings.walk enter leave

@[simp] lemma walk_nil (enter leave : α → List β) : (nil : Forest α).walk enter leave = [] := rfl

@[simp] lemma walk_cons (enter leave : α → List β) (label : α) (children siblings : Forest α) :
    (cons label children siblings).walk enter leave =
      enter label ++ children.walk enter leave ++ leave label ++ siblings.walk enter leave := rfl

/-- What a walk meets can be taken further step by step. -/
lemma flatMap_walk {γ : Type} (enter leave : α → List β) (f : β → List γ) (forest : Forest α) :
    (forest.walk enter leave).flatMap f =
      forest.walk (fun label => (enter label).flatMap f)
        (fun label => (leave label).flatMap f) := by
  induction forest with
  | nil => rfl
  | cons label children siblings ihc ihs => simp [ihc, ihs]

end Forest

namespace Tree

/-- The walk below some siblings is made of the walks below each of them. -/
lemma Unfolds.walk_eq {β : Type} {tree : Tree} (sound : Sound tree) {ids : List NodeId}
    {forest : Forest NodeId} (h : Unfolds tree ids forest)
    (hids : ∀ id ∈ ids, ∃ n, Descends tree n root id) (enter leave : NodeId → List β) :
    forest.walk enter leave =
      ids.flatMap fun id => enter id ++ (tree.below id).walk enter leave ++ leave id := by
  induction h with
  | nil => rfl
  | @cons id ids children siblings hc _ _ ihs =>
    obtain ⟨n, hd⟩ := hids id (by simp)
    rw [Forest.walk_cons, ihs fun other ho => hids other (by simp [ho]), List.flatMap_cons,
      sound.below_eq hd hc]

def openingText (tree : Tree) (id : NodeId) : Text := (tree.node id).opening?.getD []

/-- Whether a node goes on with the control tag of another. -/
def continues (tree : Tree) (id previous : NodeId) : Bool :=
  match (tree.node id).control?, (tree.node previous).control? with
  | some control, some before => control.continues before
  | _, _ => false

def isContinued (tree : Tree) (id : NodeId) : Bool := (tree.next? id).any (tree.continues · id)

/-- The siblings before a node, the nearest one first. -/
def earlier (tree : Tree) (id : NodeId) : List NodeId :=
  match tree.place? id with
  | some place => ((tree.children place.parent).take place.index).reverse
  | none => []

/-- Walk back from a node as long as each node goes on with the one before it. -/
def chainFrom (tree : Tree) (id : NodeId) : List NodeId → NodeId
  | [] => id
  | previous :: rest => if tree.continues id previous then tree.chainFrom previous rest else id

/-- The node that began the chain of a node. -/
def chainStart (tree : Tree) (id : NodeId) : NodeId := tree.chainFrom id (tree.earlier id)

def tagOf (tree : Tree) (id : NodeId) : Text :=
  ((tree.node id).control?.map Control.tag).getD []

/-- The closing line of a node. A control tag that is gone on with has none; any other closes what
the first one of its chain opened. -/
def closing? (tree : Tree) (id : NodeId) : Option Text :=
  match tree.node id with
  | .element element => some element.closing
  | .control _ =>
    if tree.isContinued id then none
    else some (Control.closingOf (tree.tagOf (tree.chainStart id)))
  | _ => none

/-- Some nodes are the children of one parent from some point on; those before come first, the
nearest one in front. -/
def Stands (tree : Tree) (before ids : List NodeId) : Prop :=
  ∃ parent, tree.children parent = before.reverse ++ ids

namespace Stands

variable {tree : Tree} {before ids : List NodeId} {id : NodeId}

lemma children (tree : Tree) (id : NodeId) : Stands tree [] (tree.children id) := ⟨id, rfl⟩

lemma step (h : Stands tree before (id :: ids)) : Stands tree (id :: before) ids := by
  obtain ⟨parent, hp⟩ := h
  exact ⟨parent, by simp [hp]⟩

lemma place?_eq (sound : Sound tree) (h : Stands tree before (id :: ids)) :
    ∃ parent, tree.place? id = some ⟨parent, before.length⟩ ∧
      tree.children parent = before.reverse ++ id :: ids := by
  obtain ⟨parent, hp⟩ := h
  refine ⟨parent, (sound.getElem?_children_iff parent before.length id).1 ?_, hp⟩
  rw [hp, List.getElem?_append_right (by simp)]
  simp

lemma earlier_eq (sound : Sound tree) (h : Stands tree before (id :: ids)) :
    tree.earlier id = before := by
  obtain ⟨parent, hplace, hp⟩ := h.place?_eq sound
  rw [earlier, hplace]
  dsimp only
  rw [hp, List.take_append_of_le_length (by simp), List.take_of_length_le (by simp),
    List.reverse_reverse]

lemma next?_eq (sound : Sound tree) (h : Stands tree before (id :: ids)) :
    tree.next? id = ids.head? := by
  obtain ⟨parent, hplace, hp⟩ := h.place?_eq sound
  rw [next?, hplace]
  dsimp only [Option.bind_some]
  rw [hp, List.getElem?_append_right (by simp)]
  cases ids <;> simp

end Stands

/-- The link that the nearest of some nodes is for the sibling after it. -/
def linkBefore (tree : Tree) : List NodeId → Option Layout.Link
  | [] => none
  | id :: before => Layout.linkOf (tree.linkBefore before) (tree.node id)

/-- The origin that links carry along is the tag of the node that walking back finds. -/
lemma originOf_linkBefore (tree : Tree) (before : List NodeId) {id : NodeId} {control : Control}
    (h : (tree.node id).control? = some control) :
    Layout.originOf (tree.linkBefore before) control = tree.tagOf (tree.chainFrom id before) := by
  induction before generalizing id control with
  | nil => simp [linkBefore, Layout.originOf, chainFrom, tagOf, h]
  | cons previous rest ih =>
    cases hp : (tree.node previous).control? with
    | none =>
      have hcont : tree.continues id previous = false := by simp [continues, h, hp]
      simp [linkBefore, Layout.linkOf, hp, Layout.originOf, chainFrom, hcont, tagOf, h]
    | some other =>
      have hcont : tree.continues id previous = control.continues other := by
        simp [continues, h, hp]
      simp only [linkBefore, Layout.linkOf, hp, Option.map_some, Layout.originOf, chainFrom, hcont]
      split
      · exact ih hp
      · simp [tagOf, h]

lemma isContinued_eq {tree : Tree} (sound : Sound tree) {before ids : List NodeId} {id : NodeId}
    {siblings : Forest NodeId} (h : Stands tree before (id :: ids))
    (hs : Unfolds tree ids siblings) {control : Control}
    (hc : (tree.node id).control? = some control) :
    Layout.isContinued control (siblings.map tree.node) = tree.isContinued id := by
  rw [isContinued, h.next?_eq sound]
  cases hs with
  | nil => rfl
  | @cons next rest children others _ _ =>
    cases hn : (tree.node next).control? with
    | none => simp [Layout.isContinued, Forest.first?, continues, hn]
    | some other => simp [Layout.isContinued, Forest.first?, continues, hn, hc]

/-- Walking a forest from left to right finds the closing lines that the nodes have. -/
theorem closing?_eq {tree : Tree} (sound : Sound tree) {before ids : List NodeId} {id : NodeId}
    {siblings : Forest NodeId} (h : Stands tree before (id :: ids))
    (hs : Unfolds tree ids siblings) :
    Layout.closing? (tree.linkBefore before) (siblings.map tree.node) (tree.node id) =
      tree.closing? id := by
  unfold closing?
  cases hnode : tree.node id with
  | control control =>
    have hc : (tree.node id).control? = some control := by rw [hnode]; rfl
    simp only [Layout.closing?, isContinued_eq sound h hs hc, originOf_linkBefore tree before hc,
      chainStart, h.earlier_eq sound]
  | _ => rfl

end Tree
end OutlineMarkup

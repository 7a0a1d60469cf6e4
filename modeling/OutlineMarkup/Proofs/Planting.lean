import OutlineMarkup.Line.Reading
import OutlineMarkup.Proofs.Arena

/-! Planting a line in an arena. The nodes of a line are a small tree of their own, its sprout, that
can be told from the line alone. Planting adds the sprout at the end of the arena, detached, and
touches nothing that was there before. -/
namespace OutlineMarkup

namespace Forest

variable {α β : Type}

def append : Forest α → Forest α → Forest α
  | nil, after => after
  | cons label children siblings, after => cons label children (siblings.append after)

@[simp] theorem nil_append (after : Forest α) : nil.append after = after := rfl
@[simp] theorem cons_append (label : α) (children siblings after : Forest α) :
    (cons label children siblings).append after = cons label children (siblings.append after) :=
  rfl

@[simp] theorem append_nil (forest : Forest α) : forest.append nil = forest := by
  induction forest with
  | nil => rfl
  | cons label children siblings _ ihs => rw [cons_append, ihs]

theorem append_assoc (first second third : Forest α) :
    (first.append second).append third = first.append (second.append third) := by
  induction first with
  | nil => rfl
  | cons label children siblings _ ihs => simp only [cons_append, ihs]

@[simp] theorem map_append (f : α → β) (first second : Forest α) :
    (first.append second).map f = (first.map f).append (second.map f) := by
  induction first with
  | nil => rfl
  | cons label children siblings _ ihs => simp only [cons_append, map_cons, ihs]

@[simp] theorem preorder_append (first second : Forest α) :
    (first.append second).preorder = first.preorder ++ second.preorder := by
  induction first with
  | nil => rfl
  | cons label children siblings _ ihs =>
    simp only [cons_append, preorder_cons, ihs, List.cons_append, List.append_assoc]

theorem map_congr {f g : α → β} {forest : Forest α} (h : ∀ a ∈ forest.preorder, f a = g a) :
    forest.map f = forest.map g := by
  induction forest with
  | nil => rfl
  | cons label children siblings ihc ihs =>
    simp only [preorder_cons, List.mem_cons, List.mem_append] at h
    rw [map_cons, map_cons, h label (.inl rfl), ihc fun a ha => h a (.inr (.inl ha)),
      ihs fun a ha => h a (.inr (.inr ha))]

end Forest

namespace Tree

/-- Every slot of one tree is in another, unchanged. -/
def Keeps (old new : Tree) : Prop := ∀ id < old.size, new.slots[id]? = old.slots[id]?

namespace Keeps

variable {old mid new : Tree} {id : NodeId}

lemma refl (tree : Tree) : tree.Keeps tree := fun _ _ => rfl

lemma size_le (h : old.Keeps new) : old.size ≤ new.size := by
  by_contra hn
  have hlt : new.size < old.size := Nat.lt_of_not_le hn
  have hslot : new.slots[new.size]? = some old.slots[new.size] :=
    (h new.size hlt).trans (Array.getElem?_eq_getElem hlt)
  exact Nat.lt_irrefl _ (Array.getElem?_eq_some_iff.1 hslot).1

lemma trans (h : old.Keeps mid) (h' : mid.Keeps new) : old.Keeps new := by
  intro id hid
  rw [h' id (Nat.lt_of_lt_of_le hid h.size_le), h id hid]

lemma create (h : old.Keeps new) (node : Node) : old.Keeps (new.create node) := by
  intro id hid
  have hne : id ≠ new.slots.size := Nat.ne_of_lt (Nat.lt_of_lt_of_le hid h.size_le)
  rw [Tree.create, Array.getElem?_push, if_neg hne, h id hid]

/-- Links among later nodes leave earlier ones alone. -/
lemma link (h : old.Keeps new) {parent child : NodeId} (hp : old.size ≤ parent)
    (hc : old.size ≤ child) : old.Keeps (new.link parent child) := by
  intro id hid
  have hne : id ≠ parent := Nat.ne_of_lt (Nat.lt_of_lt_of_le hid hp)
  have hne' : id ≠ child := Nat.ne_of_lt (Nat.lt_of_lt_of_le hid hc)
  simp [getElem?_link, h id hid, hne, hne']

lemma node_eq (h : old.Keeps new) (hid : id < old.size) : new.node id = old.node id := by
  rw [Tree.node, h id hid, Tree.node]

lemma children_eq (h : old.Keeps new) (hid : id < old.size) :
    new.children id = old.children id := by
  rw [Tree.children, h id hid, Tree.children]

lemma place?_eq (h : old.Keeps new) (hid : id < old.size) : new.place? id = old.place? id := by
  rw [Tree.place?, h id hid, Tree.place?]

end Keeps

namespace Unfolds

variable {tree tree' : Tree} {ids ids' : List NodeId} {forest forest' : Forest NodeId}

lemma append (h : Unfolds tree ids forest) (h' : Unfolds tree ids' forest') :
    Unfolds tree (ids ++ ids') (forest.append forest') := by
  induction h with
  | nil => exact h'
  | cons hc _ _ ihs => exact .cons hc ihs

/-- A forest depends only on the lists of children of its own nodes. -/
lemma congr (h : Unfolds tree ids forest)
    (heq : ∀ id ∈ forest.preorder, tree'.children id = tree.children id) :
    Unfolds tree' ids forest := by
  induction h with
  | nil => exact .nil
  | @cons id ids children siblings _ _ ihc ihs =>
    simp only [Forest.preorder_cons, List.mem_cons, List.mem_append] at heq
    refine .cons ?_ (ihs fun a ha => heq a (.inr (.inr ha)))
    rw [heq id (.inl rfl)]
    exact ihc fun a ha => heq a (.inr (.inl ha))

end Unfolds
end Tree

namespace Line

open OutlineMarkup.Tree

def Head.contentForest (head : Head) : Forest Node :=
  if head.content.isEmpty then .nil else .cons (.text head.content) .nil .nil

/-- A tag with the content written after it, when it may have content. -/
def Head.sprout (head : Head) : Except Fault (Node × Forest Node) :=
  if head.content.isEmpty || head.node.allowsChildren then .ok (head.node, head.contentForest)
  else .error (.childrenNotAllowed head.node.kind)

/-- The nodes a line stands for: the outermost one and the forest inside it. -/
def Reading.sprout : Reading → Except Fault (Node × Forest Node)
  | faulty fault => .error fault
  | single head => head.sprout
  | nested head inner =>
    match head.sprout with
    | .error fault => .error fault
    | .ok (node, content) =>
      match inner.sprout with
      | .error fault => .error fault
      | .ok (child, children) =>
        if node.allowsChildren then .ok (node, content.append (.cons child children .nil))
        else .error (.childrenNotAllowed node.kind)

/-- A sprout stands at the end of a tree, detached, with its nodes numbered in document order. -/
structure Planted (tree planted : Tree) (node : Node) (children : Forest Node) : Prop where
  keeps : tree.Keeps planted
  size_lt : tree.size < planted.size
  node_eq : planted.node tree.size = node
  place?_eq : planted.place? tree.size = none
  unfolds : ∃ forest, Unfolds planted (planted.children tree.size) forest ∧
    forest.map planted.node = children ∧
    forest.preorder = List.range' (tree.size + 1) (planted.size - (tree.size + 1))

namespace Planted

variable {tree planted : Tree} {node : Node} {children : Forest Node}

/-- A single node stands at the end of the tree it was created in. -/
lemma bare (tree : Tree) (node : Node) : Planted tree (tree.create node) node .nil where
  keeps := (Keeps.refl tree).create node
  size_lt := by simp
  node_eq := by simp
  place?_eq := by
    rw [place?_create, Option.eq_none_iff_forall_ne_some]
    intro place hp
    exact Nat.lt_irrefl _ (lt_size_of_place? hp)
  unfolds := by
    refine ⟨.nil, ?_, rfl, by simp⟩
    rw [children_create, children_of_size_le (Nat.le_refl _)]
    exact .nil

/-- The nodes of a sprout have children among themselves only. -/
lemma mem_children (h : Planted tree planted node children) {id child : Nat}
    (hid : tree.size ≤ id) (hlt : id < planted.size) (hc : child ∈ planted.children id) :
    tree.size < child ∧ child < planted.size := by
  obtain ⟨forest, hforest, -, hpreorder⟩ := h.unfolds
  have hmem : child ∈ forest.preorder := by
    rcases Nat.eq_or_lt_of_le hid with rfl | hlow
    · exact hforest.mem_preorder_iff.2 ⟨child, hc, 0, .refl child⟩
    · have hid' : id ∈ forest.preorder := by
        rw [hpreorder, List.mem_range'_1]
        omega
      obtain ⟨top, htop, n, hd⟩ := hforest.mem_preorder_iff.1 hid'
      exact hforest.mem_preorder_iff.2 ⟨top, htop, n + 1, hd.step hc⟩
  rw [hpreorder, List.mem_range'_1] at hmem
  have := h.size_lt
  constructor <;> omega

/-- The node of a sprout may get another sprout as its last child when it allows children. -/
lemma attach_eq (h : Planted tree planted node children) {grafted : Tree} {child : Node}
    {inner : Forest Node} (h' : Planted planted grafted child inner) :
    grafted.attach tree.size planted.size =
      if node.allowsChildren then .ok (grafted.link tree.size planted.size)
      else .error (.childrenNotAllowed node.kind) := by
  have hnode : grafted.node tree.size = node := by rw [h'.keeps.node_eq h.size_lt, h.node_eq]
  have hfree : grafted.isFree tree.size planted.size := by
    refine isFree_iff.2 ⟨h'.size_lt, h'.place?_eq, ?_, Nat.ne_of_gt h.size_lt⟩
    exact Nat.ne_of_gt (Nat.lt_of_le_of_lt (Nat.zero_le _) h.size_lt)
  rw [attach, hnode, hfree]
  cases node.allowsChildren <;> simp

/-- Linking two sprouts that follow each other gives one sprout. -/
lemma link (h : Planted tree planted node children) {grafted : Tree} {child : Node}
    {inner : Forest Node} (h' : Planted planted grafted child inner) :
    Planted tree (grafted.link tree.size planted.size) node
      (children.append (.cons child inner .nil)) := by
  have hsize := Nat.lt_trans h.size_lt h'.size_lt
  obtain ⟨forest, hforest, hmap, hpreorder⟩ := h.unfolds
  obtain ⟨forest', hforest', hmap', hpreorder'⟩ := h'.unfolds
  -- the first sprout's nodes lie between the two tops, the second one's behind the second top
  have hbefore : ∀ id : Nat, id ∈ forest.preorder → tree.size < id ∧ id < planted.size := by
    intro id hid
    rw [hpreorder, List.mem_range'_1] at hid
    have := h.size_lt
    omega
  have hafter : ∀ id : Nat, id ∈ forest'.preorder → tree.size < id := by
    intro id hid
    rw [hpreorder', List.mem_range'_1] at hid
    have := h.size_lt
    omega
  have hother : ∀ id ≠ tree.size,
      (grafted.link tree.size planted.size).children id = grafted.children id := by
    intro id hid
    rw [children_link grafted hsize, if_neg hid]
  constructor
  · exact (h.keeps.trans h'.keeps).link (Nat.le_refl _) (Nat.le_of_lt h.size_lt)
  · rwa [size_link]
  · rw [node_link, h'.keeps.node_eq h.size_lt, h.node_eq]
  · rw [place?_link grafted h'.size_lt, if_neg (Nat.ne_of_lt h.size_lt),
      h'.keeps.place?_eq h.size_lt, h.place?_eq]
  · refine ⟨forest.append (.cons planted.size forest' .nil), ?_, ?_, ?_⟩
    · rw [children_link grafted hsize, if_pos rfl, h'.keeps.children_eq h.size_lt]
      refine (hforest.congr fun id hid => ?_).append (.cons ?_ .nil)
      · obtain ⟨hlow, hhigh⟩ := hbefore id hid
        rw [hother id (Nat.ne_of_gt hlow), h'.keeps.children_eq hhigh]
      · rw [hother _ (Nat.ne_of_gt h.size_lt)]
        exact hforest'.congr fun id hid => hother id (Nat.ne_of_gt (hafter id hid))
    · simp only [Forest.map_append, Forest.map_cons, Forest.map_nil, node_link]
      rw [h'.node_eq, ← hmap, ← hmap']
      congr 1
      · exact Forest.map_congr fun id hid => by
          rw [node_link, h'.keeps.node_eq (hbefore id hid).2]
      · rw [Forest.map_congr fun id _ => node_link grafted tree.size planted.size id]
    · have hs := h.size_lt
      have hs' := h'.size_lt
      rw [Forest.preorder_append, Forest.preorder_cons, Forest.preorder_nil, List.append_nil,
        hpreorder, hpreorder', size_link, ← List.range'_succ]
      obtain ⟨k, hk⟩ : ∃ k, planted.size = tree.size + 1 + k :=
        ⟨planted.size - (tree.size + 1), by omega⟩
      obtain ⟨m, hm⟩ : ∃ m, grafted.size = planted.size + 1 + m :=
        ⟨grafted.size - (planted.size + 1), by omega⟩
      have hfirst : planted.size - (tree.size + 1) = k := by omega
      have hsecond : grafted.size - (planted.size + 1) + 1 = m + 1 := by omega
      have hboth : grafted.size - (tree.size + 1) = k + (m + 1) := by omega
      rw [hfirst, hsecond, hboth, hk, List.range'_append_1]

end Planted

/-- What planting gives: the name of the sprout's top when there is a sprout, and otherwise the
fault that the line shows by itself. -/
def PlantSpec (tree : Tree) (result : Tree × Except Fault NodeId) :
    Except Fault (Node × Forest Node) → Prop
  | .error fault => ∃ planted, result = (planted, .error fault)
  | .ok (node, children) =>
    ∃ planted, result = (planted, .ok tree.size) ∧ Planted tree planted node children

lemma Head.plantSpec (tree : Tree) (head : Head) :
    PlantSpec tree (head.plant tree) head.sprout := by
  have hbare := Planted.bare tree head.node
  unfold Head.plant Head.sprout Head.contentForest
  by_cases hc : head.content.isEmpty
  · simp only [hc, Bool.true_or, if_true]
    exact ⟨_, rfl, hbare⟩
  · have htext := Planted.bare (tree.create head.node) (.text head.content)
    simp only [hc, Bool.false_or, Bool.false_eq_true, if_false, hbare.attach_eq htext]
    cases head.node.allowsChildren with
    | false => exact ⟨_, rfl⟩
    | true => exact ⟨_, rfl, hbare.link htext⟩

/-- Planting a line is putting its sprout at the end of the tree. -/
theorem Reading.plantSpec (tree : Tree) (reading : Reading) :
    PlantSpec tree (reading.plant tree) reading.sprout := by
  induction reading generalizing tree with
  | faulty fault => exact ⟨tree, rfl⟩
  | single head => exact head.plantSpec tree
  | nested head inner ih =>
    have hhead := head.plantSpec tree
    unfold Reading.sprout Reading.plant
    cases hs : head.sprout with
    | error fault =>
      rw [hs] at hhead
      obtain ⟨planted, hplant⟩ := hhead
      rw [hplant]
      exact ⟨planted, rfl⟩
    | ok sprout =>
      rw [hs] at hhead
      obtain ⟨planted, hplant, hplanted⟩ := hhead
      have hinner := ih planted
      rw [hplant]
      dsimp only
      cases hi : inner.sprout with
      | error fault =>
        rw [hi] at hinner
        obtain ⟨grafted, hgraft⟩ := hinner
        rw [hgraft]
        exact ⟨grafted, rfl⟩
      | ok nested =>
        rw [hi] at hinner
        obtain ⟨grafted, hgraft, hgrafted⟩ := hinner
        rw [hgraft]
        dsimp only
        rw [hplanted.attach_eq hgrafted]
        cases sprout.1.allowsChildren with
        | false => exact ⟨grafted, rfl⟩
        | true => exact ⟨_, rfl, hplanted.link hgrafted⟩

/-- A line that is planted has a sprout. -/
lemma exists_sprout_of_plant {tree planted : Tree} {line : Text} {id : NodeId}
    (h : plant tree line = (planted, .ok id)) :
    ∃ node children, (read line).sprout = .ok (node, children) ∧ id = tree.size ∧
      Planted tree planted node children := by
  have hspec := (read line).plantSpec tree
  rw [← plant, h] at hspec
  cases hsprout : (read line).sprout with
  | error fault =>
    rw [hsprout] at hspec
    obtain ⟨_, heq⟩ := hspec
    cases heq
  | ok sprout =>
    rw [hsprout] at hspec
    obtain ⟨_, heq, hplanted⟩ := hspec
    cases heq
    exact ⟨sprout.1, sprout.2, rfl, rfl, hplanted⟩

lemma Head.grown_plant {tree : Tree} (grown : Grown tree) (head : Head) :
    Grown (head.plant tree).1 := by
  have hfull := (grown.create head.node).create (.text head.content)
  unfold Head.plant
  by_cases hc : head.content.isEmpty
  · simpa only [hc, if_true] using grown.create head.node
  · simp only [hc, Bool.false_eq_true, if_false]
    split
    · next attached => exact hfull.attach attached
    · exact hfull

/-- Whether or not a line is at fault, planting it only creates and attaches nodes. -/
theorem Reading.grown_plant {tree : Tree} (grown : Grown tree) (reading : Reading) :
    Grown (reading.plant tree).1 := by
  induction reading generalizing tree with
  | faulty fault => exact grown
  | single head => exact head.grown_plant grown
  | nested head inner ih =>
    have hhead := head.grown_plant grown
    unfold Reading.plant
    split
    · next hplant => rwa [hplant] at hhead
    · next planted outer hplant =>
      rw [hplant] at hhead
      have hinner := ih hhead
      split
      · next hgraft => rwa [hgraft] at hinner
      · next grafted child hgraft =>
        rw [hgraft] at hinner
        split
        · next attached => exact hinner.attach attached
        · exact hinner

end Line
end OutlineMarkup

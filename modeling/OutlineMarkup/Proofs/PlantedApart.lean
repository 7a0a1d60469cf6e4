import OutlineMarkup.Proofs.LineFaults
import OutlineMarkup.Proofs.WrittenElements

/-! Planting only appends. A line may be found at fault when some of its nodes are there already,
and some of those hang together already. But a node of the line is only ever linked to another one
of the line, so every earlier slot stays as it was, and no path from an earlier node leads to a
later one. When all is well the new nodes are one tree, numbered in document order and attached to
nothing. -/
namespace OutlineMarkup

namespace Tree

/-- In a tree that keeps an earlier one, no path leads from an earlier node to a later one. -/
lemma Keeps.lt_of_descends {old new : Tree} (h : old.Keeps new) (sound : Sound old) {n : Nat}
    {top id : NodeId} (htop : top < old.size) (hpath : Descends new n top id) : id < old.size := by
  induction hpath with
  | refl => exact htop
  | step _ hchild ih =>
    rw [h.children_eq (ih htop)] at hchild
    exact sound.mem_children_lt hchild

/-- Attaching later nodes to each other keeps the earlier tree, whether or not it is refused. -/
lemma Keeps.attach {old new attached : Tree} (h : old.Keeps new) {parent child : NodeId}
    (hparent : old.size ≤ parent) (hchild : old.size ≤ child)
    (hattach : new.attach parent child = .ok attached) : old.Keeps attached := by
  obtain ⟨-, -, rfl⟩ := attach_eq_ok_iff.1 hattach
  exact h.link hparent hchild

end Tree

namespace Line

open OutlineMarkup.Tree

variable {tree planted : Tree}

/-- The names of a sprout, from its top on, are the new ones in order. -/
lemma Planted.preorder_eq {node : Node} {children : Forest Node}
    (h : Planted tree planted node children) :
    planted.preorder tree.size = List.range' tree.size (planted.size - tree.size) := by
  obtain ⟨forest, hforest, -, hpreorder⟩ := h.unfolds
  have hsize := h.size_lt
  have hlength : forest.preorder.length ≤ planted.size := by
    rw [hpreorder, List.length_range']
    omega
  have hcount : planted.size - tree.size = planted.size - (tree.size + 1) + 1 := by omega
  rw [preorder, below, hforest.grow_eq hlength, hpreorder, hcount, List.range'_succ]

lemma PlantSpec.eq_size {id : NodeId} {sprout : Except Fault (Node × Forest Node)}
    (h : PlantSpec tree (planted, .ok id) sprout) : id = tree.size := by
  cases sprout with
  | error fault =>
    obtain ⟨_, heq⟩ := h
    cases heq
  | ok sprout =>
    obtain ⟨_, heq, -⟩ := h
    cases heq
    rfl

lemma Head.keeps_plant (tree : Tree) (head : Head) : tree.Keeps (head.plant tree).1 := by
  have hbare : tree.Keeps (tree.create head.node) := (Keeps.refl tree).create head.node
  unfold Head.plant
  by_cases hcontent : head.content.isEmpty
  · simpa only [hcontent, if_true] using hbare
  · simp only [hcontent, Bool.false_eq_true, if_false]
    have hfull := hbare.create (.text head.content)
    split
    · next hattach => exact hfull.attach (Nat.le_refl _) hbare.size_le hattach
    · exact hfull

/-- Whether or not a line is at fault, planting it keeps every slot of the tree. -/
theorem Reading.keeps_plant (tree : Tree) (reading : Reading) :
    tree.Keeps (reading.plant tree).1 := by
  induction reading generalizing tree with
  | faulty fault => exact .refl tree
  | single head => exact head.keeps_plant tree
  | nested head inner ih =>
    have hhead := head.keeps_plant tree
    have houter := head.plantSpec tree
    unfold Reading.plant
    split
    · next hplant => rwa [hplant] at hhead
    · next planted outer hplant =>
      rw [hplant] at hhead houter
      have hinner := hhead.trans (ih planted)
      have hnested := inner.plantSpec planted
      split
      · next hgraft => rwa [hgraft] at hinner
      · next grafted child hgraft =>
        rw [hgraft] at hinner hnested
        split
        · next hattach =>
          refine hinner.attach (Nat.le_of_eq houter.eq_size.symm) ?_ hattach
          rw [hnested.eq_size]
          exact hhead.size_le
        · exact hinner

/-- What planting has done to a tree: every slot is as it was, no path leads from an earlier node to
a new one, and no node was found attached already. The node that is given, if one is, comes right
behind the earlier ones, hangs below nothing, and has all new nodes in its tree, numbered in
document order. -/
structure Appends (tree : Tree) (result : Tree × Except Fault NodeId) : Prop where
  keeps : tree.Keeps result.1
  apart : ∀ n top id, top < tree.size → Descends result.1 n top id → id < tree.size
  fault_ne : result.2 ≠ .error .alreadyParented
  of_ok : ∀ id, result.2 = .ok id → id = tree.size ∧ result.1.parent? id = none ∧
    result.1.preorder id = List.range' tree.size (result.1.size - tree.size)

/-- Planting any line in a sound tree only appends, also when the line is at fault. -/
theorem appends_plant {tree : Tree} (sound : Sound tree) (line : Text) :
    Appends tree (plant tree line) := by
  have hkeeps : tree.Keeps (plant tree line).1 := (read line).keeps_plant tree
  constructor
  case keeps => exact hkeeps
  case apart => exact fun n top id htop hpath => hkeeps.lt_of_descends sound htop hpath
  case fault_ne => exact plant_ne_alreadyParented tree line
  case of_ok =>
    intro id hid
    obtain ⟨node, children, -, rfl, hplanted⟩ :=
      exists_sprout_of_plant (Prod.ext rfl hid : plant tree line = ((plant tree line).1, .ok id))
    refine ⟨rfl, ?_, hplanted.preorder_eq⟩
    rw [parent?, hplanted.place?_eq, Option.map_none]

/-- Next to a paragraph that is there, one line is planted as a tree of two nodes; another is
refused when its three nodes are there already, and none of them is found from the root. -/
theorem appends_plant_past_void_element :
    ∃ tree, Sound tree ∧ tree.size = 2 ∧
      (plant tree "-if x: y".toList).2 = .ok 2 ∧
      (plant tree "-if x: y".toList).1.preorder 2 = [2, 3] ∧
      (plant tree "-if x: %hr: y".toList).2 = .error (.childrenNotAllowed .voidElement) ∧
      (plant tree "-if x: %hr: y".toList).1.size = 5 ∧
      ∀ n id, Descends (plant tree "-if x: %hr: y".toList).1 n 0 id → id < 2 := by
  let tree : Tree := (Tree.create {} (.element { tag := "p".toList })).link 0 1
  have sound : Sound tree := (Sound.start.create _).link rfl rfl
  have htext : read "y".toList = .single { node := .text "y".toList } := by
    rw [read_eq]
    rfl
  have hvoid : read "%hr: y".toList =
      .nested { node := .voidElement { tag := "hr".toList } } (read "y".toList) := by
    have hsplit : split? .element "%hr: y".toList = some ("%hr".toList, "y".toList) := rfl
    rw [read_of_split?_eq_some rfl hsplit]
    rfl
  have haccepted : read "-if x: y".toList =
      .nested { node := .control ⟨"if".toList, "x".toList⟩ } (read "y".toList) := by
    have hsplit : split? .control "-if x: y".toList = some ("-if x".toList, "y".toList) := rfl
    rw [read_of_split?_eq_some rfl hsplit]
    rfl
  have hrefused : read "-if x: %hr: y".toList =
      .nested { node := .control ⟨"if".toList, "x".toList⟩ } (read "%hr: y".toList) := by
    have hsplit : split? .control "-if x: %hr: y".toList =
        some ("-if x".toList, "%hr: y".toList) := rfl
    rw [read_of_split?_eq_some rfl hsplit]
    rfl
  rw [htext] at haccepted
  rw [hvoid, htext] at hrefused
  have hgrown : (plant tree "-if x: y".toList).2 = .ok 2 := by
    rw [plant, haccepted]
    rfl
  have hsize : (plant tree "-if x: y".toList).1.size = 4 := by
    rw [plant, haccepted]
    rfl
  refine ⟨tree, sound, rfl, hgrown, ?_, ?_, ?_, ?_⟩
  · rw [((appends_plant sound "-if x: y".toList).of_ok 2 hgrown).2.2, hsize]
    rfl
  · rw [plant, hrefused]
    rfl
  · rw [plant, hrefused]
    rfl
  · exact fun n id => (appends_plant sound "-if x: %hr: y".toList).apart n 0 id (by decide)

end Line
end OutlineMarkup

import Mathlib.Data.List.Nodup
import Mathlib.Data.List.Perm.Subperm
import Mathlib.Tactic.Common
import OutlineMarkup.Tree

/-! The arena as a tree. Whatever is created and attached, in any order, a node's recorded place and
its parent's list of children agree. So every node below the root is met on exactly one path from
the root, also when other nodes hang together in detached cycles, and the forest below the root
unfolds completely. -/
namespace OutlineMarkup.Tree

/-- A tree made from the bare root by creating nodes and attaching them. -/
inductive Grown : Tree → Prop
  | start : Grown {}
  | create {tree : Tree} (node : Node) (grown : Grown tree) : Grown (tree.create node)
  | attach {tree tree' : Tree} {parent child : NodeId} (grown : Grown tree)
      (attached : tree.attach parent child = .ok tree') : Grown tree'

/-- Places and lists of children agree, the root has no place, and only nodes of a kind that allows
children have any. -/
structure Sound (tree : Tree) : Prop where
  root_lt : root < tree.size
  place?_root : tree.place? root = none
  getElem?_children_iff (parent : NodeId) (index : Nat) (child : NodeId) :
    (tree.children parent)[index]? = some child ↔ tree.place? child = some ⟨parent, index⟩
  allowsChildren (parent child : NodeId) (h : child ∈ tree.children parent) :
    (tree.node parent).allowsChildren

lemma lt_size_of_place? {tree : Tree} {id : NodeId} {place : Place}
    (h : tree.place? id = some place) : id < tree.size := by
  obtain ⟨slot, hs, -⟩ := Option.bind_eq_some_iff.1 h
  exact (Array.getElem?_eq_some_iff.1 hs).1

lemma lt_size_of_mem_children {tree : Tree} {parent child : NodeId}
    (h : child ∈ tree.children parent) : parent < tree.size := by
  by_contra hn
  have hs : tree.slots[parent]? = none := Array.getElem?_eq_none (by simpa [size] using hn)
  simp [children, hs] at h

lemma children_of_size_le {tree : Tree} {id : NodeId} (h : tree.size ≤ id) :
    tree.children id = [] := by
  apply List.eq_nil_iff_forall_not_mem.2
  intro child hc
  exact Nat.not_lt_of_le h (lt_size_of_mem_children hc)

lemma node_of_size_le {tree : Tree} {id : NodeId} (h : tree.size ≤ id) : tree.node id = .empty := by
  have hs : tree.slots[id]? = none := Array.getElem?_eq_none h
  rw [node, hs]
  rfl

lemma lt_size_of_ne_empty {tree : Tree} {id : NodeId} (h : tree.node id ≠ .empty) :
    id < tree.size :=
  Nat.lt_of_not_le (mt node_of_size_le h)

lemma lt_size_of_allowsChildren {tree : Tree} {id : NodeId}
    (h : (tree.node id).allowsChildren) : id < tree.size := by
  apply lt_size_of_ne_empty
  intro hempty
  simp [hempty, Node.allowsChildren, Node.kind, NodeKind.allowsChildren] at h

lemma isFree_iff {tree : Tree} {parent child : NodeId} :
    tree.isFree parent child ↔
      child < tree.size ∧ tree.place? child = none ∧ child ≠ root ∧ child ≠ parent := by
  simp [isFree, and_assoc]

namespace Sound

variable {tree : Tree}

lemma start : Sound {} where
  root_lt := by decide
  place?_root := rfl
  getElem?_children_iff parent index child := by
    cases parent <;> cases child <;> simp [children, place?]
  allowsChildren parent child h := by
    cases parent <;> simp [children] at h

lemma create (h : Sound tree) (node : Node) : Sound (tree.create node) where
  root_lt := by
    rw [size_create]
    exact Nat.lt_succ_of_lt h.root_lt
  place?_root := by rw [place?_create, h.place?_root]
  getElem?_children_iff parent index child := by
    rw [children_create, place?_create]
    exact h.getElem?_children_iff parent index child
  allowsChildren parent child hc := by
    rw [children_create] at hc
    rw [node_create, if_neg (Nat.ne_of_lt (lt_size_of_mem_children hc))]
    exact h.allowsChildren parent child hc

/-- Linking a free node keeps places and lists of children in agreement. -/
lemma link (h : Sound tree) {parent child : NodeId} (ha : (tree.node parent).allowsChildren)
    (hf : tree.isFree parent child) : Sound (tree.link parent child) := by
  obtain ⟨hlt, hplace, hroot, hself⟩ := isFree_iff.1 hf
  have hp := lt_size_of_allowsChildren ha
  constructor
  · rw [size_link]
    exact h.root_lt
  · rw [place?_link tree hlt, if_neg hroot.symm, h.place?_root]
  · intro other index id
    rw [children_link tree hp, place?_link tree hlt]
    by_cases hid : id = child
    · subst hid
      have hold : ∀ i : Nat, (tree.children other)[i]? ≠ some id := by
        intro i hi
        rw [h.getElem?_children_iff, hplace] at hi
        cases hi
      by_cases ho : other = parent
      · subst ho
        rw [if_pos rfl, if_pos rfl, List.getElem?_append]
        split
        · next hi =>
          simp only [hold index, Option.some.injEq, Place.mk.injEq, true_and, false_iff]
          omega
        · next hi =>
          simp only [List.getElem?_singleton, Option.some.injEq, Place.mk.injEq, true_and]
          split <;> simp <;> omega
      · simp [ho, hold index, Ne.symm ho]
    · rw [if_neg hid, ← h.getElem?_children_iff]
      split
      · next ho =>
        subst ho
        rw [List.getElem?_append]
        split
        · rfl
        · next hi =>
          have hnone : (tree.children other)[index]? = none := by simpa using hi
          rw [hnone, List.getElem?_singleton]
          split <;> simp [Ne.symm hid]
      · rfl
  · intro other id hc
    rw [node_link]
    rw [children_link tree hp] at hc
    split at hc
    · next ho => rwa [ho]
    · exact h.allowsChildren other id hc

lemma attach (h : Sound tree) {tree' : Tree} {parent child : NodeId}
    (attached : tree.attach parent child = .ok tree') : Sound tree' := by
  obtain ⟨ha, hf, rfl⟩ := attach_eq_ok_iff.1 attached
  exact h.link ha hf

/-- A node is a child of the parent it records. -/
lemma mem_children_iff (h : Sound tree) {parent child : NodeId} :
    child ∈ tree.children parent ↔ tree.parent? child = some parent := by
  constructor
  · intro hc
    obtain ⟨index, hi⟩ := List.mem_iff_getElem?.1 hc
    rw [parent?, (h.getElem?_children_iff parent index child).1 hi]
    rfl
  · intro hp
    obtain ⟨⟨parent', index⟩, hplace, rfl⟩ := Option.map_eq_some_iff.1 hp
    exact List.mem_iff_getElem?.2 ⟨index, (h.getElem?_children_iff _ _ _).2 hplace⟩

lemma parent_unique (h : Sound tree) {child p q : NodeId} (hp : child ∈ tree.children p)
    (hq : child ∈ tree.children q) : p = q := by
  rw [h.mem_children_iff] at hp hq
  exact Option.some.inj (hp.symm.trans hq)

lemma root_notMem_children (h : Sound tree) (parent : NodeId) : root ∉ tree.children parent := by
  intro hr
  rw [h.mem_children_iff, parent?, h.place?_root] at hr
  cases hr

lemma nodup_children (h : Sound tree) (id : NodeId) : (tree.children id).Nodup := by
  rw [List.nodup_iff_injective_getElem]
  intro i j hij
  have hi := (h.getElem?_children_iff id i _).1 (List.getElem?_eq_getElem i.isLt)
  have hj := (h.getElem?_children_iff id j _).1 (List.getElem?_eq_getElem j.isLt)
  have hplace := hi.symm.trans ((congrArg tree.place? hij).trans hj)
  simpa [Fin.ext_iff] using hplace

lemma mem_children_lt (h : Sound tree) {parent child : NodeId}
    (hc : child ∈ tree.children parent) : child < tree.size := by
  obtain ⟨index, hi⟩ := List.mem_iff_getElem?.1 hc
  exact lt_size_of_place? ((h.getElem?_children_iff parent index child).1 hi)

end Sound

/-- Every order of creations and attachments leaves a sound tree. -/
theorem Grown.sound {tree : Tree} (h : Grown tree) : Sound tree := by
  induction h with
  | start => exact .start
  | create node _ ih => exact ih.create node
  | attach _ attached ih => exact ih.attach attached

/-- A node is met a number of child links below another. -/
inductive Descends (tree : Tree) : Nat → NodeId → NodeId → Prop
  | refl (id : NodeId) : Descends tree 0 id id
  | step {n : Nat} {top parent child : NodeId} (h : Descends tree n top parent)
      (hc : child ∈ tree.children parent) : Descends tree (n + 1) top child

namespace Descends

variable {tree : Tree} {n m : Nat} {top id : NodeId}

lemma trans {mid : NodeId} (h : Descends tree n top mid) (h' : Descends tree m mid id) :
    Descends tree (n + m) top id := by
  induction h' with
  | refl => exact h
  | step _ hc ih => exact (ih h).step hc

/-- The first link of a longer path. -/
lemma succ_iff : Descends tree (n + 1) top id ↔
    ∃ child ∈ tree.children top, Descends tree n child id := by
  constructor
  · intro h
    induction n generalizing id with
    | zero =>
      cases h with
      | step h hc =>
        cases h
        exact ⟨id, hc, .refl id⟩
    | succ n ih =>
      cases h with
      | step h hc =>
        obtain ⟨child, hchild, hd⟩ := ih h
        exact ⟨child, hchild, hd.step hc⟩
  · rintro ⟨child, hc, h⟩
    have := (Descends.step (.refl top) hc).trans h
    rwa [Nat.add_comm] at this

/-- Paths of one length to one node begin at one node. -/
lemma top_unique (sound : Sound tree) {top' : NodeId} (h : Descends tree n top id)
    (h' : Descends tree n top' id) : top = top' := by
  induction h with
  | refl => cases h'; rfl
  | step _ hc ih =>
    cases h' with
    | step h' hc' =>
      obtain rfl := sound.parent_unique hc hc'
      exact ih h'

/-- All paths from the root to one node have one length. -/
lemma level_unique (sound : Sound tree) (h : Descends tree n root id)
    (h' : Descends tree m root id) : n = m := by
  generalize hr : root = top at h
  induction h generalizing m with
  | refl =>
    subst hr
    cases h' with
    | refl => rfl
    | step _ hc => exact absurd hc (sound.root_notMem_children _)
  | step _ hc ih =>
    subst hr
    cases h' with
    | refl => exact absurd hc (sound.root_notMem_children _)
    | step h' hc' =>
      obtain rfl := sound.parent_unique hc hc'
      rw [ih h' rfl]

lemma lt_size (sound : Sound tree) (h : Descends tree n root id) : id < tree.size := by
  cases h with
  | refl => exact sound.root_lt
  | step _ hc => exact sound.mem_children_lt hc

/-- The nodes on a path from the root, which are all different as their levels are. -/
lemma exists_path (sound : Sound tree) (h : Descends tree n root id) :
    ∃ path : List NodeId, path.Nodup ∧ path.length = n + 1 ∧
      ∀ other ∈ path, ∃ m ≤ n, Descends tree m root other := by
  generalize hr : root = top at h
  induction h with
  | refl =>
    subst hr
    exact ⟨[root], by simp, rfl, fun other ho => ⟨0, Nat.le_refl 0, by simp_all [Descends.refl]⟩⟩
  | @step n top parent child h hc ih =>
    subst hr
    obtain ⟨path, hnodup, hlength, hlevels⟩ := ih rfl
    refine ⟨child :: path, List.nodup_cons.2 ⟨?_, hnodup⟩, by simp [hlength], ?_⟩
    · intro hmem
      obtain ⟨m, hm, hd⟩ := hlevels child hmem
      have := level_unique sound (h.step hc) hd
      omega
    · intro other ho
      rcases List.mem_cons.1 ho with rfl | ho
      · exact ⟨n + 1, Nat.le_refl _, h.step hc⟩
      · obtain ⟨m, hm, hd⟩ := hlevels other ho
        exact ⟨m, by omega, hd⟩

/-- No path from the root is longer than there are nodes. -/
lemma level_lt_size (sound : Sound tree) (h : Descends tree n root id) : n < tree.size := by
  obtain ⟨path, hnodup, hlength, hlevels⟩ := exists_path sound h
  have hsub : path ⊆ List.range tree.size := by
    intro other ho
    obtain ⟨m, -, hd⟩ := hlevels other ho
    exact List.mem_range.2 (hd.lt_size sound)
  have hle := (List.subperm_of_subset hnodup hsub).length_le
  rw [hlength, List.length_range] at hle
  omega

end Descends

/-- A forest shows some nodes in order, each over the nodes of its list of children. -/
inductive Unfolds (tree : Tree) : List NodeId → Forest NodeId → Prop
  | nil : Unfolds tree [] .nil
  | cons {id : NodeId} {ids : List NodeId} {children siblings : Forest NodeId}
      (hc : Unfolds tree (tree.children id) children) (hs : Unfolds tree ids siblings) :
      Unfolds tree (id :: ids) (.cons id children siblings)

namespace Unfolds

variable {tree : Tree} {ids : List NodeId} {forest : Forest NodeId}

lemma unique {other : Forest NodeId} (h : Unfolds tree ids forest)
    (h' : Unfolds tree ids other) : forest = other := by
  induction h generalizing other with
  | nil => cases h'; rfl
  | cons _ _ ihc ihs =>
    cases h' with
    | cons hc hs => rw [ihc hc, ihs hs]

lemma mem_preorder_iff (h : Unfolds tree ids forest) {id : NodeId} :
    id ∈ forest.preorder ↔ ∃ top ∈ ids, ∃ n, Descends tree n top id := by
  induction h with
  | nil => simp
  | @cons top ids children siblings _ _ ihc ihs =>
    simp only [Forest.preorder_cons, List.mem_cons, List.mem_append, ihc, ihs]
    constructor
    · rintro (rfl | ⟨child, hc, n, hd⟩ | ⟨other, ho, n, hd⟩)
      · exact ⟨id, .inl rfl, 0, .refl id⟩
      · exact ⟨top, .inl rfl, n + 1, Descends.succ_iff.2 ⟨child, hc, hd⟩⟩
      · exact ⟨other, .inr ho, n, hd⟩
    · rintro ⟨other, rfl | ho, n, hd⟩
      · cases n with
        | zero => cases hd; exact .inl rfl
        | succ n =>
          obtain ⟨child, hc, hd⟩ := Descends.succ_iff.1 hd
          exact .inr (.inl ⟨child, hc, n, hd⟩)
      · exact .inr (.inr ⟨other, ho, n, hd⟩)

/-- Siblings below the root unfold into a forest of different nodes. -/
lemma nodup_preorder (sound : Sound tree) {n : Nat} (h : Unfolds tree ids forest)
    (hids : ids.Nodup) (hlevel : ∀ id ∈ ids, Descends tree n root id) :
    forest.preorder.Nodup := by
  induction h generalizing n with
  | nil => simp
  | @cons top ids children siblings hc hs ihc ihs =>
    obtain ⟨htop, hids⟩ := List.nodup_cons.1 hids
    have hroot := hlevel top (by simp)
    have hlevels : ∀ child ∈ tree.children top, Descends tree (n + 1) root child :=
      fun child hchild => hroot.step hchild
    -- two paths from this level to one node have one length, so they begin at one sibling
    have hother : ∀ {k m : Nat} {id other : NodeId}, other ∈ ids → Descends tree k top id →
        Descends tree m other id → False := by
      intro k m id other ho hk hm
      have hlen := Descends.level_unique sound (hroot.trans hk)
        ((hlevel other (by simp [ho])).trans hm)
      obtain rfl : k = m := by omega
      exact htop (Descends.top_unique sound hk hm ▸ ho)
    simp only [Forest.preorder_cons, List.nodup_cons, List.mem_append, not_or, List.nodup_append]
    refine ⟨⟨?_, ?_⟩, ihc (sound.nodup_children top) hlevels,
      ihs hids fun id hid => hlevel id (by simp [hid]), ?_⟩
    · intro hmem
      obtain ⟨child, hchild, m, hd⟩ := hc.mem_preorder_iff.1 hmem
      have := Descends.level_unique sound hroot ((hlevels child hchild).trans hd)
      omega
    · intro hmem
      obtain ⟨other, ho, m, hd⟩ := hs.mem_preorder_iff.1 hmem
      exact hother ho (.refl top) hd
    · rintro id hid _ hid' rfl
      obtain ⟨child, hchild, k, hd⟩ := hc.mem_preorder_iff.1 hid
      obtain ⟨other, ho, m, hd'⟩ := hs.mem_preorder_iff.1 hid'
      exact hother ho (Descends.succ_iff.2 ⟨child, hchild, hd⟩) hd'

/-- Growing with fuel for every node leaves nothing out. -/
lemma grow_eq (h : Unfolds tree ids forest) {fuel : Nat}
    (hfuel : forest.preorder.length ≤ fuel) : tree.grow fuel ids = forest := by
  induction h generalizing fuel with
  | nil => cases fuel <;> rfl
  | @cons id ids children siblings _ _ ihc ihs =>
    simp only [Forest.preorder_cons, List.length_cons, List.length_append] at hfuel
    obtain ⟨fuel, rfl⟩ : ∃ less, fuel = less + 1 := ⟨fuel - 1, by omega⟩
    have hsiblings : tree.grow (fuel + 1) ids = siblings := ihs (by omega)
    rw [grow] at hsiblings ⊢
    rw [List.foldr_cons, ihc (by omega), hsiblings]

end Unfolds

namespace Sound

variable {tree : Tree}

/-- Growing a level of the tree with enough fuel leaves nothing out. -/
lemma unfolds_grow (sound : Sound tree) {fuel n : Nat} {ids : List NodeId}
    (hlevel : ∀ id ∈ ids, Descends tree n root id) (hfuel : tree.size ≤ n + fuel) :
    Unfolds tree ids (tree.grow fuel ids) := by
  induction fuel generalizing n ids with
  | zero =>
    have hnil : ids = [] := by
      apply List.eq_nil_iff_forall_not_mem.2
      intro id hid
      have := (hlevel id hid).level_lt_size sound
      omega
    rw [hnil]
    exact .nil
  | succ fuel ih =>
    induction ids with
    | nil => exact .nil
    | cons id ids ihs =>
      refine .cons (ih (n := n + 1) ?_ (by omega)) (ihs fun other ho => hlevel other (by simp [ho]))
      intro child hc
      exact (hlevel id (by simp)).step hc

/-- The forest below a node that hangs below the root is complete. -/
theorem unfolds_below (sound : Sound tree) {n : Nat} {id : NodeId}
    (h : Descends tree n root id) : Unfolds tree (tree.children id) (tree.below id) :=
  sound.unfolds_grow (fun _ hc => h.step hc) (Nat.le_add_left _ _)

lemma below_eq (sound : Sound tree) {n : Nat} {id : NodeId} {forest : Forest NodeId}
    (h : Descends tree n root id) (hf : Unfolds tree (tree.children id) forest) :
    tree.below id = forest :=
  (sound.unfolds_below h).unique hf

/-- Document order visits exactly the nodes that hang below the root. -/
theorem mem_preorder_root (sound : Sound tree) {id : NodeId} :
    id ∈ tree.preorder root ↔ ∃ n, Descends tree n root id := by
  rw [preorder, List.mem_cons, (sound.unfolds_below (.refl root)).mem_preorder_iff]
  constructor
  · rintro (rfl | ⟨child, hc, n, hd⟩)
    · exact ⟨0, .refl root⟩
    · exact ⟨n + 1, Descends.succ_iff.2 ⟨child, hc, hd⟩⟩
  · rintro ⟨n, hd⟩
    cases n with
    | zero => cases hd; exact .inl rfl
    | succ n =>
      obtain ⟨child, hc, hd⟩ := Descends.succ_iff.1 hd
      exact .inr ⟨child, hc, n, hd⟩

/-- Document order visits no node twice. -/
theorem nodup_preorder_root (sound : Sound tree) : (tree.preorder root).Nodup := by
  have hbelow := sound.unfolds_below (.refl root)
  refine List.nodup_cons.2 ⟨?_, hbelow.nodup_preorder sound (sound.nodup_children root)
    fun child hc => (Descends.refl root).step hc⟩
  intro hmem
  obtain ⟨child, hc, n, hd⟩ := hbelow.mem_preorder_iff.1 hmem
  have := Descends.level_unique sound (.refl root) (Descends.succ_iff.2 ⟨child, hc, hd⟩)
  omega

lemma climb_eq (sound : Sound tree) {n fuel : Nat} {id : NodeId} (h : Descends tree n root id)
    (hfuel : n ≤ fuel) : tree.climb fuel id = n := by
  generalize hr : root = top at h
  induction h generalizing fuel with
  | refl id =>
    subst hr
    cases fuel with
    | zero => rfl
    | succ fuel => rw [climb, parent?, sound.place?_root]; rfl
  | @step n top parent child _ hc ih =>
    obtain ⟨fuel, rfl⟩ : ∃ k, fuel = k + 1 := ⟨fuel - 1, by omega⟩
    have hparent := ih (Nat.le_of_succ_le_succ hfuel) hr
    rw [climb, sound.mem_children_iff.1 hc]
    simp only [hparent]

/-- The depth of a node is one less than the length of the path to it from the root. -/
theorem depth?_eq (sound : Sound tree) {n : Nat} {id : NodeId}
    (h : Descends tree (n + 1) root id) : tree.depth? id = some n := by
  cases h with
  | step h hc =>
    rw [depth?, sound.mem_children_iff.1 hc, Option.map_some,
      sound.climb_eq h (Nat.le_of_lt (h.level_lt_size sound))]

end Sound
end OutlineMarkup.Tree

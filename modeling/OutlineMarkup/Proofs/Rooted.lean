import OutlineMarkup.Proofs.Calls
import OutlineMarkup.Proofs.Verbatim
import OutlineMarkup.Summary

/-! What hangs below the root. Nothing keeps detached nodes from being attached in a circle, but a
node of a circle has its parent in the circle, and so no circle is ever reached from the root. Every
node that is reached is reached by one path; so the recursions along child links that write a tree
and summarize it come to an end, and so does the walk along parents. The runs are stated here
without a bound on their length: each is a derivation, which is finite. -/
namespace OutlineMarkup.Tree

open OutlineMarkup.Layout

variable {tree : Tree} {id : NodeId}

/-- The node that is reached from another by taking a child by its position, a child of that one,
and so on. -/
def follow (tree : Tree) : NodeId → List Nat → Option NodeId
  | id, [] => some id
  | id, index :: path => (tree.children id)[index]?.bind (tree.follow · path)

lemma follow_concat (tree : Tree) (top : NodeId) (path : List Nat) (index : Nat) :
    tree.follow top (path ++ [index]) =
      (tree.follow top path).bind fun parent => (tree.children parent)[index]? := by
  induction path generalizing top with
  | nil =>
    rw [List.nil_append, follow, follow]
    cases htop : (tree.children top)[index]? with
    | none => simp [htop]
    | some child => simp [htop, follow]
  | cons first path ih =>
    rw [List.cons_append, follow, follow]
    cases (tree.children top)[first]? with
    | none => rfl
    | some child => exact ih child

/-- The last step of a path is told by the place of the node it leads to. -/
lemma Sound.follow_concat_iff (sound : Sound tree) {top : NodeId} {path : List Nat} {index : Nat} :
    tree.follow top (path ++ [index]) = some id ↔ ∃ parent,
      tree.follow top path = some parent ∧ tree.place? id = some ⟨parent, index⟩ := by
  rw [follow_concat, Option.bind_eq_some_iff]
  simp only [sound.getElem?_children_iff]

/-- Only one path leads from the root to a node. -/
lemma Sound.path_unique (sound : Sound tree) {path path' : List Nat}
    (h : tree.follow root path = some id) (h' : tree.follow root path' = some id) :
    path = path' := by
  have hroot : ∀ {path index}, tree.follow root (path ++ [index]) ≠ some root := by
    intro path index hr
    obtain ⟨parent, -, hplace⟩ := sound.follow_concat_iff.1 hr
    rw [sound.place?_root] at hplace
    cases hplace
  induction path using List.reverseRecOn generalizing id path' with
  | nil =>
    obtain rfl : root = id := Option.some.inj h
    rcases List.eq_nil_or_concat path' with rfl | ⟨before, last, rfl⟩
    · rfl
    · rw [List.concat_eq_append] at h'
      exact absurd h' hroot
  | append_singleton path index ih =>
    rcases List.eq_nil_or_concat path' with rfl | ⟨before, last, rfl⟩
    · obtain rfl : root = id := Option.some.inj h'
      exact absurd h hroot
    · rw [List.concat_eq_append] at h' ⊢
      obtain ⟨parent, hparent, hplace⟩ := sound.follow_concat_iff.1 h
      obtain ⟨parent', hparent', hplace'⟩ := sound.follow_concat_iff.1 h'
      rw [hplace] at hplace'
      cases hplace'
      rw [ih hparent hparent']

lemma descends_of_follow {path : List Nat}
    (h : tree.follow root path = some id) : Descends tree path.length root id := by
  induction path using List.reverseRecOn generalizing id with
  | nil =>
    obtain rfl : root = id := Option.some.inj h
    exact .refl root
  | append_singleton path index ih =>
    rw [follow_concat, Option.bind_eq_some_iff] at h
    obtain ⟨parent, hparent, hchild⟩ := h
    rw [List.length_append, List.length_singleton]
    exact (ih hparent).step (List.mem_of_getElem? hchild)

/-- A walk from a node to its parent, to the parent of that one, and so on, until a node has
none. -/
inductive Climbs (tree : Tree) : Nat → NodeId → NodeId → Prop
  | stop {id : NodeId} (h : tree.parent? id = none) : Climbs tree 0 id id
  | step {n : Nat} {id parent top : NodeId} (h : tree.parent? id = some parent)
      (rest : Climbs tree n parent top) : Climbs tree (n + 1) id top

/-- The walk from a node below the root takes its path back and ends at the root. -/
lemma Sound.climbs_of_descends (sound : Sound tree) {n : Nat} (h : Descends tree n root id) :
    Climbs tree n id root := by
  generalize hr : root = top at h
  induction h with
  | refl =>
    subst hr
    exact .stop (by rw [parent?, sound.place?_root, Option.map_none])
  | step _ hc ih => exact .step (sound.mem_children_iff.1 hc) (ih hr)

def openingLine? (tree : Tree) (id : NodeId) : Option Text :=
  (tree.node id).opening?.map (· ++ (tree.absorbed? id).elim [] tree.openingText)

/-- A run that writes some siblings, one after another, each around the run for its children. The
text that is absorbed, if any, has no lines of its own. -/
inductive Writes (tree : Tree) (unit : Text) :
    (absorbed : Option NodeId) → (depth : Nat) → List NodeId → List Text → Prop
  | nil {absorbed : Option NodeId} {depth : Nat} : Writes tree unit absorbed depth [] []
  | absorbed {id : NodeId} {depth : Nat} {ids : List NodeId} {content lines : List Text}
      (hcontent : Writes tree unit (tree.absorbed? id) (depth + 1) (tree.children id) content)
      (hrest : Writes tree unit (some id) depth ids lines) :
      Writes tree unit (some id) depth (id :: ids) (content ++ lines)
  | own {absorbed : Option NodeId} {id : NodeId} {depth : Nat} {ids : List NodeId}
      {content lines : List Text} (hid : absorbed ≠ some id)
      (hcontent : Writes tree unit (tree.absorbed? id) (depth + 1) (tree.children id) content)
      (hrest : Writes tree unit absorbed depth ids lines) :
      Writes tree unit absorbed depth (id :: ids)
        (wrap unit depth (tree.node id) (tree.openingLine? id) (tree.closing? id) content ++ lines)

namespace Writes

variable {unit : Text} {absorbed : Option NodeId} {depth : Nat} {ids : List NodeId}
  {lines lines' : List Text}

lemma unique (h : Writes tree unit absorbed depth ids lines)
    (h' : Writes tree unit absorbed depth ids lines') : lines = lines' := by
  induction h generalizing lines' with
  | nil =>
    cases h'
    rfl
  | absorbed _ _ ihc ihr =>
    cases h' with
    | absorbed hc hr => rw [ihc hc, ihr hr]
    | own hid _ _ => exact absurd rfl hid
  | own hid _ _ ihc ihr =>
    cases h' with
    | absorbed _ _ => exact absurd rfl hid
    | own _ hc hr => rw [ihc hc, ihr hr]

end Writes

lemma Unfolds.openingLine?_map {children : Forest NodeId}
    (h : Unfolds tree (tree.children id) children) :
    Layout.openingLine? (tree.node id) (children.map tree.node) = tree.openingLine? id := by
  rw [Layout.openingLine?, Tree.openingLine?, Piece.leadingText?_map, h.leading?_eq, absorbed?]
  congr 1
  funext opening
  cases absorbs (tree.node id) with
  | false => simp
  | true => cases tree.firstText? (tree.children id) <;> rfl

/-- Which of some siblings is absorbed: the first text, as long as none but blank lines have come
before, and later none of them. -/
def Absorbing (tree : Tree) (absorbed : Option NodeId) (ids : List NodeId) (absorbing : Bool) :
    Prop :=
  if absorbing then absorbed = tree.firstText? ids else ∀ id ∈ ids, absorbed ≠ some id

namespace Absorbing

variable {absorbed : Option NodeId} {ids : List NodeId} {absorbing : Bool}

lemma children (tree : Tree) (id : NodeId) :
    Absorbing tree (tree.absorbed? id) (tree.children id) (absorbs (tree.node id)) := by
  unfold Absorbing absorbed?
  cases absorbs (tree.node id) <;> simp

lemma eq_some_iff (h : Absorbing tree absorbed (id :: ids) absorbing) :
    absorbed = some id ↔ isAbsorbed absorbing (tree.node id) := by
  cases absorbing with
  | false =>
    have hne : absorbed ≠ some id := h id (by simp)
    cases tree.node id <;> simp [isAbsorbed, hne]
  | true =>
    obtain rfl : absorbed = tree.firstText? (id :: ids) := h
    by_cases hempty : tree.node id = .empty
    · rw [firstText?_cons_of_empty hempty, hempty]
      refine ⟨fun hfirst => ?_, fun hfalse => by cases hfalse⟩
      have := isSome_preformatted?_of_firstText? hfirst
      rw [hempty] at this
      cases this
    · rw [firstText?_cons_of_ne hempty]
      cases hnode : tree.node id <;> simp [isAbsorbed, Node.preformatted?]

lemma step (h : Absorbing tree absorbed (id :: ids) absorbing) (hid : id ∉ ids) :
    Absorbing tree absorbed ids (staysAbsorbing absorbing (tree.node id)) := by
  cases absorbing with
  | false =>
    have hstays : staysAbsorbing false (tree.node id) = false := by cases tree.node id <;> rfl
    rw [hstays]
    exact fun other ho => h other (by simp [ho])
  | true =>
    obtain rfl : absorbed = tree.firstText? (id :: ids) := h
    by_cases hempty : tree.node id = .empty
    · rw [firstText?_cons_of_empty hempty, hempty]
      rfl
    · have hstays : staysAbsorbing true (tree.node id) = false := by
        cases hnode : tree.node id <;> simp_all [staysAbsorbing]
      rw [hstays, firstText?_cons_of_ne hempty]
      intro other ho
      split
      · rintro ⟨⟩
        exact hid ho
      · simp

end Absorbing

/-- The lines of a forest are written by a run. -/
theorem Sound.writes_forestLines (sound : Sound tree) {unit : Text} {before ids : List NodeId}
    {forest : Forest NodeId} (h : Unfolds tree ids forest) (hs : Stands tree before ids)
    {absorbed : Option NodeId} {absorbing : Bool} (ha : Absorbing tree absorbed ids absorbing)
    (depth : Nat) :
    Writes tree unit absorbed depth ids
      (forestLines unit depth absorbing (tree.linkBefore before) (forest.map tree.node)) := by
  induction h generalizing before absorbed absorbing depth with
  | nil => exact .nil
  | @cons id ids children siblings hc hrest ihc ihs =>
    have hnotMem : id ∉ ids := by
      obtain ⟨parent, hp⟩ := hs
      have hnodup := sound.nodup_children parent
      rw [hp] at hnodup
      exact (List.nodup_cons.1 (List.nodup_append.1 hnodup).2.1).1
    have hcontent := ihc (Stands.children tree id) (Absorbing.children tree id) (depth + 1)
    have hsiblings := ihs hs.step (ha.step hnotMem) depth
    rw [Forest.map_cons, forestLines_cons, closing?_eq sound hs hrest, hc.openingLine?_map]
    by_cases habsorbed : absorbed = some id
    · rw [if_pos (ha.eq_some_iff.1 habsorbed)]
      subst habsorbed
      exact .absorbed hcontent hsiblings
    · rw [if_neg (mt ha.eq_some_iff.2 habsorbed)]
      exact .own habsorbed hcontent hsiblings

lemma Grown.writes_iff (h : Grown tree) {unit : Text} {lines : List Text} :
    Writes tree unit (tree.absorbed? root) 0 (tree.children root) lines ↔
      lines = treeLines unit tree := by
  have hroot : Absorbing tree (tree.absorbed? root) (tree.children root) false := by
    have := Absorbing.children tree root
    rwa [h.node_root] at this
  have hwrites : Writes tree unit (tree.absorbed? root) 0 (tree.children root)
      (treeLines unit tree) :=
    h.sound.writes_forestLines (h.sound.unfolds_below (.refl root)) (Stands.children tree root)
      hroot 0
  exact ⟨fun h' => h'.unique hwrites, fun heq => heq ▸ hwrites⟩

/-- A run that summarizes some siblings, each with the run for its children. -/
inductive Summarizes (tree : Tree) : List NodeId → Forest Summary → Prop
  | nil : Summarizes tree [] .nil
  | cons {id : NodeId} {ids : List NodeId} {children siblings : Forest Summary}
      (hchildren : Summarizes tree (tree.children id) children)
      (hsiblings : Summarizes tree ids siblings) :
      Summarizes tree (id :: ids) (.cons (.ofNode (tree.node id)) children siblings)

namespace Summarizes

variable {ids : List NodeId} {forest other : Forest Summary}

lemma unique (h : Summarizes tree ids forest) (h' : Summarizes tree ids other) :
    forest = other := by
  induction h generalizing other with
  | nil =>
    cases h'
    rfl
  | cons _ _ ihc ihs =>
    cases h' with
    | cons hc hs => rw [ihc hc, ihs hs]

lemma of_unfolds {names : Forest NodeId} (h : Unfolds tree ids names) :
    Summarizes tree ids ((names.map tree.node).map .ofNode) := by
  induction h with
  | nil => exact .nil
  | cons _ _ ihc ihs => exact .cons ihc ihs

end Summarizes

lemma Sound.summarizes_iff (sound : Sound tree) {forest : Forest Summary} :
    Summarizes tree [root] forest ↔
      forest = .cons (TreeSummary.ofTree tree).top (TreeSummary.ofTree tree).children .nil := by
  have hsummary : Summarizes tree [root]
      (.cons (TreeSummary.ofTree tree).top (TreeSummary.ofTree tree).children .nil) :=
    .cons (.of_unfolds (sound.unfolds_below (.refl root))) .nil
  exact ⟨fun h => h.unique hsummary, fun heq => heq ▸ hsummary⟩

/-- What hangs below the root is a finite tree: each node there is reached by one path, the walk
along its parents takes that path back, and its depth is one less than the length of the path; one
run writes the tree, in every unit, and one run summarizes it. -/
structure Rooted (tree : Tree) : Prop where
  path_unique : ∀ id path path', tree.follow root path = some id →
    tree.follow root path' = some id → path = path'
  climbs : ∀ id path, tree.follow root path = some id → Climbs tree path.length id root
  depth?_eq : ∀ id path, tree.follow root path = some id → id ≠ root →
    tree.depth? id = some (path.length - 1)
  writes_iff : ∀ unit lines, Writes tree unit (tree.absorbed? root) 0 (tree.children root) lines ↔
    lines = treeLines unit tree
  summarizes_iff : ∀ forest, Summarizes tree [root] forest ↔
    forest = .cons (TreeSummary.ofTree tree).top (TreeSummary.ofTree tree).children .nil

/-- Whatever calls were made, what hangs below the root is a finite tree. -/
theorem rooted_after (calls : List Call) : Rooted (after calls) := by
  have grown := grown_after calls
  have sound := grown.sound
  constructor
  case path_unique => exact fun _ _ _ => sound.path_unique
  case climbs => exact fun _ _ h => sound.climbs_of_descends (descends_of_follow h)
  case depth?_eq =>
    intro id path h hroot
    have hd := descends_of_follow h
    cases path with
    | nil => exact absurd (Option.some.inj h).symm hroot
    | cons index path => exact sound.depth?_eq hd
  case writes_iff => exact fun _ _ => grown.writes_iff
  case summarizes_iff => exact fun _ => sound.summarizes_iff

/-- Two texts can be attached to each other; neither is then attached to the root. -/
example :
    let tree := after [.create (.text ['a']), .create (.text ['b']), .attach 1 2, .attach 2 1,
      .attach root 1]
    tree.parent? 1 = some 2 ∧ tree.parent? 2 = some 1 ∧ tree.children root = [] := by
  decide

end OutlineMarkup.Tree

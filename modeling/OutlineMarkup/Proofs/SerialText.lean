import OutlineMarkup.Proofs.Outlines
import OutlineMarkup.Proofs.Siblings
import OutlineMarkup.Template

/-! The text of a tree with nothing between its lines and no indentation. It is what a plain walk
spells: the opening of each node, its children, its closing. Neither condensing nor absorbing shows
in it. -/
namespace OutlineMarkup

namespace Tree

def closingText (tree : Tree) (id : NodeId) : Text := (tree.closing? id).getD []

/-- The text of a node: its opening, the texts below it, its closing. -/
def serial (tree : Tree) (id : NodeId) : Text :=
  tree.openingText id ++ (tree.below id).walk tree.openingText tree.closingText ++
    tree.closingText id

theorem serial_eq {tree : Tree} (sound : Sound tree) {n : Nat} {id : NodeId}
    (h : Descends tree n root id) :
    tree.serial id = tree.openingText id ++ (tree.children id).flatMap tree.serial ++
      tree.closingText id := by
  have hids : ∀ child ∈ tree.children id, ∃ n, Descends tree n root child :=
    fun child hc => ⟨n + 1, h.step hc⟩
  rw [serial, (sound.unfolds_below h).walk_eq sound hids]
  rfl

end Tree

namespace Layout

open OutlineMarkup.Tree

lemma flatten_appendToLast (t : Text) (line : Text) (lines : List Text) :
    (Text.appendToLast t (line :: lines)).flatten = (line :: lines).flatten ++ t := by
  induction lines generalizing line with
  | nil => simp [Text.appendToLast]
  | cons next lines ih => simp [Text.appendToLast, ih next]

lemma margin_nil (depth : Nat) (node : Node) : margin [] depth node = [] := by
  cases node <;> simp [margin]

/-- With no indentation, condensed or not, a node's text stands around that of its children. -/
lemma flatten_wrap (depth : Nat) (node : Node) (opening closing : Option Text)
    (content : List Text) :
    (wrap [] depth node opening closing content).flatten =
      opening.getD [] ++ content.flatten ++ closing.getD [] := by
  unfold wrap
  split
  · cases content with
    | nil => simp [condense, margin_nil]
    | cons line lines =>
      simp only [condense, flatten_appendToLast, margin_nil, Text.repeated_nil]
      simp [Text.after?]
  · cases opening <;> cases closing <;> simp [margin_nil]

/-- What absorbing takes from a forest, and the lines that are left, give the text of a walk. -/
theorem flatten_forestLines {tree : Tree} (sound : Sound tree) {before ids : List NodeId}
    {forest : Forest NodeId} (h : Unfolds tree ids forest) (hs : Stands tree before ids)
    (depth : Nat) (absorbing : Bool) :
    (if absorbing then (leadingText? (forest.map tree.node)).getD [] else []) ++
        (forestLines [] depth absorbing (tree.linkBefore before) (forest.map tree.node)).flatten =
      forest.walk tree.openingText tree.closingText := by
  induction h generalizing before depth absorbing with
  | nil => cases absorbing <;> rfl
  | @cons id ids children siblings hc hrest ihc ihs =>
    have hcontent := ihc (Stands.children tree id) (depth + 1) (absorbs (tree.node id))
    have hsiblings := ihs hs.step depth (staysAbsorbing absorbing (tree.node id))
    rw [Forest.map_cons, forestLines_cons, closing?_eq sound hs hrest, List.flatten_append,
      Forest.walk_cons, ← hcontent, ← hsiblings, closingText, openingText]
    simp only [linkBefore]
    cases hnode : tree.node id with
    | empty =>
      have hclosing : tree.closing? id = none := by simp [Tree.closing?, hnode]
      have hnil : tree.children id = [] := by
        apply List.eq_nil_iff_forall_not_mem.2
        intro child hchild
        have := sound.allowsChildren id child hchild
        simp [hnode, Node.allowsChildren, Node.kind, NodeKind.allowsChildren] at this
      rw [hnil] at hc
      cases hc
      cases absorbing <;> simp [hclosing, isAbsorbed, staysAbsorbing, absorbs, leadingText?,
        flatten_wrap, openingLine?, Node.opening?, forestLines]
    | preformatted data =>
      have hclosing : tree.closing? id = none := by simp [Tree.closing?, hnode]
      cases absorbing <;> simp [hclosing, isAbsorbed, staysAbsorbing, absorbs, leadingText?,
        flatten_wrap, openingLine?, Node.opening?]
    | _ =>
      cases absorbing <;> simp [isAbsorbed, staysAbsorbing, absorbs, leadingText?, flatten_wrap,
        openingLine?, Node.opening?]

lemma flatten_treeLines {tree : Tree} (sound : Sound tree) :
    (treeLines [] tree).flatten =
      (tree.below root).walk tree.openingText tree.closingText := by
  rw [← flatten_forestLines sound (sound.unfolds_below (.refl root)) (Stands.children tree root)
    0 false]
  rfl

end Layout

/-- A node that is not condensed, with ordinary text for preformatted text. -/
def Node.plain : Node → Node
  | element e => element { e with condensed := false }
  | preformatted data => text data
  | node => node

namespace Node

@[simp] lemma control?_plain (node : Node) : node.plain.control? = node.control? := by
  cases node <;> rfl

@[simp] lemma opening?_plain (node : Node) : node.plain.opening? = node.opening? := by
  cases node <;> rfl

end Node

namespace Tree

def plain (tree : Tree) : Tree := ⟨tree.slots.map fun slot => { slot with node := slot.node.plain }⟩

variable (tree : Tree) (id : NodeId)

@[simp] lemma node_plain : tree.plain.node id = (tree.node id).plain := by
  rw [node, plain, Array.getElem?_map, node]
  cases tree.slots[id]? <;> rfl

@[simp] lemma children_plain : tree.plain.children id = tree.children id := by
  rw [children, plain, Array.getElem?_map, children]
  cases tree.slots[id]? <;> rfl

@[simp] lemma place?_plain : tree.plain.place? id = tree.place? id := by
  rw [place?, plain, Array.getElem?_map, place?]
  cases tree.slots[id]? <;> rfl

@[simp] lemma size_plain : tree.plain.size = tree.size := by simp [size, plain]

@[simp] lemma continues_plain (previous : NodeId) :
    tree.plain.continues id previous = tree.continues id previous := by
  simp [continues]

@[simp] lemma chainFrom_plain (before : List NodeId) :
    tree.plain.chainFrom id before = tree.chainFrom id before := by
  induction before generalizing id with
  | nil => rfl
  | cons previous rest ih => simp [chainFrom, ih]

@[simp] lemma openingText_plain : tree.plain.openingText = tree.openingText := by
  funext id
  simp [openingText]

@[simp] lemma closingText_plain : tree.plain.closingText = tree.closingText := by
  funext id
  have hcontinued : tree.plain.isContinued id = tree.isContinued id := by
    simp [isContinued, next?]
  have hstart : tree.plain.chainStart id = tree.chainStart id := by
    simp [chainStart, earlier]
  have htag : ∀ other, tree.plain.tagOf other = tree.tagOf other := by
    intro other
    simp [tagOf]
  rw [closingText, closing?, node_plain, hcontinued, hstart, htag, closingText, closing?]
  cases tree.node id <;> rfl

@[simp] lemma below_plain : tree.plain.below id = tree.below id := by
  have hgrow : ∀ fuel ids, tree.plain.grow fuel ids = tree.grow fuel ids := by
    intro fuel
    induction fuel with
    | zero => exact fun _ => rfl
    | succ fuel ih =>
      intro ids
      simp [grow, ih]
  rw [below, size_plain, children_plain, hgrow, below]

end Tree

inductive Visit where
  | enter (id : NodeId)
  | leave (id : NodeId)
  deriving Repr, DecidableEq

namespace Visit

def id : Visit → NodeId
  | enter id => id
  | leave id => id

def text (tree : Tree) : Visit → Text
  | enter id => tree.openingText id
  | leave id => tree.closingText id

def entered? : Visit → Option NodeId
  | enter id => some id
  | leave _ => none

def all (forest : Forest NodeId) : List Visit :=
  forest.walk (fun id => [enter id]) (fun id => [leave id])

lemma all_cons (id : NodeId) (children siblings : Forest NodeId) :
    all (.cons id children siblings) = enter id :: (all children ++ leave id :: all siblings) := by
  simp [all]

lemma flatMap_text_all (tree : Tree) (forest : Forest NodeId) :
    (all forest).flatMap (text tree) = forest.walk tree.openingText tree.closingText := by
  rw [all, Forest.flatMap_walk]
  simp [text]

lemma filterMap_entered?_all (forest : Forest NodeId) :
    (all forest).filterMap entered? = forest.preorder := by
  induction forest with
  | nil => rfl
  | cons id children siblings ihc ihs =>
    simp [all_cons, List.filterMap_cons, entered?, ihc, ihs]

lemma mem_all_iff {forest : Forest NodeId} {visit : Visit} :
    visit ∈ all forest ↔ visit.id ∈ forest.preorder := by
  induction forest with
  | nil => simp [all]
  | cons id children siblings ihc ihs =>
    simp only [all_cons, List.mem_cons, List.mem_append, ihc, ihs, Forest.preorder_cons]
    cases visit with
    | enter other => simp [Visit.id]
    | leave other =>
      simp only [Visit.id, reduceCtorEq, leave.injEq, false_or]
      exact or_left_comm

/-- A walk through different nodes takes no step twice. -/
lemma nodup_all {forest : Forest NodeId} (h : forest.preorder.Nodup) : (all forest).Nodup := by
  induction forest with
  | nil => exact .nil
  | cons id children siblings ihc ihs =>
    simp only [Forest.preorder_cons, List.nodup_cons, List.mem_append, not_or,
      List.nodup_append] at h
    obtain ⟨⟨hidc, hids⟩, hc, hs, hdisjoint⟩ := h
    simp only [all_cons, List.nodup_cons, List.nodup_append, List.mem_append, List.mem_cons,
      mem_all_iff, not_or]
    refine ⟨⟨hidc, by simp, hids⟩, ihc hc, ⟨hids, ihs hs⟩, ?_⟩
    rintro visit hv other (rfl | ho) rfl
    · exact hidc hv
    · exact hdisjoint _ hv _ ho rfl

end Visit

open Layout OutlineMarkup.Tree

/-- What the text of a tree is when nothing stands between its lines or before them. The walk
through the tree enters and leaves every node that can be reached from the root once, and enters
them in document order. -/
structure Spelled (tree : Tree) : Prop where
  flatten_eq : (treeLines [] tree).flatten = tree.serial root
  render_eq : ∀ template : Template, template.tree = tree → template.style = {} →
    template.render = tree.serial root
  serial_eq : ∀ id ∈ tree.preorder root, tree.serial id =
    tree.openingText id ++ (tree.children id).flatMap tree.serial ++ tree.closingText id
  plain_eq : ∀ tree', Grown tree' → tree'.plain = tree.plain →
    (treeLines [] tree').flatten = (treeLines [] tree).flatten
  visits_eq : tree.serial root =
    (Visit.all (.cons root (tree.below root) .nil)).flatMap (Visit.text tree)
  nodup_visits : (Visit.all (.cons root (tree.below root) .nil)).Nodup
  visited_iff : ∀ visit : Visit, visit ∈ Visit.all (.cons root (tree.below root) .nil) ↔
    ∃ n, Descends tree n root visit.id
  entered_eq : (Visit.all (.cons root (tree.below root) .nil)).filterMap Visit.entered? =
    tree.preorder root

lemma intercalate_nil_eq_flatten (lines : List Text) :
    List.intercalate [] lines = lines.flatten := by
  induction lines with
  | nil => rfl
  | cons line lines ih =>
    cases lines with
    | nil => simp
    | cons next lines =>
      rw [List.intercalate_cons_cons, ih]
      simp

lemma Tree.Grown.serial_root {tree : Tree} (h : Grown tree) :
    tree.serial root = (tree.below root).walk tree.openingText tree.closingText := by
  have hopening : tree.openingText root = [] := by rw [openingText, h.node_root]; rfl
  have hclosing : tree.closingText root = [] := by
    simp [closingText, Tree.closing?, h.node_root]
  rw [serial, hopening, hclosing, List.nil_append, List.append_nil]

/-- Whatever is created and attached, the text of the tree is the plain one. -/
theorem spelled_of_grown {tree : Tree} (h : Grown tree) : Spelled tree := by
  have sound := h.sound
  have hflatten : (treeLines [] tree).flatten = tree.serial root := by
    rw [flatten_treeLines sound, h.serial_root]
  constructor
  case flatten_eq => exact hflatten
  case render_eq =>
    intro template htree hstyle
    rw [Template.render, htree, hstyle, intercalate_nil_eq_flatten, hflatten]
  case serial_eq =>
    intro id hid
    obtain ⟨n, hd⟩ := sound.mem_preorder_root.1 hid
    exact Tree.serial_eq sound hd
  case plain_eq =>
    intro tree' h' hplain
    rw [hflatten, h.serial_root, flatten_treeLines h'.sound, ← below_plain tree,
      ← below_plain tree', ← openingText_plain tree, ← openingText_plain tree',
      ← closingText_plain tree, ← closingText_plain tree', hplain]
  case visits_eq =>
    rw [Visit.flatMap_text_all, Forest.walk_cons, Forest.walk_nil, List.append_nil, serial]
  case nodup_visits =>
    apply Visit.nodup_all
    simpa [preorder] using sound.nodup_preorder_root
  case visited_iff =>
    intro visit
    rw [Visit.mem_all_iff, ← sound.mem_preorder_root]
    simp [preorder]
  case entered_eq =>
    rw [Visit.filterMap_entered?_all]
    simp [preorder]

/-- A condensed element that absorbs its first text, and a chain of control tags after it. -/
theorem spelled_condensed_element :
    ∃ tree, Tree.ofLines (["%-p", "  |a", "    %b c", "-if x", "-else"].map String.toList) =
        .ok tree ∧
      Spelled tree ∧
      tree.serial root = "<p>a<b>c</b></p>{% if x %}{% else %}{% endif %}".toList := by
  have hlines : (Tree.ofLines
      (["%-p", "  |a", "    %b c", "-if x", "-else"].map String.toList)).map
        (fun tree => (treeLines [] tree).flatten) =
      .ok "<p>a<b>c</b></p>{% if x %}{% else %}{% endif %}".toList := by
    decide +kernel
  cases h : Tree.ofLines (["%-p", "  |a", "    %b c", "-if x", "-else"].map String.toList) with
  | error diagnostic =>
    rw [h] at hlines
    cases hlines
  | ok tree =>
    have hspelled := spelled_of_grown (Builder.grown_of_ofLines h)
    rw [h] at hlines
    refine ⟨tree, rfl, hspelled, ?_⟩
    rw [← hspelled.flatten_eq]
    exact Except.ok.inj hlines

end OutlineMarkup

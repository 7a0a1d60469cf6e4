import OutlineMarkup.Proofs.Drafts

/-! Document order is the order of creation. The open nodes that may have children stand one inside
the other on the last path through the outline, with nothing behind them: a blank line goes past an
open node that has no children, and a node that is closed is never opened again. So the nodes of
each line come behind all nodes there are. -/
namespace OutlineMarkup

open OutlineMarkup.Tree

namespace Layer

variable {α : Type}

/-- The labels before what is inside some layers: the open nodes and what stands before them. -/
def entered : List (Layer α) → List α
  | [] => []
  | layer :: outer => entered outer ++ (layer.before.preorder ++ [layer.label])

/-- Where nothing stands behind the open nodes, what is inside them comes last. -/
lemma preorder_closeAll {layers : List (Layer α)} (h : ∀ layer ∈ layers, layer.after = .nil)
    (inner : Forest α) : (closeAll layers inner).preorder = entered layers ++ inner.preorder := by
  induction layers generalizing inner with
  | nil => rfl
  | cons layer outer ih =>
    rw [closeAll, ih fun other ho => h other (by simp [ho]), close, h layer (by simp), entered]
    simp

end Layer

namespace Builder

/-- The open lines whose nodes may have children, innermost first. -/
def openFrames (builder : Builder) : List (Frame NodeId) :=
  builder.frames.filter fun frame => (builder.tree.node frame.item).allowsChildren

/-- The open nodes that may have children are layers of the outline, with nothing behind them. -/
structure Rightmost (builder : Builder) (layers : List (Layer NodeId)) (inner : Forest NodeId) :
    Prop where
  below_eq : builder.tree.below root = Layer.closeAll layers inner
  labels_eq : layers.map Layer.label = builder.openFrames.map Frame.item
  after_eq : ∀ layer ∈ layers, layer.after = .nil

variable {builder : Builder} {line : Text} {planted : Tree}

lemma hangsAt_of_labels_eq {layers : List (Layer NodeId)} {frames : List (Frame NodeId)}
    (h : layers.map Layer.label = frames.map Frame.item) : hangsAt layers = innermost frames := by
  rw [hangsAt, ← List.head?_map, h, innermost, List.head?_map]

/-- A sprout that is linked to one of these nodes comes behind all nodes there are. -/
lemma Rightmost.link {layers : List (Layer NodeId)} {inner : Forest NodeId}
    {around : List (Frame NodeId)} (h : Rightmost builder layers inner) (ready : Ready builder)
    (horder : builder.tree.preorder root = List.range builder.tree.size)
    (haround : around <:+ builder.openFrames)
    (hs : Sprouts builder line planted (innermost around)) :
    ∃ (outer : List (Layer NodeId)) (inside forest : Forest NodeId),
      outer.map Layer.label = around.map Frame.item ∧
      (∀ layer ∈ outer, layer.after = .nil) ∧
      (planted.link (innermost around) builder.tree.size).below root =
        Layer.closeAll outer (inside.append (.cons builder.tree.size forest .nil)) ∧
      (planted.link (innermost around) builder.tree.size).preorder root =
        List.range planted.size := by
  -- the layers outside the parent are still open, the others are closed
  obtain ⟨dropped, hdropped⟩ := haround
  obtain ⟨closed, outer, rfl, -, hlabels⟩ :=
    List.map_eq_append_iff.1 (h.labels_eq.trans (by rw [← hdropped, List.map_append]))
  have hafter : ∀ layer ∈ outer, layer.after = .nil :=
    fun layer hl => h.after_eq layer (by simp [hl])
  have hbelow := h.below_eq
  rw [Layer.closeAll_append] at hbelow
  rw [← hangsAt_of_labels_eq hlabels] at hs ⊢
  obtain ⟨-, -, forest, -, -, -, hforest, hlink⟩ := hs.below_link ready hbelow
  refine ⟨outer, Layer.closeAll closed inner, forest, hlabels, hafter, hlink, ?_⟩
  obtain ⟨k, hk⟩ : ∃ k, planted.size = builder.tree.size + (k + 1) :=
    ⟨planted.size - (builder.tree.size + 1), by have := hs.size_lt; omega⟩
  have hnew : builder.tree.size :: forest.preorder = List.range' builder.tree.size (k + 1) := by
    have hcount : planted.size - (builder.tree.size + 1) = k := by omega
    rw [hforest, hcount, List.range'_succ]
  have hall : List.range planted.size =
      List.range builder.tree.size ++ List.range' builder.tree.size (k + 1) := by
    have := List.range'_append_1 (s := 0) (m := builder.tree.size) (n := k + 1)
    rw [Nat.zero_add] at this
    rw [hk, List.range_eq_range', List.range_eq_range', this]
  rw [preorder, hbelow, Layer.preorder_closeAll hafter] at horder
  rw [preorder, hlink, Layer.preorder_closeAll hafter, Forest.preorder_append,
    Forest.preorder_cons, Forest.preorder_nil, List.append_nil, hnew, ← List.append_assoc,
    ← List.cons_append, horder, hall]

/-- The open nodes stay rightmost and the nodes in order. -/
def InOrder (builder : Builder) : Prop :=
  (∃ layers inner, Rightmost builder layers inner) ∧
    builder.tree.preorder root = List.range builder.tree.size

lemma inOrder_start : InOrder {} := ⟨⟨[], .nil, rfl, rfl, by simp⟩, rfl⟩

/-- Planting a line leaves the open nodes what they are. -/
lemma Sprouts.filter_link {parent : NodeId} (hs : Sprouts builder line planted parent)
    (ready : Ready builder) {frames : List (Frame NodeId)} (hf : frames ⊆ builder.frames) :
    (frames.filter fun frame =>
        ((planted.link parent builder.tree.size).node frame.item).allowsChildren) =
      frames.filter fun frame => (builder.tree.node frame.item).allowsChildren := by
  obtain ⟨_, _, -, hplanted⟩ := hs.sprouted
  apply List.filter_congr
  intro frame hmem
  rw [node_link, hplanted.keeps.node_eq (ready.item_lt frame (hf hmem))]

/-- One more line keeps the nodes in order. -/
theorem Adds.inOrder {builder' : Builder} (h : InOrder builder) (ready : Ready builder)
    (hadds : Adds builder line builder') : InOrder builder' := by
  obtain ⟨⟨layers, inner, hright⟩, horder⟩ := h
  cases hadds with
  | @blank planted _ hs =>
    obtain ⟨outer, inside, forest, hlabels, hafter, hbelow, hrange⟩ :=
      hright.link ready horder (List.suffix_refl _) hs
    refine ⟨⟨outer, _, hbelow, ?_, hafter⟩, by rw [linked, size_link]; exact hrange⟩
    rw [openFrames, linked, hs.filter_link ready (List.Subset.refl _)]
    exact hlabels
  | @filled planted around _ _ haround hs =>
    have hsub := (Frame.suffix_of_enclosing? haround).subset
    -- the parent may have children, so it is the innermost of these nodes
    have hparent : innermost around = innermost
        (around.filter fun frame => (builder.tree.node frame.item).allowsChildren) := by
      cases around with
      | nil => rfl
      | cons frame outer =>
        have hallows : (builder.tree.node frame.item).allowsChildren := hs.allowsChildren
        simp [hallows, innermost]
    have hsuffix : (around.filter fun frame => (builder.tree.node frame.item).allowsChildren) <:+
        builder.openFrames :=
      (Frame.suffix_of_enclosing? haround).filter _
    rw [hparent] at hs ⊢
    obtain ⟨outer, inside, forest, hlabels, hafter, hbelow, hrange⟩ :=
      hright.link ready horder hsuffix hs
    refine ⟨?_, by rw [linked, size_link]; exact hrange⟩
    have hframes := hs.filter_link ready hsub
    cases hallows : (planted.node builder.tree.size).allowsChildren with
    | true =>
      refine ⟨⟨inside, builder.tree.size, .nil⟩ :: outer, forest, hbelow, ?_, ?_⟩
      · rw [openFrames, linked, List.filter_cons_of_pos (by simpa using hallows), hframes,
          List.map_cons, List.map_cons, hlabels]
      · simpa using hafter
    | false =>
      refine ⟨outer, _, hbelow, ?_, hafter⟩
      rw [openFrames, linked, List.filter_cons_of_neg (by simpa using hallows), hframes]
      exact hlabels

/-- After every run all nodes are in order. -/
theorem inOrder_of_addLines {lines : List Text} (run : addLines {} 0 lines = .ok builder) :
    Ready builder ∧ InOrder builder :=
  run_induction (motive := fun _ => InOrder) inOrder_start
    (fun _ ready hin hadds => hadds.inOrder hin ready) run

lemma preorder_of_ofLines {lines : List Text} {tree : Tree} (h : Tree.ofLines lines = .ok tree) :
    Grown tree ∧ tree.preorder root = List.range tree.size := by
  cases hrun : addLines {} 0 lines with
  | error diagnostic => simp [Tree.ofLines, hrun, Except.map] at h
  | ok builder =>
    simp only [Tree.ofLines, hrun, Except.map] at h
    cases h
    obtain ⟨ready, -, horder⟩ := inOrder_of_addLines hrun
    exact ⟨ready.grown, horder⟩

/-- The tree of every template holds all nodes that were created, below the root, and in document
order they have the numbers from zero on. -/
theorem documentOrder_of_ofLines {lines : List Text} {tree : Tree}
    (h : Tree.ofLines lines = .ok tree) :
    tree.preorder root = List.range tree.size ∧
      ∀ id, id < tree.size ↔ ∃ n, Descends tree n root id := by
  obtain ⟨grown, horder⟩ := preorder_of_ofLines h
  refine ⟨horder, fun id => ?_⟩
  rw [← grown.sound.mem_preorder_root, horder, List.mem_range]

/-- Content and a tag written inline, and blank lines behind an element without children and inside
one that is left again. -/
theorem documentOrder_past_void_element :
    ∃ tree, Tree.ofLines (["%ul: %li x", "  %br", "", "  %p", "", "y"].map String.toList) =
        .ok tree ∧
      tree.preorder root = List.range 9 ∧ tree.parent? 5 = some 1 ∧
      ∃ n, Descends tree n root 5 := by
  have hsize : (Tree.ofLines (["%ul: %li x", "  %br", "", "  %p", "", "y"].map String.toList)).map
      (fun tree => (tree.size, tree.parent? 5)) = .ok (9, some 1) := by
    decide +kernel
  cases h : Tree.ofLines (["%ul: %li x", "  %br", "", "  %p", "", "y"].map String.toList) with
  | error diagnostic =>
    rw [h] at hsize
    cases hsize
  | ok tree =>
    rw [h] at hsize
    obtain ⟨hnine, hparent⟩ := Prod.mk.inj (Except.ok.inj hsize)
    obtain ⟨horder, hreached⟩ := documentOrder_of_ofLines h
    exact ⟨tree, rfl, hnine ▸ horder, hparent, (hreached 5).1 (by omega)⟩

end Builder
end OutlineMarkup

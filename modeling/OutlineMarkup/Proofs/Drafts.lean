import Mathlib.Data.List.TakeWhile
import OutlineMarkup.Proofs.Building

/-! Building without an arena. A draft is the outline so far with its open nodes as layers, the
innermost first; lines are added to it by putting forests together. The builder keeps exactly the
outline of the draft and finds the same faults, so what a template's outline is can be told without
the names of nodes. -/
namespace OutlineMarkup

open OutlineMarkup.Tree

namespace Forest

variable {α : Type}

/-- Put a forest at the end of the children of a label, wherever it stands. -/
def graft [DecidableEq α] (label : α) (new : Forest α) : Forest α → Forest α
  | nil => nil
  | cons other children siblings =>
    cons other (if other = label then (graft label new children).append new
      else graft label new children) (graft label new siblings)

variable [DecidableEq α] {label : α} {new : Forest α}

lemma graft_of_notMem {forest : Forest α} (h : label ∉ forest.preorder) :
    graft label new forest = forest := by
  induction forest with
  | nil => rfl
  | cons other children siblings ihc ihs =>
    simp only [preorder_cons, List.mem_cons, List.mem_append, not_or] at h
    rw [graft, ihc h.2.1, ihs h.2.2, if_neg (Ne.symm h.1)]

lemma graft_append (first second : Forest α) :
    graft label new (first.append second) =
      (graft label new first).append (graft label new second) := by
  induction first with
  | nil => rfl
  | cons other children siblings _ ihs => rw [cons_append, graft, ihs, graft, cons_append]

end Forest

/-- An open node between its siblings so far: those before it, and those that came after it was
opened. -/
structure Layer (α : Type) where
  before : Forest α
  label : α
  after : Forest α
  deriving Repr, DecidableEq

namespace Layer

variable {α β : Type}

def close (layer : Layer α) (inner : Forest α) : Forest α :=
  layer.before.append (.cons layer.label inner layer.after)

def closeAll : List (Layer α) → Forest α → Forest α
  | [], inner => inner
  | layer :: outer, inner => closeAll outer (layer.close inner)

def map (f : α → β) (layer : Layer α) : Layer β :=
  ⟨layer.before.map f, f layer.label, layer.after.map f⟩

lemma closeAll_append (inside outside : List (Layer α)) (inner : Forest α) :
    closeAll (inside ++ outside) inner = closeAll outside (closeAll inside inner) := by
  induction inside generalizing inner with
  | nil => rfl
  | cons layer inside ih => rw [List.cons_append, closeAll, ih, closeAll]

lemma map_close (f : α → β) (layer : Layer α) (inner : Forest α) :
    (layer.close inner).map f = (layer.map f).close (inner.map f) := by
  rw [close, Forest.map_append, Forest.map_cons]
  rfl

lemma map_closeAll (f : α → β) (layers : List (Layer α)) (inner : Forest α) :
    (closeAll layers inner).map f = closeAll (layers.map (map f)) (inner.map f) := by
  induction layers generalizing inner with
  | nil => rfl
  | cons layer outer ih => rw [closeAll, ih, map_close, List.map_cons, closeAll]

lemma mem_preorder_close {layer : Layer α} {inner : Forest α} {label : α} :
    label ∈ (layer.close inner).preorder ↔ label ∈ layer.before.preorder ∨ label = layer.label ∨
      label ∈ inner.preorder ∨ label ∈ layer.after.preorder := by
  simp [close]

lemma mem_preorder_closeAll {layers : List (Layer α)} {inner : Forest α} {label : α}
    (h : label ∈ inner.preorder) : label ∈ (closeAll layers inner).preorder := by
  induction layers generalizing inner with
  | nil => exact h
  | cons layer outer ih => exact ih (mem_preorder_close.2 (.inr (.inr (.inl h))))

lemma nodup_of_closeAll {layers : List (Layer α)} {inner : Forest α}
    (h : (closeAll layers inner).preorder.Nodup) : inner.preorder.Nodup := by
  induction layers generalizing inner with
  | nil => exact h
  | cons layer outer ih =>
    have hclose := ih h
    rw [close, Forest.preorder_append, Forest.preorder_cons] at hclose
    exact (List.nodup_append.1 (List.nodup_cons.1 (List.nodup_append.1 hclose).2.1).2).1

variable [DecidableEq α]

lemma graft_close_of_mem {layer : Layer α} {inner new : Forest α} {label : α}
    (h : (layer.close inner).preorder.Nodup) (hmem : label ∈ inner.preorder) :
    Forest.graft label new (layer.close inner) = layer.close (Forest.graft label new inner) := by
  simp only [close, Forest.preorder_append, Forest.preorder_cons, List.nodup_append,
    List.nodup_cons, List.mem_append, List.mem_cons] at h
  obtain ⟨-, ⟨htop, -, -, hafter⟩, hbefore⟩ := h
  have hne : layer.label ≠ label := fun heq => htop (.inl (heq ▸ hmem))
  rw [close, Forest.graft_append, Forest.graft, if_neg hne,
    Forest.graft_of_notMem fun hm => hbefore label hm label (.inr (.inl hmem)) rfl,
    Forest.graft_of_notMem fun hm => hafter label hmem label hm rfl, close]

lemma graft_close_label {layer : Layer α} {inner new : Forest α}
    (h : (layer.close inner).preorder.Nodup) :
    Forest.graft layer.label new (layer.close inner) = layer.close (inner.append new) := by
  simp only [close, Forest.preorder_append, Forest.preorder_cons, List.nodup_append,
    List.nodup_cons, List.mem_append, List.mem_cons, not_or] at h
  obtain ⟨-, ⟨⟨hinner, hafter⟩, -⟩, hbefore⟩ := h
  rw [close, Forest.graft_append, Forest.graft, if_pos rfl, Forest.graft_of_notMem hinner,
    Forest.graft_of_notMem hafter,
    Forest.graft_of_notMem fun hm => hbefore layer.label hm layer.label (.inl rfl) rfl, close]

lemma graft_closeAll_of_mem {layers : List (Layer α)} {inner new : Forest α} {label : α}
    (h : (closeAll layers inner).preorder.Nodup) (hmem : label ∈ inner.preorder) :
    Forest.graft label new (closeAll layers inner) =
      closeAll layers (Forest.graft label new inner) := by
  induction layers generalizing inner with
  | nil => rfl
  | cons layer outer ih =>
    rw [closeAll, ih h (mem_preorder_close.2 (.inr (.inr (.inl hmem)))),
      graft_close_of_mem (nodup_of_closeAll h) hmem, closeAll]

/-- Grafting at the innermost open node adds to what is inside all layers. -/
theorem graft_closeAll {layer : Layer α} {outer : List (Layer α)} {inner new : Forest α}
    (h : (closeAll (layer :: outer) inner).preorder.Nodup) :
    Forest.graft layer.label new (closeAll (layer :: outer) inner) =
      closeAll (layer :: outer) (inner.append new) := by
  rw [closeAll] at h ⊢
  rw [graft_closeAll_of_mem h (mem_preorder_close.2 (.inr (.inl rfl))),
    graft_close_label (nodup_of_closeAll h), closeAll]

end Layer

lemma Tree.Unfolds.graft {tree tree' : Tree} {ids : List NodeId} {forest new : Forest NodeId}
    {parent child : NodeId} (h : Unfolds tree ids forest) (hnew : Unfolds tree' [child] new)
    (heq : ∀ id ∈ forest.preorder,
      tree'.children id = tree.children id ++ if parent = id then [child] else []) :
    Unfolds tree' ids (Forest.graft parent new forest) := by
  induction h with
  | nil => exact .nil
  | @cons id ids children siblings _ _ ihc ihs =>
    simp only [Forest.preorder_cons, List.mem_cons, List.mem_append] at heq
    have hc := ihc fun a ha => heq a (.inr (.inl ha))
    refine .cons ?_ (ihs fun a ha => heq a (.inr (.inr ha)))
    rw [heq id (.inl rfl)]
    by_cases hid : id = parent
    · rw [if_pos hid.symm, if_pos hid]
      exact hc.append hnew
    · rw [if_neg (Ne.symm hid), if_neg hid, List.append_nil]
      exact hc

namespace Builder

/-- The name that a list of layers hangs new nodes at: the innermost open node, or the root. -/
def hangsAt (layers : List (Layer NodeId)) : NodeId := (layers.head?.map Layer.label).getD root

/-- Linking a sprout to the innermost of some layers puts it behind all that is inside them, with
its names in document order. -/
theorem Sprouts.below_link {builder : Builder} {line : Text} {planted : Tree}
    {outer : List (Layer NodeId)} {inner : Forest NodeId} (ready : Ready builder)
    (h : Sprouts builder line planted (hangsAt outer))
    (hbelow : builder.tree.below root = Layer.closeAll outer inner) :
    ∃ node children forest, (Line.read line.trim).sprout = .ok (node, children) ∧
      planted.node builder.tree.size = node ∧ forest.map planted.node = children ∧
      forest.preorder =
        List.range' (builder.tree.size + 1) (planted.size - (builder.tree.size + 1)) ∧
      (planted.link (hangsAt outer) builder.tree.size).below root =
        Layer.closeAll outer (inner.append (.cons builder.tree.size forest .nil)) := by
  obtain ⟨node, children, hsprout, hplanted⟩ := h.sprouted
  obtain ⟨forest, hforest, hmap, hpreorder⟩ := hplanted.unfolds
  have sound := ready.grown.sound
  have sound' := (h.grown_link ready).sound
  have hunfolds := sound.unfolds_below (.refl root)
  have hnodup := List.nodup_cons.1 sound.nodup_preorder_root
  have hlt : ∀ id ∈ (builder.tree.below root).preorder, id < builder.tree.size := by
    intro id hid
    obtain ⟨n, hd⟩ := sound.mem_preorder_root.1 (List.mem_cons_of_mem root hid)
    exact hd.lt_size sound
  have hnew : Unfolds (planted.link (hangsAt outer) builder.tree.size) [builder.tree.size]
      (.cons builder.tree.size forest .nil) := by
    refine .cons ?_ .nil
    rw [h.children_link_of_le (Nat.le_refl _)]
    apply hforest.congr
    intro id hid
    rw [hpreorder, List.mem_range'_1] at hid
    exact h.children_link_of_le (Nat.le_of_succ_le hid.1)
  refine ⟨node, children, forest, hsprout, hplanted.node_eq, hmap, hpreorder, ?_⟩
  apply sound'.below_eq (.refl root)
  rw [h.children_link_of_lt sound.root_lt]
  cases outer with
  | nil =>
    rw [if_pos (show hangsAt [] = root from rfl)]
    refine Unfolds.append (Unfolds.congr (hbelow ▸ hunfolds) fun id hid => ?_) hnew
    have hid' : id ∈ (builder.tree.below root).preorder := hbelow ▸ hid
    rw [h.children_link_of_lt (hlt id hid'), if_neg, List.append_nil]
    rintro rfl
    exact hnodup.1 hid'
  | cons layer outer =>
    have hmem : layer.label ∈ (builder.tree.below root).preorder := by
      rw [hbelow, Layer.closeAll]
      exact Layer.mem_preorder_closeAll (Layer.mem_preorder_close.2 (.inr (.inl rfl)))
    have hne : hangsAt (layer :: outer) ≠ root := fun heq => hnodup.1 (heq ▸ hmem)
    rw [if_neg hne, List.append_nil, ← Layer.graft_closeAll (hbelow ▸ hnodup.2), ← hbelow]
    exact hunfolds.graft hnew fun id hid => h.children_link_of_lt (hlt id hid)

end Builder

/-- Two results agree: both are values that belong together, or both are faults that do. -/
inductive Agree {α β : Type} (faults : Diagnostic → Diagnostic → Prop) (values : α → β → Prop) :
    Except Diagnostic α → Except Diagnostic β → Prop
  | ok {a : α} {b : β} (h : values a b) : Agree faults values (.ok a) (.ok b)
  | error {d e : Diagnostic} (h : faults d e) : Agree faults values (.error d) (.error e)

namespace Frame

variable {α β : Type}

def map (f : α → β) (frame : Frame α) : Frame β := ⟨frame.width, f frame.item⟩

/-- The lines around a wider line are all open ones, and otherwise the innermost one is closed. -/
lemma enclosing?_cases {width : Nat} {frame : Frame α} {rest around : List (Frame α)}
    (h : enclosing? width (frame :: rest) = some around) :
    (frame.width < width ∧ around = frame :: rest) ∨
      (¬ frame.width < width ∧ ∃ dropped, dropped ≠ [] ∧ frame :: rest = dropped ++ around) := by
  by_cases hw : frame.width < width
  · simp only [enclosing?, hw, if_true] at h
    cases h
    exact .inl ⟨hw, rfl⟩
  · refine .inr ⟨hw, ?_⟩
    obtain ⟨dropped, hd⟩ := suffix_of_enclosing? h
    refine ⟨dropped, ?_, hd.symm⟩
    rintro rfl
    rw [List.nil_append] at hd
    subst hd
    simp only [enclosing?, hw, if_false] at h
    split at h
    · next same outer hdrop =>
      split at h
      · cases h
        have := congrArg List.length hdrop
        have hle := (List.dropWhile_sublist (l := frame :: rest) (width < ·.width)).length_le
        simp only [List.length_cons] at this hle
        omega
      · cases h
    · cases h

lemma enclosing?_map (f : α → β) (width : Nat) (frames : List (Frame α)) :
    enclosing? width (frames.map (map f)) =
      (enclosing? width frames).map (List.map (map f)) := by
  cases frames with
  | nil => rfl
  | cons inner outer =>
    have hdrop : ((inner :: outer).map (map f)).dropWhile (width < ·.width) =
        ((inner :: outer).dropWhile (width < ·.width)).map (map f) := by
      rw [List.dropWhile_map]
      rfl
    by_cases hw : inner.width < width
    · simp [enclosing?, map, hw]
    · simp only [enclosing?, List.map_cons, map, hw, if_false] at hdrop ⊢
      rw [hdrop]
      cases (inner :: outer).dropWhile (width < ·.width) with
      | nil => rfl
      | cons same around => by_cases hs : same.width = width <;> simp [map, hs]

end Frame

/-- An outline under construction: its open nodes with the widths of their lines, innermost first,
and what is inside the innermost one. -/
structure Draft (α : Type) where
  layers : List (Frame (Layer α)) := []
  inner : Forest α := .nil
  deriving Repr, DecidableEq

namespace Draft

variable {α β : Type}

def outline (draft : Draft α) : Forest α :=
  Layer.closeAll (draft.layers.map Frame.item) draft.inner

def map (f : α → β) (draft : Draft α) : Draft β :=
  ⟨draft.layers.map (Frame.map (Layer.map f)), draft.inner.map f⟩

/-- What is inside the given outer layers once all others are closed. -/
def inside (draft : Draft α) (around : List (Frame (Layer α))) : Forest α :=
  Layer.closeAll ((draft.layers.take (draft.layers.length - around.length)).map Frame.item)
    draft.inner

def openNode (draft : Draft α) (around : List (Frame (Layer α))) (width : Nat) (label : α)
    (children : Forest α) : Draft α where
  layers := ⟨width, draft.inside around, label, .nil⟩ :: around
  inner := children

/-- Whether new nodes can hang inside some layers. Outside all of them, they can. -/
def accepts (allows : α → Bool) (layers : List (Frame (Layer α))) : Bool :=
  layers.head?.all fun frame => allows frame.item.label

/-- Put a forest inside the nearest layer outside the innermost one that accepts it. -/
def addAfter (allows : α → Bool) (new : Forest α) :
    List (Frame (Layer α)) → List (Frame (Layer α))
  | [] => []
  | frame :: outer =>
    if accepts allows outer then
      { frame with item := { frame.item with after := frame.item.after.append new } } :: outer
    else frame :: addAfter allows new outer

/-- Add a node to the innermost layer that accepts it, without opening it. -/
def addBlank (allows : α → Bool) (draft : Draft α) (label : α) : Draft α :=
  if accepts allows draft.layers then
    { draft with inner := draft.inner.append (.cons label .nil .nil) }
  else { draft with layers := addAfter allows (.cons label .nil .nil) draft.layers }

/-- The innermost layers that accept new nodes. -/
def holders (allows : α → Bool) (layers : List (Frame (Layer α))) : List (Frame (Layer α)) :=
  layers.dropWhile fun frame => !allows frame.item.label

lemma inside_eq {draft : Draft α} {dropped around : List (Frame (Layer α))}
    (h : draft.layers = dropped ++ around) :
    draft.inside around = Layer.closeAll (dropped.map Frame.item) draft.inner := by
  rw [inside, h, List.length_append, Nat.add_sub_cancel, List.take_left]

lemma inside_layers (draft : Draft α) : draft.inside draft.layers = draft.inner := by
  rw [inside_eq (List.nil_append _).symm]
  rfl

lemma outline_eq_closeAll {draft : Draft α} {around : List (Frame (Layer α))}
    (h : around <:+ draft.layers) :
    draft.outline = Layer.closeAll (around.map Frame.item) (draft.inside around) := by
  obtain ⟨dropped, hd⟩ := h
  rw [inside_eq hd.symm, outline, ← hd, List.map_append, Layer.closeAll_append]

lemma outline_openNode (draft : Draft α) (around : List (Frame (Layer α))) (width : Nat)
    (label : α) (children : Forest α) :
    (draft.openNode around width label children).outline =
      Layer.closeAll (around.map Frame.item)
        ((draft.inside around).append (.cons label children .nil)) :=
  rfl

lemma closeAll_addAfter (allows : α → Bool) (new inner : Forest α)
    {layers : List (Frame (Layer α))} (h : ¬ accepts allows layers) :
    Layer.closeAll ((addAfter allows new layers).map Frame.item) inner =
      Layer.closeAll ((holders allows layers).map Frame.item)
        ((Layer.closeAll ((layers.takeWhile fun frame => !allows frame.item.label).map Frame.item)
          inner).append new) := by
  induction layers generalizing inner with
  | nil => simp [accepts] at h
  | cons frame outer ih =>
    have hframe : allows frame.item.label = false := by simpa [accepts] using h
    rw [holders, List.dropWhile_cons_of_pos (by simpa using hframe),
      List.takeWhile_cons_of_pos (by simpa using hframe), addAfter, List.map_cons, Layer.closeAll]
    by_cases hout : accepts allows outer
    · rw [if_pos hout]
      cases outer with
      | nil => simp [Layer.closeAll, Layer.close, Forest.append_assoc]
      | cons next outer =>
        have hnext : allows next.item.label = true := by simpa [accepts] using hout
        rw [List.dropWhile_cons_of_neg (by simpa using hnext),
          List.takeWhile_cons_of_neg (by simpa using hnext)]
        simp [Layer.closeAll, Layer.close, Forest.append_assoc]
    · rw [if_neg hout, List.map_cons, Layer.closeAll, ih (frame.item.close inner) hout, holders]

/-- A blank node stands behind all that is inside the innermost layers that accept it. -/
lemma outline_addBlank (allows : α → Bool) (draft : Draft α) (label : α) :
    (draft.addBlank allows label).outline =
      Layer.closeAll ((holders allows draft.layers).map Frame.item)
        ((draft.inside (holders allows draft.layers)).append (.cons label .nil .nil)) := by
  have hsplit : draft.layers =
      (draft.layers.takeWhile fun frame => !allows frame.item.label) ++
        holders allows draft.layers :=
    List.takeWhile_append_dropWhile.symm
  rw [inside_eq hsplit, addBlank]
  by_cases h : accepts allows draft.layers
  · rw [if_pos h]
    cases hl : draft.layers with
    | nil => rfl
    | cons frame outer =>
      have hframe : allows frame.item.label = true := by simpa [accepts, hl] using h
      rw [holders, List.dropWhile_cons_of_neg (by simpa using hframe),
        List.takeWhile_cons_of_neg (by simpa using hframe), outline]
      rfl
  · rw [if_neg h]
    exact closeAll_addAfter allows _ _ h

lemma map_congr {f g : α → β} {draft : Draft α}
    (h : ∀ label ∈ draft.outline.preorder, f label = g label) : draft.map f = draft.map g := by
  obtain ⟨layers, inner⟩ := draft
  induction layers generalizing inner with
  | nil => exact congrArg (Draft.mk []) (Forest.map_congr h)
  | cons frame outer ih =>
    have hclose : ∀ label ∈ (frame.item.close inner).preorder, f label = g label := by
      intro label hl
      apply h
      rw [outline, List.map_cons, Layer.closeAll]
      exact Layer.mem_preorder_closeAll hl
    have houter := congrArg Draft.layers (ih (frame.item.close inner) h)
    have hitem : frame.item.map f = frame.item.map g := by
      rw [Layer.map, Layer.map,
        hclose frame.item.label (Layer.mem_preorder_close.2 (.inr (.inl rfl))),
        Forest.map_congr fun label hl => hclose label (Layer.mem_preorder_close.2 (.inl hl)),
        Forest.map_congr fun label hl =>
          hclose label (Layer.mem_preorder_close.2 (.inr (.inr (.inr hl))))]
    have hinner : inner.map f = inner.map g :=
      Forest.map_congr fun label hl =>
        hclose label (Layer.mem_preorder_close.2 (.inr (.inr (.inl hl))))
    simp only [map] at houter
    simp only [map, List.map_cons, houter, hinner, Frame.map, hitem]

lemma map_inside (f : α → β) (draft : Draft α) (around : List (Frame (Layer α))) :
    (draft.inside around).map f = (draft.map f).inside (around.map (Frame.map (Layer.map f))) := by
  simp only [inside, Layer.map_closeAll, map, List.length_map, ← List.map_take, List.map_map]
  rfl

lemma map_openNode (f : α → β) (draft : Draft α) (around : List (Frame (Layer α))) (width : Nat)
    (label : α) (children : Forest α) :
    (draft.openNode around width label children).map f =
      (draft.map f).openNode (around.map (Frame.map (Layer.map f))) width (f label)
        (children.map f) := by
  simp only [openNode, ← map_inside]
  rfl

lemma accepts_map (f : α → β) (allows : β → Bool) (layers : List (Frame (Layer α))) :
    accepts allows (layers.map (Frame.map (Layer.map f))) = accepts (allows ∘ f) layers := by
  cases layers <;> rfl

lemma map_addAfter (f : α → β) (allows : β → Bool) (new : Forest α)
    (layers : List (Frame (Layer α))) :
    (addAfter (allows ∘ f) new layers).map (Frame.map (Layer.map f)) =
      addAfter allows (new.map f) (layers.map (Frame.map (Layer.map f))) := by
  induction layers with
  | nil => rfl
  | cons frame outer ih =>
    simp only [addAfter, List.map_cons, accepts_map]
    by_cases h : accepts (allows ∘ f) outer
    · simp [h, Frame.map, Layer.map]
    · simp [h, ih]

lemma map_addBlank (f : α → β) (allows : β → Bool) (draft : Draft α) (label : α) :
    (draft.addBlank (allows ∘ f) label).map f = (draft.map f).addBlank allows (f label) := by
  have hmap := accepts_map f allows draft.layers
  by_cases h : accepts (allows ∘ f) draft.layers
  · simp only [addBlank, map, hmap, h, if_true, Forest.map_append, Forest.map_cons,
      Forest.map_nil]
  · simp only [addBlank, map, hmap, h, map_addAfter, Forest.map_cons, Forest.map_nil,
      Bool.false_eq_true, if_false]

lemma map_label_addAfter (allows : α → Bool) (new : Forest α) (layers : List (Frame (Layer α))) :
    (addAfter allows new layers).map (Frame.map Layer.label) =
      layers.map (Frame.map Layer.label) := by
  induction layers with
  | nil => rfl
  | cons frame outer ih =>
    rw [addAfter]
    split
    · rfl
    · rw [List.map_cons, ih, List.map_cons]

/-- A blank node opens nothing. -/
lemma map_label_addBlank (allows : α → Bool) (draft : Draft α) (label : α) :
    (draft.addBlank allows label).layers.map (Frame.map Layer.label) =
      draft.layers.map (Frame.map Layer.label) := by
  rw [addBlank]
  split
  · rfl
  · exact map_label_addAfter allows _ _

/-- The node that new lines hang at inside some layers: that of the innermost one, or the root. -/
def parentNode (layers : List (Frame (Layer Node))) : Node :=
  (layers.head?.map (·.item.label)).getD .root

def addLine (draft : Draft Node) (number : Nat) (line : Text) :
    Except Diagnostic (Draft Node) :=
  match (Line.read line.trim).sprout with
  | .error fault => .error (.ofFault number fault)
  | .ok (node, children) =>
    if line.trim.isEmpty then .ok (draft.addBlank Node.allowsChildren node)
    else
      match indentation line with
      | .error fault => .error (.ofFault number fault)
      | .ok width =>
        match Frame.enclosing? width draft.layers with
        | none => .error (.unmatchedUnindent number)
        | some around =>
          if (parentNode around).allowsChildren then
            .ok (draft.openNode around width node children)
          else .error (.ofFault number (.childrenNotAllowed (parentNode around).kind))

def addLines (draft : Draft Node) (number : Nat) : List Text → Except Diagnostic (Draft Node)
  | [] => .ok draft
  | line :: rest =>
    match draft.addLine number line with
    | .error diagnostic => .error diagnostic
    | .ok draft => draft.addLines (number + 1) rest

end Draft

namespace Builder

/-- A draft says what a builder has built and which nodes are open. -/
structure Draws (builder : Builder) (draft : Draft Node) : Prop where
  ready : Ready builder
  named : ∃ names : Draft NodeId, builder.tree.below root = names.outline ∧
    builder.frames = names.layers.map (Frame.map Layer.label) ∧
    names.map builder.tree.node = draft

lemma draws_start : Draws {} {} := ⟨ready_start, {}, rfl, rfl, rfl⟩

lemma innermost_map_label (layers : List (Frame (Layer NodeId))) :
    innermost (layers.map (Frame.map Layer.label)) = hangsAt (layers.map Frame.item) := by
  cases layers <;> rfl

lemma holder_map_label (tree : Tree) (layers : List (Frame (Layer NodeId))) :
    holder tree (layers.map (Frame.map Layer.label)) =
      hangsAt ((Draft.holders (Node.allowsChildren ∘ tree.node) layers).map Frame.item) := by
  have hhead : ((layers.map (Frame.map Layer.label)).filter fun frame =>
        (tree.node frame.item).allowsChildren).head? =
      ((Draft.holders (Node.allowsChildren ∘ tree.node) layers).map
        (Frame.map Layer.label)).head? := by
    rw [List.head?_filter, List.find?_map, List.head?_map, Draft.holders,
      ← List.find?_eq_head?_dropWhile_not]
    rfl
  rw [holder, innermost, hhead, ← innermost, innermost_map_label]

namespace Draws

variable {builder : Builder} {line : Text} {planted : Tree} {node : Node} {children : Forest Node}

/-- Linking a sprout adds it to the names of a draft, and all other names keep their nodes. -/
lemma below_link {names : Draft NodeId} {around : List (Frame (Layer NodeId))}
    (ready : Ready builder) (hbelow : builder.tree.below root = names.outline)
    (haround : around <:+ names.layers)
    (h : Sprouts builder line planted (hangsAt (around.map Frame.item)))
    (hsprout : (Line.read line.trim).sprout = .ok (node, children)) :
    ∃ forest, forest.map planted.node = children ∧ planted.node builder.tree.size = node ∧
      names.map planted.node = names.map builder.tree.node ∧
      (planted.link (hangsAt (around.map Frame.item)) builder.tree.size).below root =
        Layer.closeAll (around.map Frame.item)
          ((names.inside around).append (.cons builder.tree.size forest .nil)) := by
  rw [Draft.outline_eq_closeAll haround] at hbelow
  obtain ⟨node', children', forest, hsprout', hnode, hmap, -, hlink⟩ := h.below_link ready hbelow
  rw [hsprout] at hsprout'
  cases hsprout'
  refine ⟨forest, hmap, hnode, Draft.map_congr fun id hid => ?_, hlink⟩
  obtain ⟨_, _, -, hplanted⟩ := h.sprouted
  rw [Draft.outline_eq_closeAll haround, ← hbelow] at hid
  obtain ⟨n, hd⟩ := ready.grown.sound.mem_preorder_root.1 (List.mem_cons_of_mem root hid)
  exact hplanted.keeps.node_eq (hd.lt_size ready.grown.sound)

lemma blank {draft : Draft Node} (h : Draws builder draft) (hline : line.trim.isEmpty)
    (hsprout : (Line.read line.trim).sprout = .ok (node, children))
    (hs : Sprouts builder line planted (holder builder.tree builder.frames)) :
    Draws (builder.linked planted (holder builder.tree builder.frames) builder.frames)
      (draft.addBlank Node.allowsChildren node) := by
  refine ⟨(Adds.blank hline hs).ready h.ready, ?_⟩
  obtain ⟨names, hbelow, hframes, rfl⟩ := h.named
  obtain ⟨_, _, -, hplanted⟩ := hs.sprouted
  have hholder : holder builder.tree builder.frames = hangsAt
      ((Draft.holders (Node.allowsChildren ∘ planted.node) names.layers).map Frame.item) := by
    rw [← h.ready.holder_planted hplanted, hframes, holder_map_label]
  rw [hholder] at hs ⊢
  obtain ⟨forest, hforest, hnode, hkeeps, hlink⟩ :=
    below_link h.ready hbelow (List.dropWhile_suffix _) hs hsprout
  -- a blank line stands for a single node
  rw [List.isEmpty_iff.1 hline, Line.read_nil] at hsprout
  cases hsprout
  obtain rfl : forest = .nil := by
    cases forest with
    | nil => rfl
    | cons id children siblings => cases hforest
  refine ⟨names.addBlank (Node.allowsChildren ∘ planted.node) builder.tree.size, ?_, ?_, ?_⟩
  · rw [Draft.outline_addBlank]
    exact hlink
  · rw [Draft.map_label_addBlank]
    exact hframes
  · rw [← hkeeps, ← hnode, ← Draft.map_addBlank]
    exact Draft.map_congr fun id _ => node_link planted _ _ id

lemma filled {names : Draft NodeId} {around : List (Frame (Layer NodeId))} {width : Nat}
    (ready : Ready builder) (hbelow : builder.tree.below root = names.outline)
    (haround : around <:+ names.layers)
    (hsprout : (Line.read line.trim).sprout = .ok (node, children))
    (hs : Sprouts builder line planted (hangsAt (around.map Frame.item)))
    (ready' : Ready (builder.linked planted (hangsAt (around.map Frame.item))
      (⟨width, builder.tree.size⟩ :: around.map (Frame.map Layer.label)))) :
    Draws (builder.linked planted (hangsAt (around.map Frame.item))
        (⟨width, builder.tree.size⟩ :: around.map (Frame.map Layer.label)))
      ((names.map builder.tree.node).openNode
        (around.map (Frame.map (Layer.map builder.tree.node))) width node children) := by
  obtain ⟨forest, rfl, rfl, hkeeps, hlink⟩ := below_link ready hbelow haround hs hsprout
  have hlayers := List.map_inj_left.1 (congrArg Draft.layers hkeeps)
  refine ⟨ready', names.openNode around width builder.tree.size forest, ?_, rfl, ?_⟩
  · rw [Draft.outline_openNode]
    exact hlink
  · rw [← hkeeps, ← List.map_congr_left fun frame hf => hlayers frame (haround.subset hf),
      ← Draft.map_openNode]
    exact Draft.map_congr fun id _ => node_link planted _ _ id

lemma parentNode_map (ready : Ready builder) (layers : List (Frame (Layer NodeId))) :
    Draft.parentNode (layers.map (Frame.map (Layer.map builder.tree.node))) =
      builder.tree.node (hangsAt (layers.map Frame.item)) := by
  cases layers with
  | nil => exact ready.grown.node_root.symm
  | cons frame outer => rfl

/-- A draft takes every line as the builder does, and finds the same fault when there is one. -/
theorem addLine {draft : Draft Node} (h : Draws builder draft) (number : Nat) (line : Text) :
    Agree Eq Draws (builder.addLine number line) (draft.addLine number line) := by
  have ready := h.ready
  rw [Draft.addLine]
  cases hsprout : (Line.read line.trim).sprout with
  | error fault =>
    rw [addLine_of_sprout_error builder number hsprout]
    exact .error rfl
  | ok sprout =>
    obtain ⟨node, children⟩ := sprout
    obtain ⟨planted, hplant, hplanted, hgrown, hadd⟩ := ready.addLine_of_sprout number hsprout
    have hsprouts : ∀ parent < builder.tree.size, (builder.tree.node parent).allowsChildren →
        Sprouts builder line planted parent := fun parent hlt hallows =>
      ⟨hplant, ⟨node, children, hsprout, hplanted⟩, hgrown, hlt, hallows⟩
    rw [hadd]
    dsimp only
    by_cases hblank : line.trim.isEmpty
    · rw [if_pos hblank, if_pos hblank]
      exact .ok (h.blank hblank hsprout
        (hsprouts _ ready.holder_lt ready.allowsChildren_holder))
    · rw [if_neg hblank, if_neg hblank]
      obtain ⟨names, hbelow, hframes, rfl⟩ := h.named
      cases hmargin : indentation line with
      | error fault => exact .error rfl
      | ok width =>
        dsimp only
        rw [hframes, Draft.map, Frame.enclosing?_map, Frame.enclosing?_map]
        cases haround : Frame.enclosing? width names.layers with
        | none => exact .error rfl
        | some around =>
          dsimp only [Option.map_some]
          rw [innermost_map_label, parentNode_map ready]
          by_cases hallows : (builder.tree.node (hangsAt (around.map Frame.item))).allowsChildren
          · rw [if_pos hallows, if_pos hallows]
            have hs := hsprouts _ (lt_size_of_allowsChildren hallows) hallows
            obtain rfl := eq_of_indentation hmargin
            have haround' : Frame.enclosing? line.margin.length builder.frames =
                some (around.map (Frame.map Layer.label)) := by
              rw [hframes, Frame.enclosing?_map, haround]
              rfl
            rw [← innermost_map_label] at hs
            have ready' := (Adds.filled hblank hmargin haround' hs).ready ready
            rw [innermost_map_label] at hs ready'
            exact .ok (filled ready hbelow (Frame.suffix_of_enclosing? haround) hsprout hs ready')
          · rw [if_neg hallows, if_neg hallows]
            exact .error rfl

/-- So does it take every run of lines. -/
theorem addLines {draft : Draft Node} (h : Draws builder draft) (number : Nat)
    (lines : List Text) :
    Agree Eq Draws (builder.addLines number lines) (draft.addLines number lines) := by
  induction lines generalizing builder draft number with
  | nil => exact .ok h
  | cons line rest ih =>
    have hline := h.addLine number line
    rw [Builder.addLines, Draft.addLines]
    generalize builder.addLine number line = result at hline ⊢
    generalize draft.addLine number line = result' at hline ⊢
    cases hline with
    | error heq => exact .error heq
    | ok h' => exact ih h' (number + 1)

end Draws
end Builder

lemma Builder.Draws.outline_eq {builder : Builder} {draft : Draft Node}
    (h : Draws builder draft) : builder.tree.outline root = draft.outline := by
  obtain ⟨names, hbelow, -, rfl⟩ := h.named
  rw [Tree.outline, hbelow, Draft.outline, Layer.map_closeAll, Draft.outline, Draft.map,
    List.map_map, List.map_map]
  rfl

/-- The tree of some lines has the outline of their draft, and the same faults are found. -/
theorem Draft.agree_ofLines (lines : List Text) :
    Agree Eq (fun tree draft => tree.outline root = draft.outline) (Tree.ofLines lines)
      (Draft.addLines {} 0 lines) := by
  have hlines := Builder.draws_start.addLines 0 lines
  rw [Tree.ofLines]
  generalize Builder.addLines {} 0 lines = result at hlines ⊢
  generalize Draft.addLines {} 0 lines = result' at hlines ⊢
  cases hlines with
  | error heq => exact .error heq
  | ok h => exact .ok h.outline_eq

end OutlineMarkup

import OutlineMarkup.Proofs.LineEnds
import OutlineMarkup.Proofs.Runs
import OutlineMarkup.Proofs.SerialText

/-! A template inside a line. The lines of the template are moved in by the same number of
characters, below a line of their own. Two runs go side by side then: the template alone, and the
template with all widths shifted and one more line around it, which is narrower than all others and
stays open. So the outline of the template comes to stand under that line, and its text between the
opening and the closing of the line, even when the line absorbs or condenses its content. -/
namespace OutlineMarkup

open Layout OutlineMarkup.Tree

/-- The two characters that lines are indented with. -/
inductive Indent where
  | space
  | tab
  deriving Repr, DecidableEq

namespace Indent

def char : Indent → Char
  | space => ' '
  | tab => '\t'

/-- The character that cannot stand in one margin with another. -/
def other : Indent → Indent
  | space => tab
  | tab => space

/-- A line moved in by a number of characters. A blank line stays as it is. -/
def deepen (indent : Indent) (k : Nat) (line : Text) : Text :=
  if line.trim.isEmpty then line else List.replicate k indent.char ++ line

variable (indent : Indent) (k : Nat) {line : Text}

lemma isBlank_of_mem_replicate : ∀ c ∈ List.replicate k indent.char, Text.isBlank c := by
  intro c hc
  rw [List.eq_of_mem_replicate hc]
  cases indent <;> rfl

lemma deepen_of_blank (h : line.trim.isEmpty) : indent.deepen k line = line := if_pos h

lemma trim_deepen (line : Text) : (indent.deepen k line).trim = line.trim := by
  rw [deepen]
  split
  · rfl
  · rw [Text.trim, Text.trimStart,
      List.dropWhile_append_of_pos (indent.isBlank_of_mem_replicate k)]
    rfl

lemma margin_deepen (h : ¬ line.trim.isEmpty) :
    (indent.deepen k line).margin = List.replicate k indent.char ++ line.margin := by
  rw [deepen, if_neg h]
  exact List.takeWhile_append_of_pos (indent.isBlank_of_mem_replicate k)

lemma length_margin_deepen (h : ¬ line.trim.isEmpty) :
    (indent.deepen k line).margin.length = line.margin.length + k := by
  rw [margin_deepen indent k h, List.length_append, List.length_replicate, Nat.add_comm]

/-- A margin without the other character has an indentation, also when it is deepened. -/
lemma indentation_deepen (h : ¬ line.trim.isEmpty) (hother : indent.other.char ∉ line.margin) :
    indentation (indent.deepen k line) = .ok (indent.deepen k line).margin.length := by
  have hmargin : indent.other.char ∉ (indent.deepen k line).margin := by
    rw [margin_deepen indent k h, List.mem_append, not_or]
    refine ⟨fun hmem => ?_, hother⟩
    have := List.eq_of_mem_replicate hmem
    cases indent <;> cases this
  rw [indentation, if_neg]
  cases indent <;> simp_all [other, char]

end Indent

namespace Draft

section Within

variable {α : Type} (k : Nat) (label : α)

/-- Layers with their widths shifted, and one more layer around them that has no width. -/
def layersWithin (layers : List (Frame (Layer α))) : List (Frame (Layer α)) :=
  layers.map (fun frame => ⟨frame.width + k, frame.item⟩) ++ [⟨0, .nil, label, .nil⟩]

/-- A draft with its widths shifted, inside one more open node. -/
def within (draft : Draft α) : Draft α := ⟨layersWithin k label draft.layers, draft.inner⟩

/-- The node stands around the whole outline. -/
lemma outline_within (draft : Draft α) :
    (draft.within k label).outline = .cons label draft.outline .nil := by
  rw [outline, within, layersWithin, List.map_append, Layer.closeAll_append, List.map_map]
  rfl

lemma inside_within {draft : Draft α} {around : List (Frame (Layer α))}
    (h : around <:+ draft.layers) :
    (draft.within k label).inside (layersWithin k label around) = draft.inside around := by
  obtain ⟨dropped, hd⟩ := h
  have hlayers : (draft.within k label).layers =
      dropped.map (fun frame => ⟨frame.width + k, frame.item⟩) ++ layersWithin k label around := by
    rw [within, ← hd, layersWithin, List.map_append, List.append_assoc, layersWithin]
  rw [inside_eq hlayers, inside_eq hd.symm, List.map_map]
  rfl

lemma openNode_within {draft : Draft α} {around : List (Frame (Layer α))}
    (h : around <:+ draft.layers) (width : Nat) (top : α) (children : Forest α) :
    (draft.within k label).openNode (layersWithin k label around) (width + k) top children =
      (draft.openNode around width top children).within k label := by
  rw [openNode, inside_within k label h]
  rfl

lemma layersWithin_cons (frame : Frame (Layer α)) (outer : List (Frame (Layer α))) :
    layersWithin k label (frame :: outer) =
      ⟨frame.width + k, frame.item⟩ :: layersWithin k label outer := rfl

lemma dropWhile_layersWithin (width : Nat) (layers : List (Frame (Layer α))) :
    (layersWithin k label layers).dropWhile (width + k < ·.width) =
      layersWithin k label (layers.dropWhile (width < ·.width)) := by
  induction layers with
  | nil =>
    rw [layersWithin, List.map_nil, List.nil_append, List.dropWhile_cons_of_neg (by simp)]
    rfl
  | cons frame outer ih =>
    rw [layersWithin_cons]
    by_cases hw : width < frame.width
    · rw [List.dropWhile_cons_of_pos (by simpa using hw),
        List.dropWhile_cons_of_pos (by simpa using hw), ih]
    · rw [List.dropWhile_cons_of_neg (by simpa using hw),
        List.dropWhile_cons_of_neg (by simpa using hw), layersWithin_cons]

variable {k}

/-- A line moved in as far as the open lines has the same lines around it, and the node around them
all. -/
lemma enclosing?_layersWithin (hk : 1 ≤ k) (width : Nat) (layers : List (Frame (Layer α))) :
    Frame.enclosing? (width + k) (layersWithin k label layers) =
      (Frame.enclosing? width layers).map (layersWithin k label) := by
  cases layers with
  | nil =>
    have hwider : 0 < width + k := by omega
    simp only [layersWithin, List.map_nil, List.nil_append, Frame.enclosing?, if_pos hwider,
      Option.map_some]
  | cons frame outer =>
    have hdrop := dropWhile_layersWithin k label width (frame :: outer)
    rw [layersWithin_cons] at hdrop ⊢
    rw [Frame.enclosing?, Frame.enclosing?, hdrop]
    by_cases hw : frame.width < width
    · rw [if_pos (Nat.add_lt_add_right hw k), if_pos hw]
      rfl
    · rw [if_neg (by simpa using hw), if_neg hw]
      cases (frame :: outer).dropWhile (width < ·.width) with
      | nil =>
        -- no open line is as narrow, and the node around them all is narrower
        have hbase : ¬ 0 = width + k := by omega
        exact if_neg hbase
      | cons same around =>
        by_cases hs : same.width = width <;> simp [layersWithin_cons, hs]

variable (k) {label} {allows : α → Bool} (h : allows label)
include h

lemma accepts_layersWithin (layers : List (Frame (Layer α))) :
    accepts allows (layersWithin k label layers) = accepts allows layers := by
  cases layers with
  | nil => exact h
  | cons frame outer => rfl

/-- What does not fit into the innermost node fits into the same one outside it. -/
lemma addAfter_layersWithin (new : Forest α) {layers : List (Frame (Layer α))}
    (hlayers : ¬ accepts allows layers) :
    addAfter allows new (layersWithin k label layers) =
      layersWithin k label (addAfter allows new layers) := by
  induction layers with
  | nil => exact absurd rfl hlayers
  | cons frame outer ih =>
    rw [layersWithin_cons, addAfter, addAfter, accepts_layersWithin k h]
    by_cases houter : accepts allows outer
    · rw [if_pos houter, if_pos houter, layersWithin_cons]
    · rw [if_neg houter, if_neg houter, layersWithin_cons, ih houter]

lemma addBlank_within (draft : Draft α) (blank : α) :
    (draft.within k label).addBlank allows blank =
      (draft.addBlank allows blank).within k label := by
  have haccepts := accepts_layersWithin k h draft.layers
  by_cases hlayers : accepts allows draft.layers
  · simp only [addBlank, within, haccepts, hlayers, if_true]
  · simp only [addBlank, within, haccepts, hlayers, Bool.false_eq_true, if_false,
      addAfter_layersWithin k h _ hlayers]

end Within

variable {draft draft' : Draft Node} {k number : Nat} {node : Node} {indent : Indent}

lemma allowsChildren_parentNode_within (h : node.allowsChildren)
    (layers : List (Frame (Layer Node))) :
    (parentNode (layersWithin k node layers)).allowsChildren =
      (parentNode layers).allowsChildren := by
  cases layers with
  | nil => exact h
  | cons frame outer => rfl

/-- A line that a draft takes is taken inside a node when it is moved in. -/
lemma addLine_within (hnode : node.allowsChildren) (hk : 1 ≤ k) {line : Text}
    (hmargin : ¬ line.trim.isEmpty → indent.other.char ∉ line.margin)
    (h : draft.addLine number line = .ok draft') (number' : Nat) :
    (draft.within k node).addLine number' (indent.deepen k line) = .ok (draft'.within k node) := by
  by_cases hline : line.trim.isEmpty
  · rw [addLine_of_blank hline] at h
    cases h
    rw [indent.deepen_of_blank k hline, addLine_of_blank hline, addBlank_within k hnode]
  · obtain ⟨top, children, around, hsprout, -, haround, hallows, rfl⟩ :=
      (addLine_eq_ok_iff hline).1 h
    have hsuffix := Frame.suffix_of_enclosing? haround
    have hdeep : ¬ (indent.deepen k line).trim.isEmpty := by rwa [indent.trim_deepen]
    refine (addLine_eq_ok_iff hdeep).2 ⟨top, children, layersWithin k node around, ?_,
      indent.indentation_deepen k hline (hmargin hline), ?_, ?_, ?_⟩
    · rwa [indent.trim_deepen]
    · rw [indent.length_margin_deepen k hline, within, enclosing?_layersWithin node hk, haround]
      rfl
    · rwa [allowsChildren_parentNode_within hnode]
    · rw [indent.length_margin_deepen k hline, openNode_within k node hsuffix]

/-- And so is a run of lines. -/
theorem addLines_within (hnode : node.allowsChildren) (hk : 1 ≤ k) {lines : List Text}
    (hmargins : ∀ line ∈ lines, ¬ line.trim.isEmpty → indent.other.char ∉ line.margin)
    (h : draft.addLines number lines = .ok draft') (number' : Nat) :
    (draft.within k node).addLines number' (lines.map (indent.deepen k)) =
      .ok (draft'.within k node) := by
  induction lines generalizing draft number number' with
  | nil =>
    cases h
    rfl
  | cons line rest ih =>
    obtain ⟨mid, hline, hrest⟩ := addLines_cons_eq_ok_iff.1 h
    refine addLines_cons_eq_ok_iff.2 ⟨mid.within k node, ?_, ?_⟩
    · exact addLine_within hnode hk (hmargins line (by simp)) hline number'
    · exact ih (fun other ho => hmargins other (by simp [ho])) hrest (number' + 1)

end Draft

lemma Text.margin_eq_nil_of_trim {line : Text} (h : line.trim = line) : line.margin = [] := by
  rw [← h]
  exact margin_trim line

/-- A first line without a margin is open around the lines that are moved in. -/
lemma Draft.addLine_start {line : Text} {node : Node} (htrim : line.trim = line)
    (hline : ¬ line.trim.isEmpty) (hsprout : (Line.read line).sprout = .ok (node, .nil))
    (k number : Nat) : addLine {} number line = .ok (within k node {}) := by
  have hmargin := Text.margin_eq_nil_of_trim htrim
  refine (addLine_eq_ok_iff hline).2 ⟨node, .nil, [], ?_, ?_, rfl, rfl, ?_⟩
  · rwa [htrim]
  · rw [indentation, hmargin]
    rfl
  · rw [hmargin]
    rfl

/-- The text that closes what a node opens, when it is alone. -/
def Node.closing? : Node → Option Text
  | element e => some e.closing
  | control c => some (Control.closingOf c.tag)
  | _ => none

lemma Node.allowsChildren_of_closing? {node : Node} {closing : Text}
    (h : node.closing? = some closing) : node.allowsChildren := by
  cases node with
  | element _ | control _ => rfl
  | _ => cases h

/-- A line that is planted without anything inside it sprouts a single node. -/
lemma Line.sprout_of_plant {start planted : Tree} {line : Text} {id : NodeId}
    (h : plant start line = (planted, .ok id)) (hchildren : planted.children id = []) :
    (read line).sprout = .ok (planted.node id, .nil) := by
  obtain ⟨node, children, hsprout, rfl, hplanted⟩ := exists_sprout_of_plant h
  obtain ⟨forest, hforest, rfl, -⟩ := hplanted.unfolds
  rw [hchildren] at hforest
  cases hforest
  rw [hsprout, hplanted.node_eq, Forest.map_nil]

namespace Layout

/-- The opening line of a node is its own opening and the text it absorbs. -/
lemma getD_openingLine? (node : Node) (children : Forest Node) :
    (openingLine? node children).getD [] =
      node.opening?.getD [] ++ if absorbs node then (leadingText? children).getD [] else [] := by
  cases node <;> simp [openingLine?, absorbs, Node.opening?]

/-- With nothing between its lines, what a tree holds stands inside a node between the opening and
the closing of the node. What the node absorbs comes first either way. -/
lemma flatten_forestLines_single {tree : Tree} (sound : Sound tree) (node : Node) :
    (forestLines [] 0 false none (.cons node (tree.outline root) .nil)).flatten =
      node.opening?.getD [] ++ (treeLines [] tree).flatten ++ node.closing?.getD [] := by
  have habsorbed : isAbsorbed false node = false := by cases node <;> rfl
  have hclosing : Layout.closing? none .nil node = node.closing? := by cases node <;> rfl
  have hcontent : (if absorbs node then (leadingText? (tree.outline root)).getD [] else []) ++
      (forestLines [] 1 (absorbs node) none (tree.outline root)).flatten =
        (treeLines [] tree).flatten := by
    rw [flatten_treeLines sound]
    exact flatten_forestLines sound (sound.unfolds_below (.refl root))
      (Stands.children tree root) 1 (absorbs node)
  calc (forestLines [] 0 false none (.cons node (tree.outline root) .nil)).flatten
      = (wrap [] 0 node (openingLine? node (tree.outline root)) node.closing?
          (forestLines [] 1 (absorbs node) none (tree.outline root))).flatten := by
        rw [forestLines_cons, habsorbed, if_neg (by simp), hclosing, forestLines, List.append_nil]
    _ = (openingLine? node (tree.outline root)).getD [] ++
          (forestLines [] 1 (absorbs node) none (tree.outline root)).flatten ++
            node.closing?.getD [] := flatten_wrap _ _ _ _ _
    _ = node.opening?.getD [] ++ (treeLines [] tree).flatten ++ node.closing?.getD [] := by
        rw [getD_openingLine?, List.append_assoc (node.opening?.getD []), hcontent]

end Layout

/-- A template can be written inside any line that stands for one element or one control tag. It is
moved in by spaces or by tabs, which must not meet the other character in its margins. What this
makes is accepted, and its text is that of the template between the opening and the closing of the
line. -/
theorem ofLines_deepened {lines : List Text} {tree : Tree} (h : Tree.ofLines lines = .ok tree)
    {line closing : Text} (htrim : line.trim = line) {start planted : Tree} {id : NodeId}
    (hplant : Line.plant start line = (planted, .ok id)) (hchildren : planted.children id = [])
    (hclosing : (planted.node id).closing? = some closing) {indent : Indent} {k : Nat}
    (hk : 1 ≤ k)
    (hmargins : ∀ line ∈ lines, ¬ line.trim.isEmpty → indent.other.char ∉ line.margin) :
    ∃ tree', Tree.ofLines (line :: lines.map (indent.deepen k)) = .ok tree' ∧
      (treeLines [] tree').flatten =
        planted.openingText id ++ (treeLines [] tree).flatten ++ closing := by
  have hsprout := Line.sprout_of_plant hplant hchildren
  have hallows := Node.allowsChildren_of_closing? hclosing
  obtain ⟨draft, hrun, houtline⟩ := Draft.exists_of_ofLines h
  have hfilled : ¬ line.trim.isEmpty := by
    intro hempty
    rw [← htrim, List.isEmpty_iff.1 hempty, Line.read_nil] at hsprout
    obtain ⟨hnode, -⟩ := Prod.mk.inj (Except.ok.inj hsprout)
    rw [← hnode] at hclosing
    cases hclosing
  have hfirst := Draft.addLine_start htrim hfilled hsprout k 0
  have hrest := Draft.addLines_within hallows hk hmargins hrun 1
  obtain ⟨tree', htree', houtline'⟩ :=
    Draft.exists_ofLines (Draft.addLines_cons_eq_ok_iff.2 ⟨_, hfirst, hrest⟩)
  refine ⟨tree', htree', ?_⟩
  rw [treeLines, houtline', Draft.outline_within, ← houtline,
    flatten_forestLines_single (Builder.grown_of_ofLines h).sound, hclosing]
  rfl

/-- Inside an element that absorbs its first text, with a blank line, a chain of control tags and
margins of its own. -/
theorem ofLines_deepened_chain :
    let lines := ["|a", "", "-if b", "  c", "-else"].map String.toList
    (∀ line ∈ lines, ¬ (Text.trim line).isEmpty → Indent.space.other.char ∉ Text.margin line) ∧
      ∃ tree', Tree.ofLines ("%-pre".toList :: lines.map (Indent.space.deepen 3)) = .ok tree' ∧
        (treeLines [] tree').flatten =
          "<pre>".toList ++ "a{% if b %}c{% else %}{% endif %}".toList ++ "</pre>".toList := by
  intro lines
  have hmargins : ∀ line ∈ lines,
      ¬ (Text.trim line).isEmpty → Indent.space.other.char ∉ Text.margin line := by
    decide +kernel
  have htext : (Tree.ofLines lines).map (fun tree => (treeLines [] tree).flatten) =
      .ok "a{% if b %}c{% else %}{% endif %}".toList := by
    decide +kernel
  let planted : Tree := Tree.create {} (.element ⟨"pre".toList, {}, true⟩)
  have hplant : Line.plant {} "%-pre".toList = (planted, .ok 1) := by decide +kernel
  have hclosing : (planted.node 1).closing? = some "</pre>".toList := by decide +kernel
  have hopening : planted.openingText 1 = "<pre>".toList := by decide +kernel
  obtain ⟨tree, h, hflatten⟩ := exists_of_map_ofLines htext
  obtain ⟨tree', h', hflatten'⟩ :=
    ofLines_deepened h (by decide +kernel) hplant rfl hclosing (show 1 ≤ 3 by decide) hmargins
  refine ⟨hmargins, tree', h', ?_⟩
  rw [hflatten', hflatten, hopening]

end OutlineMarkup

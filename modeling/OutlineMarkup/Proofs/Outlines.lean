import Mathlib.Data.List.DropRight
import OutlineMarkup.Proofs.Building

/-! What the nodes of an outline are like. Only nodes that allow children have any, whatever was
created and attached. In the tree of a template, control tags and directives are told apart by their
tags, and a line that is not blank stands for no blank node. -/
namespace OutlineMarkup

open OutlineMarkup.Tree

/-- Only nodes of a kind that allows children have any. -/
def Forest.Proper : Forest Node → Prop
  | nil => True
  | cons node children siblings =>
    (node.allowsChildren = false → children = nil) ∧ children.Proper ∧ siblings.Proper

/-- Nothing hangs below a node that allows no children. -/
lemma Tree.Unfolds.eq_nil {tree : Tree} (sound : Sound tree) {id : NodeId}
    {children : Forest NodeId} (hc : Unfolds tree (tree.children id) children)
    (h : (tree.node id).allowsChildren = false) :
    children = .nil := by
  cases hids : tree.children id with
  | nil =>
    rw [hids] at hc
    cases hc
    rfl
  | cons child rest =>
    have := sound.allowsChildren id child (by simp [hids])
    simp [this] at h

lemma Tree.Unfolds.proper {tree : Tree} (sound : Sound tree) {ids : List NodeId}
    {forest : Forest NodeId} (h : Unfolds tree ids forest) : (forest.map tree.node).Proper := by
  induction h with
  | nil => trivial
  | @cons id ids children siblings hc _ ihc ihs =>
    refine ⟨fun hn => ?_, ihc, ihs⟩
    rw [hc.eq_nil sound hn]
    rfl

lemma Tree.Sound.proper_outline {tree : Tree} (sound : Sound tree) :
    (tree.outline root).Proper :=
  (sound.unfolds_below (.refl root)).proper sound

namespace Text

def EndsFilled (t : Text) : Prop := ∃ c, t.getLast? = some c ∧ isBlank c = false

lemma endsFilled_append_iff {t : Text} (start : Text) (h : t ≠ []) :
    EndsFilled (start ++ t) ↔ EndsFilled t := by
  rw [EndsFilled, List.getLast?_append_of_ne_nil _ h, EndsFilled]

lemma endsFilled_trim {t : Text} (h : t.trim ≠ []) : EndsFilled t.trim := by
  have hlast := List.rdropWhile_last_not isBlank t.trimStart h
  exact ⟨_, List.getLast?_eq_some_getLast h, eq_false_of_ne_true hlast⟩

lemma endsFilled_trimStart {t : Text} (h : EndsFilled t) : EndsFilled t.trimStart := by
  by_cases hs : t.trimStart = []
  · obtain ⟨c, hc, hn⟩ := h
    have hall : ∀ c ∈ t, isBlank c := List.dropWhile_eq_nil_iff.1 hs
    have := hall c (List.mem_of_getLast? hc)
    simp [this] at hn
  · rwa [← margin_append_trimStart t, endsFilled_append_iff _ hs] at h

end Text

namespace Line

lemma endsFilled_of_splitFrom? {form : TagForm} {cursor : Cursor} {line head rest : Text}
    (h : splitFrom? form cursor line = some (head, rest)) (hline : Text.EndsFilled line) :
    Text.EndsFilled rest := by
  induction line generalizing cursor head with
  | nil => simp [splitFrom?] at h
  | cons c t ih =>
    have ht : t ≠ [] → Text.EndsFilled t := by
      intro hne
      exact (Text.endsFilled_append_iff [c] hne).1 hline
    simp only [splitFrom?] at h
    split at h
    · next hsep =>
      cases h
      apply Text.endsFilled_trimStart
      apply ht
      rintro rfl
      simp [startsBlank] at hsep
    · split at h
      · cases h
      · obtain ⟨⟨head', rest'⟩, hs, he⟩ := Option.map_eq_some_iff.1 h
        cases he
        apply ih hs
        apply ht
        rintro rfl
        simp [splitFrom?] at hs

def Reading.All (p : Node → Prop) : Reading → Prop
  | faulty _ => True
  | single head => p head.node
  | nested head inner => p head.node ∧ inner.All p

lemma Head.all_sprout {p : Node → Prop} (htext : ∀ data, p (.text data)) {head : Head}
    (h : p head.node) {node : Node} {children : Forest Node}
    (hs : head.sprout = .ok (node, children)) : p node ∧ ∀ n ∈ children.preorder, p n := by
  unfold Head.sprout at hs
  split at hs
  · cases hs
    refine ⟨h, ?_⟩
    unfold Head.contentForest
    split <;> simp [htext]
  · cases hs

/-- What holds of the tags of a line and of texts holds of all nodes the line stands for. -/
lemma Reading.all_sprout {p : Node → Prop} (htext : ∀ data, p (.text data)) {reading : Reading}
    (h : reading.All p) {node : Node} {children : Forest Node}
    (hs : reading.sprout = .ok (node, children)) : p node ∧ ∀ n ∈ children.preorder, p n := by
  induction reading generalizing node children with
  | faulty fault => cases hs
  | single head => exact head.all_sprout htext h hs
  | nested head inner ih =>
    rw [Reading.sprout] at hs
    cases hh : head.sprout with
    | error fault => simp [hh] at hs
    | ok outer =>
      cases hi : inner.sprout with
      | error fault => simp [hh, hi] at hs
      | ok child =>
        obtain ⟨hnode, hcontent⟩ := head.all_sprout htext h.1 hh
        obtain ⟨hchild, hinner⟩ := ih h.2 hi
        simp only [hh, hi] at hs
        split at hs
        · cases hs
          refine ⟨hnode, fun n hn => ?_⟩
          simp only [Forest.preorder_append, Forest.preorder_cons, Forest.preorder_nil,
            List.append_nil, List.mem_append, List.mem_cons] at hn
          rcases hn with hn | rfl | hn
          · exact hcontent n hn
          · exact hchild
          · exact hinner n hn
        · cases hs

/-- The node of a tag is an element or a control tag. -/
lemma node_of_head {form : TagForm} {line : Text} {read : Head} (h : head form line = .ok read) :
    (∃ element, read.node = .ofElement element) ∨ ∃ control, read.node = .ofControl control := by
  cases form with
  | element =>
    rw [head] at h
    cases hparts : ElementLine.ofText? line with
    | none => simp [hparts] at h
    | some parts =>
      simp only [hparts, ElementLine.node] at h
      cases hattributes : parts.attributes with
      | error fault => simp [hattributes, Except.map] at h
      | ok attributes =>
        simp only [hattributes] at h
        split at h
        · cases h
        · cases h
          exact .inl ⟨_, rfl⟩
  | control =>
    rw [head] at h
    cases hparts : ControlLine.ofText? line with
    | none => simp [hparts] at h
    | some parts =>
      simp only [hparts] at h
      cases h
      exact .inr ⟨_, rfl⟩

/-- A property of plain lines and of tags is one of all tags of a line that ends filled. -/
lemma all_read {p : Node → Prop}
    (hplain : ∀ line node, Text.EndsFilled line → Opening.ofText line = .plain node → p node)
    (helement : ∀ element, p (.ofElement element)) (hcontrol : ∀ control, p (.ofControl control))
    {line : Text} (hline : Text.EndsFilled line) : (read line).All p := by
  have hhead : ∀ form text read, head form text = .ok read → p read.node := by
    intro form text read h
    rcases node_of_head h with ⟨element, he⟩ | ⟨control, hc⟩
    · exact he ▸ helement element
    · exact hc ▸ hcontrol control
  induction hn : line.length using Nat.strongRecOn generalizing line with
  | ind n ih =>
    rw [read_eq]
    cases ho : Opening.ofText line with
    | plain node => exact hplain line node hline ho
    | tag form implied =>
      dsimp only
      cases hs : split? form line with
      | none =>
        dsimp only
        cases hh : head form (implied ++ line) with
        | error fault => trivial
        | ok read => exact hhead _ _ _ hh
      | some parts =>
        obtain ⟨tag, rest⟩ := parts
        dsimp only
        cases hh : head form (implied ++ tag) with
        | error fault => trivial
        | ok read =>
          refine ⟨hhead _ _ _ hh, ?_⟩
          exact ih rest.length (hn ▸ length_lt_of_split? hs)
            (endsFilled_of_splitFrom? hs hline) rfl

end Line

namespace Node

/-- Control tags and directives have tags of their own kind. -/
def IsTagged : Node → Prop
  | control c => Tag.isDirective c.tag = false
  | directive c => Tag.isDirective c.tag
  | _ => True

lemma isTagged_ofElement (element : Element) : (ofElement element).IsTagged := by
  unfold ofElement
  split <;> trivial

lemma isTagged_ofControl (c : Control) : (ofControl c).IsTagged := by
  unfold ofControl
  split
  · assumption
  · next h => exact eq_false_of_ne_true h

end Node

def Tree.Tagged (tree : Tree) : Prop := ∀ id, (tree.node id).IsTagged

namespace Line

lemma control?_of_plain {line : Text} {node : Node} (h : Opening.ofText line = .plain node) :
    node.control? = none ∧ (node = .empty → line = []) := by
  cases line with
  | nil =>
    cases h
    exact ⟨rfl, fun _ => rfl⟩
  | cons c t =>
    rw [Opening.ofText] at h
    split_ifs at h <;> cases h <;> simp [Node.control?]

variable {line : Text} {node : Node} {children : Forest Node}

/-- A line that is not blank stands for no blank node. -/
theorem ne_empty_of_sprout (hline : ¬ line.trim.isEmpty)
    (h : (read line.trim).sprout = .ok (node, children)) :
    node ≠ .empty ∧ ∀ n ∈ children.preorder, n ≠ .empty := by
  have hfilled : Text.EndsFilled line.trim :=
    Text.endsFilled_trim (by simpa [List.isEmpty_iff] using hline)
  refine Reading.all_sprout (p := (· ≠ .empty)) (by simp) (all_read ?_ ?_ ?_ hfilled) h
  · rintro text _ ⟨c, hc, -⟩ hplain rfl
    simp [(control?_of_plain hplain).2 rfl] at hc
  · intro element
    unfold Node.ofElement
    split <;> simp
  · intro control
    unfold Node.ofControl
    split <;> simp

/-- What holds of plain lines, of tags and of texts holds of all nodes of a line, blank or not. -/
lemma forall_of_sprout {p : Node → Prop}
    (hplain : ∀ text node, Opening.ofText text = .plain node → p node)
    (helement : ∀ element, p (.ofElement element)) (hcontrol : ∀ control, p (.ofControl control))
    (htext : ∀ data, p (.text data)) (h : (read line.trim).sprout = .ok (node, children)) :
    p node ∧ ∀ n ∈ children.preorder, p n := by
  by_cases hline : line.trim = []
  · rw [hline, read_nil] at h
    cases h
    exact ⟨hplain [] .empty rfl, by simp [Head.contentForest]⟩
  · refine Reading.all_sprout htext (all_read ?_ helement hcontrol (Text.endsFilled_trim hline)) h
    exact fun text node _ => hplain text node

/-- The nodes of a line have tags of their own kind. -/
theorem isTagged_of_sprout (h : (read line.trim).sprout = .ok (node, children)) :
    node.IsTagged ∧ ∀ n ∈ children.preorder, n.IsTagged := by
  refine forall_of_sprout ?_ Node.isTagged_ofElement Node.isTagged_ofControl (fun _ => trivial) h
  intro text node hplain
  have := (control?_of_plain hplain).1
  cases node <;> simp_all [Node.control?, Node.IsTagged]

/-- No line stands for a root. -/
theorem ne_root_of_sprout (h : (read line.trim).sprout = .ok (node, children)) :
    node ≠ .root ∧ ∀ n ∈ children.preorder, n ≠ .root := by
  refine forall_of_sprout (p := (· ≠ .root)) ?_ ?_ ?_ (by simp) h
  · rintro text _ hplain rfl
    cases text with
    | nil => cases hplain
    | cons c t =>
      rw [Opening.ofText] at hplain
      split_ifs at hplain <;> cases hplain
  · intro element
    unfold Node.ofElement
    split <;> simp
  · intro control
    unfold Node.ofControl
    split <;> simp

end Line

namespace Builder

variable {p : Node → Prop}

lemma Sprouts.forall_node {builder : Builder} {line : Text} {planted : Tree} {parent : NodeId}
    (h : Sprouts builder line planted parent)
    (hline : ∀ node children, (Line.read line.trim).sprout = .ok (node, children) →
      p node ∧ ∀ n ∈ children.preorder, p n)
    (hold : ∀ id < builder.tree.size, id ≠ root → p (builder.tree.node id)) :
    ∀ id < planted.size, id ≠ root → p (planted.node id) := by
  intro id hid hroot
  obtain ⟨node, children, hsprout, hplanted⟩ := h.sprouted
  obtain ⟨forest, -, rfl, hpreorder⟩ := hplanted.unfolds
  obtain ⟨hnode, hchildren⟩ := hline node _ hsprout
  rcases Nat.lt_trichotomy id builder.tree.size with hlt | rfl | hgt
  · rw [hplanted.keeps.node_eq hlt]
    exact hold id hlt hroot
  · rwa [hplanted.node_eq]
  · apply hchildren
    rw [Forest.preorder_map]
    apply List.mem_map_of_mem
    rw [hpreorder, List.mem_range'_1]
    omega

/-- The tree of a source is that of its logical lines. -/
lemma exists_ofLines_of_ofSource {source : Text} {tree : Tree}
    (h : Tree.ofSource source = .ok tree) :
    ∃ lines, Source.logicalLines source = .ok lines ∧ Tree.ofLines lines = .ok tree := by
  cases hlines : Source.logicalLines source with
  | error diagnostic => simp [Tree.ofSource, hlines, Except.bind] at h
  | ok lines =>
    simp only [Tree.ofSource, hlines, Except.bind] at h
    exact ⟨lines, rfl, h⟩

/-- The tree of a template is made by creating and attaching nodes. -/
theorem grown_of_ofLines {lines : List Text} {tree : Tree} (h : Tree.ofLines lines = .ok tree) :
    Grown tree := by
  cases hrun : addLines {} 0 lines with
  | error diagnostic => simp [Tree.ofLines, hrun, Except.map] at h
  | ok builder =>
    simp only [Tree.ofLines, hrun, Except.map] at h
    cases h
    have hready := run_induction (motive := fun _ _ => True) trivial (fun _ _ _ _ => trivial) hrun
    exact hready.1.grown

/-- What holds of all nodes that lines stand for holds of all nodes of a tree but the root. -/
theorem forall_node_of_ofLines
    (hline : ∀ line node children, (Line.read (Text.trim line)).sprout = .ok (node, children) →
      p node ∧ ∀ n ∈ children.preorder, p n)
    {lines : List Text} {tree : Tree} (h : Tree.ofLines lines = .ok tree) :
    ∀ id < tree.size, id ≠ root → p (tree.node id) := by
  cases hrun : addLines {} 0 lines with
  | error diagnostic => simp [Tree.ofLines, hrun, Except.map] at h
  | ok builder =>
    simp only [Tree.ofLines, hrun, Except.map] at h
    cases h
    refine (run_induction (motive := fun _ builder =>
      ∀ id < builder.tree.size, id ≠ root → p (builder.tree.node id)) ?_ ?_ hrun).2
    · intro id hid hroot
      have : id = 0 := by simpa [size] using hid
      exact absurd this hroot
    · intro lines line builder builder' _ _ hold hadds id hid hroot
      cases hadds with
      | blank _ hs =>
        rw [linked, size_link] at hid
        rw [linked, node_link]
        exact hs.forall_node (hline line) hold id hid hroot
      | filled _ _ _ hs =>
        rw [linked, size_link] at hid
        rw [linked, node_link]
        exact hs.forall_node (hline line) hold id hid hroot

/-- In the tree of a template, control tags and directives have tags of their own kind. -/
theorem tagged_of_ofLines {lines : List Text} {tree : Tree} (h : Tree.ofLines lines = .ok tree) :
    Tagged tree := by
  intro id
  by_cases hroot : id = root
  · rw [hroot, (grown_of_ofLines h).node_root]
    trivial
  · by_cases hid : id < tree.size
    · exact forall_node_of_ofLines (fun _ _ _ => Line.isTagged_of_sprout) h id hid hroot
    · rw [node_of_size_le (Nat.le_of_not_lt hid)]
      trivial

/-- Only the root of a template's tree is a root. -/
theorem ne_root_of_ofLines {lines : List Text} {tree : Tree} (h : Tree.ofLines lines = .ok tree) :
    ∀ id < tree.size, id ≠ root → tree.node id ≠ .root :=
  forall_node_of_ofLines (fun _ _ _ => Line.ne_root_of_sprout) h

/-- No node below the root is a root. -/
lemma ne_root_of_mem_outline {lines : List Text} {tree : Tree} (h : Tree.ofLines lines = .ok tree) :
    ∀ node ∈ (tree.outline root).preorder, node ≠ .root := by
  intro node hnode
  rw [outline, Forest.preorder_map] at hnode
  obtain ⟨id, hid, rfl⟩ := List.mem_map.1 hnode
  have sound := (grown_of_ofLines h).sound
  obtain ⟨n, hd⟩ := sound.mem_preorder_root.1 (List.mem_cons_of_mem root hid)
  refine ne_root_of_ofLines h id (hd.lt_size sound) ?_
  rintro rfl
  exact (List.nodup_cons.1 sound.nodup_preorder_root).1 hid

end Builder

lemma Tree.Tagged.isTagged_of_mem_outline {tree : Tree} (h : Tagged tree) :
    ∀ node ∈ (tree.outline root).preorder, node.IsTagged := by
  intro node hnode
  rw [outline, Forest.preorder_map] at hnode
  obtain ⟨id, -, rfl⟩ := List.mem_map.1 hnode
  exact h id

end OutlineMarkup

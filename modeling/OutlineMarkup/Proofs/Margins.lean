import OutlineMarkup.Proofs.Pruning

/-! Margins. A layout can be drawn up without a unit of indentation, as rows that have a level and a
text each. Its lines are written from the rows, whatever the unit is, as long as the content of
every condensed element begins one level deeper than the element: the margin that is taken off the
first line is then the margin that was put there. Only preformatted text begins elsewhere. -/
namespace OutlineMarkup

open OutlineMarkup.Tree

def Node.preformatted? : Node → Option Text
  | preformatted data => some data
  | _ => none

def Tree.filled (tree : Tree) (ids : List NodeId) : List NodeId := ids.filter (tree.node · ≠ .empty)

/-- The first child of a node that is not a blank line. -/
def Tree.firstFilled? (tree : Tree) (id : NodeId) : Option NodeId :=
  (tree.filled (tree.children id)).head?

namespace Layout

/-- A line apart from its margin. -/
structure Row where
  level : Nat
  text : Text
  deriving Repr, DecidableEq

namespace Row

def line (unit : Text) (row : Row) : Text := unit.repeated row.level ++ row.text

def appendToLast (t : Text) : List Row → List Row
  | [] => []
  | [row] => [{ row with text := row.text ++ t }]
  | row :: rows => row :: appendToLast t rows

/-- The level of a node's own rows. Preformatted text has none. -/
def levelOf (depth : Nat) : Node → Nat
  | .preformatted _ => 0
  | _ => depth

/-- An element on the rows of its content. The first of them is at the element's own level. -/
def condense (depth : Nat) (opening closing : Text) : List Row → List Row
  | [] => [⟨depth, opening ++ closing⟩]
  | row :: rows => appendToLast closing (⟨depth, opening ++ row.text⟩ :: rows)

def wrap (depth : Nat) (node : Node) (opening closing : Option Text) (content : List Row) :
    List Row :=
  if isCondensed node then condense depth (opening.getD []) (closing.getD []) content
  else
    (opening.map (mk (levelOf depth node))).toList ++ content ++
      (closing.map (mk (levelOf depth node))).toList

end Row

def forestRows : (depth : Nat) → (absorbing : Bool) → (previous : Option Link) → Forest Node →
    List Row
  | _, _, _, .nil => []
  | depth, absorbing, previous, .cons node children siblings =>
    let content := forestRows (depth + 1) (absorbs node) none children
    let own :=
      if isAbsorbed absorbing node then content
      else
        Row.wrap depth node (openingLine? node children) (closing? previous siblings node) content
    own ++ forestRows depth (staysAbsorbing absorbing node) (linkOf previous node) siblings

namespace Row

lemma margin_eq (unit : Text) (depth : Nat) (node : Node) :
    margin unit depth node = unit.repeated (levelOf depth node) := by
  cases node <;> rfl

lemma map_line_appendToLast (unit t : Text) (rows : List Row) :
    (appendToLast t rows).map (line unit) = Text.appendToLast t (rows.map (line unit)) := by
  induction rows with
  | nil => rfl
  | cons row rows ih =>
    cases rows with
    | nil => simp [appendToLast, Text.appendToLast, line]
    | cons next rows => simpa [appendToLast, Text.appendToLast] using ih

/-- Content that begins one level deeper than a condensed element loses exactly its margin. -/
lemma map_line_wrap {depth : Nat} {node : Node} {content : List Row}
    (h : isCondensed node → ∀ row ∈ content.head?, row.level = depth + 1)
    (unit : Text) (opening closing : Option Text) :
    (wrap depth node opening closing content).map (line unit) =
      Layout.wrap unit depth node opening closing (content.map (line unit)) := by
  cases hc : isCondensed node with
  | false =>
    have hplain : Layout.wrap unit depth node opening closing (content.map (line unit)) =
        (opening.map (margin unit depth node ++ ·)).toList ++ content.map (line unit) ++
          (closing.map (margin unit depth node ++ ·)).toList := by
      unfold Layout.wrap
      split
      · simp [isCondensed] at hc
      · rfl
    rw [hplain, wrap, if_neg (by simp [hc]), margin_eq]
    cases opening <;> cases closing <;> simp [line]
  | true =>
    obtain ⟨⟨tag, attributes, condensed⟩, rfl, hcondensed⟩ :
        ∃ element, node = .element element ∧ element.condensed := by
      cases node <;> simp_all [isCondensed]
    obtain rfl : condensed = true := hcondensed
    rw [wrap, if_pos hc, Layout.wrap]
    cases content with
    | nil => simp [condense, Layout.condense, line, margin]
    | cons row rows =>
      have hafter : Text.after? (unit.repeated (depth + 1)) (row.line unit) = some row.text := by
        rw [Text.after?_eq_some_iff, line, h hc row rfl]
      rw [List.map_cons, Layout.condense, hafter, Option.getD_some, condense,
        map_line_appendToLast, List.map_cons, line, List.append_assoc]
      rfl

/-- A node that has an opening begins with a row at its own level. -/
lemma exists_wrap_eq_cons {node : Node} {opening : Option Text} (h : opening.isSome)
    (hnode : node.preformatted? = none) (depth : Nat) (closing : Option Text)
    (content : List Row) :
    ∃ row rows, wrap depth node opening closing content = row :: rows ∧ row.level = depth := by
  have hlevel : levelOf depth node = depth := by
    cases node <;> simp_all [levelOf, Node.preformatted?]
  obtain ⟨text, rfl⟩ := Option.isSome_iff_exists.1 h
  unfold wrap
  split
  · cases content with
    | nil => exact ⟨_, _, rfl, rfl⟩
    | cons row rows => cases rows <;> exact ⟨_, _, rfl, rfl⟩
  · exact ⟨_, _, rfl, hlevel⟩

end Row

/-- No condensed element begins with preformatted text, blank lines aside. -/
def Aligned : Forest Node → Prop
  | .nil => True
  | .cons node children siblings =>
    (isCondensed node → leadingText? children = none) ∧ Aligned children ∧ Aligned siblings

lemma leadingText?_cons {node : Node} (h : node ≠ .empty) (children siblings : Forest Node) :
    leadingText? (.cons node children siblings) = node.preformatted? := by
  cases node <;> simp_all [leadingText?, Node.preformatted?]

lemma isAbsorbed_eq_false {node : Node} (h : node.preformatted? = none) (absorbing : Bool) :
    isAbsorbed absorbing node = false := by
  cases node <;> simp_all [isAbsorbed, Node.preformatted?]

/-- Only roots and blank lines have no opening line. -/
lemma isSome_openingLine? {node : Node} (h : node ≠ .root) (h' : node ≠ .empty)
    (children : Forest Node) : (openingLine? node children).isSome := by
  cases node <;> simp_all [openingLine?, Node.opening?]

/-- Siblings that do not begin with preformatted text begin at their depth. -/
lemma level_head_forestRows {forest : Forest Node} (hp : forest.Proper)
    (hroot : ∀ node ∈ forest.preorder, node ≠ .root) (hlead : leadingText? forest = none)
    (depth : Nat) (absorbing : Bool) (previous : Option Link) :
    ∀ row ∈ (forestRows depth absorbing previous forest).head?, row.level = depth := by
  induction forest generalizing absorbing previous with
  | nil => simp [forestRows]
  | cons node children siblings _ ihs =>
    obtain ⟨hchildren, -, hps⟩ := hp
    simp only [Forest.preorder_cons, List.mem_cons, List.mem_append] at hroot
    by_cases hempty : node = .empty
    · subst hempty
      obtain rfl := hchildren rfl
      exact ihs hps (fun node hn => hroot node (.inr (.inr hn))) hlead absorbing none
    · rw [leadingText?_cons hempty] at hlead
      obtain ⟨row, rows, hwrap, hlevel⟩ := Row.exists_wrap_eq_cons
        (isSome_openingLine? (hroot node (.inl rfl)) hempty children) hlead depth
        (closing? previous siblings node) (forestRows (depth + 1) (absorbs node) none children)
      simp [forestRows, isAbsorbed_eq_false hlead, hwrap, hlevel]

/-- Whatever the unit is, the lines of an outline are written from its rows. -/
theorem map_line_forestRows {forest : Forest Node} (hp : forest.Proper)
    (hroot : ∀ node ∈ forest.preorder, node ≠ .root) (ha : Aligned forest) (unit : Text)
    (depth : Nat) (absorbing : Bool) (previous : Option Link) :
    (forestRows depth absorbing previous forest).map (Row.line unit) =
      forestLines unit depth absorbing previous forest := by
  induction forest generalizing depth absorbing previous with
  | nil => rfl
  | cons node children siblings ihc ihs =>
    obtain ⟨-, hpc, hps⟩ := hp
    obtain ⟨hlead, hac, has⟩ := ha
    simp only [Forest.preorder_cons, List.mem_cons, List.mem_append] at hroot
    have hrootc : ∀ node ∈ children.preorder, node ≠ .root :=
      fun node hn => hroot node (.inr (.inl hn))
    have hcontent := ihc hpc hrootc hac (depth + 1) (absorbs node) none
    have hsiblings := ihs hps (fun node hn => hroot node (.inr (.inr hn))) has depth
      (staysAbsorbing absorbing node) (linkOf previous node)
    rw [forestRows, forestLines_cons, List.map_append, hsiblings, ← hcontent]
    congr 1
    split
    · rfl
    · apply Row.map_line_wrap
      intro hc
      exact level_head_forestRows hpc hrootc (hlead hc) _ _ _

end Layout

namespace Tree

open Layout

/-- No condensed element of a tree has preformatted text as its first child, blank lines aside. -/
def Aligned (tree : Tree) : Prop :=
  ∀ id ∈ tree.preorder root, isCondensed (tree.node id) →
    ∀ child ∈ tree.firstFilled? id, (tree.node child).preformatted? = none

instance (tree : Tree) : Decidable tree.Aligned :=
  inferInstanceAs (Decidable (∀ id ∈ tree.preorder root, isCondensed (tree.node id) →
    ∀ child ∈ tree.firstFilled? id, (tree.node child).preformatted? = none))

variable {tree : Tree} {ids : List NodeId} {forest : Forest NodeId}

lemma filled_cons_of_empty {id : NodeId} (h : tree.node id = .empty) (ids : List NodeId) :
    tree.filled (id :: ids) = tree.filled ids :=
  List.filter_cons_of_neg (by simp [h])

lemma filled_cons_of_ne {id : NodeId} (h : tree.node id ≠ .empty) (ids : List NodeId) :
    tree.filled (id :: ids) = id :: tree.filled ids :=
  List.filter_cons_of_pos (by simp [h])

lemma Unfolds.leadingText?_map (h : Unfolds tree ids forest) :
    leadingText? (forest.map tree.node) =
      (tree.filled ids).head?.bind fun id => (tree.node id).preformatted? := by
  induction h with
  | nil => rfl
  | @cons id ids children siblings _ _ _ ihs =>
    rw [Forest.map_cons]
    by_cases hempty : tree.node id = .empty
    · rw [hempty, filled_cons_of_empty hempty, ← ihs]
      rfl
    · rw [leadingText?_cons hempty, filled_cons_of_ne hempty, List.head?_cons, Option.bind_some]

lemma Unfolds.aligned (h : Unfolds tree ids forest)
    (hfirst : ∀ id ∈ forest.preorder, isCondensed (tree.node id) →
      ∀ child ∈ tree.firstFilled? id, (tree.node child).preformatted? = none) :
    Layout.Aligned (forest.map tree.node) := by
  induction h with
  | nil => trivial
  | @cons id ids children siblings hc _ ihc ihs =>
    simp only [Forest.preorder_cons, List.mem_cons, List.mem_append] at hfirst
    refine ⟨fun hcondensed => ?_, ihc fun id hid => hfirst id (.inr (.inl hid)),
      ihs fun id hid => hfirst id (.inr (.inr hid))⟩
    rw [hc.leadingText?_map]
    exact Option.bind_eq_none_iff.2 (hfirst id (.inl rfl) hcondensed)

end Tree

open Layout

/-- Whatever the unit of indentation is, every template without condensed elements that begin with
preformatted text has the same lines, each behind so many units as its level says. -/
theorem margins_of_ofSource {source : Text} {tree : Tree} (h : Tree.ofSource source = .ok tree)
    (ha : tree.Aligned) :
    ∃ level : Nat → Nat, ∀ unit,
      (treeLines unit tree).length = (treeLines [] tree).length ∧
      ∀ number line, (treeLines [] tree)[number]? = some line →
        (treeLines unit tree)[number]? = some (unit.repeated (level number) ++ line) := by
  obtain ⟨lines, -, hlines⟩ := Builder.exists_ofLines_of_ofSource h
  have sound := (Builder.grown_of_ofLines hlines).sound
  have haligned : Layout.Aligned (tree.outline root) :=
    (sound.unfolds_below (.refl root)).aligned fun id hid => ha id (List.mem_cons_of_mem root hid)
  have hrows : ∀ unit, treeLines unit tree =
      (forestRows 0 false none (tree.outline root)).map (Row.line unit) := by
    intro unit
    rw [map_line_forestRows sound.proper_outline (Builder.ne_root_of_mem_outline hlines) haligned]
    rfl
  generalize forestRows 0 false none (tree.outline root) = rows at hrows
  refine ⟨fun number => (rows[number]?.map Row.level).getD 0, fun unit => ⟨?_, ?_⟩⟩
  · rw [hrows, hrows, List.length_map, List.length_map]
  · intro number line hline
    rw [hrows, List.getElem?_map] at hline ⊢
    obtain ⟨row, hrow, rfl⟩ := Option.map_eq_some_iff.1 hline
    simp [hrow, Row.line]

/-- Two condensed elements around one that is not, preformatted text further on, and an element that
absorbs its first text. -/
theorem margins_of_nested_condensed :
    ∃ tree, Tree.ofSource "%-ul\n  %-li\n    %b x\n  |  y\n%p\n  |a\n    z".toList = .ok tree ∧
      tree.Aligned ∧ ∃ level : Nat → Nat, ∀ unit, (treeLines unit tree).length = 7 ∧
        (treeLines unit tree)[2]? = some (unit.repeated (level 2) ++ "</b></li>".toList) := by
  have hlines : (Tree.ofSource "%-ul\n  %-li\n    %b x\n  |  y\n%p\n  |a\n    z".toList).map
      (fun tree => (decide tree.Aligned, (treeLines [] tree).length, (treeLines [] tree)[2]?)) =
      .ok (true, 7, some "</b></li>".toList) := by
    decide +kernel
  cases h : Tree.ofSource "%-ul\n  %-li\n    %b x\n  |  y\n%p\n  |a\n    z".toList with
  | error diagnostic =>
    rw [h] at hlines
    cases hlines
  | ok tree =>
    rw [h] at hlines
    obtain ⟨haligned, hrest⟩ := Prod.mk.inj (Except.ok.inj hlines)
    obtain ⟨hlength, hline⟩ := Prod.mk.inj hrest
    have ha : tree.Aligned := of_decide_eq_true haligned
    obtain ⟨level, hlevel⟩ := margins_of_ofSource h ha
    refine ⟨tree, rfl, ha, level, fun unit => ?_⟩
    exact ⟨(hlevel unit).1.trans hlength, (hlevel unit).2 2 _ hline⟩

end OutlineMarkup

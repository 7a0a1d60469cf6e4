import OutlineMarkup.Layout
import OutlineMarkup.Proofs.Outlines

/-! Outlines without their blank lines. Leaving out the blank nodes leaves the lines of an outline
as they are, unless one stands between a control tag and a tag that goes on with it: each such place
has a closing line too many. -/
namespace OutlineMarkup.Layout

def prune : Forest Node → Forest Node
  | .nil => .nil
  | .cons node children siblings =>
    if node = .empty then prune siblings else .cons node (prune children) (prune siblings)

/-- Whether a control tag is gone on with, but only after blank lines. -/
def isSplit (siblings : Forest Node) : Node → Bool
  | .control control => !isContinued control siblings && isContinued control (prune siblings)
  | _ => false

/-- The number of places where blank lines stand between a control tag and the one that goes on
with it. -/
def splits : Forest Node → Nat
  | .nil => 0
  | .cons node children siblings =>
    (isSplit siblings node).toNat + splits children + splits siblings

@[simp] lemma prune_empty (children siblings : Forest Node) :
    prune (.cons .empty children siblings) = prune siblings := by
  rw [prune, if_pos rfl]

lemma prune_of_ne {node : Node} (h : node ≠ .empty) (children siblings : Forest Node) :
    prune (.cons node children siblings) = .cons node (prune children) (prune siblings) := by
  rw [prune, if_neg h]

lemma isContinued_prune {control : Control} {siblings : Forest Node}
    (h : isContinued control siblings) : isContinued control (prune siblings) := by
  cases siblings with
  | nil => exact h
  | cons node children siblings =>
    have hne : node ≠ .empty := by
      rintro rfl
      simp [isContinued, Forest.first?, Node.control?] at h
    rw [prune_of_ne hne]
    exact h

lemma isContinued_of_not_isSplit {control : Control} {siblings : Forest Node}
    (h : isSplit siblings (.control control) = false) :
    isContinued control (prune siblings) = isContinued control siblings := by
  cases hs : isContinued control siblings with
  | true => exact isContinued_prune hs
  | false => simpa [isSplit, hs] using h

lemma leadingText?_prune (forest : Forest Node) :
    leadingText? (prune forest) = leadingText? forest := by
  induction forest with
  | nil => rfl
  | cons node children siblings _ ihs => cases node <;> simp [prune, leadingText?, ihs]

lemma openingLine?_prune (node : Node) (children : Forest Node) :
    openingLine? node (prune children) = openingLine? node children := by
  rw [openingLine?, leadingText?_prune, openingLine?]

@[simp] lemma forestLines_empty (unit : Text) (depth : Nat) (absorbing : Bool)
    (previous : Option Link) (siblings : Forest Node) :
    forestLines unit depth absorbing previous (.cons .empty .nil siblings) =
      forestLines unit depth absorbing none siblings := rfl

def isCondensed : Node → Bool
  | .element element => element.condensed
  | _ => false

lemma length_appendToLast (t : Text) (lines : List Text) :
    (Text.appendToLast t lines).length = lines.length := by
  induction lines with
  | nil => rfl
  | cons line lines ih =>
    cases lines with
    | nil => rfl
    | cons next lines => simpa [Text.appendToLast] using ih

lemma length_wrap_of_isCondensed {node : Node} (h : isCondensed node) (unit : Text) (depth : Nat)
    (opening closing : Option Text) (content : List Text) :
    (wrap unit depth node opening closing content).length = max 1 content.length := by
  obtain ⟨element, rfl, hc⟩ : ∃ element, node = .element element ∧ element.condensed := by
    cases node <;> simp_all [isCondensed]
  obtain ⟨tag, attributes, condensed⟩ := element
  obtain rfl : condensed = true := hc
  cases content with
  | nil => rfl
  | cons line lines =>
    simp only [wrap, condense, length_appendToLast, List.length_cons]
    omega

lemma length_wrap {node : Node} (h : isCondensed node = false) (unit : Text) (depth : Nat)
    (opening closing : Option Text) (content : List Text) :
    (wrap unit depth node opening closing content).length =
      opening.toList.length + content.length + closing.toList.length := by
  have hwrap : wrap unit depth node opening closing content =
      (opening.map (margin unit depth node ++ ·)).toList ++ content ++
        (closing.map (margin unit depth node ++ ·)).toList := by
    unfold wrap
    split
    · simp [isCondensed] at h
    · rfl
  rw [hwrap]
  cases opening <;> cases closing <;> simp <;> omega

/-- Splitting a chain costs a closing line. -/
lemma length_closing? (previous previous' : Option Link) (siblings : Forest Node) (node : Node) :
    (closing? previous siblings node).toList.length =
      (closing? previous' (prune siblings) node).toList.length +
        (isSplit siblings node).toNat := by
  cases node with
  | control control =>
    cases hs : isContinued control siblings with
    | true => simp [closing?, isSplit, hs, isContinued_prune hs]
    | false => cases hp : isContinued control (prune siblings) <;> simp [closing?, isSplit, hs, hp]
  | _ => simp [closing?, isSplit]

lemma length_le_length_wrap (unit : Text) (depth : Nat) (node : Node)
    (opening closing : Option Text) (content : List Text) :
    content.length ≤ (wrap unit depth node opening closing content).length := by
  cases hc : isCondensed node with
  | true =>
    rw [length_wrap_of_isCondensed hc]
    omega
  | false =>
    rw [length_wrap hc]
    omega

/-- A chain that is split has lines. -/
lemma length_forestLines_prune_pos {forest : Forest Node} (hp : forest.Proper)
    (h : 0 < splits forest) (unit : Text) (depth : Nat) (absorbing : Bool)
    (previous : Option Link) :
    0 < (forestLines unit depth absorbing previous (prune forest)).length := by
  induction forest generalizing depth absorbing previous with
  | nil => simp [splits] at h
  | cons node children siblings ihc ihs =>
    obtain ⟨hchildren, hpc, hps⟩ := hp
    by_cases hnode : node = .empty
    · subst hnode
      obtain rfl := hchildren rfl
      rw [prune_empty]
      exact ihs hps (by simpa [splits, isSplit] using h) depth absorbing previous
    · rw [prune_of_ne hnode, forestLines_cons, List.length_append]
      have hsum :
          0 < (isSplit siblings node).toNat ∨ 0 < splits children ∨ 0 < splits siblings := by
        rw [splits] at h
        omega
      rcases hsum with hs | hs | hs
      · have hcontrol : ∃ control, node = .control control := by
          cases node <;> simp [isSplit] at hs ⊢
        obtain ⟨control, rfl⟩ := hcontrol
        have hcondensed : isCondensed (.control control) = false := rfl
        simp only [isAbsorbed, Bool.false_eq_true, if_false, length_wrap hcondensed, openingLine?,
          Node.opening?, Option.map_some, Option.toList_some, List.length_singleton]
        omega
      · have hcontent := ihc hpc hs (depth + 1) (absorbs node) none
        have hown := length_le_length_wrap unit depth node (openingLine? node (prune children))
          (closing? previous (prune siblings) node)
          (forestLines unit (depth + 1) (absorbs node) none (prune children))
        split <;> omega
      · have := ihs hps hs depth (staysAbsorbing absorbing node) (linkOf previous node)
        omega

/-- Blank lines add one line for each chain that they split. -/
theorem length_forestLines {forest : Forest Node} (hp : forest.Proper) (unit : Text)
    (depth : Nat) (absorbing : Bool) (previous previous' : Option Link) :
    (forestLines unit depth absorbing previous forest).length =
      (forestLines unit depth absorbing previous' (prune forest)).length + splits forest := by
  induction forest generalizing depth absorbing previous previous' with
  | nil => rfl
  | cons node children siblings ihc ihs =>
    obtain ⟨hchildren, hpc, hps⟩ := hp
    by_cases hnode : node = .empty
    · subst hnode
      obtain rfl := hchildren rfl
      rw [prune_empty, forestLines_empty, ihs hps depth absorbing none previous']
      simp [splits, isSplit]
    · have hcontent := ihc hpc (depth + 1) (absorbs node) none none
      have hsiblings := ihs hps depth (staysAbsorbing absorbing node) (linkOf previous node)
        (linkOf previous' node)
      rw [prune_of_ne hnode, forestLines_cons, forestLines_cons, List.length_append,
        List.length_append, hsiblings, splits, openingLine?_prune]
      cases ha : isAbsorbed absorbing node with
      | true =>
        have hs : isSplit siblings node = false := by cases node <;> simp_all [isAbsorbed, isSplit]
        simp only [hs, if_true, Bool.toNat_false]
        omega
      | false =>
        simp only [Bool.false_eq_true, if_false]
        cases hc : isCondensed node with
        | true =>
          have hs : isSplit siblings node = false := by
            cases node <;> simp_all [isCondensed, isSplit]
          rw [length_wrap_of_isCondensed hc, length_wrap_of_isCondensed hc, hs, Bool.toNat_false]
          rcases Nat.eq_zero_or_pos (splits children) with hzero | hpos
          · omega
          · have := length_forestLines_prune_pos hpc hpos unit (depth + 1) (absorbs node) none
            omega
        | false =>
          have hclosing := length_closing? previous previous' siblings node
          rw [length_wrap hc, length_wrap hc]
          omega

/-- Two links are as good as each other before a forest: they are the same, or only the second one
is there. When the forest without its blank lines goes on with the second one, they are the same and
the forest itself goes on with it. -/
structure Alike (previous previous' : Option Link) (forest : Forest Node) : Prop where
  eq_or_none : previous = previous' ∨ previous = none
  eq_of_isContinued : ∀ link, previous' = some link → isContinued link.control (prune forest) →
    previous = previous' ∧ isContinued link.control forest

namespace Alike

variable {previous previous' : Option Link} {node : Node} {children siblings : Forest Node}

lemma refl_none (forest : Forest Node) : Alike none none forest :=
  ⟨.inl rfl, fun _ h => by cases h⟩

lemma of_empty (h : Alike previous previous' (.cons .empty children siblings)) :
    Alike none previous' siblings := by
  refine ⟨.inr rfl, fun link hlink hc => ?_⟩
  rw [← prune_empty children siblings] at hc
  have := (h.eq_of_isContinued link hlink hc).2
  simp [isContinued, Forest.first?, Node.control?] at this

lemma originOf_eq (h : Alike previous previous' (.cons node children siblings))
    {control : Control} (hnode : node.control? = some control) :
    originOf previous control = originOf previous' control := by
  rcases h.eq_or_none with rfl | rfl
  · rfl
  · cases hlink : previous' with
    | none => rfl
    | some link =>
      have hne : node ≠ .empty := by
        rintro rfl
        cases hnode
      cases hc : control.continues link.control with
      | false => simp [originOf, hc]
      | true =>
        have := (h.eq_of_isContinued link hlink (by
          simp [prune_of_ne hne, isContinued, Forest.first?, hnode, hc])).1
        rw [hlink] at this
        cases this

lemma linkOf_eq (h : Alike previous previous' (.cons node children siblings)) :
    linkOf previous node = linkOf previous' node := by
  rw [linkOf, linkOf]
  cases hnode : node.control? with
  | none => rfl
  | some control => rw [Option.map_some, Option.map_some, h.originOf_eq hnode]

lemma closing?_eq (h : Alike previous previous' (.cons node children siblings))
    (hs : isSplit siblings node = false) :
    closing? previous siblings node = closing? previous' (prune siblings) node := by
  cases node with
  | control control =>
    have horigin := h.originOf_eq (show (Node.control control).control? = some control from rfl)
    simp only [closing?, isContinued_of_not_isSplit hs, horigin]
  | _ => rfl

/-- A node that no blank lines split from what goes on with it is a link like any other. -/
lemma of_cons (h : Alike previous previous' (.cons node children siblings))
    (htag : node.IsTagged) (hs : isSplit siblings node = false) :
    Alike (linkOf previous node) (linkOf previous' node) siblings := by
  refine ⟨.inl h.linkOf_eq, fun link hlink hc => ⟨h.linkOf_eq, ?_⟩⟩
  obtain ⟨control, hnode, rfl⟩ := Option.map_eq_some_iff.1 hlink
  dsimp only at hc ⊢
  cases node with
  | control c =>
    cases hnode
    rwa [← isContinued_of_not_isSplit hs]
  | directive c =>
    -- a directive is never gone on with
    cases hnode
    obtain ⟨next, -, hnext⟩ := (Option.any_eq_true _ _).1 hc
    have := (Tag.not_isDirective_of_continues hnext).2
    rw [Node.IsTagged, this] at htag
    cases htag
  | _ => cases hnode

end Alike

/-- Where no chain is split, blank lines leave no trace. -/
theorem forestLines_eq_of_splits_eq_zero {forest : Forest Node} (hp : forest.Proper)
    (htag : ∀ node ∈ forest.preorder, node.IsTagged) (hs : splits forest = 0) (unit : Text)
    (depth : Nat) (absorbing : Bool) {previous previous' : Option Link}
    (h : Alike previous previous' forest) :
    forestLines unit depth absorbing previous forest =
      forestLines unit depth absorbing previous' (prune forest) := by
  induction forest generalizing depth absorbing previous previous' with
  | nil => rfl
  | cons node children siblings ihc ihs =>
    obtain ⟨hchildren, hpc, hps⟩ := hp
    simp only [Forest.preorder_cons, List.mem_cons, List.mem_append] at htag
    have htags : ∀ node ∈ siblings.preorder, node.IsTagged := fun n hn => htag n (.inr (.inr hn))
    obtain ⟨hsplit, hsc, hss⟩ : isSplit siblings node = false ∧ splits children = 0 ∧
        splits siblings = 0 := by
      rw [splits] at hs
      exact ⟨by cases hb : isSplit siblings node <;> simp_all, by omega, by omega⟩
    by_cases hnode : node = .empty
    · subst hnode
      obtain rfl := hchildren rfl
      rw [prune_empty, forestLines_empty, ihs hps htags hss depth absorbing h.of_empty]
    · have hcontent := ihc hpc (fun n hn => htag n (.inr (.inl hn))) hsc (depth + 1)
        (absorbs node) (Alike.refl_none children)
      have hsiblings := ihs hps htags hss depth (staysAbsorbing absorbing node)
        (h.of_cons (htag node (.inl rfl)) hsplit)
      rw [prune_of_ne hnode, forestLines_cons, forestLines_cons, hsiblings, hcontent,
        openingLine?_prune, h.closing?_eq hsplit]

/-- The lines of an outline are those of the outline without its blank lines exactly when no chain
is split. -/
theorem forestLines_prune_iff {forest : Forest Node} (hp : forest.Proper)
    (htag : ∀ node ∈ forest.preorder, node.IsTagged) (unit : Text) (depth : Nat)
    (absorbing : Bool) :
    forestLines unit depth absorbing none forest =
      forestLines unit depth absorbing none (prune forest) ↔ splits forest = 0 := by
  constructor
  · intro heq
    have := length_forestLines hp unit depth absorbing none none
    rw [heq] at this
    omega
  · intro hs
    exact forestLines_eq_of_splits_eq_zero hp htag hs unit depth absorbing (.refl_none forest)

end OutlineMarkup.Layout

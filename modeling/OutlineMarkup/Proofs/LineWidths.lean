import OutlineMarkup.Proofs.LineEnds
import OutlineMarkup.Proofs.Planting
import OutlineMarkup.Proofs.Separators

/-! How many children the nodes of one line have. A tag has its content as a child, and what is
nested behind its separator as another. It has both only when its content begins inside of a quote
or a bracket: the search for a separator takes white space in there for a part of the tag, while the
cut into parts takes it for the beginning of the content. -/
namespace OutlineMarkup

namespace Forest

variable {α β : Type}

def width : Forest α → Nat
  | nil => 0
  | cons _ _ siblings => siblings.width + 1

/-- No node of a forest has more than `n` children. -/
def Narrow (n : Nat) : Forest α → Prop
  | nil => True
  | cons _ children siblings => children.width ≤ n ∧ children.Narrow n ∧ siblings.Narrow n

@[simp] lemma width_map (f : α → β) (forest : Forest α) : (forest.map f).width = forest.width := by
  induction forest with
  | nil => rfl
  | cons label children siblings _ ihs => rw [map_cons, width, ihs, width]

@[simp] lemma narrow_map (f : α → β) (n : Nat) (forest : Forest α) :
    (forest.map f).Narrow n ↔ forest.Narrow n := by
  induction forest with
  | nil => rfl
  | cons label children siblings ihc ihs => rw [map_cons, Narrow, Narrow, width_map, ihc, ihs]

end Forest

namespace Tree

lemma Unfolds.width_eq {tree : Tree} {ids : List NodeId} {forest : Forest NodeId}
    (h : Unfolds tree ids forest) : forest.width = ids.length := by
  induction h with
  | nil => rfl
  | cons _ _ _ ihs => rw [Forest.width, ihs, List.length_cons]

/-- A forest is as narrow as the lists of children of its nodes are short. -/
lemma Unfolds.narrow_iff {tree : Tree} {ids : List NodeId} {forest : Forest NodeId}
    (h : Unfolds tree ids forest) (n : Nat) :
    forest.Narrow n ↔ ∀ id ∈ forest.preorder, (tree.children id).length ≤ n := by
  induction h with
  | nil => simp [Forest.Narrow]
  | cons hc _ ihc ihs =>
    simp only [Forest.Narrow, Forest.preorder_cons, List.forall_mem_cons, List.forall_mem_append]
    rw [hc.width_eq, ihc, ihs]

end Tree

namespace Line

open OutlineMarkup.Tree

/-- The nodes of a sprout have as few children in the arena as they have in the sprout. -/
lemma Planted.length_children_le_iff {tree planted : Tree} {node : Node} {children : Forest Node}
    (h : Planted tree planted node children) (n : Nat) :
    (∀ id ∈ planted.preorder tree.size, (planted.children id).length ≤ n) ↔
      children.width ≤ n ∧ children.Narrow n := by
  obtain ⟨forest, hforest, rfl, hpreorder⟩ := h.unfolds
  have hlength : forest.preorder.length ≤ planted.size := by
    rw [hpreorder, List.length_range']
    omega
  rw [preorder, below, hforest.grow_eq hlength, List.forall_mem_cons, ← hforest.narrow_iff,
    ← hforest.width_eq, Forest.width_map, Forest.narrow_map]

/-- Somewhere in a reading, a tag with content has another line nested in it. -/
def Reading.Crowded : Reading → Prop
  | faulty _ => False
  | single _ => False
  | nested head inner => head.content ≠ [] ∨ inner.Crowded

lemma Head.eq_of_sprout {head : Head} {node : Node} {children : Forest Node}
    (h : head.sprout = .ok (node, children)) : children = head.contentForest := by
  unfold Head.sprout at h
  split at h
  · cases h
    rfl
  · cases h

lemma Head.contentForest_cases (head : Head) :
    head.content = [] ∧ head.contentForest = .nil ∨
      head.content ≠ [] ∧ head.contentForest = .cons (.text head.content) .nil .nil := by
  unfold Head.contentForest
  by_cases h : head.content = []
  · exact .inl ⟨h, by simp [h]⟩
  · exact .inr ⟨h, by simp [h]⟩

lemma Reading.exists_of_sprout_nested {head : Head} {inner : Reading} {node : Node}
    {children : Forest Node} (h : (nested head inner).sprout = .ok (node, children)) :
    ∃ child below, inner.sprout = .ok (child, below) ∧
      children = head.contentForest.append (.cons child below .nil) := by
  rw [Reading.sprout] at h
  split at h
  · cases h
  · next content hhead =>
    obtain rfl := head.eq_of_sprout hhead
    split at h
    · cases h
    · next child below hinner =>
      split at h
      · cases h
        exact ⟨child, below, hinner, rfl⟩
      · cases h

/-- A node of a line has at most two children, and all have at most one unless a tag with content
has another line nested in it. -/
lemma Reading.narrow_of_sprout {reading : Reading} {node : Node} {children : Forest Node}
    (h : reading.sprout = .ok (node, children)) :
    (children.width ≤ 2 ∧ children.Narrow 2) ∧
      (children.width ≤ 1 ∧ children.Narrow 1 ↔ ¬ reading.Crowded) := by
  induction reading generalizing node children with
  | faulty fault => cases h
  | single head =>
    rw [head.eq_of_sprout h]
    rcases head.contentForest_cases with ⟨-, hforest⟩ | ⟨-, hforest⟩
    · simp [hforest, Forest.width, Forest.Narrow, Crowded]
    · simp [hforest, Forest.width, Forest.Narrow, Crowded]
  | nested head inner ih =>
    obtain ⟨child, below, hinner, rfl⟩ := exists_of_sprout_nested h
    obtain ⟨⟨hwidth, hnarrow⟩, hiff⟩ := ih hinner
    rcases head.contentForest_cases with ⟨hcontent, hforest⟩ | ⟨hcontent, hforest⟩
    · simp [hforest, hcontent, Forest.width, Forest.Narrow, Crowded, hwidth, hnarrow, hiff]
    · simp [hforest, hcontent, Forest.width, Forest.Narrow, Crowded, hwidth, hnarrow]

def ElementLine.stem (line : ElementLine) : Text := { line with content := none }.toText

lemma ElementLine.toText_eq (line : ElementLine) :
    line.toText = line.stem ++ line.content.getD [] := by
  simp [stem, toText]

lemma isBlank_head_of_inline? {rest : Text} {inline : Option Text}
    (h : inline? rest = some inline) : ∀ c ∈ (inline.getD []).head?, Text.isBlank c := by
  rw [getD_of_inline? h]
  intro c hc
  obtain ⟨tail, rfl⟩ := List.head?_eq_some_iff.1 hc
  simp only [inline?, isInline] at h
  by_contra hblank
  simp [hblank] at h

/-- Content begins with white space. -/
lemma ElementLine.isBlank_head_content {t : Text} {parts : ElementLine}
    (h : ofText? t = some parts) : ∀ c ∈ (parts.content.getD []).head?, Text.isBlank c := by
  have htag : ∀ {condensed t}, ofTagText? condensed t = some parts →
      ∀ c ∈ (parts.content.getD []).head?, Text.isBlank c := by
    intro condensed t h
    unfold ofTagText? at h
    split at h
    · cases h
    · obtain ⟨content, hcontent, rfl⟩ := Option.map_eq_some_iff.1 h
      exact isBlank_head_of_inline? hcontent
  unfold ofText? at h
  split at h
  · exact htag h
  · exact htag h
  · cases h

/-- What a line leaves out is crossed like any other tag. -/
lemma crosses_implied {line implied rest : Text} {form : TagForm}
    (h : Opening.ofText line = .tag form implied) : Crosses .element rest {} implied := by
  have himplied : implied = implicitTag ∨ implied = [] := by
    unfold Opening.ofText at h
    split at h
    · cases h
    · split_ifs at h <;> cases h
      · exact .inl rfl
      · exact .inr rfl
      · exact .inr rfl
  rcases himplied with rfl | rfl
  · have hcalm : implicitTag.all fun c => Cursor.isCalm c && !Text.isBlank c := rfl
    apply crosses_of_isCalm (by simpa using hcalm) rfl
    intro hlast
    cases hlast
  · exact ⟨rfl, rfl⟩

/-- A tag before a separator has content exactly when a quote or a bracket is open where the
content begins. -/
theorem contentOf_eq_nil_iff {line implied tag rest : Text} {parts : ElementLine}
    (hopening : Opening.ofText line = .tag .element implied)
    (hsplit : split? .element line = some (tag, rest))
    (hparts : ElementLine.ofText? (implied ++ tag) = some parts) :
    contentOf parts.content = [] ↔ (Cursor.along {} parts.stem).isOutside := by
  obtain ⟨blank, -, -, -, hout, hpasses⟩ := eq_of_splitFrom? hsplit
  have himplied : Crosses .element (tag ++ ':' :: blank) {} implied := crosses_implied hopening
  have htext : parts.stem ++ parts.content.getD [] = implied ++ tag := by
    rw [← parts.toText_eq, ElementLine.toText_of_ofText? hparts]
  have hpassed : passes .element (':' :: blank) {} (parts.stem ++ parts.content.getD []) := by
    rw [htext, passes_append, himplied.1, himplied.2, hpasses]
    rfl
  have hclosed : ((Cursor.along {} parts.stem).along (parts.content.getD [])).isOutside := by
    rw [← Cursor.along_append, htext, Cursor.along_append, himplied.2]
    exact hout
  constructor
  · intro hnil
    rw [contentOf, Text.trim_eq_nil_iff] at hnil
    have hquote : ∀ q, (Cursor.along {} parts.stem).quote = some q → Cursor.isQuote q :=
      Cursor.isQuote_of_quote_along (fun _ h => by cases h) parts.stem
    rwa [Cursor.along_eq_self fun c hc => Cursor.step_of_isBlank hquote (hnil c hc)] at hclosed
  · intro houtside
    rw [passes_append, Bool.and_eq_true] at hpassed
    have hhead := ElementLine.isBlank_head_content hparts
    cases hcontent : parts.content.getD [] with
    | nil => rw [contentOf, hcontent, Text.trim_nil]
    | cons c content =>
      -- the search would have ended at the first white space outside
      rw [hcontent] at hpassed hhead
      have hends := hpassed.2
      rw [passes, endsAt, houtside, hhead c rfl] at hends
      simp [TagForm.stopsAtBlank] at hends

/-- Somewhere on a line, a tag before a separator has a quote or a bracket open where its content
begins. -/
inductive Straddles : Text → Prop
  | here {line implied tag rest : Text} {parts : ElementLine}
      (hopening : Opening.ofText line = .tag .element implied)
      (hsplit : split? .element line = some (tag, rest))
      (hparts : ElementLine.ofText? (implied ++ tag) = some parts)
      (hopen : ¬ (Cursor.along {} parts.stem).isOutside) : Straddles line
  | later {line implied tag rest : Text} {form : TagForm}
      (hopening : Opening.ofText line = .tag form implied)
      (hsplit : split? form line = some (tag, rest)) (h : Straddles rest) : Straddles line

lemma content_of_head_element {text : Text} {tag : Head} (h : head .element text = .ok tag) :
    ∃ parts, ElementLine.ofText? text = some parts ∧ tag.content = contentOf parts.content := by
  rw [head] at h
  split at h
  · cases h
  · next parts hparts =>
    refine ⟨parts, hparts, ?_⟩
    cases hnode : parts.node with
    | error fault =>
      rw [hnode] at h
      cases h
    | ok node =>
      rw [hnode] at h
      cases h
      rfl

lemma content_of_head_control {text : Text} {tag : Head} (h : head .control text = .ok tag) :
    tag.content = [] := by
  rw [head] at h
  split at h <;> cases h
  rfl

/-- A line that straddles has a separator, and straddles at the tag before it or behind it. -/
lemma Straddles.exists_split? {line : Text} (h : Straddles line) :
    ∃ form implied text rest, Opening.ofText line = .tag form implied ∧
      split? form line = some (text, rest) ∧
      ((form = .element ∧ ∃ parts, ElementLine.ofText? (implied ++ text) = some parts ∧
        ¬ (Cursor.along {} parts.stem).isOutside) ∨ Straddles rest) := by
  cases h with
  | here hopening hsplit hparts hopen =>
    exact ⟨_, _, _, _, hopening, hsplit, .inl ⟨rfl, _, hparts, hopen⟩⟩
  | later hopening hsplit hrest => exact ⟨_, _, _, _, hopening, hsplit, .inr hrest⟩

/-- The tag before the first separator straddles exactly when it has content. -/
lemma straddles_iff {line implied text rest : Text} {form : TagForm} {tag : Head}
    (hopening : Opening.ofText line = .tag form implied)
    (hsplit : split? form line = some (text, rest))
    (hhead : head form (implied ++ text) = .ok tag) :
    Straddles line ↔ tag.content ≠ [] ∨ Straddles rest := by
  constructor
  · intro h
    obtain ⟨form', implied', text', rest', hopening', hsplit', hcases⟩ := h.exists_split?
    rw [hopening] at hopening'
    cases hopening'
    rw [hsplit] at hsplit'
    cases hsplit'
    rcases hcases with ⟨rfl, parts, hparts, hopen⟩ | hrest
    · obtain ⟨parts', hparts', hcontent⟩ := content_of_head_element hhead
      rw [hparts] at hparts'
      cases hparts'
      refine .inl fun hnil => hopen ?_
      exact (contentOf_eq_nil_iff hopening hsplit hparts).1 (hcontent ▸ hnil)
    · exact .inr hrest
  · rintro (hcontent | hrest)
    · cases form with
      | control => exact absurd (content_of_head_control hhead) hcontent
      | element =>
        obtain ⟨parts, hparts, heq⟩ := content_of_head_element hhead
        refine .here hopening hsplit hparts fun houtside => hcontent ?_
        rw [heq]
        exact (contentOf_eq_nil_iff hopening hsplit hparts).2 houtside
    · exact .later hopening hsplit hrest

lemma not_straddles_of_plain {line : Text} {node : Node}
    (hopening : Opening.ofText line = .plain node) : ¬ Straddles line := by
  intro h
  obtain ⟨form, implied, text, rest, hopening', -⟩ := h.exists_split?
  rw [hopening] at hopening'
  cases hopening'

lemma not_straddles_of_split?_eq_none {line implied : Text} {form : TagForm}
    (hopening : Opening.ofText line = .tag form implied) (hsplit : split? form line = none) :
    ¬ Straddles line := by
  intro h
  obtain ⟨form', implied', text, rest, hopening', hsplit', -⟩ := h.exists_split?
  rw [hopening] at hopening'
  cases hopening'
  rw [hsplit] at hsplit'
  cases hsplit'

/-- In a line that is not at fault, a tag with content has another line nested in it exactly when
the line straddles. -/
theorem crowded_iff_straddles {line : Text} {node : Node} {children : Forest Node}
    (h : (read line).sprout = .ok (node, children)) : (read line).Crowded ↔ Straddles line := by
  fun_induction read line generalizing node children with
  | case1 line plain hopening =>
    simp [Reading.Crowded, not_straddles_of_plain hopening]
  | case2 => cases h
  | case3 line form implied hopening hsplit =>
    simp [Reading.Crowded, not_straddles_of_split?_eq_none hopening hsplit]
  | case4 => cases h
  | case5 line form implied hopening text rest hsplit _ tag hhead ih =>
    obtain ⟨child, below, hinner, -⟩ := Reading.exists_of_sprout_nested h
    rw [Reading.Crowded, ih hinner, straddles_iff hopening hsplit hhead]

/-- The nodes of a line have at most two children each. They have at most one each exactly when no
tag before a separator has a quote or a bracket open where its content begins. -/
theorem length_children_of_plant {tree planted : Tree} {line : Text} {id : NodeId}
    (h : plant tree line = (planted, .ok id)) :
    (∀ other ∈ planted.preorder id, (planted.children other).length ≤ 2) ∧
      ((∀ other ∈ planted.preorder id, (planted.children other).length ≤ 1) ↔
        ¬ Straddles line) := by
  obtain ⟨node, children, hsprout, rfl, hplanted⟩ := exists_sprout_of_plant h
  obtain ⟨htwo, hone⟩ := Reading.narrow_of_sprout hsprout
  rw [hplanted.length_children_le_iff, hplanted.length_children_le_iff, hone,
    crowded_iff_straddles hsprout]
  exact ⟨htwo, Iff.rfl⟩

/-- Brackets that are closed again, and those in values, do not count. -/
theorem length_children_of_closed_brackets :
    ∃ planted, plant {} "%p.a[b](k=\"[ \"): .c x: y".toList = (planted, .ok 1) ∧
      ∀ other ∈ planted.preorder 1, (planted.children other).length ≤ 1 := by
  have hinner : read ".c x: y".toList =
      .single ⟨.element ⟨"div".toList, ⟨[("class".toList, "c".toList)]⟩, false⟩,
        "x: y".toList⟩ := by
    rw [read_eq]
    rfl
  have hread : read "%p.a[b](k=\"[ \"): .c x: y".toList = .nested ⟨.element ⟨"p".toList,
      ⟨[("class".toList, "a[b]".toList), ("k".toList, "[".toList)]⟩, false⟩, []⟩
      (read ".c x: y".toList) := by
    rw [read_eq]
    rfl
  have hplant : plant {} "%p.a[b](k=\"[ \"): .c x: y".toList = _ :=
    congrArg (Reading.plant {}) (hinner ▸ hread)
  refine ⟨_, hplant, (length_children_of_plant hplant).2.2 ?_⟩
  rw [straddles_iff rfl rfl rfl]
  rintro (hcontent | hrest)
  · exact hcontent rfl
  · exact not_straddles_of_split?_eq_none rfl rfl hrest

/-- A class that opens a bracket before its content gets both the content and the nested line. -/
theorem two_children_behind_open_bracket :
    ∃ planted, plant {} "%p.a[ x]: y".toList = (planted, .ok 1) ∧
      1 ∈ planted.preorder 1 ∧ planted.children 1 = [2, 3] := by
  have hread : read "%p.a[ x]: y".toList =
      .nested ⟨.element ⟨"p".toList, ⟨[("class".toList, "a[".toList)]⟩, false⟩, "x]".toList⟩
        (.single { node := .text "y".toList }) := by
    have hinner : read "y".toList = .single { node := .text "y".toList } := by
      rw [read_eq]
      rfl
    rw [read_eq, ← hinner]
    rfl
  refine ⟨_, congrArg (Reading.plant {}) hread, ?_, ?_⟩
  · decide
  · decide

end Line
end OutlineMarkup

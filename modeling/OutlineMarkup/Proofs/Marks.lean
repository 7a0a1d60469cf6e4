import OutlineMarkup.Proofs.Siblings

/-! What the lines of a tree are made of: white space, the texts of nodes that open nothing, and the
marks where elements and control tags are opened, gone on with and closed. Written out, the pieces
give the lines, whatever is condensed or absorbed; and the marks stand in them in the order of a
walk through the tree. -/
namespace OutlineMarkup

lemma Text.repeated_add (t : Text) (m n : Nat) :
    t.repeated (m + n) = t.repeated m ++ t.repeated n := by
  induction m with
  | zero => simp
  | succ m ih => simp [Nat.succ_add, ih]

/-- A place in the output where a tag is opened, gone on with or closed. -/
inductive Mark where
  | opened (id : NodeId) (form : TagForm) (tag : Text)
  | continued (id : NodeId)
  | closed (form : TagForm) (tag : Text)
  deriving Repr, DecidableEq

def Mark.text (tree : Tree) : Mark → Text
  | opened id _ _ => tree.openingText id
  | continued id => tree.openingText id
  | closed .element tag => Element.closing { tag }
  | closed .control tag => Control.closingOf tag

namespace Tree

/-- The mark a node begins with. A control tag goes on with the sibling just before it when it
can. -/
def openMark? (tree : Tree) (id : NodeId) : Option Mark :=
  match tree.node id with
  | .element element => some (.opened id .element element.tag)
  | .control control =>
    if (tree.previous? id).any (tree.continues id) then some (.continued id)
    else some (.opened id .control control.tag)
  | _ => none

def closeMark? (tree : Tree) (id : NodeId) : Option Mark :=
  match tree.node id with
  | .element element => some (.closed .element element.tag)
  | .control _ =>
    if tree.isContinued id then none else some (.closed .control (tree.tagOf (tree.chainStart id)))
  | _ => none

lemma map_text_closeMark? (tree : Tree) (id : NodeId) :
    (tree.closeMark? id).map (Mark.text tree) = tree.closing? id := by
  unfold closeMark? closing?
  cases tree.node id with
  | control control => cases tree.isContinued id <;> rfl
  | _ => rfl

lemma text_openMark? {tree : Tree} {id : NodeId} {mark : Mark} (h : tree.openMark? id = some mark) :
    mark.text tree = tree.openingText id ∧
      (tree.node id).opening? = some (tree.openingText id) := by
  unfold openMark? at h
  unfold openingText
  cases hnode : tree.node id with
  | element element =>
    simp only [hnode] at h
    cases h
    simp [Mark.text, openingText, hnode, Node.opening?]
  | control control =>
    simp only [hnode] at h
    split at h <;> cases h <;> simp [Mark.text, openingText, hnode, Node.opening?]
  | _ => simp [hnode] at h

end Tree

/-- A piece of a line: a margin of some levels, the text of a node from some character on, or a
mark. -/
inductive Piece where
  | margin (levels : Nat)
  | own (id : NodeId) (cut : Nat)
  | mark (mark : Mark)
  deriving Repr, DecidableEq

namespace Piece

def text (tree : Tree) (unit : Text) : Piece → Text
  | margin levels => unit.repeated levels
  | own id cut => (tree.openingText id).drop cut
  | mark m => m.text tree

def mark? : Piece → Option Mark
  | mark m => some m
  | _ => none

def spell (tree : Tree) (unit : Text) (line : List Piece) : Text := line.flatMap (text tree unit)

def marks (line : List Piece) : List Mark := line.filterMap mark?

/-- The piece a node begins with, and the one it ends with. -/
def opening? (tree : Tree) (id : NodeId) : Option Piece :=
  match tree.openMark? id with
  | some m => some (mark m)
  | none => (tree.node id).opening?.map fun _ => own id 0

def closing? (tree : Tree) (id : NodeId) : Option Piece := (tree.closeMark? id).map mark

/-- The preformatted text that comes first among some siblings, blank lines aside. -/
def leading? (tree : Tree) : Forest NodeId → Option NodeId
  | .nil => none
  | .cons id _ siblings =>
    match tree.node id with
    | .empty => leading? tree siblings
    | .preformatted _ => some id
    | _ => none

/-- The pieces of an opening line, with the text it absorbs. -/
def openingLine? (tree : Tree) (id : NodeId) (children : Forest NodeId) : Option (List Piece) :=
  (opening? tree id).map fun piece =>
    if Layout.absorbs (tree.node id) then
      piece :: (leading? tree children).toList.map (own · 0)
    else [piece]

def before (tree : Tree) (depth : Nat) (id : NodeId) : List Piece :=
  match tree.node id with
  | .preformatted _ => []
  | _ => [margin depth]

/-- A line without a margin of some levels, if it begins with one. -/
def cut (tree : Tree) (unit : Text) (levels : Nat) : List Piece → List Piece
  | margin n :: rest => margin (n - levels) :: rest
  | own id n :: rest =>
    if (Text.after? (unit.repeated levels) ((tree.openingText id).drop n)).isSome then
      own id (n + (unit.repeated levels).length) :: rest
    else own id n :: rest
  | line => line

def appendToLast (last : List Piece) : List (List Piece) → List (List Piece)
  | [] => []
  | [line] => [line ++ last]
  | line :: lines => line :: appendToLast last lines

def wrap (tree : Tree) (unit : Text) (depth : Nat) (id : NodeId) (opening : Option (List Piece))
    (closing : Option Piece) (content : List (List Piece)) : List (List Piece) :=
  match tree.node id with
  | .element ⟨_, _, true⟩ =>
    match content with
    | [] => [before tree depth id ++ opening.getD [] ++ closing.toList]
    | line :: lines =>
      appendToLast closing.toList
        ((before tree depth id ++ opening.getD [] ++ cut tree unit (depth + 1) line) :: lines)
  | _ =>
    (opening.map (before tree depth id ++ ·)).toList ++ content ++
      (closing.map (before tree depth id ++ [·])).toList

def forestLines (tree : Tree) (unit : Text) : (depth : Nat) → (absorbing : Bool) →
    Forest NodeId → List (List Piece)
  | _, _, .nil => []
  | depth, absorbing, .cons id children siblings =>
    let content := forestLines tree unit (depth + 1) (Layout.absorbs (tree.node id)) children
    let own :=
      if Layout.isAbsorbed absorbing (tree.node id) then content
      else wrap tree unit depth id (openingLine? tree id children) (closing? tree id) content
    own ++ forestLines tree unit depth (Layout.staysAbsorbing absorbing (tree.node id)) siblings

def treeLines (tree : Tree) (unit : Text) : List (List Piece) :=
  forestLines tree unit 0 false (tree.below Tree.root)

variable {tree : Tree} {unit : Text} {depth : Nat} {id : NodeId}

@[simp] lemma spell_append (first second : List Piece) :
    spell tree unit (first ++ second) = spell tree unit first ++ spell tree unit second :=
  List.flatMap_append

@[simp] lemma spell_cons (piece : Piece) (line : List Piece) :
    spell tree unit (piece :: line) = piece.text tree unit ++ spell tree unit line :=
  List.flatMap_cons

@[simp] lemma spell_nil : spell tree unit [] = [] := rfl

lemma map_text_opening? (tree : Tree) (unit : Text) (id : NodeId) :
    (opening? tree id).map (text tree unit) = (tree.node id).opening? := by
  unfold opening?
  cases hmark : tree.openMark? id with
  | some m =>
    obtain ⟨htext, hopening⟩ := Tree.text_openMark? hmark
    simp [text, htext, hopening]
  | none =>
    cases hopening : (tree.node id).opening? with
    | none => rfl
    | some opening => simp [text, Tree.openingText, hopening]

lemma map_text_closing? (tree : Tree) (unit : Text) (id : NodeId) :
    (closing? tree id).map (text tree unit) = tree.closing? id := by
  rw [closing?, Option.map_map, ← Tree.map_text_closeMark?]
  rfl

lemma leadingText?_map (forest : Forest NodeId) :
    Layout.leadingText? (forest.map tree.node) = (leading? tree forest).map tree.openingText := by
  induction forest with
  | nil => rfl
  | cons id children siblings _ ihs =>
    cases hnode : tree.node id <;>
      simp [hnode, Layout.leadingText?, leading?, ihs, Tree.openingText, Node.opening?]

lemma map_spell_openingLine? (children : Forest NodeId) :
    (openingLine? tree id children).map (spell tree unit) =
      Layout.openingLine? (tree.node id) (children.map tree.node) := by
  rw [openingLine?, Layout.openingLine?, ← map_text_opening? tree unit id, leadingText?_map]
  cases opening? tree id with
  | none => rfl
  | some piece =>
    cases Layout.absorbs (tree.node id) with
    | false => simp
    | true => cases leading? tree children <;> simp [text]

lemma spell_before : spell tree unit (before tree depth id) =
    Layout.margin unit depth (tree.node id) := by
  unfold before
  cases tree.node id <;> simp [Layout.margin, text]

lemma map_spell_appendToLast (last : List Piece) (lines : List (List Piece)) :
    (appendToLast last lines).map (spell tree unit) =
      Text.appendToLast (spell tree unit last) (lines.map (spell tree unit)) := by
  induction lines with
  | nil => rfl
  | cons line lines ih =>
    cases lines with
    | nil => simp [appendToLast, Text.appendToLast]
    | cons next lines => simpa [appendToLast, Text.appendToLast] using ih

/-- How the first of some lines begins: with a margin of at least some levels, or with nothing but
a text of its own. -/
def Led (depth : Nat) (lines : List (List Piece)) : Prop :=
  ∀ line ∈ lines.head?, (∃ levels rest, line = margin levels :: rest ∧ depth ≤ levels) ∨
    ∃ id, line = [own id 0]

lemma Led.mono {lines : List (List Piece)} (h : Led (depth + 1) lines) : Led depth lines := by
  intro line hline
  rcases h line hline with ⟨levels, rest, rfl, hle⟩ | hown
  · exact .inl ⟨levels, rest, rfl, by omega⟩
  · exact .inr hown

lemma Led.append {first second : List (List Piece)} (h : Led depth first) (h' : Led depth second) :
    Led depth (first ++ second) := by
  cases first with
  | nil => exact h'
  | cons line lines => exact h

lemma led_cons (rest : List Piece) (lines : List (List Piece)) :
    Led depth ((margin depth :: rest) :: lines) := by
  intro line hline
  cases hline
  exact .inl ⟨depth, rest, rfl, Nat.le_refl depth⟩

lemma led_appendToLast {last : List Piece} {rest : List Piece} {lines : List (List Piece)} :
    Led depth (appendToLast last ((margin depth :: rest) :: lines)) := by
  cases lines with
  | nil => exact led_cons _ _
  | cons line lines => exact led_cons _ _

lemma exists_openingLine? (h : (tree.node id).opening?.isSome) (children : Forest NodeId) :
    ∃ line, openingLine? tree id children = some line := by
  rw [← map_text_opening? tree [] id, Option.isSome_map] at h
  obtain ⟨piece, hpiece⟩ := Option.isSome_iff_exists.1 h
  rw [openingLine?, hpiece]
  exact ⟨_, rfl⟩

lemma openingLine?_eq_none (h : (tree.node id).opening? = none) (children : Forest NodeId) :
    openingLine? tree id children = none := by
  rw [← map_text_opening? tree [] id, Option.map_eq_none_iff] at h
  rw [openingLine?, h]
  rfl

lemma led_wrap {content : List (List Piece)} {children : Forest NodeId}
    (h : Led (depth + 1) content) :
    Led depth (wrap tree unit depth id (openingLine? tree id children) (closing? tree id)
      content) := by
  unfold wrap
  cases hnode : tree.node id with
  | element element =>
    obtain ⟨tag, attributes, condensed⟩ := element
    have hbefore : before tree depth id = [margin depth] := by simp [before, hnode]
    obtain ⟨line, hline⟩ := exists_openingLine? (by rw [hnode]; rfl) children
    rw [hbefore, hline]
    cases condensed with
    | false => exact led_cons _ _
    | true =>
      cases content with
      | nil => exact led_cons _ _
      | cons line lines => exact led_appendToLast
  | preformatted data =>
    intro line hline
    simp only [openingLine?, opening?, Tree.openMark?, hnode, before, Node.opening?,
      Layout.absorbs, Option.map_some, Option.toList_some, Bool.false_eq_true, if_false,
      List.nil_append, List.cons_append, List.head?_cons, Option.mem_some_iff] at hline
    exact .inr ⟨id, hline.symm⟩
  | root | empty =>
    have hclosing : closing? tree id = none := by simp [closing?, Tree.closeMark?, hnode]
    rw [openingLine?_eq_none (by rw [hnode]; rfl), hclosing]
    simpa using h.mono
  | _ =>
    have hbefore : before tree depth id = [margin depth] := by simp [before, hnode]
    obtain ⟨line, hline⟩ := exists_openingLine? (by rw [hnode]; rfl) children
    rw [hbefore, hline]
    exact led_cons _ _

/-- Taking a margin off a line that begins with one, or with a text of its own. -/
lemma spell_cut {line : List Piece} {lines : List (List Piece)} (h : Led depth (line :: lines)) :
    spell tree unit (cut tree unit depth line) =
      (Text.after? (unit.repeated depth) (spell tree unit line)).getD (spell tree unit line) := by
  rcases h line rfl with ⟨levels, rest, rfl, hle⟩ | ⟨id, rfl⟩
  · have hsplit : unit.repeated levels = unit.repeated depth ++ unit.repeated (levels - depth) := by
      rw [← Text.repeated_add, Nat.add_sub_cancel' hle]
    have hafter : Text.after? (unit.repeated depth) (unit.repeated levels ++ spell tree unit rest) =
        some (unit.repeated (levels - depth) ++ spell tree unit rest) := by
      rw [Text.after?_eq_some_iff, hsplit, List.append_assoc]
    simp [cut, text, hafter]
  · simp only [cut, spell_cons, spell_nil, List.append_nil, text, List.drop_zero]
    cases hafter : Text.after? (unit.repeated depth) (tree.openingText id) with
    | none => simp [text]
    | some rest =>
      rw [Text.after?_eq_some_iff] at hafter
      simp [text, hafter]

/-- Every list of lines begins at its depth. -/
lemma led_forestLines (absorbing : Bool) (forest : Forest NodeId) :
    Led depth (forestLines tree unit depth absorbing forest) := by
  induction forest generalizing depth absorbing with
  | nil => simp [Led, forestLines]
  | cons id children siblings ihc ihs =>
    rw [forestLines]
    apply Led.append _ (ihs _)
    split
    · exact (ihc _).mono
    · exact led_wrap (ihc _)

lemma map_spell_wrap {content : List (List Piece)} (h : Led (depth + 1) content)
    (opening : Option (List Piece)) (closing : Option Piece) :
    (wrap tree unit depth id opening closing content).map (spell tree unit) =
      Layout.wrap unit depth (tree.node id) (opening.map (spell tree unit))
        (closing.map (text tree unit)) (content.map (spell tree unit)) := by
  have hplain : ((opening.map (before tree depth id ++ ·)).toList ++ content ++
        (closing.map (before tree depth id ++ [·])).toList).map (spell tree unit) =
      ((opening.map (spell tree unit)).map (Layout.margin unit depth (tree.node id) ++ ·)).toList ++
        content.map (spell tree unit) ++
        ((closing.map (text tree unit)).map
          (Layout.margin unit depth (tree.node id) ++ ·)).toList := by
    cases opening <;> cases closing <;> simp [spell_before]
  unfold wrap Layout.wrap
  cases hnode : tree.node id with
  | element element =>
    rw [hnode] at hplain
    obtain ⟨tag, attributes, condensed⟩ := element
    cases condensed with
    | false => exact hplain
    | true =>
      have hopening :
          spell tree unit (opening.getD []) = (opening.map (spell tree unit)).getD [] := by
        cases opening <;> rfl
      have hclosing : spell tree unit closing.toList = (closing.map (text tree unit)).getD [] := by
        cases closing <;> simp
      cases content with
      | nil => simp [Layout.condense, spell_before, hnode, hopening, hclosing]
      | cons line lines =>
        simp [Layout.condense, map_spell_appendToLast, spell_before, hnode, hopening, hclosing,
          spell_cut h]
  | _ =>
    rw [hnode] at hplain
    exact hplain

/-- Written out, the pieces give the lines. -/
theorem map_spell_forestLines (sound : Tree.Sound tree) {earlier ids : List NodeId}
    {forest : Forest NodeId} (h : Tree.Unfolds tree ids forest)
    (hs : Tree.Stands tree earlier ids) (depth : Nat) (absorbing : Bool) :
    (forestLines tree unit depth absorbing forest).map (spell tree unit) =
      Layout.forestLines unit depth absorbing (tree.linkBefore earlier) (forest.map tree.node) := by
  induction h generalizing earlier depth absorbing with
  | nil => rfl
  | @cons id ids children siblings hc hrest ihc ihs =>
    have hcontent := ihc (Tree.Stands.children tree id) (depth + 1)
      (Layout.absorbs (tree.node id))
    have hsiblings := ihs hs.step depth (Layout.staysAbsorbing absorbing (tree.node id))
    rw [forestLines, List.map_append, hsiblings, Forest.map_cons, Layout.forestLines_cons,
      Tree.closing?_eq sound hs hrest]
    congr 1
    split
    · exact hcontent
    · rw [map_spell_wrap (led_forestLines _ _), map_spell_openingLine?, map_text_closing?, hcontent]
      rfl

theorem map_spell_treeLines (sound : Tree.Sound tree) (unit : Text) :
    (treeLines tree unit).map (spell tree unit) = Layout.treeLines unit tree :=
  map_spell_forestLines sound (sound.unfolds_below (.refl _)) (Tree.Stands.children tree _) 0 false

@[simp] lemma marks_nil : marks [] = [] := rfl

end Piece

namespace Tree

end Tree

end OutlineMarkup

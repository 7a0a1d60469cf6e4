import OutlineMarkup.Proofs.DocumentOrder
import OutlineMarkup.Proofs.Margins
import OutlineMarkup.Proofs.Marks

/-! Preformatted text. It has no margin, so what a line of it begins with is its own. A condensed
element takes the margin of its content off the first content line all the same, and that line is
preformatted text when the element has absorbed another text before it. Everywhere else a
preformatted text stands whole on some line. -/
namespace OutlineMarkup

open OutlineMarkup.Tree OutlineMarkup.Layout

namespace Tree

/-- The preformatted text that comes first among some siblings, blank lines aside. -/
def firstText? (tree : Tree) (ids : List NodeId) : Option NodeId :=
  (tree.filled ids).head?.filter fun id => (tree.node id).preformatted?.isSome

/-- The preformatted text that stands on the opening line of a node. -/
def absorbed? (tree : Tree) (id : NodeId) : Option NodeId :=
  if absorbs (tree.node id) then tree.firstText? (tree.children id) else none

/-- What follows a preformatted text that comes first among some siblings, blank lines aside: the
first node in it, or else its next sibling. -/
def behindText? (tree : Tree) (ids : List NodeId) : Option NodeId :=
  (tree.firstText? ids).bind fun id =>
    (tree.filled (tree.children id) ++ (tree.filled ids).tail).head?

def contentMargin (tree : Tree) (unit : Text) (id : NodeId) : Text :=
  unit.repeated ((tree.depth? id).getD 0 + 1)

/-- A condensed element takes white space off a text that is the text's own: the text is the first
line of the content, behind another one that the element has absorbed, and begins with what looks
like the margin of the content. -/
structure Strips (tree : Tree) (unit : Text) (outer id : NodeId) : Prop where
  condensed : isCondensed (tree.node outer)
  behind : tree.behindText? (tree.children outer) = some id
  unit_ne_nil : unit ≠ []
  margin : tree.contentMargin unit outer <+: tree.openingText id

instance (tree : Tree) (unit : Text) (outer id : NodeId) : Decidable (tree.Strips unit outer id) :=
  decidable_of_iff (isCondensed (tree.node outer) ∧
      tree.behindText? (tree.children outer) = some id ∧ unit ≠ [] ∧
      tree.contentMargin unit outer <+: tree.openingText id)
    ⟨fun h => ⟨h.1, h.2.1, h.2.2.1, h.2.2.2⟩,
      fun h => ⟨h.condensed, h.behind, h.unit_ne_nil, h.margin⟩⟩

/-- A sound tree where every node is below the root, and no other node is a root. -/
structure Complete (tree : Tree) : Prop where
  sound : Sound tree
  node_eq_root_iff (id : NodeId) : tree.node id = .root ↔ id = root
  preorder_root : tree.preorder root = List.range tree.size

variable {tree : Tree} {unit : Text} {ids : List NodeId} {forest : Forest NodeId} {id : NodeId}

/-- The tree of a template is complete. -/
lemma complete_of_ofLines {lines : List Text} (h : Tree.ofLines lines = .ok tree) :
    Complete tree where
  sound := (Builder.grown_of_ofLines h).sound
  node_eq_root_iff id := by
    refine ⟨fun hid => ?_, fun hid => hid ▸ (Builder.grown_of_ofLines h).node_root⟩
    by_contra hn
    exact Builder.ne_root_of_ofLines h id (lt_size_of_ne_empty (by simp [hid])) hn hid
  preorder_root := (Builder.preorder_of_ofLines h).2

lemma Complete.node_ne_root (complete : Complete tree) (h : root ≠ id) : tree.node id ≠ .root :=
  fun hn => h ((complete.node_eq_root_iff id).1 hn).symm

/-- Whatever is neither a blank line nor a root is below the root. -/
lemma Complete.mem_preorder_below (complete : Complete tree) (hempty : tree.node id ≠ .empty)
    (hroot : tree.node id ≠ .root) : id ∈ (tree.below root).preorder := by
  have hmem : id ∈ tree.preorder root := by
    rw [complete.preorder_root]
    exact List.mem_range.2 (lt_size_of_ne_empty hempty)
  exact (List.mem_cons.1 hmem).resolve_left (mt (complete.node_eq_root_iff id).2 hroot)

lemma firstText?_cons_of_empty (h : tree.node id = .empty) (ids : List NodeId) :
    tree.firstText? (id :: ids) = tree.firstText? ids := by
  rw [firstText?, filled_cons_of_empty h, firstText?]

lemma firstText?_cons_of_ne (h : tree.node id ≠ .empty) (ids : List NodeId) :
    tree.firstText? (id :: ids) =
      if (tree.node id).preformatted?.isSome then some id else none := by
  rw [firstText?, filled_cons_of_ne h, List.head?_cons, Option.filter_some]

lemma isSome_preformatted?_of_firstText? (h : tree.firstText? ids = some id) :
    (tree.node id).preformatted?.isSome :=
  (Option.filter_eq_some_iff.1 h).2

lemma behindText?_cons_of_empty (h : tree.node id = .empty) (ids : List NodeId) :
    tree.behindText? (id :: ids) = tree.behindText? ids := by
  rw [behindText?, firstText?_cons_of_empty h, filled_cons_of_empty h, behindText?]

lemma Unfolds.leading?_eq (h : Unfolds tree ids forest) :
    Piece.leading? tree forest = tree.firstText? ids := by
  induction h with
  | nil => rfl
  | @cons id ids children siblings _ _ _ ihs =>
    rw [Piece.leading?]
    by_cases hempty : tree.node id = .empty
    · rw [firstText?_cons_of_empty hempty, hempty]
      exact ihs
    · rw [firstText?_cons_of_ne hempty]
      cases hnode : tree.node id <;> simp_all [Node.preformatted?]

end Tree

namespace Piece

variable {tree : Tree} {unit : Text} {depth : Nat} {id : NodeId}

/-- Some pieces stand on one of the lines, one right behind the other. -/
def Carries (part : List Piece) (lines : List (List Piece)) : Prop := ∃ line ∈ lines, part <:+: line

def nodeLines (tree : Tree) (unit : Text) (depth : Nat) (id : NodeId) (children : Forest NodeId) :
    List (List Piece) :=
  wrap tree unit depth id (openingLine? tree id children) (closing? tree id)
    (forestLines tree unit (depth + 1) (absorbs (tree.node id)) children)

def lead (tree : Tree) (depth : Nat) (id : NodeId) : Piece :=
  if (tree.node id).preformatted?.isSome then own id 0 else margin depth

lemma forestLines_cons (unit : Text) (depth : Nat) (absorbing : Bool) (id : NodeId)
    (children siblings : Forest NodeId) :
    forestLines tree unit depth absorbing (.cons id children siblings) =
      (if isAbsorbed absorbing (tree.node id) then
          forestLines tree unit (depth + 1) (absorbs (tree.node id)) children
        else nodeLines tree unit depth id children) ++
      forestLines tree unit depth (staysAbsorbing absorbing (tree.node id)) siblings := rfl

lemma forestLines_empty (h : tree.node id = .empty) (unit : Text) (depth : Nat) (absorbing : Bool)
    (siblings : Forest NodeId) :
    forestLines tree unit depth absorbing (.cons id .nil siblings) =
      forestLines tree unit depth absorbing siblings := by
  simp [forestLines, wrap, isAbsorbed, staysAbsorbing, openingLine?, opening?, openMark?, closing?,
    closeMark?, Node.opening?, h]

/-- A node that has an opening begins with its opening line. -/
lemma exists_nodeLines_eq_cons {children : Forest NodeId} {line : List Piece}
    (h : openingLine? tree id children = some line) (unit : Text) (depth : Nat) :
    ∃ rest lines,
      nodeLines tree unit depth id children = (before tree depth id ++ line ++ rest) :: lines := by
  rw [nodeLines, h]
  generalize forestLines tree unit (depth + 1) (absorbs (tree.node id)) children = content
  unfold wrap
  split
  · cases content with
    | nil => exact ⟨(closing? tree id).toList, [], rfl⟩
    | cons first lines =>
      cases lines with
      | nil =>
        exact ⟨cut tree unit (depth + 1) first ++ (closing? tree id).toList, [],
          by simp [appendToLast]⟩
      | cons next lines => exact ⟨cut tree unit (depth + 1) first, _, rfl⟩
  · exact ⟨[], _, by rw [List.append_nil]; rfl⟩

lemma head?_flatten_nodeLines (hroot : tree.node id ≠ .root) (hempty : tree.node id ≠ .empty)
    (unit : Text) (depth : Nat) (children : Forest NodeId) :
    (nodeLines tree unit depth id children).flatten.head? = some (lead tree depth id) := by
  have hopening : (tree.node id).opening?.isSome := by
    cases hnode : tree.node id <;> simp_all [Node.opening?]
  obtain ⟨line, hline⟩ := exists_openingLine? hopening children
  obtain ⟨rest, lines, hlines⟩ := exists_nodeLines_eq_cons hline unit depth
  rw [hlines, lead]
  cases hnode : tree.node id with
  | preformatted data =>
    have : line = [own id 0] := by
      simpa [openingLine?, opening?, openMark?, hnode, Node.opening?, absorbs, eq_comm] using hline
    simp [before, hnode, Node.preformatted?, this]
  | _ => simp [before, hnode, Node.preformatted?]

/-- The lines of some siblings begin with the first of them that is not a blank line. -/
lemma head?_flatten_forestLines (complete : Complete tree) {ids : List NodeId}
    {forest : Forest NodeId} (h : Unfolds tree ids forest) (hroot : root ∉ ids) (unit : Text)
    (depth : Nat) :
    (forestLines tree unit depth false forest).flatten.head? =
      (tree.filled ids).head?.map (lead tree depth) := by
  induction h with
  | nil => rfl
  | @cons id ids children siblings hc _ _ ihs =>
    rw [List.mem_cons, not_or] at hroot
    obtain ⟨hid, hroots⟩ := hroot
    by_cases hempty : tree.node id = .empty
    · rw [hc.eq_nil complete.sound (by rw [hempty]; rfl), forestLines_empty hempty,
        filled_cons_of_empty hempty]
      exact ihs hroots
    · have hne := complete.node_ne_root hid
      have hfree : isAbsorbed false (tree.node id) = false := by cases tree.node id <;> rfl
      rw [forestLines_cons, hfree, if_neg (by simp), List.flatten_append, List.head?_append,
        head?_flatten_nodeLines hne hempty, filled_cons_of_ne hempty]
      rfl

lemma lead_eq_own_iff {other : NodeId} :
    lead tree depth other = own id 0 ↔ other = id ∧ (tree.node id).preformatted?.isSome := by
  unfold lead
  split
  · next h =>
    simp only [own.injEq, and_true, iff_self_and]
    rintro rfl
    exact h
  · next h =>
    simp only [reduceCtorEq, false_iff, not_and]
    rintro rfl
    exact h

/-- The content of an element begins with a text exactly when the text stands behind one that the
element has absorbed. -/
lemma head?_flatten_eq_own_iff (complete : Complete tree) {ids : List NodeId}
    {forest : Forest NodeId} (h : Unfolds tree ids forest) (hroot : root ∉ ids) (unit : Text)
    (depth : Nat) :
    (forestLines tree unit depth true forest).flatten.head? = some (own id 0) ↔
      tree.behindText? ids = some id ∧ (tree.node id).preformatted?.isSome := by
  induction h with
  | nil => simp [forestLines, behindText?, firstText?, filled]
  | @cons first ids children siblings hc hs _ ihs =>
    rw [List.mem_cons, not_or] at hroot
    obtain ⟨hfirst, hroots⟩ := hroot
    by_cases hempty : tree.node first = .empty
    · rw [hc.eq_nil complete.sound (by rw [hempty]; rfl), forestLines_empty hempty,
        behindText?_cons_of_empty hempty]
      exact ihs hroots
    · have hne := complete.node_ne_root hfirst
      rw [forestLines_cons, behindText?, firstText?_cons_of_ne hempty, filled_cons_of_ne hempty,
        List.flatten_append, List.head?_append]
      cases hnode : tree.node first with
      | preformatted data =>
        -- The text is absorbed, so the nodes in it come first, and its siblings where it has none.
        have hcontent := head?_flatten_forestLines complete hc
          (complete.sound.root_notMem_children first) unit (depth + 1)
        have hsiblings := head?_flatten_forestLines complete hs hroots unit depth
        have htext : (Node.preformatted data).preformatted?.isSome := rfl
        simp only [isAbsorbed, if_true, absorbs, staysAbsorbing, hcontent, hsiblings, htext,
          Option.bind_some, List.tail_cons, List.head?_append]
        cases (tree.filled (tree.children first)).head? with
        | some child => simp [lead_eq_own_iff]
        | none => simp [lead_eq_own_iff]
      | _ =>
        rw [← hnode]
        have hhead := head?_flatten_nodeLines hne hempty unit depth children
        simp [hhead, isAbsorbed, hnode, lead, Node.preformatted?]

lemma Carries.append_left {part : List Piece} {lines : List (List Piece)} (h : Carries part lines)
    (more : List (List Piece)) : Carries part (lines ++ more) := by
  obtain ⟨line, hline, hpart⟩ := h
  exact ⟨line, List.mem_append_left more hline, hpart⟩

lemma Carries.append_right {part : List Piece} {lines : List (List Piece)} (h : Carries part lines)
    (more : List (List Piece)) : Carries part (more ++ lines) := by
  obtain ⟨line, hline, hpart⟩ := h
  exact ⟨line, List.mem_append_right more hline, hpart⟩

lemma Carries.appendToLast {part : List Piece} {lines : List (List Piece)} (h : Carries part lines)
    (last : List Piece) : Carries part (appendToLast last lines) := by
  induction lines with
  | nil => exact h
  | cons line lines ih =>
    obtain ⟨other, hother, hpart⟩ := h
    cases lines with
    | nil =>
      obtain rfl := List.mem_singleton.1 hother
      exact ⟨other ++ last, List.mem_singleton_self _, hpart.trans (List.infix_append' [] _ _)⟩
    | cons next lines =>
      rcases List.mem_cons.1 hother with rfl | hother
      · exact ⟨other, List.mem_cons_self, hpart⟩
      · exact (ih ⟨other, hother, hpart⟩).append_right [line]

/-- Pieces stay together when a margin is taken off their line, unless it is taken off the first of
them. -/
lemma infix_cut {piece : Piece} {part line : List Piece} {levels : Nat}
    (h : piece :: part <:+: line)
    (hkept : line.head? = some piece → cut tree unit levels line = line) :
    piece :: part <:+: cut tree unit levels line := by
  cases line with
  | nil => exact h
  | cons first rest =>
    rcases List.infix_cons_iff.1 h with hstart | hrest
    · obtain rfl := (List.cons_prefix_cons.1 hstart).1
      rwa [hkept rfl]
    · have hcut : ∃ first', cut tree unit levels (first :: rest) = first' :: rest := by
        unfold cut
        cases first with
        | own id n =>
          dsimp only
          split <;> exact ⟨_, rfl⟩
        | _ => exact ⟨_, rfl⟩
      obtain ⟨first', hfirst⟩ := hcut
      rw [hfirst]
      exact List.infix_cons hrest

/-- What is on the lines of the content is on the lines of the node around it. -/
lemma Carries.wrap {piece : Piece} {part : List Piece} {content : List (List Piece)}
    (h : Carries (piece :: part) content)
    (hkept : isCondensed (tree.node id) → ∀ line, content.head? = some line →
      line.head? = some piece → cut tree unit (depth + 1) line = line)
    (opening : Option (List Piece)) (closing : Option Piece) :
    Carries (piece :: part) (wrap tree unit depth id opening closing content) := by
  unfold Piece.wrap
  split
  · next hnode =>
    obtain ⟨line, hline, hpart⟩ := h
    cases content with
    | nil => cases hline
    | cons first lines =>
      apply Carries.appendToLast
      rcases List.mem_cons.1 hline with rfl | hline
      · have hcut := infix_cut hpart (hkept (by rw [hnode]; rfl) line rfl)
        exact ⟨_, List.mem_cons_self, hcut.trans (List.suffix_append _ _).isInfix⟩
      · exact ⟨line, List.mem_cons_of_mem _ hline, hpart⟩
  · exact (h.append_right _).append_left _

/-- The lines of a node that is not absorbed carry some pieces, wherever the node stands. -/
def Shows (tree : Tree) (unit : Text) (id : NodeId) (part : List Piece) : Prop :=
  ∀ depth children, Descends tree (depth + 1) root id → Unfolds tree (tree.children id) children →
    Carries part (nodeLines tree unit depth id children)

lemma shows_openingLine {part : List Piece}
    (h : ∀ children, Unfolds tree (tree.children id) children →
      openingLine? tree id children = some part) :
    Shows tree unit id part := by
  intro depth children _ hc
  obtain ⟨rest, lines, hlines⟩ := exists_nodeLines_eq_cons (h children hc) unit depth
  rw [hlines]
  exact ⟨_, List.mem_cons_self, List.infix_append _ _ _⟩

/-- A piece that no condensed element takes anything off. -/
def Kept (tree : Tree) (unit : Text) (piece : Piece) : Prop :=
  ∀ outer depth children, Descends tree (depth + 1) root outer → isCondensed (tree.node outer) →
    Unfolds tree (tree.children outer) children →
    ∀ line, (forestLines tree unit (depth + 1) true children).head? = some line →
      line.head? = some piece → cut tree unit (depth + 1) line = line

lemma kept_mark (m : Mark) : Kept tree unit (mark m) := by
  intro outer depth children _ _ _ line _ hhead
  cases line with
  | nil => cases hhead
  | cons first rest =>
    obtain rfl := Option.some.inj hhead
    rfl

lemma absorbs_of_isCondensed {node : Node} (h : isCondensed node) : absorbs node := by
  cases node <;> simp_all [isCondensed, absorbs]

/-- What stands on the lines of a node that is not absorbed stands on the lines of every outline
with the node in it. The induction is on the outline around the node, inside out. -/
theorem carries_forestLines {piece : Piece} {part : List Piece} {seed : NodeId}
    (hkept : Kept tree unit piece) (hfree : ∀ outer, tree.absorbed? outer ≠ some seed)
    (hshows : Shows tree unit seed (piece :: part))
    {ids : List NodeId} {forest : Forest NodeId} (h : Unfolds tree ids forest) {depth : Nat}
    (hd : ∀ id ∈ ids, Descends tree (depth + 1) root id) {absorbing : Bool}
    (hfirst : absorbing → tree.firstText? ids ≠ some seed) (hseed : seed ∈ forest.preorder) :
    Carries (piece :: part) (forestLines tree unit depth absorbing forest) := by
  induction h generalizing depth absorbing with
  | nil => cases hseed
  | @cons id ids children siblings hc _ ihc ihs =>
    have hid : Descends tree (depth + 1) root id := hd id List.mem_cons_self
    rw [forestLines_cons]
    simp only [Forest.preorder_cons, List.mem_cons, List.mem_append] at hseed
    -- The node is the first of the siblings, is somewhere in it, or comes after it.
    rcases hseed with rfl | hseed | hseed
    · have hown : isAbsorbed absorbing (tree.node seed) = false := by
        cases hnode : tree.node seed with
        | preformatted data =>
          apply eq_false_of_ne_true
          intro habsorbing
          apply hfirst habsorbing
          rw [firstText?_cons_of_ne (by simp [hnode]), hnode]
          rfl
        | _ => rfl
      rw [hown, if_neg (by simp)]
      exact (hshows depth children hid hc).append_left _
    · have hcontent : Carries (piece :: part)
          (forestLines tree unit (depth + 1) (absorbs (tree.node id)) children) := by
        apply ihc (fun child hchild => hid.step hchild) _ hseed
        intro habsorbs
        have := hfree id
        rwa [absorbed?, if_pos habsorbs] at this
      apply Carries.append_left
      split
      · exact hcontent
      · apply hcontent.wrap
        intro hcondensed
        rw [absorbs_of_isCondensed hcondensed]
        exact hkept id depth children hid hcondensed hc
    · refine (ihs (fun id hid => hd id (List.mem_cons_of_mem _ hid)) ?_ hseed).append_right _
      intro hstays
      cases hnode : tree.node id with
      | empty =>
        rw [hnode] at hstays
        rw [← firstText?_cons_of_empty hnode]
        exact hfirst hstays
      | _ =>
        rw [hnode] at hstays
        cases hstays

/-- Pieces side by side are written side by side. -/
lemma Carries.exists_infix_line (sound : Sound tree) {part : List Piece}
    (h : Carries part (treeLines tree unit)) :
    ∃ line ∈ Layout.treeLines unit tree, spell tree unit part <:+: line := by
  obtain ⟨line, hline, start, rest, rfl⟩ := h
  refine ⟨spell tree unit (start ++ part ++ rest), ?_, ?_⟩
  · rw [← map_spell_treeLines sound]
    exact List.mem_map_of_mem hline
  · rw [spell_append, spell_append]
    exact List.infix_append _ _ _

/-- What stands on the lines of a node that is not absorbed is written on some line. -/
theorem exists_infix_line (sound : Sound tree) {piece : Piece} {part : List Piece} {seed : NodeId}
    (hkept : Kept tree unit piece) (hfree : ∀ outer, tree.absorbed? outer ≠ some seed)
    (hshows : Shows tree unit seed (piece :: part)) (hseed : seed ∈ (tree.below root).preorder) :
    ∃ line ∈ Layout.treeLines unit tree, spell tree unit (piece :: part) <:+: line :=
  (carries_forestLines hkept hfree hshows (sound.unfolds_below (.refl root))
    (fun _ hid => (Descends.refl root).step hid) (by simp) hseed).exists_infix_line sound

/-- Content of a condensed element that begins with a text of its own. -/
lemma exists_content_eq_cons (complete : Complete tree) {outer : NodeId} {children : Forest NodeId}
    (hc : Unfolds tree (tree.children outer) children) (unit : Text) (depth : Nat) :
    (∃ lines, forestLines tree unit depth true children = [own id 0] :: lines) ↔
      tree.behindText? (tree.children outer) = some id ∧ (tree.node id).preformatted?.isSome := by
  rw [← head?_flatten_eq_own_iff complete hc (complete.sound.root_notMem_children outer) unit depth]
  have hled : Led depth (forestLines tree unit depth true children) := led_forestLines true children
  cases hcontent : forestLines tree unit depth true children with
  | nil => simp
  | cons line lines =>
    rw [hcontent] at hled
    rcases hled line rfl with ⟨levels, rest, rfl, -⟩ | ⟨other, rfl⟩
    · simp
    · simp

/-- Text that no condensed element strips is kept. The margin is taken off a line that begins with
the text only where the text stands behind an absorbed one. -/
lemma kept_own (complete : Complete tree) (hnone : ∀ outer, ¬ tree.Strips unit outer id) :
    Kept tree unit (own id 0) := by
  intro outer depth children hd hcondensed hc line hline hhead
  rcases led_forestLines true children line hline with ⟨levels, rest, rfl, -⟩ | ⟨other, rfl⟩
  · cases hhead
  · obtain rfl : other = id := by simpa using hhead
    have hcontent := List.head?_eq_some_iff.1 hline
    obtain ⟨hbehind, -⟩ := (exists_content_eq_cons complete hc unit (depth + 1)).1 hcontent
    by_cases hunit : unit = []
    · -- Without a unit there is a margin to take off, but nothing in it.
      simp [cut, hunit]
    · rw [cut, if_neg]
      intro hafter
      obtain ⟨rest, hrest⟩ := Option.isSome_iff_exists.1 hafter
      rw [Text.after?_eq_some_iff, List.drop_zero] at hrest
      refine hnone outer ⟨hcondensed, hbehind, hunit, rest, ?_⟩
      rw [contentMargin, complete.sound.depth?_eq hd, hrest]
      rfl

/-- The opening line of an element is its mark with the text it absorbs. -/
lemma openingLine?_of_element {children : Forest NodeId} {element : Element}
    (hnode : tree.node id = .element element) (hc : Unfolds tree (tree.children id) children) :
    openingLine? tree id children = some
      (mark (.opened id .element element.tag) :: (tree.absorbed? id).toList.map (own · 0)) := by
  simp [openingLine?, opening?, openMark?, hnode, absorbs, absorbed?, hc.leading?_eq]

/-- Only preformatted text is absorbed. -/
lemma absorbed?_ne_some (h : (tree.node id).preformatted? = none) (outer : NodeId) :
    tree.absorbed? outer ≠ some id := by
  intro habsorbed
  unfold absorbed? at habsorbed
  split at habsorbed
  · have := isSome_preformatted?_of_firstText? habsorbed
    simp [h] at this
  · cases habsorbed

/-- Text that is neither absorbed nor stripped stands on a line of its own. -/
lemma exists_line_of_free (complete : Complete tree) {data : Text}
    (hnode : tree.node id = .preformatted data) (hfree : ∀ outer, tree.absorbed? outer ≠ some id)
    (hnone : ∀ outer, ¬ tree.Strips unit outer id) :
    ∃ line ∈ Layout.treeLines unit tree, data <:+: line := by
  have hshows : Shows tree unit id [own id 0] := by
    apply shows_openingLine
    intro children _
    simp [openingLine?, opening?, openMark?, hnode, Node.opening?, absorbs]
  have hline := exists_infix_line complete.sound (kept_own complete hnone) hfree hshows
    (complete.mem_preorder_below (by simp [hnode]) (by simp [hnode]))
  simpa [text, openingText, hnode, Node.opening?] using hline

/-- What stands right behind the mark of an element is written right behind its opening. -/
lemma exists_line_of_element (complete : Complete tree) {element : Element}
    (hnode : tree.node id = .element element) {part : List Piece}
    (hshows : Shows tree unit id (mark (.opened id .element element.tag) :: part)) :
    ∃ line ∈ Layout.treeLines unit tree,
      tree.openingText id ++ spell tree unit part <:+: line := by
  have hfree : ∀ outer, tree.absorbed? outer ≠ some id :=
    absorbed?_ne_some (by rw [hnode]; rfl)
  have hbelow : id ∈ (tree.below root).preorder :=
    complete.mem_preorder_below (by simp [hnode]) (by simp [hnode])
  exact exists_infix_line complete.sound (kept_mark _) hfree hshows hbelow

/-- Absorbed text stands whole behind the opening of its element. -/
lemma exists_line_of_absorbed (complete : Complete tree) {outer : NodeId}
    (h : tree.absorbed? outer = some id) (unit : Text) :
    ∃ line ∈ Layout.treeLines unit tree,
      tree.openingText outer ++ tree.openingText id <:+: line := by
  cases hnode : tree.node outer with
  | element element =>
    have hshows : Shows tree unit outer [mark (.opened outer .element element.tag), own id 0] := by
      apply shows_openingLine
      intro children hc
      rw [openingLine?_of_element hnode hc, h]
      rfl
    simpa [text] using exists_line_of_element complete hnode hshows
  | _ => simp [absorbed?, hnode, absorbs] at h

/-- The margin of the content is taken off a text that is stripped. -/
lemma cut_of_strips (sound : Sound tree) {outer : NodeId} (h : tree.Strips unit outer id)
    (hd : Descends tree (depth + 1) root outer) :
    cut tree unit (depth + 1) [own id 0] = [own id (tree.contentMargin unit outer).length] := by
  obtain ⟨rest, hrest⟩ := h.margin
  rw [contentMargin, sound.depth?_eq hd, Option.getD_some] at hrest ⊢
  have hafter : Text.after? (unit.repeated (depth + 1)) ((tree.openingText id).drop 0) =
      some rest := by
    rw [Text.after?_eq_some_iff, List.drop_zero, hrest]
  rw [cut, hafter, Option.isSome_some, if_pos rfl, Nat.zero_add]

/-- Stripped text stands behind the opening of the element and the text it has absorbed, without
what looks like a margin. -/
lemma exists_line_of_strips (complete : Complete tree) {outer : NodeId} {data : Text}
    (hnode : tree.node id = .preformatted data) (h : tree.Strips unit outer id) :
    ∃ absorbed, tree.absorbed? outer = some absorbed ∧
      ∃ line ∈ Layout.treeLines unit tree,
        tree.openingText outer ++ tree.openingText absorbed ++
          data.drop (tree.contentMargin unit outer).length <:+: line := by
  obtain ⟨⟨tag, attributes, condensed⟩, houter, hcondensed⟩ :
      ∃ element, tree.node outer = .element element ∧ element.condensed := by
    have := h.condensed
    cases houter : tree.node outer <;> simp_all [isCondensed]
  obtain rfl : condensed = true := hcondensed
  obtain ⟨absorbed, hfirst, -⟩ := Option.bind_eq_some_iff.1 h.behind
  have habsorbed : tree.absorbed? outer = some absorbed := by
    rw [← hfirst, absorbed?, houter]
    rfl
  have hshows : Shows tree unit outer [mark (.opened outer .element tag), own absorbed 0,
      own id (tree.contentMargin unit outer).length] := by
    intro depth children hd hc
    obtain ⟨lines, hcontent⟩ := (exists_content_eq_cons complete hc unit (depth + 1)).2
      ⟨h.behind, by rw [hnode]; rfl⟩
    rw [nodeLines, openingLine?_of_element houter hc, habsorbed, wrap.eq_def, houter, absorbs,
      hcontent]
    apply Carries.appendToLast
    refine ⟨_, List.mem_cons_self, ?_⟩
    rw [cut_of_strips complete.sound h hd]
    exact ⟨before tree depth outer, [], by simp⟩
  refine ⟨absorbed, habsorbed, ?_⟩
  simpa [text, openingText, hnode, Node.opening?] using
    exists_line_of_element complete houter hshows

end Piece

/-- In every template, a preformatted text stands whole on some line, its leading white space
included, unless a condensed element strips it. A text that is stripped stands behind the opening of
the element and the text it has absorbed, without what looks like the margin of the content. -/
theorem verbatim_of_ofSource {source : Text} {tree : Tree} (h : Tree.ofSource source = .ok tree)
    (unit : Text) {id : NodeId} {data : Text} (hnode : tree.node id = .preformatted data) :
    ((∀ outer, ¬ tree.Strips unit outer id) → ∃ line ∈ treeLines unit tree, data <:+: line) ∧
      ∀ outer, tree.Strips unit outer id →
        ∃ absorbed, tree.absorbed? outer = some absorbed ∧ ∃ line ∈ treeLines unit tree,
          tree.openingText outer ++ tree.openingText absorbed ++
            data.drop (tree.contentMargin unit outer).length <:+: line := by
  obtain ⟨lines, -, hlines⟩ := Builder.exists_ofLines_of_ofSource h
  have complete := complete_of_ofLines hlines
  refine ⟨fun hnone => ?_, fun outer hstrips => Piece.exists_line_of_strips complete hnode hstrips⟩
  by_cases hfree : ∀ outer, tree.absorbed? outer ≠ some id
  · exact Piece.exists_line_of_free complete hnode hfree hnone
  · obtain ⟨outer, houter⟩ : ∃ outer, tree.absorbed? outer = some id := by simpa using hfree
    obtain ⟨line, hline, hpart⟩ := Piece.exists_line_of_absorbed complete houter unit
    have htext : tree.openingText id = data := by
      rw [openingText, hnode]
      rfl
    rw [htext] at hpart
    exact ⟨line, hline, (List.suffix_append _ _).isInfix.trans hpart⟩

/-- A text with two leading spaces, behind an absorbed one: whole where a tab is the unit, and
stripped where two spaces are. -/
theorem verbatim_behind_absorbed_text :
    ∃ tree, Tree.ofSource "%-p\n  |a\n  |  b".toList = .ok tree ∧
      (∃ line ∈ treeLines ['\t'] tree, [' ', ' ', 'b'] <:+: line) ∧
      tree.Strips [' ', ' '] 1 3 ∧ ∃ line ∈ treeLines [' ', ' '] tree, ['a', 'b'] <:+: line := by
  have hread : (Tree.ofSource "%-p\n  |a\n  |  b".toList).map (fun tree =>
      (tree.node 3, decide (tree.Strips [' ', ' '] 1 3), tree.absorbed? 1, tree.openingText 2,
        (tree.contentMargin [' ', ' '] 1).length)) =
      .ok (.preformatted [' ', ' ', 'b'], true, some 2, ['a'], 2) := by
    decide +kernel
  cases h : Tree.ofSource "%-p\n  |a\n  |  b".toList with
  | error diagnostic =>
    rw [h] at hread
    cases hread
  | ok tree =>
    rw [h] at hread
    simp only [Except.map, Except.ok.injEq, Prod.mk.injEq, decide_eq_true_eq] at hread
    obtain ⟨hnode, hstrips, habsorbed, hopening, hlength⟩ := hread
    refine ⟨tree, rfl, (verbatim_of_ofSource h ['\t'] hnode).1 ?_, hstrips, ?_⟩
    · rintro outer ⟨-, -, -, rest, hrest⟩
      simp [contentMargin, openingText, hnode, Node.opening?] at hrest
    · obtain ⟨absorbed, habsorbed', line, hline, hpart⟩ :=
        (verbatim_of_ofSource h [' ', ' '] hnode).2 1 hstrips
      obtain rfl : 2 = absorbed := Option.some.inj (habsorbed.symm.trans habsorbed')
      rw [hopening, hlength, List.append_assoc] at hpart
      exact ⟨line, hline, (List.suffix_append _ _).isInfix.trans hpart⟩

/-- Two spaces that belong to a text are taken for the margin of the content. -/
theorem condensed_element_strips_text :
    ∃ tree, Tree.ofSource "%-p\n  |a\n  |  b".toList = .ok tree ∧
      tree.node 3 = .preformatted "  b".toList ∧
      treeLines "  ".toList tree = ["<p>ab</p>".toList] ∧
      ¬ ∃ line ∈ treeLines "  ".toList tree, "  b".toList <:+: line := by
  have hlines : (Tree.ofSource "%-p\n  |a\n  |  b".toList).map
      (fun tree => (tree.node 3, treeLines "  ".toList tree)) =
      .ok (.preformatted "  b".toList, ["<p>ab</p>".toList]) := by
    decide +kernel
  cases h : Tree.ofSource "%-p\n  |a\n  |  b".toList with
  | error diagnostic =>
    rw [h] at hlines
    cases hlines
  | ok tree =>
    rw [h] at hlines
    obtain ⟨hnode, hline⟩ := Prod.mk.inj (Except.ok.inj hlines)
    refine ⟨tree, rfl, hnode, hline, ?_⟩
    rw [hline]
    decide +kernel

end OutlineMarkup

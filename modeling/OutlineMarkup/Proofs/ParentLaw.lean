import Mathlib.Data.List.Find
import Mathlib.Data.List.GetD
import OutlineMarkup.Proofs.Building
import OutlineMarkup.Proofs.OpenLines

/-! Where the node of a line hangs. The parent is the node of the nearest earlier line that is
narrower, or the root; the nodes of lines follow each other in the order of the lines, after what
is written inline; and the depth counts the lines around. -/
namespace OutlineMarkup

open OutlineMarkup.Tree

/-- Whether there is a line of a number, and it is not blank. -/
def isFilledAt (lines : List Text) (number : Nat) : Bool :=
  lines[number]?.any fun line => !line.trim.isEmpty

def widthAt (lines : List Text) (number : Nat) : Nat := (lines.getD number []).margin.length

/-- The nearest earlier line that is not blank and is narrower than the line of a number. -/
def lineAround? (lines : List Text) (number : Nat) : Option Nat :=
  (List.range number).reverse.find? fun earlier =>
    isFilledAt lines earlier && widthAt lines earlier < widthAt lines number

theorem lt_of_lineAround? {lines : List Text} {number earlier : Nat}
    (h : lineAround? lines number = some earlier) : earlier < number := by
  have := List.mem_of_find?_eq_some h
  simpa using this

/-- The number of lines around a line: the narrower one, the one narrower than that, and so on. -/
def linesAbove (lines : List Text) (number : Nat) : Nat :=
  match h : lineAround? lines number with
  | none => 0
  | some earlier => linesAbove lines earlier + 1
termination_by number
decreasing_by exact lt_of_lineAround? h

lemma linesAbove_of_none {lines : List Text} {number : Nat}
    (h : lineAround? lines number = none) : linesAbove lines number = 0 := by
  rw [linesAbove]
  split <;> simp_all

lemma linesAbove_of_some {lines : List Text} {number earlier : Nat}
    (h : lineAround? lines number = some earlier) :
    linesAbove lines number = linesAbove lines earlier + 1 := by
  rw [linesAbove]
  split <;> simp_all

section Concat

variable {lines : List Text} {number : Nat}

lemma isFilledAt_concat (h : number < lines.length) (line : Text) :
    isFilledAt (lines ++ [line]) number = isFilledAt lines number := by
  rw [isFilledAt, List.getElem?_append_left h, isFilledAt]

lemma isFilledAt_concat_self (lines : List Text) (line : Text) :
    isFilledAt (lines ++ [line]) lines.length = !line.trim.isEmpty := by
  simp [isFilledAt]

lemma widthAt_concat (h : number < lines.length) (line : Text) :
    widthAt (lines ++ [line]) number = widthAt lines number := by
  rw [widthAt, List.getD_append _ _ _ _ h, widthAt]

lemma widthAt_concat_self (lines : List Text) (line : Text) :
    widthAt (lines ++ [line]) lines.length = line.margin.length := by
  simp [widthAt]

lemma lineAround?_concat (h : number < lines.length) (line : Text) :
    lineAround? (lines ++ [line]) number = lineAround? lines number := by
  apply List.find?_congr
  intro earlier he
  have hlt : earlier < number := by simpa using he
  rw [isFilledAt_concat (by omega), widthAt_concat (by omega), widthAt_concat h]

lemma lineAround?_concat_self (lines : List Text) (line : Text) :
    lineAround? (lines ++ [line]) lines.length =
      (List.range lines.length).reverse.find? fun earlier =>
        isFilledAt lines earlier && widthAt lines earlier < line.margin.length := by
  apply List.find?_congr
  intro earlier he
  have hlt : earlier < lines.length := by simpa using he
  rw [isFilledAt_concat hlt, widthAt_concat hlt, widthAt_concat_self]

end Concat

namespace Builder

/-- The tree right after the line of a number was planted, and the node the line was read as. -/
def plantedAt? (lines : List Text) (number : Nat) : Option (Tree × NodeId) :=
  match addLines {} 0 (lines.take number), lines[number]? with
  | .ok builder, some line =>
    match Line.plant builder.tree line.trim with
    | (planted, .ok node) => some (planted, node)
    | (_, .error _) => none
  | _, _ => none

/-- The node a line was read as, with nothing that is written inline after it. -/
def nodeAt? (lines : List Text) (number : Nat) : Option NodeId :=
  (plantedAt? lines number).map Prod.snd

def lineNodes (lines : List Text) : List NodeId :=
  (List.range lines.length).filterMap (nodeAt? lines)

/-- How the nodes of lines hang in a tree. Each line was planted as a block of nodes, its own node
first; the rest of the block is what is written inline. -/
structure Nested (lines : List Text) (tree : Tree) : Prop where
  planted : ∀ number < lines.length, ∃ planted node, plantedAt? lines number = some (planted, node)
  block : ∀ number planted node, plantedAt? lines number = some (planted, node) →
    root < node ∧ node < planted.size ∧ planted.size ≤ tree.size
  covered : ∀ id < tree.size, id = root ∨ ∃ number planted node,
    plantedAt? lines number = some (planted, node) ∧ node ≤ id ∧ id < planted.size
  parent?_eq : ∀ number node, isFilledAt lines number → nodeAt? lines number = some node →
    tree.parent? node = match lineAround? lines number with
      | none => some root
      | some outer => nodeAt? lines outer
  inline : ∀ number planted node, plantedAt? lines number = some (planted, node) →
    ∀ id, node ≤ id → id < planted.size → ∀ child ∈ planted.children id,
      node < child ∧ child < planted.size ∧ child ∉ lineNodes lines
  children_root : tree.children root = (lineNodes lines).filter (tree.parent? · = some root)
  children_eq : ∀ number planted node, plantedAt? lines number = some (planted, node) →
    ∀ id, node ≤ id → id < planted.size →
      tree.children id = planted.children id ++ (lineNodes lines).filter (tree.parent? · = some id)

lemma Nested.lt_size_of_mem_lineNodes {lines : List Text} {tree : Tree}
    (h : Nested lines tree) {node : NodeId} (hnode : node ∈ lineNodes lines) :
    node < tree.size := by
  obtain ⟨number, -, hat⟩ := List.mem_filterMap.1 hnode
  obtain ⟨⟨planted, top⟩, hplanted, rfl⟩ := Option.map_eq_some_iff.1 hat
  obtain ⟨-, hlt, hle⟩ := h.block number planted top hplanted
  exact Nat.lt_of_lt_of_le hlt hle

/-- The lines that are not blank, latest first, with their widths and nodes. -/
def filledLines (lines : List Text) : List (Frame NodeId) :=
  ((List.range lines.length).reverse.filter (isFilledAt lines)).map fun number =>
    ⟨widthAt lines number, (nodeAt? lines number).getD root⟩

section Concat

variable {lines : List Text} {line : Text} {number : Nat} {builder : Builder} {planted : Tree}
  {parent : NodeId}

lemma plantedAt?_concat (h : number < lines.length) (line : Text) :
    plantedAt? (lines ++ [line]) number = plantedAt? lines number := by
  rw [plantedAt?, List.take_append_of_le_length (Nat.le_of_lt h), List.getElem?_append_left h,
    plantedAt?]

lemma nodeAt?_concat (h : number < lines.length) (line : Text) :
    nodeAt? (lines ++ [line]) number = nodeAt? lines number := by
  rw [nodeAt?, plantedAt?_concat h, nodeAt?]

lemma plantedAt?_concat_self (run : addLines {} 0 lines = .ok builder)
    (h : Sprouts builder line planted parent) :
    plantedAt? (lines ++ [line]) lines.length = some (planted, builder.tree.size) := by
  rw [plantedAt?, List.take_left, run, List.getElem?_concat_length]
  simp only [h.plant_eq]

lemma lt_length_of_plantedAt? {tree : Tree} {node : NodeId}
    (h : plantedAt? lines number = some (tree, node)) : number < lines.length := by
  by_contra hn
  rw [plantedAt?, List.getElem?_eq_none (by omega)] at h
  split at h <;> simp_all

lemma plantedAt?_concat_cases (run : addLines {} 0 lines = .ok builder)
    (h : Sprouts builder line planted parent) {tree : Tree} {node : NodeId}
    (hat : plantedAt? (lines ++ [line]) number = some (tree, node)) :
    plantedAt? lines number = some (tree, node) ∨
      number = lines.length ∧ tree = planted ∧ node = builder.tree.size := by
  have hlt := lt_length_of_plantedAt? hat
  rw [List.length_append, List.length_singleton] at hlt
  rcases Nat.lt_or_eq_of_le (Nat.le_of_lt_succ hlt) with hn | rfl
  · rw [plantedAt?_concat hn] at hat
    exact .inl hat
  · rw [plantedAt?_concat_self run h] at hat
    cases hat
    exact .inr ⟨rfl, rfl, rfl⟩

lemma lineNodes_concat (run : addLines {} 0 lines = .ok builder)
    (h : Sprouts builder line planted parent) :
    lineNodes (lines ++ [line]) = lineNodes lines ++ [builder.tree.size] := by
  rw [lineNodes, List.length_append, List.length_singleton, List.range_succ,
    List.filterMap_append]
  congr 1
  · apply List.filterMap_congr
    intro number hn
    exact nodeAt?_concat (List.mem_range.1 hn) line
  · simp [nodeAt?, plantedAt?_concat_self run h]

/-- The nodes of lines that hang at a node, after one more line. -/
lemma filter_lineNodes_concat (nested : Nested lines builder.tree)
    (run : addLines {} 0 lines = .ok builder) (h : Sprouts builder line planted parent)
    (id : NodeId) :
    (lineNodes (lines ++ [line])).filter
        ((planted.link parent builder.tree.size).parent? · = some id) =
      (lineNodes lines).filter (builder.tree.parent? · = some id) ++
        if parent = id then [builder.tree.size] else [] := by
  rw [lineNodes_concat run h, List.filter_append]
  congr 1
  · apply List.filter_congr
    intro node hnode
    rw [h.parent?_link_of_lt (nested.lt_size_of_mem_lineNodes hnode)]
  · simp [List.filter_singleton, h.parent?_link_top]

lemma filledLines_concat (run : addLines {} 0 lines = .ok builder)
    (h : Sprouts builder line planted parent) :
    filledLines (lines ++ [line]) =
      (if line.trim.isEmpty then [] else [⟨line.margin.length, builder.tree.size⟩]) ++
        filledLines lines := by
  have hold : ((List.range lines.length).reverse.filter (isFilledAt (lines ++ [line]))) =
      (List.range lines.length).reverse.filter (isFilledAt lines) := by
    apply List.filter_congr
    intro number hn
    exact isFilledAt_concat (by simpa using hn) line
  have hmap : ∀ number ∈ (List.range lines.length).reverse.filter (isFilledAt lines),
      (⟨widthAt (lines ++ [line]) number, (nodeAt? (lines ++ [line]) number).getD root⟩ :
        Frame NodeId) = ⟨widthAt lines number, (nodeAt? lines number).getD root⟩ := by
    intro number hn
    have hlt : number < lines.length := by simpa using (List.mem_filter.1 hn).1
    rw [widthAt_concat hlt, nodeAt?_concat hlt]
  rw [filledLines, List.length_append, List.length_singleton, List.range_succ,
    List.reverse_append, List.reverse_singleton, List.filter_append, hold, List.map_append,
    List.map_congr_left hmap, filledLines]
  congr 1
  cases hblank : line.trim.isEmpty <;>
    simp [isFilledAt_concat_self, hblank, widthAt_concat_self, nodeAt?,
      plantedAt?_concat_self run h]

/-- The latest line narrower than a new one, among the lines that are not blank. -/
lemma find?_filledLines (lines : List Text) (line : Text) :
    (filledLines lines).find? (·.width < line.margin.length) =
      (lineAround? (lines ++ [line]) lines.length).map fun number =>
        ⟨widthAt lines number, (nodeAt? lines number).getD root⟩ := by
  rw [filledLines, List.find?_map, List.find?_filter, lineAround?_concat_self]
  congr 2
  funext number
  simp

/-- The innermost line around a new line is the nearest earlier line that is narrower. -/
lemma innermost_of_enclosing? (nested : Nested lines builder.tree) {around : List (Frame NodeId)}
    (h : Frame.enclosing? line.margin.length (Frame.openAfter (filledLines lines)) = some around) :
    some (innermost around) = match lineAround? (lines ++ [line]) lines.length with
      | none => some root
      | some outer => nodeAt? (lines ++ [line]) outer := by
  rw [innermost, Frame.head?_of_enclosing? h, find?_filledLines]
  cases houter : lineAround? (lines ++ [line]) lines.length with
  | none => rfl
  | some outer =>
    have hlt := lt_of_lineAround? houter
    obtain ⟨planted, node, hat⟩ := nested.planted outer hlt
    have hnode : nodeAt? lines outer = some node := by rw [nodeAt?, hat]; rfl
    simp [nodeAt?_concat hlt, hnode]

/-- One more line keeps all lines hanging as they should, when its own node does. -/
theorem Nested.concat (nested : Nested lines builder.tree) (ready : Ready builder)
    (run : addLines {} 0 lines = .ok builder) (h : Sprouts builder line planted parent)
    (hparent : ¬ line.trim.isEmpty →
      some parent = match lineAround? (lines ++ [line]) lines.length with
        | none => some root
        | some outer => nodeAt? (lines ++ [line]) outer) :
    Nested (lines ++ [line]) (planted.link parent builder.tree.size) := by
  have hself := plantedAt?_concat_self run h
  have hsize := h.size_lt
  obtain ⟨node, children, -, hplanted⟩ := h.sprouted
  constructor
  case planted =>
    intro number hn
    rw [List.length_append, List.length_singleton] at hn
    rcases Nat.lt_or_eq_of_le (Nat.le_of_lt_succ hn) with hn | rfl
    · rw [plantedAt?_concat hn]
      exact nested.planted number hn
    · exact ⟨planted, builder.tree.size, hself⟩
  case block =>
    intro number tree top hat
    rw [size_link]
    rcases plantedAt?_concat_cases run h hat with hat | ⟨-, rfl, rfl⟩
    · obtain ⟨hroot, hlt, hle⟩ := nested.block number tree top hat
      exact ⟨hroot, hlt, Nat.le_trans hle (Nat.le_of_lt hsize)⟩
    · exact ⟨ready.grown.sound.root_lt, hsize, Nat.le_refl _⟩
  case covered =>
    intro id hid
    rw [size_link] at hid
    rcases Nat.lt_or_ge id builder.tree.size with hlt | hge
    · rcases nested.covered id hlt with rfl | ⟨number, tree, top, hat, hle⟩
      · exact .inl rfl
      · refine .inr ⟨number, tree, top, ?_, hle⟩
        rwa [plantedAt?_concat (lt_length_of_plantedAt? hat)]
    · exact .inr ⟨lines.length, planted, builder.tree.size, hself, hge, hid⟩
  case parent?_eq =>
    intro number top hfilled hnode
    obtain ⟨⟨tree, _⟩, hat, rfl⟩ := Option.map_eq_some_iff.1 hnode
    rcases plantedAt?_concat_cases run h hat with hat | ⟨rfl, rfl, htop⟩
    · have hlt := lt_length_of_plantedAt? hat
      obtain ⟨-, hlow, hle⟩ := nested.block number tree _ hat
      rw [h.parent?_link_of_lt (Nat.lt_of_lt_of_le hlow hle), lineAround?_concat hlt]
      rw [isFilledAt_concat hlt] at hfilled
      rw [nodeAt?_concat hlt] at hnode
      rw [nested.parent?_eq number _ hfilled hnode]
      split
      · rfl
      · next houter => rw [nodeAt?_concat (Nat.lt_trans (lt_of_lineAround? houter) hlt)]
    · dsimp only at htop ⊢
      rw [htop, h.parent?_link_top]
      rw [isFilledAt_concat_self] at hfilled
      exact hparent (by simpa using hfilled)
  case inline =>
    intro number tree top hat id hle hlt child hchild
    rw [lineNodes_concat run h, List.mem_append, List.mem_singleton, not_or]
    rcases plantedAt?_concat_cases run h hat with hat | ⟨-, rfl, rfl⟩
    · obtain ⟨hlow, hhigh, hnot⟩ := nested.inline number tree top hat id hle hlt child hchild
      obtain ⟨-, -, hsize'⟩ := nested.block number tree top hat
      exact ⟨hlow, hhigh, hnot, Nat.ne_of_lt (Nat.lt_of_lt_of_le hhigh hsize')⟩
    · obtain ⟨hlow, hhigh⟩ := hplanted.mem_children hle hlt hchild
      refine ⟨hlow, hhigh, fun hmem => ?_, Nat.ne_of_gt hlow⟩
      exact Nat.lt_irrefl _ (Nat.lt_trans hlow (nested.lt_size_of_mem_lineNodes hmem))
  case children_root =>
    rw [h.children_link_of_lt ready.grown.sound.root_lt, nested.children_root,
      filter_lineNodes_concat nested run h]
  case children_eq =>
    intro number tree top hat id hle hlt
    rw [filter_lineNodes_concat nested run h]
    rcases plantedAt?_concat_cases run h hat with hat | ⟨-, rfl, rfl⟩
    · obtain ⟨-, -, hsize'⟩ := nested.block number tree top hat
      rw [h.children_link_of_lt (Nat.lt_of_lt_of_le hlt hsize'),
        nested.children_eq number tree top hat id hle hlt, List.append_assoc]
    · -- nothing hangs at the new nodes yet but what is written inline
      have hold : (lineNodes lines).filter (builder.tree.parent? · = some id) = [] := by
        rw [List.filter_eq_nil_iff]
        intro top _ htop
        have hmem := ready.grown.sound.mem_children_iff.2 (of_decide_eq_true htop)
        exact Nat.not_lt_of_le hle (lt_size_of_mem_children hmem)
      rw [h.children_link_of_le hle, hold,
        if_neg (Nat.ne_of_lt (Nat.lt_of_lt_of_le h.parent_lt hle)), List.append_nil,
        List.append_nil]

end Concat

lemma nested_nil : Nested [] {} where
  planted _ hn := by simp at hn
  block _ _ _ hat := by simpa using lt_length_of_plantedAt? hat
  covered id hid := .inl (Nat.lt_one_iff.1 hid)
  parent?_eq _ _ hfilled := by simp [isFilledAt] at hfilled
  inline _ _ _ hat := by simpa using lt_length_of_plantedAt? hat
  children_root := rfl
  children_eq _ _ _ hat := by simpa using lt_length_of_plantedAt? hat

/-- After every run the open lines are those that no later line is as narrow as, and every line
hangs at the innermost line around it. -/
theorem nested_of_addLines {lines : List Text} {builder : Builder}
    (run : addLines {} 0 lines = .ok builder) :
    Ready builder ∧ builder.frames = Frame.openAfter (filledLines lines) ∧
      Nested lines builder.tree := by
  apply run_induction ?_ ?_ run
  · exact ⟨rfl, nested_nil⟩
  · rintro lines line builder builder' run ready ⟨hframes, nested⟩ adds
    cases adds with
    | blank hline h =>
      refine ⟨?_, nested.concat ready run h fun hn => absurd hline hn⟩
      rw [filledLines_concat run h, if_pos hline, List.nil_append]
      exact hframes
    | filled hline _ haround h =>
      rw [hframes] at haround
      refine ⟨?_, nested.concat ready run h fun _ => innermost_of_enclosing? nested haround⟩
      rw [filledLines_concat run h, if_neg hline, List.singleton_append,
        Frame.openAfter_cons_of_enclosing? _ haround]
      rfl

/-- A line's node is as deep below the root as there are lines around it, itself included. -/
lemma Nested.descends {lines : List Text} {tree : Tree} (nested : Nested lines tree)
    (sound : Sound tree) (number : Nat) {node : NodeId} (hfilled : isFilledAt lines number)
    (hnode : nodeAt? lines number = some node) :
    Descends tree (linesAbove lines number + 1) root node := by
  induction number using Nat.strong_induction_on generalizing node with
  | _ number ih =>
    have hparent := nested.parent?_eq number node hfilled hnode
    cases houter : lineAround? lines number with
    | none =>
      rw [houter] at hparent
      rw [linesAbove_of_none houter]
      exact (Descends.refl root).step (sound.mem_children_iff.2 hparent)
    | some outer =>
      rw [houter] at hparent
      have hlt := lt_of_lineAround? houter
      have hfilled' : isFilledAt lines outer := by
        have := List.find?_some houter
        simp only [Bool.and_eq_true] at this
        exact this.1
      obtain ⟨⟨planted, _⟩, hat, -⟩ := Option.map_eq_some_iff.1 hnode
      obtain ⟨planted', top, hat'⟩ :=
        nested.planted outer (Nat.lt_trans hlt (lt_length_of_plantedAt? hat))
      have htop : nodeAt? lines outer = some top := by rw [nodeAt?, hat']; rfl
      simp only [htop] at hparent
      rw [linesAbove_of_some houter]
      exact (ih outer hlt hfilled' htop).step (sound.mem_children_iff.2 hparent)

/-- Every template's lines hang at the nearest earlier narrower line, in order, after what is
written inline there, and as deep as there are lines around. -/
theorem nested_of_ofLines {lines : List Text} {tree : Tree} (h : Tree.ofLines lines = .ok tree) :
    Nested lines tree ∧ ∀ number node, isFilledAt lines number →
      nodeAt? lines number = some node → tree.depth? node = some (linesAbove lines number) := by
  unfold Tree.ofLines at h
  cases hrun : addLines {} 0 lines with
  | error diagnostic => simp [hrun, Except.map] at h
  | ok builder =>
    rw [hrun] at h
    cases h
    obtain ⟨ready, -, nested⟩ := nested_of_addLines hrun
    refine ⟨nested, fun number node hfilled hnode => ?_⟩
    exact ready.grown.sound.depth?_eq (nested.descends ready.grown.sound number hfilled hnode)

/-- Two levels are left at once, after a blank line and a line with another one inline. -/
theorem nested_after_dedent :
    ∃ tree, Tree.ofLines (["%ul: %li", "  %a", "", "      x", "  y", "z"].map String.toList) =
        .ok tree ∧
      Nested (["%ul: %li", "  %a", "", "      x", "  y", "z"].map String.toList) tree ∧
      tree.parent? 6 = some 1 ∧ tree.depth? 5 = some 2 := by
  cases h : Tree.ofLines (["%ul: %li", "  %a", "", "      x", "  y", "z"].map String.toList) with
  | error diagnostic =>
    have hok : (Tree.ofLines
        (["%ul: %li", "  %a", "", "      x", "  y", "z"].map String.toList)).toBool := by
      decide +kernel
    rw [h] at hok
    cases hok
  | ok tree =>
    obtain ⟨nested, hdepth⟩ := nested_of_ofLines h
    refine ⟨tree, rfl, nested, ?_, ?_⟩
    · rw [nested.parent?_eq 4 6 (by decide +kernel) (by decide +kernel)]
      decide +kernel
    · rw [hdepth 3 5 (by decide +kernel) (by decide +kernel)]
      decide +kernel

end Builder
end OutlineMarkup

import Mathlib.Data.List.Induction
import OutlineMarkup.Build
import OutlineMarkup.Proofs.Planting

/-! One step of building, and runs of steps. A line is added by planting its sprout and linking the
sprout's top to an open node, or to the root; the only faults are those the line shows by itself,
those of its margin, and a parent of a kind that has no children. -/
namespace OutlineMarkup

open OutlineMarkup.Tree

lemma Tree.Grown.node_root {tree : Tree} (h : Grown tree) : tree.node root = .root := by
  induction h with
  | start => rfl
  | create node grown ih =>
    rw [node_create, if_neg (Nat.ne_of_lt grown.sound.root_lt), ih]
  | attach _ attached ih =>
    obtain ⟨-, -, rfl⟩ := attach_eq_ok_iff.1 attached
    rw [node_link, ih]

namespace Builder

/-- The tree of a builder was grown, and its open lines stand for nodes of it. -/
structure Ready (builder : Builder) : Prop where
  grown : Grown builder.tree
  item_lt : ∀ frame ∈ builder.frames, frame.item < builder.tree.size

lemma ready_start : Ready {} := ⟨.start, by simp⟩

lemma innermost_eq_root_or_mem (frames : List (Frame NodeId)) :
    innermost frames = root ∨ ∃ frame ∈ frames, innermost frames = frame.item := by
  cases frames with
  | nil => exact .inl rfl
  | cons frame frames => exact .inr ⟨frame, by simp, rfl⟩

namespace Ready

variable {builder : Builder}

lemma innermost_lt (h : Ready builder) {frames : List (Frame NodeId)}
    (hf : frames ⊆ builder.frames) : innermost frames < builder.tree.size := by
  rcases innermost_eq_root_or_mem frames with heq | ⟨frame, hmem, heq⟩
  · rw [heq]
    exact h.grown.sound.root_lt
  · rw [heq]
    exact h.item_lt frame (hf hmem)

lemma holder_lt (h : Ready builder) : holder builder.tree builder.frames < builder.tree.size :=
  h.innermost_lt List.filter_sublist.subset

/-- There is always a node that can hold a blank line. -/
lemma allowsChildren_holder (h : Ready builder) :
    (builder.tree.node (holder builder.tree builder.frames)).allowsChildren := by
  rcases innermost_eq_root_or_mem (builder.frames.filter fun frame =>
    (builder.tree.node frame.item).allowsChildren) with heq | ⟨frame, hmem, heq⟩
  · rw [holder, heq, h.grown.node_root]
    rfl
  · rw [holder, heq]
    exact (List.mem_filter.1 hmem).2

lemma holder_planted (h : Ready builder) {planted : Tree} {node : Node} {children : Forest Node}
    (hp : Line.Planted builder.tree planted node children) :
    holder planted builder.frames = holder builder.tree builder.frames := by
  unfold holder
  congr 1
  apply List.filter_congr
  intro frame hf
  rw [hp.keeps.node_eq (h.item_lt frame hf)]

/-- A sprout can be linked to every earlier node of a kind that has children. -/
lemma attach_planted (h : Ready builder) {planted : Tree} {node : Node} {children : Forest Node}
    (hp : Line.Planted builder.tree planted node children) {parent : NodeId}
    (hlt : parent < builder.tree.size) :
    planted.attach parent builder.tree.size =
      if (builder.tree.node parent).allowsChildren then .ok (planted.link parent builder.tree.size)
      else .error (.childrenNotAllowed (builder.tree.node parent).kind) := by
  have hfree : planted.isFree parent builder.tree.size :=
    isFree_iff.2 ⟨hp.size_lt, hp.place?_eq, Nat.ne_of_gt h.grown.sound.root_lt,
      Nat.ne_of_gt hlt⟩
  rw [attach, hp.keeps.node_eq hlt, hfree]
  cases (builder.tree.node parent).allowsChildren <;> simp

end Ready

/-- The builder after a sprout was planted and its top linked to a parent. -/
def linked (builder : Builder) (planted : Tree) (parent : NodeId) (frames : List (Frame NodeId)) :
    Builder :=
  { tree := planted.link parent builder.tree.size, frames }

/-- A line that stands for no sprout is at fault by itself. -/
theorem addLine_of_sprout_error (builder : Builder) (number : Nat) {line : Text} {fault : Fault}
    (h : (Line.read line.trim).sprout = .error fault) :
    builder.addLine number line = .error (.ofFault number fault) := by
  have hspec := (Line.read line.trim).plantSpec builder.tree
  rw [h] at hspec
  obtain ⟨planted, hplant⟩ := hspec
  rw [addLine, Line.plant, hplant]

/-- What adding a line does once its sprout is planted. -/
theorem Ready.addLine_of_sprout {builder : Builder} (ready : Ready builder) (number : Nat)
    {line : Text} {node : Node} {children : Forest Node}
    (h : (Line.read line.trim).sprout = .ok (node, children)) :
    ∃ planted, Line.plant builder.tree line.trim = (planted, .ok builder.tree.size) ∧
      Line.Planted builder.tree planted node children ∧ Grown planted ∧
      builder.addLine number line =
        if line.trim.isEmpty then
          .ok (builder.linked planted (holder builder.tree builder.frames) builder.frames)
        else
          match indentation line with
          | .error fault => .error (.ofFault number fault)
          | .ok width =>
            match Frame.enclosing? width builder.frames with
            | none => .error (.unmatchedUnindent number)
            | some around =>
              if (builder.tree.node (innermost around)).allowsChildren then
                .ok (builder.linked planted (innermost around)
                  (⟨width, builder.tree.size⟩ :: around))
              else
                .error (.ofFault number
                  (.childrenNotAllowed (builder.tree.node (innermost around)).kind)) := by
  have hspec := (Line.read line.trim).plantSpec builder.tree
  have hgrown := (Line.read line.trim).grown_plant ready.grown
  rw [h] at hspec
  obtain ⟨planted, hplant, hplanted⟩ := hspec
  rw [hplant] at hgrown
  refine ⟨planted, hplant, hplanted, hgrown, ?_⟩
  rw [addLine, Line.plant, hplant]
  dsimp only
  by_cases hblank : line.trim.isEmpty
  · rw [if_pos hblank, if_pos hblank, addBlank, ready.holder_planted hplanted,
      ready.attach_planted hplanted ready.holder_lt, if_pos ready.allowsChildren_holder]
    rfl
  · rw [if_neg hblank, if_neg hblank]
    cases indentation line with
    | error fault => rfl
    | ok width =>
      dsimp only
      cases hframes : Frame.enclosing? width builder.frames with
      | none => rfl
      | some around =>
        dsimp only
        have hlt := ready.innermost_lt (Frame.suffix_of_enclosing? hframes).subset
        rw [addNode, ready.attach_planted hplanted hlt]
        cases (builder.tree.node (innermost around)).allowsChildren <;> rfl

/-- A line's sprout is planted, and its top can be linked to a parent. -/
structure Sprouts (builder : Builder) (line : Text) (planted : Tree) (parent : NodeId) : Prop where
  plant_eq : Line.plant builder.tree line.trim = (planted, .ok builder.tree.size)
  sprouted : ∃ node children, (Line.read line.trim).sprout = .ok (node, children) ∧
    Line.Planted builder.tree planted node children
  grown : Grown planted
  parent_lt : parent < builder.tree.size
  allowsChildren : (builder.tree.node parent).allowsChildren

/-- What adding a line can do: a blank line goes to its holder and opens nothing, any other line
goes to the innermost line around it and is opened. -/
inductive Adds (builder : Builder) (line : Text) : Builder → Prop
  | blank {planted : Tree} (hline : line.trim.isEmpty)
      (h : Sprouts builder line planted (holder builder.tree builder.frames)) :
      Adds builder line
        (builder.linked planted (holder builder.tree builder.frames) builder.frames)
  | filled {planted : Tree} {around : List (Frame NodeId)} (hline : ¬ line.trim.isEmpty)
      (hmargin : indentation line = .ok line.margin.length)
      (haround : Frame.enclosing? line.margin.length builder.frames = some around)
      (h : Sprouts builder line planted (innermost around)) :
      Adds builder line
        (builder.linked planted (innermost around)
          (⟨line.margin.length, builder.tree.size⟩ :: around))

lemma eq_of_indentation {line : Text} {width : Nat} (h : indentation line = .ok width) :
    width = line.margin.length := by
  unfold indentation at h
  split at h <;> cases h
  rfl

/-- Every line that is added is added in one of the two ways. -/
theorem Ready.adds {builder builder' : Builder} (ready : Ready builder) {number : Nat}
    {line : Text} (h : builder.addLine number line = .ok builder') :
    Adds builder line builder' := by
  cases hs : (Line.read line.trim).sprout with
  | error fault =>
    rw [builder.addLine_of_sprout_error number hs] at h
    cases h
  | ok sprout =>
    obtain ⟨planted, hplant, hplanted, hgrown, hadd⟩ := ready.addLine_of_sprout number hs
    rw [hadd] at h
    by_cases hblank : line.trim.isEmpty
    · rw [if_pos hblank] at h
      cases h
      exact .blank hblank ⟨hplant, ⟨_, _, hs, hplanted⟩, hgrown, ready.holder_lt,
        ready.allowsChildren_holder⟩
    · rw [if_neg hblank] at h
      cases hi : indentation line with
      | error fault => simp [hi] at h
      | ok width =>
        obtain rfl := eq_of_indentation hi
        simp only [hi] at h
        split at h
        · cases h
        · next around haround =>
          split at h
          · next hallows =>
            cases h
            exact .filled hblank hi haround ⟨hplant, ⟨_, _, hs, hplanted⟩, hgrown,
              ready.innermost_lt (Frame.suffix_of_enclosing? haround).subset, hallows⟩
          · cases h

/-- Linking a sprout is attaching it. -/
lemma Sprouts.grown_link {builder : Builder} {line : Text} {planted : Tree} {parent : NodeId}
    (ready : Ready builder) (h : Sprouts builder line planted parent) :
    Grown (planted.link parent builder.tree.size) := by
  obtain ⟨node, children, -, hplanted⟩ := h.sprouted
  apply h.grown.attach
  rw [ready.attach_planted hplanted h.parent_lt, if_pos h.allowsChildren]

lemma Sprouts.size_lt {builder : Builder} {line : Text} {planted : Tree} {parent : NodeId}
    (h : Sprouts builder line planted parent) : builder.tree.size < planted.size := by
  obtain ⟨node, children, -, hplanted⟩ := h.sprouted
  exact hplanted.size_lt

namespace Sprouts

variable {builder : Builder} {line : Text} {planted : Tree} {parent : NodeId}

lemma children_link_of_lt (h : Sprouts builder line planted parent) {id : NodeId}
    (hid : id < builder.tree.size) :
    (planted.link parent builder.tree.size).children id =
      builder.tree.children id ++ if parent = id then [builder.tree.size] else [] := by
  obtain ⟨node, children, -, hplanted⟩ := h.sprouted
  rw [children_link planted (Nat.lt_trans h.parent_lt h.size_lt), hplanted.keeps.children_eq hid]
  by_cases hp : id = parent
  · simp [hp]
  · simp [hp, Ne.symm hp]

lemma children_link_of_le (h : Sprouts builder line planted parent) {id : NodeId}
    (hid : builder.tree.size ≤ id) :
    (planted.link parent builder.tree.size).children id = planted.children id := by
  rw [children_link planted (Nat.lt_trans h.parent_lt h.size_lt),
    if_neg (Nat.ne_of_gt (Nat.lt_of_lt_of_le h.parent_lt hid))]

lemma parent?_link_of_lt (h : Sprouts builder line planted parent) {id : NodeId}
    (hid : id < builder.tree.size) :
    (planted.link parent builder.tree.size).parent? id = builder.tree.parent? id := by
  obtain ⟨node, children, -, hplanted⟩ := h.sprouted
  rw [parent?, place?_link planted h.size_lt, if_neg (Nat.ne_of_lt hid),
    hplanted.keeps.place?_eq hid, parent?]

lemma parent?_link_top (h : Sprouts builder line planted parent) :
    (planted.link parent builder.tree.size).parent? builder.tree.size = some parent := by
  rw [parent?, place?_link planted h.size_lt, if_pos rfl]
  rfl

end Sprouts

lemma Adds.ready {builder builder' : Builder} {line : Text} (ready : Ready builder)
    (h : Adds builder line builder') : Ready builder' := by
  cases h with
  | blank _ h =>
    refine ⟨h.grown_link ready, fun frame hf => ?_⟩
    rw [linked, size_link]
    exact Nat.lt_trans (ready.item_lt frame hf) h.size_lt
  | filled _ _ haround h =>
    refine ⟨h.grown_link ready, fun frame hf => ?_⟩
    rw [linked, size_link]
    rcases List.mem_cons.1 hf with rfl | hf
    · exact h.size_lt
    · have hopen := (Frame.suffix_of_enclosing? haround).subset hf
      exact Nat.lt_trans (ready.item_lt frame hopen) h.size_lt

lemma addLines_concat_eq_ok_iff {builder builder' : Builder} {number : Nat} {lines : List Text}
    {line : Text} :
    builder.addLines number (lines ++ [line]) = .ok builder' ↔
      ∃ mid, builder.addLines number lines = .ok mid ∧
        mid.addLine (number + lines.length) line = .ok builder' := by
  rw [addLines_append]
  cases builder.addLines number lines with
  | error diagnostic => simp [Except.bind]
  | ok mid =>
    simp only [Except.bind, addLines, Except.ok.injEq, exists_eq_left']
    cases mid.addLine (number + lines.length) line <;> simp

/-- What holds at the start and is kept by every added line holds after every run. -/
theorem run_induction {motive : List Text → Builder → Prop} (start : motive [] {})
    (step : ∀ {lines line builder builder'}, addLines {} 0 lines = .ok builder → Ready builder →
      motive lines builder → Adds builder line builder' → motive (lines ++ [line]) builder')
    {lines : List Text} {builder : Builder} (h : addLines {} 0 lines = .ok builder) :
    Ready builder ∧ motive lines builder := by
  induction lines using List.reverseRecOn generalizing builder with
  | nil =>
    cases h
    exact ⟨ready_start, start⟩
  | append_singleton lines line ih =>
    obtain ⟨mid, hmid, hline⟩ := addLines_concat_eq_ok_iff.1 h
    obtain ⟨ready, hmotive⟩ := ih hmid
    have hadds := ready.adds hline
    exact ⟨hadds.ready ready, step hmid ready hmotive hadds⟩

end Builder
end OutlineMarkup

import Mathlib.Data.List.Chain
import OutlineMarkup.Proofs.Drafts
import OutlineMarkup.Proofs.LineFaults
import OutlineMarkup.Proofs.Outlines
import OutlineMarkup.Proofs.ParentLaw

/-! The open lines as two stacks, one for their widths and one for their nodes, with the root at the
bottom of both. A line that is less indented pops both stacks while it is narrower than the width on
top, and then pops the nodes once more, so that in between the stacks are out of step; they are in
step again when the line's own node is pushed. A stack that has run empty is read as the root. This
never happens: the stacks are the list of open lines, taken apart. -/
namespace OutlineMarkup

open OutlineMarkup.Tree

/-- A tree under construction, with the widths and the nodes of the open lines, innermost first. The
root is around all of them, narrower than any line. -/
structure Stacks where
  tree : Tree := {}
  widths : List Int := [-1]
  nodes : List NodeId := [root]
  deriving Repr, DecidableEq

namespace Stacks

/-- Why a line cannot be added. -/
inductive Stop where
  | fault (cause : Fault)
  | unmatched
  deriving Repr, DecidableEq

def Stop.diagnostic (number : Nat) : Stop → Diagnostic
  | fault cause => .ofFault number cause
  | unmatched => .unmatchedUnindent number

def top (widths : List Int) : Int := widths.head?.getD (-1)

/-- Pop both stacks while the width on top is greater than a given one. -/
def unwind (width : Int) : List Int → List NodeId → List Int × List NodeId
  | [], nodes => ([], nodes)
  | last :: widths, nodes =>
    if width < last then unwind width widths nodes.tail else (last :: widths, nodes)

/-- The stacks when a line of a given width is about to be attached: its own width is on top of the
widths, and the nodes are still one short of it. -/
def settle (width : Int) (widths : List Int) (nodes : List NodeId) : List Int × List NodeId :=
  if top widths < width then (width :: widths, nodes)
  else ((unwind width widths nodes).1, (unwind width widths nodes).2.tail)

/-- Attach the node of a blank line to the innermost open node that may have children, or to
`fallback` when there is none. -/
def addBlank (fallback : NodeId) (tree : Tree) (state : Stacks) (node : NodeId) :
    Except Fault Stacks :=
  let holder := (state.nodes.find? fun id => (tree.node id).allowsChildren).getD fallback
  (tree.attach holder node).map fun tree => { state with tree }

/-- Attach the node of a line to the node on top of the stack, or to `fallback` when there is none,
and push it. -/
def addNode (fallback : NodeId) (tree : Tree) (widths : List Int) (nodes : List NodeId)
    (node : NodeId) : Except Fault Stacks :=
  (tree.attach (nodes.head?.getD fallback) node).map fun tree => ⟨tree, widths, node :: nodes⟩

def step (fallback : NodeId) (state : Stacks) (line : Text) : Except Stop Stacks :=
  match Line.plant state.tree line.trim with
  | (_, .error fault) => .error (.fault fault)
  | (tree, .ok node) =>
    if tree.node node = .empty then (addBlank fallback tree state node).mapError .fault
    else
      match indentation line with
      | .error fault => .error (.fault fault)
      | .ok width =>
        let opened := settle width state.widths state.nodes
        if top opened.1 = width then
          (addNode fallback tree opened.1 opened.2 node).mapError .fault
        else .error .unmatched

/-- Add lines, numbered from a given one on. A line that cannot be added is reported with its
number. -/
def run (fallback : NodeId) (state : Stacks) (number : Nat) :
    List Text → Except (Nat × Stop) Stacks
  | [] => .ok state
  | line :: rest =>
    match state.step fallback line with
    | .error stop => .error (number, stop)
    | .ok state => state.run fallback (number + 1) rest

def widthsOf (frames : List (Frame NodeId)) : List Int :=
  frames.map (fun frame => (frame.width : Int)) ++ [-1]

def nodesOf (frames : List (Frame NodeId)) : List NodeId := frames.map Frame.item ++ [root]

/-- The open lines of a builder, taken apart. -/
def ofBuilder (builder : Builder) : Stacks :=
  ⟨builder.tree, widthsOf builder.frames, nodesOf builder.frames⟩

section Frames

variable {frames around : List (Frame NodeId)} {width : Nat}

@[simp] lemma widthsOf_cons (frame : Frame NodeId) (frames : List (Frame NodeId)) :
    widthsOf (frame :: frames) = (frame.width : Int) :: widthsOf frames := rfl

@[simp] lemma nodesOf_cons (frame : Frame NodeId) (frames : List (Frame NodeId)) :
    nodesOf (frame :: frames) = frame.item :: nodesOf frames := rfl

lemma head?_nodesOf (frames : List (Frame NodeId)) :
    (nodesOf frames).head? = some (Builder.innermost frames) := by
  cases frames <;> rfl

/-- Unwinding closes the open lines that are wider, in both stacks alike. -/
lemma unwind_of_frames (width : Nat) (frames : List (Frame NodeId)) :
    unwind width (widthsOf frames) (nodesOf frames) =
      (widthsOf (frames.dropWhile (width < ·.width)),
        nodesOf (frames.dropWhile (width < ·.width))) := by
  induction frames with
  | nil =>
    have hw : ¬ (width : Int) < -1 := by omega
    simp [widthsOf, nodesOf, unwind, hw]
  | cons frame frames ih =>
    rw [widthsOf_cons, nodesOf_cons, unwind]
    by_cases hw : width < frame.width
    · rw [if_pos (by exact_mod_cast hw), List.tail_cons, ih,
        List.dropWhile_cons_of_pos (by simpa using hw)]
    · rw [if_neg (by exact_mod_cast hw), List.dropWhile_cons_of_neg (by simpa using hw),
        widthsOf_cons, nodesOf_cons]

/-- A line that is wider than the innermost open line goes on top of the stacks. -/
lemma settle_of_lt (h : ∀ frame ∈ frames.head?, frame.width < width) :
    settle width (widthsOf frames) (nodesOf frames) =
      ((width : Int) :: widthsOf frames, nodesOf frames) := by
  have htop : top (widthsOf frames) < width := by
    cases frames with
    | nil =>
      change (-1 : Int) < width
      omega
    | cons inner outer =>
      have hw := h inner rfl
      change (inner.width : Int) < width
      omega
  rw [settle, if_pos htop]

/-- Any other line unwinds the stacks first. -/
lemma settle_of_not_lt {inner : Frame NodeId} {outer : List (Frame NodeId)}
    (h : ¬ inner.width < width) :
    settle width (widthsOf (inner :: outer)) (nodesOf (inner :: outer)) =
      (widthsOf ((inner :: outer).dropWhile (width < ·.width)),
        (nodesOf ((inner :: outer).dropWhile (width < ·.width))).tail) := by
  have htop : ¬ top (widthsOf (inner :: outer)) < width := by
    change ¬ (inner.width : Int) < width
    omega
  rw [settle, if_neg htop, unwind_of_frames]

/-- When there are lines around a new line, the stacks become those of these lines, with the new
width on the first. -/
lemma settle_of_enclosing? (h : Frame.enclosing? width frames = some around) :
    settle width (widthsOf frames) (nodesOf frames) =
      ((width : Int) :: widthsOf around, nodesOf around) := by
  unfold Frame.enclosing? at h
  split at h
  · cases h
    exact settle_of_lt (by simp)
  · next inner outer =>
    split at h
    · next hw =>
      cases h
      exact settle_of_lt (by simpa using hw)
    · next hw =>
      rw [settle_of_not_lt hw]
      split at h
      · next hdrop =>
        split at h
        · next hsame =>
          cases h
          rw [hdrop, widthsOf_cons, nodesOf_cons, hsame, List.tail_cons]
        · cases h
      · cases h

/-- When there are none, another width than the new one is on top. -/
lemma top_settle_of_enclosing?_eq_none (h : Frame.enclosing? width frames = none) :
    top (settle width (widthsOf frames) (nodesOf frames)).1 ≠ width := by
  unfold Frame.enclosing? at h
  split at h
  · cases h
  · next inner outer =>
    split at h
    · cases h
    · next hw =>
      rw [settle_of_not_lt hw]
      split at h
      · next same around hdrop =>
        split at h
        · cases h
        · next hsame =>
          rw [hdrop]
          change (same.width : Int) ≠ width
          omega
      · next hdrop =>
        rw [hdrop]
        change (-1 : Int) ≠ width
        omega

/-- The stack of nodes holds a node that may have children: if no other, then the root. -/
lemma find?_nodesOf {tree : Tree} (hroot : (tree.node root).allowsChildren)
    (frames : List (Frame NodeId)) :
    (nodesOf frames).find? (fun id => (tree.node id).allowsChildren) =
      some (Builder.holder tree frames) := by
  induction frames with
  | nil => simp [nodesOf, hroot, Builder.holder, Builder.innermost]
  | cons frame frames ih =>
    rw [nodesOf_cons, Builder.holder]
    cases hframe : (tree.node frame.item).allowsChildren with
    | true =>
      rw [List.find?_cons, hframe, List.filter_cons, hframe]
      rfl
    | false =>
      rw [List.find?_cons, hframe, List.filter_cons, hframe]
      exact ih

end Frames

/-- A line's node is blank exactly when the line is. -/
lemma node_eq_empty_iff {tree planted : Tree} {line : Text} {node : NodeId}
    (h : Line.plant tree line.trim = (planted, .ok node)) :
    planted.node node = .empty ↔ line.trim.isEmpty := by
  obtain ⟨top, children, hsprout, rfl, hplanted⟩ := Line.exists_sprout_of_plant h
  rw [hplanted.node_eq]
  constructor
  · intro hempty
    by_contra hline
    exact (Line.ne_empty_of_sprout hline hsprout).1 hempty
  · intro hline
    rw [List.isEmpty_iff.1 hline, Line.read_nil] at hsprout
    cases hsprout
    rfl

/-- The root may have children, also when a line has just been planted. -/
lemma allowsChildren_root {builder : Builder} (ready : Builder.Ready builder) {line : Text}
    {planted : Tree} {node : NodeId} (h : Line.plant builder.tree line = (planted, .ok node)) :
    (planted.node root).allowsChildren := by
  obtain ⟨top, children, -, -, hplanted⟩ := Line.exists_sprout_of_plant h
  rw [hplanted.keeps.node_eq ready.grown.sound.root_lt, ready.grown.node_root]
  rfl

/-- What adding a line does to the open lines, taken apart. The node to fall back on does not
come into it. -/
theorem step_ofBuilder {builder : Builder} (ready : Builder.Ready builder) (fallback : NodeId)
    (line : Text) :
    (ofBuilder builder).step fallback line =
      match Line.plant builder.tree line.trim with
      | (_, .error fault) => .error (.fault fault)
      | (tree, .ok node) =>
        if line.trim.isEmpty then
          ((Builder.addBlank tree builder.frames node).map ofBuilder).mapError .fault
        else
          match indentation line with
          | .error fault => .error (.fault fault)
          | .ok width =>
            match Frame.enclosing? width builder.frames with
            | none => .error .unmatched
            | some around =>
              ((Builder.addNode tree around width node).map ofBuilder).mapError .fault := by
  rw [step, show (ofBuilder builder).tree = builder.tree from rfl]
  cases hplant : Line.plant builder.tree line.trim with
  | mk tree result =>
    cases result with
    | error fault => rfl
    | ok node =>
      simp only [node_eq_empty_iff hplant]
      by_cases hline : line.trim.isEmpty
      · rw [if_pos hline, if_pos hline, addBlank, Builder.addBlank]
        simp only [ofBuilder, find?_nodesOf (allowsChildren_root ready hplant), Option.getD_some]
        cases tree.attach (Builder.holder tree builder.frames) node <;> rfl
      · rw [if_neg hline, if_neg hline]
        cases indentation line with
        | error fault => rfl
        | ok width =>
          dsimp only
          cases haround : Frame.enclosing? width builder.frames with
          | none => exact if_neg (top_settle_of_enclosing?_eq_none haround)
          | some around =>
            have hsettle : settle width (ofBuilder builder).widths (ofBuilder builder).nodes =
                ((width : Int) :: widthsOf around, nodesOf around) := settle_of_enclosing? haround
            have htop : Stacks.top ((width : Int) :: widthsOf around) = width := rfl
            dsimp only
            rw [hsettle, if_pos htop, addNode, Builder.addNode, head?_nodesOf, Option.getD_some]
            cases tree.attach (Builder.innermost around) node <;> rfl

/-- The stacks take a line in the same way as the builder does. -/
lemma mapError_step_ofBuilder {builder : Builder} (ready : Builder.Ready builder)
    (fallback : NodeId) (number : Nat) (line : Text) :
    ((ofBuilder builder).step fallback line).mapError (Stop.diagnostic number) =
      (builder.addLine number line).map ofBuilder := by
  rw [step_ofBuilder ready, Builder.addLine]
  cases Line.plant builder.tree line.trim with
  | mk tree result =>
    cases result with
    | error fault => rfl
    | ok node =>
      dsimp only
      by_cases hline : line.trim.isEmpty
      · rw [if_pos hline, if_pos hline]
        cases Builder.addBlank tree builder.frames node <;> rfl
      · rw [if_neg hline, if_neg hline]
        cases indentation line with
        | error fault => rfl
        | ok width =>
          dsimp only
          cases Frame.enclosing? width builder.frames with
          | none => rfl
          | some around =>
            dsimp only
            cases Builder.addNode tree around width node <;> rfl

lemma exists_of_step {builder : Builder} (ready : Builder.Ready builder) {fallback : NodeId}
    {line : Text} {next : Stacks} (h : (ofBuilder builder).step fallback line = .ok next)
    (number : Nat) :
    ∃ builder', builder.addLine number line = .ok builder' ∧ Builder.Ready builder' ∧
      next = ofBuilder builder' := by
  have hstep := mapError_step_ofBuilder ready fallback number line
  rw [h] at hstep
  cases hadd : builder.addLine number line with
  | error diagnostic =>
    rw [hadd] at hstep
    cases hstep
  | ok builder' =>
    rw [hadd] at hstep
    cases hstep
    exact ⟨builder', rfl, (ready.adds hadd).ready ready, rfl⟩

/-- No run comes to the node to fall back on. -/
lemma run_fallback {builder : Builder} (ready : Builder.Ready builder) (fallback other : NodeId)
    (number : Nat) (lines : List Text) :
    (ofBuilder builder).run fallback number lines = (ofBuilder builder).run other number lines := by
  induction lines generalizing builder number with
  | nil => rfl
  | cons line rest ih =>
    have hstep : (ofBuilder builder).step fallback line = (ofBuilder builder).step other line := by
      rw [step_ofBuilder ready, step_ofBuilder ready]
    rw [run, run, hstep]
    cases h : (ofBuilder builder).step other line with
    | error stop => rfl
    | ok next =>
      obtain ⟨builder', -, ready', rfl⟩ := exists_of_step ready h number
      exact ih ready' (number + 1)

/-- The stacks take a run of lines in the same way as the builder does. -/
theorem mapError_run_ofBuilder {builder : Builder} (ready : Builder.Ready builder)
    (fallback : NodeId) (number : Nat) (lines : List Text) :
    ((ofBuilder builder).run fallback number lines).mapError (fun (number, stop) =>
        stop.diagnostic number) = (builder.addLines number lines).map ofBuilder := by
  induction lines generalizing builder number with
  | nil => rfl
  | cons line rest ih =>
    have hstep := mapError_step_ofBuilder ready fallback number line
    rw [run, Builder.addLines]
    cases h : (ofBuilder builder).step fallback line with
    | error stop =>
      rw [h] at hstep
      cases hadd : builder.addLine number line with
      | ok builder' =>
        rw [hadd] at hstep
        cases hstep
      | error diagnostic =>
        rw [hadd] at hstep
        exact hstep
    | ok next =>
      obtain ⟨builder', hadd, ready', rfl⟩ := exists_of_step ready h number
      rw [hadd]
      exact ih ready' (number + 1)

/-- A run of the stacks that ends well is a run of the builder. -/
lemma exists_of_run {fallback : NodeId} {lines : List Text} {state : Stacks}
    (h : run fallback {} 0 lines = .ok state) :
    ∃ builder, Builder.addLines {} 0 lines = .ok builder ∧ state = ofBuilder builder := by
  have hrun := mapError_run_ofBuilder Builder.ready_start fallback 0 lines
  rw [show ofBuilder {} = {} from rfl, h] at hrun
  cases hadd : Builder.addLines {} 0 lines with
  | error diagnostic =>
    rw [hadd] at hrun
    cases hrun
  | ok builder =>
    rw [hadd] at hrun
    cases hrun
    exact ⟨builder, rfl, rfl⟩

/-- A planted node is attached to an earlier one, unless that one has no children. -/
lemma attach_ne_alreadyParented {builder : Builder} (ready : Builder.Ready builder) {line : Text}
    {planted : Tree} {node parent : NodeId}
    (h : Line.plant builder.tree line = (planted, .ok node)) (hlt : parent < builder.tree.size) :
    planted.attach parent node ≠ .error .alreadyParented := by
  obtain ⟨top, children, -, rfl, hplanted⟩ := Line.exists_sprout_of_plant h
  rw [ready.attach_planted hplanted hlt]
  split <;> simp

lemma step_ne_alreadyParented {builder : Builder} (ready : Builder.Ready builder)
    (fallback : NodeId) (line : Text) :
    (ofBuilder builder).step fallback line ≠ .error (.fault .alreadyParented) := by
  rw [step_ofBuilder ready]
  have hplant := Line.plant_ne_alreadyParented builder.tree line.trim
  cases heq : Line.plant builder.tree line.trim with
  | mk planted result =>
    rw [heq] at hplant
    cases result with
    | error fault => simpa using hplant
    | ok node =>
      dsimp only
      by_cases hline : line.trim.isEmpty
      · obtain ⟨_, _, -, -, hplanted⟩ := Line.exists_sprout_of_plant heq
        have hattach := attach_ne_alreadyParented ready heq ready.holder_lt
        rw [if_pos hline, Builder.addBlank, ready.holder_planted hplanted]
        cases hresult : planted.attach (Builder.holder builder.tree builder.frames) node with
        | ok tree => simp [Except.map, Except.mapError]
        | error fault =>
          rw [hresult] at hattach
          simpa [Except.map, Except.mapError] using hattach
      · rw [if_neg hline]
        cases hindent : indentation line with
        | error fault =>
          unfold indentation at hindent
          split at hindent <;> cases hindent
          simp
        | ok width =>
          dsimp only
          cases haround : Frame.enclosing? width builder.frames with
          | none => simp
          | some around =>
            have hattach := attach_ne_alreadyParented ready heq
              (ready.innermost_lt (Frame.suffix_of_enclosing? haround).subset)
            dsimp only
            rw [Builder.addNode]
            cases hresult : planted.attach (Builder.innermost around) node with
            | ok tree => simp [Except.map, Except.mapError]
            | error fault =>
              rw [hresult] at hattach
              simpa [Except.map, Except.mapError] using hattach

lemma run_ne_alreadyParented {builder : Builder} (ready : Builder.Ready builder)
    (fallback : NodeId) (number : Nat) (lines : List Text) (failed : Nat) :
    (ofBuilder builder).run fallback number lines ≠ .error (failed, .fault .alreadyParented) := by
  induction lines generalizing builder number with
  | nil => simp [run]
  | cons line rest ih =>
    rw [run]
    cases h : (ofBuilder builder).step fallback line with
    | error stop =>
      have hstep := step_ne_alreadyParented ready fallback line
      rw [h] at hstep
      intro heq
      cases heq
      exact hstep rfl
    | ok next =>
      obtain ⟨builder', -, ready', rfl⟩ := exists_of_step ready h number
      exact ih ready' (number + 1)

/-- The stacks are in step after some lines. Both have one entry for the root, at width -1, and one
for each open line, innermost first. Widths grow towards the inside, each node but the root's is a
child of the one around it, so that all but the innermost are of a kind that has children, and each
width is the indentation of the line whose node has the same position. -/
structure InStep (lines : List Text) (state : Stacks) : Prop where
  length_eq : state.widths.length = state.nodes.length
  length_pos : 1 ≤ state.nodes.length
  getLast?_widths : state.widths.getLast? = some (-1)
  pairwise_widths : state.widths.Pairwise fun inner outer => outer < inner
  getLast?_nodes : state.nodes.getLast? = some root
  isChain_nodes : state.nodes.IsChain fun inner outer => state.tree.parent? inner = some outer
  allowsChildren : ∀ node ∈ state.nodes.tail, (state.tree.node node).allowsChildren
  exists_line : ∀ (index : Nat) (width : Int) (node : NodeId), state.widths[index]? = some width →
    state.nodes[index]? = some node → index + 1 < state.nodes.length →
    ∃ number line indent, lines[number]? = some line ∧ ¬ line.trim.isEmpty ∧
      Builder.nodeAt? lines number = some node ∧ indentation line = .ok indent ∧ width = indent

/-- An open line is one of the lines, with its indentation and its node. -/
def StandsFor (lines : List Text) (frame : Frame NodeId) : Prop :=
  ∃ number line, lines[number]? = some line ∧ ¬ line.trim.isEmpty ∧
    Builder.nodeAt? lines number = some frame.item ∧ indentation line = .ok frame.width

lemma StandsFor.concat {lines : List Text} {frame : Frame NodeId} (h : StandsFor lines frame)
    (line : Text) : StandsFor (lines ++ [line]) frame := by
  obtain ⟨number, found, hfound, hfilled, hnode, hindent⟩ := h
  have hlt : number < lines.length := (List.getElem?_eq_some_iff.1 hfound).1
  refine ⟨number, found, ?_, hfilled, ?_, hindent⟩
  · rwa [List.getElem?_append_left hlt]
  · rwa [Builder.nodeAt?_concat hlt]

/-- After every run each open line is one of the lines, and its node is a child of the node around
it. -/
lemma opened_of_addLines {lines : List Text} {builder : Builder}
    (run : Builder.addLines {} 0 lines = .ok builder) :
    Builder.Ready builder ∧ (∀ frame ∈ builder.frames, StandsFor lines frame) ∧
      (nodesOf builder.frames).IsChain fun inner outer =>
        builder.tree.parent? inner = some outer := by
  apply Builder.run_induction ?_ ?_ run
  · exact ⟨by simp, by simp [nodesOf]⟩
  · rintro lines line builder builder' run ready ⟨hlines, hchain⟩ adds
    -- links made before stay as they are
    have hkeep : ∀ {planted : Tree} {parent : NodeId}, Builder.Sprouts builder line planted parent →
        ∀ inner outer, builder.tree.parent? inner = some outer →
          (planted.link parent builder.tree.size).parent? inner = some outer := by
      intro planted parent h inner outer hparent
      obtain ⟨place, hplace, -⟩ := Option.map_eq_some_iff.1 hparent
      rw [h.parent?_link_of_lt (lt_size_of_place? hplace), hparent]
    cases adds with
    | blank _ h =>
      exact ⟨fun frame hf => (hlines frame hf).concat line, hchain.imp (hkeep h)⟩
    | @filled planted around hline hmargin haround h =>
      obtain ⟨closed, hclosed⟩ := Frame.suffix_of_enclosing? haround
      constructor
      · intro frame hf
        rcases List.mem_cons.1 hf with rfl | hf
        · refine ⟨lines.length, line, by simp, hline, ?_, hmargin⟩
          rw [Builder.nodeAt?, Builder.plantedAt?_concat_self run h]
          rfl
        · exact (hlines frame ((Frame.suffix_of_enclosing? haround).subset hf)).concat line
      · have hnodes : nodesOf builder.frames = closed.map Frame.item ++ nodesOf around := by
          rw [← hclosed, nodesOf, List.map_append, List.append_assoc, nodesOf]
        rw [hnodes] at hchain
        have houter := (hchain.right_of_append).imp (hkeep h)
        rw [Builder.linked, nodesOf_cons, List.isChain_cons]
        refine ⟨?_, houter⟩
        intro outer hhead
        rw [head?_nodesOf] at hhead
        cases hhead
        exact h.parent?_link_top

lemma getLast?_nodesOf (frames : List (Frame NodeId)) : (nodesOf frames).getLast? = some root := by
  simp [nodesOf]

/-- Whatever is not the first of a chain is related to the one before it. -/
lemma exists_rel_of_mem_tail {related : NodeId → NodeId → Prop} {nodes : List NodeId}
    (h : nodes.IsChain related) {node : NodeId} (hnode : node ∈ nodes.tail) :
    ∃ inner, related inner node := by
  induction nodes with
  | nil => cases hnode
  | cons inner rest ih =>
    obtain ⟨hhead, hrest⟩ := List.isChain_cons.1 h
    cases rest with
    | nil => cases hnode
    | cons next rest =>
      rcases List.mem_cons.1 hnode with rfl | hnode
      · exact ⟨inner, hhead node rfl⟩
      · exact ih hrest hnode

/-- Open lines, taken apart, are in step. -/
lemma inStep_of_addLines {lines : List Text} {builder : Builder}
    (run : Builder.addLines {} 0 lines = .ok builder) : InStep lines (ofBuilder builder) := by
  obtain ⟨ready, hlines, hchain⟩ := opened_of_addLines run
  obtain ⟨-, hframes, -⟩ := Builder.nested_of_addLines run
  have hwidths := Frame.pairwise_openAfter (Builder.filledLines lines)
  rw [← hframes] at hwidths
  constructor
  case length_eq => simp [ofBuilder, widthsOf, nodesOf]
  case length_pos => simp [ofBuilder, nodesOf]
  case getLast?_widths => simp [ofBuilder, widthsOf]
  case pairwise_widths =>
    rw [ofBuilder, widthsOf, List.pairwise_append, List.pairwise_map]
    refine ⟨hwidths.imp fun h => by exact_mod_cast h, by simp, ?_⟩
    intro width hwidth bottom hbottom
    obtain ⟨frame, -, rfl⟩ := List.mem_map.1 hwidth
    rw [List.mem_singleton.1 hbottom]
    omega
  case getLast?_nodes => exact getLast?_nodesOf builder.frames
  case isChain_nodes => exact hchain
  case allowsChildren =>
    intro node hnode
    obtain ⟨inner, hinner⟩ := exists_rel_of_mem_tail hchain hnode
    have hsound := ready.grown.sound
    exact hsound.allowsChildren node inner (hsound.mem_children_iff.2 hinner)
  case exists_line =>
    intro index width node hwidth hnode hlt
    simp only [ofBuilder, widthsOf, nodesOf, List.length_append, List.length_map,
      List.length_singleton] at hwidth hnode hlt
    have hindex : index < builder.frames.length := by omega
    rw [List.getElem?_append_left (by simpa using hindex), List.getElem?_map] at hwidth hnode
    obtain ⟨frame, hframe, rfl⟩ := Option.map_eq_some_iff.1 hwidth
    rw [hframe] at hnode
    cases hnode
    obtain ⟨number, line, hline, hfilled, hnode, hindent⟩ :=
      hlines frame (List.mem_of_getElem? hframe)
    exact ⟨number, line, frame.width, hline, hfilled, hnode, hindent, rfl⟩

/-- What building with two stacks comes to. It builds the tree of the lines, whatever the node to
fall back on; after every line the stacks are in step; where a parent is taken from the stack of
nodes there is one, and where a blank line looks for a node to hold it there is one; and of all
attachments, those made for a line's own nodes included, none is refused for a node that has a
parent already. -/
structure Sustained (lines : List Text) : Prop where
  ofLines_eq : ((run root {} 0 lines).mapError fun (number, stop) => stop.diagnostic number).map
    Stacks.tree = Tree.ofLines lines
  fallback_eq : ∀ fallback, run fallback {} 0 lines = run root {} 0 lines
  inStep : ∀ state, run root {} 0 lines = .ok state → InStep lines state
  parent_taken : ∀ state, run root {} 0 lines = .ok state → ∀ width : Nat,
    top (settle width state.widths state.nodes).1 = width →
      (settle width state.widths state.nodes).2 ≠ []
  holder_found : ∀ state, run root {} 0 lines = .ok state → ∀ line planted node,
    Line.plant state.tree line = (planted, .ok node) →
      (state.nodes.find? fun id => (planted.node id).allowsChildren).isSome
  run_ne_alreadyParented : ∀ number, run root {} 0 lines ≠ .error (number, .fault .alreadyParented)
  plant_ne_alreadyParented : ∀ tree line, (Line.plant tree line).2 ≠ .error .alreadyParented

/-- The stacks are in step after every line of every list of lines, up to the first that fails. -/
theorem sustained (lines : List Text) : Sustained lines := by
  constructor
  case ofLines_eq =>
    have hrun := mapError_run_ofBuilder Builder.ready_start root 0 lines
    rw [show ofBuilder {} = {} from rfl] at hrun
    rw [hrun, Tree.ofLines]
    cases Builder.addLines {} 0 lines <;> rfl
  case fallback_eq => exact fun fallback => run_fallback Builder.ready_start fallback root 0 lines
  case inStep =>
    intro state h
    obtain ⟨builder, hrun, rfl⟩ := exists_of_run h
    exact inStep_of_addLines hrun
  case parent_taken =>
    intro state h width htop
    obtain ⟨builder, -, rfl⟩ := exists_of_run h
    cases haround : Frame.enclosing? width builder.frames with
    | none => exact absurd htop (top_settle_of_enclosing?_eq_none haround)
    | some around =>
      rw [ofBuilder, settle_of_enclosing? haround]
      simp [nodesOf]
  case holder_found =>
    intro state h line planted node hplant
    obtain ⟨builder, hrun, rfl⟩ := exists_of_run h
    obtain ⟨ready, -, -⟩ := opened_of_addLines hrun
    rw [ofBuilder, find?_nodesOf (allowsChildren_root ready hplant)]
    rfl
  case run_ne_alreadyParented =>
    exact fun number => run_ne_alreadyParented Builder.ready_start root 0 lines number
  case plant_ne_alreadyParented => exact Line.plant_ne_alreadyParented

/-- Two levels are left at once, past a blank line. -/
example : (run root {} 0 (["%ul", "  %li", "", "    x", "y"].map String.toList)).toOption.map
    (fun state => (state.widths, state.nodes)) = some ([0, -1], [5, 0]) := by decide +kernel

end Stacks
end OutlineMarkup

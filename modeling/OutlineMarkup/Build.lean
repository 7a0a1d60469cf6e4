import OutlineMarkup.Indentation
import OutlineMarkup.Line.Reading
import OutlineMarkup.Source.Logical

/-! The tree of a template, built from its logical lines one after another. -/
namespace OutlineMarkup

/-- A tree under construction, with the lines that are still open, innermost first. The root is
around all of them. -/
structure Builder where
  tree : Tree := {}
  frames : List (Frame NodeId) := []
  deriving Repr, DecidableEq

namespace Builder

def innermost (frames : List (Frame NodeId)) : NodeId :=
  (frames.head?.map Frame.item).getD Tree.root

/-- The innermost open node that may have children, or the root. -/
def holder (tree : Tree) (frames : List (Frame NodeId)) : NodeId :=
  innermost (frames.filter fun frame => (tree.node frame.item).allowsChildren)

/-- Attach the node of a blank line, which leaves the open lines as they are. -/
def addBlank (tree : Tree) (frames : List (Frame NodeId)) (node : NodeId) : Except Fault Builder :=
  (tree.attach (holder tree frames) node).map fun tree => { tree, frames }

/-- Attach the node of a line to the innermost line around it, and open it. -/
def addNode (tree : Tree) (around : List (Frame NodeId)) (width : Nat) (node : NodeId) :
    Except Fault Builder :=
  (tree.attach (innermost around) node).map fun tree => { tree, frames := ⟨width, node⟩ :: around }

/-- Add the line of a given number. It has to read well, to have an indentation, to meet an open
line when it is less indented than the one before, and to stand where children are allowed. -/
def addLine (builder : Builder) (number : Nat) (line : Text) : Except Diagnostic Builder :=
  match Line.plant builder.tree line.trim with
  | (_, .error fault) => .error (.ofFault number fault)
  | (tree, .ok node) =>
    if line.trim.isEmpty then (addBlank tree builder.frames node).mapError (.ofFault number)
    else
      match indentation line with
      | .error fault => .error (.ofFault number fault)
      | .ok width =>
        match Frame.enclosing? width builder.frames with
        | none => .error (.unmatchedUnindent number)
        | some around => (addNode tree around width node).mapError (.ofFault number)

def addLines (builder : Builder) (number : Nat) : List Text → Except Diagnostic Builder
  | [] => .ok builder
  | line :: rest =>
    match builder.addLine number line with
    | .error diagnostic => .error diagnostic
    | .ok builder => builder.addLines (number + 1) rest

@[simp] theorem addLines_nil (builder : Builder) (number : Nat) :
    builder.addLines number [] = .ok builder := rfl

/-- Lines can be added in two parts. -/
theorem addLines_append (builder : Builder) (number : Nat) (first second : List Text) :
    builder.addLines number (first ++ second) =
      (builder.addLines number first).bind (·.addLines (number + first.length) second) := by
  induction first generalizing builder number with
  | nil => rfl
  | cons line rest ih =>
    simp only [List.cons_append, addLines]
    cases builder.addLine number line with
    | error diagnostic => rfl
    | ok builder => simp [ih, Nat.add_comm, Nat.add_left_comm]

end Builder

namespace Tree

def ofLines (lines : List Text) : Except Diagnostic Tree :=
  (Builder.addLines {} 0 lines).map Builder.tree

def ofSource (source : Text) : Except Diagnostic Tree := (Source.logicalLines source).bind ofLines

end Tree
end OutlineMarkup

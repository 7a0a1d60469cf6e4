import OutlineMarkup.Line.Control
import OutlineMarkup.Line.Element
import OutlineMarkup.Line.Nesting
import OutlineMarkup.Tree

/-! What a line says. Its first character tells what it is; a tag line may hold further lines after
separators, each nested in the one before. -/
namespace OutlineMarkup.Line

/-- The node that a tag stands for, and the content written after it. -/
structure Head where
  node : Node
  content : Text := []
  deriving Repr, DecidableEq

/-- What a line says: it is at fault, or it is a single node, or a node around another line. -/
inductive Reading where
  | faulty (fault : Fault)
  | single (head : Head)
  | nested (head : Head) (inner : Reading)
  deriving Repr, DecidableEq

/-- What a line is: a node as it stands, or a tag line of some form, with what it leaves out. -/
inductive Opening where
  | plain (node : Node)
  | tag (form : TagForm) (implied : Text)
  deriving Repr, DecidableEq

/-- What a line of bare classes and ids leaves out. -/
def implicitTag : Text := '%' :: Tag.implicitElement

/-- Tell what a line is by its first character. -/
def Opening.ofText : Text → Opening
  | [] => plain .empty
  | c :: t =>
    if c = '.' ∨ c = '#' then tag .element implicitTag
    else if c = '%' then tag .element []
    else if c = '-' then tag .control []
    else if c = '|' then plain (.preformatted t)
    else if c = '/' then plain (.comment (Text.trim t))
    else plain (.text (c :: t))

/-- Read a tag with what belongs to it, and nothing nested in it. -/
def head : TagForm → Text → Except Fault Head
  | .element, line =>
    match ElementLine.ofText? line with
    | none => .error (.noMatch .element line)
    | some parts => parts.node.map fun node => ⟨node, contentOf parts.content⟩
  | .control, line =>
    match ControlLine.ofText? line with
    | none => .error (.noMatch .control line)
    | some parts => .ok { node := parts.node }

def read (line : Text) : Reading :=
  match Opening.ofText line with
  | .plain node => .single { node }
  | .tag form implied =>
    match h : split? form line with
    | none =>
      match head form (implied ++ line) with
      | .error fault => .faulty fault
      | .ok head => .single head
    | some (tag, rest) =>
      have := length_lt_of_split? h
      match head form (implied ++ tag) with
      | .error fault => .faulty fault
      | .ok head => .nested head (read rest)
termination_by line.length
decreasing_by assumption

/-- Add a node and its content to a tree, and give the node's name. -/
def Head.plant (tree : Tree) (head : Head) : Tree × Except Fault NodeId :=
  let bare := tree.create head.node
  if head.content.isEmpty then (bare, .ok tree.size)
  else
    let full := bare.create (.text head.content)
    match full.attach tree.size bare.size with
    | .ok full => (full, .ok tree.size)
    | .error fault => (full, .error fault)

/-- Add the nodes of a line to a tree, and give the name of the outermost one. What was added before
a fault stays in the tree, detached. -/
def Reading.plant (tree : Tree) : Reading → Tree × Except Fault NodeId
  | faulty fault => (tree, .error fault)
  | single head => head.plant tree
  | nested head inner =>
    match head.plant tree with
    | (tree, .error fault) => (tree, .error fault)
    | (tree, .ok outer) =>
      match inner.plant tree with
      | (tree, .error fault) => (tree, .error fault)
      | (tree, .ok child) =>
        match tree.attach outer child with
        | .ok tree => (tree, .ok outer)
        | .error fault => (tree, .error fault)

def plant (tree : Tree) (line : Text) : Tree × Except Fault NodeId := (read line).plant tree

/-- Reading, without the reason why it ends. -/
theorem read_eq (line : Text) :
    read line =
      match Opening.ofText line with
      | .plain node => .single { node }
      | .tag form implied =>
        match split? form line with
        | none =>
          match head form (implied ++ line) with
          | .error fault => .faulty fault
          | .ok head => .single head
        | some (tag, rest) =>
          match head form (implied ++ tag) with
          | .error fault => .faulty fault
          | .ok head => .nested head (read rest) := by
  rw [read]
  cases Opening.ofText line with
  | plain node => rfl
  | tag form implied => simp only; split <;> simp_all

@[simp] theorem read_nil : read [] = .single { node := .empty } := by
  rw [read]; rfl

end OutlineMarkup.Line

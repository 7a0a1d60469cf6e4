import OutlineMarkup.Tree

/-! The lines a template renders as. A node gives its opening line, the lines of its children one
level deeper and its closing line. Three rules look beyond the node itself: a chain of control
tags is closed once, preformatted text that comes first in an element stands on the element's
opening line, and a condensed element stands on the lines of its content. -/
namespace OutlineMarkup.Layout

/-- The control tag just before a node among its siblings, with the tag that began its chain. -/
structure Link where
  control : Control
  origin : Text
  deriving Repr, DecidableEq

/-- The tag that began the chain of a control tag. -/
def originOf (previous : Option Link) (control : Control) : Text :=
  match previous with
  | some link => if control.continues link.control then link.origin else control.tag
  | none => control.tag

/-- The link that a node is for the sibling after it. -/
def linkOf (previous : Option Link) (node : Node) : Option Link :=
  node.control?.map fun control => ⟨control, originOf previous control⟩

/-- Whether the first of some siblings goes on with a control tag. -/
def isContinued (control : Control) (siblings : Forest Node) : Bool :=
  (siblings.first?.bind Node.control?).any (·.continues control)

/-- The closing line of a node, given the link before it and its siblings after it. A control tag
that is gone on with has none; the last of a chain closes what the first one opened. -/
def closing? (previous : Option Link) (siblings : Forest Node) : Node → Option Text
  | .element element => some element.closing
  | .control control =>
    if isContinued control siblings then none
    else some (Control.closingOf (originOf previous control))
  | _ => none

/-- The preformatted text that comes first among some siblings, blank lines aside. -/
def leadingText? : Forest Node → Option Text
  | .nil => none
  | .cons .empty _ siblings => leadingText? siblings
  | .cons (.preformatted data) _ _ => some data
  | .cons _ _ _ => none

/-- Whether a node writes preformatted text that comes first in it on its opening line. -/
def absorbs : Node → Bool
  | .element _ => true
  | _ => false

/-- The opening line of a node, with the text it absorbs. -/
def openingLine? (node : Node) (children : Forest Node) : Option Text :=
  node.opening?.map fun opening =>
    if absorbs node then opening ++ (leadingText? children).getD [] else opening

/-- The white space before a node's own lines. Preformatted text has none. -/
def margin (unit : Text) (depth : Nat) : Node → Text
  | .preformatted _ => []
  | _ => unit.repeated depth

/-- An element written on the lines of its content. The margin of the first content line gives way
to the element's own margin and opening. -/
def condense (margin contentMargin opening closing : Text) : List Text → List Text
  | [] => [margin ++ opening ++ closing]
  | line :: lines =>
    Text.appendToLast closing
      ((margin ++ opening ++ (Text.after? contentMargin line).getD line) :: lines)

def wrap (unit : Text) (depth : Nat) (node : Node) (opening closing : Option Text)
    (content : List Text) : List Text :=
  match node with
  | .element ⟨_, _, true⟩ =>
    condense (margin unit depth node) (unit.repeated (depth + 1)) (opening.getD [])
      (closing.getD []) content
  | _ =>
    (opening.map (margin unit depth node ++ ·)).toList ++ content ++
      (closing.map (margin unit depth node ++ ·)).toList

/-- Whether a node is preformatted text that the opening line of its parent holds already. -/
def isAbsorbed (absorbing : Bool) : Node → Bool
  | .preformatted _ => absorbing
  | _ => false

/-- Whether the sibling after a node may still be absorbed. -/
def staysAbsorbing (absorbing : Bool) : Node → Bool
  | .empty => absorbing
  | _ => false

/-- The lines of some siblings at a depth. `absorbing` says that the first of them, blank lines
aside, is absorbed by their parent if it is preformatted text; `previous` links to the sibling
before. -/
def forestLines (unit : Text) : (depth : Nat) → (absorbing : Bool) → (previous : Option Link) →
    Forest Node → List Text
  | _, _, _, .nil => []
  | depth, absorbing, previous, .cons node children siblings =>
    let content := forestLines unit (depth + 1) (absorbs node) none children
    let own :=
      if isAbsorbed absorbing node then content
      else
        wrap unit depth node (openingLine? node children) (closing? previous siblings node) content
    own ++ forestLines unit depth (staysAbsorbing absorbing node) (linkOf previous node) siblings

theorem forestLines_cons (unit : Text) (depth : Nat) (absorbing : Bool) (previous : Option Link)
    (node : Node) (children siblings : Forest Node) :
    forestLines unit depth absorbing previous (.cons node children siblings) =
      (if isAbsorbed absorbing node then forestLines unit (depth + 1) (absorbs node) none children
        else wrap unit depth node (openingLine? node children) (closing? previous siblings node)
          (forestLines unit (depth + 1) (absorbs node) none children)) ++
      forestLines unit depth (staysAbsorbing absorbing node) (linkOf previous node) siblings := rfl

def treeLines (unit : Text) (tree : Tree) : List Text :=
  forestLines unit 0 false none (tree.outline Tree.root)

end OutlineMarkup.Layout

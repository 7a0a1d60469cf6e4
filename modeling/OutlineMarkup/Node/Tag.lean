import OutlineMarkup.Text.Basic

/-! The tag names that have a meaning of their own. -/
namespace OutlineMarkup.Tag

/-- The elements that have no content and no closing tag. -/
def voidElements : List Text :=
  ["br", "hr", "img", "input", "link", "meta"].map String.toList

/-- The control tags that stand alone and have no closing tag. -/
def directives : List Text :=
  ["break", "continue", "do", "extends", "from", "import", "include", "set"].map String.toList

/-- The element that a line of bare classes and ids stands for. -/
def implicitElement : Text := "div".toList

/-- The control tags that may go on where another one stopped, as pairs of the tag before and the
tag that goes on. -/
def extensions : List (Text × Text) :=
  [("if", "else"), ("if", "elif"), ("elif", "elif"), ("elif", "else"), ("for", "else"),
    ("trans", "pluralize")].map fun (before, after) => (before.toList, after.toList)

def isVoidElement (tag : Text) : Bool := voidElements.contains tag
def isDirective (tag : Text) : Bool := directives.contains tag

/-- Whether a control tag goes on with the construct of the control tag before it. -/
def continues (tag previous : Text) : Bool := extensions.contains (previous, tag)

/-- Neither side of an extension is a tag that stands alone. -/
theorem not_isDirective_of_continues {tag previous : Text} (h : continues tag previous) :
    isDirective tag = false ∧ isDirective previous = false := by
  have all : ∀ pair ∈ extensions, isDirective pair.2 = false ∧ isDirective pair.1 = false := by
    decide
  exact all (previous, tag) (by simpa [continues] using h)

end OutlineMarkup.Tag

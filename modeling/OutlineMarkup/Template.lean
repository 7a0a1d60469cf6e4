import OutlineMarkup.Build
import OutlineMarkup.Layout

/-! Templates: a source that has been read, with the style it is rendered in. -/
namespace OutlineMarkup

/-- How rendered lines become one text: what stands between two lines, and what a line is indented
with for each level. -/
structure Style where
  lineJoin : Text := []
  indentUnit : Text := []
  deriving Repr, DecidableEq

/-- One line for each tag, indented by two spaces. -/
def Style.pretty : Style := ⟨['\n'], [' ', ' ']⟩

/-- A source that has been read. -/
structure Template where
  source : Text
  tree : Tree
  style : Style := {}
  deriving Repr, DecidableEq

namespace Template

def ofSource (source : Text) (style : Style) : Except Diagnostic Template :=
  (Tree.ofSource source).map fun tree => { source, tree, style }

def render (template : Template) : Text :=
  List.intercalate template.style.lineJoin
    (Layout.treeLines template.style.indentUnit template.tree)

def compile (source : Text) (style : Style) : Except Diagnostic Text :=
  (ofSource source style).map render

end Template
end OutlineMarkup

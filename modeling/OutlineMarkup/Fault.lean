import OutlineMarkup.Node.Kind
import OutlineMarkup.Text.Quoted

/-! What can be wrong with a single line. A fault knows its cause, and not its place in a
template. -/
namespace OutlineMarkup

inductive TagForm where
  | element
  | control
  deriving Repr, DecidableEq

def TagForm.name : TagForm → Text
  | element => "HTML".toList
  | control => "Jinja".toList

/-- What is wrong with a line, or with the attachment of a node. -/
inductive Fault where
  | noMatch (form : TagForm) (text : Text)
  | duplicateAttribute (key tag : Text)
  | malformedAttributes (list : Text)
  | malformedShorthand (shorthand : Text)
  | inlineContentNotAllowed (tag : Text)
  | childrenNotAllowed (kind : NodeKind)
  | alreadyParented
  | mixedIndentation
  deriving Repr, DecidableEq

def Fault.message : Fault → Text
  | noMatch form text =>
    "Text did not match the ".toList ++ form.name ++ " grammar: ".toList ++ text.quoted
  | duplicateAttribute key tag =>
    "Attribute ".toList ++ key ++ " already defined on <".toList ++ tag ++ ">".toList
  | malformedAttributes list =>
    "Mismatched quotes (or missing comma) in attributes: ".toList ++ list
  | malformedShorthand shorthand => "Empty class or id in shorthand: ".toList ++ shorthand
  | inlineContentNotAllowed tag =>
    "Inline content not permitted on <".toList ++ tag ++ ">".toList
  | childrenNotAllowed kind =>
    "Node of type ".toList ++ kind.name ++ " cannot have children".toList
  | alreadyParented => "Child already has a parent".toList
  | mixedIndentation => "You cannot mix tabs and spaces".toList

end OutlineMarkup

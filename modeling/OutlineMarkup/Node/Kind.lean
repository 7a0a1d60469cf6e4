import OutlineMarkup.Text.Basic

/-! The kinds of node a template is made of, and the names they are reported under. -/
namespace OutlineMarkup

/-- What a node is, leaving its payload aside. -/
inductive NodeKind where
  | root
  | empty
  | text
  | preformatted
  | comment
  | element
  | voidElement
  | control
  | directive
  deriving Repr, DecidableEq

namespace NodeKind

def name : NodeKind → Text
  | root => "Root".toList
  | empty => "Empty".toList
  | text => "Text".toList
  | preformatted => "PreformattedText".toList
  | comment => "HtmlComment".toList
  | element => "Html".toList
  | voidElement => "SelfClosingHtml".toList
  | control => "Jinja".toList
  | directive => "SelfClosingJinja".toList

def allowsChildren : NodeKind → Bool
  | empty | comment | voidElement | directive => false
  | root | text | preformatted | element | control => true

end NodeKind
end OutlineMarkup

import OutlineMarkup.Node.Attributes
import OutlineMarkup.Node.Tag

/-! The nodes of a template and what each renders as on its own. -/
namespace OutlineMarkup

/-- An element: its tag, its attributes, and whether it is written on the lines of its content. -/
structure Element where
  tag : Text
  attributes : Attributes := {}
  condensed : Bool := false
  deriving Repr, DecidableEq

namespace Element

/-- The tag and its attributes, as they stand between the angle brackets. -/
def signature (element : Element) : Text :=
  Text.trim (element.tag ++ ' ' :: element.attributes.render)

def opening (element : Element) : Text := '<' :: element.signature ++ ['>']
def closing (element : Element) : Text := '<' :: '/' :: element.tag ++ ['>']

def alone (element : Element) : Text := '<' :: element.signature ++ [' ', '/', '>']

end Element

structure Control where
  tag : Text
  data : Text := []
  deriving Repr, DecidableEq

namespace Control

/-- A statement of the output language, between its delimiters. -/
def statement (text : Text) : Text := '{' :: '%' :: ' ' :: text ++ [' ', '%', '}']

def opening (control : Control) : Text :=
  statement (if control.data = [] then control.tag else control.tag ++ ' ' :: control.data)

/-- The statement that closes the construct opened by a tag. -/
def closingOf (tag : Text) : Text := statement ("end".toList ++ tag)

def continues (control previous : Control) : Bool := Tag.continues control.tag previous.tag

end Control

inductive Node where
  | root
  | empty
  | text (data : Text)
  | preformatted (data : Text)
  | comment (data : Text)
  | element (element : Element)
  | voidElement (element : Element)
  | control (control : Control)
  | directive (control : Control)
  deriving Repr, DecidableEq

namespace Node

def kind : Node → NodeKind
  | root => .root
  | empty => .empty
  | text _ => .text
  | preformatted _ => .preformatted
  | comment _ => .comment
  | element _ => .element
  | voidElement _ => .voidElement
  | control _ => .control
  | directive _ => .directive

def allowsChildren (node : Node) : Bool := node.kind.allowsChildren

/-- The control tag of a node, whether it takes a closing tag or stands alone. -/
def control? : Node → Option Control
  | control c | directive c => some c
  | _ => none

/-- The line a node renders as on its own; the root and blank lines have none. -/
def opening? : Node → Option Text
  | root | empty => none
  | text data | preformatted data => some data
  | comment data => some ("<!-- ".toList ++ data.trim ++ " -->".toList)
  | element e => some e.opening
  | voidElement e => some e.alone
  | control c | directive c => some c.opening

/-- The node of an element, void when its tag is. -/
def ofElement (e : Element) : Node := if Tag.isVoidElement e.tag then voidElement e else element e

/-- The node of a control tag, a directive when its tag stands alone. -/
def ofControl (c : Control) : Node := if Tag.isDirective c.tag then directive c else control c

end Node
end OutlineMarkup

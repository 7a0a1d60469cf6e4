import OutlineMarkup.Text.Json
import OutlineMarkup.Tree

/-! Trees as plain data for inspection: each node with its kind, its tag or text and its settings
sorted by name, and the JSON text of that. -/
namespace OutlineMarkup

/-- A node as plain data: its kind, its tag or text, and its settings by name, sorted. -/
structure Summary where
  kind : NodeKind
  label : Text
  settings : List (Text × Text) := []
  deriving Repr, DecidableEq

namespace Summary

/-- Set a name in a sorted list of settings; an earlier value is lost. -/
def set (name value : Text) : List (Text × Text) → List (Text × Text)
  | [] => [(name, value)]
  | (other, present) :: rest =>
    if name = other then (name, value) :: rest
    else if name < other then (name, value) :: (other, present) :: rest
    else (other, present) :: set name value rest

/-- Settings in the order of their names; of two with one name the later counts. -/
def sorted (settings : List (Text × Text)) : List (Text × Text) :=
  settings.foldl (fun done setting => set setting.1 setting.2 done) []

/-- The settings of an element: its attributes, and whether it is condensed. -/
def elementSettings (element : Element) : List (Text × Text) :=
  sorted (element.attributes.entries ++
    if element.condensed then [("condensed".toList, "true".toList)] else [])

def controlSettings (control : Control) : List (Text × Text) :=
  if control.data = [] then [] else [("data".toList, control.data)]

def ofNode (node : Node) : Summary :=
  match node with
  | .root | .empty => ⟨node.kind, [], []⟩
  | .text data | .preformatted data | .comment data => ⟨node.kind, data, []⟩
  | .element element | .voidElement element => ⟨node.kind, element.tag, elementSettings element⟩
  | .control control | .directive control => ⟨node.kind, control.tag, controlSettings control⟩

/-- A field of a JSON object, its name before the lines of its value. -/
def field (name : Text) : (value : List Text) → List Text
  | [] => []
  | line :: lines => (name.json ++ ':' :: ' ' :: line) :: lines

/-- The lines of the items of a JSON object or array, with commas between the items. -/
def itemLines : List (List Text) → List Text
  | [] => []
  | [item] => item
  | item :: items => Text.appendToLast [','] item ++ itemLines items

/-- The lines of a JSON object or array: its items between its brackets, two blanks deeper. -/
def block (opening closing : Char) (items : List (List Text)) : List Text :=
  [opening] :: (itemLines items).map (fun line => ' ' :: ' ' :: line) ++ [[closing]]

def jsonLines (summary : Summary) (children : List (List Text)) : List Text :=
  block '{' '}' <|
    [field "node_type".toList [summary.kind.name.json],
      field "label".toList [summary.label.json]] ++
    (if summary.settings.isEmpty then [] else
      [field "attributes".toList (block '{' '}'
        (summary.settings.map fun setting => field setting.1 [setting.2.json]))]) ++
    if children.isEmpty then [] else [field "children".toList (block '[' ']' children)]

def forestJsonLines : Forest Summary → List (List Text)
  | .nil => []
  | .cons summary children siblings =>
    jsonLines summary (forestJsonLines children) :: forestJsonLines siblings

end Summary

/-- The summary of a node and of all nodes below it. -/
structure TreeSummary where
  top : Summary
  children : Forest Summary
  deriving Repr, DecidableEq

namespace TreeSummary

def ofNode (tree : Tree) (id : NodeId) : TreeSummary :=
  ⟨.ofNode (tree.node id), (tree.outline id).map .ofNode⟩

def ofTree (tree : Tree) : TreeSummary := ofNode tree Tree.root

def json (summary : TreeSummary) : Text :=
  List.intercalate ['\n'] (summary.top.jsonLines (Summary.forestJsonLines summary.children))

end TreeSummary
end OutlineMarkup

import OutlineMarkup.Settings.KeyPath
import OutlineMarkup.Settings.Toml.Document
import OutlineMarkup.Text.Quoted

/-! A library for settings that are written in a part of TOML, and the style of a template that is
loaded with it. -/
namespace OutlineMarkup.Settings

inductive Problem where
  | missingFile
  | malformedLayer
  | malformedKey
  | notStyle (found : Text)
  | tooFewItems (count : Nat)
  | missingOption (name : Text)
  | notText (key found : Text)
  deriving Repr, DecidableEq

/-- The wording of a problem with a value; the others have none. -/
def Problem.message? : Problem → Option Text
  | missingFile | malformedLayer | malformedKey => none
  | notStyle found =>
    some ("invalid type: ".toList ++ found ++ ", expected struct RenderOptions".toList)
  | tooFewItems count =>
    some ("invalid length ".toList ++ (toString count).toList ++
      ", expected struct RenderOptions with 2 elements".toList)
  | missingOption name => some ("missing field `".toList ++ name ++ "`".toList)
  | notText _ found => some ("invalid type: ".toList ++ found ++ ", expected a string".toList)

/-- Put the fields of a layer over the settings. A key that reads as a path is one. -/
def Value.merge (root : Value) (table : List (Text × Value)) : Value :=
  table.foldl (fun root field => root.layAt (KeyPath.ofKey field.1) field.2) root

/-- The last value for each path. -/
def latest : List (List Step × Value) → List (List Step × Value)
  | [] => []
  | (path, value) :: rest =>
    if rest.any (·.1 == path) then latest rest else (path, value) :: latest rest

/-- What a value is called where it cannot be read. -/
def describe : Value → Text
  | .null => "unit value".toList
  | .bool value => "boolean `".toList ++ textOfBool value ++ "`".toList
  | .int value => "integer `".toList ++ (toString value).toList ++ "`".toList
  | .text value => "string ".toList ++ value.quoted
  | .array _ => "sequence".toList
  | .table _ => "map".toList

def readText (key : Text) (value : Value) : Except Problem Text :=
  match value.scalar? with
  | some scalar => .ok scalar.toText
  | none => .error (.notText key (describe value))

def readField? (value : Value) (key : Text) : Except Problem (Option Text) :=
  match value.field? key with
  | none => .ok none
  | some option => (readText (styleKey ++ '.' :: key) option).map some

def itemKey (index : Nat) : Text := styleKey ++ '[' :: (toString index).toList ++ [']']

/-- Read a style: from a table by name, from an array by position. A value that is no text
is reported before one that is missing. -/
def readStyle : Value → Except Problem Style
  | .table fields =>
    match readField? (.table fields) lineJoinKey, readField? (.table fields) indentUnitKey with
    | .error problem, _ => .error problem
    | _, .error problem => .error problem
    | .ok (some lineJoin), .ok (some indentUnit) => .ok { lineJoin, indentUnit }
    | .ok none, .ok _ => .error (.missingOption lineJoinKey)
    | .ok _, .ok none => .error (.missingOption indentUnitKey)
  | .array [] => .error (.tooFewItems 0)
  | .array (first :: rest) =>
    match readText (itemKey 0) first, rest with
    | .error problem, _ => .error problem
    | .ok _, [] => .error (.tooFewItems 1)
    | .ok lineJoin, second :: _ =>
      (readText (itemKey 1) second).map fun indentUnit => { lineJoin, indentUnit }
  | value => .error (.notStyle (describe value))

/-- The library at hand. -/
abbrev builtin : Library where
  Error := Problem
  Table := List (Text × Value)
  Value := Value
  Path := List Step
  read text :=
    match Toml.document? text with
    | some document => .ok document.toValue.fields
    | none => .error .malformedLayer
  missing := .missingFile
  path key :=
    match KeyPath.ofText? key with
    | some path => .ok path
    | none => .error .malformedKey
  empty := .table []
  merge := Value.merge
  override root overrides :=
    (latest overrides).foldl (fun root pair => root.assign pair.1 pair.2) root
  style root :=
    match root.field? styleKey with
    | some style => readStyle style
    | none => .error (.missingOption styleKey)
  fields table := table.map fun field => (field.1, field.2.entry)
  field? := Value.field?
  isTable := Value.isTable
  scalar? := Value.scalar?
  put := Value.assign

def load (layers : List Layer) (overrides : List (Text × Value)) : Except Problem Style :=
  builtin.load layers overrides

end OutlineMarkup.Settings

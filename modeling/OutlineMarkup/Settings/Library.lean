import OutlineMarkup.Template

/-! Loading a style from layers of settings and from single values over them. How TOML is read, how
settings are kept and how one goes over the other is left to a library. It is a parameter here, and
what loading relies on of it is said by `Library.Lawful`. -/
namespace OutlineMarkup.Settings

/-- The key of the table that holds the style. -/
def styleKey : Text := "render".toList

def lineJoinKey : Text := "line_join_string".toList
def indentUnitKey : Text := "indent_unit_string".toList

def optionKeys : List Text := [lineJoinKey, indentUnitKey]

/-- A key as it is compared. -/
def normalKey (key : Text) : Text := key.map Char.toLower

/-- The layer below all others. -/
def defaultToml : Text :=
  ("# Built-in rendering defaults. Output lines are concatenated with no\n" ++
    "# separator and no indentation unless a caller overrides these.\n" ++
    "[render]\nline_join_string = \"\"\nindent_unit_string = \"\"\n").toList

/-- A layer of settings: a TOML text, or a file that does not exist. -/
inductive Layer where
  | toml (text : Text)
  | missing (required : Bool)
  deriving Repr, DecidableEq

inductive Scalar where
  | text (value : Text)
  | int (value : Int)
  | bool (value : Bool)
  deriving Repr, DecidableEq

def textOfBool (value : Bool) : Text := if value then "true".toList else "false".toList

/-- Strings as they are, numbers and truth values as they are written. -/
def Scalar.toText : Scalar → Text
  | text value => value
  | int value => (toString value).toList
  | bool value => textOfBool value

/-- What stands under a key of a layer. -/
inductive Entry (Table Value : Type) where
  | table (inner : Table)
  | value (value : Value)

namespace Entry
variable {Table Value : Type}

def table? : Entry Table Value → Option Table
  | table inner => some inner
  | value _ => none

def value? : Entry Table Value → Option Value
  | table _ => none
  | value found => some found

end Entry

/-- A library for settings. Layers are read as tables; settings are a value that tables are merged
into. -/
structure Library where
  Error : Type
  Table : Type
  Value : Type
  Path : Type
  read : Text → Except Error Table
  /-- The error for a file that has to exist and does not. -/
  missing : Error
  path : Text → Except Error Path
  empty : Value
  merge : Value → Table → Value
  /-- Put single values over settings. -/
  override : Value → List (Path × Value) → Value
  style : Value → Except Error Style
  -- What follows is not called in loading. It says what tables and values look like.
  fields : Table → List (Text × Entry Table Value)
  field? : Value → Text → Option Value
  isTable : Value → Bool
  scalar? : Value → Option Scalar
  put : Value → Path → Value → Value

namespace Library
variable (lib : Library)

def addLayer (root : lib.Value) : Layer → Except lib.Error lib.Value
  | .toml text => (lib.read text).map (lib.merge root)
  | .missing required => if required then .error lib.missing else .ok root

/-- Put layers over the settings so far, up to the first that fails. -/
def addLayers (root : lib.Value) : List Layer → Except lib.Error lib.Value
  | [] => .ok root
  | layer :: rest =>
    match lib.addLayer root layer with
    | .ok root => addLayers root rest
    | .error error => .error error

/-- The paths of single values; all have to read as paths. -/
def readOverrides : List (Text × lib.Value) → Except lib.Error (List (lib.Path × lib.Value))
  | [] => .ok []
  | (key, value) :: rest =>
    match lib.path key with
    | .ok path => (readOverrides rest).map ((path, value) :: ·)
    | .error error => .error error

/-- The style of layers and single values over the defaults. Paths are read first, then the
layers in order. -/
def load (layers : List Layer) (overrides : List (Text × lib.Value)) : Except lib.Error Style :=
  match lib.readOverrides overrides with
  | .error error => .error error
  | .ok overrides =>
    match lib.addLayers lib.empty (.toml defaultToml :: layers) with
    | .error error => .error error
    | .ok root => lib.style (lib.override root overrides)

/-- What stands under a key that is given in lower case. -/
def entriesAt (table : lib.Table) (key : Text) : List (Entry lib.Table lib.Value) :=
  ((lib.fields table).filter fun field => normalKey field.1 = key).map (·.2)

/-- No key of a table may be read as a path. -/
def HasPlainKeys (table : lib.Table) : Prop :=
  ∀ field ∈ lib.fields table, '.' ∉ field.1 ∧ '[' ∉ field.1

end Library

/-- Whether a character may stand in a name of a path. -/
def isName (c : Char) : Bool := c.isAlphanum || c == ' ' || c == '_' || c == '-'

def IsName (name : Text) : Prop := name ≠ [] ∧ name.all isName

/-- Pairs with one value for each key, the last that was given, in whatever order. -/
structure HoldsLast {α β : Type} (held given : List (α × β)) : Prop where
  nodup : (held.map Prod.fst).Nodup
  mem_iff : ∀ key value, (key, value) ∈ held ↔
    ∃ before after, given = before ++ (key, value) :: after ∧ ∀ pair ∈ after, pair.1 ≠ key

/-- What loading relies on of a library: that it does with TOML, with tables and with single values
what it is documented to do. Of all keys, only the three of the style come into it. -/
structure Library.Lawful (lib : Library) : Prop where
  isTable_empty : lib.isTable lib.empty
  field?_empty : ∀ key, lib.field? lib.empty key = none
  isTable_merge : ∀ {root table}, lib.isTable root → lib.HasPlainKeys table →
    lib.isTable (lib.merge root table)
  /-- Keys are compared in lower case, and what a table does not name stays. -/
  field?_merge_other : ∀ {root table key}, key ∈ styleKey :: optionKeys → lib.isTable root →
    lib.HasPlainKeys table → lib.entriesAt table key = [] →
      lib.field? (lib.merge root table) key = lib.field? root key
  /-- A value that is no table takes the place of what was there. -/
  field?_merge_value : ∀ {root table key value}, key ∈ styleKey :: optionKeys → lib.isTable root →
    lib.HasPlainKeys table → lib.entriesAt table key = [.value value] →
      lib.field? (lib.merge root table) key = some value
  /-- A table is merged into the table that was there, and so on inside of it. -/
  field?_merge_table : ∀ {root table key inner}, key ∈ styleKey :: optionKeys →
    lib.isTable root → lib.HasPlainKeys table → lib.HasPlainKeys inner →
    lib.entriesAt table key = [.table inner] → lib.isTable ((lib.field? root key).getD lib.empty) →
      lib.field? (lib.merge root table) key =
        some (lib.merge ((lib.field? root key).getD lib.empty) inner)
  /-- The defaults are TOML. -/
  read_defaultToml : ∃ table inner join unit, lib.read defaultToml = .ok table ∧
    lib.fields table = [(styleKey, .table inner)] ∧
    (lib.fields inner).Perm [(lineJoinKey, .value join), (indentUnitKey, .value unit)] ∧
    lib.scalar? join = some (.text []) ∧ lib.scalar? unit = some (.text [])
  /-- Two names with a dot between them are a path. A single value there is like a layer that has
  only this key. -/
  put_dotted : ∀ {first second}, IsName first → IsName second →
    ∃ path, lib.path (first ++ '.' :: second) = .ok path ∧
      ∀ value, (lib.scalar? value).isSome → ∃ table inner,
        lib.fields table = [(first, .table inner)] ∧ lib.fields inner = [(second, .value value)] ∧
        ∀ root, lib.isTable root → lib.put root path value = lib.merge root table
  /-- Such a path is known by its names. -/
  path_injective : ∀ {first second first' second' path}, IsName first → IsName second →
    IsName first' → IsName second' → lib.path (first ++ '.' :: second) = .ok path →
    lib.path (first' ++ '.' :: second') = .ok path →
      normalKey first = normalKey first' ∧ normalKey second = normalKey second'
  /-- Single values are kept by path, the last for each, and put over the settings in whatever order
  they are kept in. -/
  override_eq : ∀ root overrides, ∃ held, HoldsLast held overrides ∧
    lib.override root overrides = held.foldl (fun root pair => lib.put root pair.1 pair.2) root
  /-- A style is read from a table by name. Strings are read as they are, numbers and truth values
  as they are written, and other keys are passed over. -/
  style_eq : ∀ {root style join unit joinScalar unitScalar}, lib.isTable root →
    lib.field? root styleKey = some style → lib.isTable style →
    lib.field? style lineJoinKey = some join → lib.field? style indentUnitKey = some unit →
    lib.scalar? join = some joinScalar → lib.scalar? unit = some unitScalar →
      lib.style root = .ok { lineJoin := joinScalar.toText, indentUnit := unitScalar.toText }

end OutlineMarkup.Settings

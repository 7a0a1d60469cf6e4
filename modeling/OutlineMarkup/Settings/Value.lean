import OutlineMarkup.Settings.Library

/-! Settings as a tree of values, changed at one path at a time or by a whole table. Keys are
compared in lower case. -/
namespace OutlineMarkup.Settings

inductive Value where
  | null
  | bool (value : Bool)
  | int (value : Int)
  | text (value : Text)
  | array (items : List Value)
  | table (fields : List (Text × Value))
  deriving Repr

/-- One step of a path: to a field of a table or to an item of an array. -/
inductive Step where
  | field (key : Text)
  | item (index : Int)
  deriving Repr, DecidableEq

def endsInItem (path : List Step) : Bool :=
  match path.getLast? with
  | some (.item _) => true
  | _ => false

def fitsWord (n : Int) : Bool := -0x8000000000000000 ≤ n && n < 0x8000000000000000

namespace Value

/-- The fields of a table; any other value has none. -/
def fields : Value → List (Text × Value)
  | table fields => fields
  | _ => []

/-- The items of an array; any other value has none. -/
def items : Value → List Value
  | array items => items
  | _ => []

def isTable : Value → Bool
  | table _ => true
  | _ => false

def scalar? : Value → Option Scalar
  | text value => some (.text value)
  | int value => some (.int value)
  | bool value => some (.bool value)
  | _ => none

/-- A value of a layer, taken for a table or for a value on its own. -/
def entry : Value → Entry (List (Text × Value)) Value
  | table fields => .table fields
  | value => .value value

def field? (value : Value) (key : Text) : Option Value := value.fields.lookup (normalKey key)

/-- Change one field, or add it at the end. -/
def updateField (change : Option Value → Value) (key : Text) :
    List (Text × Value) → List (Text × Value)
  | [] => [(key, change none)]
  | (other, value) :: rest =>
    if key = other then (key, change (some value)) :: rest
    else (other, value) :: updateField change key rest

/-- Change one item, after as many nulls as it takes to reach it. -/
def updateItem (change : Value → Value) : (position : Nat) → List Value → List Value
  | 0, [] => [change null]
  | 0, value :: rest => change value :: rest
  | position + 1, [] => null :: updateItem change position []
  | position + 1, value :: rest => value :: updateItem change position rest

/-- The position an index stands for; a negative one counts from the end. -/
def positionOf (index : Int) (length : Nat) : Nat :=
  if 0 ≤ index then index.toNat else length - (-index).toNat

/-- Change the value at the end of a path. What is on the way and not of the kind that the path goes
through gives way to an empty table or array. -/
def update (change : Option Value → Value) : List Step → Option Value → Value
  | [], present => change present
  | .field key :: rest, present =>
    table (updateField (update change rest) (normalKey key) ((present.map fields).getD []))
  | .item index :: rest, present =>
    let items := (present.map items).getD []
    array (updateItem (fun value => update change rest (some value))
      (positionOf index items.length) items)

def assign (root : Value) (path : List Step) (value : Value) : Value :=
  update (fun _ => value) path (some root)

mutual

/-- Put a value over what is there. The fields of a table go into the table that is there, or into a
new one; a table without fields leaves what is there. Any other value takes its place. -/
def layOver : (present : Option Value) → Value → Value
  | present, table [] => present.getD (table [])
  | present, table (field :: rest) =>
    table (layFields ((present.map fields).getD []) (field :: rest))
  | _, value => value

def layFields : (present : List (Text × Value)) → List (Text × Value) → List (Text × Value)
  | present, [] => present
  | present, (key, value) :: rest =>
    layFields (updateField (fun present => layOver present value) (normalKey key) present) rest

end

/-- Put a value over the end of a path. What was in an item of an array gives way. -/
def layAt (root : Value) (path : List Step) (value : Value) : Value :=
  update (fun present => layOver (if endsInItem path then none else present) value) path (some root)

@[simp] theorem lookup_updateField_self (change : Option Value → Value) (key : Text)
    (fields : List (Text × Value)) :
    (updateField change key fields).lookup key = some (change (fields.lookup key)) := by
  induction fields with
  | nil => simp [updateField]
  | cons field rest ih =>
    obtain ⟨other, value⟩ := field
    by_cases h : key = other
    · simp [updateField, h]
    · have : (key == other) = false := by simpa using h
      simp [updateField, h, List.lookup_cons, this, ih]

theorem lookup_updateField_of_ne (change : Option Value → Value) {key other : Text}
    (h : other ≠ key) (fields : List (Text × Value)) :
    (updateField change key fields).lookup other = fields.lookup other := by
  have hb : (other == key) = false := by simpa using h
  induction fields with
  | nil => simp [updateField, List.lookup_cons, hb]
  | cons field rest ih =>
    obtain ⟨name, value⟩ := field
    by_cases hk : key = name
    · subst hk
      simp [updateField, List.lookup_cons, hb]
    · simp [updateField, hk, List.lookup_cons, ih]

end Value
end OutlineMarkup.Settings

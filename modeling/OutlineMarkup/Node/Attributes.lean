import OutlineMarkup.Fault

/-! The attributes of an element in the order they were first given. A key is given once, except
`class`, whose values accumulate. -/
namespace OutlineMarkup

/-- Keys with their values, in order of first addition. -/
structure Attributes where
  entries : List (Text × Text) := []
  deriving Repr, DecidableEq

namespace Attributes

/-- The key whose values accumulate. -/
def classKey : Text := "class".toList

def idKey : Text := "id".toList

def get? (attributes : Attributes) (key : Text) : Option Text := attributes.entries.lookup key

def replace (attributes : Attributes) (key value : Text) : Attributes :=
  ⟨attributes.entries.map fun entry => if entry.1 = key then (key, value) else entry⟩

/-- Add a value, trimmed, for a key of the element with the given tag. A second `class` is joined to
the first by a space; any other key is refused when it is already there. -/
def add (attributes : Attributes) (key value tag : Text) : Except Fault Attributes :=
  match attributes.get? key with
  | none => .ok ⟨attributes.entries ++ [(key, value.trim)]⟩
  | some present =>
    if key = classKey then
      .ok (attributes.replace key (Text.trim (present ++ ' ' :: value.trim)))
    else .error (.duplicateAttribute key tag)

/-- Add several values in order, up to the first that is refused. -/
def addAll (attributes : Attributes) (tag : Text) : List (Text × Text) → Except Fault Attributes
  | [] => .ok attributes
  | (key, value) :: rest =>
    match attributes.add key value tag with
    | .ok attributes => attributes.addAll tag rest
    | .error fault => .error fault

def renderEntry (entry : Text × Text) : Text := entry.1 ++ '=' :: '"' :: entry.2 ++ ['"']

/-- The attributes as written in a tag, separated by single spaces. -/
def render (attributes : Attributes) : Text :=
  List.intercalate [' '] (attributes.entries.map renderEntry)

@[simp] theorem get?_empty (key : Text) : ({} : Attributes).get? key = none := rfl
@[simp] theorem render_empty : ({} : Attributes).render = [] := rfl

/-- Adding fails exactly for a key that is there already and is not `class`. -/
theorem add_eq_error_iff {attributes : Attributes} {key value tag : Text} {fault : Fault} :
    attributes.add key value tag = .error fault ↔
      (attributes.get? key).isSome ∧ key ≠ classKey ∧ fault = .duplicateAttribute key tag := by
  unfold add
  cases h : attributes.get? key with
  | none => simp
  | some present => by_cases hk : key = classKey <;> simp [hk, eq_comm]

end Attributes
end OutlineMarkup

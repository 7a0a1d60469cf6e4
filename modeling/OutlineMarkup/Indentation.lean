import OutlineMarkup.Fault

/-! The indentation of a line, and the open lines around it. -/
namespace OutlineMarkup

/-- The width of a line's margin, counted in characters. A margin with both spaces and tabs has
none. -/
def indentation (line : Text) : Except Fault Nat :=
  if line.margin.contains ' ' && line.margin.contains '\t' then .error .mixedIndentation
  else .ok line.margin.length

/-- A line that is still open, with the width of its margin and whatever it stands for. -/
structure Frame (α : Type) where
  width : Nat
  item : α
  deriving Repr, DecidableEq

namespace Frame

variable {α : Type}

/-- The open lines around a line of the given width, innermost first: all of them when it is wider
than the innermost one, and otherwise those outside the open line of the same width. -/
def enclosing? (width : Nat) : List (Frame α) → Option (List (Frame α))
  | [] => some []
  | inner :: outer =>
    if inner.width < width then some (inner :: outer)
    else
      match (inner :: outer).dropWhile (width < ·.width) with
      | same :: around => if same.width = width then some around else none
      | [] => none

theorem suffix_of_enclosing? {width : Nat} {frames around : List (Frame α)}
    (h : enclosing? width frames = some around) : around <:+ frames := by
  unfold enclosing? at h
  split at h
  · cases h
    exact List.suffix_refl _
  · split at h
    · cases h
      exact List.suffix_refl _
    · split at h
      · next hd =>
        split at h
        · cases h
          exact (List.suffix_cons _ _).trans (hd ▸ List.dropWhile_suffix _)
        · cases h
      · cases h

end Frame
end OutlineMarkup

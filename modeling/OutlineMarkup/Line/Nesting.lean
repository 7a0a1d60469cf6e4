import OutlineMarkup.Fault

/-! The separator of nested tags on one line: a colon before white space, outside quotes and
brackets. -/
namespace OutlineMarkup

/-- Whether white space outside quotes and brackets ends the search for a separator. In an element
line it does, since content begins there; in a control line the data may hold it. -/
def TagForm.stopsAtBlank : TagForm → Bool
  | element => true
  | control => false

namespace Line

/-- Where a search along a line stands: the quote it is inside of, if any, and the number of
brackets it is inside of. -/
structure Cursor where
  quote : Option Char := none
  depth : Nat := 0
  deriving Repr, DecidableEq

namespace Cursor

def isQuote (c : Char) : Bool := c == '"' || c == '\''

def opens (c : Char) : Bool := c == '(' || c == '[' || c == '{'
def closes (c : Char) : Bool := c == ')' || c == ']' || c == '}'

def isOutside (cursor : Cursor) : Bool := cursor.quote.isNone && cursor.depth == 0

/-- Move past a character. A closing bracket that closes nothing counts for nothing. -/
def step (cursor : Cursor) (c : Char) : Cursor :=
  match cursor.quote with
  | some quote => if c = quote then { cursor with quote := none } else cursor
  | none =>
    if isQuote c then { cursor with quote := some c }
    else if opens c then { cursor with depth := cursor.depth + 1 }
    else if closes c then { cursor with depth := cursor.depth - 1 }
    else cursor

end Cursor

def startsBlank (t : Text) : Bool := t.head?.any Text.isBlank

/-- Split a line at its first separator into the tag before it and the line nested in it. -/
def splitFrom? (form : TagForm) (cursor : Cursor) : Text → Option (Text × Text)
  | [] => none
  | c :: t =>
    if cursor.isOutside && c == ':' && startsBlank t then some ([], Text.trimStart t)
    else if cursor.isOutside && form.stopsAtBlank && Text.isBlank c then none
    else (splitFrom? form (cursor.step c) t).map fun (head, rest) => (c :: head, rest)

def split? (form : TagForm) (line : Text) : Option (Text × Text) := splitFrom? form {} line

/-- A nested line is shorter than the line it is nested in. -/
theorem length_lt_of_splitFrom? {form : TagForm} {cursor : Cursor} {line head rest : Text}
    (h : splitFrom? form cursor line = some (head, rest)) : rest.length < line.length := by
  induction line generalizing cursor head with
  | nil => simp [splitFrom?] at h
  | cons c t ih =>
    simp only [splitFrom?] at h
    split at h
    · cases h
      exact Nat.lt_succ_of_le (Text.length_trimStart_le t)
    · split at h
      · cases h
      · obtain ⟨⟨head', rest'⟩, hs, he⟩ := Option.map_eq_some_iff.1 h
        cases he
        exact Nat.lt_succ_of_lt (ih hs)

theorem length_lt_of_split? {form : TagForm} {line head rest : Text}
    (h : split? form line = some (head, rest)) : rest.length < line.length :=
  length_lt_of_splitFrom? h

end Line
end OutlineMarkup

import OutlineMarkup.Text.Basic

/-! References to variables inside a line. A reference is a hash, an opening brace, a body free of
braces and a closing brace; it becomes an expression of the output language. -/
namespace OutlineMarkup.Source

/-- A line is made of single characters and references. -/
inductive Piece where
  | plain (c : Char)
  | reference (body : Text)
  deriving Repr, DecidableEq

namespace Piece

def source : Piece → Text
  | plain c => [c]
  | reference body => '#' :: '{' :: body ++ ['}']

/-- What a body refers to: the body without outer white space, or its last character when it is all
white space. -/
def expression (body : Text) : Text :=
  if body.trim = [] then body.getLast?.toList else body.trim

def expansion : Piece → Text
  | plain c => [c]
  | reference body => '{' :: '{' :: ' ' :: expression body ++ [' ', '}', '}']

def isReference : Piece → Bool
  | plain _ => false
  | reference _ => true

end Piece

def isBrace (c : Char) : Bool := c == '{' || c == '}'

/-- The body of the reference a text begins with, and what follows it. -/
def reference? : Text → Option (Text × Text)
  | '#' :: '{' :: t =>
    match t.takeWhile (!isBrace ·), t.dropWhile (!isBrace ·) with
    | c :: body, '}' :: rest => some (c :: body, rest)
    | _, _ => none
  | _ => none

/-- A reference that a text begins with is the start of that text. -/
theorem eq_of_reference? {t body rest : Text} (h : reference? t = some (body, rest)) :
    t = (Piece.reference body).source ++ rest := by
  unfold reference? at h
  split at h
  · rename_i t
    split at h <;> cases h
    rename_i ht hd
    have := List.takeWhile_append_dropWhile (p := (!isBrace ·)) (l := t)
    rw [ht, hd] at this
    simp [Piece.source, ← this]
  · cases h

theorem length_lt_of_reference? {t body rest : Text} (h : reference? t = some (body, rest)) :
    rest.length < t.length := by
  rw [eq_of_reference? h]
  simp [Piece.source]
  omega

def pieces : Text → List Piece
  | [] => []
  | c :: t =>
    match h : reference? (c :: t) with
    | some (body, rest) =>
      have := length_lt_of_reference? h
      .reference body :: pieces rest
    | none => .plain c :: pieces t
termination_by t => t.length
decreasing_by
  · assumption
  · exact Nat.lt_succ_self t.length

def references (t : Text) : List Text := ((pieces t).filter Piece.isReference).map Piece.source

/-- A line with every reference turned into an expression. -/
def expand (t : Text) : Text := (pieces t).flatMap Piece.expansion

@[simp] theorem pieces_nil : pieces [] = [] := by rw [pieces]

theorem pieces_of_reference?_eq_some {t body rest : Text}
    (h : reference? t = some (body, rest)) : pieces t = .reference body :: pieces rest := by
  cases t with
  | nil => simp [reference?] at h
  | cons c t =>
    rw [pieces]
    split
    · simp_all
    · simp_all

theorem pieces_of_reference?_eq_none {c : Char} {t : Text} (h : reference? (c :: t) = none) :
    pieces (c :: t) = .plain c :: pieces t := by
  rw [pieces]
  split <;> simp_all

@[simp] theorem expand_nil : expand [] = [] := by simp [expand]

/-- The pieces of a line are the line. -/
@[simp] theorem flatMap_source_pieces (t : Text) : (pieces t).flatMap Piece.source = t := by
  fun_induction pieces t with
  | case1 => rfl
  | case2 c t body rest h _ ih => simp [ih, ← eq_of_reference? h]
  | case3 c t h ih => simp [ih, Piece.source]

end OutlineMarkup.Source

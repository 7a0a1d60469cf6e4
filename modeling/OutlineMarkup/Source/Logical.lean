import OutlineMarkup.Diagnostic
import OutlineMarkup.Source.Reference

/-! Logical lines. A line that ends in a backslash goes on in the next one, a line that begins
with a semicolon is a note to the reader, and references are expanded. Every physical line keeps
its number: a run of continued lines gives one logical line and then blank ones. -/
namespace OutlineMarkup.Source

/-- What a physical line contributes. -/
inductive Physical where
  | note
  | continued (text : Text)
  | whole (text : Text)
  deriving Repr, DecidableEq

namespace Physical

/-- Whether the first character of a line that is not white space is a semicolon. -/
def isNote (line : Text) : Bool := line.trimStart.head? == some ';'

/-- Read a physical line, dropping the white space it ends with and the backslash before that. -/
def ofText (line : Text) : Physical :=
  if isNote line then note
  else if line.trimEnd.getLast? = some '\\' then continued line.trimEnd.dropLast
  else whole line.trimEnd

end Physical

/-- The physical lines of a source, without the white space it ends with. -/
def physicalLines (source : Text) : List Text := source.trimEnd.splitOn '\n'

/-- A run of continued lines: its pieces so far, and the number of physical lines it has taken. -/
structure Run where
  pieces : List Text
  taken : Nat
  deriving Repr, DecidableEq

namespace Run

/-- A run begins with a piece that keeps its margin. -/
def start (text : Text) : Run := ⟨[text.trimEnd], 1⟩

/-- A later piece of a run is trimmed at both ends. -/
def extend (run : Run) (text : Text) : Run := ⟨run.pieces ++ [text.trim], run.taken + 1⟩

/-- A note inside a run leaves nothing but its line number. -/
def skip (run : Run) : Run := { run with taken := run.taken + 1 }

/-- The logical line of a run, closed by a last piece. -/
def close (run : Run) (text : Text) : Text :=
  List.intercalate [' '] (run.pieces ++ [text.trim])

end Run

/-- The logical lines of a list of physical lines, from a run that may be open. There are none when
the last run is left open. -/
def logicalLines? : Option Run → List Text → Option (List Text)
  | none, [] => some []
  | some _, [] => none
  | none, line :: rest =>
    match Physical.ofText line with
    | .note => (logicalLines? none rest).map ([] :: ·)
    | .continued text => logicalLines? (some (.start text)) rest
    | .whole text => (logicalLines? none rest).map (expand text :: ·)
  | some run, line :: rest =>
    match Physical.ofText line with
    | .note => logicalLines? (some run.skip) rest
    | .continued text => logicalLines? (some (run.extend text)) rest
    | .whole text =>
      (logicalLines? none rest).map
        (expand (run.close text) :: List.replicate run.taken [] ++ ·)

def logicalLines (source : Text) : Except Diagnostic (List Text) :=
  match logicalLines? none (physicalLines source) with
  | some lines => .ok lines
  | none => .error (.openContinuation ((physicalLines source).length - 1))

end OutlineMarkup.Source

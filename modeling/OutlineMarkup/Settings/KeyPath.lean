import OutlineMarkup.Settings.Value

/-! Paths written as text: a name, then names after dots and indices in brackets. -/
namespace OutlineMarkup.Settings.KeyPath

def decimal (digits : Text) : Nat := digits.foldl (fun n c => 10 * n + (c.toNat - '0'.toNat)) 0

def isPadding (c : Char) : Bool := c == ' ' || c == '\t'

def index? (t : Text) : Option (Int × Text) :=
  let t := t.dropWhile isPadding
  let negative := t.head? == some '-'
  let t := if negative then t.tail else t
  let digits := t.takeWhile Char.isDigit
  let n : Int := if negative then -(decimal digits : Int) else decimal digits
  match (t.dropWhile Char.isDigit).dropWhile isPadding with
  | ']' :: rest => if digits.isEmpty || !fitsWord n then none else some (n, rest)
  | _ => none

def name? (t : Text) : Option (Text × Text) :=
  if (t.takeWhile isName).isEmpty then none else some (t.takeWhile isName, t.dropWhile isName)

def step? : Text → Option (Step × Text)
  | '.' :: t => (name? t).map fun (name, rest) => (.field name, rest)
  | '[' :: t => (index? t).map fun (index, rest) => (.item index, rest)
  | _ => none

/-- The steps a text is made of, in at most `fuel` steps. -/
def steps? : (fuel : Nat) → Text → Option (List Step)
  | _, [] => some []
  | 0, _ => none
  | fuel + 1, t =>
    match step? t with
    | some (step, rest) => (steps? fuel rest).map (step :: ·)
    | none => none

/-- The path that a text stands for. Every step takes at least one character of it. -/
def ofText? (t : Text) : Option (List Step) :=
  match name? t with
  | some (name, rest) => (steps? rest.length rest).map (.field name :: ·)
  | none => none

/-- The path of a key that is used as it is when it does not read as a path. -/
def ofKey (key : Text) : List Step := (ofText? key).getD [.field key]

end OutlineMarkup.Settings.KeyPath

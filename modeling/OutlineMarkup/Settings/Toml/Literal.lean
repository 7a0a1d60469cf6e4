import OutlineMarkup.Settings.Value

/-! The single values and keys of a TOML document. -/
namespace OutlineMarkup.Settings.Toml

/-- The number that a digit stands for, letters counting on after nine. -/
def digit? (base : Nat) (c : Char) : Option Nat :=
  let n :=
    if c.isDigit then c.toNat - '0'.toNat
    else if 'a' ≤ c.toLower ∧ c.toLower ≤ 'z' then c.toLower.toNat - 'a'.toNat + 10
    else base
  if n < base then some n else none

/-- Read digits on, with single underscores between them. `value` is what was read before, and
`afterDigit` says whether a digit came last. -/
def digits? (base : Nat) : (value : Nat) → (afterDigit : Bool) → Text → Option Nat
  | value, afterDigit, [] => if afterDigit then some value else none
  | value, afterDigit, c :: t =>
    if c = '_' then if afterDigit then digits? base value false t else none
    else
      match digit? base c with
      | some n => digits? base (base * value + n) true t
      | none => none

/-- A decimal number without a sign and without leading zeros. -/
def decimal? : Text → Option Nat
  | ['0'] => some 0
  | '0' :: _ => none
  | t => digits? 10 0 false t

/-- A number without a sign: decimal, or with the mark of another base. -/
def magnitude? : Text → Option Nat
  | '0' :: 'x' :: t => digits? 16 0 false t
  | '0' :: 'o' :: t => digits? 8 0 false t
  | '0' :: 'b' :: t => digits? 2 0 false t
  | t => decimal? t

/-- A whole number in the range of a signed word of 64 bits. -/
def integer? (t : Text) : Option Int :=
  let n : Option Int :=
    match t with
    | '-' :: t => (decimal? t).map fun n => -(n : Int)
    | '+' :: t => (decimal? t).map Int.ofNat
    | t => (magnitude? t).map Int.ofNat
  n.filter fitsWord

def isStringChar (c : Char) : Bool := c == '\t' || (0x20 ≤ c.toNat && c.toNat != 0x7f)

def codePoint? (hex : Text) : Option Char :=
  if hex.contains '_' then none
  else
    match digits? 16 0 false hex with
    | some n => if n.isValidChar then some (Char.ofNat n) else none
    | none => none

def escaped? (c : Char) : Option Char :=
  if c = 'b' then some '\x08'
  else if c = 't' then some '\t'
  else if c = 'n' then some '\n'
  else if c = 'f' then some '\x0c'
  else if c = 'r' then some '\r'
  else if c = '"' then some '"'
  else if c = '\\' then some '\\'
  else none

def basicString? : Text → Option (Text × Text)
  | '"' :: t => some ([], t)
  | '\\' :: 'u' :: a :: b :: c :: d :: t =>
    match codePoint? [a, b, c, d], basicString? t with
    | some x, some (s, rest) => some (x :: s, rest)
    | _, _ => none
  | '\\' :: 'U' :: a :: b :: c :: d :: e :: f :: g :: h :: t =>
    match codePoint? [a, b, c, d, e, f, g, h], basicString? t with
    | some x, some (s, rest) => some (x :: s, rest)
    | _, _ => none
  | '\\' :: c :: t =>
    match escaped? c, basicString? t with
    | some x, some (s, rest) => some (x :: s, rest)
    | _, _ => none
  | c :: t =>
    if isStringChar c && c != '\\' then (basicString? t).map fun (s, rest) => (c :: s, rest)
    else none
  | [] => none

def literalString? : Text → Option (Text × Text)
  | '\'' :: t => some ([], t)
  | c :: t =>
    if isStringChar c then (literalString? t).map fun (s, rest) => (c :: s, rest) else none
  | [] => none

def isSpace (c : Char) : Bool := c == ' ' || c == '\t'

def isBareKey (c : Char) : Bool := c.isAlphanum || c == '_' || c == '-'

def simpleKey? : Text → Option (Text × Text)
  | '"' :: t => basicString? t
  | '\'' :: t => literalString? t
  | t =>
    if (t.takeWhile isBareKey).isEmpty then none
    else some (t.takeWhile isBareKey, t.dropWhile isBareKey)

/-- How many parts a key may have, and how many brackets and braces may be open at a time. -/
def maxDepth : Nat := 79

/-- A key of at most `depth` parts between dots, and what follows. A key of more parts is refused
as a whole. -/
def key? : (depth : Nat) → Text → Option (List Text × Text)
  | 0, _ => none
  | depth + 1, t =>
    match simpleKey? t with
    | none => none
    | some (part, rest) =>
      match rest.dropWhile isSpace with
      | '.' :: rest =>
        (key? depth (rest.dropWhile isSpace)).map fun (parts, rest) => (part :: parts, rest)
      | rest => some ([part], rest)

/-- Whether a character may stand in a word: a number or a truth value. -/
def isWordChar (c : Char) : Bool := c.isAlphanum || c == '_' || c == '+' || c == '-' || c == '.'

def word? (t : Text) : Option Value :=
  if t = "true".toList then some (.bool true)
  else if t = "false".toList then some (.bool false)
  else (integer? t).map .int

def scalar? : Text → Option (Value × Text)
  | '"' :: t => (basicString? t).map fun (s, rest) => (.text s, rest)
  | '\'' :: t => (literalString? t).map fun (s, rest) => (.text s, rest)
  | t => (word? (t.takeWhile isWordChar)).map fun v => (v, t.dropWhile isWordChar)

/-- What follows a line, past an optional comment and the line break; the end of the text ends a
line too. -/
def lineEnd? (t : Text) : Option Text :=
  let t := t.dropWhile isSpace
  let t := if t.head? = some '#' then t.dropWhile isStringChar else t
  match t with
  | [] => some []
  | '\n' :: rest => some rest
  | '\r' :: '\n' :: rest => some rest
  | _ => none

end OutlineMarkup.Settings.Toml

import OutlineMarkup.Settings.Toml.Moment

/-! TOML documents: tables under headers, keys with values, arrays and inline tables. A document
is kept as the list of its paths, each a table or a value, in the order they come up. A table that
begins with a certain key stands for a date or a time. Numbers with a fraction, dates without
quotes, strings of several lines and arrays of tables under headers are not read. -/
namespace OutlineMarkup.Settings.Toml

/-- How a table came about: by a header below it, by a dotted key through it, by a header of its
own, or between braces. -/
inductive TableForm where
  | implied
  | dotted
  | declared
  | inline
  deriving Repr, DecidableEq

inductive Item where
  | table (form : TableForm)
  | value (value : Value)
  deriving Repr

/-- The key by which a table stands for a date or a time. -/
def momentKey : Text := "$__toml_private_datetime".toList

/-- The paths of a document with what is there. -/
abbrev Document := List (List Text × Item)

namespace Document

/-- Make sure that each step of a path below a base is a table that may be gone through. A dotted
key goes through no table with a header of its own. -/
def descend? (dotted : Bool) : (base path : List Text) → Document → Option Document
  | _, [], document => some document
  | base, key :: path, document =>
    let here := base ++ [key]
    match document.lookup here with
    | none =>
      descend? dotted here path
        (document ++ [(here, .table (if dotted then .dotted else .implied))])
    | some (.table .declared) => if dotted then none else descend? dotted here path document
    | some (.table .implied) | some (.table .dotted) => descend? dotted here path document
    | some (.table .inline) | some (.value _) => none

/-- Add a table with a header. It may have been implied before, and nothing else; it then moves
behind the other tables, with all that is in it. -/
def header? (path : List Text) (document : Document) : Option Document :=
  match descend? false [] path.dropLast document with
  | none => none
  | some document =>
    match document.lookup path with
    | none => some (document ++ [(path, .table .declared)])
    | some (.table .implied) =>
      some ((document.filter fun entry => !path.isPrefixOf entry.1) ++
        (document.filter fun entry => path.isPrefixOf entry.1).map fun entry =>
          if entry.1 = path then (path, .table .declared) else entry)
    | _ => none

def isDotted (document : Document) (path : List Text) : Bool :=
  match document.lookup path with
  | some (.table .dotted) => true
  | _ => false

/-- Add entries at a new path below a base. -/
def assign? (document : Document) (base path : List Text) (entries : Document) :
    Option Document :=
  match descend? true base path.dropLast document with
  | none => none
  | some document =>
    if (path.length ≤ 1 || document.isDotted (base ++ path.dropLast)) &&
        (document.lookup (base ++ path)).isNone then
      some (document ++ entries.map fun entry => (base ++ path ++ entry.1, entry.2))
    else none

def firstKey? (document : Document) (path : List Text) : Option Text :=
  document.findSome? fun entry => if entry.1.dropLast = path then entry.1.getLast? else none

/-- The tables that stand for a date or a time: those in which `momentKey` comes first. -/
def momentTables (document : Document) : List (List Text) :=
  (document.filter fun entry => entry.1.getLast? = some momentKey ∧
    document.firstKey? entry.1.dropLast = some momentKey).map (·.1.dropLast)

/-- The date or time that a table stands for, as it is written. -/
def moment? (document : Document) (path : List Text) : Option Text :=
  match document.lookup (path ++ [momentKey]) with
  | some (.value (.text t)) => (Moment.ofText? t).map Moment.toText
  | _ => none

/-- Put dates and times in the places of the tables that stand for them. What else is in such a
table does not count. -/
def settle? (document : Document) : Option Document :=
  let tables := document.momentTables
  (document.filter fun entry =>
    !tables.any fun path => path.isPrefixOf entry.1 && path != entry.1).mapM fun entry =>
      if entry.1 ∈ tables then
        (document.moment? entry.1).map fun t => (entry.1, .value (.text t))
      else some entry

/-- Put an item at the end of a path of keys. A table that is there already stays as it is. -/
def placeAt (item : Item) : List Text → Option Value → Value
  | [], present =>
    match item with
    | .table _ => present.getD (.table [])
    | .value value => value
  | key :: path, present =>
    .table (Value.updateField (placeAt item path) key ((present.map Value.fields).getD []))

def toValue (document : Document) : Value :=
  document.foldl (fun root entry => placeAt entry.2 entry.1 (some root)) (.table [])

end Document

/-- Skip white space, line breaks and comments, in at most `fuel` lines. -/
def skipLines : (fuel : Nat) → Text → Text
  | 0, t => t
  | fuel + 1, t =>
    match t.dropWhile isSpace with
    | [] => []
    | c :: t =>
      if c = '#' ∨ c = '\n' ∨ c = '\r' then
        match lineEnd? (c :: t) with
        | some rest => skipLines fuel rest
        | none => c :: t
      else c :: t

/-- The paths of a value on its own: the empty path to a single value or an array, and those of an
inline table. -/
def single (value : Value) : Document := [([], .value value)]

def valueOf? (document : Document) : Option Value :=
  document.settle?.map fun
    | [([], .value value)] => value
    | document => document.toValue

mutual

/-- A value on its own, in which `depth` more brackets and braces may open, and what follows. -/
def literal? : (fuel depth : Nat) → Text → Option (Document × Text)
  | 0, _, _ => none
  | _ + 1, 0, '[' :: _ | _ + 1, 0, '{' :: _ => none
  | fuel + 1, depth + 1, '[' :: t =>
    (elements? fuel depth t).map fun (values, rest) => (single (.array values), rest)
  | fuel + 1, depth + 1, '{' :: t =>
    match t.dropWhile isSpace with
    | '}' :: rest => some ([([], .table .inline)], rest)
    | t =>
      (pairs? fuel depth t []).map fun (document, rest) => (([], .table .inline) :: document, rest)
  | _ + 1, _, t => (scalar? t).map fun (value, rest) => (single value, rest)

/-- The values of an array up to its closing bracket, and what follows. -/
def elements? : (fuel depth : Nat) → Text → Option (List Value × Text)
  | 0, _, _ => none
  | fuel + 1, depth, t =>
    match skipLines t.length t with
    | ']' :: rest => some ([], rest)
    | t =>
      match literal? fuel depth t with
      | none => none
      | some (document, rest) =>
        match valueOf? document, skipLines rest.length rest with
        | some value, ']' :: rest => some ([value], rest)
        | some value, ',' :: rest =>
          (elements? fuel depth rest).map fun (values, rest) => (value :: values, rest)
        | _, _ => none

/-- The pairs of an inline table up to its closing brace, after those before, and what follows. -/
def pairs? : (fuel depth : Nat) → Text → Document → Option (Document × Text)
  | 0, _, _, _ => none
  | fuel + 1, depth, t, document =>
    match pair? fuel depth t with
    | none => none
    | some (path, entries, rest) =>
      match document.assign? [] path entries with
      | none => none
      | some document =>
        match rest.dropWhile isSpace with
        | '}' :: rest => some (document, rest)
        | ',' :: rest => pairs? fuel depth (rest.dropWhile isSpace) document
        | _ => none

def pair? : (fuel depth : Nat) → Text → Option (List Text × Document × Text)
  | 0, _, _ => none
  | fuel + 1, depth, t =>
    match key? maxDepth t with
    | some (path, '=' :: rest) =>
      (literal? fuel depth (rest.dropWhile isSpace)).map fun (entries, rest) =>
        (path, entries, rest)
    | _ => none

end

/-- Read the lines of a document on, under the header read last. -/
def lines? : (fuel : Nat) → (base : List Text) → Document → Text → Option Document
  | 0, _, _, _ => none
  | fuel + 1, base, document, t =>
    match t.dropWhile isSpace with
    | [] => some document
    | c :: t =>
      if c = '#' ∨ c = '\n' ∨ c = '\r' then
        match lineEnd? (c :: t) with
        | some rest => lines? fuel base document rest
        | none => none
      else if c = '[' then
        match key? maxDepth (t.dropWhile isSpace) with
        | some (path, ']' :: rest) =>
          match document.header? path, lineEnd? rest with
          | some document, some rest => lines? fuel path document rest
          | _, _ => none
        | _ => none
      else
        match pair? (3 * t.length + 3) maxDepth (c :: t) with
        | some (path, entries, rest) =>
          match document.assign? base path entries, lineEnd? rest with
          | some document, some rest => lines? fuel base document rest
          | _, _ => none
        | none => none

/-- Read a document, past a byte order mark at its start. Every line takes at least one character
of it. A document as a whole does not stand for a date or a time. -/
def document? (t : Text) : Option Document :=
  match lines? (t.length + 1) [] [] (if t.head? = some '\ufeff' then t.tail else t) with
  | some document => if [] ∈ document.momentTables then none else document.settle?
  | none => none

end OutlineMarkup.Settings.Toml

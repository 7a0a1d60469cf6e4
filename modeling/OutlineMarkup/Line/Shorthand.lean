import OutlineMarkup.Node.Attributes

/-! Classes and ids written directly after a tag: each is a dot or a hash and a name. -/
namespace OutlineMarkup.Line.Shorthand

def key? (c : Char) : Option Text :=
  if c = '.' then some Attributes.classKey
  else if c = '#' then some Attributes.idKey
  else none

/-- Whether a character may stand in a shorthand after its first mark. -/
def isBody (c : Char) : Bool := c != '(' && c != ')' && !Text.isBlank c

/-- Cut off the shorthand a text begins with: a mark and at least one more character. -/
def split? : Text → Option (Text × Text)
  | c :: t =>
    if (key? c).isSome && !(t.takeWhile isBody).isEmpty then
      some (c :: t.takeWhile isBody, t.dropWhile isBody)
    else none
  | [] => none

/-- Cutting off a shorthand loses nothing. -/
theorem append_of_split? {t shorthand rest : Text} (h : split? t = some (shorthand, rest)) :
    shorthand ++ rest = t := by
  unfold split? at h
  split at h
  · split at h <;> cases h
    simp
  · cases h

/-- The chunks of a shorthand: the attribute of each mark with the name up to the next mark. -/
def chunks : Text → List (Text × Text)
  | [] => []
  | c :: t =>
    match key? c with
    | some key => (key, t.takeWhile fun d => (key? d).isNone) :: chunks t
    | none => chunks t

/-- Add chunks in order, up to the first that is nameless or refused. -/
def addChunks (shorthand tag : Text) (attributes : Attributes) :
    List (Text × Text) → Except Fault Attributes
  | [] => .ok attributes
  | (key, name) :: rest =>
    if name.isEmpty then .error (.malformedShorthand shorthand)
    else
      match attributes.add key name tag with
      | .ok attributes => addChunks shorthand tag attributes rest
      | .error fault => .error fault

def addTo (attributes : Attributes) (shorthand tag : Text) : Except Fault Attributes :=
  addChunks shorthand tag attributes (chunks shorthand)

end OutlineMarkup.Line.Shorthand

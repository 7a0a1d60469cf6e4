import OutlineMarkup.Node.Attributes

/-! Attribute lists: entries between parentheses, separated by the commas outside double quotes. -/
namespace OutlineMarkup.Line.AttributeList

/-- Cut a text after the parenthesis that closes it. Inside double quotes, which `quoted` says,
every character stands for itself; outside, no parenthesis may open. -/
def close? : (quoted : Bool) → Text → Option (Text × Text)
  | _, [] => none
  | true, c :: t => (close? (c != '"') t).map fun (list, rest) => (c :: list, rest)
  | false, c :: t =>
    if c = ')' then some ([c], t)
    else if c = '(' then none
    else (close? (c == '"') t).map fun (list, rest) => (c :: list, rest)

def split? : Text → Option (Text × Text)
  | '(' :: t => (close? false t).map fun (list, rest) => ('(' :: list, rest)
  | _ => none

theorem append_of_close? {quoted : Bool} {t list rest : Text}
    (h : close? quoted t = some (list, rest)) : list ++ rest = t := by
  induction t generalizing quoted list with
  | nil => simp [close?] at h
  | cons c t ih =>
    cases quoted with
    | true =>
      obtain ⟨⟨list', rest'⟩, hs, he⟩ := Option.map_eq_some_iff.1 h
      cases he
      simp [ih hs]
    | false =>
      simp only [close?] at h
      split at h
      · cases h
        rfl
      · split at h
        · cases h
        · obtain ⟨⟨list', rest'⟩, hs, he⟩ := Option.map_eq_some_iff.1 h
          cases he
          simp [ih hs]

/-- Cutting off an attribute list loses nothing. -/
theorem append_of_split? {t list rest : Text} (h : split? t = some (list, rest)) :
    list ++ rest = t := by
  unfold split? at h
  split at h
  · obtain ⟨⟨list', rest'⟩, hs, he⟩ := Option.map_eq_some_iff.1 h
    cases he
    simp [append_of_close? hs]
  · cases h

/-- The parts of a text between the commas outside double quotes. A quote that is never closed is
dropped and parts the text like a comma. -/
def parts : (quoted : Bool) → Text → List Text
  | _, [] => [[]]
  | true, c :: t => (parts (c != '"') t).modifyHead (c :: ·)
  | false, c :: t =>
    if c = ',' then [] :: parts false t
    else if c = '"' then
      if t.contains '"' then (parts true t).modifyHead (c :: ·) else [] :: parts false t
    else (parts false t).modifyHead (c :: ·)

/-- The segments of a text: its parts that are not empty. -/
def segments (t : Text) : List Text := (parts false t).filter (!·.isEmpty)

/-- What stands between a double quote at the start and one at the end. -/
def unquote? : Text → Option Text
  | '"' :: t => if t.getLast? = some '"' then some t.dropLast else none
  | _ => none

/-- The key and the value of a segment: exactly two double quotes, the first equals sign dividing
the key from the quoted value, white space around either. -/
def entry? (segment : Text) : Option (Text × Text) :=
  if segment.count '"' ≠ 2 then none
  else
    match segment.dropWhile (· != '=') with
    | [] => none
    | _ :: value =>
      let key := Text.trim (segment.takeWhile (· != '='))
      if key.isEmpty then none else (unquote? (Text.trim value)).map fun value => (key, value)

def inside (list : Text) : Text := list.tail.dropLast

/-- Add the entries of a list in order, up to the first that is malformed or refused. -/
def addSegments (list tag : Text) (attributes : Attributes) :
    List Text → Except Fault Attributes
  | [] => .ok attributes
  | segment :: rest =>
    match entry? segment with
    | none => .error (.malformedAttributes list)
    | some (key, value) =>
      match attributes.add key value tag with
      | .ok attributes => addSegments list tag attributes rest
      | .error fault => .error fault

def addTo (attributes : Attributes) (list tag : Text) : Except Fault Attributes :=
  addSegments list tag attributes (segments (inside list))

end OutlineMarkup.Line.AttributeList

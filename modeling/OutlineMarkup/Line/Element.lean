import OutlineMarkup.Line.AttributeList
import OutlineMarkup.Line.Inline
import OutlineMarkup.Line.Shorthand
import OutlineMarkup.Node.Basic

/-! Lines that hold an element: a percent sign, a dash when the element is condensed, the tag, its
shorthand, its attribute list and its content. -/
namespace OutlineMarkup.Line

structure ElementLine where
  condensed : Bool := false
  tag : Text
  shorthand : Option Text := none
  attributeList : Option Text := none
  content : Option Text := none
  deriving Repr, DecidableEq

namespace ElementLine

def cut (split? : Text → Option (Text × Text)) (t : Text) : Option Text × Text :=
  match split? t with
  | some (part, rest) => (some part, rest)
  | none => (none, t)

theorem append_of_cut {split? : Text → Option (Text × Text)}
    (h : ∀ {t part rest}, split? t = some (part, rest) → part ++ rest = t) (t : Text) :
    (cut split? t).1.getD [] ++ (cut split? t).2 = t := by
  unfold cut
  split
  · next hs => exact h hs
  · rfl

/-- The parts after the percent sign and the mark of a condensed element. -/
def ofTagText? (condensed : Bool) (t : Text) : Option ElementLine :=
  if (t.takeWhile Text.isWord).isEmpty then none
  else
    let shorthand := cut Shorthand.split? (t.dropWhile Text.isWord)
    let attributeList := cut AttributeList.split? shorthand.2
    (inline? attributeList.2).map fun content =>
      { condensed, tag := t.takeWhile Text.isWord, shorthand := shorthand.1,
        attributeList := attributeList.1, content }

def ofText? : Text → Option ElementLine
  | '%' :: '-' :: t => ofTagText? true t
  | '%' :: t => ofTagText? false t
  | _ => none

def toText (line : ElementLine) : Text :=
  '%' :: (if line.condensed then ['-'] else []) ++ line.tag ++ line.shorthand.getD [] ++
    line.attributeList.getD [] ++ line.content.getD []

theorem toText_of_ofTagText? {condensed : Bool} {t : Text} {line : ElementLine}
    (h : ofTagText? condensed t = some line) :
    line.toText = '%' :: (if condensed then ['-'] else []) ++ t := by
  unfold ofTagText? at h
  split at h
  · cases h
  · obtain ⟨content, hc, rfl⟩ := Option.map_eq_some_iff.1 h
    simp only [toText, List.append_assoc, getD_of_inline? hc,
      append_of_cut AttributeList.append_of_split?, append_of_cut Shorthand.append_of_split?,
      List.takeWhile_append_dropWhile, List.cons_append]

/-- An element line is made of its parts. -/
theorem toText_of_ofText? {t : Text} {line : ElementLine} (h : ofText? t = some line) :
    line.toText = t := by
  unfold ofText? at h
  split at h
  · simpa using toText_of_ofTagText? h
  · simpa using toText_of_ofTagText? h
  · cases h

/-- The attributes of an element line: first its shorthand, then its attribute list. -/
def attributes (line : ElementLine) : Except Fault Attributes :=
  match line.shorthand.elim (.ok {}) (Shorthand.addTo {} · line.tag) with
  | .error fault => .error fault
  | .ok attributes =>
    line.attributeList.elim (.ok attributes) (AttributeList.addTo attributes · line.tag)

/-- The node an element line stands for. A void element has no content. -/
def node (line : ElementLine) : Except Fault Node :=
  match line.attributes with
  | .error fault => .error fault
  | .ok attributes =>
    if Tag.isVoidElement line.tag && !(contentOf line.content).isEmpty then
      .error (.inlineContentNotAllowed line.tag)
    else .ok (.ofElement ⟨line.tag, attributes, line.condensed⟩)

end ElementLine
end OutlineMarkup.Line

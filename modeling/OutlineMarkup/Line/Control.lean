import OutlineMarkup.Line.Inline
import OutlineMarkup.Node.Basic

/-! Lines that hold a control tag: a dash, the tag and its data. -/
namespace OutlineMarkup.Line

structure ControlLine where
  tag : Text
  data : Option Text := none
  deriving Repr, DecidableEq

namespace ControlLine

def ofText? : Text → Option ControlLine
  | '-' :: t =>
    if (t.takeWhile Text.isWord).isEmpty then none
    else (inline? (t.dropWhile Text.isWord)).map fun data => ⟨t.takeWhile Text.isWord, data⟩
  | _ => none

def toText (line : ControlLine) : Text := '-' :: line.tag ++ line.data.getD []

/-- A control line is made of its parts. -/
theorem toText_of_ofText? {t : Text} {line : ControlLine} (h : ofText? t = some line) :
    line.toText = t := by
  unfold ofText? at h
  split at h
  · split at h
    · cases h
    · obtain ⟨data, hd, rfl⟩ := Option.map_eq_some_iff.1 h
      simp [toText, getD_of_inline? hd]
  · cases h

def node (line : ControlLine) : Node := .ofControl ⟨line.tag, contentOf line.data⟩

end ControlLine
end OutlineMarkup.Line

/-! Texts as lists of characters, with the blank characters and trimming. -/
namespace OutlineMarkup

abbrev Text := List Char

namespace Text

/-- The characters that count as white space: the controls from tab to carriage return, the
next-line control, and the separators of every width. -/
def isBlank (c : Char) : Bool :=
  let n := c.toNat
  (0x09 ≤ n && n ≤ 0x0d) || n == 0x20 || n == 0x85 || n == 0xa0 || n == 0x1680 ||
    (0x2000 ≤ n && n ≤ 0x200a) || n == 0x2028 || n == 0x2029 || n == 0x202f || n == 0x205f ||
    n == 0x3000

/-- The white space a text begins with. -/
def margin (t : Text) : Text := t.takeWhile isBlank

def trimStart (t : Text) : Text := t.dropWhile isBlank

def trimEnd (t : Text) : Text := (t.reverse.dropWhile isBlank).reverse

def trim (t : Text) : Text := trimEnd (trimStart t)

@[simp] theorem trimStart_nil : trimStart [] = [] := rfl
@[simp] theorem trimEnd_nil : trimEnd [] = [] := rfl
@[simp] theorem trim_nil : trim [] = [] := rfl

/-- The margin is what trimming at the start removes. -/
@[simp] theorem margin_append_trimStart (t : Text) : margin t ++ trimStart t = t :=
  List.takeWhile_append_dropWhile

theorem length_trimStart_le (t : Text) : (trimStart t).length ≤ t.length :=
  (List.dropWhile_suffix _).length_le

theorem length_trimEnd_le (t : Text) : (trimEnd t).length ≤ t.length := by
  simpa [trimEnd] using (List.dropWhile_suffix (l := t.reverse) isBlank).length_le

theorem length_trim_le (t : Text) : (trim t).length ≤ t.length :=
  Nat.le_trans (length_trimEnd_le _) (length_trimStart_le t)

def repeated (t : Text) : Nat → Text
  | 0 => []
  | n + 1 => t ++ repeated t n

@[simp] theorem repeated_zero (t : Text) : repeated t 0 = [] := rfl
@[simp] theorem repeated_succ (t : Text) (n : Nat) : repeated t (n + 1) = t ++ repeated t n := rfl

@[simp] theorem repeated_nil (n : Nat) : repeated [] n = [] := by
  induction n with
  | zero => rfl
  | succ n ih => simp [ih]

def appendToLast (t : Text) : List Text → List Text
  | [] => []
  | [line] => [line ++ t]
  | line :: lines => line :: appendToLast t lines

/-- What follows a given start, when a text begins with it. -/
def after? : (start t : Text) → Option Text
  | [], t => some t
  | _ :: _, [] => none
  | c :: start, d :: t => if c = d then after? start t else none

/-- There is something after a start exactly when the text begins with it. -/
theorem after?_eq_some_iff {start t rest : Text} :
    after? start t = some rest ↔ t = start ++ rest := by
  induction start generalizing t with
  | nil => simp [after?, eq_comm]
  | cons c start ih =>
    cases t with
    | nil => simp [after?]
    | cons d t =>
      by_cases h : c = d
      · simp [after?, h, ih]
      · simp [after?, h, Ne.symm h]

end Text
end OutlineMarkup

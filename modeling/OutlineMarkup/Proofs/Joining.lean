import OutlineMarkup.Proofs.SplitChains

/-! The lines of forests that are put together. A blank node at the end of a forest cannot be seen
in its lines, wherever the forest stands; and siblings that go on with nothing before them are
written after those before them. -/
namespace OutlineMarkup.Layout

/-- Two forests cannot be told apart by their lines, wherever they stand. -/
structure LooksLike (forest other : Forest Node) : Prop where
  lines_eq : ∀ unit depth absorbing previous,
    forestLines unit depth absorbing previous forest =
      forestLines unit depth absorbing previous other
  leadingText?_eq : leadingText? forest = leadingText? other
  isContinued_eq : ∀ control, isContinued control forest = isContinued control other

namespace LooksLike

variable {forest other third : Forest Node}

lemma refl (forest : Forest Node) : LooksLike forest forest :=
  ⟨fun _ _ _ _ => rfl, rfl, fun _ => rfl⟩

lemma trans (h : LooksLike forest other) (h' : LooksLike other third) : LooksLike forest third where
  lines_eq unit depth absorbing previous :=
    (h.lines_eq unit depth absorbing previous).trans (h'.lines_eq unit depth absorbing previous)
  leadingText?_eq := h.leadingText?_eq.trans h'.leadingText?_eq
  isContinued_eq control := (h.isContinued_eq control).trans (h'.isContinued_eq control)

lemma closing?_eq (h : LooksLike forest other) (previous : Option Link) (node : Node) :
    closing? previous forest node = closing? previous other node := by
  cases node with
  | control control => simp only [closing?, h.isContinued_eq]
  | _ => rfl

/-- What looks the same looks the same inside a node. -/
lemma children (h : LooksLike forest other) (node : Node) (siblings : Forest Node) :
    LooksLike (.cons node forest siblings) (.cons node other siblings) where
  lines_eq unit depth absorbing previous := by
    have hopening : openingLine? node forest = openingLine? node other := by
      rw [openingLine?, h.leadingText?_eq, openingLine?]
    rw [forestLines_cons, forestLines_cons, h.lines_eq, hopening]
  leadingText?_eq := by cases node <;> rfl
  isContinued_eq _ := rfl

/-- What looks the same looks the same behind a node. -/
lemma siblings (h : LooksLike forest other) (node : Node) (children : Forest Node) :
    LooksLike (.cons node children forest) (.cons node children other) where
  lines_eq unit depth absorbing previous := by
    rw [forestLines_cons, forestLines_cons, h.lines_eq, h.closing?_eq]
  leadingText?_eq := by
    cases node with
    | empty => exact h.leadingText?_eq
    | _ => rfl
  isContinued_eq _ := rfl

lemma append (h : LooksLike forest other) (start : Forest Node) :
    LooksLike (start.append forest) (start.append other) := by
  induction start with
  | nil => exact h
  | cons node children siblings _ ihs => exact ihs.siblings node children

lemma closeAll (h : LooksLike forest other) (layers : List (Layer Node)) :
    LooksLike (Layer.closeAll layers forest) (Layer.closeAll layers other) := by
  induction layers generalizing forest other with
  | nil => exact h
  | cons layer outer ih => exact ih ((h.children layer.label layer.after).append layer.before)

/-- A blank line at the end of a forest cannot be seen. -/
lemma append_empty (forest : Forest Node) :
    LooksLike (forest.append (.cons .empty .nil .nil)) forest := by
  have hempty : LooksLike (.cons .empty .nil .nil) .nil :=
    ⟨fun _ _ _ _ => rfl, rfl, fun _ => rfl⟩
  simpa using hempty.append forest

end LooksLike

/-- The link that the last of some siblings is for what comes after them. -/
def linkAfter (previous : Option Link) : Forest Node → Option Link
  | .nil => previous
  | .cons node _ siblings => linkAfter (linkOf previous node) siblings

lemma map_control_linkAfter (previous : Option Link) (node : Node)
    (children siblings : Forest Node) :
    (linkAfter previous (.cons node children siblings)).map Link.control =
      (Forest.last? (.cons node children siblings)).bind Node.control? := by
  induction siblings generalizing previous node children with
  | nil =>
    rw [linkAfter, linkAfter, linkOf, Option.map_map]
    exact Option.map_id'
  | cons next inner rest _ ihs => exact ihs (linkOf previous node) next inner

/-- A link that is not gone on with might as well not be there. -/
lemma forestLines_of_not_isContinued {previous : Option Link} {forest : Forest Node}
    (h : ∀ link ∈ previous, isContinued link.control forest = false) (unit : Text) (depth : Nat)
    (absorbing : Bool) :
    forestLines unit depth absorbing previous forest =
      forestLines unit depth absorbing none forest := by
  cases forest with
  | nil => rfl
  | cons node children siblings =>
    have horigin : ∀ control, node.control? = some control →
        originOf previous control = originOf none control := by
      intro control hnode
      cases hlink : previous with
      | none => rfl
      | some link =>
        have hstop : control.continues link.control = false := by
          simpa [isContinued, Forest.first?, hnode] using h link hlink
        simp [originOf, hstop]
    have hlink : linkOf previous node = linkOf none node := by
      rw [linkOf, linkOf]
      cases hnode : node.control? with
      | none => rfl
      | some control => rw [Option.map_some, Option.map_some, horigin control hnode]
    have hclosing : closing? previous siblings node = closing? none siblings node := by
      cases node with
      | control control => simp only [closing?, horigin control rfl]
      | _ => rfl
    rw [forestLines_cons, forestLines_cons, hlink, hclosing]

/-- The lines of some siblings see those after them only from the last one. -/
lemma forestLines_append_linkAfter {first second : Forest Node}
    (h : ∀ control ∈ first.last?.bind Node.control?, isContinued control second = false)
    (unit : Text) (depth : Nat) (previous : Option Link) :
    forestLines unit depth false previous (first.append second) =
      forestLines unit depth false previous first ++
        forestLines unit depth false (linkAfter previous first) second := by
  induction first generalizing previous with
  | nil => rfl
  | cons node children siblings _ ihs =>
    have hstays : staysAbsorbing false node = false := by cases node <;> rfl
    have hclosing : closing? previous (siblings.append second) node =
        closing? previous siblings node := by
      cases node with
      | control control =>
        cases siblings with
        | nil =>
          rw [Forest.nil_append, closing?, h control rfl]
          rfl
        | cons _ _ _ => rfl
      | _ => rfl
    have hlast : ∀ control ∈ siblings.last?.bind Node.control?,
        isContinued control second = false := by
      cases siblings with
      | nil => simp [Forest.last?]
      | cons _ _ _ => exact h
    rw [Forest.cons_append, forestLines_cons, forestLines_cons, hclosing, hstays, ihs hlast,
      linkAfter, List.append_assoc]

/-- Siblings that go on with nothing before them are written after those before them. -/
theorem forestLines_append {first second : Forest Node}
    (h : ∀ control ∈ first.last?.bind Node.control?, isContinued control second = false)
    (unit : Text) (depth : Nat) :
    forestLines unit depth false none (first.append second) =
      forestLines unit depth false none first ++ forestLines unit depth false none second := by
  have hlink : ∀ link ∈ linkAfter none first, isContinued link.control second = false := by
    intro link hlink
    cases first with
    | nil => cases hlink
    | cons node children siblings =>
      apply h
      rw [← map_control_linkAfter none, hlink]
      rfl
  rw [forestLines_append_linkAfter h, forestLines_of_not_isContinued hlink]

@[simp] lemma forestLines_voids (unit : Text) (depth : Nat) (absorbing : Bool) (n : Nat) :
    forestLines unit depth absorbing none (voids n) = [] := by
  induction n with
  | zero => rfl
  | succ n ih => rw [voids, forestLines_empty, ih]

lemma control?_last?_voids (n : Nat) : (voids n).last?.bind Node.control? = none := by
  cases n with
  | zero => rfl
  | succ n =>
    rw [← voids_append, Forest.last?_append_cons]
    rfl

/-- A control tag that comes last has no blank lines behind it. -/
lemma control?_of_last?_voids {start children : Forest Node} {node : Node} {control : Control}
    {n : Nat}
    (h : (start.append (.cons node children (voids n))).last?.bind Node.control? = some control) :
    node.control? = some control := by
  cases n with
  | zero =>
    rw [voids, Forest.last?_append_cons] at h
    exact h
  | succ n =>
    rw [← voids_append, ← Forest.cons_append, ← Forest.append_assoc, Forest.last?_append_cons] at h
    cases h

end OutlineMarkup.Layout

import OutlineMarkup.Proofs.Drafts
import OutlineMarkup.Proofs.Pruning

/-! Chains that blank lines split, counted while an outline grows at its end. A blank line at the
end splits nothing yet; the next tree at the same place does when it goes on with the control tag
that the blank lines stand behind. -/
namespace OutlineMarkup

namespace Forest

variable {α : Type}

def last? : Forest α → Option α
  | nil => none
  | cons label _ nil => some label
  | cons _ _ siblings => siblings.last?

lemma last?_append_cons (forest : Forest α) (label : α) (children : Forest α) :
    (forest.append (cons label children nil)).last? = some label := by
  induction forest with
  | nil => rfl
  | cons other inner siblings _ ihs =>
    rw [cons_append]
    cases siblings with
    | nil => rfl
    | cons _ _ _ => exact ihs

lemma eq_nil_or_append_cons (forest : Forest α) :
    forest = nil ∨ ∃ (start : Forest α) (label : α) (children : Forest α),
      forest = start.append (cons label children nil) := by
  induction forest with
  | nil => exact .inl rfl
  | cons label children siblings _ ihs =>
    rcases ihs with rfl | ⟨start, last, inner, rfl⟩
    · exact .inr ⟨nil, label, children, rfl⟩
    · exact .inr ⟨cons label children start, last, inner, rfl⟩

lemma first?_append (first second : Forest α) :
    (first.append second).first? = first.first?.or second.first? := by
  cases first <;> rfl

end Forest

namespace Layout

def voids : Nat → Forest Node
  | 0 => .nil
  | n + 1 => .cons .empty .nil (voids n)

lemma voids_append (n : Nat) : (voids n).append (.cons .empty .nil .nil) = voids (n + 1) := by
  induction n with
  | zero => rfl
  | succ n ih =>
    rw [voids, Forest.cons_append, ih]
    rfl

lemma prune_append (first second : Forest Node) :
    prune (first.append second) = (prune first).append (prune second) := by
  induction first with
  | nil => rfl
  | cons node children siblings _ ihs =>
    by_cases hnode : node = .empty
    · simp [hnode, ihs]
    · simp [prune_of_ne hnode, ihs]

@[simp] lemma prune_voids (n : Nat) : prune (voids n) = .nil := by
  induction n with
  | zero => rfl
  | succ n ih => rw [voids, prune_empty, ih]

lemma prune_eq_self {forest : Forest Node} (h : ∀ node ∈ forest.preorder, node ≠ .empty) :
    prune forest = forest := by
  induction forest with
  | nil => rfl
  | cons node children siblings ihc ihs =>
    simp only [Forest.preorder_cons, List.mem_cons, List.mem_append] at h
    rw [prune_of_ne (h node (.inl rfl)), ihc fun n hn => h n (.inr (.inl hn)),
      ihs fun n hn => h n (.inr (.inr hn))]

lemma isSplit_congr {siblings siblings' : Forest Node} (h : siblings.first? = siblings'.first?)
    (hp : (prune siblings).first? = (prune siblings').first?) (node : Node) :
    isSplit siblings node = isSplit siblings' node := by
  cases node with
  | control control => simp only [isSplit, isContinued, h, hp]
  | _ => rfl

lemma isSplit_of_prune_eq_self {siblings : Forest Node} (h : prune siblings = siblings)
    (node : Node) : isSplit siblings node = false := by
  cases node with
  | control control => simp [isSplit, h]
  | _ => rfl

lemma splits_eq_zero {forest : Forest Node} (h : ∀ node ∈ forest.preorder, node ≠ .empty) :
    splits forest = 0 := by
  induction forest with
  | nil => rfl
  | cons node children siblings ihc ihs =>
    simp only [Forest.preorder_cons, List.mem_cons, List.mem_append] at h
    have hs : ∀ n ∈ siblings.preorder, n ≠ .empty := fun n hn => h n (.inr (.inr hn))
    rw [splits, ihc fun n hn => h n (.inr (.inl hn)), ihs hs,
      isSplit_of_prune_eq_self (prune_eq_self hs)]
    rfl

/-- One more blank line at the end splits nothing. -/
lemma splits_append_empty (forest : Forest Node) :
    splits (forest.append (.cons .empty .nil .nil)) = splits forest := by
  induction forest with
  | nil => rfl
  | cons node children siblings _ ihs =>
    have hsplit : isSplit (siblings.append (.cons .empty .nil .nil)) node =
        isSplit siblings node := by
      cases siblings with
      | nil => cases node <;> rfl
      | cons next inner rest =>
        apply isSplit_congr
        · rw [Forest.first?_append]
          rfl
        · rw [prune_append]
          simp [prune]
    rw [Forest.cons_append, splits, ihs, hsplit, splits]

/-- What splits inside one tree of a forest adds up with what splits around it. -/
lemma splits_append_cons (before : Forest Node) (label : Node) (inner after : Forest Node) :
    splits (before.append (.cons label inner after)) =
      splits (before.append (.cons label .nil after)) + splits inner := by
  induction before with
  | nil =>
    simp only [Forest.nil_append, splits]
    omega
  | cons node children siblings _ ihs =>
    have hsplit : isSplit (siblings.append (.cons label inner after)) node =
        isSplit (siblings.append (.cons label .nil after)) node := by
      apply isSplit_congr
      · rw [Forest.first?_append, Forest.first?_append]
        rfl
      · rw [prune_append, prune_append, Forest.first?_append, Forest.first?_append]
        by_cases hlabel : label = .empty
        · simp [hlabel]
        · simp [prune_of_ne hlabel, Forest.first?]
    simp only [Forest.cons_append, splits, hsplit, ihs]
    omega

lemma splits_closeAll (layers : List (Layer Node)) (inner : Forest Node) :
    splits (Layer.closeAll layers inner) =
      splits (Layer.closeAll layers .nil) + splits inner := by
  induction layers generalizing inner with
  | nil => simp [Layer.closeAll, splits]
  | cons layer outer ih =>
    rw [Layer.closeAll, ih, Layer.close, splits_append_cons, Layer.closeAll, ih (layer.close .nil),
      Layer.close]
    omega

/-- The control tag that the blank lines at the end of a forest stand behind. -/
def hole? : Forest Node → Option Control
  | .nil => none
  | .cons (.control control) _ siblings =>
    if siblings ≠ .nil ∧ prune siblings = .nil then some control else hole? siblings
  | .cons _ _ siblings => hole? siblings

def goesOn (node : Node) (control : Control) : Bool := node.control?.any (·.continues control)

lemma isContinued_cons (control : Control) (node : Node) (children siblings : Forest Node) :
    isContinued control (.cons node children siblings) = goesOn node control := rfl

lemma hole?_of_prune_eq_nil {forest : Forest Node} (h : prune forest = .nil) :
    hole? forest = none := by
  induction forest with
  | nil => rfl
  | cons node children siblings _ ihs =>
    by_cases hnode : node = .empty
    · subst hnode
      rw [prune_empty] at h
      exact ihs h
    · rw [prune_of_ne hnode] at h
      cases h

/-- The tree at the end of a forest splits a chain when it goes on with the control tag that blank
lines stand behind. -/
lemma splits_append_top (forest : Forest Node) {node : Node} (hnode : node ≠ .empty)
    (children : Forest Node) :
    splits (forest.append (.cons node children .nil)) =
      splits forest + splits children + ((hole? forest).any (goesOn node)).toNat := by
  induction forest with
  | nil =>
    simp only [Forest.nil_append, splits, hole?, Option.any_none, Bool.toNat_false,
      isSplit_of_prune_eq_self (show prune .nil = .nil from rfl)]
  | cons other inner siblings _ ihs =>
    have hsplit : (isSplit (siblings.append (.cons node children .nil)) other).toNat +
        ((hole? siblings).any (goesOn node)).toNat = (isSplit siblings other).toNat +
          ((hole? (.cons other inner siblings)).any (goesOn node)).toNat := by
      cases other with
      | control control =>
        by_cases hvoid : prune siblings = .nil
        · have hpruned : isContinued control (prune (siblings.append (.cons node children .nil))) =
              goesOn node control := by
            rw [prune_append, hvoid, prune_of_ne hnode]
            rfl
          rw [hole?_of_prune_eq_nil hvoid]
          cases siblings with
          | nil =>
            rw [Forest.nil_append] at hpruned ⊢
            have htop : isSplit (.cons node children .nil) (.control control) = false := by
              rw [isSplit, hpruned, isContinued_cons]
              cases goesOn node control <;> rfl
            rw [htop]
            rfl
          | cons next below rest =>
            have hnext : next = .empty := by
              by_contra hne
              rw [prune_of_ne hne] at hvoid
              cases hvoid
            subst hnext
            have hlook : ∀ forest, isContinued control (.cons .empty below forest) = false := by
              intro forest
              rfl
            simp only [Forest.cons_append] at hpruned ⊢
            simp only [isSplit, hlook, hpruned, hvoid, hole?]
            simp [isContinued, Forest.first?]
        · have hfirst : isSplit (siblings.append (.cons node children .nil)) (.control control) =
              isSplit siblings (.control control) := by
            apply isSplit_congr
            · cases siblings with
              | nil => exact absurd rfl hvoid
              | cons _ _ _ => rfl
            · rw [prune_append]
              cases hp : prune siblings with
              | nil => exact absurd hp hvoid
              | cons _ _ _ => rfl
          rw [hfirst, hole?, if_neg fun h => hvoid h.2]
      | _ => rfl
    simp only [Forest.cons_append, splits, ihs]
    omega

/-- Behind a tree at the end there is a hole when it is a control tag with blank lines after it. -/
lemma hole?_append_cons (forest : Forest Node) {node : Node} (hnode : node ≠ .empty)
    (children : Forest Node) (n : Nat) :
    hole? (forest.append (.cons node children (voids n))) =
      hole? (.cons node children (voids n)) := by
  induction forest with
  | nil => rfl
  | cons other inner siblings _ ihs =>
    have hne : prune (siblings.append (.cons node children (voids n))) ≠ .nil := by
      rw [prune_append, prune_of_ne hnode]
      cases prune siblings <;> simp
    cases other with
    | control control => rw [Forest.cons_append, hole?, if_neg fun h => hne h.2, ihs]
    | _ => exact ihs

lemma hole?_cons_voids (node : Node) (children : Forest Node) (n : Nat) :
    hole? (.cons node children (voids n)) =
      match node, n with
      | .control control, _ + 1 => some control
      | _, _ => none := by
  have hnone := hole?_of_prune_eq_nil (prune_voids n)
  cases node with
  | control control =>
    cases n with
    | zero => rfl
    | succ n =>
      rw [hole?, if_pos ⟨by simp [voids], prune_voids _⟩]
  | _ => exact hnone

end Layout
end OutlineMarkup

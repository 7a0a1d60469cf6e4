/-! Ordered forests: a list of labelled trees, kept as a first tree and its siblings so that every
walk is a plain recursion on the forest. -/
namespace OutlineMarkup

/-- A forest is empty, or a labelled tree over a forest of children, followed by its siblings. -/
inductive Forest (α : Type) where
  | nil
  | cons (label : α) (children siblings : Forest α)
  deriving Repr, DecidableEq

namespace Forest

variable {α β : Type}

def map (f : α → β) : Forest α → Forest β
  | nil => nil
  | cons label children siblings => cons (f label) (children.map f) (siblings.map f)

/-- The labels in document order: each tree's own label, then its children's, then its siblings'. -/
def preorder : Forest α → List α
  | nil => []
  | cons label children siblings => label :: (children.preorder ++ siblings.preorder)

def first? : Forest α → Option α
  | nil => none
  | cons label _ _ => some label

@[simp] theorem map_nil (f : α → β) : (nil : Forest α).map f = nil := rfl
@[simp] theorem map_cons (f : α → β) (label : α) (children siblings : Forest α) :
    (cons label children siblings).map f = cons (f label) (children.map f) (siblings.map f) := rfl
@[simp] theorem preorder_nil : (nil : Forest α).preorder = [] := rfl
@[simp] theorem preorder_cons (label : α) (children siblings : Forest α) :
    (cons label children siblings).preorder =
      label :: (children.preorder ++ siblings.preorder) := rfl

@[simp] theorem preorder_map (f : α → β) (forest : Forest α) :
    (forest.map f).preorder = forest.preorder.map f := by
  induction forest with
  | nil => rfl
  | cons label children siblings hc hs => simp [hc, hs]

end Forest
end OutlineMarkup

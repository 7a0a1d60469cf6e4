import Mathlib.Logic.Function.Iterate
import OutlineMarkup.Proofs.Calls
import OutlineMarkup.Proofs.FirstSeparator
import OutlineMarkup.Proofs.LineWidths

/-! Reading a line calls itself. A tag before a separator is placed in the tree, the rest of the
line is read from its start, and what comes of it is attached to the tag. A line of bare classes and
ids is made longer first, by the tag it leaves out, and is split only then; still the rest is
shorter than the line as it was given. So a line with so many colons is read in at most one call
more, and each call creates at most a tag and its content. -/
namespace OutlineMarkup

open OutlineMarkup.Tree

/-- A program goes on where the one before it has ended well, and stops where that one failed. -/
lemma Tree.runOn_bind {α β : Type} (program : InPlace α) (next : α → InPlace β) (tree : Tree) :
    InPlace.runOn (program >>= next) tree =
      match program.runOn tree with
      | (.ok a, left) => (next a).runOn left
      | (.error fault, left) => (.error fault, left) := by
  unfold InPlace.runOn
  rw [ExceptT.run_bind, StateT.run_bind]
  cases program.run.run tree with
  | mk result left => cases result <;> rfl

namespace Line

def placeTag (form : TagForm) (text : Text) : InPlace NodeId :=
  match head form text with
  | .error fault => throw fault
  | .ok tag => do
    let outer ← createInPlace tag.node
    unless tag.content.isEmpty do
      let content ← createInPlace (.text tag.content)
      attachInPlace outer content
    return outer

/-- Place the nodes of a line in a tree, where `inner` is called for what is nested in it. -/
def placeWith (inner : Text → InPlace NodeId) (line : Text) : InPlace NodeId :=
  match Opening.ofText line with
  | .plain node => createInPlace node
  | .tag form implied =>
    match split? form (implied ++ line) with
    | none => placeTag form (implied ++ line)
    | some (text, rest) => do
      let outer ← placeTag form text
      let child ← inner rest
      attachInPlace outer child
      return outer

/-- Placing a tag is planting it, unless it is at fault. -/
lemma runOn_placeTag (form : TagForm) (text : Text) (tree : Tree) :
    (placeTag form text).runOn tree =
      match head form text with
      | .error fault => (.error fault, tree)
      | .ok tag => (tag.plant tree).swap := by
  unfold placeTag
  cases head form text with
  | error fault => rfl
  | ok tag =>
    have hcreate : ∀ node (tree : Tree),
        (createInPlace node).runOn tree = (.ok tree.size, tree.create node) := fun _ _ => rfl
    simp only [runOn_bind, hcreate, Head.plant]
    by_cases hcontent : tag.content.isEmpty
    · rw [if_pos hcontent, if_pos hcontent]
      rfl
    · rw [if_neg hcontent, if_neg hcontent]
      simp only [runOn_bind, hcreate, runOn_attachInPlace]
      cases ((tree.create tag.node).create (.text tag.content)).attach tree.size
        (tree.create tag.node).size with
      | error fault => rfl
      | ok full => rfl

/-- What a line leaves out is written before the tag, and does not move the separator. -/
lemma split?_implied {line implied : Text} {form : TagForm}
    (h : Opening.ofText line = .tag form implied) :
    split? form (implied ++ line) =
      (split? form line).map fun (text, rest) => (implied ++ text, rest) := by
  have hcases : form = .element ∨ implied = [] := by
    unfold Opening.ofText at h
    split at h
    · cases h
    · split_ifs at h <;> cases h
      · exact .inl rfl
      · exact .inl rfl
      · exact .inr rfl
  rcases hcases with rfl | rfl
  · have hcross : Crosses .element line {} implied := crosses_implied h
    rw [split?, splitFrom?_append hcross.1, hcross.2, split?]
  · simp

/-- The rest of a line is shorter than the line, also when the line is made longer before it is
split. -/
lemma length_lt_of_call {line implied text rest : Text} {form : TagForm}
    (hopening : Opening.ofText line = .tag form implied)
    (hsplit : split? form (implied ++ line) = some (text, rest)) : rest.length < line.length := by
  rw [split?_implied hopening, Option.map_eq_some_iff] at hsplit
  obtain ⟨⟨tag, rest'⟩, hsplit, heq⟩ := hsplit
  cases heq
  exact length_lt_of_split? hsplit

/-- Each separator is a colon, and the rest of the line no longer has it. -/
lemma count_colon_lt_of_split? {form : TagForm} {line tag rest : Text}
    (h : split? form line = some (tag, rest)) : rest.count ':' < line.count ':' := by
  obtain ⟨blank, hline, -⟩ := (firstSeparator_of_split? h).line_eq
  rw [hline, List.count_append, List.count_cons_self, List.count_append]
  omega

/-- Placing a line is planting it, when the call for what is nested in it plants that. -/
lemma runOn_placeWith {inner : Text → InPlace NodeId} {line : Text}
    (h : ∀ form tag rest, split? form line = some (tag, rest) →
      ∀ tree, (inner rest).runOn tree = (plant tree rest).swap) (tree : Tree) :
    (placeWith inner line).runOn tree = (plant tree line).swap := by
  unfold placeWith plant
  rw [read_eq]
  cases hopening : Opening.ofText line with
  | plain node => rfl
  | tag form implied =>
    simp only [split?_implied hopening]
    cases hsplit : split? form line with
    | none =>
      simp only [Option.map_none, runOn_placeTag]
      cases head form (implied ++ line) <;> rfl
    | some parts =>
      obtain ⟨tag, rest⟩ := parts
      simp only [Option.map_some, runOn_bind, runOn_placeTag]
      cases head form (implied ++ tag) with
      | error fault => rfl
      | ok outer =>
        simp only [Reading.plant]
        cases hplant : outer.plant tree with
        | mk planted result =>
          cases result with
          | error fault => rfl
          | ok id =>
            simp only [Prod.swap_prod_mk, h form tag rest hsplit, plant]
            cases (read rest).plant planted with
            | mk grafted result =>
              cases result with
              | error fault => rfl
              | ok child =>
                simp only [Prod.swap_prod_mk, runOn_attachInPlace]
                cases grafted.attach id child <;> rfl

/-- One call more than there are colons is enough, whatever deeper calls would do. -/
theorem runOn_iterate_placeWith (stuck : Text → InPlace NodeId) {line : Text} {calls : Nat}
    (h : line.count ':' < calls) (tree : Tree) :
    ((placeWith^[calls] stuck) line).runOn tree = (plant tree line).swap := by
  induction calls generalizing line tree with
  | zero => omega
  | succ calls ih =>
    rw [Function.iterate_succ_apply']
    apply runOn_placeWith
    intro form tag rest hsplit tree
    have := count_colon_lt_of_split? hsplit
    exact ih (by omega) tree

/-- The number of lines that are read one inside of the other. -/
def Reading.levels : Reading → Nat
  | faulty _ => 1
  | single _ => 1
  | nested _ inner => inner.levels + 1

lemma levels_read_le (line : Text) : (read line).levels ≤ line.count ':' + 1 := by
  fun_induction read line with
  | case1 | case2 | case3 | case4 => simp [Reading.levels]
  | case5 line form implied _ text rest hsplit _ tag _ ih =>
    have := count_colon_lt_of_split? hsplit
    rw [Reading.levels]
    omega

lemma size_attach {tree attached : Tree} {parent child : NodeId}
    (h : tree.attach parent child = .ok attached) : attached.size = tree.size := by
  obtain ⟨-, -, rfl⟩ := attach_eq_ok_iff.1 h
  rw [size_link]

lemma Head.size_plant_le (tree : Tree) (head : Head) :
    (head.plant tree).1.size ≤ tree.size + 2 := by
  unfold Head.plant
  by_cases hcontent : head.content.isEmpty
  · simp [hcontent]
  · simp only [hcontent, Bool.false_eq_true, if_false]
    split
    · next attached => simp [size_attach attached]
    · simp

/-- Each level creates a tag and its content at most, whether or not the line is at fault. -/
lemma Reading.size_plant_le (tree : Tree) (reading : Reading) :
    (reading.plant tree).1.size ≤ tree.size + 2 * reading.levels := by
  induction reading generalizing tree with
  | faulty fault => simp [Reading.plant]
  | single head => exact head.size_plant_le tree
  | nested head inner ih =>
    have hhead := head.size_plant_le tree
    unfold Reading.plant
    rw [Reading.levels]
    split
    · next hplant =>
      rw [hplant] at hhead
      dsimp only at hhead ⊢
      omega
    · next planted outer hplant =>
      rw [hplant] at hhead
      have hinner := ih planted
      dsimp only at hhead
      split
      · next hgraft =>
        rw [hgraft] at hinner
        dsimp only at hinner ⊢
        omega
      · next grafted child hgraft =>
        rw [hgraft] at hinner
        dsimp only at hinner
        split
        · next attached =>
          rw [size_attach attached]
          omega
        · dsimp only
          omega

/-- How reading a line comes to an end. The line is split at its first separator; what is nested in
it is shorter, so placing the line depends on what is called for shorter lines only; calls one
inside of the other, one more than there are colons, place what planting the line plants, whatever
any deeper call would do; and at most two nodes are created for each of these calls. -/
structure ReadsDown (line : Text) : Prop where
  split?_iff : ∀ form tag rest,
    split? form line = some (tag, rest) ↔ FirstSeparator form line tag rest
  shorter : ∀ form implied tag rest, Opening.ofText line = .tag form implied →
    split? form (implied ++ line) = some (tag, rest) → rest.length < line.length
  placeWith_eq : ∀ inner other : Text → InPlace NodeId,
    (∀ text : Text, text.length < line.length → inner text = other text) →
      placeWith inner line = placeWith other line
  runOn_eq : ∀ calls, line.count ':' < calls → ∀ stuck tree,
    ((placeWith^[calls] stuck) line).runOn tree = (plant tree line).swap
  size_le : ∀ tree, (plant tree line).1.size ≤ tree.size + 2 * (line.count ':' + 1)

/-- Every line is read to its end, in calls on shorter and shorter lines. -/
theorem readsDown (line : Text) : ReadsDown line := by
  constructor
  case split?_iff => exact fun _ _ _ => split?_eq_some_iff_firstSeparator
  case shorter => exact fun _ _ _ _ => length_lt_of_call
  case placeWith_eq =>
    intro inner other h
    unfold placeWith
    split
    · rfl
    · next hopening =>
      split
      · rfl
      · next hsplit => rw [h _ (length_lt_of_call hopening hsplit)]
  case runOn_eq => exact fun _ h stuck tree => runOn_iterate_placeWith stuck h tree
  case size_le =>
    intro tree
    have hsize := (read line).size_plant_le tree
    have hlevels := levels_read_le line
    rw [plant]
    omega

end Line
end OutlineMarkup

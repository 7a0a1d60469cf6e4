import OutlineMarkup.Proofs.BlankLines

/-! Runs of lines over a draft. A line that is taken does one thing to the draft, whatever its
number is, so a run can be cut in two and goes on from any draft as it would from the first line. -/
namespace OutlineMarkup

open OutlineMarkup.Tree

namespace Draft

variable {draft draft' : Draft Node} {number : Nat} {line : Text} {lines first second : List Text}

/-- What adding a line that is not blank does, when it does not fail. The number of the line plays
no part in it. -/
lemma addLine_eq_ok_iff (hline : ¬ line.trim.isEmpty) :
    draft.addLine number line = .ok draft' ↔ ∃ node children around,
      (Line.read line.trim).sprout = .ok (node, children) ∧
      indentation line = .ok line.margin.length ∧
      Frame.enclosing? line.margin.length draft.layers = some around ∧
      (parentNode around).allowsChildren ∧
      draft' = draft.openNode around line.margin.length node children := by
  constructor
  · intro h
    obtain ⟨node, children, around, hsprout, haround, hallows, rfl⟩ := addLine_eq_ok hline h
    refine ⟨node, children, around, hsprout, ?_, haround, hallows, rfl⟩
    cases hi : indentation line with
    | error fault => simp [addLine, hsprout, hline, hi] at h
    | ok width => rw [Builder.eq_of_indentation hi]
  · rintro ⟨node, children, around, hsprout, hi, haround, hallows, rfl⟩
    simp [addLine, hsprout, hline, hi, haround, hallows]

lemma addLine_renumber (h : draft.addLine number line = .ok draft') (number' : Nat) :
    draft.addLine number' line = .ok draft' := by
  by_cases hline : line.trim.isEmpty
  · rw [addLine_of_blank hline] at h ⊢
    exact h
  · exact (addLine_eq_ok_iff hline).2 ((addLine_eq_ok_iff hline).1 h)

lemma addLines_cons_eq_ok_iff :
    draft.addLines number (line :: lines) = .ok draft' ↔
      ∃ mid, draft.addLine number line = .ok mid ∧
        mid.addLines (number + 1) lines = .ok draft' := by
  rw [addLines]
  cases draft.addLine number line <;> simp

lemma addLines_renumber (h : draft.addLines number lines = .ok draft') (number' : Nat) :
    draft.addLines number' lines = .ok draft' := by
  induction lines generalizing draft number number' with
  | nil => exact h
  | cons line rest ih =>
    obtain ⟨mid, hline, hrest⟩ := addLines_cons_eq_ok_iff.1 h
    exact addLines_cons_eq_ok_iff.2 ⟨mid, addLine_renumber hline _, ih hrest _⟩

/-- Lines can be taken in two parts. -/
lemma addLines_append_eq_ok_iff :
    draft.addLines number (first ++ second) = .ok draft' ↔
      ∃ mid, draft.addLines number first = .ok mid ∧ mid.addLines 0 second = .ok draft' := by
  induction first generalizing draft number with
  | nil =>
    simp only [List.nil_append, addLines, Except.ok.injEq, exists_eq_left']
    exact ⟨fun h => addLines_renumber h 0, fun h => addLines_renumber h number⟩
  | cons line rest ih =>
    simp only [List.cons_append, addLines_cons_eq_ok_iff, ih]
    constructor
    · rintro ⟨next, hline, mid, hrest, hsecond⟩
      exact ⟨mid, ⟨next, hline, hrest⟩, hsecond⟩
    · rintro ⟨mid, ⟨next, hline, hrest⟩, hsecond⟩
      exact ⟨next, hline, mid, hrest, hsecond⟩

/-- Lines are accepted exactly when they make a draft, which shows the outline of their tree. -/
lemma exists_of_ofLines {tree : Tree} (h : Tree.ofLines lines = .ok tree) :
    ∃ draft, addLines {} 0 lines = .ok draft ∧ tree.outline root = draft.outline := by
  have hagree := agree_ofLines lines
  rw [h] at hagree
  generalize addLines {} 0 lines = result at hagree ⊢
  cases hagree with
  | ok houtline => exact ⟨_, rfl, houtline⟩

lemma exists_ofLines (h : addLines {} 0 lines = .ok draft) :
    ∃ tree, Tree.ofLines lines = .ok tree ∧ tree.outline root = draft.outline := by
  have hagree := agree_ofLines lines
  rw [h] at hagree
  generalize Tree.ofLines lines = result at hagree ⊢
  cases hagree with
  | ok houtline => exact ⟨_, rfl, houtline⟩

/-- What every line keeps is kept by every run. -/
lemma run_induction {motive : List Text → Draft Node → Prop}
    (step : ∀ {lines line draft draft' number}, motive lines draft →
      draft.addLine number line = .ok draft' → motive (lines ++ [line]) draft')
    (done : List Text) (h : motive done draft) (run : draft.addLines number lines = .ok draft') :
    motive (done ++ lines) draft' := by
  induction lines generalizing done draft number with
  | nil =>
    cases run
    rwa [List.append_nil]
  | cons line rest ih =>
    obtain ⟨mid, hline, hrest⟩ := addLines_cons_eq_ok_iff.1 run
    have := ih (done ++ [line]) (step h hline) hrest
    rwa [List.append_assoc, List.singleton_append] at this

end Draft

/-- Lines are accepted when something is found on their tree. -/
lemma exists_of_map_ofLines {α : Type} {lines : List Text} {f : Tree → α} {value : α}
    (h : (Tree.ofLines lines).map f = .ok value) :
    ∃ tree, Tree.ofLines lines = .ok tree ∧ f tree = value := by
  cases hlines : Tree.ofLines lines with
  | error diagnostic =>
    rw [hlines] at h
    cases h
  | ok tree =>
    rw [hlines] at h
    exact ⟨tree, rfl, Except.ok.inj h⟩

end OutlineMarkup

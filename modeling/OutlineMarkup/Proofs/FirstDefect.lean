import OutlineMarkup.Proofs.LineFaults
import OutlineMarkup.Proofs.OpenLines
import OutlineMarkup.Proofs.Runs

/-! Which line a template fails at, and why. Four things can be wrong with a line, and each can be
told from the lines up to it: it is at fault by itself, its margin is mixed, it goes back to a width
that no open line has, or it stands inside a line that has no children. Building fails exactly when
some line has such a defect. It reports the first defect of the first such line, and what comes
after that line plays no part. -/
namespace OutlineMarkup

open OutlineMarkup.Tree

/-- What can be wrong with a line among the lines before it. -/
inductive Defect where
  | misread (fault : Fault)
  | mixedMargin
  | unmatched
  | childless (kind : NodeKind)
  deriving Repr, DecidableEq

def Defect.diagnostic (number : Nat) : Defect → Diagnostic
  | misread fault => .ofFault number fault
  | mixedMargin => .ofFault number .mixedIndentation
  | unmatched => .unmatchedUnindent number
  | childless kind => .ofFault number (.childrenNotAllowed kind)

/-- The nearest of the lines before, latest first, that is not blank and whose width is as
wanted. -/
def nearest? (past : List Text) (wanted : Nat → Bool) : Option Text :=
  past.find? fun line => !line.trim.isEmpty && wanted line.margin.length

def isMixed (line : Text) : Bool := line.margin.contains ' ' && line.margin.contains '\t'

lemma indentation_eq (line : Text) : indentation line =
    if isMixed line then .error .mixedIndentation else .ok line.margin.length := rfl

/-- Whether a line is narrower than the one before, and the nearest one that is not wider is
narrower still, or there is none. -/
def isUnmatched (past : List Text) (line : Text) : Bool :=
  (nearest? past fun _ => true).any (line.margin.length < ·.margin.length) &&
    (nearest? past (· ≤ line.margin.length)).all (·.margin.length < line.margin.length)

/-- The kind of the nearest line that is narrower, when its node allows no children. -/
def childless? (past : List Text) (line : Text) : Option NodeKind :=
  match (nearest? past (· < line.margin.length)).bind (Line.node? ·.trim) with
  | none => none
  | some node => if node.allowsChildren then none else some node.kind

/-- The first thing that is wrong with a line after others, of which the latest comes first. Nothing
is wrong with a blank one. -/
def defect? (past : List Text) (line : Text) : Option Defect :=
  if line.trim.isEmpty then none
  else
    match Line.fault? line.trim with
    | some fault => some (.misread fault)
    | none =>
      if isMixed line then some .mixedMargin
      else if isUnmatched past line then some .unmatched
      else (childless? past line).map .childless

/-- The first thing that is wrong with the line of a number. -/
def defectAt? (lines : List Text) (number : Nat) : Option Defect :=
  lines[number]?.bind (defect? (lines.take number).reverse)

lemma defectAt?_append_cons (lines : List Text) (line : Text) (later : List Text) :
    defectAt? (lines ++ line :: later) lines.length = defect? lines.reverse line := by
  simp [defectAt?]

def frameOf (line : Text) : Frame Node := ⟨line.margin.length, (Line.node? line.trim).getD .root⟩

/-- The lines that are not blank, with their widths and nodes. -/
def framesOf (past : List Text) : List (Frame Node) :=
  (past.filter fun line => !line.trim.isEmpty).map frameOf

lemma find?_framesOf (past : List Text) (wanted : Nat → Bool) :
    (framesOf past).find? (wanted ·.width) = (nearest? past wanted).map frameOf := by
  rw [framesOf, List.find?_map, List.find?_filter, nearest?]
  congr 2
  funext line
  rw [Bool.decide_and, Bool.decide_eq_true, Bool.decide_eq_true]
  rfl

lemma head?_framesOf (past : List Text) :
    (framesOf past).head? = (nearest? past fun _ => true).map frameOf := by
  rw [← find?_framesOf]
  cases framesOf past <;> rfl

namespace Draft

/-- The open nodes of a draft are those of the lines that are still open after some lines, of which
the latest comes first. -/
def Follows (past : List Text) (draft : Draft Node) : Prop :=
  draft.layers.map (Frame.map Layer.label) = Frame.openAfter (framesOf past)

variable {past : List Text} {draft : Draft Node} {line : Text}

lemma Follows.blank (h : Follows past draft) (hline : line.trim.isEmpty) :
    Follows (line :: past) (draft.addBlank Node.allowsChildren .empty) := by
  rw [Follows, map_label_addBlank, h, framesOf, framesOf,
    List.filter_cons_of_neg (by simpa using hline)]

lemma Follows.filled (h : Follows past draft) (hline : ¬ line.trim.isEmpty) {node : Node}
    {children : Forest Node} {around : List (Frame (Layer Node))}
    (hsprout : (Line.read line.trim).sprout = .ok (node, children))
    (haround : Frame.enclosing? line.margin.length draft.layers = some around) :
    Follows (line :: past) (draft.openNode around line.margin.length node children) := by
  have hframe : frameOf line = ⟨line.margin.length, node⟩ := by
    rw [frameOf, (Line.node?_of_sprout hsprout).2]
    rfl
  have hopen : Frame.enclosing? (frameOf line).width (Frame.openAfter (framesOf past)) =
      some (around.map (Frame.map Layer.label)) := by
    rw [← h, Frame.enclosing?_map, hframe, haround]
    rfl
  rw [Follows, framesOf, List.filter_cons_of_pos (by simpa using hline), List.map_cons, ← framesOf,
    Frame.openAfter_cons_of_enclosing? _ hopen, hframe]
  rfl

/-- A line meets no open line exactly when its width is unmatched. -/
lemma Follows.enclosing?_eq_none_iff (h : Follows past draft) :
    Frame.enclosing? line.margin.length draft.layers = none ↔ isUnmatched past line := by
  have hmap := Frame.enclosing?_map Layer.label line.margin.length draft.layers
  rw [h] at hmap
  rw [← Option.map_eq_none_iff, ← hmap, Frame.enclosing?_openAfter_eq_none_iff, head?_framesOf,
    find?_framesOf past (· ≤ line.margin.length), Option.any_map, Option.all_map, isUnmatched,
    Bool.and_eq_true]
  rfl

/-- What a line hangs at allows no children exactly when the nearest narrower line does not. -/
lemma Follows.childless?_eq (h : Follows past draft) {around : List (Frame (Layer Node))}
    (haround : Frame.enclosing? line.margin.length draft.layers = some around) :
    childless? past line =
      if (parentNode around).allowsChildren then none else some (parentNode around).kind := by
  have hmap := Frame.enclosing?_map Layer.label line.margin.length draft.layers
  rw [h, haround] at hmap
  have hhead := Frame.head?_of_enclosing? hmap
  rw [find?_framesOf past (· < line.margin.length), List.head?_map] at hhead
  have hparent : parentNode around =
      ((nearest? past (· < line.margin.length)).map fun outer => (frameOf outer).item).getD
        .root := by
    rw [show (fun outer => (frameOf outer).item) = Frame.item ∘ frameOf from rfl,
      ← Option.map_map, ← hhead, Option.map_map]
    rfl
  rw [hparent, childless?]
  cases nearest? past (· < line.margin.length) with
  | none => rfl
  | some outer =>
    rw [Option.bind_some, Option.map_some, Option.getD_some, frameOf]
    cases Line.node? outer.trim <;> rfl

/-- One line: it is refused for its defect, and otherwise the draft follows it. -/
theorem Follows.addLine (h : Follows past draft) (number : Nat) (line : Text) :
    match defect? past line with
    | some defect => draft.addLine number line = .error (defect.diagnostic number)
    | none => ∃ draft', draft.addLine number line = .ok draft' ∧ Follows (line :: past) draft' := by
  by_cases hblank : line.trim.isEmpty
  · rw [defect?, if_pos hblank]
    exact ⟨_, addLine_of_blank hblank draft number, h.blank hblank⟩
  rw [defect?, if_neg hblank]
  cases hs : (Line.read line.trim).sprout with
  | error fault =>
    rw [Line.fault?_of_sprout_error hs, Draft.addLine, hs]
    rfl
  | ok sprout =>
    obtain ⟨node, children⟩ := sprout
    rw [(Line.node?_of_sprout hs).1]
    simp only [Draft.addLine, hs, if_neg hblank, indentation_eq]
    by_cases hmixed : isMixed line
    · simp only [hmixed, if_true]
      rfl
    · simp only [hmixed, Bool.false_eq_true, if_false]
      cases haround : Frame.enclosing? line.margin.length draft.layers with
      | none =>
        rw [if_pos (h.enclosing?_eq_none_iff.1 haround)]
        rfl
      | some around =>
        have hmatched : ¬ isUnmatched past line := by
          intro hn
          rw [h.enclosing?_eq_none_iff.2 hn] at haround
          cases haround
        rw [if_neg hmatched, h.childless?_eq haround]
        by_cases hallows : (parentNode around).allowsChildren
        · simp only [hallows, if_true]
          exact ⟨_, rfl, h.filled hblank hs haround⟩
        · simp only [hallows, Bool.false_eq_true, if_false]
          rfl

/-- A run of lines: all of them are taken, or the first one with a defect is refused. -/
theorem Follows.addLines {done : List Text} (h : Follows done.reverse draft) (lines : List Text) :
    ((∃ draft', draft.addLines done.length lines = .ok draft') ∧
      ∀ number, done.length ≤ number → defectAt? (done ++ lines) number = none) ∨
    ∃ number defect, defectAt? (done ++ lines) number = some defect ∧
      (∀ earlier, done.length ≤ earlier → earlier < number →
        defectAt? (done ++ lines) earlier = none) ∧
      draft.addLines done.length lines = .error (defect.diagnostic number) := by
  induction lines generalizing done draft with
  | nil =>
    refine .inl ⟨⟨draft, rfl⟩, fun number hn => ?_⟩
    rw [defectAt?, List.append_nil, List.getElem?_eq_none hn]
    rfl
  | cons line rest ih =>
    have hstep := h.addLine done.length line
    have hdefect := defectAt?_append_cons done line rest
    cases hd : defect? done.reverse line with
    | some defect =>
      rw [hd] at hstep hdefect
      refine .inr ⟨done.length, defect, hdefect, fun earlier hle hlt => by omega, ?_⟩
      rw [Draft.addLines, hstep]
    | none =>
      rw [hd] at hstep hdefect
      obtain ⟨draft', hline, hfollows⟩ := hstep
      have hdone : Follows (done ++ [line]).reverse draft' := by simpa using hfollows
      have hnext := ih hdone
      rw [List.length_append, List.length_singleton, List.append_assoc,
        List.singleton_append] at hnext
      rw [Draft.addLines, hline]
      have hfirst : ∀ number, done.length ≤ number → ¬ done.length + 1 ≤ number →
          defectAt? (done ++ line :: rest) number = none := by
        intro number hle hnot
        obtain rfl : number = done.length := by omega
        exact hdefect
      rcases hnext with ⟨hok, hnone⟩ | ⟨number, defect, hsome, hnone, herror⟩
      · refine .inl ⟨hok, fun number hle => ?_⟩
        by_cases hlater : done.length + 1 ≤ number
        · exact hnone number hlater
        · exact hfirst number hle hlater
      · refine .inr ⟨number, defect, hsome, fun earlier hle hlt => ?_, herror⟩
        by_cases hlater : done.length + 1 ≤ earlier
        · exact hnone earlier hlater hlt
        · exact hfirst earlier hle hlater

end Draft

/-- A line has a defect, and no line before it has one. -/
structure FirstDefect (lines : List Text) (number : Nat) (defect : Defect) : Prop where
  here : defectAt? lines number = some defect
  earlier : ∀ earlier < number, defectAt? lines earlier = none

namespace FirstDefect

variable {lines : List Text} {number number' : Nat} {defect defect' : Defect}

lemma unique (h : FirstDefect lines number defect) (h' : FirstDefect lines number' defect') :
    number = number' ∧ defect = defect' := by
  have hnumber : number = number' := by
    rcases Nat.lt_trichotomy number number' with hlt | heq | hgt
    · have := h.here
      rw [h'.earlier number hlt] at this
      cases this
    · exact heq
    · have := h'.here
      rw [h.earlier number' hgt] at this
      cases this
  subst hnumber
  exact ⟨rfl, Option.some.inj (h.here.symm.trans h'.here)⟩

end FirstDefect

/-- A line that goes back between two open widths, under a void element: its width is reported. -/
example : Tree.ofLines (["%ul", "    %hr", "  a", "\t b"].map String.toList) =
    .error (Defect.unmatched.diagnostic 2) := by
  decide +kernel

end OutlineMarkup

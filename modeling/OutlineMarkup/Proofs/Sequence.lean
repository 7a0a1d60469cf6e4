import OutlineMarkup.Proofs.Joining
import OutlineMarkup.Proofs.Runs

/-! One template after another. The lines of the second one find the open lines of the first, but
its first line that is not blank is as narrow as the outermost of them and closes them all. From
there on the draft is that of the second template alone, behind the outline of the first; its
leading blank lines stand somewhere inside the first and cannot be seen there. -/
namespace OutlineMarkup

open Layout OutlineMarkup.Tree

namespace Draft

section Behind

variable {α : Type}

/-- Put a forest before an open node and its siblings, if it is the outermost one. -/
def frameBehind (start : Forest α) (outermost : Bool) (frame : Frame (Layer α)) :
    Frame (Layer α) :=
  ⟨frame.width, if outermost then start.append frame.item.before else frame.item.before,
    frame.item.label, frame.item.after⟩

/-- Put a forest before all that is outside some layers. -/
def layersBehind (start : Forest α) : List (Frame (Layer α)) → List (Frame (Layer α))
  | [] => []
  | frame :: outer => frameBehind start outer.isEmpty frame :: layersBehind start outer

/-- A draft with a forest before all that is in it. -/
def behind (start : Forest α) (draft : Draft α) : Draft α where
  layers := layersBehind start draft.layers
  inner := if draft.layers.isEmpty then start.append draft.inner else draft.inner

variable (start : Forest α)

lemma layersBehind_append (dropped : List (Frame (Layer α))) {around : List (Frame (Layer α))}
    (h : around ≠ []) :
    layersBehind start (dropped ++ around) = dropped ++ layersBehind start around := by
  induction dropped with
  | nil => rfl
  | cons frame dropped ih =>
    have hne : (dropped ++ around).isEmpty = false := by simp [h]
    rw [List.cons_append, layersBehind, ih, hne, List.cons_append]
    rfl

lemma closeAll_layersBehind {layers : List (Frame (Layer α))} (h : layers ≠ [])
    (inner : Forest α) :
    Layer.closeAll ((layersBehind start layers).map Frame.item) inner =
      start.append (Layer.closeAll (layers.map Frame.item) inner) := by
  induction layers generalizing inner with
  | nil => exact absurd rfl h
  | cons frame outer ih =>
    cases outer with
    | nil => simp [layersBehind, frameBehind, Layer.closeAll, Layer.close, Forest.append_assoc]
    | cons next outer => exact ih (by simp) (frame.item.close inner)

/-- The forest stands before the whole outline. -/
lemma outline_behind (draft : Draft α) :
    (draft.behind start).outline = start.append draft.outline := by
  obtain ⟨layers, inner⟩ := draft
  cases layers with
  | nil => rfl
  | cons frame outer => exact closeAll_layersBehind start (by simp) inner

lemma inside_behind {draft : Draft α} {around : List (Frame (Layer α))}
    (h : around <:+ draft.layers) :
    (draft.behind start).inside (layersBehind start around) =
      if around.isEmpty then start.append (draft.inside around) else draft.inside around := by
  cases around with
  | nil =>
    have hall : ∀ other : Draft α, other.inside [] = other.outline := by
      intro other
      rw [outline_eq_closeAll (List.nil_suffix)]
      rfl
    rw [layersBehind, hall, hall, outline_behind]
    rfl
  | cons frame outer =>
    obtain ⟨dropped, hd⟩ := h
    have hlayers : (draft.behind start).layers =
        dropped ++ layersBehind start (frame :: outer) := by
      rw [← layersBehind_append start dropped (by simp), hd]
      rfl
    have hne : draft.layers.isEmpty = false := by rw [← hd]; simp
    rw [inside_eq hlayers, inside_eq hd.symm, behind, hne]
    rfl

lemma openNode_behind {draft : Draft α} {around : List (Frame (Layer α))}
    (h : around <:+ draft.layers) (width : Nat) (label : α) (children : Forest α) :
    (draft.behind start).openNode (layersBehind start around) width label children =
      (draft.openNode around width label children).behind start := by
  rw [openNode, inside_behind start h, behind, openNode, layersBehind]
  cases around <;> rfl

lemma accepts_layersBehind (allows : α → Bool) (layers : List (Frame (Layer α))) :
    accepts allows (layersBehind start layers) = accepts allows layers := by
  cases layers with
  | nil => rfl
  | cons frame outer => cases outer <;> rfl

lemma addAfter_layersBehind (allows : α → Bool) (new : Forest α)
    (layers : List (Frame (Layer α))) :
    addAfter allows new (layersBehind start layers) =
      layersBehind start (addAfter allows new layers) := by
  induction layers with
  | nil => rfl
  | cons frame outer ih =>
    have hempty : (addAfter allows new outer).isEmpty = outer.isEmpty := by
      cases outer with
      | nil => rfl
      | cons next outer =>
        rw [addAfter]
        split <;> rfl
    rw [layersBehind, addAfter, addAfter, accepts_layersBehind, ih]
    split
    · rw [layersBehind]
      cases outer <;> rfl
    · rw [layersBehind, hempty]

lemma addBlank_behind (allows : α → Bool) (draft : Draft α) (label : α) :
    (draft.behind start).addBlank allows label = (draft.addBlank allows label).behind start := by
  obtain ⟨layers, inner⟩ := draft
  cases layers with
  | nil => simp [addBlank, behind, layersBehind, accepts, Forest.append_assoc]
  | cons frame outer =>
    have haccepts := accepts_layersBehind start allows (frame :: outer)
    by_cases h : accepts allows (frame :: outer)
    · simp [addBlank, behind, haccepts, h]
    · have hempty : (addAfter allows (.cons label .nil .nil) (frame :: outer)).isEmpty = false := by
        rw [addAfter]
        split <;> rfl
      simp [addBlank, behind, haccepts, h, addAfter_layersBehind, hempty]

lemma dropWhile_layersBehind (width : Nat) (layers : List (Frame (Layer α))) :
    (layersBehind start layers).dropWhile (width < ·.width) =
      layersBehind start (layers.dropWhile (width < ·.width)) := by
  induction layers with
  | nil => rfl
  | cons frame outer ih =>
    by_cases hw : width < frame.width
    · rw [layersBehind, List.dropWhile_cons_of_pos (by simpa [frameBehind] using hw),
        List.dropWhile_cons_of_pos (by simpa using hw), ih]
    · rw [layersBehind, List.dropWhile_cons_of_neg (by simpa [frameBehind] using hw),
        List.dropWhile_cons_of_neg (by simpa using hw), layersBehind]

/-- What stands before all layers does not change which of them are around a line. -/
lemma enclosing?_layersBehind (width : Nat) (layers : List (Frame (Layer α))) :
    Frame.enclosing? width (layersBehind start layers) =
      (Frame.enclosing? width layers).map (layersBehind start) := by
  cases layers with
  | nil => rfl
  | cons frame outer =>
    have hdrop := dropWhile_layersBehind start width (frame :: outer)
    rw [layersBehind] at hdrop
    rw [layersBehind, Frame.enclosing?, Frame.enclosing?, hdrop]
    by_cases hw : frame.width < width
    · simp [frameBehind, hw, layersBehind]
    · simp only [frameBehind, hw, if_false]
      cases (frame :: outer).dropWhile (width < ·.width) with
      | nil => rfl
      | cons same around =>
        by_cases hs : same.width = width <;> simp [layersBehind, frameBehind, hs]

end Behind

lemma parentNode_layersBehind (start : Forest Node) (layers : List (Frame (Layer Node))) :
    parentNode (layersBehind start layers) = parentNode layers := by
  cases layers <;> rfl

/-- A draft takes a line behind a forest exactly when it takes it alone. -/
lemma addLine_behind_iff {start : Forest Node} {draft draft' : Draft Node} {number : Nat}
    {line : Text} :
    (draft.behind start).addLine number line = .ok draft' ↔
      ∃ alone, draft.addLine number line = .ok alone ∧ draft' = alone.behind start := by
  by_cases hline : line.trim.isEmpty
  · simp only [addLine_of_blank hline, addBlank_behind, Except.ok.injEq, exists_eq_left']
    exact eq_comm
  · rw [addLine_eq_ok_iff hline]
    constructor
    · rintro ⟨node, children, around', hsprout, hi, hmap, hallows, rfl⟩
      rw [behind, enclosing?_layersBehind] at hmap
      obtain ⟨around, haround, rfl⟩ := Option.map_eq_some_iff.1 hmap
      rw [parentNode_layersBehind] at hallows
      refine ⟨_, (addLine_eq_ok_iff hline).2
        ⟨node, children, around, hsprout, hi, haround, hallows, rfl⟩, ?_⟩
      exact openNode_behind start (Frame.suffix_of_enclosing? haround) _ _ _
    · rintro ⟨alone, halone, rfl⟩
      obtain ⟨node, children, around, hsprout, hi, haround, hallows, rfl⟩ :=
        (addLine_eq_ok_iff hline).1 halone
      refine ⟨node, children, layersBehind start around, hsprout, hi, ?_, ?_, ?_⟩
      · rw [behind, enclosing?_layersBehind, haround]
        rfl
      · rwa [parentNode_layersBehind]
      · exact (openNode_behind start (Frame.suffix_of_enclosing? haround) _ _ _).symm

/-- So does it take a run of lines. -/
theorem addLines_behind_iff {start : Forest Node} {draft draft' : Draft Node} {number : Nat}
    {lines : List Text} :
    (draft.behind start).addLines number lines = .ok draft' ↔
      ∃ alone, draft.addLines number lines = .ok alone ∧ draft' = alone.behind start := by
  induction lines generalizing draft number with
  | nil =>
    simp only [addLines, Except.ok.injEq, exists_eq_left']
    exact eq_comm
  | cons line rest ih =>
    simp only [addLines_cons_eq_ok_iff, addLine_behind_iff]
    constructor
    · rintro ⟨_, ⟨next, hline, rfl⟩, hrest⟩
      obtain ⟨alone, halone, rfl⟩ := ih.1 hrest
      exact ⟨alone, ⟨next, hline, halone⟩, rfl⟩
    · rintro ⟨alone, ⟨next, hline, hrest⟩, rfl⟩
      exact ⟨next.behind start, ⟨next, hline, rfl⟩, ih.2 ⟨alone, hrest, rfl⟩⟩

end Draft

lemma Draft.looksLike_addBlank (allows : Node → Bool) (draft : Draft Node) :
    LooksLike (draft.addBlank allows .empty).outline draft.outline := by
  have hsuffix : holders allows draft.layers <:+ draft.layers := List.dropWhile_suffix _
  rw [outline_addBlank, outline_eq_closeAll hsuffix]
  exact (LooksLike.append_empty _).closeAll _

def firstLine? (lines : List Text) : Option Text := lines.find? fun line => !line.trim.isEmpty

/-- The last line that is not blank and has a margin of some width. -/
def lastLineAt? (width : Nat) (lines : List Text) : Option Text :=
  lines.reverse.find? fun line => !line.trim.isEmpty && line.margin.length == width

/-- A line begins with a control tag that goes on with the one another line begins with. -/
def TakesUp (earlier later : Text) : Prop :=
  ∃ first second, leading? earlier = some first ∧ leading? later = some second ∧
    second.continues first

instance (earlier later : Text) : Decidable (TakesUp earlier later) :=
  decidable_of_iff
    ((leading? earlier).any fun first => (leading? later).any (·.continues first)) (by
      simp [TakesUp, Option.any_eq_true])

section Concat

variable {lines blanks : List Text} {line first : Text}

lemma firstLine?_append_of_blank (h : ∀ line ∈ blanks, line.trim.isEmpty) :
    firstLine? (lines ++ blanks) = firstLine? lines := by
  have hnone : blanks.find? (fun line => !line.trim.isEmpty) = none := by
    simpa [List.find?_eq_none] using h
  rw [firstLine?, List.find?_append, hnone, Option.or_none, firstLine?]

lemma firstLine?_concat (h : firstLine? lines = some first) (line : Text) :
    firstLine? (lines ++ [line]) = some first := by
  rw [firstLine?, List.find?_append, ← firstLine?, h]
  rfl

lemma firstLine?_concat_of_none (h : firstLine? lines = none) (hline : ¬ line.trim.isEmpty) :
    firstLine? (lines ++ [line]) = some line := by
  rw [firstLine?, List.find?_append, ← firstLine?, h, List.find?_singleton]
  simp [hline]

/-- Before the first line that is not blank there are blank lines only. -/
lemma exists_of_firstLine? (h : firstLine? lines = some first) :
    ¬ first.trim.isEmpty ∧ ∃ blanks rest, lines = blanks ++ first :: rest ∧
      ∀ line ∈ blanks, line.trim.isEmpty := by
  obtain ⟨hfirst, blanks, rest, rfl, hblanks⟩ := List.find?_eq_some_iff_append.1 h
  exact ⟨by simpa using hfirst, blanks, rest, rfl, by simpa using hblanks⟩

lemma lastLineAt?_append_of_blank (width : Nat) (h : ∀ line ∈ blanks, line.trim.isEmpty) :
    lastLineAt? width (lines ++ blanks) = lastLineAt? width lines := by
  have hnone : blanks.reverse.find?
      (fun line => !line.trim.isEmpty && line.margin.length == width) = none := by
    rw [List.find?_eq_none]
    intro line hline
    simp [h line (List.mem_reverse.1 hline)]
  rw [lastLineAt?, List.reverse_append, List.find?_append, hnone, Option.none_or, lastLineAt?]

lemma lastLineAt?_concat_of_eq (hline : ¬ line.trim.isEmpty) :
    lastLineAt? line.margin.length (lines ++ [line]) = some line := by
  rw [lastLineAt?, List.reverse_append, List.reverse_singleton, List.singleton_append,
    List.find?_cons_of_pos (by simp [hline])]

lemma lastLineAt?_concat_of_ne {width : Nat} (h : line.margin.length ≠ width) :
    lastLineAt? width (lines ++ [line]) = lastLineAt? width lines := by
  rw [lastLineAt?, List.reverse_append, List.reverse_singleton, List.singleton_append,
    List.find?_cons_of_neg (by simp [h]), lastLineAt?]

end Concat

namespace Frame

variable {α : Type} {width : Nat} {frames around : List (Frame α)} {base : Frame α}

/-- A line as narrow as the outermost open line closes all lines. -/
lemma enclosing?_base (h : ∀ frame ∈ frames, base.width < frame.width) :
    enclosing? base.width (frames ++ [base]) = some [] := by
  have hdrop : (frames ++ [base]).dropWhile (base.width < ·.width) = [base] := by
    rw [List.dropWhile_append_of_pos (by simpa using h)]
    simp
  cases frames with
  | nil => simp [enclosing?]
  | cons frame frames =>
    have hframe := h frame (by simp)
    rw [List.cons_append] at hdrop ⊢
    simp only [enclosing?, hdrop, if_neg (Nat.not_lt_of_lt hframe), if_true]

/-- A line that is not wider than the innermost open line is as wide as some open line. -/
lemma exists_same_of_enclosing? {frame : Frame α}
    (h : enclosing? width (frame :: frames) = some around) (hw : ¬ frame.width < width) :
    ∃ dropped same, frame :: frames = dropped ++ same :: around ∧ same.width = width := by
  simp only [enclosing?, hw, if_false] at h
  split at h
  · next same outer hdrop =>
    split at h
    · next hsame =>
      cases h
      obtain ⟨dropped, hdropped⟩ := hdrop ▸ List.dropWhile_suffix (l := frame :: frames) _
      exact ⟨dropped, same, hdropped.symm, hsame⟩
    · cases h
  · cases h

/-- Any other line is wider than the outermost open line, which stays open. -/
lemma enclosing?_of_base (h : ∀ frame ∈ frames, base.width < frame.width)
    (haround : enclosing? width (frames ++ [base]) = some around) :
    (width = base.width ∧ around = []) ∨
      (base.width < width ∧ ∃ inner, inner <:+ frames ∧ around = inner ++ [base]) := by
  obtain ⟨frame, outer, hframes⟩ : ∃ frame outer, frames ++ [base] = frame :: outer :=
    List.exists_cons_of_ne_nil (by simp)
  by_cases hw : frame.width < width
  · refine .inr ⟨?_, frames, List.suffix_refl _, ?_⟩
    · have hmem : frame ∈ frames ++ [base] := by simp [hframes]
      rcases List.mem_append.1 hmem with hmem | hmem
      · exact Nat.lt_trans (h frame hmem) hw
      · rwa [← List.mem_singleton.1 hmem]
    · rw [hframes] at haround ⊢
      simp only [enclosing?, hw, if_true, Option.some.injEq] at haround
      exact haround.symm
  · rw [hframes] at haround
    obtain ⟨dropped, same, hdropped, hsame⟩ := exists_same_of_enclosing? haround hw
    rw [← hframes] at hdropped
    rcases List.eq_nil_or_concat around with rfl | ⟨inner, last, rfl⟩
    · obtain ⟨-, hlast⟩ := List.append_inj' hdropped rfl
      cases hlast
      exact .inl ⟨hsame.symm, rfl⟩
    · rw [List.concat_eq_append, ← List.cons_append, ← List.append_assoc] at hdropped
      obtain ⟨rfl, hlast⟩ := List.append_inj' hdropped rfl
      cases hlast
      refine .inr ⟨?_, inner, ⟨dropped ++ [same], by simp⟩, List.concat_eq_append⟩
      rw [← hsame]
      exact h same (by simp)

end Frame

/-- What is open outside all other lines: nothing before the first line that is not blank, and then
always the last line that is as narrow as that one. -/
inductive Grounded (lines : List Text) (draft : Draft Node) : Prop
  | blank (hlines : firstLine? lines = none) (hlayers : draft.layers = [])
  | filled {first last : Text} {node : Node} {children : Forest Node} {frames : List (Frame Node)}
      (hfirst : firstLine? lines = some first)
      (hlast : lastLineAt? first.margin.length lines = some last)
      (hsprout : (Line.read last.trim).sprout = .ok (node, children))
      (hlayers : draft.layers.map (Frame.map Layer.label) =
        frames ++ [⟨first.margin.length, node⟩])
      (hframes : ∀ frame ∈ frames, first.margin.length < frame.width)

namespace Grounded

variable {lines : List Text} {draft draft' : Draft Node} {line : Text}

lemma start : Grounded [] {} := .blank rfl rfl

lemma blankLine (h : Grounded lines draft) (hline : line.trim.isEmpty) :
    Grounded (lines ++ [line]) (draft.addBlank Node.allowsChildren .empty) := by
  have hlabels := draft.map_label_addBlank Node.allowsChildren .empty
  have hblank : ∀ other ∈ [line], other.trim.isEmpty := by simpa using hline
  cases h with
  | blank hlines hlayers =>
    rw [hlayers, List.map_nil, List.map_eq_nil_iff] at hlabels
    exact .blank (by rw [firstLine?_append_of_blank hblank, hlines]) hlabels
  | filled hfirst hlast hsprout hlayers hframes =>
    refine .filled (by rw [firstLine?_append_of_blank hblank, hfirst]) ?_ hsprout
      (hlabels.trans hlayers) hframes
    rwa [lastLineAt?_append_of_blank _ hblank]

lemma filledLine (h : Grounded lines draft) (hline : ¬ line.trim.isEmpty) {node : Node}
    {children : Forest Node} (hsprout : (Line.read line.trim).sprout = .ok (node, children))
    {around : List (Frame (Layer Node))}
    (haround : Frame.enclosing? line.margin.length draft.layers = some around) :
    Grounded (lines ++ [line]) (draft.openNode around line.margin.length node children) := by
  cases h with
  | blank hlines hlayers =>
    rw [hlayers] at haround
    cases haround
    exact .filled (firstLine?_concat_of_none hlines hline) (lastLineAt?_concat_of_eq hline) hsprout
      (List.nil_append _).symm (by simp)
  | @filled first last base _ frames hfirst hlast hbase hlayers hframes =>
    have hmap := Frame.enclosing?_map Layer.label line.margin.length draft.layers
    rw [haround, hlayers, Option.map_some] at hmap
    have hopened : (draft.openNode around line.margin.length node children).layers.map
        (Frame.map Layer.label) =
          ⟨line.margin.length, node⟩ :: around.map (Frame.map Layer.label) := rfl
    rcases Frame.enclosing?_of_base hframes hmap with ⟨hwidth, hnil⟩ | ⟨hwidth, inner, hin, heq⟩
    · -- the line takes the place of the outermost open line
      dsimp only at hwidth
      rw [hnil, ← List.nil_append [_]] at hopened
      rw [hwidth] at hopened ⊢
      refine .filled (firstLine?_concat hfirst line) ?_ hsprout hopened (by simp)
      rw [← hwidth]
      exact lastLineAt?_concat_of_eq hline
    · dsimp only at hwidth
      rw [heq, ← List.cons_append] at hopened
      refine .filled (firstLine?_concat hfirst line) ?_ hbase hopened ?_
      · rwa [lastLineAt?_concat_of_ne (Nat.ne_of_gt hwidth)]
      · intro frame hf
        rcases List.mem_cons.1 hf with rfl | hf
        · exact hwidth
        · exact hframes frame (hin.subset hf)

lemma addLine {number : Nat} (h : Grounded lines draft)
    (hadd : draft.addLine number line = .ok draft') : Grounded (lines ++ [line]) draft' := by
  by_cases hline : line.trim.isEmpty
  · rw [Draft.addLine_of_blank hline] at hadd
    cases hadd
    exact h.blankLine hline
  · obtain ⟨node, children, around, hsprout, haround, -, rfl⟩ := Draft.addLine_eq_ok hline hadd
    exact h.filledLine hline hsprout haround

end Grounded

lemma Trails.addLine {lines : List Text} {draft draft' : Draft Node} {line : Text} {number : Nat}
    (h : Trails lines draft) (hadd : draft.addLine number line = .ok draft') :
    Trails (lines ++ [line]) draft' := by
  by_cases hline : line.trim.isEmpty
  · rw [Draft.addLine_of_blank hline] at hadd
    cases hadd
    exact h.blank hline
  · obtain ⟨node, children, around, hsprout, haround, hallows, rfl⟩ :=
      Draft.addLine_eq_ok hline hadd
    exact h.filled hline hsprout (Frame.suffix_of_enclosing? haround) hallows

namespace Draft

variable {draft draft' : Draft Node} {lines blanks : List Text}

/-- Blank lines are always taken, and cannot be seen. -/
lemma exists_addLines_of_blank (draft : Draft Node) (number : Nat)
    (h : ∀ line ∈ blanks, line.trim.isEmpty) :
    ∃ draft', draft.addLines number blanks = .ok draft' ∧
      LooksLike draft'.outline draft.outline := by
  induction blanks generalizing draft number with
  | nil => exact ⟨draft, rfl, .refl _⟩
  | cons line rest ih =>
    obtain ⟨draft', hrest, hlooks⟩ := ih (draft.addBlank Node.allowsChildren .empty) (number + 1)
      fun other ho => h other (by simp [ho])
    refine ⟨draft', ?_, hlooks.trans (looksLike_addBlank _ draft)⟩
    exact addLines_cons_eq_ok_iff.2 ⟨_, addLine_of_blank (h line (by simp)) draft number, hrest⟩

/-- Blank lines before all others make blank nodes only. -/
lemma eq_behind_of_blank {number : Nat} (h : ∀ line ∈ blanks, line.trim.isEmpty)
    (run : addLines {} number blanks = .ok draft) :
    draft = behind (voids blanks.length) {} := by
  have htrails : Trails ([] ++ blanks) draft :=
    run_induction Trails.addLine [] (.start (by simp) rfl rfl) run
  rw [List.nil_append] at htrails
  cases htrails with
  | start _ hlayers hinner =>
    obtain ⟨layers, inner⟩ := draft
    cases hlayers
    cases hinner
    simp [behind, layersBehind]
  | around hlines _ houter => exact absurd (h _ (by simp [hlines])) houter
  | beside hlines _ houter => exact absurd (h _ (by simp [hlines])) houter

/-- A line as narrow as the outermost open line begins anew behind all that was there. -/
lemma addLine_of_grounded {line : Text} {number : Nat} (hgrounded : Grounded lines draft)
    (hline : ¬ line.trim.isEmpty)
    (hwidth : ∀ first ∈ firstLine? lines, first.margin.length = line.margin.length)
    (h : addLine {} number line = .ok draft') :
    draft.addLine number line = .ok (draft'.behind draft.outline) := by
  obtain ⟨node, children, around, hsprout, hi, haround, -, rfl⟩ := (addLine_eq_ok_iff hline).1 h
  cases haround
  have hnone : Frame.enclosing? line.margin.length draft.layers = some [] := by
    cases hgrounded with
    | blank _ hlayers => rw [hlayers, Frame.enclosing?]
    | @filled first _ base _ frames hfirst _ _ hlayers hframes =>
      have hbase : Frame.enclosing? first.margin.length
          (frames ++ [⟨first.margin.length, base⟩]) = some [] := Frame.enclosing?_base hframes
      have hmap := Frame.enclosing?_map Layer.label line.margin.length draft.layers
      rw [hlayers, ← hwidth first hfirst, hbase] at hmap
      obtain ⟨around, haround, hnil⟩ := Option.map_eq_some_iff.1 hmap.symm
      rw [← hwidth first hfirst, haround, List.map_eq_nil_iff.1 hnil]
  refine (addLine_eq_ok_iff hline).2 ⟨node, children, [], hsprout, hi, hnone, rfl, ?_⟩
  simp [openNode, behind, layersBehind, frameBehind, inside, outline, Layer.closeAll]

end Draft

/-- The last node outside all others, if it is a control tag, is that of the last line as narrow as
the first one. -/
lemma Grounded.leading?_of_last? {lines : List Text} {draft : Draft Node} {control : Control}
    (h : Grounded lines draft) (htrails : Trails lines draft)
    (hcontrol : draft.outline.last?.bind Node.control? = some control) :
    ∃ first last, firstLine? lines = some first ∧
      lastLineAt? first.margin.length lines = some last ∧ leading? last = some control := by
  cases h with
  | blank _ hlayers =>
    exfalso
    cases htrails with
    | start _ _ hinner =>
      rw [Draft.outline, hlayers, hinner] at hcontrol
      have hnone := control?_last?_voids lines.length
      rw [List.map_nil, Layer.closeAll, hnone] at hcontrol
      cases hcontrol
    | around _ _ _ _ _ h => simp [hlayers] at h
    | beside _ _ _ _ _ h => simp [hlayers] at h
  | @filled first last node children frames hfirst hlast hsprout hlayers _ =>
    refine ⟨first, last, hfirst, hlast, ?_⟩
    obtain ⟨inner, outer, hsplit, -, houter⟩ := List.map_eq_append_iff.1 hlayers
    obtain ⟨frame, rfl, hframe⟩ := List.map_eq_singleton_iff.1 houter
    have hlabel : frame.item.label = node := congrArg Frame.item hframe
    have hmem : frame ∈ draft.layers := by simp [hsplit]
    obtain ⟨-, n, hafter, -⟩ := htrails.after_eq hmem
    rw [Draft.outline, hsplit, List.map_append, Layer.closeAll_append, List.map_singleton,
      Layer.closeAll, Layer.closeAll, Layer.close, hlabel, hafter] at hcontrol
    rw [leading?, hsprout]
    exact control?_of_last?_voids hcontrol

lemma Layer.first?_closeAll_congr {α : Type} {forest other : Forest α}
    (h : forest.first? = other.first?) (layers : List (Layer α)) :
    (closeAll layers forest).first? = (closeAll layers other).first? := by
  induction layers generalizing forest other with
  | nil => exact h
  | cons layer outer ih =>
    apply ih
    rw [close, close, Forest.first?_append, Forest.first?_append]
    rfl

/-- What comes first still comes first when more is added inside some layers. -/
lemma Layer.first?_closeAll_append {α : Type} {layers : List (Layer α)} {inner : Forest α}
    {label : α} (h : (closeAll layers inner).first? = some label) (new : Forest α) :
    (closeAll layers (inner.append new)).first? = some label := by
  cases layers with
  | nil =>
    have hinner : inner.first? = some label := h
    rw [closeAll, Forest.first?_append, hinner, Option.some_or]
  | cons layer outer =>
    rw [← h, closeAll, closeAll]
    apply first?_closeAll_congr
    rw [close, close, Forest.first?_append, Forest.first?_append]
    rfl

namespace Draft

lemma first?_addLine {draft draft' : Draft Node} {line : Text} {number : Nat} {node : Node}
    (h : draft.outline.first? = some node) (hadd : draft.addLine number line = .ok draft') :
    draft'.outline.first? = some node := by
  by_cases hline : line.trim.isEmpty
  · rw [addLine_of_blank hline] at hadd
    cases hadd
    have hsuffix : holders Node.allowsChildren draft.layers <:+ draft.layers :=
      List.dropWhile_suffix _
    rw [outline_addBlank]
    apply Layer.first?_closeAll_append
    rwa [← outline_eq_closeAll hsuffix]
  · obtain ⟨top, children, around, -, haround, -, rfl⟩ := addLine_eq_ok hline hadd
    rw [outline_openNode]
    apply Layer.first?_closeAll_append
    rwa [← outline_eq_closeAll (Frame.suffix_of_enclosing? haround)]

/-- The outline of some lines begins with the node of the first of them that is not blank. -/
lemma first?_of_addLines {draft : Draft Node} {line : Text} {rest : List Text} {number : Nat}
    (hline : ¬ line.trim.isEmpty) (run : addLines {} number (line :: rest) = .ok draft) :
    ∃ node children, (Line.read line.trim).sprout = .ok (node, children) ∧
      draft.outline.first? = some node := by
  obtain ⟨mid, hadd, hrest⟩ := addLines_cons_eq_ok_iff.1 run
  obtain ⟨node, children, around, hsprout, -, haround, -, rfl⟩ := (addLine_eq_ok_iff hline).1 hadd
  cases haround
  refine ⟨node, children, hsprout, ?_⟩
  exact run_induction (motive := fun _ draft => draft.outline.first? = some node) first?_addLine
    [line] rfl hrest

/-- A run of lines goes on behind another one, from its first line that is not blank on. -/
lemma addLines_of_grounded {draft alone : Draft Node} {lines rest : List Text} {line : Text}
    {number : Nat} (hgrounded : Grounded lines draft) (hline : ¬ line.trim.isEmpty)
    (hwidth : ∀ first ∈ firstLine? lines, first.margin.length = line.margin.length)
    (run : addLines {} number (line :: rest) = .ok alone) :
    draft.addLines number (line :: rest) = .ok (alone.behind draft.outline) := by
  obtain ⟨mid, hadd, hrest⟩ := addLines_cons_eq_ok_iff.1 run
  refine addLines_cons_eq_ok_iff.2 ⟨mid.behind draft.outline, ?_, ?_⟩
  · exact addLine_of_grounded hgrounded hline hwidth hadd
  · exact addLines_behind_iff.2 ⟨alone, hrest, rfl⟩

end Draft

/-- Lines that do not begin by going on with a control tag make an outline that does not. -/
lemma not_isContinued_of_not_takesUp {earlier later : Text} {control : Control} {node : Node}
    {children forest : Forest Node} (hearlier : leading? earlier = some control)
    (hsprout : (Line.read later.trim).sprout = .ok (node, children))
    (hfirst : forest.first? = some node) (h : ¬ TakesUp earlier later) :
    Layout.isContinued control forest = false := by
  have hlater : leading? later = node.control? := by rw [leading?, hsprout]
  rw [Layout.isContinued, hfirst, Option.bind_some, ← hlater, Option.any_eq_false]
  intro second hsecond
  by_contra hcontinues
  exact h ⟨control, second, hearlier, hsecond, by simpa using hcontinues⟩

namespace Draft

variable {draft alone : Draft Node} {first blanks rest : List Text} {line : Text}

/-- Blank lines before all others stand before what the others make alone. -/
lemma exists_alone_of_blank {number : Nat} (hblanks : ∀ other ∈ blanks, other.trim.isEmpty)
    (run : addLines {} number (blanks ++ line :: rest) = .ok draft) :
    ∃ alone, addLines {} 0 (line :: rest) = .ok alone ∧
      draft = alone.behind (voids blanks.length) := by
  obtain ⟨mid, hmid, hrest⟩ := addLines_append_eq_ok_iff.1 run
  rwa [eq_behind_of_blank hblanks hmid, addLines_behind_iff] at hrest

/-- After other lines, the same lines make what they make alone, behind what looks like the outline
of the others. They do not go on with it unless their first line takes up the last one as narrow. -/
lemma exists_addLines_behind (hrun : addLines {} 0 first = .ok draft)
    (hblanks : ∀ other ∈ blanks, other.trim.isEmpty) (hline : ¬ line.trim.isEmpty)
    (halone : addLines {} 0 (line :: rest) = .ok alone)
    (hwidth : ∀ other ∈ firstLine? first, other.margin.length = line.margin.length)
    (hchain : ∀ last ∈ lastLineAt? line.margin.length first, ¬ TakesUp last line) :
    ∃ start, draft.addLines 0 (blanks ++ line :: rest) = .ok (alone.behind start) ∧
      LooksLike start draft.outline ∧
      ∀ control ∈ start.last?.bind Node.control?,
        Layout.isContinued control alone.outline = false := by
  -- the blank lines go into the first lines, where they cannot be seen
  obtain ⟨mid, hmid, hlooks⟩ := draft.exists_addLines_of_blank 0 hblanks
  have hruns := addLines_append_eq_ok_iff.2 ⟨draft, hrun, hmid⟩
  have hgrounded : Grounded (first ++ blanks) mid := run_induction Grounded.addLine [] .start hruns
  have htrails : Trails (first ++ blanks) mid :=
    run_induction Trails.addLine [] (.start (by simp) rfl rfl) hruns
  have hnarrow : ∀ other ∈ firstLine? (first ++ blanks),
      other.margin.length = line.margin.length := by
    rwa [firstLine?_append_of_blank hblanks]
  refine ⟨mid.outline, addLines_append_eq_ok_iff.2 ⟨mid, hmid, ?_⟩, hlooks, ?_⟩
  · exact addLines_of_grounded hgrounded hline hnarrow halone
  · intro control hcontrol
    obtain ⟨node, children, hsprout, hnode⟩ := first?_of_addLines hline halone
    obtain ⟨other, last, hother, hlast, hleading⟩ := hgrounded.leading?_of_last? htrails hcontrol
    rw [hnarrow other hother, lastLineAt?_append_of_blank _ hblanks] at hlast
    exact not_isContinued_of_not_takesUp hleading hsprout hnode (hchain last hlast)

end Draft

/-- Two templates that begin with the same margin can be written one after the other, unless the
second one goes on with the last control tag of the first. What they make is then accepted, and its
lines are those of the first and those of the second, in every style. -/
theorem ofLines_append {first second : List Text} {tree tree' : Tree}
    (h : Tree.ofLines first = .ok tree) (h' : Tree.ofLines second = .ok tree')
    (hwidth : ∀ line ∈ firstLine? first, ∀ line' ∈ firstLine? second,
      line.margin.length = line'.margin.length)
    (hchain : ∀ line' ∈ firstLine? second, ∀ line ∈ lastLineAt? line'.margin.length first,
      ¬ TakesUp line line') :
    ∃ joined, Tree.ofLines (first ++ second) = .ok joined ∧
      ∀ unit, treeLines unit joined = treeLines unit tree ++ treeLines unit tree' := by
  obtain ⟨draft, hrun, houtline⟩ := Draft.exists_of_ofLines h
  obtain ⟨draft', hrun', houtline'⟩ := Draft.exists_of_ofLines h'
  cases hfirst : firstLine? second with
  | none =>
    -- all lines of the second template are blank
    have hblanks : ∀ line ∈ second, line.trim.isEmpty := by
      simpa [firstLine?, List.find?_eq_none] using hfirst
    obtain ⟨last, hlast, hlooks⟩ := draft.exists_addLines_of_blank 0 hblanks
    obtain ⟨joined, hjoined, hshows⟩ :=
      Draft.exists_ofLines (Draft.addLines_append_eq_ok_iff.2 ⟨draft, hrun, hlast⟩)
    refine ⟨joined, hjoined, fun unit => ?_⟩
    rw [Draft.eq_behind_of_blank hblanks hrun', Draft.outline_behind] at houtline'
    rw [treeLines, treeLines, treeLines, hshows, houtline, houtline', hlooks.lines_eq]
    simp [Draft.outline, Layer.closeAll]
  | some line =>
    obtain ⟨hline, blanks, rest, rfl, hblanks⟩ := exists_of_firstLine? hfirst
    obtain ⟨alone, halone, rfl⟩ := Draft.exists_alone_of_blank hblanks hrun'
    obtain ⟨start, hstart, hlooks, hstop⟩ := Draft.exists_addLines_behind hrun hblanks hline halone
      (fun other ho => hwidth other ho line hfirst) (hchain line hfirst)
    obtain ⟨joined, hjoined, hshows⟩ :=
      Draft.exists_ofLines (Draft.addLines_append_eq_ok_iff.2 ⟨draft, hrun, hstart⟩)
    refine ⟨joined, hjoined, fun unit => ?_⟩
    have hvoids : ∀ control ∈ (voids blanks.length).last?.bind Node.control?,
        Layout.isContinued control alone.outline = false := by
      simp [control?_last?_voids]
    rw [treeLines, treeLines, treeLines, hshows, houtline, houtline', Draft.outline_behind,
      Draft.outline_behind, forestLines_append hstop, forestLines_append hvoids, hlooks.lines_eq,
      forestLines_voids, List.nil_append]

/-- The first template leaves three lines open, the blank line of the second stands inside them, and
the second begins a chain of its own. -/
theorem ofLines_append_chain :
    let first := ["  -if a", "    %b", "      |x"].map String.toList
    let second := ["", "  -if b", "    c", "  -else"].map String.toList
    (∀ line ∈ firstLine? first, ∀ line' ∈ firstLine? second,
      line.margin.length = line'.margin.length) ∧
    (∀ line' ∈ firstLine? second, ∀ line ∈ lastLineAt? line'.margin.length first,
      ¬ TakesUp line line') ∧
    ∃ joined, Tree.ofLines (first ++ second) = .ok joined ∧
      treeLines [' '] joined =
        ["{% if a %}", " <b>x", " </b>", "{% endif %}"].map String.toList ++
          ["{% if b %}", " c", "{% else %}", "{% endif %}"].map String.toList := by
  intro first second
  have hwidth : ∀ line ∈ firstLine? first, ∀ line' ∈ firstLine? second,
      line.margin.length = line'.margin.length := by
    decide +kernel
  have hchain : ∀ line' ∈ firstLine? second, ∀ line ∈ lastLineAt? line'.margin.length first,
      ¬ TakesUp line line' := by
    decide +kernel
  have hfirst : (Tree.ofLines first).map (treeLines [' ']) =
      .ok (["{% if a %}", " <b>x", " </b>", "{% endif %}"].map String.toList) := by
    decide +kernel
  have hsecond : (Tree.ofLines second).map (treeLines [' ']) =
      .ok (["{% if b %}", " c", "{% else %}", "{% endif %}"].map String.toList) := by
    decide +kernel
  obtain ⟨tree, h, hlines⟩ := exists_of_map_ofLines hfirst
  obtain ⟨tree', h', hlines'⟩ := exists_of_map_ofLines hsecond
  obtain ⟨joined, hjoined, hunit⟩ := ofLines_append h h' hwidth hchain
  refine ⟨hwidth, hchain, joined, hjoined, ?_⟩
  rw [hunit, hlines, hlines']

end OutlineMarkup

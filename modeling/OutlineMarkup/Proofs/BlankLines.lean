import OutlineMarkup.Proofs.SplitChains

/-! Blank lines. They change neither whether a template is accepted nor what it is refused for, and
they leave no trace in its lines, with one exception: a blank line under a control tag that is
written inline cuts it off from the line that would go on with it. -/
namespace OutlineMarkup

open Layout OutlineMarkup.Tree

/-- Two diagnostics say the same, at any lines. -/
def Diagnostic.SameWords (first second : Diagnostic) : Prop :=
  first.topic = second.topic ∧ first.message = second.message

lemma Diagnostic.sameWords_ofFault (number number' : Nat) (fault : Fault) :
    SameWords (ofFault number fault) (ofFault number' fault) := ⟨rfl, rfl⟩

def Layer.prune (layer : Layer Node) : Layer Node :=
  ⟨Layout.prune layer.before, layer.label, Layout.prune layer.after⟩

lemma Layer.prune_closeAll {layers : List (Layer Node)} (h : ∀ layer ∈ layers, layer.label ≠ .empty)
    (inner : Forest Node) :
    Layout.prune (closeAll layers inner) =
      closeAll (layers.map Layer.prune) (Layout.prune inner) := by
  induction layers generalizing inner with
  | nil => rfl
  | cons layer outer ih =>
    have hclose : Layout.prune (layer.close inner) = layer.prune.close (Layout.prune inner) := by
      rw [close, prune_append, prune_of_ne (h layer (by simp))]
      rfl
    rw [closeAll, ih (fun other ho => h other (by simp [ho])), hclose, List.map_cons, closeAll]

namespace Draft

def prune (draft : Draft Node) : Draft Node :=
  ⟨draft.layers.map (Frame.map Layer.prune), Layout.prune draft.inner⟩

def Labelled (draft : Draft Node) : Prop := ∀ frame ∈ draft.layers, frame.item.label ≠ .empty

/-- Two drafts are the same but for their blank lines. -/
structure Matches (draft draft' : Draft Node) : Prop where
  labelled : draft.Labelled
  labelled' : draft'.Labelled
  prune_eq : draft.prune = draft'.prune

lemma Matches.start : Matches {} {} := ⟨by simp [Labelled], by simp [Labelled], rfl⟩

lemma parentNode_map_prune (layers : List (Frame (Layer Node))) :
    parentNode (layers.map (Frame.map Layer.prune)) = parentNode layers := by
  cases layers <;> rfl

lemma prune_inside {draft : Draft Node} (h : draft.Labelled) (around : List (Frame (Layer Node))) :
    Layout.prune (draft.inside around) =
      draft.prune.inside (around.map (Frame.map Layer.prune)) := by
  rw [inside, Layer.prune_closeAll, inside, prune]
  · simp only [List.length_map, ← List.map_take, List.map_map]
    rfl
  · intro layer hl
    obtain ⟨frame, hf, rfl⟩ := List.mem_map.1 hl
    exact h frame (List.mem_of_mem_take hf)

lemma prune_openNode {draft : Draft Node} (h : draft.Labelled)
    (around : List (Frame (Layer Node))) (width : Nat) (node : Node) (children : Forest Node) :
    (draft.openNode around width node children).prune =
      draft.prune.openNode (around.map (Frame.map Layer.prune)) width node
        (Layout.prune children) := by
  rw [openNode, openNode, ← prune_inside h]
  rfl

lemma map_prune_addAfter (allows : Node → Bool) (layers : List (Frame (Layer Node))) :
    (addAfter allows (.cons .empty .nil .nil) layers).map (Frame.map Layer.prune) =
      layers.map (Frame.map Layer.prune) := by
  induction layers with
  | nil => rfl
  | cons frame outer ih =>
    rw [addAfter]
    split
    · simp [Frame.map, Layer.prune, prune_append, Layout.prune]
    · rw [List.map_cons, ih, List.map_cons]

lemma prune_addBlank (allows : Node → Bool) (draft : Draft Node) :
    (draft.addBlank allows .empty).prune = draft.prune := by
  rw [addBlank]
  split
  · simp [prune, prune_append, Layout.prune]
  · simp [prune, map_prune_addAfter]

lemma Labelled.addBlank {draft : Draft Node} (h : draft.Labelled) (allows : Node → Bool)
    (node : Node) : (draft.addBlank allows node).Labelled := by
  intro frame hf
  have hmem := List.mem_map_of_mem (f := Frame.map Layer.label) hf
  rw [map_label_addBlank] at hmem
  obtain ⟨other, ho, heq⟩ := List.mem_map.1 hmem
  have hlabel : other.item.label = frame.item.label := congrArg Frame.item heq
  exact hlabel ▸ h other ho

lemma Labelled.openNode {draft : Draft Node} (h : draft.Labelled)
    {around : List (Frame (Layer Node))} (haround : around <:+ draft.layers) (width : Nat)
    {node : Node} (hnode : node ≠ .empty) (children : Forest Node) :
    (draft.openNode around width node children).Labelled := by
  intro frame hf
  rcases List.mem_cons.1 hf with rfl | hf
  · exact hnode
  · exact h frame (haround.subset hf)

lemma addLine_of_blank {line : Text} (h : line.trim.isEmpty) (draft : Draft Node) (number : Nat) :
    draft.addLine number line = .ok (draft.addBlank Node.allowsChildren .empty) := by
  rw [addLine, List.isEmpty_iff.1 h, Line.read_nil]
  rfl

/-- What adding a line that is not blank does, when it does not fail. -/
theorem addLine_eq_ok {draft draft' : Draft Node} {number : Nat} {line : Text}
    (hline : ¬ line.trim.isEmpty) (h : draft.addLine number line = .ok draft') :
    ∃ node children around, (Line.read line.trim).sprout = .ok (node, children) ∧
      Frame.enclosing? line.margin.length draft.layers = some around ∧
      (parentNode around).allowsChildren ∧
      draft' = draft.openNode around line.margin.length node children := by
  rw [addLine] at h
  cases hs : (Line.read line.trim).sprout with
  | error fault => simp [hs] at h
  | ok sprout =>
    obtain ⟨node, children⟩ := sprout
    cases hi : indentation line with
    | error fault => simp [hs, hline, hi] at h
    | ok width =>
      obtain rfl := Builder.eq_of_indentation hi
      simp only [hs, hline, hi, Bool.false_eq_true, if_false] at h
      split at h
      · cases h
      · next around ha =>
        split at h
        · next hallows =>
          cases h
          exact ⟨node, children, around, rfl, ha, hallows, rfl⟩
        · cases h

/-- A line that is not blank does the same to two drafts that are the same without their blank
lines. -/
lemma Matches.addLine {draft draft' : Draft Node} (h : Matches draft draft') {line : Text}
    (hline : ¬ line.trim.isEmpty) (number number' : Nat) :
    Agree Diagnostic.SameWords Matches (draft.addLine number line)
      (draft'.addLine number' line) := by
  have hlayers := congrArg Draft.layers h.prune_eq
  simp only [prune] at hlayers
  rw [Draft.addLine, Draft.addLine]
  cases hs : (Line.read line.trim).sprout with
  | error fault => exact .error (Diagnostic.sameWords_ofFault _ _ fault)
  | ok sprout =>
    obtain ⟨node, children⟩ := sprout
    have hnode := (Line.ne_empty_of_sprout hline hs).1
    simp only [hline, Bool.false_eq_true, if_false]
    cases indentation line with
    | error fault => exact .error (Diagnostic.sameWords_ofFault _ _ fault)
    | ok width =>
      have hmap := congrArg (Frame.enclosing? width) hlayers
      rw [Frame.enclosing?_map, Frame.enclosing?_map] at hmap
      dsimp only
      cases ha : Frame.enclosing? width draft.layers with
      | none =>
        cases ha' : Frame.enclosing? width draft'.layers with
        | none => exact .error ⟨rfl, rfl⟩
        | some around' => simp [ha, ha'] at hmap
      | some around =>
        cases ha' : Frame.enclosing? width draft'.layers with
        | none => simp [ha, ha'] at hmap
        | some around' =>
          simp only [ha, ha', Option.map_some, Option.some.injEq] at hmap
          have hparent : parentNode around = parentNode around' := by
            rw [← parentNode_map_prune around, hmap, parentNode_map_prune]
          dsimp only
          rw [hparent]
          split
          · refine .ok ⟨h.labelled.openNode (Frame.suffix_of_enclosing? ha) width hnode children,
              h.labelled'.openNode (Frame.suffix_of_enclosing? ha') width hnode children, ?_⟩
            rw [prune_openNode h.labelled, prune_openNode h.labelled', h.prune_eq, hmap]
          · exact .error (Diagnostic.sameWords_ofFault _ _ _)

/-- The blank lines of a template leave the rest of its draft as it is, and its faults too. -/
theorem Matches.addLines_filter {draft draft' : Draft Node} (h : Matches draft draft')
    (number number' : Nat) (lines : List Text) :
    Agree Diagnostic.SameWords Matches (draft.addLines number lines)
      (draft'.addLines number' (lines.filter fun line => !line.trim.isEmpty)) := by
  induction lines generalizing draft draft' number number' with
  | nil => exact .ok h
  | cons line rest ih =>
    by_cases hblank : line.trim.isEmpty
    · rw [List.filter_cons_of_neg (by simpa using hblank), addLines, addLine_of_blank hblank]
      have hnext : Matches (draft.addBlank Node.allowsChildren .empty) draft' :=
        ⟨h.labelled.addBlank _ _, h.labelled', (prune_addBlank _ draft).trans h.prune_eq⟩
      exact ih hnext (number + 1) number'
    · have hline := h.addLine hblank number number'
      rw [List.filter_cons_of_pos (by simpa using hblank), addLines, addLines]
      generalize draft.addLine number line = result at hline ⊢
      generalize draft'.addLine number' line = result' at hline ⊢
      cases hline with
      | error hsame => exact .error hsame
      | ok hnext => exact ih hnext (number + 1) (number' + 1)

lemma Matches.prune_outline_eq {draft draft' : Draft Node} (h : Matches draft draft') :
    Layout.prune draft.outline = Layout.prune draft'.outline := by
  have hprune : ∀ {draft : Draft Node}, draft.Labelled →
      Layout.prune draft.outline = draft.prune.outline := by
    intro draft hd
    rw [outline, Layer.prune_closeAll, outline, prune, List.map_map, List.map_map]
    · rfl
    · intro layer hl
      obtain ⟨frame, hf, rfl⟩ := List.mem_map.1 hl
      exact hd frame hf
  rw [hprune h.labelled, h.prune_eq, hprune h.labelled']

end Draft

/-- The control tag that is written last, inline, on a line. -/
def lastInline? (line : Text) : Option Control :=
  match (Line.read line.trim).sprout with
  | .error _ => none
  | .ok (_, children) => children.last?.bind Node.control?

def leading? (line : Text) : Option Control :=
  match (Line.read line.trim).sprout with
  | .error _ => none
  | .ok (node, _) => node.control?

/-- A line further in begins with a control tag that goes on with the last inline one of another
line. -/
def Resumes (outer inner : Text) : Prop :=
  outer.margin.length < inner.margin.length ∧
    ∃ first second, lastInline? outer = some first ∧ leading? inner = some second ∧
      second.continues first

/-- After some lines there are blank lines behind one that a new line resumes. -/
def CutsOff (lines : List Text) (inner : Text) : Prop :=
  ∃ before outer blanks, lines = before ++ outer :: blanks ∧ blanks ≠ [] ∧
    (∀ line ∈ blanks, line.trim.isEmpty) ∧ Resumes outer inner

/-- Somewhere blank lines stand between a line and one that resumes it. -/
def BreaksChain (lines : List Text) : Prop :=
  ∃ before inner after, lines = before ++ inner :: after ∧ CutsOff before inner

lemma not_resumes_of_blank {outer : Text} (h : outer.trim.isEmpty) (inner : Text) :
    ¬ Resumes outer inner := by
  rintro ⟨-, first, second, hfirst, -⟩
  rw [lastInline?, List.isEmpty_iff.1 h, Line.read_nil] at hfirst
  cases hfirst

lemma not_resumes_blank {inner : Text} (h : inner.trim.isEmpty) (outer : Text) :
    ¬ Resumes outer inner := by
  rintro ⟨-, first, second, -, hsecond, -⟩
  rw [leading?, List.isEmpty_iff.1 h, Line.read_nil] at hsecond
  cases hsecond

lemma breaksChain_concat_iff {lines : List Text} {line : Text} :
    BreaksChain (lines ++ [line]) ↔ BreaksChain lines ∨ CutsOff lines line := by
  constructor
  · rintro ⟨before, inner, after, heq, hcut⟩
    rcases List.eq_nil_or_concat after with rfl | ⟨rest, last, rfl⟩
    · obtain ⟨rfl, hlast⟩ := List.append_inj' heq rfl
      cases hlast
      exact .inr hcut
    · rw [List.concat_eq_append, ← List.cons_append, ← List.append_assoc] at heq
      obtain ⟨rfl, -⟩ := List.append_inj' heq rfl
      exact .inl ⟨before, inner, rest, rfl, hcut⟩
  · rintro (⟨before, inner, after, rfl, hcut⟩ | hcut)
    · exact ⟨before, inner, after ++ [line], by simp, hcut⟩
    · exact ⟨lines, line, [], rfl, hcut⟩

/-- The last line that is not blank, and what comes after it, are there only once. -/
lemma outer_unique {before before' blanks blanks' : List Text} {outer outer' : Text}
    (h : before ++ outer :: blanks = before' ++ outer' :: blanks')
    (hb : ∀ line ∈ blanks, line.trim.isEmpty) (hb' : ∀ line ∈ blanks', line.trim.isEmpty)
    (ho : ¬ outer.trim.isEmpty) (ho' : ¬ outer'.trim.isEmpty) :
    outer = outer' ∧ blanks = blanks' := by
  rcases List.append_eq_append_iff.1 h with ⟨mid, rfl, heq⟩ | ⟨mid, rfl, heq⟩
  · cases mid with
    | nil =>
      cases heq
      exact ⟨rfl, rfl⟩
    | cons first mid =>
      obtain ⟨rfl, rfl⟩ := List.cons.inj heq
      exact absurd (hb outer' (by simp)) ho'
  · cases mid with
    | nil =>
      cases heq
      exact ⟨rfl, rfl⟩
    | cons first mid =>
      obtain ⟨rfl, rfl⟩ := List.cons.inj heq
      exact absurd (hb' outer (by simp)) ho

/-- How a draft ends. The last line that is not blank is open; the blank lines after it are in it,
behind what is written inline, or beside it when it has no children. All nodes around it are the
last children of their parents. -/
inductive Trails (lines : List Text) (draft : Draft Node) : Prop
  | start (hlines : ∀ line ∈ lines, line.trim.isEmpty) (hlayers : draft.layers = [])
      (hinner : draft.inner = voids lines.length)
  | around {before blanks : List Text} {outer : Text} {node : Node} {inline siblings : Forest Node}
      {rest : List (Frame (Layer Node))} (hlines : lines = before ++ outer :: blanks)
      (hblanks : ∀ line ∈ blanks, line.trim.isEmpty) (houter : ¬ outer.trim.isEmpty)
      (hsprout : (Line.read outer.trim).sprout = .ok (node, inline)) (hnode : node.allowsChildren)
      (hlayers : draft.layers = ⟨outer.margin.length, siblings, node, .nil⟩ :: rest)
      (hinner : draft.inner = inline.append (voids blanks.length))
      (hrest : ∀ frame ∈ rest, frame.item.after = .nil ∧ frame.item.label.allowsChildren)
  | beside {before blanks : List Text} {outer : Text} {node : Node} {inline siblings : Forest Node}
      {rest : List (Frame (Layer Node))} (hlines : lines = before ++ outer :: blanks)
      (hblanks : ∀ line ∈ blanks, line.trim.isEmpty) (houter : ¬ outer.trim.isEmpty)
      (hsprout : (Line.read outer.trim).sprout = .ok (node, inline))
      (hnode : node.allowsChildren = false)
      (hlayers : draft.layers =
        ⟨outer.margin.length, siblings, node, voids blanks.length⟩ :: rest)
      (hrest : ∀ frame ∈ rest, frame.item.after = .nil ∧ frame.item.label.allowsChildren)

namespace Trails

variable {lines : List Text} {draft : Draft Node} {line : Text}

lemma blank (h : Trails lines draft) (hline : line.trim.isEmpty) :
    Trails (lines ++ [line]) (draft.addBlank Node.allowsChildren .empty) := by
  have hall : ∀ {blanks : List Text}, (∀ line ∈ blanks, line.trim.isEmpty) →
      ∀ other ∈ blanks ++ [line], other.trim.isEmpty := by
    intro blanks hblanks other ho
    rcases List.mem_append.1 ho with ho | ho
    · exact hblanks other ho
    · rwa [List.mem_singleton.1 ho]
  cases h with
  | start hlines hlayers hinner =>
    refine .start (hall hlines) ?_ ?_
    · simp [Draft.addBlank, Draft.accepts, hlayers]
    · simp [Draft.addBlank, Draft.accepts, hlayers, hinner, voids_append]
  | @around before blanks outer node inline siblings rest hlines hblanks houter hsprout hnode
      hlayers hinner hrest =>
    have haccepts : Draft.accepts Node.allowsChildren draft.layers := by
      simp [Draft.accepts, hlayers, hnode]
    have hlines' : lines ++ [line] = before ++ outer :: (blanks ++ [line]) := by simp [hlines]
    have hlayers' : (draft.addBlank Node.allowsChildren .empty).layers =
        ⟨outer.margin.length, siblings, node, .nil⟩ :: rest := by
      rw [Draft.addBlank, if_pos haccepts]
      exact hlayers
    have hinner' : (draft.addBlank Node.allowsChildren .empty).inner =
        inline.append (voids (blanks ++ [line]).length) := by
      simp only [Draft.addBlank, haccepts, if_true, hinner, Forest.append_assoc, voids_append,
        List.length_append, List.length_singleton]
    exact .around hlines' (hall hblanks) houter hsprout hnode hlayers' hinner' hrest
  | @beside before blanks outer node inline siblings rest hlines hblanks houter hsprout hnode
      hlayers hrest =>
    have haccepts : Draft.accepts Node.allowsChildren draft.layers = false := by
      simp [Draft.accepts, hlayers, hnode]
    have hnext : Draft.accepts Node.allowsChildren rest := by
      cases rest with
      | nil => rfl
      | cons frame rest => simpa [Draft.accepts] using (hrest frame (by simp)).2
    have hlines' : lines ++ [line] = before ++ outer :: (blanks ++ [line]) := by simp [hlines]
    have hlayers' : (draft.addBlank Node.allowsChildren .empty).layers =
        ⟨outer.margin.length, siblings, node, voids (blanks ++ [line]).length⟩ :: rest := by
      rw [Draft.addBlank, haccepts]
      simp only [Bool.false_eq_true, if_false, hlayers, Draft.addAfter, hnext, if_true,
        voids_append, List.length_append, List.length_singleton]
    exact .beside hlines' (hall hblanks) houter hsprout hnode hlayers' hrest

lemma good_of_suffix (h : Trails lines draft) {around : List (Frame (Layer Node))}
    (haround : around <:+ draft.layers) (hp : (Draft.parentNode around).allowsChildren) :
    ∀ frame ∈ around, frame.item.after = .nil ∧ frame.item.label.allowsChildren := by
  cases h with
  | start _ hlayers _ =>
    rw [hlayers, List.suffix_nil] at haround
    simp [haround]
  | around _ _ _ _ hnode hlayers _ hrest =>
    rw [hlayers, List.suffix_cons_iff] at haround
    intro frame hf
    rcases haround with rfl | haround
    · rcases List.mem_cons.1 hf with rfl | hf
      · exact ⟨rfl, hnode⟩
      · exact hrest frame hf
    · exact hrest frame (haround.subset hf)
  | beside _ _ _ _ hnode hlayers hrest =>
    rw [hlayers, List.suffix_cons_iff] at haround
    rcases haround with rfl | haround
    · simp [Draft.parentNode, hnode] at hp
    · exact fun frame hf => hrest frame (haround.subset hf)

lemma filled (h : Trails lines draft) (hline : ¬ line.trim.isEmpty) {node : Node}
    {children : Forest Node} (hsprout : (Line.read line.trim).sprout = .ok (node, children))
    {around : List (Frame (Layer Node))} (haround : around <:+ draft.layers)
    (hp : (Draft.parentNode around).allowsChildren) :
    Trails (lines ++ [line]) (draft.openNode around line.margin.length node children) := by
  have hrest := h.good_of_suffix haround hp
  cases hnode : node.allowsChildren with
  | true =>
    exact .around rfl (by simp) hline hsprout hnode rfl (by simp [voids, Draft.openNode]) hrest
  | false => exact .beside rfl (by simp) hline hsprout hnode rfl hrest

/-- Blank lines stand beside an open node only if it has no children. -/
lemma after_eq (h : Trails lines draft) {frame : Frame (Layer Node)} (hf : frame ∈ draft.layers) :
    frame.item.label ≠ .empty ∧ ∃ n, frame.item.after = voids n ∧
      (n = 0 ∨ frame.item.label.allowsChildren = false) := by
  have hgood : ∀ {other : Frame (Layer Node)}, other.item.after = .nil →
      other.item.label.allowsChildren → other.item.label ≠ .empty ∧ ∃ n,
        other.item.after = voids n ∧ (n = 0 ∨ other.item.label.allowsChildren = false) := by
    intro other hafter hallows
    refine ⟨?_, 0, hafter, .inl rfl⟩
    intro heq
    rw [heq] at hallows
    cases hallows
  cases h with
  | start _ hlayers _ => simp [hlayers] at hf
  | around _ _ houter hsprout hnode hlayers _ hrest =>
    rw [hlayers] at hf
    rcases List.mem_cons.1 hf with rfl | hf
    · exact hgood rfl hnode
    · exact hgood (hrest frame hf).1 (hrest frame hf).2
  | beside _ _ houter hsprout hnode hlayers hrest =>
    rw [hlayers] at hf
    rcases List.mem_cons.1 hf with rfl | hf
    · exact ⟨(Line.ne_empty_of_sprout houter hsprout).1, _, rfl, .inr hnode⟩
    · exact hgood (hrest frame hf).1 (hrest frame hf).2

/-- There is no hole behind a node that is closed. -/
lemma hole?_inside_of_dropped (h : Trails lines draft)
    {dropped around : List (Frame (Layer Node))} (hlayers : draft.layers = dropped ++ around)
    (hne : dropped ≠ []) : hole? (draft.inside around) = none := by
  rcases List.eq_nil_or_concat dropped with rfl | ⟨init, frame, rfl⟩
  · exact absurd rfl hne
  · have hf : frame ∈ draft.layers := by simp [hlayers]
    obtain ⟨hlabel, n, hafter, hn⟩ := h.after_eq hf
    rw [Draft.inside_eq hlayers, List.concat_eq_append, List.map_append, Layer.closeAll_append]
    simp only [List.map_cons, List.map_nil, Layer.closeAll, Layer.close]
    rw [hafter, hole?_append_cons _ hlabel, hole?_cons_voids]
    split
    · next heq =>
      rw [heq] at hn
      simp [Node.allowsChildren, Node.kind, NodeKind.allowsChildren] at hn
    · rfl

/-- What is written last inline, with blank lines behind it, is what a line further in would go on
with. -/
lemma hole?_inline_iff {outer : Text} {node top : Node} {inline children : Forest Node}
    (houter : ¬ outer.trim.isEmpty) (hsprout : (Line.read outer.trim).sprout = .ok (node, inline))
    (hline : (Line.read line.trim).sprout = .ok (top, children))
    (hw : outer.margin.length < line.margin.length) (n : Nat) :
    (hole? (inline.append (voids n))).any (goesOn top) ↔ n ≠ 0 ∧ Resumes outer line := by
  have hlast : lastInline? outer = inline.last?.bind Node.control? := by
    rw [lastInline?, hsprout]
  have hleading : leading? line = top.control? := by rw [leading?, hline]
  rcases inline.eq_nil_or_append_cons with rfl | ⟨start, last, inner, rfl⟩
  · rw [Forest.nil_append, hole?_of_prune_eq_nil (prune_voids n)]
    simp [Resumes, hlast, Forest.last?]
  · have hmem : last ∈ (start.append (.cons last inner .nil)).preorder := by simp
    have hne := (Line.ne_empty_of_sprout houter hsprout).2 last hmem
    have htag := (Line.isTagged_of_sprout hsprout).2 last hmem
    rw [Forest.last?_append_cons, Option.bind_some] at hlast
    rw [Forest.append_assoc, Forest.cons_append, Forest.nil_append, hole?_append_cons _ hne,
      hole?_cons_voids]
    have hresumes :
        Resumes outer line ↔ ∃ first, last.control? = some first ∧ goesOn top first := by
      simp only [Resumes, hw, hlast, hleading, true_and, goesOn, Option.any_eq_true]
      constructor
      · rintro ⟨first, second, hfirst, hsecond, hc⟩
        exact ⟨first, hfirst, second, hsecond, hc⟩
      · rintro ⟨first, hfirst, second, hsecond, hc⟩
        exact ⟨first, second, hfirst, hsecond, hc⟩
    rw [hresumes]
    cases last with
    | control control => cases n <;> simp [Node.control?]
    | directive control =>
      -- what stands alone is not gone on with
      have hstop : goesOn top control = false := by
        by_contra hgoes
        obtain ⟨second, -, hc⟩ := (Option.any_eq_true _ _).1 (eq_true_of_ne_false hgoes)
        have := (Tag.not_isDirective_of_continues hc).2
        rw [Node.IsTagged, this] at htag
        cases htag
      simp [Node.control?, hstop]
    | _ => simp [Node.control?]

/-- A line splits a chain exactly when blank lines cut it off from a line that it resumes. -/
theorem hole?_inside_iff (h : Trails lines draft) {node : Node} {children : Forest Node}
    (hline : (Line.read line.trim).sprout = .ok (node, children))
    {around : List (Frame (Layer Node))}
    (haround : Frame.enclosing? line.margin.length draft.layers = some around)
    (hp : (Draft.parentNode around).allowsChildren) :
    (hole? (draft.inside around)).any (goesOn node) ↔ CutsOff lines line := by
  have hnone : hole? (draft.inside around) = none →
      ((hole? (draft.inside around)).any (goesOn node) ↔ False) := by
    intro hhole
    simp [hhole]
  -- the line that is resumed is the last one that is not blank
  have hlast : ∀ {before blanks : List Text} {outer : Text}, lines = before ++ outer :: blanks →
      (∀ line ∈ blanks, line.trim.isEmpty) → ¬ outer.trim.isEmpty →
      (CutsOff lines line ↔ blanks.length ≠ 0 ∧ Resumes outer line) := by
    intro before blanks outer hlines hblanks houter
    constructor
    · rintro ⟨before', outer', blanks', hlines', hne, hblanks', hresumes⟩
      have houter' : ¬ outer'.trim.isEmpty := fun hb => not_resumes_of_blank hb line hresumes
      obtain ⟨rfl, rfl⟩ := outer_unique (hlines.symm.trans hlines') hblanks hblanks' houter houter'
      exact ⟨by simpa using hne, hresumes⟩
    · rintro ⟨hne, hresumes⟩
      exact ⟨before, outer, blanks, hlines, by simpa using hne, hblanks, hresumes⟩
  have h' := h
  cases h with
  | start hlines hlayers hinner =>
    rw [hlayers] at haround
    cases haround
    have hinside : draft.inside [] = voids lines.length := by
      rw [← hlayers, Draft.inside_layers, hinner]
    rw [hnone (by rw [hinside, hole?_of_prune_eq_nil (prune_voids _)]), false_iff]
    rintro ⟨before, outer, blanks, rfl, -, -, hresumes⟩
    exact not_resumes_of_blank (hlines outer (by simp)) line hresumes
  | around hlines hblanks houter hsprout hnode hlayers hinner hrest =>
    rw [hlayers] at haround
    rw [hlast hlines hblanks houter]
    rcases Frame.enclosing?_cases haround with ⟨hw, rfl⟩ | ⟨hw, dropped, hne, hdropped⟩
    · rw [← hlayers, Draft.inside_layers, hinner]
      exact hole?_inline_iff houter hsprout hline hw _
    · rw [hnone (h'.hole?_inside_of_dropped (hlayers.trans hdropped) hne), false_iff]
      exact fun hcut => hw hcut.2.1
  | beside hlines hblanks houter hsprout hnode hlayers hrest =>
    rw [hlayers] at haround
    rw [hlast hlines hblanks houter]
    rcases Frame.enclosing?_cases haround with ⟨hw, rfl⟩ | ⟨hw, dropped, hne, hdropped⟩
    · simp [Draft.parentNode, hnode] at hp
    · rw [hnone (h'.hole?_inside_of_dropped (hlayers.trans hdropped) hne), false_iff]
      exact fun hcut => hw hcut.2.1

end Trails

namespace Draft

lemma splits_openNode {draft : Draft Node} {around : List (Frame (Layer Node))}
    (haround : around <:+ draft.layers) (width : Nat) {node : Node} (hnode : node ≠ .empty)
    {children : Forest Node} (hchildren : ∀ n ∈ children.preorder, n ≠ .empty) :
    splits (draft.openNode around width node children).outline =
      splits draft.outline + ((hole? (draft.inside around)).any (goesOn node)).toNat := by
  rw [outline_openNode, splits_closeAll, splits_append_top _ hnode, splits_eq_zero hchildren,
    outline_eq_closeAll haround, splits_closeAll _ (draft.inside around)]
  omega

lemma splits_addBlank (allows : Node → Bool) (draft : Draft Node) :
    splits (draft.addBlank allows .empty).outline = splits draft.outline := by
  have hsuffix : holders allows draft.layers <:+ draft.layers := List.dropWhile_suffix _
  rw [outline_addBlank, splits_closeAll, splits_append_empty, outline_eq_closeAll hsuffix,
    splits_closeAll _ (draft.inside _)]

/-- One more line: the draft ends as it should, and a chain is split when blank lines cut the line
off. -/
lemma trails_addLine {lines : List Text} {line : Text} {draft draft' : Draft Node} {number : Nat}
    (htrails : Trails lines draft) (hsplits : splits draft.outline = 0 ↔ ¬ BreaksChain lines)
    (h : draft.addLine number line = .ok draft') :
    Trails (lines ++ [line]) draft' ∧
      (splits draft'.outline = 0 ↔ ¬ BreaksChain (lines ++ [line])) := by
  rw [breaksChain_concat_iff, not_or, ← hsplits]
  by_cases hline : line.trim.isEmpty
  · rw [addLine_of_blank hline] at h
    cases h
    refine ⟨htrails.blank hline, ?_⟩
    have hcut : ¬ CutsOff lines line := by
      rintro ⟨before, outer, blanks, -, -, -, hresumes⟩
      exact not_resumes_blank hline outer hresumes
    simp [splits_addBlank, hcut]
  · obtain ⟨node, children, around, hsprout, haround, hp, rfl⟩ := addLine_eq_ok hline h
    obtain ⟨hnode, hchildren⟩ := Line.ne_empty_of_sprout hline hsprout
    have hsuffix := Frame.suffix_of_enclosing? haround
    refine ⟨htrails.filled hline hsprout hsuffix hp, ?_⟩
    rw [splits_openNode hsuffix _ hnode hchildren, ← htrails.hole?_inside_iff hsprout haround hp]
    cases (hole? (draft.inside around)).any (goesOn node) <;> simp

/-- After any run, a chain is split exactly when blank lines break one. -/
theorem splits_addLines {done lines : List Text} {draft draft' : Draft Node} {number : Nat}
    (htrails : Trails done draft) (hsplits : splits draft.outline = 0 ↔ ¬ BreaksChain done)
    (h : draft.addLines number lines = .ok draft') :
    splits draft'.outline = 0 ↔ ¬ BreaksChain (done ++ lines) := by
  induction lines generalizing done draft number with
  | nil =>
    cases h
    rwa [List.append_nil]
  | cons line rest ih =>
    rw [addLines] at h
    cases hline : draft.addLine number line with
    | error diagnostic => simp [hline] at h
    | ok next =>
      simp only [hline] at h
      obtain ⟨htrails', hsplits'⟩ := trails_addLine htrails hsplits hline
      have := ih htrails' hsplits' h
      rwa [List.append_assoc, List.singleton_append] at this

end Draft

/-- Without blank lines, none break a chain. -/
lemma not_breaksChain_filter (lines : List Text) :
    ¬ BreaksChain (lines.filter fun line => !line.trim.isEmpty) := by
  rintro ⟨past, inner, after, heq, before, outer, blanks, rfl, hne, hblanks, -⟩
  obtain ⟨line, hline⟩ := List.exists_mem_of_ne_nil blanks hne
  have hmem : line ∈ lines.filter fun line => !line.trim.isEmpty := by
    rw [heq]
    simp [hline]
  have := hblanks line hline
  simp [this] at hmem

lemma Draft.splits_of_addLines {lines : List Text} {draft : Draft Node}
    (h : Draft.addLines {} 0 lines = .ok draft) :
    splits draft.outline = 0 ↔ ¬ BreaksChain lines := by
  have htrails : Trails [] {} := .start (by simp) rfl rfl
  refine splits_addLines htrails ?_ h
  simp only [BreaksChain, outline, Layer.closeAll, List.map_nil, splits, true_iff]
  rintro ⟨before, inner, after, heq, -⟩
  simp at heq

/-- The blank lines of a template can be left out. Without them the template is accepted if it was
accepted before, and is refused for the same reason if it was refused; and its lines are the same,
in every style, exactly when no blank lines stand between a line and one that resumes it. -/
theorem agree_ofLines_filter (lines : List Text) :
    Agree Diagnostic.SameWords
      (fun tree tree' => ∀ unit, treeLines unit tree = treeLines unit tree' ↔ ¬ BreaksChain lines)
      (Tree.ofLines lines) (Tree.ofLines (lines.filter fun line => !line.trim.isEmpty)) := by
  have hall := Draft.agree_ofLines lines
  have hfilled := Draft.agree_ofLines (lines.filter fun line => !line.trim.isEmpty)
  have hmatch := Draft.Matches.start.addLines_filter 0 0 lines
  generalize htree : Tree.ofLines lines = result at hall ⊢
  generalize htree' : Tree.ofLines (lines.filter _) = result' at hfilled ⊢
  generalize hdraft : Draft.addLines {} 0 lines = sketch at hall hmatch
  generalize hdraft' : Draft.addLines {} 0 (lines.filter _) = sketch' at hfilled hmatch
  cases hmatch with
  | error hsame =>
    cases hall with
    | error heq =>
      cases hfilled with
      | error heq' =>
        subst heq heq'
        exact .error hsame
  | ok hmatches =>
    cases hall with
    | ok houtline =>
      cases hfilled with
      | ok houtline' =>
        refine .ok fun unit => ?_
        have hlines := forestLines_prune_iff (Builder.grown_of_ofLines htree).sound.proper_outline
          (Builder.tagged_of_ofLines htree).isTagged_of_mem_outline unit 0 false
        have hlines' := forestLines_prune_iff
          (Builder.grown_of_ofLines htree').sound.proper_outline
          (Builder.tagged_of_ofLines htree').isTagged_of_mem_outline unit 0 false
        rw [houtline, Draft.splits_of_addLines hdraft] at hlines
        rw [houtline', Draft.splits_of_addLines hdraft'] at hlines'
        rw [treeLines, treeLines, houtline, houtline', ← hlines, hmatches.prune_outline_eq,
          hlines'.2 (not_breaksChain_filter lines)]

/-- A blank line under a tag that is written inline costs a closing line and cuts off what comes
after it. -/
theorem blank_line_cuts_off_inline_tag :
    let lines := ["-if x: -if y", "", "  -else"].map String.toList
    let filled := lines.filter fun line => !(Text.trim line).isEmpty
    (Tree.ofLines lines).map (treeLines []) =
        .ok (["{% if x %}", "{% if y %}", "{% endif %}", "{% else %}", "{% endelse %}",
          "{% endif %}"].map String.toList) ∧
      (Tree.ofLines filled).map (treeLines []) =
        .ok (["{% if x %}", "{% if y %}", "{% else %}", "{% endif %}", "{% endif %}"].map
          String.toList) ∧
      (Tree.ofLines lines).map (treeLines []) ≠ (Tree.ofLines filled).map (treeLines []) := by
  decide +kernel

end OutlineMarkup

import Mathlib.Data.Char
import Mathlib.Data.List.Lex
import Mathlib.Data.List.Sort
import OutlineMarkup.Proofs.AddedAttributes
import OutlineMarkup.Proofs.Outlines
import OutlineMarkup.Summary

/-! What a summary tells of a tree. Kinds, tags, texts and data can be read off it, and so can
attributes, though not their order. A condensed element is listed with a setting of its own among
its attributes, where an attribute of the same name is lost and where the attribute alone looks the
same. So trees that have one summary agree in everything but that setting, and in that setting too
unless an element has an attribute of its name. -/
namespace OutlineMarkup

namespace Forest

variable {α β : Type}

/-- Two forests have one shape, and their labels are related place by place. -/
def Pointwise (related : α → β → Prop) : Forest α → Forest β → Prop
  | nil, nil => True
  | cons label children siblings, cons label' children' siblings' =>
    related label label' ∧ children.Pointwise related children' ∧
      siblings.Pointwise related siblings'
  | _, _ => False

/-- Forests become one by relabelling exactly when their labels do, place by place. -/
lemma map_eq_map_iff {γ : Type} {f : α → γ} {g : β → γ} {related : α → β → Prop}
    {forest : Forest α} {other : Forest β}
    (h : ∀ label ∈ forest.preorder, ∀ label' ∈ other.preorder,
      f label = g label' ↔ related label label') :
    forest.map f = other.map g ↔ forest.Pointwise related other := by
  induction forest generalizing other with
  | nil => cases other <;> simp [Pointwise]
  | cons label children siblings ihc ihs =>
    cases other with
    | nil => simp [Pointwise]
    | cons label' children' siblings' =>
      simp only [preorder_cons, List.mem_cons, List.mem_append] at h
      rw [map_cons, map_cons, cons.injEq, Pointwise, h label (.inl rfl) label' (.inl rfl),
        ihc fun a ha b hb => h a (.inr (.inl ha)) b (.inr (.inl hb)),
        ihs fun a ha b hb => h a (.inr (.inr ha)) b (.inr (.inr hb))]

end Forest

namespace Summary

/-- A list of settings is sorted when its names ascend. -/
def Sorted (settings : List (Text × Text)) : Prop := settings.Pairwise (·.1 < ·.1)

lemma mem_set {name value : Text} {settings : List (Text × Text)} {setting : Text × Text}
    (h : setting ∈ set name value settings) : setting = (name, value) ∨ setting ∈ settings := by
  induction settings with
  | nil => exact .inl (List.mem_singleton.1 h)
  | cons other rest ih =>
    obtain ⟨other, present⟩ := other
    rw [set] at h
    split_ifs at h with heq hlt
    · rcases List.mem_cons.1 h with rfl | h
      · exact .inl rfl
      · exact .inr (List.mem_cons_of_mem _ h)
    · rcases List.mem_cons.1 h with rfl | h
      · exact .inl rfl
      · exact .inr h
    · rcases List.mem_cons.1 h with rfl | h
      · exact .inr List.mem_cons_self
      · exact (ih h).imp_right (List.mem_cons_of_mem _)

lemma Sorted.set {settings : List (Text × Text)} (h : Sorted settings) (name value : Text) :
    Sorted (set name value settings) := by
  induction settings with
  | nil => exact List.pairwise_singleton _ _
  | cons other rest ih =>
    obtain ⟨other, present⟩ := other
    obtain ⟨hother, hrest⟩ := List.pairwise_cons.1 h
    rw [Summary.set]
    split_ifs with heq hlt
    · subst heq
      exact .cons hother hrest
    · refine .cons (fun setting hsetting => ?_) h
      rcases List.mem_cons.1 hsetting with rfl | hsetting
      · exact hlt
      · exact lt_trans hlt (hother setting hsetting)
    · refine .cons (fun setting hsetting => ?_) (ih hrest)
      rcases mem_set hsetting with rfl | hsetting
      · exact lt_of_le_of_ne (not_lt.1 hlt) (Ne.symm heq)
      · exact hother setting hsetting

/-- Setting a name changes its value and no other. -/
lemma lookup_set (name value key : Text) (settings : List (Text × Text)) :
    (set name value settings).lookup key =
      if key = name then some value else settings.lookup key := by
  induction settings with
  | nil => rw [set, Attributes.lookup_cons_eq]
  | cons other rest ih =>
    obtain ⟨other, present⟩ := other
    rw [set]
    by_cases heq : name = other
    · subst heq
      rw [if_pos rfl, Attributes.lookup_cons_eq, Attributes.lookup_cons_eq]
      by_cases hk : key = name <;> simp [hk]
    · rw [if_neg heq]
      split_ifs with hlt hk hk
      · rw [Attributes.lookup_cons_eq, if_pos hk]
      · rw [Attributes.lookup_cons_eq, if_neg hk]
      · rw [Attributes.lookup_cons_eq, ih, if_pos hk, if_neg (hk ▸ heq)]
      · rw [Attributes.lookup_cons_eq, Attributes.lookup_cons_eq, ih, if_neg hk]

/-- Sorting settings leaves each name the value that was set last. -/
lemma sorted_sorted (settings : List (Text × Text)) : Sorted (sorted settings) ∧
    ∀ key, (sorted settings).lookup key = settings.reverse.lookup key := by
  induction settings using List.reverseRecOn with
  | nil => exact ⟨.nil, fun _ => rfl⟩
  | append_singleton settings setting ih =>
    have hconcat : sorted (settings ++ [setting]) =
        set setting.1 setting.2 (sorted settings) := by
      rw [sorted, List.foldl_append]
      rfl
    rw [hconcat]
    refine ⟨ih.1.set _ _, fun key => ?_⟩
    rw [lookup_set, ih.2, List.reverse_append, List.reverse_singleton, List.singleton_append,
      Attributes.lookup_cons_eq]

/-- Sorted settings are known by the values of their names. -/
lemma Sorted.ext {settings other : List (Text × Text)} (h : Sorted settings) (h' : Sorted other)
    (heq : ∀ key, settings.lookup key = other.lookup key) : settings = other := by
  have hdistinct : ∀ {settings : List (Text × Text)}, Sorted settings →
      Attributes.Distinct ⟨settings⟩ := by
    intro settings hsorted
    exact List.pairwise_map.2 (hsorted.imp ne_of_lt)
  have : Std.Irrefl fun setting other : Text × Text => setting.1 < other.1 :=
    ⟨fun setting => lt_irrefl setting.1⟩
  have : Std.Antisymm fun setting other : Text × Text => setting.1 < other.1 :=
    ⟨fun _ _ hlt hgt => absurd hgt (lt_asymm hlt)⟩
  apply List.Pairwise.eq_of_mem_iff h h'
  rintro ⟨key, value⟩
  rw [← Attributes.get?_eq_some_iff_mem (hdistinct h),
    ← Attributes.get?_eq_some_iff_mem (hdistinct h'), Attributes.get?, heq, Attributes.get?]

end Summary

namespace Element

/-- The name of the setting that lists an element as condensed. -/
def condensedKey : Text := "condensed".toList

def condensedMark : Text := "true".toList

/-- What a summary lists for an element under a name. -/
def shown? (element : Element) (key : Text) : Option Text :=
  if key = condensedKey ∧ element.condensed then some condensedMark
  else element.attributes.get? key

/-- Two elements have the same tag, are both condensed or both not, and have the same attributes in
whatever order. -/
structure Same (element other : Element) : Prop where
  tag_eq : element.tag = other.tag
  condensed_eq : element.condensed = other.condensed
  mem_entries_iff : ∀ entry, entry ∈ element.attributes.entries ↔ entry ∈ other.attributes.entries

/-- Two elements have the same tag, and a summary lists the same for both. -/
structure LooksLike (element other : Element) : Prop where
  tag_eq : element.tag = other.tag
  shown?_eq : ∀ key, element.shown? key = other.shown? key

/-- An element has an attribute of the name under which a condensed element is listed, and is listed
there as condensed. -/
def Ambiguous (element : Element) : Prop :=
  (element.attributes.get? condensedKey).isSome ∧ element.shown? condensedKey = some condensedMark

instance (element : Element) : Decidable element.Ambiguous :=
  inferInstanceAs (Decidable (_ ∧ _))

variable {element other : Element}

lemma shown?_of_ne {key : Text} (h : key ≠ condensedKey) :
    element.shown? key = element.attributes.get? key := by
  simp [shown?, h]

lemma shown?_condensedKey : element.shown? condensedKey =
    if element.condensed then some condensedMark else element.attributes.get? condensedKey := by
  simp [shown?]

lemma Same.looksLike (h : Same element other) (hdistinct : element.attributes.Distinct)
    (hdistinct' : other.attributes.Distinct) : LooksLike element other := by
  have hget : ∀ key, element.attributes.get? key = other.attributes.get? key := by
    intro key
    apply Option.ext
    intro value
    rw [Attributes.get?_eq_some_iff_mem hdistinct, Attributes.get?_eq_some_iff_mem hdistinct',
      h.mem_entries_iff]
  refine ⟨h.tag_eq, fun key => ?_⟩
  rw [shown?, h.condensed_eq, hget, shown?]

/-- A condensed element that is not ambiguous has no attribute of that name. -/
lemma get?_of_condensed (hclear : ¬ element.Ambiguous) (h : element.condensed) :
    element.attributes.get? condensedKey = none := by
  by_contra hsome
  refine hclear ⟨Option.isSome_iff_ne_none.2 hsome, ?_⟩
  rw [shown?_condensedKey, if_pos h]

/-- An element that is neither ambiguous nor condensed is not listed as condensed. -/
lemma get?_of_not_condensed (hclear : ¬ element.Ambiguous) (h : ¬ element.condensed) :
    element.attributes.get? condensedKey ≠ some condensedMark := by
  intro hget
  refine hclear ⟨by rw [hget]; rfl, ?_⟩
  rw [shown?_condensedKey, if_neg h, hget]

/-- Elements that look alike are the same, unless one of them is ambiguous. -/
lemma LooksLike.same (h : LooksLike element other) (hdistinct : element.attributes.Distinct)
    (hdistinct' : other.attributes.Distinct) (hclear : ¬ element.Ambiguous)
    (hclear' : ¬ other.Ambiguous) : Same element other := by
  have hboth : element.condensed = other.condensed ∧
      element.attributes.get? condensedKey = other.attributes.get? condensedKey := by
    have hshown := h.shown?_eq condensedKey
    rw [shown?_condensedKey, shown?_condensedKey] at hshown
    by_cases hc : element.condensed <;> by_cases hc' : other.condensed
    · rw [get?_of_condensed hclear hc, get?_of_condensed hclear' hc', hc, hc']
      exact ⟨rfl, rfl⟩
    · rw [if_pos hc, if_neg hc'] at hshown
      exact absurd hshown.symm (get?_of_not_condensed hclear' hc')
    · rw [if_neg hc, if_pos hc'] at hshown
      exact absurd hshown (get?_of_not_condensed hclear hc)
    · rw [if_neg hc, if_neg hc'] at hshown
      exact ⟨by rw [eq_false_of_ne_true hc, eq_false_of_ne_true hc'], hshown⟩
  have hget : ∀ key, element.attributes.get? key = other.attributes.get? key := by
    intro key
    by_cases hkey : key = condensedKey
    · rw [hkey, hboth.2]
    · rw [← shown?_of_ne hkey, h.shown?_eq, shown?_of_ne hkey]
  refine ⟨h.tag_eq, hboth.1, ?_⟩
  rintro ⟨key, value⟩
  rw [← Attributes.get?_eq_some_iff_mem hdistinct, hget, Attributes.get?_eq_some_iff_mem hdistinct']

end Element

namespace Node

/-- Two nodes are of one kind with the same text, tag and data, and as elements they are related as
given. -/
def SameUpTo (related : Element → Element → Prop) : Node → Node → Prop
  | element e, element e' => related e e'
  | voidElement e, voidElement e' => related e e'
  | node, node' => node = node'

/-- No key is given twice on a node. -/
def Distinct (node : Node) : Prop := ∀ e ∈ node.element?, e.attributes.Distinct

lemma SameUpTo.imp {related related' : Element → Element → Prop} {node node' : Node}
    (h : ∀ e ∈ node.element?, ∀ e' ∈ node'.element?, related e e' → related' e e')
    (hnode : node.SameUpTo related node') : node.SameUpTo related' node' := by
  cases node <;> cases node'
  case element.element => exact h _ rfl _ rfl hnode
  case voidElement.voidElement => exact h _ rfl _ rfl hnode
  all_goals exact hnode

end Node

namespace Summary

lemma elementSettings_eq (element : Element) :
    elementSettings element = sorted (element.attributes.entries ++
      if element.condensed then [(Element.condensedKey, Element.condensedMark)] else []) := rfl

lemma lookup_elementSettings {element : Element} (h : element.attributes.Distinct) (key : Text) :
    (elementSettings element).lookup key = element.shown? key := by
  have hreverse : element.attributes.entries.reverse.lookup key =
      element.attributes.get? key := by
    have hdistinct : Attributes.Distinct ⟨element.attributes.entries.reverse⟩ := by
      rw [Attributes.Distinct, List.map_reverse, List.nodup_reverse]
      exact h
    apply Option.ext
    intro value
    rw [Attributes.get?_eq_some_iff_mem h, ← List.mem_reverse]
    exact Attributes.get?_eq_some_iff_mem hdistinct
  rw [elementSettings_eq, (sorted_sorted _).2, List.reverse_append]
  by_cases hc : element.condensed
  · rw [if_pos hc, List.reverse_singleton, List.singleton_append, Attributes.lookup_cons_eq,
      hreverse, Element.shown?]
    by_cases hk : key = Element.condensedKey
    · rw [if_pos hk, if_pos ⟨hk, hc⟩]
    · rw [if_neg hk, if_neg fun h => hk h.1]
  · rw [if_neg hc, List.reverse_nil, List.nil_append, hreverse, Element.shown?,
      if_neg fun h => hc h.2]

lemma elementSettings_eq_iff {element other : Element} (h : element.attributes.Distinct)
    (h' : other.attributes.Distinct) :
    elementSettings element = elementSettings other ↔
      ∀ key, element.shown? key = other.shown? key := by
  constructor
  · intro heq key
    rw [← lookup_elementSettings h, heq, lookup_elementSettings h']
  · intro heq
    apply (sorted_sorted _).1.ext (sorted_sorted _).1
    intro key
    rw [← elementSettings, ← elementSettings, lookup_elementSettings h, heq,
      lookup_elementSettings h']

lemma controlSettings_eq_iff {control other : Control} :
    controlSettings control = controlSettings other ↔ control.data = other.data := by
  unfold controlSettings
  by_cases h : control.data = [] <;> by_cases h' : other.data = [] <;> simp [h, h', eq_comm]

/-- Nodes have one summary exactly when they are the same up to what elements look like. -/
lemma ofNode_eq_iff {node other : Node} (h : node.Distinct) (h' : other.Distinct) :
    ofNode node = ofNode other ↔ node.SameUpTo Element.LooksLike other := by
  have helement : ∀ {e e' : Element}, e.attributes.Distinct → e'.attributes.Distinct →
      (e.tag = e'.tag ∧ elementSettings e = elementSettings e' ↔ Element.LooksLike e e') := by
    intro e e' h h'
    rw [elementSettings_eq_iff h h']
    exact ⟨fun ⟨htag, hshown⟩ => ⟨htag, hshown⟩, fun hlook => ⟨hlook.tag_eq, hlook.shown?_eq⟩⟩
  have hcontrol : ∀ {c c' : Control},
      c.tag = c'.tag ∧ controlSettings c = controlSettings c' ↔ c = c' := by
    intro c c'
    rw [controlSettings_eq_iff, Control.mk.injEq]
  cases node <;> cases other <;>
    simp only [ofNode, Node.kind, Node.SameUpTo, Summary.mk.injEq, reduceCtorEq, false_and,
      true_and, and_true, Node.text.injEq, Node.preformatted.injEq, Node.comment.injEq,
      Node.control.injEq, Node.directive.injEq]
  case element.element => exact helement (h _ rfl) (h' _ rfl)
  case voidElement.voidElement => exact helement (h _ rfl) (h' _ rfl)
  case control.control => exact hcontrol
  case directive.directive => exact hcontrol

end Summary

lemma Attributes.Distinct.addAll {attributes filled : Attributes} {tag : Text}
    {entries : List (Text × Text)} (h : attributes.Distinct)
    (hadd : attributes.addAll tag entries = .ok filled) : filled.Distinct := by
  induction entries generalizing attributes with
  | nil =>
    cases hadd
    exact h
  | cons entry rest ih =>
    rw [Attributes.addAll] at hadd
    split at hadd
    · next hnext => exact ih (h.of_add hnext).1 hadd
    · cases hadd

/-- No node of a line is given a key twice. -/
lemma Line.distinct_of_sprout {line : Text} {node : Node} {children : Forest Node}
    (h : (read line).sprout = .ok (node, children)) :
    node.Distinct ∧ ∀ n ∈ children.preorder, n.Distinct := by
  have helements : ∀ e ∈ (read line).elements, e.attributes.Distinct := by
    have hstands := standsFor_elementLines h
    generalize elementLines line = lines at hstands
    generalize (read line).elements = elements at hstands ⊢
    induction hstands with
    | nil => simp
    | cons hline _ ih =>
      obtain ⟨segments, entries, -, hadd⟩ :=
        ElementLine.exists_addAll_of_attributes hline.attributes_eq
      have hstart : Attributes.Distinct {} := List.nodup_nil
      exact List.forall_mem_cons.2 ⟨hstart.addAll hadd, ih⟩
  rw [← Reading.filterMap_sprout h] at helements
  have hall : ∀ n ∈ node :: children.preorder, n.Distinct :=
    fun n hn e he => helements e (List.mem_filterMap.2 ⟨n, hn, he⟩)
  exact List.forall_mem_cons.1 hall

namespace Tree

/-- No node of a template's tree is given a key twice. -/
lemma distinct_of_ofLines {lines : List Text} {tree : Tree} (h : Tree.ofLines lines = .ok tree)
    (id : NodeId) : (tree.node id).Distinct := by
  by_cases hroot : id = root
  · rw [hroot, (Builder.grown_of_ofLines h).node_root]
    rintro e ⟨⟩
  · by_cases hid : id < tree.size
    · exact Builder.forall_node_of_ofLines (fun _ _ _ => Line.distinct_of_sprout) h id hid hroot
    · rw [node_of_size_le (Nat.le_of_not_lt hid)]
      rintro e ⟨⟩

def elements (tree : Tree) : List Element := (tree.outline root).preorder.filterMap Node.element?

lemma distinct_of_ofSource {source : Text} {tree : Tree} (h : Tree.ofSource source = .ok tree) :
    ∀ node ∈ (tree.outline root).preorder, node.Distinct := by
  obtain ⟨lines, -, hlines⟩ := Builder.exists_ofLines_of_ofSource h
  intro node hnode
  rw [outline, Forest.preorder_map] at hnode
  obtain ⟨id, -, rfl⟩ := List.mem_map.1 hnode
  exact distinct_of_ofLines hlines id

end Tree

namespace TreeSummary

open OutlineMarkup.Tree

/-- Trees have one summary exactly when their nodes do, place by place. -/
lemma ofTree_eq_iff {tree tree' : Tree} (hroot : tree.node root = tree'.node root)
    {related : Node → Node → Prop}
    (h : ∀ node ∈ (tree.outline root).preorder, ∀ node' ∈ (tree'.outline root).preorder,
      Summary.ofNode node = Summary.ofNode node' ↔ related node node') :
    ofTree tree = ofTree tree' ↔ (tree.outline root).Pointwise related (tree'.outline root) := by
  rw [ofTree, ofTree, ofNode, ofNode, TreeSummary.mk.injEq, hroot, Forest.map_eq_map_iff h]
  exact and_iff_right rfl

/-- Two templates have one summary exactly when their trees have one shape and, node by node, the
same kinds, texts, tags and data and elements that look alike. When no element has an attribute of
the name that lists it as condensed, and is listed there as condensed, elements that look alike are
the same: both condensed or both not, and with the same attributes. -/
theorem ofTree_eq_iff_of_ofSource {source source' : Text} {tree tree' : Tree}
    (h : Tree.ofSource source = .ok tree) (h' : Tree.ofSource source' = .ok tree') :
    (ofTree tree = ofTree tree' ↔ (tree.outline root).Pointwise
      (Node.SameUpTo Element.LooksLike) (tree'.outline root)) ∧
    ((∀ e ∈ tree.elements ++ tree'.elements, ¬ e.Ambiguous) →
      (ofTree tree = ofTree tree' ↔ (tree.outline root).Pointwise
        (Node.SameUpTo Element.Same) (tree'.outline root))) := by
  have hroot : tree.node root = tree'.node root := by
    obtain ⟨lines, -, hlines⟩ := Builder.exists_ofLines_of_ofSource h
    obtain ⟨lines', -, hlines'⟩ := Builder.exists_ofLines_of_ofSource h'
    rw [(Builder.grown_of_ofLines hlines).node_root, (Builder.grown_of_ofLines hlines').node_root]
  have hdistinct := distinct_of_ofSource h
  have hdistinct' := distinct_of_ofSource h'
  constructor
  · apply ofTree_eq_iff hroot
    exact fun node hnode node' hnode' =>
      Summary.ofNode_eq_iff (hdistinct node hnode) (hdistinct' node' hnode')
  · intro hclear
    rw [List.forall_mem_append] at hclear
    apply ofTree_eq_iff hroot
    intro node hnode node' hnode'
    have hd := hdistinct node hnode
    have hd' := hdistinct' node' hnode'
    rw [Summary.ofNode_eq_iff hd hd']
    constructor
    · apply Node.SameUpTo.imp
      intro e he e' he' hlook
      exact hlook.same (hd e he) (hd' e' he') (hclear.1 e (List.mem_filterMap.2 ⟨node, hnode, he⟩))
        (hclear.2 e' (List.mem_filterMap.2 ⟨node', hnode', he'⟩))
    · apply Node.SameUpTo.imp
      intro e he e' he' hsame
      exact hsame.looksLike (hd e he) (hd' e' he')

/-- A template that is read as some elements and nothing else. -/
lemma exists_of_outline {source : Text} {forest : Forest Node}
    (h : ((Tree.ofSource source).map fun tree => (tree.node root, tree.outline root)) =
      .ok (.root, forest)) :
    ∃ tree, Tree.ofSource source = .ok tree ∧ tree.outline root = forest ∧
      ofTree tree = ⟨.ofNode .root, forest.map .ofNode⟩ := by
  cases htree : Tree.ofSource source with
  | error diagnostic =>
    rw [htree] at h
    cases h
  | ok tree =>
    rw [htree] at h
    obtain ⟨hroot, houtline⟩ := Prod.mk.inj (Except.ok.inj h)
    exact ⟨tree, rfl, houtline, by rw [ofTree, ofNode, hroot, houtline]⟩

/-- Attributes may come in any order; an attribute of that name with another value does no harm. -/
theorem ofTree_eq_of_reordered_attributes :
    ∃ tree tree', Tree.ofSource "%p.a(condensed=\"no\")".toList = .ok tree ∧
      Tree.ofSource "%p(condensed=\"no\", class=\"a\")".toList = .ok tree' ∧
      (∀ e ∈ tree.elements ++ tree'.elements, ¬ e.Ambiguous) ∧ ofTree tree = ofTree tree' ∧
      (tree.outline root).Pointwise (Node.SameUpTo Element.Same) (tree'.outline root) := by
  have heval : ((Tree.ofSource "%p.a(condensed=\"no\")".toList).map fun tree =>
      (tree.node root, tree.outline root)) = .ok (.root, .cons (.element ⟨['p'],
        ⟨[(Attributes.classKey, ['a']), (Element.condensedKey, ['n', 'o'])]⟩, false⟩)
        .nil .nil) := by decide +kernel
  have heval' : ((Tree.ofSource "%p(condensed=\"no\", class=\"a\")".toList).map fun tree =>
      (tree.node root, tree.outline root)) = .ok (.root, .cons (.element ⟨['p'],
        ⟨[(Element.condensedKey, ['n', 'o']), (Attributes.classKey, ['a'])]⟩, false⟩)
        .nil .nil) := by decide +kernel
  obtain ⟨tree, h, houtline, hsummary⟩ := exists_of_outline heval
  obtain ⟨tree', h', houtline', hsummary'⟩ := exists_of_outline heval'
  have hclear : ∀ e ∈ tree.elements ++ tree'.elements, ¬ e.Ambiguous := by
    rw [elements, elements, houtline, houtline']
    decide +kernel
  have hequal : ofTree tree = ofTree tree' := by
    rw [hsummary, hsummary']
    decide +kernel
  exact ⟨tree, tree', h, h', hclear, hequal,
    ((ofTree_eq_iff_of_ofSource h h').2 hclear).1 hequal⟩

/-- The attribute of a condensed element is lost behind the setting of the same name. -/
theorem condensed_hides_attribute :
    ∃ tree tree', Tree.ofSource "%-p(condensed=\"no\")".toList = .ok tree ∧
      Tree.ofSource "%-p".toList = .ok tree' ∧ ofTree tree = ofTree tree' ∧
      ¬ (tree.outline root).Pointwise (Node.SameUpTo Element.Same) (tree'.outline root) := by
  have heval : ((Tree.ofSource "%-p(condensed=\"no\")".toList).map fun tree =>
      (tree.node root, tree.outline root)) = .ok (.root, .cons (.element ⟨['p'],
        ⟨[(Element.condensedKey, ['n', 'o'])]⟩, true⟩) .nil .nil) := by decide +kernel
  have heval' : ((Tree.ofSource "%-p".toList).map fun tree =>
      (tree.node root, tree.outline root)) =
        .ok (.root, .cons (.element ⟨['p'], {}, true⟩) .nil .nil) := by decide +kernel
  obtain ⟨tree, h, houtline, hsummary⟩ := exists_of_outline heval
  obtain ⟨tree', h', houtline', hsummary'⟩ := exists_of_outline heval'
  refine ⟨tree, tree', h, h', ?_, ?_⟩
  · rw [hsummary, hsummary']
    decide +kernel
  · rw [houtline, houtline']
    rintro ⟨hsame, -⟩
    have hmem := hsame.mem_entries_iff (Element.condensedKey, ['n', 'o'])
    simp at hmem

end TreeSummary

end OutlineMarkup

import OutlineMarkup.Proofs.LineFaults
import OutlineMarkup.Proofs.WrittenElements

/-! Tags written one behind another on a line. Each separator opens one more level: the tag before
it is read as it would be read alone, and has what follows as its only child. -/
namespace OutlineMarkup

namespace Tree

variable {tree : Tree} {ids : List NodeId}

/-- The forest below some nodes, with its nodes numbered from `first` on in document order. -/
def Numbered (tree : Tree) (ids : List NodeId) (first : Nat) (nodes : Forest Node) : Prop :=
  ∃ forest, Unfolds tree ids forest ∧ forest.map tree.node = nodes ∧
    ∃ n ≤ tree.size, forest.preorder = List.range' first n

namespace Numbered

variable {first : Nat} {id : NodeId} {node : Node} {nodes children : Forest Node}

lemma outline_eq (h : Numbered tree (tree.children id) first nodes) : tree.outline id = nodes := by
  obtain ⟨forest, hforest, hmap, n, hn, hpreorder⟩ := h
  have hlength : forest.preorder.length ≤ tree.size := by simpa [hpreorder] using hn
  rw [outline, below, hforest.grow_eq hlength, hmap]

/-- A single tree begins with the first number, and what is below it goes on from there. -/
lemma of_single (h : Numbered tree ids first (.cons node children .nil)) :
    ids = [first] ∧ tree.node first = node ∧
      Numbered tree (tree.children first) (first + 1) children := by
  obtain ⟨forest, hforest, hmap, n, hn, hpreorder⟩ := h
  cases hforest with
  | nil => cases hmap
  | @cons id others below siblings hbelow hsiblings =>
    obtain ⟨hnode, hbelow', hnil⟩ := (Forest.cons.injEq ..).mp hmap
    cases siblings with
    | cons => cases hnil
    | nil =>
      cases hsiblings
      rw [Forest.preorder_cons, Forest.preorder_nil, List.append_nil] at hpreorder
      cases n with
      | zero => cases hpreorder
      | succ n =>
        rw [List.range'_succ] at hpreorder
        obtain ⟨rfl, hrest⟩ := List.cons.inj hpreorder
        exact ⟨rfl, hnode, below, hbelow, hbelow', n, by omega, hrest⟩

end Numbered

def spine : List Node → Node → Forest Node → Forest Node
  | [], node, children => .cons node children .nil
  | outer :: inner, node, children => .cons outer (spine inner node children) .nil

/-- Each node of a spine has the next one as its only child, and the last one the tree. -/
lemma Numbered.of_spine {first : Nat} {nodes : List Node} {node : Node} {children : Forest Node}
    (h : Numbered tree ids first (spine nodes node children)) :
    ids = [first] ∧
    (∀ i outer, nodes[i]? = some outer →
      tree.node (first + i) = outer ∧ tree.children (first + i) = [first + i + 1]) ∧
    tree.node (first + nodes.length) = node ∧
    tree.outline (first + nodes.length) = children := by
  -- below each node the numbers go on by one, so the first number is general
  induction nodes generalizing ids first with
  | nil =>
    obtain ⟨hids, hnode, hbelow⟩ := h.of_single
    exact ⟨hids, by simp, hnode, hbelow.outline_eq⟩
  | cons outer inner ih =>
    obtain ⟨hids, hnode, hbelow⟩ := h.of_single
    obtain ⟨hchildren, hinner, hlast, houtline⟩ := ih hbelow
    have hshift : first + 1 + inner.length = first + (outer :: inner).length := by
      rw [List.length_cons]
      omega
    rw [hshift] at hlast houtline
    refine ⟨hids, ?_, hlast, houtline⟩
    intro i other hi
    cases i with
    | zero =>
      cases hi
      exact ⟨hnode, hchildren⟩
    | succ i =>
      have hnext := hinner i other (by simpa using hi)
      rwa [show first + 1 + i = first + (i + 1) by omega] at hnext

end Tree

namespace Line

open OutlineMarkup.Tree

lemma Planted.numbered {tree planted : Tree} {node : Node} {children : Forest Node}
    (h : Planted tree planted node children) :
    Numbered planted [tree.size] tree.size (.cons node children .nil) := by
  obtain ⟨forest, hforest, hmap, hpreorder⟩ := h.unfolds
  have hsize := h.size_lt
  refine ⟨.cons tree.size forest .nil, .cons hforest .nil, ?_, planted.size - tree.size, ?_, ?_⟩
  · rw [Forest.map_cons, h.node_eq, hmap, Forest.map_nil]
  · omega
  · rw [Forest.preorder_cons, hpreorder, Forest.preorder_nil, List.append_nil, ← List.range'_succ]
    congr 1
    omega

/-- A control line as written before a separator: a tag that is not a directive, and trimmed data
on one line that closes its quotes and brackets and holds no separator. -/
structure ControlHead where
  tag : Text
  data : Text := []
  ne_nil : tag ≠ [] := by decide
  all_word : tag.all Text.isWord := by decide
  undirected : Tag.isDirective tag = false := by decide
  trimmed : data.trim = data := by decide
  oneLine : '\n' ∉ data := by decide
  closed : (Cursor.along {} data).isOutside := by decide
  whole : split? .control data = none := by decide

/-- An element line as written before a separator: its tag is not void, it has at most one id, and
the keys of its list are given once and are neither `class` nor `id`. -/
structure ElementHead extends ElementText where
  filled : Tag.isVoidElement tag = false := by decide
  oneId : chunks.countP Chunk.isId ≤ 1 := by decide
  nodup : ((list?.getD []).map ListEntry.key).Nodup := by decide
  fresh : ∀ entry ∈ list?.getD [], entry.key ≠ Attributes.classKey ∧ entry.key ≠ Attributes.idKey :=
    by decide

namespace ElementHead

variable (head : ElementHead)

/-- Of the chunks only ids have a key other than `class`. -/
lemma filter_chunks :
    (head.chunks.map fun chunk => chunk.entry.1).filter (· ≠ Attributes.classKey) =
      List.replicate (head.chunks.countP Chunk.isId) Attributes.idKey := by
  induction head.chunks with
  | nil => rfl
  | cons chunk chunks ih =>
    have hkeys : Attributes.idKey ≠ Attributes.classKey := by decide
    rw [List.map_cons]
    cases hid : chunk.isId with
    | true =>
      have hentry : chunk.entry.1 = Attributes.idKey := by simp [Chunk.entry, hid]
      rw [hentry, List.filter_cons_of_pos (by simpa using hkeys), ih, List.countP_cons_of_pos hid,
        List.replicate_succ]
    | false =>
      have hentry : chunk.entry.1 = Attributes.classKey := by simp [Chunk.entry, hid]
      rw [hentry, List.filter_cons_of_neg (by simp), ih, List.countP_cons_of_neg (by simp [hid])]

/-- No key of the line is given twice, `class` apart. -/
lemma nodup_keys :
    ((head.entries.map Prod.fst).filter (· ≠ Attributes.classKey)).Nodup := by
  have hkeys : head.entries.map Prod.fst = (head.chunks.map fun chunk => chunk.entry.1) ++
      (head.list?.getD []).map ListEntry.key := by
    simp [ElementText.entries, ListEntry.toPair, Function.comp_def]
  rw [hkeys, List.filter_append, filter_chunks, List.nodup_append]
  refine ⟨List.nodup_replicate.2 head.oneId, head.nodup.filter _, ?_⟩
  rintro key hkey other hother rfl
  obtain ⟨entry, hentry, rfl⟩ := List.mem_map.1 (List.mem_filter.1 hother).1
  exact (head.fresh entry hentry).2 (List.eq_of_mem_replicate hkey)

def attributes : Attributes :=
  (Attributes.addAll {} head.tag head.entries).toOption.getD {}

lemma addAll_eq : Attributes.addAll {} head.tag head.entries = .ok head.attributes := by
  have hcases := Attributes.addAll_start_cases head.tag head.entries
  rw [Attributes.firstRepeat?_eq_none head.nodup_keys (by simp)] at hcases
  obtain ⟨filled, hfilled⟩ := hcases
  rw [attributes, hfilled]
  rfl

def node : Node := .ofElement ⟨head.tag, head.attributes, head.condensed⟩

lemma head_toText : Line.head .element head.toText = .ok ⟨head.node, []⟩ := by
  have hline : head.lineWith [] = head.toText := by simp [ElementText.lineWith, behindTag]
  rw [← hline, head.head_lineWith rfl (by simp) fun _ => rfl, head.addAll_eq]
  rfl

end ElementHead

namespace ControlHead

variable (head : ControlHead) {rest : Text}

lemma word : ∀ c ∈ head.tag, Text.isWord c := List.all_eq_true.1 head.all_word

def toText : Text := '-' :: head.tag ++ behindTag head.data

def node : Node := .ofControl ⟨head.tag, head.data⟩

lemma crosses_data (hrest : startsBlank rest = false) :
    Crosses .control rest {} (behindTag head.data) := by
  have hdata : Crosses .control rest {} head.data :=
    ⟨passes_of_splitFrom?_eq_none head.whole fun _ => hrest,
      Cursor.eq_start_of_isOutside head.closed⟩
  unfold behindTag
  split
  · exact ⟨rfl, rfl⟩
  · have hspace : Crosses .control (head.data ++ rest) {} [' '] := ⟨rfl, rfl⟩
    exact hspace.append hdata

lemma crosses_toText (hrest : startsBlank rest = false) :
    Crosses .control rest {} head.toText := by
  have hword : ∀ c ∈ '-' :: head.tag, Cursor.isCalm c ∧ Text.isBlank c = false := by
    intro c hc
    rcases List.mem_cons.1 hc with rfl | htag
    · exact ⟨rfl, rfl⟩
    · exact isCalm_of_isWord (head.word c htag)
  refine Crosses.append ?_ (head.crosses_data hrest)
  apply crosses_of_isCalm hword rfl
  intro hcolon
  rcases List.mem_cons.1 (List.mem_of_getLast? hcolon) with h | h
  · cases h
  · cases head.word ':' h

lemma head_toText : Line.head .control head.toText = .ok ⟨head.node, []⟩ := by
  obtain ⟨inline, hinline, hcontent⟩ := inline?_behindTag head.trimmed head.oneLine
  have hparts : ControlLine.ofText? head.toText = some ⟨head.tag, inline⟩ := by
    rw [toText, List.cons_append,
      ControlLine.ofText?_cons head.ne_nil head.word isBlank_head_behindTag, hinline]
    rfl
  rw [Line.head, hparts]
  simp only [ControlLine.node, hcontent, node]

end ControlHead

inductive TagHead where
  | element (text : ElementHead)
  | control (text : ControlHead)

namespace TagHead

def form : TagHead → TagForm
  | element _ => .element
  | control _ => .control

def toText : TagHead → Text
  | element text => text.toText
  | control text => text.toText

def node : TagHead → Node
  | element text => text.node
  | control text => text.node

variable (tag : TagHead)

lemma opening (rest : Text) : Opening.ofText (tag.toText ++ rest) = .tag tag.form [] := by
  cases tag <;> rfl

lemma crosses_toText {rest : Text} (hrest : startsBlank rest = false) :
    Crosses tag.form rest {} tag.toText := by
  cases tag with
  | element text => exact text.crosses_toText fun h => by simp [hrest] at h
  | control text => exact text.crosses_toText hrest

lemma head_toText : head tag.form tag.toText = .ok ⟨tag.node, []⟩ := by
  cases tag with
  | element text => exact text.head_toText
  | control text => exact text.head_toText

lemma allowsChildren_node : tag.node.allowsChildren := by
  cases tag with
  | element text =>
    simp [node, ElementHead.node, Node.ofElement, text.filled, Node.allowsChildren, Node.kind,
      NodeKind.allowsChildren]
  | control text =>
    simp [node, ControlHead.node, Node.ofControl, text.undirected, Node.allowsChildren, Node.kind,
      NodeKind.allowsChildren]

lemma read_toText : read tag.toText = .single ⟨tag.node, []⟩ := by
  have hopening : Opening.ofText tag.toText = .tag tag.form [] := by simpa using tag.opening []
  rw [read_of_split?_eq_none hopening (tag.crosses_toText rfl).split?_eq_none, tag.head_toText]

/-- A tag before a separator is read as it is read alone, around the rest of the line. -/
lemma read_nested (inner : Text) :
    read (tag.toText ++ ':' :: ' ' :: inner) = .nested ⟨tag.node, []⟩ (read inner.trimStart) := by
  have hsplit : split? tag.form (tag.toText ++ ':' :: ' ' :: inner) =
      some (tag.toText, inner.trimStart) :=
    (tag.crosses_toText rfl).split?_separator rfl
  rw [read_eq, tag.opening]
  simp only [hsplit, List.nil_append, tag.head_toText]

end TagHead

lemma Reading.sprout_nested {node top : Node} (hnode : node.allowsChildren) {inner : Reading}
    {children : Forest Node} (hinner : inner.sprout = .ok (top, children)) :
    (Reading.nested ⟨node, []⟩ inner).sprout = .ok (node, .cons top children .nil) := by
  simp [Reading.sprout, Head.sprout, Head.contentForest, hnode, hinner]

def chain : List TagHead → Text → Text
  | [], tail => tail
  | tag :: tags, tail => tag.toText ++ ':' :: ' ' :: chain tags tail

lemma trimStart_chain {tail : Text} (h : tail.trimStart = tail) (tags : List TagHead) :
    Text.trimStart (chain tags tail) = chain tags tail := by
  cases tags with
  | nil => exact h
  | cons tag tags => cases tag <;> rfl

/-- The sprout of a chain is a spine around the sprout of the line at its end. -/
lemma sprout_chain {tail : Text} (h : tail.trimStart = tail) {node : Node}
    {children : Forest Node} (hsprout : (read tail).sprout = .ok (node, children))
    (tags : List TagHead) :
    ∃ top inner, (read (chain tags tail)).sprout = .ok (top, inner) ∧
      .cons top inner .nil = spine (tags.map TagHead.node) node children := by
  induction tags with
  | nil => exact ⟨node, children, hsprout, rfl⟩
  | cons tag tags ih =>
    obtain ⟨top, inner, hinner, hspine⟩ := ih
    refine ⟨tag.node, .cons top inner .nil, ?_, by rw [hspine]; rfl⟩
    rw [chain, tag.read_nested, trimStart_chain h]
    exact Reading.sprout_nested tag.allowsChildren_node hinner

/-- A chain of tags nests one level for each separator. Each tag is the node that it is alone and
has the next one as its only child, and the last tag has what the line at the end is alone. -/
theorem plant_chain (tags : List TagHead) {tail : Text} (hmargin : tail.trimStart = tail)
    {start alone : Tree} {id : NodeId} (htail : plant start tail = (alone, .ok id)) (tree : Tree) :
    ∃ planted, plant tree (chain tags tail) = (planted, .ok tree.size) ∧
      (∀ i tag, tags[i]? = some tag →
        node? tag.toText = some (planted.node (tree.size + i)) ∧
        planted.children (tree.size + i) = [tree.size + i + 1]) ∧
      planted.node (tree.size + tags.length) = alone.node id ∧
      planted.outline (tree.size + tags.length) = alone.outline id := by
  obtain ⟨node, children, hsprout, rfl, halone⟩ := exists_sprout_of_plant htail
  obtain ⟨top, inner, hchain, hspine⟩ := sprout_chain hmargin hsprout tags
  have hspec := (read (chain tags tail)).plantSpec tree
  rw [hchain] at hspec
  obtain ⟨planted, hplant, hplanted⟩ := hspec
  obtain ⟨-, hnodes, hnode, houtline⟩ := (hspine ▸ hplanted.numbered).of_spine
  obtain ⟨-, -, hbelow⟩ := halone.numbered.of_single
  rw [List.length_map] at hnode houtline
  refine ⟨planted, hplant, ?_, ?_, ?_⟩
  · intro i tag htag
    obtain ⟨htop, hchildren⟩ := hnodes i tag.node (by simp [htag])
    have halone : (read tag.toText).sprout = .ok (tag.node, .nil) := by
      rw [tag.read_toText]
      rfl
    exact ⟨by rw [htop, (node?_of_sprout halone).2], hchildren⟩
  · rw [hnode, halone.node_eq]
  · rw [houtline, hbelow.outline_eq]

/-- No separator is taken from a value, a slice or a quotation. -/
theorem plant_chain_of_two_tags :
    ∃ planted,
      plant {} "%ul.a:#b(k=\"c: d\"): -if e[1: 2] == 'f: g': %li h".toList = (planted, .ok 1) ∧
      node? "%ul.a:#b(k=\"c: d\")".toList = some (planted.node 1) ∧
      planted.children 1 = [2] ∧
      node? "-if e[1: 2] == 'f: g'".toList = some (planted.node 2) ∧
      planted.children 2 = [3] ∧
      planted.node 3 = .element { tag := "li".toList } ∧
      planted.outline 3 = .cons (.text "h".toList) .nil .nil := by
  have hread : read "%li h".toList =
      .single ⟨.element { tag := "li".toList }, "h".toList⟩ := by
    rw [read_eq]
    rfl
  have htail : plant {} "%li h".toList = _ := congrArg (Reading.plant {}) hread
  have h := plant_chain
    [.element { tag := "ul".toList
                chunks := [{ name := "a:".toList }, { isId := true, name := "b".toList }]
                list? := some [{ key := "k".toList, value := "c: d".toList }] },
      .control { tag := "if".toList, data := "e[1: 2] == 'f: g'".toList }]
    rfl htail {}
  obtain ⟨planted, hplant, htags, hnode, houtline⟩ := h
  obtain ⟨hul, hfirst⟩ := htags 0 _ rfl
  obtain ⟨hif, hsecond⟩ := htags 1 _ rfl
  exact ⟨planted, hplant, hul, hfirst, hif, hsecond, hnode, houtline⟩

end Line
end OutlineMarkup

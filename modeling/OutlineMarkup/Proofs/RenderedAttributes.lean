import OutlineMarkup.Proofs.LineWidths
import OutlineMarkup.Proofs.ListEntries

/-! Reading rendered attributes back. Rendering escapes nothing, so attributes can be told from
their rendering only as long as no key holds an equals sign and no value a double quote. No key that
a line gives holds one. Its values hold double quotes exactly when one of its shorthands does:
attribute lists let none through. -/
namespace OutlineMarkup

namespace Text

lemma mem_trim_iff {c : Char} (hc : isBlank c = false) {t : Text} : c ∈ t.trim ↔ c ∈ t := by
  obtain ⟨pad, pad', hpad, hpad', ht⟩ := exists_append_trim t
  have hout : ∀ {s : Text}, (∀ d ∈ s, isBlank d) → c ∉ s := by
    intro s hs hmem
    simp [hs c hmem] at hc
  conv_rhs => rw [ht, List.mem_append, List.mem_append]
  simp [hout hpad, hout hpad']

/-- Cut a text at the first occurrence of a character, which is left out. -/
def cutAt? (c : Char) : Text → Option (Text × Text)
  | [] => none
  | d :: t =>
    if d = c then some ([], t)
    else (cutAt? c t).map fun (before, rest) => (d :: before, rest)

lemma cutAt?_eq_some_iff {c : Char} {t before rest : Text} :
    cutAt? c t = some (before, rest) ↔ c ∉ before ∧ before ++ c :: rest = t := by
  induction t generalizing before with
  | nil => simp [cutAt?]
  | cons d t ih =>
    rw [cutAt?]
    by_cases hd : d = c
    · rw [if_pos hd]
      cases before with
      | nil => simp [hd, eq_comm]
      | cons e before =>
        simp only [Option.some.injEq, Prod.mk.injEq, reduceCtorEq, false_and, false_iff]
        rintro ⟨hout, htext⟩
        obtain ⟨rfl, -⟩ := List.cons.inj htext
        exact hout (by simp [hd])
    · rw [if_neg hd, Option.map_eq_some_iff]
      cases before with
      | nil => simp [Ne.symm hd]
      | cons e before =>
        constructor
        · rintro ⟨⟨before, rest⟩, hcut, heq⟩
          cases heq
          obtain ⟨hout, rfl⟩ := ih.1 hcut
          exact ⟨by simp [Ne.symm hd, hout], rfl⟩
        · rintro ⟨hout, htext⟩
          obtain ⟨rfl, htail⟩ := List.cons.inj htext
          exact ⟨(before, rest), ih.2 ⟨by simp_all, htail⟩, rfl⟩

end Text

namespace Attributes

variable {attributes next filled : Attributes} {key value tag t : Text}
  {entries : List (Text × Text)}

/-- No key holds an equals sign or a double quote. -/
def KeysPlain (attributes : Attributes) : Prop :=
  ∀ key ∈ attributes.entries.map Prod.fst, '=' ∉ key ∧ '"' ∉ key

def ValuesPlain (attributes : Attributes) : Prop := ∀ entry ∈ attributes.entries, '"' ∉ entry.2

/-- Cut off the entry a text begins with: its key ends at the first equals sign, and its value at
the first double quote behind the one that opens it. -/
def split? (t : Text) : Option ((Text × Text) × Text) :=
  match Text.cutAt? '=' t with
  | some (key, '"' :: behind) =>
    (Text.cutAt? '"' behind).map fun (value, rest) => ((key, value), rest)
  | _ => none

/-- An entry is read as it was rendered. -/
lemma split?_eq_some_iff {entry : Text × Text} {rest : Text} :
    split? t = some (entry, rest) ↔
      ('=' ∉ entry.1 ∧ '"' ∉ entry.2) ∧ renderEntry entry ++ rest = t := by
  obtain ⟨key, value⟩ := entry
  have htext : renderEntry (key, value) ++ rest = key ++ '=' :: '"' :: (value ++ '"' :: rest) := by
    simp [renderEntry]
  rw [htext]
  constructor
  · intro h
    unfold split? at h
    split at h
    · next key behind hkey =>
      obtain ⟨⟨value, rest⟩, hvalue, heq⟩ := Option.map_eq_some_iff.1 h
      cases heq
      obtain ⟨hequals, rfl⟩ := Text.cutAt?_eq_some_iff.1 hkey
      obtain ⟨hquote, rfl⟩ := Text.cutAt?_eq_some_iff.1 hvalue
      exact ⟨⟨hequals, hquote⟩, rfl⟩
    · cases h
  · rintro ⟨⟨hequals, hquote⟩, rfl⟩
    rw [split?, Text.cutAt?_eq_some_iff.2 ⟨hequals, rfl⟩]
    simp [Text.cutAt?_eq_some_iff.2 ⟨hquote, rfl⟩]

lemma length_lt_of_split? {entry : Text × Text} {rest : Text}
    (h : split? t = some (entry, rest)) : rest.length < t.length := by
  obtain ⟨-, rfl⟩ := split?_eq_some_iff.1 h
  simp only [renderEntry, List.length_append, List.length_cons]
  omega

def readEntries? (t : Text) : Option (List (Text × Text)) :=
  match h : split? t with
  | some (entry, []) => some [entry]
  | some (entry, ' ' :: rest) =>
    have := length_lt_of_split? h
    (readEntries? rest).map (entry :: ·)
  | _ => none
termination_by t.length
decreasing_by simp at this; omega

def ofText? (t : Text) : Option Attributes :=
  if t.isEmpty then some {} else (readEntries? t).map fun entries => { entries }

lemma readEntries?_of_last {entry : Text × Text} (h : split? t = some (entry, [])) :
    readEntries? t = some [entry] := by
  rw [readEntries?]
  split <;> simp_all

lemma readEntries?_of_space {entry : Text × Text} {rest : Text}
    (h : split? t = some (entry, ' ' :: rest)) :
    readEntries? t = (readEntries? rest).map (entry :: ·) := by
  rw [readEntries?]
  split <;> simp_all

/-- Reading gives the entries whose rendering the text is, when they can be told apart in it. -/
lemma readEntries?_eq_some_iff :
    readEntries? t = some entries ↔
      entries ≠ [] ∧ (∀ entry ∈ entries, '=' ∉ entry.1 ∧ '"' ∉ entry.2) ∧
        List.intercalate [' '] (entries.map renderEntry) = t := by
  constructor
  · intro h
    fun_induction readEntries? t generalizing entries with
    | case1 t entry hfirst =>
      cases h
      obtain ⟨hplain, rfl⟩ := split?_eq_some_iff.1 hfirst
      exact ⟨by simp, by simpa using hplain, by simp⟩
    | case2 t entry rest hfirst _ ih =>
      obtain ⟨others, hothers, rfl⟩ := Option.map_eq_some_iff.1 h
      obtain ⟨hplain, rfl⟩ := split?_eq_some_iff.1 hfirst
      obtain ⟨hne, hrest, rfl⟩ := ih hothers
      refine ⟨by simp, List.forall_mem_cons.2 ⟨hplain, hrest⟩, ?_⟩
      rw [List.map_cons, List.intercalate_cons_of_ne_nil (by simpa using hne)]
      simp
    | case3 => cases h
  · rintro ⟨hne, hplain, rfl⟩
    induction entries with
    | nil => exact absurd rfl hne
    | cons entry rest ih =>
      obtain ⟨hentry, hrest⟩ := List.forall_mem_cons.1 hplain
      cases rest with
      | nil =>
        rw [List.map_singleton, List.intercalate_singleton]
        exact readEntries?_of_last (split?_eq_some_iff.2 ⟨hentry, List.append_nil _⟩)
      | cons other rest =>
        have hothers := ih (by simp) hrest
        rw [List.map_cons, List.intercalate_cons_of_ne_nil (by simp), List.append_assoc,
          List.singleton_append, readEntries?_of_space (split?_eq_some_iff.2 ⟨hentry, rfl⟩),
          hothers]
        rfl

/-- Attributes are read back from their rendering exactly when no key holds an equals sign and no
value a double quote, and from nothing else. -/
theorem ofText?_eq_some_iff :
    ofText? t = some attributes ↔
      (∀ entry ∈ attributes.entries, '=' ∉ entry.1 ∧ '"' ∉ entry.2) ∧ attributes.render = t := by
  obtain ⟨entries⟩ := attributes
  have hempty : List.intercalate [' '] (entries.map renderEntry) = [] ↔ entries = [] := by
    cases entries with
    | nil => simp
    | cons entry rest => cases rest <;> simp [renderEntry, List.intercalate_cons_cons]
  rw [ofText?, render]
  split_ifs with ht
  · rw [List.isEmpty_iff.1 ht, hempty]
    constructor
    · intro h
      cases h
      simp
    · rintro ⟨-, rfl⟩
      rfl
  · simp only [Option.map_eq_some_iff, mk.injEq, exists_eq_right, readEntries?_eq_some_iff]
    refine and_iff_right_of_imp ?_
    rintro ⟨-, rfl⟩ hnil
    exact ht (by simp [hempty.2 hnil])

lemma ofText?_render_iff (h : attributes.KeysPlain) :
    ofText? attributes.render = some attributes ↔ attributes.ValuesPlain := by
  rw [ofText?_eq_some_iff, and_iff_left rfl]
  constructor
  · exact fun hplain entry hentry => (hplain entry hentry).2
  · exact fun hvalues entry hentry =>
      ⟨(h entry.1 (List.mem_map_of_mem hentry)).1, hvalues entry hentry⟩

def Distinct (attributes : Attributes) : Prop := (attributes.entries.map Prod.fst).Nodup

/-- Another value takes the place of the one that was there. -/
lemma Distinct.replace_eq (h : attributes.Distinct) {present : Text}
    (hget : attributes.get? key = some present) :
    ∃ before after, attributes.entries = before ++ (key, present) :: after ∧
      ∀ value, (attributes.replace key value).entries = before ++ (key, value) :: after := by
  obtain ⟨before, after, hentries, hbefore⟩ := List.lookup_eq_some_iff.1 hget
  rw [Distinct, hentries, List.map_append, List.map_cons, List.nodup_append, List.nodup_cons] at h
  have hother : ∀ entry ∈ before ++ after, entry.1 ≠ key := by
    intro entry hentry heq
    rcases List.mem_append.1 hentry with hmem | hmem
    · exact h.2.2 entry.1 (List.mem_map_of_mem hmem) key (by simp) heq
    · exact h.2.1.1 (List.mem_map.2 ⟨entry, hmem, heq⟩)
  refine ⟨before, after, hentries, fun value => ?_⟩
  have hsame : ∀ {entries : List (Text × Text)}, (∀ entry ∈ entries, entry.1 ≠ key) →
      (entries.map fun entry => if entry.1 = key then (key, value) else entry) = entries := by
    intro entries hentries
    rw [List.map_congr_left fun entry hmem => if_neg (hentries entry hmem), List.map_id']
  rw [replace, hentries, List.map_append, List.map_cons,
    hsame fun entry hmem => hother entry (List.mem_append_left after hmem),
    hsame fun entry hmem => hother entry (List.mem_append_right before hmem)]
  simp

/-- Adding a value gives no key twice, and leaves plain values exactly when the new one is plain:
a class that was there is joined to the new one, never dropped. -/
lemma Distinct.of_add (h : attributes.Distinct) (hadd : attributes.add key value tag = .ok next) :
    next.Distinct ∧ (next.ValuesPlain ↔ attributes.ValuesPlain ∧ '"' ∉ value) := by
  have htrim : ∀ t : Text, '"' ∈ t.trim ↔ '"' ∈ t := fun t => Text.mem_trim_iff rfl
  unfold add at hadd
  split at hadd
  · next hget =>
    cases hadd
    have hnew : key ∉ attributes.entries.map Prod.fst := by
      rw [← isSome_get?_iff, hget]
      simp
    constructor
    · rw [Distinct, List.map_append, List.map_singleton, ← List.concat_eq_append]
      exact h.concat hnew
    · rw [ValuesPlain, List.forall_mem_append, List.forall_mem_singleton, htrim, ValuesPlain]
  · next present hget =>
    split at hadd
    · cases hadd
      refine ⟨by rwa [Distinct, keys_replace], ?_⟩
      obtain ⟨before, after, hentries, hreplace⟩ := h.replace_eq hget
      have hjoined : '"' ∉ Text.trim (present ++ ' ' :: value.trim) ↔
          '"' ∉ present ∧ '"' ∉ value := by
        simp [htrim]
      rw [ValuesPlain, ValuesPlain, hreplace, hentries, List.forall_mem_append,
        List.forall_mem_cons, List.forall_mem_append, List.forall_mem_cons, hjoined]
      tauto
    · cases hadd

lemma Distinct.of_addAll (h : attributes.Distinct)
    (hadd : attributes.addAll tag entries = .ok filled) :
    filled.ValuesPlain ↔ attributes.ValuesPlain ∧ ∀ entry ∈ entries, '"' ∉ entry.2 := by
  induction entries generalizing attributes with
  | nil =>
    cases hadd
    simp
  | cons entry rest ih =>
    rw [addAll] at hadd
    split at hadd
    · next next hnext =>
      obtain ⟨hdistinct, hvalues⟩ := h.of_add hnext
      rw [ih hdistinct hadd, hvalues, List.forall_mem_cons, and_assoc]
    · cases hadd

lemma keysPlain_of_addAll (hadd : Attributes.addAll {} tag entries = .ok filled)
    (h : ∀ entry ∈ entries, '=' ∉ entry.1 ∧ '"' ∉ entry.1) : filled.KeysPlain := by
  intro key hkey
  rw [← isSome_get?_iff, isSome_get?_of_addAll hadd] at hkey
  obtain ⟨entry, hentry, rfl⟩ := List.mem_map.1 (hkey.resolve_left (by simp))
  exact h entry hentry

end Attributes

namespace Line

namespace Shorthand

/-- Chunks that are not refused are added in order. -/
lemma addAll_of_addChunks {shorthand tag : Text} {attributes filled : Attributes}
    {chunks : List (Text × Text)} (h : addChunks shorthand tag attributes chunks = .ok filled) :
    attributes.addAll tag chunks = .ok filled := by
  induction chunks generalizing attributes with
  | nil => exact h
  | cons chunk rest ih =>
    rw [addChunks] at h
    rw [Attributes.addAll]
    split at h
    · cases h
    · cases hadd : attributes.add chunk.1 chunk.2 tag with
      | error fault =>
        rw [hadd] at h
        cases h
      | ok next =>
        rw [hadd] at h
        exact ih h

lemma plain_of_mem_chunks {t : Text} {chunk : Text × Text} (h : chunk ∈ chunks t) :
    '=' ∉ chunk.1 ∧ '"' ∉ chunk.1 := by
  have hkeys : ∀ {c key}, key? c = some key → '=' ∉ key ∧ '"' ∉ key := by
    intro c key hkey
    unfold key? at hkey
    split_ifs at hkey <;> cases hkey <;> decide
  induction t with
  | nil => cases h
  | cons c t ih =>
    rw [chunks] at h
    split at h
    · next key hkey =>
      rcases List.mem_cons.1 h with rfl | hrest
      · exact hkeys hkey
      · exact ih hrest
    · exact ih h

/-- A double quote stands before the first mark or in a name. -/
lemma quote_mem_iff (t : Text) :
    '"' ∈ t ↔ '"' ∈ t.takeWhile (fun d => (key? d).isNone) ∨ ∃ chunk ∈ chunks t, '"' ∈ chunk.2 := by
  induction t with
  | nil => simp [chunks]
  | cons c t ih =>
    rw [chunks, List.mem_cons]
    cases hkey : key? c with
    | none => simp [hkey, ih, or_assoc]
    | some key =>
      have hc : '"' ≠ c := by
        rintro rfl
        cases hkey
      simp [hkey, ih, hc]

lemma Formed.quote_mem_iff {shorthand : Text} (h : Formed shorthand) :
    '"' ∈ shorthand ↔ ∃ chunk ∈ chunks shorthand, '"' ∈ chunk.2 := by
  obtain ⟨c, hc, hmark⟩ := h.head
  obtain ⟨body, rfl⟩ := List.head?_eq_some_iff.1 hc
  have hkey : (key? c).isNone = false := by simp [isSome_key?_iff.2 hmark]
  rw [Shorthand.quote_mem_iff, List.takeWhile_cons_of_neg (by simp [hkey])]
  simp

end Shorthand

/-- An entry of a list holds no double quote, and its key no equals sign. -/
lemma AttributeList.Gives.plain {segment : Text} {entry : Text × Text} (h : Gives segment entry) :
    ('=' ∉ entry.1 ∧ '"' ∉ entry.1) ∧ '"' ∉ entry.2 := by
  obtain ⟨hequals, hkey, -, -, hvalue, -⟩ := h
  exact ⟨⟨mt (Text.mem_trim_iff rfl).1 hequals, mt (Text.mem_trim_iff rfl).1 hkey⟩,
    mt (Text.mem_trim_iff rfl).1 hvalue⟩

namespace ElementLine

variable {parts : ElementLine} {attributes : Attributes}

/-- The attributes of a line are the chunks of its shorthand and the entries of its list, added in
order. -/
lemma exists_addAll_of_attributes (h : parts.attributes = .ok attributes) :
    ∃ segments entries, List.Forall₂ AttributeList.Gives segments entries ∧
      Attributes.addAll {} parts.tag (Shorthand.chunks (parts.shorthand.getD []) ++ entries) =
        .ok attributes := by
  rw [ElementLine.attributes] at h
  split at h
  · cases h
  · next named hnamed =>
    have hchunks : Attributes.addAll {} parts.tag (Shorthand.chunks (parts.shorthand.getD [])) =
        .ok named := by
      cases hshorthand : parts.shorthand with
      | none =>
        rw [hshorthand] at hnamed
        exact hnamed
      | some shorthand =>
        rw [hshorthand] at hnamed
        exact Shorthand.addAll_of_addChunks hnamed
    cases hlist : parts.attributeList with
    | none =>
      rw [hlist] at h
      cases h
      exact ⟨[], [], .nil, by rw [List.append_nil, hchunks]⟩
    | some list =>
      rw [hlist] at h
      obtain ⟨entries, hentries, hadd⟩ := AttributeList.addSegments_eq_ok_iff.1 h
      exact ⟨_, entries, hentries, by rw [Attributes.addAll_append, hchunks]; exact hadd⟩

/-- The keys of a line are plain, and its values are when its shorthand holds no double quote. -/
theorem Formed.plain_of_attributes (hformed : parts.Formed)
    (h : parts.attributes = .ok attributes) :
    attributes.KeysPlain ∧ (attributes.ValuesPlain ↔ '"' ∉ parts.shorthand.getD []) := by
  obtain ⟨segments, entries, hentries, hadd⟩ := exists_addAll_of_attributes h
  have hplain : ∀ entry ∈ entries, ('=' ∉ entry.1 ∧ '"' ∉ entry.1) ∧ '"' ∉ entry.2 := by
    clear hadd
    induction hentries with
    | nil => simp
    | cons hgives _ ih => exact List.forall_mem_cons.2 ⟨hgives.plain, ih⟩
  have hquote : '"' ∈ parts.shorthand.getD [] ↔
      ∃ chunk ∈ Shorthand.chunks (parts.shorthand.getD []), '"' ∈ chunk.2 := by
    cases hshorthand : parts.shorthand with
    | none => simp [Shorthand.chunks]
    | some shorthand => exact (hformed.shorthand shorthand hshorthand).quote_mem_iff
  constructor
  · apply Attributes.keysPlain_of_addAll hadd
    intro entry hentry
    rcases List.mem_append.1 hentry with hchunk | hgiven
    · exact Shorthand.plain_of_mem_chunks hchunk
    · exact (hplain entry hgiven).1
  · have hdistinct : Attributes.Distinct {} := List.nodup_nil
    rw [hdistinct.of_addAll hadd, hquote, List.forall_mem_append]
    constructor
    · rintro ⟨-, hchunks, -⟩ ⟨chunk, hchunk, hmem⟩
      exact hchunks chunk hchunk hmem
    · intro hnone
      refine ⟨by simp [Attributes.ValuesPlain], ?_, fun entry hentry => (hplain entry hentry).2⟩
      exact fun chunk hchunk hmem => hnone ⟨chunk, hchunk, hmem⟩

end ElementLine
end Line

namespace Node

def element? : Node → Option Element
  | element e | voidElement e => some e
  | _ => none

@[simp] lemma element?_text (data : Text) : (text data).element? = none := rfl

@[simp] lemma element?_ofElement (e : Element) : (ofElement e).element? = some e := by
  unfold ofElement
  split <;> rfl

@[simp] lemma element?_ofControl (c : Control) : (ofControl c).element? = none := by
  unfold ofControl
  split <;> rfl

end Node

/-- The elements among the nodes of a tree from a number on, in order of creation. -/
def Tree.elementsFrom (tree : Tree) (first : Nat) : List Element :=
  (List.range' first (tree.size - first)).filterMap fun id => (tree.node id).element?

namespace Line

open OutlineMarkup.Tree

variable {tree planted : Tree} {node : Node} {children : Forest Node}

/-- The elements created by planting are those of the sprout. -/
lemma Planted.elementsFrom_eq (h : Planted tree planted node children) :
    planted.elementsFrom tree.size = (node :: children.preorder).filterMap Node.element? := by
  obtain ⟨forest, -, rfl, hpreorder⟩ := h.unfolds
  have hcount : planted.size - tree.size = planted.size - (tree.size + 1) + 1 := by
    have := h.size_lt
    omega
  rw [elementsFrom, hcount, List.range'_succ, Forest.preorder_map, hpreorder, ← h.node_eq,
    ← List.map_cons, List.filterMap_map]
  rfl

/-- The elements among the tags of a line, from the outermost to the innermost. -/
def Reading.elements : Reading → List Element
  | faulty _ => []
  | single head => head.node.element?.toList
  | nested head inner => head.node.element?.toList ++ inner.elements

lemma Head.filterMap_sprout {head : Head} (h : head.sprout = .ok (node, children)) :
    (node :: children.preorder).filterMap Node.element? = head.node.element?.toList := by
  unfold Head.sprout at h
  split at h
  · cases h
    rcases head.contentForest_cases with ⟨-, hforest⟩ | ⟨-, hforest⟩
    · cases hnode : head.node.element? <;> simp [hforest, hnode]
    · cases hnode : head.node.element? <;> simp [hforest, hnode]
  · cases h

/-- The elements of a sprout are those of the tags; content is never an element. -/
lemma Reading.filterMap_sprout {reading : Reading} (h : reading.sprout = .ok (node, children)) :
    (node :: children.preorder).filterMap Node.element? = reading.elements := by
  induction reading generalizing node children with
  | faulty fault => cases h
  | single head => exact head.filterMap_sprout h
  | nested head inner ih =>
    rw [Reading.sprout] at h
    split at h
    · cases h
    · next outer content hhead =>
      split at h
      · cases h
      · next child below hinner =>
        split at h
        · cases h
          rw [Reading.elements, ← head.filterMap_sprout hhead, ← ih hinner,
            ← List.filterMap_append]
          simp
        · cases h

/-- The element that a tag stands for, if its form is the one of elements. -/
def ElementLine.ofTag? : TagForm → Text → Option ElementLine
  | .element, text => ofText? text
  | .control, _ => none

/-- The element lines on a line, from the outermost to the innermost. -/
def elementLines (line : Text) : List ElementLine :=
  match Opening.ofText line with
  | .plain _ => []
  | .tag form implied =>
    match h : split? form line with
    | none => (ElementLine.ofTag? form (implied ++ line)).toList
    | some (tag, rest) =>
      have := length_lt_of_split? h
      (ElementLine.ofTag? form (implied ++ tag)).toList ++ elementLines rest
termination_by line.length
decreasing_by assumption

lemma elementLines_of_plain {line : Text} (h : Opening.ofText line = .plain node) :
    elementLines line = [] := by
  rw [elementLines, h]

lemma elementLines_of_split?_eq_none {line implied : Text} {form : TagForm}
    (hopening : Opening.ofText line = .tag form implied) (hsplit : split? form line = none) :
    elementLines line = (ElementLine.ofTag? form (implied ++ line)).toList := by
  rw [elementLines, hopening]
  dsimp only
  split <;> simp_all

lemma elementLines_of_split? {line implied tag rest : Text} {form : TagForm}
    (hopening : Opening.ofText line = .tag form implied)
    (hsplit : split? form line = some (tag, rest)) :
    elementLines line =
      (ElementLine.ofTag? form (implied ++ tag)).toList ++ elementLines rest := by
  rw [elementLines, hopening]
  dsimp only
  split <;> simp_all

/-- The parts of a line are well formed, and an element has the attributes they give. -/
structure ElementLine.StandsFor (parts : ElementLine) (element : Element) : Prop where
  formed : parts.Formed
  attributes_eq : parts.attributes = .ok element.attributes

/-- A tag gives a node for its element line, and none for a control line. -/
lemma standsFor_of_head {form : TagForm} {text : Text} {tag : Head}
    (h : head form text = .ok tag) :
    List.Forall₂ ElementLine.StandsFor (ElementLine.ofTag? form text).toList
      tag.node.element?.toList := by
  cases form with
  | control =>
    rw [head] at h
    split at h <;> cases h
    rw [ControlLine.node, Node.element?_ofControl]
    exact .nil
  | element =>
    rw [head] at h
    split at h
    · cases h
    · next parts hparts =>
      rw [ElementLine.node] at h
      split at h
      · cases h
      · next attributes hattributes =>
        split at h
        · cases h
        · cases h
          rw [ElementLine.ofTag?, hparts, Node.element?_ofElement]
          exact .cons ⟨ElementLine.formed_of_ofText? hparts, hattributes⟩ .nil

lemma element?_of_plain {line : Text} (h : Opening.ofText line = .plain node) :
    node.element? = none := by
  cases line with
  | nil =>
    cases h
    rfl
  | cons c t =>
    rw [Opening.ofText] at h
    split_ifs at h <;> cases h <;> rfl

/-- The element lines on a line that is not at fault stand for its elements. -/
theorem standsFor_elementLines {line : Text} (h : (read line).sprout = .ok (node, children)) :
    List.Forall₂ ElementLine.StandsFor (elementLines line) (read line).elements := by
  fun_induction read line generalizing node children with
  | case1 line plain hopening =>
    rw [elementLines_of_plain hopening, Reading.elements, element?_of_plain hopening]
    exact .nil
  | case2 => cases h
  | case3 line form implied hopening hsplit tag hhead =>
    rw [elementLines_of_split?_eq_none hopening hsplit]
    exact standsFor_of_head hhead
  | case4 => cases h
  | case5 line form implied hopening text rest hsplit _ tag hhead ih =>
    obtain ⟨child, below, hinner, -⟩ := Reading.exists_of_sprout_nested h
    rw [elementLines_of_split? hopening hsplit]
    exact List.rel_append (standsFor_of_head hhead) (ih hinner)

/-- The keys of the elements of a line are plain, and attributes whose values are plain too can be
read back from their rendering. All values are plain exactly when no shorthand on the line holds a
double quote. -/
theorem ofText?_render_of_plant {line : Text} {id : NodeId}
    (h : plant tree line = (planted, .ok id)) :
    (∀ element ∈ planted.elementsFrom tree.size, element.attributes.KeysPlain ∧
      (Attributes.ofText? element.attributes.render = some element.attributes ↔
        element.attributes.ValuesPlain)) ∧
    ((∀ element ∈ planted.elementsFrom tree.size, element.attributes.ValuesPlain) ↔
      ∀ parts ∈ elementLines line, '"' ∉ parts.shorthand.getD []) := by
  obtain ⟨node, children, hsprout, rfl, hplanted⟩ := exists_sprout_of_plant h
  rw [hplanted.elementsFrom_eq, Reading.filterMap_sprout hsprout]
  have hstands := standsFor_elementLines hsprout
  generalize elementLines line = lines at hstands ⊢
  generalize (read line).elements = elements at hstands ⊢
  induction hstands with
  | nil => simp
  | cons hparts _ ih =>
    obtain ⟨hkeys, hvalues⟩ := hparts.formed.plain_of_attributes hparts.attributes_eq
    refine ⟨List.forall_mem_cons.2 ⟨⟨hkeys, Attributes.ofText?_render_iff hkeys⟩, ih.1⟩, ?_⟩
    rw [List.forall_mem_cons, List.forall_mem_cons, hvalues, ih.2]

/-- Equals signs in values and a class given twice do no harm. -/
theorem ofText?_render_of_merged_class :
    ∃ planted, plant {} "%p.a(k=\"x=y\", class=\"b\"): %br#z".toList = (planted, .ok 1) ∧
      planted.elementsFrom 1 =
        [⟨"p".toList, ⟨[("class".toList, "a b".toList), ("k".toList, "x=y".toList)]⟩, false⟩,
          ⟨"br".toList, ⟨[("id".toList, "z".toList)]⟩, false⟩] ∧
      ∀ element ∈ planted.elementsFrom 1,
        Attributes.ofText? element.attributes.render = some element.attributes := by
  have hinner : read "%br#z".toList =
      .single ⟨.voidElement ⟨"br".toList, ⟨[("id".toList, "z".toList)]⟩, false⟩, []⟩ := by
    rw [read_eq]
    rfl
  have hread : read "%p.a(k=\"x=y\", class=\"b\"): %br#z".toList = .nested ⟨.element ⟨"p".toList,
      ⟨[("class".toList, "a b".toList), ("k".toList, "x=y".toList)]⟩, false⟩, []⟩
      (read "%br#z".toList) := by
    rw [read_eq]
    rfl
  have hplant : plant {} "%p.a(k=\"x=y\", class=\"b\"): %br#z".toList = _ :=
    congrArg (Reading.plant {}) (hinner ▸ hread)
  refine ⟨_, hplant, by decide, fun element helement => ?_⟩
  obtain ⟨hback, hvalues⟩ := ofText?_render_of_plant hplant
  refine (hback element helement).2.2 (hvalues.2 ?_ element helement)
  have houter : split? .element "%p.a(k=\"x=y\", class=\"b\"): %br#z".toList =
      some ("%p.a(k=\"x=y\", class=\"b\")".toList, "%br#z".toList) := rfl
  have hlast : split? .element "%br#z".toList = none := rfl
  rw [elementLines_of_split? rfl houter, elementLines_of_split?_eq_none rfl hlast]
  decide

/-- A class that holds double quotes is rendered like a class and another attribute. -/
theorem quoted_class_renders_as_attribute :
    ∃ planted other element element',
      plant {} "%p.a\".x=\"b".toList = (planted, .ok 1) ∧
      planted.elementsFrom 1 = [element] ∧ ¬ element.attributes.ValuesPlain ∧
      plant {} "%p.a(x=\"b\")".toList = (other, .ok 1) ∧
      other.elementsFrom 1 = [element'] ∧ element.attributes ≠ element'.attributes ∧
      element.attributes.render = element'.attributes.render := by
  have hquoted : read "%p.a\".x=\"b".toList =
      .single ⟨.element ⟨"p".toList, ⟨[("class".toList, "a\" x=\"b".toList)]⟩, false⟩, []⟩ := by
    rw [read_eq]
    rfl
  have hlisted : read "%p.a(x=\"b\")".toList = .single ⟨.element ⟨"p".toList,
      ⟨[("class".toList, "a".toList), ("x".toList, "b".toList)]⟩, false⟩, []⟩ := by
    rw [read_eq]
    rfl
  refine ⟨_, _, _, _, congrArg (Reading.plant {}) hquoted, rfl, ?_,
    congrArg (Reading.plant {}) hlisted, rfl, by decide, by decide⟩
  rw [Attributes.ValuesPlain]
  decide

end Line
end OutlineMarkup

import OutlineMarkup.Proofs.ListEntries

/-! White space behind the commas of an attribute list. It makes no difference before an entry. It
does where nothing stands between the comma and the next one, or the end of the list: an empty piece
is skipped, and a blank one is refused. And it does where the search for a separator takes the comma
for one outside of all brackets, as it ends at white space there. -/
namespace OutlineMarkup

/-- Whether two faults are of the same kind, whatever they name. -/
def Fault.SameKind (first second : Fault) : Prop := first.ctorIdx = second.ctorIdx

namespace Line

/-- Two results are alike: both are the same value, or both are faults of the same kind. -/
inductive Alike {α : Type} : Except Fault α → Except Fault α → Prop
  | ok (value : α) : Alike (.ok value) (.ok value)
  | error {first second : Fault} (h : first.SameKind second) : Alike (.error first) (.error second)

section Alike

variable {α β : Type}

lemma alike_ok_iff {first second : α} :
    Alike (.ok first : Except Fault α) (.ok second) ↔ first = second := by
  constructor
  · intro h
    cases h
    rfl
  · rintro rfl
    exact .ok first

lemma alike_error_iff {first second : Fault} :
    Alike (.error first : Except Fault α) (.error second) ↔ first.SameKind second := by
  constructor
  · intro h
    cases h with
    | error hkind => exact hkind
  · exact .error

lemma alike_map_iff {f : α → β} (hf : Function.Injective f) {first second : Except Fault α} :
    Alike (first.map f) (second.map f) ↔ Alike first second := by
  cases first with
  | error fault =>
    cases second with
    | error fault' => simp only [Except.map, alike_error_iff]
    | ok value' => constructor <;> intro h <;> cases h
  | ok value =>
    cases second with
    | error fault' => constructor <;> intro h <;> cases h
    | ok value' => simp only [Except.map, alike_ok_iff, hf.eq_iff]

end Alike

namespace AttributeList

namespace Body

variable {s t : Text}

lemma append (hs : Body s) (ht : Body t) : Body (s ++ t) := by
  induction hs with
  | nil => exact ht
  | plain hc _ ih => exact .plain hc ih
  | @quoted s t' hs _ ih =>
    have htext : '"' :: (s ++ '"' :: t') ++ t = '"' :: (s ++ '"' :: (t' ++ t)) := by simp
    rw [htext]
    exact .quoted hs ih

/-- Where the quotes are closed, a body can be divided. -/
lemma of_append (h : Body (s ++ t)) (hclosed : Even (s.count '"')) : Body s ∧ Body t := by
  generalize hst : s ++ t = text at h
  induction h generalizing s with
  | nil =>
    obtain ⟨rfl, rfl⟩ := List.append_eq_nil_iff.1 hst
    exact ⟨.nil, .nil⟩
  | @plain c rest hc hrest ih =>
    cases s with
    | nil =>
      obtain rfl : t = c :: rest := hst
      exact ⟨.nil, .plain hc hrest⟩
    | cons d s =>
      obtain ⟨rfl, htail⟩ := List.cons.inj hst
      rw [List.count_cons_of_ne hc.2.2] at hclosed
      obtain ⟨hs, ht⟩ := ih hclosed htail
      exact ⟨.plain hc hs, ht⟩
  | @quoted string rest hstring hrest ih =>
    have hcount := List.count_eq_zero.2 hstring
    cases s with
    | nil =>
      obtain rfl : t = _ := hst
      exact ⟨.nil, .quoted hstring hrest⟩
    | cons d s =>
      obtain ⟨rfl, htail⟩ := List.cons.inj hst
      -- the first part cannot end within the string, where one quote is open
      rcases List.append_eq_append_iff.1 htail with ⟨mid, rfl, -⟩ | ⟨mid, rfl, hmid⟩
      · rw [List.count_append] at hcount
        rw [List.count_cons_self] at hclosed
        have hs : s.count '"' = 0 := by omega
        simp [hs] at hclosed
      · cases mid with
        | nil => simp [hcount] at hclosed
        | cons d mid =>
          obtain ⟨rfl, hrest'⟩ := List.cons.inj hmid
          have hmidClosed : Even (mid.count '"') := by
            simp [hcount] at hclosed
            grind
          obtain ⟨hs, ht⟩ := ih hmidClosed hrest'.symm
          exact ⟨.quoted hstring hs, ht⟩

lemma of_blank (h : ∀ c ∈ t, Text.isBlank c) : Body t := by
  induction t with
  | nil => exact .nil
  | cons c t ih =>
    refine .plain ⟨?_, ?_, ?_⟩ (ih fun d hd => h d (by simp [hd]))
    all_goals
      rintro rfl
      cases h _ List.mem_cons_self

/-- Behind a body, a comma divides. -/
lemma parts_append (hs : Body s) :
    parts false (s ++ ',' :: t) = parts false s ++ parts false t := by
  have happend : ∀ {first : Text} {rest : Text}, Body rest →
      ((parts false rest ++ parts false t).modifyHead (first ++ ·) =
        (parts false rest).modifyHead (first ++ ·) ++ parts false t) := by
    intro first rest hrest
    obtain ⟨piece, pieces, hpieces⟩ := List.exists_cons_of_ne_nil hrest.pieces.ne_nil
    rw [hpieces]
    rfl
  induction hs with
  | nil => rfl
  | @plain c rest hc hrest ih =>
    by_cases hcomma : c = ','
    · rw [hcomma, List.cons_append, parts, if_pos rfl, ih, parts, if_pos rfl]
      rfl
    · rw [List.cons_append, parts_cons hcomma hc.2.2, ih, happend hrest,
        ← parts_cons hcomma hc.2.2]
  | @quoted string rest hstring hrest ih =>
    have htext : '"' :: (string ++ '"' :: rest) ++ ',' :: t =
        '"' :: (string ++ '"' :: (rest ++ ',' :: t)) := by simp
    rw [htext, parts_string hstring, ih, happend hrest, ← parts_string hstring]

end Body

/-- A list, with a comma outside its quotes, taken apart at the comma. -/
lemma Formed.exists_of_comma {before after : Text} (h : Formed (before ++ ',' :: after))
    (hcomma : Even (before.count '"')) :
    ∃ first second, before = '(' :: first ∧ after = second ++ [')'] ∧ Body first ∧
      Body second := by
  obtain ⟨body, hbody, hlist⟩ := h
  cases before with
  | nil => cases hlist
  | cons c first =>
    obtain ⟨rfl, hrest⟩ := List.cons.inj hlist
    rcases List.eq_nil_or_concat' after with rfl | ⟨second, last, rfl⟩
    · have hlast := congrArg List.getLast? hrest
      simp at hlast
    · have hsplit : (first ++ ',' :: second) ++ [last] = body ++ [')'] := by simpa using hrest
      obtain ⟨rfl, hlast⟩ := List.append_inj' hsplit rfl
      obtain rfl : last = ')' := by simpa using hlast
      rw [List.count_cons_of_ne (by decide)] at hcomma
      obtain ⟨hfirst, hsecond⟩ := hbody.of_append hcomma
      refine ⟨first, second, rfl, rfl, hfirst, ?_⟩
      cases hsecond with
      | plain _ hsecond => exact hsecond

/-- A list with white space behind a comma is a list. -/
lemma Formed.spaced {before after pad : Text} (h : Formed (before ++ ',' :: after))
    (hcomma : Even (before.count '"')) (hpad : ∀ c ∈ pad, Text.isBlank c) :
    Formed (before ++ ',' :: (pad ++ after)) := by
  obtain ⟨first, second, rfl, rfl, hfirst, hsecond⟩ := h.exists_of_comma hcomma
  refine ⟨first ++ ',' :: (pad ++ second), hfirst.append (.plain (by decide) ?_), by simp⟩
  exact (Body.of_blank hpad).append hsecond

/-- White space before a segment makes no difference to what it says. -/
lemma entry?_append_of_blank {pad : Text} (hpad : ∀ c ∈ pad, Text.isBlank c) (segment : Text) :
    entry? (pad ++ segment) = entry? segment := by
  have hequals : ∀ c ∈ pad, (c != '=') = true := by
    intro c hc
    rw [bne_iff_ne]
    rintro rfl
    cases hpad _ hc
  have hquotes : (pad ++ segment).count '"' = segment.count '"' := by
    rw [List.count_append, List.count_eq_zero.2 (Text.quote_notMem_of_blank hpad), Nat.zero_add]
  have hkey : Text.trim (pad ++ segment.takeWhile (· != '=')) =
      Text.trim (segment.takeWhile (· != '=')) := by
    have hnone : ∀ c ∈ ([] : Text), Text.isBlank c := by simp
    simpa using Text.trim_append_of_blank hpad hnone (segment.takeWhile (· != '='))
  unfold entry?
  rw [hquotes, List.dropWhile_append_of_pos hequals,
    List.takeWhile_append_of_pos hequals, hkey]

lemma entry?_of_blank {pad : Text} (hpad : ∀ c ∈ pad, Text.isBlank c) : entry? pad = none := by
  unfold entry?
  rw [if_pos]
  simp [List.count_eq_zero.2 (Text.quote_notMem_of_blank hpad)]

section Segments

variable {list list' tag : Text} {attributes : Attributes}

/-- The attributes that a list adds do not depend on how it would be reported. -/
lemma exists_addSegments_iff (list list' : Text) {segments : List Text} :
    (∃ filled, addSegments list tag attributes segments = .ok filled) ↔
      ∃ filled, addSegments list' tag attributes segments = .ok filled := by
  simp only [addSegments_eq_ok_iff]

/-- Segments that say the same are read alike, whatever list they are reported for. -/
lemma alike_addSegments {segments segments' : List Text}
    (h : List.Forall₂ (fun s s' => entry? s = entry? s') segments segments') :
    Alike (addSegments list tag attributes segments)
      (addSegments list' tag attributes segments') := by
  induction h generalizing attributes with
  | nil => exact .ok attributes
  | @cons segment segment' segments segments' hsame _ ih =>
    rw [addSegments, addSegments, ← hsame]
    cases entry? segment with
    | none => exact .error rfl
    | some entry =>
      dsimp only
      cases attributes.add entry.1 entry.2 tag with
      | error fault => exact .error rfl
      | ok next => exact ih

/-- The faults of a list: it is malformed, or a key is taken. -/
lemma addSegments_error_cases {segments : List Text} {fault : Fault}
    (h : addSegments list tag attributes segments = .error fault) :
    fault = .malformedAttributes list ∨ ∃ key, fault = .duplicateAttribute key tag := by
  induction segments generalizing attributes with
  | nil => cases h
  | cons segment rest ih =>
    rw [addSegments] at h
    split at h
    · cases h
      exact .inl rfl
    · split at h
      · exact ih h
      · next refused =>
        cases h
        obtain ⟨-, -, rfl⟩ := Attributes.add_eq_error_iff.1 refused
        exact .inr ⟨_, rfl⟩

/-- A blank segment among others makes a difference exactly when it is reached and nothing malformed
comes behind it. -/
lemma alike_addSegments_blank_iff {pad : Text} (hpad : ∀ c ∈ pad, Text.isBlank c)
    (segments rest : List Text) :
    Alike (addSegments list tag attributes (segments ++ rest))
        (addSegments list' tag attributes (segments ++ pad :: rest)) ↔
      ¬ ((∃ filled, addSegments list tag attributes segments = .ok filled) ∧
        addSegments list tag attributes (segments ++ rest) ≠
          .error (.malformedAttributes list)) := by
  have hsame : Alike (addSegments list tag attributes segments)
      (addSegments list' tag attributes segments) :=
    alike_addSegments (List.forall₂_same.2 fun _ _ => rfl)
  rw [addSegments_append, addSegments_append]
  cases hsegments : addSegments list tag attributes segments with
  | error first =>
    rw [hsegments] at hsame
    cases hsegments' : addSegments list' tag attributes segments with
    | ok filled =>
      rw [hsegments'] at hsame
      cases hsame
    | error second =>
      rw [hsegments'] at hsame
      simpa using hsame
  | ok filled =>
    rw [hsegments] at hsame
    obtain hsegments' : addSegments list' tag attributes segments = .ok filled := by
      cases hsegments' : addSegments list' tag attributes segments with
      | error fault =>
        rw [hsegments'] at hsame
        cases hsame
      | ok other =>
        rw [hsegments'] at hsame
        cases hsame
        rfl
    have hblank : addSegments list' tag filled (pad :: rest) =
        .error (.malformedAttributes list') := by
      rw [addSegments, entry?_of_blank hpad]
    rw [hsegments']
    dsimp only
    rw [hblank, not_and, not_not]
    constructor
    · intro halike _
      cases hrest : addSegments list tag filled rest with
      | ok other =>
        rw [hrest] at halike
        cases halike
      | error fault =>
        rw [hrest] at halike
        rcases addSegments_error_cases hrest with rfl | ⟨key, rfl⟩
        · rfl
        · cases halike with
          | error hkind => cases hkind
    · intro hrest
      rw [hrest ⟨filled, rfl⟩]
      exact .error rfl

end Segments

/-- The piece behind a comma is empty exactly when another comma or the end of the list follows. -/
lemma Body.head_parts_eq_nil_iff {t piece : Text} {pieces : List Text} (h : Body t)
    (hparts : parts false t = piece :: pieces) :
    piece = [] ↔ (t ++ [')']).head? = some ',' ∨ (t ++ [')']).head? = some ')' := by
  cases h with
  | nil =>
    cases hparts
    simp
  | @plain c t hc ht =>
    by_cases hcomma : c = ','
    · rw [hcomma, parts, if_pos rfl] at hparts
      cases hparts
      simp [hcomma]
    · obtain ⟨first, rest, hrest⟩ := List.exists_cons_of_ne_nil ht.pieces.ne_nil
      rw [parts_cons hcomma hc.2.2, hrest] at hparts
      cases hparts
      simp [hcomma, hc.2.1]
  | @quoted string t hstring ht =>
    obtain ⟨first, rest, hrest⟩ := List.exists_cons_of_ne_nil ht.pieces.ne_nil
    rw [parts_string hstring, hrest] at hparts
    cases hparts
    simp

lemma Body.segments_append {first : Text} (h : Body first) (second : Text) :
    segments (first ++ ',' :: second) = segments first ++ segments second := by
  rw [segments, h.parts_append, List.filter_append]
  rfl

/-- Behind white space, the first segment is longer by it; an empty piece becomes a segment. -/
lemma segments_spaced {pad t piece : Text} {pieces : List Text} (hne : pad ≠ [])
    (hpad : ∀ c ∈ pad, Text.isBlank c) (hparts : parts false t = piece :: pieces) :
    segments (pad ++ t) = (pad ++ piece) :: pieces.filter (!·.isEmpty) := by
  have hplain : ∀ c ∈ pad, c ≠ ',' ∧ c ≠ '"' := by
    intro c hc
    constructor
    · rintro rfl
      cases hpad _ hc
    · rintro rfl
      cases hpad _ hc
  rw [segments, AttributeList.parts_append hplain, hparts, List.modifyHead_cons,
    List.filter_cons_of_pos (by simp [hne])]

variable {before after pad : Text}

/-- Reading a list and the same list with white space behind a comma comes to the same, unless the
piece behind the comma is empty, all is well before it, and nothing malformed follows. -/
theorem alike_addTo_spaced_iff (h : Formed (before ++ ',' :: after))
    (hcomma : Even (before.count '"')) (hne : pad ≠ []) (hpad : ∀ c ∈ pad, Text.isBlank c)
    (attributes : Attributes) (tag : Text) :
    Alike (addTo attributes (before ++ ',' :: after) tag)
        (addTo attributes (before ++ ',' :: (pad ++ after)) tag) ↔
      ¬ ((after.head? = some ',' ∨ after.head? = some ')') ∧
        (∃ filled, addTo attributes (before ++ [')']) tag = .ok filled) ∧
        addTo attributes (before ++ ',' :: after) tag ≠
          .error (.malformedAttributes (before ++ ',' :: after))) := by
  obtain ⟨first, second, rfl, rfl, hfirst, hsecond⟩ := h.exists_of_comma hcomma
  obtain ⟨piece, pieces, hparts⟩ := List.exists_cons_of_ne_nil hsecond.pieces.ne_nil
  have hinside : inside ('(' :: first ++ ',' :: (second ++ [')'])) = first ++ ',' :: second := by
    simpa using inside_eq (first ++ ',' :: second)
  have hinside' : inside ('(' :: first ++ ',' :: (pad ++ (second ++ [')']))) =
      first ++ ',' :: (pad ++ second) := by
    simpa using inside_eq (first ++ ',' :: (pad ++ second))
  have hbefore : inside ('(' :: first ++ [')']) = first := inside_eq first
  generalize '(' :: first ++ ',' :: (second ++ [')']) = list at *
  generalize '(' :: first ++ ',' :: (pad ++ (second ++ [')'])) = spaced at *
  rw [← hsecond.head_parts_eq_nil_iff hparts]
  rw [addTo, addTo, addTo, hinside, hinside', hbefore, hfirst.segments_append,
    hfirst.segments_append, segments_spaced hne hpad hparts]
  rw [exists_addSegments_iff _ list]
  by_cases hpiece : piece = []
  · have hskipped : segments second = pieces.filter (!·.isEmpty) := by
      rw [segments, hparts, hpiece]
      rfl
    rw [hskipped, hpiece, List.append_nil, alike_addSegments_blank_iff hpad]
    simp only [true_and]
  · have hkept : segments second = piece :: pieces.filter (!·.isEmpty) := by
      rw [segments, hparts, List.filter_cons_of_pos (by simpa using hpiece)]
    rw [hkept]
    simp only [hpiece, false_and, not_false_eq_true, iff_true]
    have hsame : ∀ segments : List Text,
        List.Forall₂ (fun s s' => entry? s = entry? s') segments segments :=
      fun _ => List.forall₂_same.2 fun _ _ => rfl
    apply alike_addSegments
    exact List.rel_append (hsame _) (.cons (entry?_append_of_blank hpad piece).symm (hsame _))

/-- A list that is cut short is none. -/
lemma Formed.split?_eq_none {start rest : Text} {c : Char} (h : Formed (start ++ c :: rest)) :
    split? start = none := by
  rw [Option.eq_none_iff_forall_ne_some]
  rintro ⟨part, behind⟩ hsplit
  -- the shorter list would be cut off the longer one as well
  have hpart := (formed_of_split? hsplit).split?_append (behind ++ c :: rest)
  rw [← List.append_assoc, append_of_split? hsplit] at hpart
  have hwhole := h.split?_append []
  rw [List.append_nil, hpart] at hwhole
  simpa using congrArg Prod.snd (Option.some.inj hwhole)

end AttributeList

def tagged (tag list : Text) : Text := '%' :: (tag ++ list)

/-- What planting a line comes to: the tree with the name of the line's node, or a fault. -/
def outcome (tree : Tree) (line : Text) : Except Fault (Tree × NodeId) :=
  (plant tree line).2.map fun id => ((plant tree line).1, id)

section Tagged

variable {tag list : Text} (hne : tag ≠ []) (hword : ∀ c ∈ tag, Text.isWord c)
include hne hword

lemma head_tagged (hlist : AttributeList.Formed list) :
    head .element (tagged tag list) = (AttributeList.addTo {} list tag).map
      fun attributes => ⟨.ofElement ⟨tag, attributes, false⟩, []⟩ := by
  have hformed : ElementLine.Formed { tag, attributeList := some list } :=
    ⟨hne, hword, by simp, by simpa using hlist, by simp⟩
  have hparts := hformed.ofText?_toText
  have htext : ElementLine.toText { tag, attributeList := some list } = tagged tag list := by
    simp [ElementLine.toText, tagged]
  rw [htext] at hparts
  rw [head, hparts]
  simp only [ElementLine.node, ElementLine.attributes, Option.elim]
  cases AttributeList.addTo {} list tag with
  | error fault => rfl
  | ok attributes => simp [contentOf, Except.map]

/-- A tag before an unfinished list is at fault. -/
lemma ofText?_tagged_eq_none {start rest : Text} {c : Char} (hstart : start ≠ [])
    (hlist : AttributeList.Formed (start ++ c :: rest)) :
    ElementLine.ofText? (tagged tag start) = none := by
  have hsplit := hlist.split?_eq_none
  obtain ⟨body, -, hbody⟩ := hlist
  obtain ⟨d, start, rfl⟩ := List.exists_cons_of_ne_nil hstart
  obtain rfl : d = '(' := (List.cons.inj hbody).1
  have hnext : ∀ e ∈ ('(' :: start).head?, Text.isWord e = false := by
    rintro e ⟨⟩
    rfl
  have hshorthand : ElementLine.cut Shorthand.split? ('(' :: start) = (none, '(' :: start) := rfl
  have hinline : inline? ('(' :: start) = none := rfl
  rw [tagged, ElementLine.ofText?_of_word hne hword, ElementLine.ofTagText?,
    Text.takeWhile_append_eq hword hnext, Text.dropWhile_append_eq hword hnext, hshorthand,
    if_neg (by simpa using hne)]
  simp [ElementLine.cut, hsplit, hinline]

/-- A separator in a list leaves a tag before an unfinished list. -/
lemma head_of_split?_tagged (hlist : AttributeList.Formed list) {text rest : Text}
    (h : split? .element (tagged tag list) = some (text, rest)) :
    head .element text = .error (.noMatch .element text) := by
  obtain ⟨blank, hline, -⟩ := eq_of_splitFrom? h
  obtain ⟨body, -, hbody⟩ := id hlist
  have hcolon : ':' ∉ '%' :: tag := by
    rw [List.mem_cons, not_or]
    refine ⟨by decide, fun hmem => ?_⟩
    cases hword ':' hmem
  have hlistHead : list.head? = some '(' := by rw [hbody]; rfl
  rcases List.append_eq_append_iff.1 (show '%' :: tag ++ list = text ++ ':' :: blank from hline)
    with ⟨start, htext, hstart⟩ | ⟨mid, htag, hmid⟩
  · have hnonempty : start ≠ [] := by
      rintro rfl
      rw [hstart] at hlistHead
      cases hlistHead
    rw [hstart] at hlist
    have hnone : ElementLine.ofText? text = none := by
      rw [htext]
      exact ofText?_tagged_eq_none hne hword hnonempty hlist
    rw [head, hnone]
  · cases mid with
    | nil =>
      rw [← show ':' :: blank = list from hmid] at hlistHead
      cases hlistHead
    | cons d mid =>
      obtain rfl : d = ':' := (List.cons.inj hmid).1.symm
      exact absurd (by simp [htag]) hcolon

lemma outcome_of_separator (hlist : AttributeList.Formed list) (tree : Tree) {text rest : Text}
    (h : split? .element (tagged tag list) = some (text, rest)) :
    outcome tree (tagged tag list) = .error (.noMatch .element text) := by
  have hread : read (tagged tag list) = .faulty (.noMatch .element text) := by
    rw [read_eq, show Opening.ofText (tagged tag list) = .tag .element [] from rfl]
    simp only [h, List.nil_append, head_of_split?_tagged hne hword hlist h]
  rw [outcome, plant, hread]
  rfl

lemma outcome_of_no_separator (hlist : AttributeList.Formed list) (tree : Tree)
    (h : split? .element (tagged tag list) = none) :
    outcome tree (tagged tag list) = (AttributeList.addTo {} list tag).map
      fun attributes => (tree.create (.ofElement ⟨tag, attributes, false⟩), tree.size) := by
  have hread := read_of_split?_eq_none rfl h
  rw [head_tagged hne hword hlist] at hread
  rw [outcome, plant, hread]
  cases AttributeList.addTo {} list tag with
  | error fault => rfl
  | ok attributes => rfl

end Tagged

lemma injective_create_ofElement (tree : Tree) (tag : Text) :
    Function.Injective fun attributes : Attributes =>
      (tree.create (.ofElement ⟨tag, attributes, false⟩), tree.size) := by
  intro first second h
  have hnode := congrArg (fun planted : Tree × NodeId => planted.1.node tree.size) h
  simp only [Tree.node_create, if_true, Node.ofElement] at hnode
  split at hnode
  · simpa using hnode
  · simpa using hnode

section Separator

variable {cursor : Cursor} {before after pad : Text}

/-- White space behind a comma may end a search, but finds no separator that was not there. -/
lemma isSome_splitFrom?_of_spaced (hquote : ∀ q, cursor.quote = some q → Cursor.isQuote q)
    (hpad : ∀ c ∈ pad, Text.isBlank c)
    (h : (splitFrom? .element cursor (before ++ ',' :: (pad ++ after))).isSome) :
    (splitFrom? .element cursor (before ++ ',' :: after)).isSome := by
  induction before generalizing cursor with
  | nil =>
    have hcomma : ∀ rest, endsAt .element cursor ',' rest = false := fun rest =>
      endsAt_eq_false (by decide) rfl
    rw [List.nil_append, splitFrom?_cons (hcomma _), Option.isSome_map] at h ⊢
    cases pad with
    | nil => exact h
    | cons c pad =>
      cases hout : (cursor.step ',').isOutside with
      | true =>
        rw [List.cons_append, splitFrom?_blank hout (hpad c (by simp))] at h
        cases h
      | false =>
        have hcross : Crosses .element after (cursor.step ',') (c :: pad) :=
          crosses_of_inside (fun d hd =>
            Cursor.step_of_isBlank (Cursor.isQuote_of_quote_step hquote ',') (hpad d hd)) hout
        rwa [splitFrom?_append hcross.1, hcross.2, Option.isSome_map] at h
  | cons c before ih =>
    have hstarts : startsBlank (before ++ ',' :: (pad ++ after)) =
        startsBlank (before ++ ',' :: after) := by
      cases before <;> rfl
    have hends : endsAt .element cursor c (before ++ ',' :: (pad ++ after)) =
        endsAt .element cursor c (before ++ ',' :: after) := by
      rw [endsAt, hstarts, endsAt]
    rw [List.cons_append] at h ⊢
    cases hend : endsAt .element cursor c (before ++ ',' :: after) with
    | false =>
      rw [splitFrom?_cons (hends.trans hend), Option.isSome_map] at h
      rw [splitFrom?_cons hend, Option.isSome_map]
      exact ih (Cursor.isQuote_of_quote_step hquote c) h
    | true =>
      simp only [endsAt, Bool.and_eq_true, Bool.or_eq_true, beq_iff_eq] at hend
      rcases hend with ⟨hout, ⟨rfl, hblank⟩ | ⟨-, hblank⟩⟩
      · rw [splitFrom?_separator hout hblank]
        rfl
      · rw [splitFrom?_blank hout hblank] at h
        cases h

lemma isSome_split?_of_spaced (hpad : ∀ c ∈ pad, Text.isBlank c) {tag : Text}
    (h : (split? .element (tagged tag (before ++ ',' :: (pad ++ after)))).isSome) :
    (split? .element (tagged tag (before ++ ',' :: after))).isSome := by
  have hline : ∀ rest, tagged tag (before ++ ',' :: rest) =
      ('%' :: tag ++ before) ++ ',' :: rest := by
    simp [tagged]
  rw [hline, split?] at h ⊢
  exact isSome_splitFrom?_of_spaced (fun _ hq => by cases hq) hpad h

/-- The converse fails where a bracket of another kind seems to close the list. -/
example : (split? .element "%p(a]=\"1\",b: =\"2\")".toList).isSome ∧
    split? .element "%p(a]=\"1\", b: =\"2\")".toList = none := by decide

end Separator

/-- White space behind a comma of a list matters. Either the search for a separator takes the comma
for one outside of all quotes and brackets, and finds a separator behind it only as long as no white
space ends the search; or nothing stands behind the comma, nothing before it is at fault, and the
list is not malformed without the white space. -/
inductive SpaceMatters (tag before pad after : Text) : Prop
  | separator (hline : (split? .element (tagged tag (before ++ ',' :: after))).isSome)
      (hspaced : split? .element (tagged tag (before ++ ',' :: (pad ++ after))) = none)
  | emptyPiece (hline : split? .element (tagged tag (before ++ ',' :: after)) = none)
      (hempty : after.head? = some ',' ∨ after.head? = some ')')
      (hbefore : ∃ filled, AttributeList.addTo {} (before ++ [')']) tag = .ok filled)
      (hlist : AttributeList.addTo {} (before ++ ',' :: after) tag ≠
        .error (.malformedAttributes (before ++ ',' :: after)))

/-- Two lines that differ in white space behind a comma of their attribute list come to the same,
unless the white space matters: both are accepted and leave the same tree, or both are refused for
faults of the same kind. -/
theorem alike_outcome_spaced_iff (tree : Tree) {tag before pad after : Text} (hne : tag ≠ [])
    (hword : ∀ c ∈ tag, Text.isWord c) (hlist : AttributeList.Formed (before ++ ',' :: after))
    (hcomma : Even (before.count '"')) (hpad : pad ≠ []) (hblank : ∀ c ∈ pad, Text.isBlank c) :
    Alike (outcome tree (tagged tag (before ++ ',' :: after)))
        (outcome tree (tagged tag (before ++ ',' :: (pad ++ after)))) ↔
      ¬ SpaceMatters tag before pad after := by
  have hspaced := hlist.spaced hcomma hblank
  cases hsplit : split? .element (tagged tag (before ++ ',' :: after)) with
  | some found =>
    rw [outcome_of_separator hne hword hlist tree hsplit]
    cases hsplit' : split? .element (tagged tag (before ++ ',' :: (pad ++ after))) with
    | some found' =>
      rw [outcome_of_separator hne hword hspaced tree hsplit', alike_error_iff]
      refine iff_of_true rfl ?_
      rintro (⟨-, hnone⟩ | ⟨hnone, -, -, -⟩)
      · simp [hsplit'] at hnone
      · simp [hsplit] at hnone
    | none =>
      -- the line is now read with its list, and never fails for want of one
      rw [outcome_of_no_separator hne hword hspaced tree hsplit']
      refine iff_of_false ?_ (not_not.2 (.separator (by simp [hsplit]) hsplit'))
      intro halike
      cases hadd : AttributeList.addTo {} (before ++ ',' :: (pad ++ after)) tag with
      | ok attributes =>
        rw [hadd] at halike
        cases halike
      | error fault =>
        rw [hadd] at halike
        have hkind := alike_error_iff.1 halike
        rcases AttributeList.addSegments_error_cases hadd with rfl | ⟨key, rfl⟩ <;> cases hkind
  | none =>
    have hsplit' : split? .element (tagged tag (before ++ ',' :: (pad ++ after))) = none := by
      rw [← Option.not_isSome_iff_eq_none]
      intro hsome
      simpa [hsplit] using isSome_split?_of_spaced hblank hsome
    rw [outcome_of_no_separator hne hword hlist tree hsplit,
      outcome_of_no_separator hne hword hspaced tree hsplit',
      alike_map_iff (injective_create_ofElement tree tag),
      AttributeList.alike_addTo_spaced_iff hlist hcomma hpad hblank]
    apply not_congr
    constructor
    · rintro ⟨hempty, hbefore, hmalformed⟩
      exact .emptyPiece hsplit hempty hbefore hmalformed
    · rintro (⟨hsome, -⟩ | ⟨-, hempty, hbefore, hmalformed⟩)
      · simp [hsplit] at hsome
      · exact ⟨hempty, hbefore, hmalformed⟩

/-- Two spaces before an entry do not matter, though a value holds a comma and a separator. -/
theorem alike_outcome_spaced_entry :
    Alike (outcome {} "%p(a=\"x, y: z\",b=\"1\")".toList)
      (outcome {} "%p(a=\"x, y: z\",  b=\"1\")".toList) := by
  have hlist : AttributeList.Formed "(a=\"x, y: z\",b=\"1\")".toList := by
    have hsplit : AttributeList.split? "(a=\"x, y: z\",b=\"1\")".toList =
        some ("(a=\"x, y: z\",b=\"1\")".toList, []) := rfl
    exact AttributeList.formed_of_split? hsplit
  have hmatters : ¬ SpaceMatters "p".toList "(a=\"x, y: z\"".toList "  ".toList
      "b=\"1\")".toList := by
    rintro (⟨hsome, -⟩ | ⟨-, hempty, -, -⟩)
    · cases hsome
    · rcases hempty with hempty | hempty <;> cases hempty
  exact (alike_outcome_spaced_iff {} (by decide) (List.all_eq_true.1 rfl) hlist (by decide)
    (by decide) (List.all_eq_true.1 rfl)).2 hmatters

/-- A list that ends in a comma is accepted, and refused with a space behind the comma. -/
theorem space_behind_last_comma :
    AttributeList.Formed "(a=\"1\",)".toList ∧ Even ("(a=\"1\"".toList.count '"') ∧
      (∃ planted, outcome {} "%div(a=\"1\",)".toList = .ok (planted, 1)) ∧
      outcome {} "%div(a=\"1\", )".toList =
        .error (.malformedAttributes "(a=\"1\", )".toList) := by
  have hlist : AttributeList.Formed "(a=\"1\",)".toList := by
    have hsplit : AttributeList.split? "(a=\"1\",)".toList =
        some ("(a=\"1\",)".toList, []) := rfl
    exact AttributeList.formed_of_split? hsplit
  have hspaced : AttributeList.Formed "(a=\"1\", )".toList := by
    have hsplit : AttributeList.split? "(a=\"1\", )".toList =
        some ("(a=\"1\", )".toList, []) := rfl
    exact AttributeList.formed_of_split? hsplit
  have hne : "div".toList ≠ [] := by decide
  have hword : ∀ c ∈ "div".toList, Text.isWord c := List.all_eq_true.1 rfl
  refine ⟨hlist, by decide, ⟨_, outcome_of_no_separator hne hword hlist {} rfl⟩, ?_⟩
  exact outcome_of_no_separator hne hword hspaced {} rfl

end Line
end OutlineMarkup

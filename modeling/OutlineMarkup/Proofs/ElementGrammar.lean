import OutlineMarkup.Proofs.ElementText

/-! The grammar of element lines. It is said part by part, without a scan: what may stand as a tag,
as a shorthand, as an attribute list and as content. A line is cut into parts exactly when parts of
these forms make it up, and no two choices of parts make up the same line. -/
namespace OutlineMarkup.Line

/-- A mark, and then at least one character that is neither white space nor a parenthesis. -/
structure Shorthand.Formed (t : Text) : Prop where
  head : ∃ c ∈ t.head?, c = '.' ∨ c = '#'
  ne_nil : t.tail ≠ []
  body : ∀ c ∈ t.tail, Text.isBlank c = false ∧ c ≠ '(' ∧ c ≠ ')'

/-- What may stand between the parentheses of a list: strings in double quotes, and characters that
are neither double quotes nor parentheses, in any order. -/
inductive AttributeList.Body : Text → Prop
  | nil : Body []
  | plain {c : Char} {t : Text} (hc : c ≠ '(' ∧ c ≠ ')' ∧ c ≠ '"') (ht : Body t) : Body (c :: t)
  | quoted {s t : Text} (hs : '"' ∉ s) (ht : Body t) : Body ('"' :: (s ++ '"' :: t))

/-- A body between parentheses. -/
def AttributeList.Formed (t : Text) : Prop := ∃ body, Body body ∧ t = '(' :: (body ++ [')'])

/-- At least one character of white space, and then at least one character on the same line. -/
def ContentFormed (t : Text) : Prop :=
  ∃ blanks line, t = blanks ++ line ∧ blanks ≠ [] ∧ (∀ c ∈ blanks, Text.isBlank c) ∧
    line ≠ [] ∧ '\n' ∉ line

/-- Every part of a line has the form that such a part has; all but the tag may be missing. -/
structure ElementLine.Formed (line : ElementLine) : Prop where
  tag_ne_nil : line.tag ≠ []
  tag_word : ∀ c ∈ line.tag, Text.isWord c
  shorthand : ∀ t ∈ line.shorthand, Shorthand.Formed t
  attributeList : ∀ t ∈ line.attributeList, AttributeList.Formed t
  content : ∀ t ∈ line.content, ContentFormed t

namespace Shorthand

lemma isBody_iff {c : Char} :
    isBody c ↔ Text.isBlank c = false ∧ c ≠ '(' ∧ c ≠ ')' := by
  simp only [isBody, Bool.and_eq_true, bne_iff_ne, Bool.not_eq_true']
  tauto

lemma isSome_key?_iff {c : Char} : (key? c).isSome ↔ c = '.' ∨ c = '#' := by
  unfold key?
  split_ifs with hdot hhash
  · simp [hdot]
  · simp [hhash]
  · simp [hdot, hhash]

/-- What is cut off as a shorthand has its form. -/
lemma formed_of_split? {t shorthand rest : Text} (h : split? t = some (shorthand, rest)) :
    Formed shorthand := by
  unfold split? at h
  split at h
  · next c t =>
    split at h
    · next hc =>
      cases h
      rw [Bool.and_eq_true, isSome_key?_iff, Bool.not_eq_true', List.isEmpty_eq_false_iff] at hc
      exact ⟨⟨c, rfl, hc.1⟩, hc.2, fun d hd => isBody_iff.1 (List.mem_takeWhile_imp hd)⟩
    · cases h
  · cases h

/-- A shorthand is cut off as a whole where it cannot go on. -/
lemma Formed.split?_append {shorthand : Text} (h : Formed shorthand) {rest : Text}
    (hrest : ∀ c ∈ rest.head?, isBody c = false) :
    split? (shorthand ++ rest) = some (shorthand, rest) := by
  obtain ⟨c, hc, hmark⟩ := h.head
  obtain ⟨body, rfl⟩ := List.head?_eq_some_iff.1 hc
  have hbody : ∀ d ∈ body, isBody d := fun d hd => isBody_iff.2 (h.body d hd)
  have hne : body.isEmpty = false := List.isEmpty_eq_false_iff.2 h.ne_nil
  rw [List.cons_append, split?, Text.takeWhile_append_eq hbody hrest,
    Text.dropWhile_append_eq hbody hrest, isSome_key?_iff.2 hmark, hne]
  rfl

end Shorthand

namespace AttributeList

/-- What closes a list, read from inside or outside of quotes. -/
lemma body_of_close? {t list rest : Text} :
    (close? false t = some (list, rest) → ∃ body, Body body ∧ list = body ++ [')']) ∧
      (close? true t = some (list, rest) →
        ∃ s body, '"' ∉ s ∧ Body body ∧ list = s ++ '"' :: (body ++ [')'])) := by
  induction t generalizing list with
  | nil => exact ⟨fun h => (by cases h), fun h => (by cases h)⟩
  | cons c t ih =>
    constructor
    · intro h
      rw [close?] at h
      split_ifs at h with hclose hopen
      · cases h
        exact ⟨[], .nil, by rw [hclose]; rfl⟩
      · obtain ⟨⟨list', rest'⟩, hlist, he⟩ := Option.map_eq_some_iff.1 h
        cases he
        by_cases hquote : c = '"'
        · rw [hquote, beq_self_eq_true] at hlist
          obtain ⟨s, body, hs, hbody, rfl⟩ := ih.2 hlist
          exact ⟨'"' :: (s ++ '"' :: body), .quoted hs hbody, by simp [hquote]⟩
        · rw [beq_eq_false_iff_ne.2 hquote] at hlist
          obtain ⟨body, hbody, rfl⟩ := ih.1 hlist
          exact ⟨c :: body, .plain ⟨hopen, hclose, hquote⟩ hbody, rfl⟩
    · intro h
      obtain ⟨⟨list', rest'⟩, hlist, he⟩ := Option.map_eq_some_iff.1 h
      cases he
      by_cases hquote : c = '"'
      · rw [hquote, bne_self_eq_false] at hlist
        obtain ⟨body, hbody, rfl⟩ := ih.1 hlist
        exact ⟨[], body, List.not_mem_nil, hbody, by simp [hquote]⟩
      · rw [bne_iff_ne.2 hquote] at hlist
        obtain ⟨s, body, hs, hbody, rfl⟩ := ih.2 hlist
        exact ⟨c :: s, body, by simp [hs, Ne.symm hquote], hbody, rfl⟩

/-- What is cut off as an attribute list has its form. -/
lemma formed_of_split? {t list rest : Text} (h : split? t = some (list, rest)) : Formed list := by
  unfold split? at h
  split at h
  · obtain ⟨⟨list', rest'⟩, hs, he⟩ := Option.map_eq_some_iff.1 h
    cases he
    obtain ⟨body, hbody, rfl⟩ := body_of_close?.1 hs
    exact ⟨body, hbody, rfl⟩
  · cases h

/-- The first parenthesis behind a body closes the list. -/
lemma Body.close?_append {body : Text} (h : Body body) (rest : Text) :
    close? false (body ++ ')' :: rest) = some (body ++ [')'], rest) := by
  induction h with
  | nil => rfl
  | @plain c t hc ht ih =>
    have hplain : ∀ d ∈ [c], d ≠ '(' ∧ d ≠ ')' ∧ d ≠ '"' := by simpa using hc
    have hcons : (c :: t) ++ ')' :: rest = [c] ++ (t ++ ')' :: rest) := rfl
    rw [hcons, AttributeList.close?_append hplain, ih]
    rfl
  | @quoted s t hs ht ih =>
    have hopen : close? false ('"' :: (s ++ '"' :: t) ++ ')' :: rest) =
        (close? true (s ++ '"' :: (t ++ ')' :: rest))).map fun cut => ('"' :: cut.1, cut.2) := by
      simp [close?]
    rw [hopen, close?_quoted hs, ih]
    simp

/-- A list is cut off as a whole, whatever follows it. -/
lemma Formed.split?_append {list : Text} (h : Formed list) (rest : Text) :
    split? (list ++ rest) = some (list, rest) := by
  obtain ⟨body, hbody, rfl⟩ := h
  have happend : '(' :: (body ++ [')']) ++ rest = '(' :: (body ++ ')' :: rest) := by simp
  rw [happend, split?, hbody.close?_append]
  rfl

end AttributeList

lemma contentFormed_iff {t : Text} : ContentFormed t ↔ isInline t := by
  simp [ContentFormed, isInline_iff, isOneLine]

lemma ContentFormed.inline? {t : Text} (h : ContentFormed t) : Line.inline? t = some (some t) := by
  have hne : t ≠ [] := by
    obtain ⟨blanks, line, rfl, hblanks, -⟩ := h
    simp [hblanks]
  simp [Line.inline?, hne, contentFormed_iff.1 h]

namespace ElementLine

variable {line : ElementLine}

/-- An optional part is cut off where the text begins with it, and left out where the text cannot
begin with such a part. -/
lemma cut_getD {split? : Text → Option (Text × Text)} {part? : Option Text} {rest : Text}
    (hpart : ∀ part ∈ part?, split? (part ++ rest) = some (part, rest))
    (hrest : split? rest = none) : cut split? (part?.getD [] ++ rest) = (part?, rest) := by
  cases part? with
  | none => simp [cut, hrest]
  | some part => simp [cut, hpart part rfl]

lemma Formed.head_content (h : line.Formed) :
    ∀ c ∈ (line.content.getD []).head?, Text.isBlank c := by
  intro c hc
  cases hcontent : line.content with
  | none =>
    rw [hcontent] at hc
    cases hc
  | some content =>
    obtain ⟨blanks, rest, rfl, hne, hblank, -⟩ := h.content content hcontent
    obtain ⟨b, blanks, rfl⟩ := List.exists_cons_of_ne_nil hne
    rw [hcontent] at hc
    cases hc
    exact hblank c (by simp)

/-- The rest of a line, behind its shorthand, begins with a parenthesis or with white space. -/
lemma Formed.head_rest (h : line.Formed) :
    ∀ c ∈ (line.attributeList.getD [] ++ line.content.getD []).head?,
      c = '(' ∨ Text.isBlank c := by
  intro c hc
  cases hlist : line.attributeList with
  | some list =>
    obtain ⟨body, -, rfl⟩ := h.attributeList list hlist
    rw [hlist] at hc
    cases hc
    exact .inl rfl
  | none =>
    rw [hlist] at hc
    exact .inr (h.head_content c hc)

lemma Formed.cut_shorthand (h : line.Formed) :
    cut Shorthand.split? (line.shorthand.getD [] ++
        (line.attributeList.getD [] ++ line.content.getD [])) =
      (line.shorthand, line.attributeList.getD [] ++ line.content.getD []) := by
  apply cut_getD
  · intro shorthand hshorthand
    apply (h.shorthand shorthand hshorthand).split?_append
    intro c hc
    rcases h.head_rest c hc with rfl | hblank
    · rfl
    · simp [Shorthand.isBody, hblank]
  · apply Shorthand.split?_of_unmarked
    intro c hc
    rw [← Option.not_isSome_iff_eq_none, Shorthand.isSome_key?_iff]
    rintro (rfl | rfl) <;> rcases h.head_rest _ hc with hc | hc <;> cases hc

lemma Formed.cut_attributeList (h : line.Formed) :
    cut AttributeList.split? (line.attributeList.getD [] ++ line.content.getD []) =
      (line.attributeList, line.content.getD []) := by
  apply cut_getD
  · exact fun list hlist => (h.attributeList list hlist).split?_append _
  · apply AttributeList.split?_of_ne
    rintro c hc rfl
    cases h.head_content _ hc

lemma Formed.inline?_content (h : line.Formed) :
    inline? (line.content.getD []) = some line.content := by
  cases hcontent : line.content with
  | none => rfl
  | some content => exact (h.content content hcontent).inline?

/-- The tag ends where the first other part begins. -/
lemma Formed.head_behind_tag (h : line.Formed) :
    ∀ c ∈ (line.shorthand.getD [] ++
      (line.attributeList.getD [] ++ line.content.getD [])).head?, Text.isWord c = false := by
  intro c hc
  cases hshorthand : line.shorthand with
  | some shorthand =>
    obtain ⟨d, hd, hmark⟩ := (h.shorthand shorthand hshorthand).head
    obtain ⟨body, rfl⟩ := List.head?_eq_some_iff.1 hd
    rw [hshorthand] at hc
    cases hc
    rcases hmark with rfl | rfl <;> rfl
  | none =>
    rw [hshorthand] at hc
    rcases h.head_rest c hc with rfl | hblank
    · rfl
    · exact Text.isWord_eq_false_of_isBlank hblank

lemma Formed.ofTagText?_eq (h : line.Formed) :
    ofTagText? line.condensed (line.tag ++ (line.shorthand.getD [] ++
      (line.attributeList.getD [] ++ line.content.getD []))) = some line := by
  rw [ofTagText?, Text.takeWhile_append_eq h.tag_word h.head_behind_tag,
    Text.dropWhile_append_eq h.tag_word h.head_behind_tag, h.cut_shorthand,
    if_neg (by simpa using h.tag_ne_nil)]
  dsimp only
  rw [h.cut_attributeList, h.inline?_content]
  rfl

/-- A line that begins with a tag is no line of a condensed element. -/
lemma ofText?_of_word {tag : Text} (hne : tag ≠ []) (hword : ∀ c ∈ tag, Text.isWord c)
    (rest : Text) : ofText? ('%' :: (tag ++ rest)) = ofTagText? false (tag ++ rest) := by
  obtain ⟨c, tag, rfl⟩ := List.exists_cons_of_ne_nil hne
  have hdash : c ≠ '-' := by
    rintro rfl
    cases hword '-' (by simp)
  simp [ofText?, hdash]

/-- A line that is made of parts of the right form is cut into these parts. -/
theorem Formed.ofText?_toText (h : line.Formed) : ofText? line.toText = some line := by
  have hline := h.ofTagText?_eq
  unfold toText
  cases hcondensed : line.condensed with
  | true =>
    rw [hcondensed] at hline
    simpa [ofText?] using hline
  | false =>
    rw [hcondensed] at hline
    rw [← ofText?_of_word h.tag_ne_nil h.tag_word] at hline
    simpa using hline

lemma formed_of_cut {split? : Text → Option (Text × Text)} {P : Text → Prop}
    (h : ∀ {t part rest}, split? t = some (part, rest) → P part) (t : Text) :
    ∀ part ∈ (cut split? t).1, P part := by
  intro part hpart
  unfold cut at hpart
  split at hpart
  · next hs =>
    cases hpart
    exact h hs
  · cases hpart

lemma formed_of_ofTagText? {condensed : Bool} {t : Text} (h : ofTagText? condensed t = some line) :
    line.Formed := by
  unfold ofTagText? at h
  split at h
  · cases h
  · next htag =>
    obtain ⟨content, hcontent, rfl⟩ := Option.map_eq_some_iff.1 h
    constructor
    · simpa using htag
    · exact fun c hc => List.mem_takeWhile_imp hc
    · exact formed_of_cut Shorthand.formed_of_split? _
    · exact formed_of_cut AttributeList.formed_of_split? _
    · intro inline hinline
      obtain rfl : content = some inline := hinline
      unfold Line.inline? at hcontent
      split_ifs at hcontent with hempty hin
      · cases hcontent
      · rw [← Option.some.inj (Option.some.inj hcontent)]
        exact contentFormed_iff.2 hin

/-- A line is only ever cut into parts of the right form. -/
theorem formed_of_ofText? {t : Text} (h : ofText? t = some line) : line.Formed := by
  unfold ofText? at h
  split at h
  · exact formed_of_ofTagText? h
  · exact formed_of_ofTagText? h
  · cases h

/-- The parts of a line are the parts of the right form that make it up. -/
theorem ofText?_eq_some_iff {t : Text} : ofText? t = some line ↔ line.Formed ∧ line.toText = t := by
  constructor
  · exact fun h => ⟨formed_of_ofText? h, toText_of_ofText? h⟩
  · rintro ⟨hformed, rfl⟩
    exact hformed.ofText?_toText

/-- A text is an element line exactly when parts of the right form make it up; there is only one way
to make it up, and the line is cut in that way. -/
theorem unambiguous_parts (t : Text) :
    ((ofText? t).isSome ↔ ∃ parts : ElementLine, parts.Formed ∧ parts.toText = t) ∧
      (∀ first second : ElementLine, first.Formed ∧ first.toText = t →
        second.Formed ∧ second.toText = t → first = second) ∧
      ∀ parts, ofText? t = some parts ↔ parts.Formed ∧ parts.toText = t := by
  refine ⟨?_, ?_, fun parts => ofText?_eq_some_iff⟩
  · rw [Option.isSome_iff_exists]
    exact exists_congr fun parts => ofText?_eq_some_iff
  · intro first second hfirst hsecond
    have hparts : some first = some second :=
      (ofText?_eq_some_iff.2 hfirst).symm.trans (ofText?_eq_some_iff.2 hsecond)
    exact Option.some.inj hparts

end ElementLine
end OutlineMarkup.Line

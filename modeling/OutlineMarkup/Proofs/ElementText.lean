import OutlineMarkup.Line.Element
import OutlineMarkup.Proofs.LineEnds
import OutlineMarkup.Proofs.Separators

/-! Element lines as they are written. Three scans go over such a line: the search for a separator,
the cut of the line into its parts, and the cut of its attribute list into entries. Each has its own
idea of what a quote and a bracket is, and all of them find the places where the line was put
together. -/
namespace OutlineMarkup

namespace Text

section Span

variable {p : Char → Bool} {body rest : Text}

lemma takeWhile_append_eq (hbody : ∀ c ∈ body, p c) (hrest : ∀ c ∈ rest.head?, p c = false) :
    (body ++ rest).takeWhile p = body := by
  rw [List.takeWhile_append_of_pos hbody]
  cases rest with
  | nil => simp
  | cons c rest => simp [hrest c rfl]

lemma dropWhile_append_eq (hbody : ∀ c ∈ body, p c) (hrest : ∀ c ∈ rest.head?, p c = false) :
    (body ++ rest).dropWhile p = rest := by
  rw [List.dropWhile_append_of_pos hbody]
  cases rest with
  | nil => rfl
  | cons c rest => simp [hrest c rfl]

end Span

lemma isBlank_of_isWord {c : Char} (h : isWord c) : isBlank c = false := by
  by_contra hblank
  rw [isWord_eq_false_of_isBlank (by simpa using hblank)] at h
  cases h

/-- A text without white space is trimmed, also behind white space. -/
lemma trim_append_of_filled {pad t : Text} (hpad : ∀ c ∈ pad, isBlank c)
    (ht : ∀ c ∈ t, isBlank c = false) : trim (pad ++ t) = t := by
  have hstart : trimStart (pad ++ t) = t :=
    dropWhile_append_eq hpad fun c hc => ht c (List.mem_of_mem_head? hc)
  have hend : ([] ++ t.reverse).dropWhile isBlank = t.reverse :=
    dropWhile_append_eq (by simp) fun c hc =>
      ht c (List.mem_reverse.1 (List.mem_of_mem_head? hc))
  rw [trim, hstart, trimEnd, ← List.nil_append t.reverse, hend, List.reverse_reverse]

end Text

namespace Line

lemma isCalm_of_isWord {c : Char} (h : Text.isWord c) :
    Cursor.isCalm c ∧ Text.isBlank c = false :=
  ⟨Cursor.isCalm_of_class (by decide) h, Text.isBlank_of_isWord h⟩

/-- A class or an id as written after a tag: a mark and a name without white space, quotes, brackets
and marks. -/
structure Chunk where
  isId : Bool := false
  name : Text
  ne_nil : name ≠ [] := by decide
  all_calm : name.all Cursor.isCalm := by decide
  all_filled : name.all (!Text.isBlank ·) := by decide
  all_unmarked : name.all (Shorthand.key? · |>.isNone) := by decide

/-- An entry of an attribute list as written: a key without white space, quotes, brackets, commas
and equals signs, and a value without double quotes. -/
structure ListEntry where
  key : Text
  value : Text
  ne_nil : key ≠ [] := by decide
  all_calm : key.all Cursor.isCalm := by decide
  all_filled : key.all (!Text.isBlank ·) := by decide
  undivided : ',' ∉ key ∧ '=' ∉ key := by decide
  unquoted : '"' ∉ value := by decide

/-- An element line as written, without content. It may have no attribute list, or one that is
empty. -/
structure ElementText where
  condensed : Bool := false
  tag : Text
  chunks : List Chunk := []
  list? : Option (List ListEntry) := none
  ne_nil : tag ≠ [] := by decide
  all_word : tag.all Text.isWord := by decide

namespace Chunk

variable (chunk : Chunk)

lemma calm : ∀ c ∈ chunk.name, Cursor.isCalm c := List.all_eq_true.1 chunk.all_calm

lemma filled : ∀ c ∈ chunk.name, Text.isBlank c = false := by simpa using chunk.all_filled

lemma unmarked : ∀ c ∈ chunk.name, Shorthand.key? c = none := by simpa using chunk.all_unmarked

def mark : Char := if chunk.isId then '#' else '.'

def entry : Text × Text :=
  (if chunk.isId then Attributes.idKey else Attributes.classKey, chunk.name)

def toText : Text := chunk.mark :: chunk.name

lemma key?_mark : Shorthand.key? chunk.mark = some chunk.entry.1 := by
  unfold mark entry
  cases chunk.isId <;> rfl

lemma mark_cases : chunk.mark = '.' ∨ chunk.mark = '#' := by
  unfold mark
  cases chunk.isId
  · exact .inl rfl
  · exact .inr rfl

lemma isCalm_of_mem_toText :
    ∀ c ∈ chunk.toText, Cursor.isCalm c ∧ Text.isBlank c = false := by
  refine List.forall_mem_cons.2 ⟨?_, fun c hc => ⟨chunk.calm c hc, chunk.filled c hc⟩⟩
  rcases chunk.mark_cases with h | h
  · rw [h]
    exact ⟨rfl, rfl⟩
  · rw [h]
    exact ⟨rfl, rfl⟩

end Chunk

namespace ListEntry

variable (entry : ListEntry)

lemma calm : ∀ c ∈ entry.key, Cursor.isCalm c := List.all_eq_true.1 entry.all_calm

lemma filled : ∀ c ∈ entry.key, Text.isBlank c = false := by simpa using entry.all_filled

def toPair : Text × Text := (entry.key, entry.value)

def toText : Text := Attributes.renderEntry entry.toPair

lemma toText_eq : entry.toText = (entry.key ++ ['=']) ++ '"' :: (entry.value ++ ['"']) := by
  simp [toText, toPair, Attributes.renderEntry]

end ListEntry

namespace Shorthand

def written (chunks : List Chunk) : Text := chunks.flatMap Chunk.toText

@[simp] lemma written_nil : written [] = [] := rfl

@[simp] lemma written_cons (chunk : Chunk) (chunks : List Chunk) :
    written (chunk :: chunks) = chunk.mark :: (chunk.name ++ written chunks) := rfl

lemma isBody_of_isCalm {c : Char} (hcalm : Cursor.isCalm c) (hfilled : Text.isBlank c = false) :
    isBody c := by
  have hopen : c ≠ '(' := by rintro rfl; cases hcalm
  have hclose : c ≠ ')' := by rintro rfl; cases hcalm
  simp [isBody, hopen, hclose, hfilled]

lemma mem_written {chunks : List Chunk} {c : Char} (h : c ∈ written chunks) :
    Cursor.isCalm c ∧ Text.isBlank c = false := by
  obtain ⟨chunk, -, hc⟩ := List.mem_flatMap.1 h
  exact chunk.isCalm_of_mem_toText c hc

/-- Written chunks are cut off as a whole. -/
lemma split?_written {chunks : List Chunk} (hne : chunks ≠ []) {rest : Text}
    (hrest : ∀ c ∈ rest.head?, isBody c = false) :
    split? (written chunks ++ rest) = some (written chunks, rest) := by
  obtain ⟨chunk, chunks, rfl⟩ := List.exists_cons_of_ne_nil hne
  have hbody : ∀ c ∈ chunk.name ++ written chunks, isBody c := by
    intro c hc
    have hmem : c ∈ written (chunk :: chunks) := List.mem_cons_of_mem _ hc
    exact isBody_of_isCalm (mem_written hmem).1 (mem_written hmem).2
  rw [written_cons, List.cons_append, split?, Text.takeWhile_append_eq hbody hrest,
    Text.dropWhile_append_eq hbody hrest, if_pos]
  simp [chunk.key?_mark, chunk.ne_nil]

lemma split?_of_unmarked {t : Text} (h : ∀ c ∈ t.head?, key? c = none) : split? t = none := by
  cases t with
  | nil => rfl
  | cons c t => simp [split?, h c rfl]

lemma chunks_append_of_unmarked {s : Text} (h : ∀ c ∈ s, key? c = none) (t : Text) :
    Shorthand.chunks (s ++ t) = Shorthand.chunks t := by
  induction s with
  | nil => rfl
  | cons c s ih =>
    rw [List.cons_append, Shorthand.chunks, h c (by simp)]
    exact ih fun d hd => h d (by simp [hd])

/-- Written chunks are read back one by one. -/
lemma chunks_written (chunks : List Chunk) :
    Shorthand.chunks (written chunks) = chunks.map Chunk.entry := by
  induction chunks with
  | nil => rfl
  | cons chunk chunks ih =>
    have hname : (chunk.name ++ written chunks).takeWhile (fun d => (key? d).isNone) =
        chunk.name := by
      apply Text.takeWhile_append_eq
      · intro c hc
        simp [chunk.unmarked c hc]
      · intro c hc
        cases chunks with
        | nil => cases hc
        | cons next chunks =>
          cases hc
          simp [next.key?_mark]
    rw [written_cons, Shorthand.chunks, chunk.key?_mark]
    dsimp only
    rw [hname, chunks_append_of_unmarked chunk.unmarked, ih]
    rfl

lemma addChunks_map_entry (shorthand tag : Text) (attributes : Attributes) (chunks : List Chunk) :
    addChunks shorthand tag attributes (chunks.map Chunk.entry) =
      attributes.addAll tag (chunks.map Chunk.entry) := by
  induction chunks generalizing attributes with
  | nil => rfl
  | cons chunk chunks ih =>
    have hname : chunk.entry.2.isEmpty = false := by simpa [Chunk.entry] using chunk.ne_nil
    rw [List.map_cons, addChunks, hname, Attributes.addAll]
    simp only [Bool.false_eq_true, if_false]
    cases attributes.add chunk.entry.1 chunk.entry.2 tag with
    | error fault => rfl
    | ok next => exact ih next

end Shorthand

namespace AttributeList

def following (entries : List ListEntry) : Text :=
  entries.flatMap fun entry => ',' :: ' ' :: entry.toText

def written (entries : List ListEntry) : Text :=
  '(' :: List.intercalate [',', ' '] (entries.map ListEntry.toText) ++ [')']

lemma intercalate_cons (entry : ListEntry) (entries : List ListEntry) :
    List.intercalate [',', ' '] ((entry :: entries).map ListEntry.toText) =
      entry.toText ++ following entries := by
  induction entries generalizing entry with
  | nil => simp [following]
  | cons next entries ih =>
    rw [List.map_cons, List.map_cons, List.intercalate_cons_cons, ← List.map_cons, ih]
    simp [following]

section Scans

variable {s t : Text}

lemma close?_append (h : ∀ c ∈ s, c ≠ '(' ∧ c ≠ ')' ∧ c ≠ '"') :
    close? false (s ++ t) = (close? false t).map fun (list, rest) => (s ++ list, rest) := by
  induction s with
  | nil => simp
  | cons c s ih =>
    obtain ⟨hopen, hclose, hquote⟩ := h c (by simp)
    have hc : (c == '"') = false := by simpa using hquote
    rw [List.cons_append, close?, if_neg hclose, if_neg hopen, hc,
      ih fun d hd => h d (by simp [hd]), Option.map_map]
    rfl

lemma close?_quoted (h : '"' ∉ s) :
    close? true (s ++ '"' :: t) =
      (close? false t).map fun (list, rest) => (s ++ '"' :: list, rest) := by
  induction s with
  | nil => rfl
  | cons c s ih =>
    have hc : (c != '"') = true := bne_iff_ne.2 (Ne.symm (List.ne_of_not_mem_cons h))
    rw [List.cons_append, close?, hc, ih (List.not_mem_of_not_mem_cons h), Option.map_map]
    rfl

lemma parts_append (h : ∀ c ∈ s, c ≠ ',' ∧ c ≠ '"') :
    parts false (s ++ t) = (parts false t).modifyHead (s ++ ·) := by
  induction s with
  | nil =>
    rw [List.nil_append]
    cases parts false t <;> rfl
  | cons c s ih =>
    obtain ⟨hcomma, hquote⟩ := h c (by simp)
    rw [List.cons_append, parts, if_neg hcomma, if_neg hquote,
      ih fun d hd => h d (by simp [hd]), List.modifyHead_modifyHead]
    rfl

lemma parts_quoted (h : '"' ∉ s) :
    parts true (s ++ '"' :: t) = (parts false t).modifyHead (s ++ '"' :: ·) := by
  induction s with
  | nil => rfl
  | cons c s ih =>
    have hc : (c != '"') = true := bne_iff_ne.2 (Ne.symm (List.ne_of_not_mem_cons h))
    rw [List.cons_append, parts, hc, ih (List.not_mem_of_not_mem_cons h),
      List.modifyHead_modifyHead]
    rfl

end Scans

section Entries

variable (entry : ListEntry) (entries : List ListEntry) (t : Text)

lemma ne_of_mem_key {c : Char} (h : c ∈ entry.key ++ ['=']) :
    (c ≠ '(' ∧ c ≠ ')' ∧ c ≠ '"') ∧ c ≠ ',' := by
  have hcalm : Cursor.isCalm c := by
    rcases List.mem_append.1 h with hkey | heq
    · exact entry.calm c hkey
    · rw [List.mem_singleton.1 heq]
      rfl
  refine ⟨⟨?_, ?_, ?_⟩, ?_⟩
  · rintro rfl; cases hcalm
  · rintro rfl; cases hcalm
  · rintro rfl; cases hcalm
  · rintro rfl
    simpa using (List.mem_append.1 h).resolve_left entry.undivided.1

lemma close?_entry :
    close? false (entry.toText ++ t) =
      (close? false t).map fun (list, rest) => (entry.toText ++ list, rest) := by
  rw [entry.toText_eq, List.append_assoc, close?_append fun c hc => (ne_of_mem_key entry hc).1,
    List.cons_append, List.append_assoc, close?]
  simp only [Char.reduceEq, if_false, beq_self_eq_true, List.singleton_append]
  rw [close?_quoted entry.unquoted, Option.map_map, Option.map_map]
  congr 1
  funext closed
  simp

lemma parts_entry :
    parts false (entry.toText ++ t) = (parts false t).modifyHead (entry.toText ++ ·) := by
  have hplain : ∀ c ∈ entry.key ++ ['='], c ≠ ',' ∧ c ≠ '"' := fun c hc =>
    ⟨(ne_of_mem_key entry hc).2, (ne_of_mem_key entry hc).1.2.2⟩
  -- the quote before the value is closed by the one behind it
  have hclosed : (entry.value ++ '"' :: t).contains '"' := by simp
  rw [entry.toText_eq, List.append_assoc, parts_append hplain, List.cons_append,
    List.append_assoc, List.singleton_append, parts, if_neg (by decide), if_pos rfl,
    if_pos hclosed, parts_quoted entry.unquoted, List.modifyHead_modifyHead,
    List.modifyHead_modifyHead]
  congr 1
  funext list
  simp

/-- The list is closed where it was closed in writing, whatever its values hold. -/
lemma close?_following :
    close? false (following entries ++ ')' :: t) = some (following entries ++ [')'], t) := by
  induction entries with
  | nil => rfl
  | cons entry entries ih =>
    have hcomma : following (entry :: entries) ++ ')' :: t =
        [',', ' '] ++ (entry.toText ++ (following entries ++ ')' :: t)) := by
      simp [following]
    rw [hcomma, close?_append (by simp), close?_entry, ih]
    simp [following]

lemma parts_following :
    parts false (following entries) = [] :: entries.map fun entry => ' ' :: entry.toText := by
  induction entries with
  | nil => rfl
  | cons entry entries ih =>
    have hcomma : following (entry :: entries) =
        ',' :: ([' '] ++ (entry.toText ++ following entries)) := by
      simp [following]
    rw [hcomma, parts, if_pos rfl, parts_append (by simp), parts_entry, ih]
    simp

/-- A written list is cut off as a whole. -/
lemma split?_written : split? (written entries ++ t) = some (written entries, t) := by
  cases entries with
  | nil => rfl
  | cons entry entries =>
    rw [written, intercalate_cons, List.cons_append, List.cons_append, split?, List.append_assoc,
      List.append_assoc, close?_entry, List.singleton_append, close?_following]
    simp

lemma split?_of_ne {t : Text} (h : ∀ c ∈ t.head?, c ≠ '(') : split? t = none := by
  unfold split?
  split
  · exact absurd rfl (h '(' rfl)
  · rfl

/-- A written list is cut into its entries again, all but the first behind a space. -/
lemma segments_written :
    segments (inside (written (entry :: entries))) =
      entry.toText :: entries.map fun entry => ' ' :: entry.toText := by
  have hinside : inside (written (entry :: entries)) = entry.toText ++ following entries := by
    rw [written, intercalate_cons, inside, List.cons_append, List.tail_cons,
      List.dropLast_concat]
  have hne : entry.toText ≠ [] := by simp [entry.toText_eq]
  rw [segments, hinside, parts_entry, parts_following]
  simp [hne]

/-- An entry is read back, also behind white space. -/
lemma entry?_toText (pad : Text) (hpad : ∀ c ∈ pad, c = ' ') :
    entry? (pad ++ entry.toText) = some entry.toPair := by
  have hquotes : (pad ++ entry.toText).count '"' = 2 := by
    have hp : pad.count '"' = 0 := List.count_eq_zero.2 fun h => by simpa using hpad _ h
    have hk : (entry.key ++ ['=']).count '"' = 0 :=
      List.count_eq_zero.2 fun h => (ne_of_mem_key entry h).1.2.2 rfl
    have hv : entry.value.count '"' = 0 := List.count_eq_zero.2 entry.unquoted
    rw [entry.toText_eq, List.count_append, List.count_append, hp, hk, List.count_cons_self,
      List.count_append, hv]
    rfl
  have hbefore : ∀ c ∈ pad ++ entry.key, (c != '=') = true := by
    intro c hc
    rcases List.mem_append.1 hc with hp | hk
    · rw [hpad c hp]
      rfl
    · rw [bne_iff_ne]
      rintro rfl
      exact entry.undivided.2 hk
  have htext : pad ++ entry.toText =
      (pad ++ entry.key) ++ '=' :: '"' :: (entry.value ++ ['"']) := by
    simp [entry.toText_eq]
  have hdrop : (pad ++ entry.toText).dropWhile (· != '=') =
      '=' :: '"' :: (entry.value ++ ['"']) := by
    rw [htext]
    exact Text.dropWhile_append_eq hbefore (by simp)
  have htake : (pad ++ entry.toText).takeWhile (· != '=') = pad ++ entry.key := by
    rw [htext]
    exact Text.takeWhile_append_eq hbefore (by simp)
  have hkey : Text.trim (pad ++ entry.key) = entry.key :=
    Text.trim_append_of_filled (fun c hc => by rw [hpad c hc]; rfl) entry.filled
  have hvalue : Text.trim ('"' :: (entry.value ++ ['"'])) = '"' :: (entry.value ++ ['"']) := by
    have hq : Text.isBlank '"' = false := rfl
    simp [Text.trim, Text.trimStart, Text.trimEnd, hq]
  unfold entry?
  rw [if_neg (by simp [hquotes]), hdrop, htake, hkey]
  dsimp only
  rw [hvalue]
  simp [entry.ne_nil, unquote?, ListEntry.toPair]

lemma addSegments_following (list tag : Text) (attributes : Attributes) :
    addSegments list tag attributes (entries.map fun entry => ' ' :: entry.toText) =
      attributes.addAll tag (entries.map ListEntry.toPair) := by
  induction entries generalizing attributes with
  | nil => rfl
  | cons entry entries ih =>
    have hread : entry? (' ' :: entry.toText) = some entry.toPair :=
      entry?_toText entry [' '] (by simp)
    rw [List.map_cons, addSegments, hread, List.map_cons, Attributes.addAll]
    dsimp only
    cases attributes.add entry.toPair.1 entry.toPair.2 tag with
    | error fault => rfl
    | ok next => exact ih next

/-- A written list adds its entries in order. -/
lemma addTo_written (tag : Text) (attributes : Attributes) :
    addTo attributes (written entries) tag =
      attributes.addAll tag (entries.map ListEntry.toPair) := by
  cases entries with
  | nil => rfl
  | cons entry entries =>
    have hread : entry? entry.toText = some entry.toPair := entry?_toText entry [] (by simp)
    rw [addTo, segments_written, addSegments, hread, List.map_cons, Attributes.addAll]
    dsimp only
    cases attributes.add entry.toPair.1 entry.toPair.2 tag with
    | error fault => rfl
    | ok next => exact addSegments_following entries _ tag next

end Entries

end AttributeList

namespace ElementText

variable (element : ElementText) {rest : Text}

lemma word : ∀ c ∈ element.tag, Text.isWord c := List.all_eq_true.1 element.all_word

def listText : Text := element.list?.elim [] AttributeList.written

def stem : Text :=
  '%' :: (if element.condensed then ['-'] else []) ++ element.tag ++
    Shorthand.written element.chunks

def toText : Text := element.stem ++ element.listText

def parts (content : Option Text) : ElementLine where
  condensed := element.condensed
  tag := element.tag
  shorthand := if element.chunks = [] then none else some (Shorthand.written element.chunks)
  attributeList := element.list?.map AttributeList.written
  content := content

def entries : List (Text × Text) :=
  element.chunks.map Chunk.entry ++ (element.list?.getD []).map ListEntry.toPair

lemma head_listText (hrest : ∀ c ∈ rest.head?, Text.isBlank c) :
    ∀ c ∈ (element.listText ++ rest).head?, c = '(' ∨ Text.isBlank c := by
  intro c hc
  unfold listText at hc
  cases hlist : element.list? with
  | none =>
    rw [hlist] at hc
    exact .inr (hrest c hc)
  | some entries =>
    rw [hlist] at hc
    cases hc
    exact .inl rfl

lemma cut_shorthand (hrest : ∀ c ∈ rest.head?, Text.isBlank c) :
    ElementLine.cut Shorthand.split?
      (Shorthand.written element.chunks ++ (element.listText ++ rest)) =
      ((element.parts none).shorthand, element.listText ++ rest) := by
  have hhead := element.head_listText hrest
  by_cases hchunks : element.chunks = []
  · have hsplit : Shorthand.split? (element.listText ++ rest) = none := by
      apply Shorthand.split?_of_unmarked
      intro c hc
      have hdot : c ≠ '.' := by
        rintro rfl
        rcases hhead _ hc with h | h <;> cases h
      have hhash : c ≠ '#' := by
        rintro rfl
        rcases hhead _ hc with h | h <;> cases h
      simp [Shorthand.key?, hdot, hhash]
    simp [ElementLine.cut, parts, hchunks, hsplit]
  · have hbody : ∀ c ∈ (element.listText ++ rest).head?, Shorthand.isBody c = false := by
      intro c hc
      rcases hhead c hc with rfl | hblank
      · rfl
      · simp [Shorthand.isBody, hblank]
    simp [ElementLine.cut, parts, hchunks, Shorthand.split?_written hchunks hbody]

lemma cut_list (hrest : ∀ c ∈ rest.head?, Text.isBlank c) :
    ElementLine.cut AttributeList.split? (element.listText ++ rest) =
      ((element.parts none).attributeList, rest) := by
  unfold ElementLine.cut listText parts
  cases element.list? with
  | none =>
    have hsplit : AttributeList.split? rest = none := by
      apply AttributeList.split?_of_ne
      rintro c hc rfl
      cases hrest _ hc
    simp [hsplit]
  | some entries => simp [AttributeList.split?_written]

lemma ofTagText?_append (hrest : ∀ c ∈ rest.head?, Text.isBlank c) :
    ElementLine.ofTagText? element.condensed
      (element.tag ++ (Shorthand.written element.chunks ++ (element.listText ++ rest))) =
      (inline? rest).map element.parts := by
  have hnext : ∀ c ∈ (Shorthand.written element.chunks ++ (element.listText ++ rest)).head?,
      Text.isWord c = false := by
    intro c hc
    cases hchunks : element.chunks with
    | nil =>
      rw [hchunks, Shorthand.written_nil, List.nil_append] at hc
      rcases element.head_listText hrest c hc with rfl | hblank
      · rfl
      · exact Text.isWord_eq_false_of_isBlank hblank
    | cons chunk chunks =>
      rw [hchunks] at hc
      cases hc
      rcases chunk.mark_cases with h | h <;> rw [h] <;> rfl
  rw [ElementLine.ofTagText?, Text.takeWhile_append_eq element.word hnext,
    Text.dropWhile_append_eq element.word hnext, element.cut_shorthand hrest,
    if_neg (by simpa using element.ne_nil)]
  dsimp only
  rw [element.cut_list hrest]
  rfl

/-- The line is cut into the parts it was made of, with the content that follows it. -/
theorem ofText?_append (hrest : ∀ c ∈ rest.head?, Text.isBlank c) :
    ElementLine.ofText? (element.toText ++ rest) = (inline? rest).map element.parts := by
  have hline := element.ofTagText?_append hrest
  unfold toText stem
  cases hcondensed : element.condensed with
  | true =>
    rw [hcondensed] at hline
    simpa [ElementLine.ofText?] using hline
  | false =>
    rw [hcondensed] at hline
    obtain ⟨c, tag, htag⟩ := List.exists_cons_of_ne_nil element.ne_nil
    have hdash : c ≠ '-' := by
      rintro rfl
      have := element.word '-' (by simp [htag])
      cases this
    simp only [htag] at hline ⊢
    simpa [ElementLine.ofText?, hdash] using hline

end ElementText

end Line

lemma Attributes.addAll_append (attributes : Attributes) (tag : Text)
    (first second : List (Text × Text)) :
    attributes.addAll tag (first ++ second) =
      match attributes.addAll tag first with
      | .ok attributes => attributes.addAll tag second
      | .error fault => .error fault := by
  induction first generalizing attributes with
  | nil => rfl
  | cons entry first ih =>
    rw [List.cons_append, addAll, addAll]
    cases attributes.add entry.1 entry.2 tag with
    | error fault => rfl
    | ok next => exact ih next

namespace Line

namespace ElementText

variable (element : ElementText) {rest : Text}

/-- A written element gets its attributes one after another, in the order they are written. -/
theorem attributes_parts (content : Option Text) :
    (element.parts content).attributes = Attributes.addAll {} element.tag element.entries := by
  have hshorthand : (element.parts content).shorthand.elim (.ok {})
      (Shorthand.addTo {} · element.tag) =
      Attributes.addAll {} element.tag (element.chunks.map Chunk.entry) := by
    by_cases hchunks : element.chunks = []
    · simp [parts, hchunks, Attributes.addAll]
    · simp [parts, hchunks, Shorthand.addTo, Shorthand.chunks_written,
        Shorthand.addChunks_map_entry]
  rw [ElementLine.attributes, show (element.parts content).tag = element.tag from rfl, hshorthand,
    entries, Attributes.addAll_append]
  cases Attributes.addAll {} element.tag (element.chunks.map Chunk.entry) with
  | error fault => rfl
  | ok attributes =>
    unfold parts
    cases element.list? with
    | none => rfl
    | some list => exact AttributeList.addTo_written list element.tag attributes

end ElementText

section Crossing

variable {form : TagForm} {cursor : Cursor} {rest : Text}

/-- In brackets an entry is crossed, whatever its value holds. -/
lemma crosses_entry (entry : ListEntry) (hquote : cursor.quote = none)
    (hinside : cursor.isOutside = false) : Crosses form rest cursor entry.toText := by
  rw [entry.toText_eq]
  refine (crosses_of_inside ?_ hinside).append (crosses_quoted entry.unquoted hquote)
  intro c hc
  rcases List.mem_append.1 hc with h | h
  · exact Cursor.step_of_isCalm (entry.calm c h) hquote
  · rw [List.mem_singleton.1 h]
    exact Cursor.step_of_isCalm rfl hquote

lemma crosses_following (entries : List ListEntry) (hquote : cursor.quote = none)
    (hinside : cursor.isOutside = false) :
    Crosses form rest cursor (AttributeList.following entries) := by
  induction entries with
  | nil => exact ⟨rfl, rfl⟩
  | cons entry entries ih =>
    have hcomma : ∀ c ∈ [',', ' '], cursor.step c = cursor := by
      intro c hc
      refine Cursor.step_of_isCalm ?_ hquote
      rcases List.mem_pair.1 hc with rfl | rfl <;> rfl
    exact ((crosses_of_inside hcomma hinside).append (crosses_entry entry hquote hinside)).append ih

/-- An attribute list is crossed, since all of it stands in brackets. -/
lemma crosses_list (entries : List ListEntry) (depth : Nat) :
    Crosses form rest ⟨none, depth⟩ (AttributeList.written entries) := by
  apply crosses_bracketed
  have hinside : Cursor.isOutside ⟨none, depth + 1⟩ = false := rfl
  cases entries with
  | nil => exact ⟨rfl, rfl⟩
  | cons entry entries =>
    rw [AttributeList.intercalate_cons]
    exact (crosses_entry entry rfl hinside).append (crosses_following entries rfl hinside)

end Crossing

namespace ElementText

variable (element : ElementText) {form : TagForm} {rest : Text}

lemma mem_stem {c : Char} (h : c ∈ element.stem) : Cursor.isCalm c ∧ Text.isBlank c = false := by
  simp only [stem, List.cons_append, List.mem_cons, List.mem_append] at h
  rcases h with rfl | (hdash | htag) | hchunks
  · exact ⟨rfl, rfl⟩
  · cases hcondensed : element.condensed with
    | true =>
      rw [hcondensed] at hdash
      obtain rfl : c = '-' := by simpa using hdash
      exact ⟨rfl, rfl⟩
    | false => simp [hcondensed] at hdash
  · exact isCalm_of_isWord (element.word c htag)
  · exact Shorthand.mem_written hchunks

/-- The line of an element up to its list ends in a colon only when a name does. -/
lemma getLast?_stem (h : element.stem.getLast? = some ':') :
    ∃ chunk ∈ element.chunks, chunk.name.getLast? = some ':' := by
  rw [stem] at h
  rcases List.eq_nil_or_concat' element.chunks with hchunks | ⟨before, last, hchunks⟩
  · rw [hchunks, Shorthand.written_nil, List.append_nil,
      List.getLast?_append_of_ne_nil _ element.ne_nil] at h
    cases element.word ':' (List.mem_of_getLast? h)
  · have hwritten : Shorthand.written element.chunks =
        (Shorthand.written before ++ [last.mark]) ++ last.name := by
      simp [hchunks, Shorthand.written, Chunk.toText]
    rw [hwritten, ← List.append_assoc, List.getLast?_append_of_ne_nil _ last.ne_nil] at h
    exact ⟨last, by simp [hchunks], h⟩

/-- The search for a separator crosses a written element. Where its shorthand ends in a colon, no
white space may follow. -/
theorem crosses_toText
    (hend : startsBlank rest → ∀ chunk ∈ element.chunks, chunk.name.getLast? ≠ some ':') :
    Crosses form rest {} element.toText := by
  have hlist : Crosses form rest {} element.listText := by
    unfold listText
    cases element.list? with
    | none => exact ⟨rfl, rfl⟩
    | some entries => exact crosses_list entries 0
  refine Crosses.append ?_ hlist
  apply crosses_of_isCalm
  · exact fun c hc => element.mem_stem hc
  · rfl
  · intro hcolon
    obtain ⟨chunk, hmem, hlast⟩ := element.getLast?_stem hcolon
    unfold listText
    cases element.list? with
    | none =>
      by_contra hblank
      exact hend (by simpa using hblank) chunk hmem hlast
    | some entries => rfl

end ElementText
end Line
end OutlineMarkup

import Mathlib.Algebra.Ring.Parity
import OutlineMarkup.Proofs.ElementGrammar
import OutlineMarkup.Proofs.WrittenElements

/-! The entries of an attribute list. The inside of a list is cut at the commas outside its quotes,
and nothing of it is lost there. Each piece that is not empty is an entry or a fault: the entries
are added in order, and the first piece that is no entry, or whose key is taken, is reported. -/
namespace OutlineMarkup

namespace Text

lemma trim_append_of_blank {pad pad' : Text} (hpad : ∀ c ∈ pad, isBlank c)
    (hpad' : ∀ c ∈ pad', isBlank c) (t : Text) : (pad ++ (t ++ pad')).trim = t.trim := by
  rw [← trim_trimEnd, ← List.append_assoc, trimEnd_append_of_blank hpad', trim_trimEnd, trim,
    trimStart, List.dropWhile_append_of_pos hpad]
  rfl

/-- Trimming takes away white space at the ends and nothing else. -/
lemma exists_append_trim (t : Text) :
    ∃ pad pad', (∀ c ∈ pad, isBlank c) ∧ (∀ c ∈ pad', isBlank c) ∧ t = pad ++ (t.trim ++ pad') := by
  refine ⟨t.margin, (t.trimStart.reverse.takeWhile isBlank).reverse, ?_, ?_, ?_⟩
  · exact fun c hc => List.mem_takeWhile_imp hc
  · exact fun c hc => List.mem_takeWhile_imp (List.mem_reverse.1 hc)
  · rw [trim, trimEnd, ← List.reverse_append, List.takeWhile_append_dropWhile,
      List.reverse_reverse, margin_append_trimStart]

@[simp] lemma trim_trim (t : Text) : t.trim.trim = t.trim := by
  obtain ⟨pad, pad', hpad, hpad', ht⟩ := exists_append_trim t
  conv_rhs => rw [ht, trim_append_of_blank hpad hpad']

lemma trimStart_of_trim {t : Text} (h : t.trim = t) : t.trimStart = t := by
  have hmargin := margin_trim t
  rw [h] at hmargin
  conv_rhs => rw [← margin_append_trimStart t, hmargin]
  rfl

lemma quote_notMem_of_blank {t : Text} (h : ∀ c ∈ t, isBlank c) : '"' ∉ t := by
  intro hmem
  cases h _ hmem

lemma trim_quoted (t : Text) : trim ('"' :: (t ++ ['"'])) = '"' :: (t ++ ['"']) := by
  have hq : isBlank '"' = false := rfl
  simp [trim, trimStart, trimEnd, hq]

end Text

namespace Attributes

/-- Whether a key is taken: it is there already or was given earlier, and is not `class`. -/
def Taken (attributes : Attributes) (earlier : List Text) (key : Text) : Prop :=
  key ≠ classKey ∧ ((attributes.get? key).isSome ∨ key ∈ earlier)

/-- No key of a list is taken when its turn comes. -/
def Untaken (attributes : Attributes) (keys : List Text) : Prop :=
  ∀ earlier key later, keys = earlier ++ key :: later → ¬ attributes.Taken earlier key

variable {attributes filled : Attributes} {tag : Text} {entries : List (Text × Text)}

@[simp] lemma add_trim (attributes : Attributes) (key value tag : Text) :
    attributes.add key value.trim tag = attributes.add key value tag := by
  simp only [add, Text.trim_trim]

/-- After several additions the keys are those that were there and those that were added. -/
lemma isSome_get?_of_addAll (h : attributes.addAll tag entries = .ok filled) (key : Text) :
    (filled.get? key).isSome ↔ (attributes.get? key).isSome ∨ key ∈ entries.map Prod.fst := by
  induction entries generalizing attributes with
  | nil =>
    cases h
    simp
  | cons entry rest ih =>
    rw [addAll] at h
    split at h
    · next next hadd =>
      rw [ih h, isSome_get?_of_add hadd, List.map_cons, List.mem_cons]
      tauto
    · cases h

/-- Several values can be added exactly when no key is taken. -/
theorem exists_addAll_iff :
    (∃ filled, attributes.addAll tag entries = .ok filled) ↔
      attributes.Untaken (entries.map Prod.fst) := by
  induction entries generalizing attributes with
  | nil => simp [addAll, Untaken]
  | cons entry rest ih =>
    obtain ⟨key, value⟩ := entry
    rw [addAll, List.map_cons]
    cases hadd : attributes.add key value tag with
    | error fault =>
      obtain ⟨hthere, hclass, -⟩ := add_eq_error_iff.1 hadd
      simp only [reduceCtorEq, exists_false, false_iff]
      exact fun h => h [] key _ rfl ⟨hclass, .inl hthere⟩
    | ok next =>
      have htaken : ∀ earlier other,
          next.Taken earlier other ↔ attributes.Taken (key :: earlier) other := by
        intro earlier other
        rw [Taken, Taken, isSome_get?_of_add hadd, List.mem_cons]
        tauto
      have hkey : ¬ attributes.Taken [] key := by
        rintro ⟨hclass, hthere⟩
        have hrefused : attributes.add key value tag = .error (.duplicateAttribute key tag) :=
          add_eq_error_iff.2 ⟨by simpa using hthere, hclass, rfl⟩
        rw [hadd] at hrefused
        cases hrefused
      rw [ih]
      constructor
      · intro h earlier other later hkeys
        cases earlier with
        | nil =>
          cases hkeys
          exact hkey
        | cons first earlier =>
          obtain ⟨rfl, hrest⟩ := List.cons.inj hkeys
          exact fun ht => h earlier other later hrest ((htaken _ _).2 ht)
      · intro h earlier other later hkeys ht
        exact h (key :: earlier) other later (by rw [hkeys]; rfl) ((htaken _ _).1 ht)

end Attributes

namespace Line.AttributeList

/-- A piece that no comma divides: its double quotes are closed, and each of its commas stands
inside of them. -/
structure Undivided (piece : Text) : Prop where
  closed : Even (piece.count '"')
  quoted : ∀ before after, piece = before ++ ',' :: after → Odd (before.count '"')

/-- The pieces of a text between its commas outside double quotes. -/
structure Pieces (t : Text) (pieces : List Text) : Prop where
  ne_nil : pieces ≠ []
  joined : List.intercalate [','] pieces = t
  undivided : ∀ piece ∈ pieces, Undivided piece

lemma undivided_nil : Undivided [] := ⟨⟨0, rfl⟩, by simp⟩

lemma undivided_singleton {c : Char} (hcomma : c ≠ ',') (hquote : c ≠ '"') : Undivided [c] := by
  refine ⟨by simp [hquote], ?_⟩
  intro before after h
  have hmem : ',' ∈ [c] := by simp [h]
  exact absurd (List.mem_singleton.1 hmem).symm hcomma

/-- A string in double quotes is not divided, whatever it holds. -/
lemma undivided_quoted {s : Text} (hs : '"' ∉ s) : Undivided ('"' :: (s ++ ['"'])) := by
  have hcount : s.count '"' = 0 := List.count_eq_zero.2 hs
  refine ⟨⟨1, by simp [hcount]⟩, ?_⟩
  intro before after h
  cases before with
  | nil => cases h
  | cons c before =>
    obtain ⟨rfl, htail⟩ := List.cons.inj h
    -- the closing quote stands behind the comma, so none but the opening one is before it
    have hclosing : '"' ∈ after := by
      have hlast := congrArg List.getLast? htail
      rw [List.getLast?_concat, List.append_eq, List.getLast?_append_of_ne_nil _ (by simp),
        List.getLast?_cons] at hlast
      cases hafter : after.getLast? with
      | none =>
        rw [hafter] at hlast
        cases hlast
      | some d =>
        rw [hafter] at hlast
        cases hlast
        exact List.mem_of_getLast? hafter
    have hquotes := congrArg (List.count '"') htail
    have hpos : 0 < after.count '"' := List.count_pos_iff.2 hclosing
    simp only [List.append_eq, List.count_append, List.count_cons, hcount] at hquotes
    have hbefore : before.count '"' = 0 := by
      simp at hquotes
      omega
    simp [hbefore]

lemma Undivided.append {s t : Text} (hs : Undivided s) (ht : Undivided t) :
    Undivided (s ++ t) := by
  refine ⟨by rw [List.count_append]; exact hs.closed.add ht.closed, ?_⟩
  intro before after h
  rcases List.append_eq_append_iff.1 h with ⟨mid, rfl, rfl⟩ | ⟨mid, rfl, hmid⟩
  · rw [List.count_append]
    exact hs.closed.add_odd (ht.quoted mid after rfl)
  · cases mid with
    | nil =>
      obtain rfl : t = ',' :: after := hmid.symm
      simpa using ht.quoted [] after rfl
    | cons c mid =>
      cases hmid
      exact hs.quoted before mid rfl

lemma Pieces.comma {t : Text} {pieces : List Text} (h : Pieces t pieces) :
    Pieces (',' :: t) ([] :: pieces) := by
  obtain ⟨piece, rest, rfl⟩ := List.exists_cons_of_ne_nil h.ne_nil
  refine ⟨by simp, ?_, ?_⟩
  · rw [List.intercalate_cons_cons, h.joined]
    rfl
  · simpa [undivided_nil] using h.undivided

lemma Pieces.append {s t : Text} {pieces : List Text} (hs : Undivided s) (h : Pieces t pieces) :
    Pieces (s ++ t) (pieces.modifyHead (s ++ ·)) := by
  obtain ⟨piece, rest, rfl⟩ := List.exists_cons_of_ne_nil h.ne_nil
  obtain ⟨hpiece, hrest⟩ := List.forall_mem_cons.1 h.undivided
  refine ⟨by simp, ?_, List.forall_mem_cons.2 ⟨hs.append hpiece, hrest⟩⟩
  have hjoined := h.joined
  cases rest with
  | nil => simpa using hjoined
  | cons next rest =>
    rw [List.intercalate_cons_cons] at hjoined
    rw [List.modifyHead_cons, List.intercalate_cons_cons, List.append_assoc, List.append_assoc,
      ← List.append_assoc piece, hjoined]

/-- A string in double quotes belongs to the part it begins. -/
lemma parts_string {s t : Text} (hs : '"' ∉ s) :
    parts false ('"' :: (s ++ '"' :: t)) =
      (parts false t).modifyHead ('"' :: (s ++ ['"']) ++ ·) := by
  have hclosed : (s ++ '"' :: t).contains '"' := by simp
  rw [parts, if_neg (by decide), if_pos rfl, if_pos hclosed, parts_quoted hs,
    List.modifyHead_modifyHead]
  congr 1
  funext rest
  simp

lemma parts_cons {c : Char} {t : Text} (hcomma : c ≠ ',') (hquote : c ≠ '"') :
    parts false (c :: t) = (parts false t).modifyHead ([c] ++ ·) := by
  rw [parts, if_neg hcomma, if_neg hquote]
  rfl

/-- The inside of a list is cut at exactly the commas outside double quotes. -/
lemma Body.pieces {t : Text} (h : Body t) : Pieces t (parts false t) := by
  induction h with
  | nil => exact ⟨by simp [parts], rfl, by simpa [parts] using undivided_nil⟩
  | @plain c t hc ht ih =>
    by_cases hcomma : c = ','
    · rw [hcomma, parts, if_pos rfl]
      exact ih.comma
    · rw [parts_cons hcomma hc.2.2]
      exact ih.append (undivided_singleton hcomma hc.2.2)
  | @quoted s t hs ht ih =>
    have htext : '"' :: (s ++ '"' :: t) = '"' :: (s ++ ['"']) ++ t := by simp
    rw [parts_string hs, htext]
    exact ih.append (undivided_quoted hs)

/-- Two undivided pieces that stand before a comma of the same text are the same. -/
lemma Undivided.eq_of_append {first second rest rest' : Text} (hfirst : Undivided first)
    (hsecond : Undivided second) (h : first ++ ',' :: rest = second ++ ',' :: rest') :
    first = second := by
  -- otherwise the longer one holds a comma behind all of the shorter one
  rcases List.append_eq_append_iff.1 h with ⟨mid, rfl, hmid⟩ | ⟨mid, rfl, hmid⟩
  · cases mid with
    | nil => simp
    | cons c mid =>
      cases hmid
      exact absurd hfirst.closed (Nat.not_even_iff_odd.2 (hsecond.quoted first mid rfl))
  · cases mid with
    | nil => simp
    | cons c mid =>
      cases hmid
      exact absurd hsecond.closed (Nat.not_even_iff_odd.2 (hfirst.quoted second mid rfl))

/-- A text has only one choice of pieces. -/
lemma Pieces.unique {t : Text} {first second : List Text} (hfirst : Pieces t first)
    (hsecond : Pieces t second) : first = second := by
  obtain ⟨hne, hjoined, hundivided⟩ := hfirst
  obtain ⟨hne', hjoined', hundivided'⟩ := hsecond
  induction first generalizing t second with
  | nil => exact absurd rfl hne
  | cons piece rest ih =>
    obtain ⟨piece', rest', rfl⟩ := List.exists_cons_of_ne_nil hne'
    obtain ⟨hpiece, hrest⟩ := List.forall_mem_cons.1 hundivided
    obtain ⟨hpiece', hrest'⟩ := List.forall_mem_cons.1 hundivided'
    cases rest with
    | nil =>
      rw [List.intercalate_singleton] at hjoined
      cases rest' with
      | nil => rw [hjoined, ← hjoined', List.intercalate_singleton]
      | cons next rest' =>
        rw [List.intercalate_cons_cons, List.append_assoc, ← hjoined] at hjoined'
        exact absurd hpiece'.closed (Nat.not_even_iff_odd.2 (hpiece.quoted _ _ hjoined'.symm))
    | cons next rest =>
      rw [List.intercalate_cons_cons, List.append_assoc] at hjoined
      cases rest' with
      | nil =>
        rw [List.intercalate_singleton, ← hjoined] at hjoined'
        exact absurd hpiece.closed (Nat.not_even_iff_odd.2 (hpiece'.quoted _ _ hjoined'))
      | cons next' rest' =>
        rw [List.intercalate_cons_cons, List.append_assoc] at hjoined'
        have hboth := hjoined.trans hjoined'.symm
        obtain rfl := hpiece.eq_of_append hpiece' hboth
        have htail := List.cons.inj (List.append_cancel_left hboth)
        rw [ih (by simp) rfl hrest (by simp) htail.2.symm hrest']

/-- What a segment says when it is written as an entry: a key, the first equals sign, and a value
between the only two double quotes, with nothing but white space before and behind the quotes. Key
and value are trimmed, and the key is not empty. -/
inductive Gives : Text → Text × Text → Prop
  | entry {key gap value rest : Text} (hequals : '=' ∉ key) (hkey : '"' ∉ key)
      (hne : key.trim ≠ []) (hgap : ∀ c ∈ gap, Text.isBlank c) (hvalue : '"' ∉ value)
      (hrest : ∀ c ∈ rest, Text.isBlank c) :
      Gives (key ++ '=' :: (gap ++ '"' :: (value ++ '"' :: rest))) (key.trim, value.trim)

lemma unquote?_eq_some_iff {t value : Text} :
    unquote? t = some value ↔ t = '"' :: (value ++ ['"']) := by
  unfold unquote?
  split
  · next t =>
    rw [List.cons.injEq, and_iff_right rfl]
    constructor
    · intro h
      split_ifs at h with hlast
      cases h
      rw [List.dropLast_append_getLast? '"' hlast]
    · rintro rfl
      simp
  · next hne =>
    simp only [reduceCtorEq, false_iff]
    rintro rfl
    exact hne _ rfl

/-- The quotes around a value, found behind white space. -/
lemma unquote?_trim_eq_some_iff {t value : Text} :
    unquote? t.trim = some value ↔
      ∃ gap rest, (∀ c ∈ gap, Text.isBlank c) ∧ (∀ c ∈ rest, Text.isBlank c) ∧
        t = gap ++ '"' :: (value ++ '"' :: rest) := by
  rw [unquote?_eq_some_iff]
  constructor
  · intro h
    obtain ⟨gap, rest, hgap, hrest, ht⟩ := Text.exists_append_trim t
    exact ⟨gap, rest, hgap, hrest, by rw [ht, h]; simp⟩
  · rintro ⟨gap, rest, hgap, hrest, rfl⟩
    have htext : gap ++ '"' :: (value ++ '"' :: rest) =
        gap ++ ('"' :: (value ++ ['"']) ++ rest) := by simp
    rw [htext, Text.trim_append_of_blank hgap hrest, Text.trim_quoted]

lemma entry?_of_gives {segment : Text} {entry : Text × Text} (h : Gives segment entry) :
    ∃ value, entry? segment = some (entry.1, value) ∧ entry.2 = value.trim := by
  obtain ⟨hequals, hkey, hne, hgap, hvalue, hrest⟩ := h
  next key gap value rest =>
  refine ⟨value, ?_, rfl⟩
  have hbefore : ∀ c ∈ key, (c != '=') = true := by
    intro c hc
    rw [bne_iff_ne]
    rintro rfl
    exact hequals hc
  have hquotes : (key ++ '=' :: (gap ++ '"' :: (value ++ '"' :: rest))).count '"' = 2 := by
    have hk := List.count_eq_zero.2 hkey
    have hg := List.count_eq_zero.2 (Text.quote_notMem_of_blank hgap)
    have hv := List.count_eq_zero.2 hvalue
    have hr := List.count_eq_zero.2 (Text.quote_notMem_of_blank hrest)
    simp [hk, hg, hv, hr]
  have hunquote : unquote? (Text.trim (gap ++ '"' :: (value ++ '"' :: rest))) = some value :=
    unquote?_trim_eq_some_iff.2 ⟨gap, rest, hgap, hrest, rfl⟩
  unfold entry?
  rw [if_neg (by simp [hquotes]), Text.dropWhile_append_eq hbefore (by simp),
    Text.takeWhile_append_eq hbefore (by simp)]
  simp [hne, hunquote]

lemma gives_of_entry?_eq_some {segment key value : Text} (h : entry? segment = some (key, value)) :
    Gives segment (key, value.trim) := by
  unfold entry? at h
  split at h
  · cases h
  · next hquotes =>
    split at h
    · cases h
    · next c behind hdrop =>
      dsimp only at h
      split at h
      · cases h
      · next hne =>
        obtain ⟨value', hvalue, he⟩ := Option.map_eq_some_iff.1 h
        cases he
        obtain ⟨gap, rest, hgap, hrest, rfl⟩ := unquote?_trim_eq_some_iff.1 hvalue
        obtain rfl : c = '=' := by
          have hc := List.head?_dropWhile_not (· != '=') segment
          rw [hdrop] at hc
          simpa using hc
        have hsegment := List.takeWhile_append_dropWhile (p := (· != '=')) (l := segment)
        have hequals : '=' ∉ segment.takeWhile (· != '=') := by
          intro hmem
          simpa using List.mem_takeWhile_imp hmem
        rw [hdrop] at hsegment
        generalize segment.takeWhile (· != '=') = key at hsegment hequals hne ⊢
        subst hsegment
        -- both quotes are those around the value, so there is none in it or before it
        have hg := List.count_eq_zero.2 (Text.quote_notMem_of_blank hgap)
        have hr := List.count_eq_zero.2 (Text.quote_notMem_of_blank hrest)
        simp [hg, hr] at hquotes
        refine .entry hequals ?_ (by simpa using hne) hgap ?_ hrest
        · rw [← List.count_eq_zero]
          omega
        · rw [← List.count_eq_zero]
          omega

lemma entry?_eq_none_iff {segment : Text} :
    entry? segment = none ↔ ∀ entry, ¬ Gives segment entry := by
  constructor
  · intro h entry hgives
    obtain ⟨value, hread, -⟩ := entry?_of_gives hgives
    rw [h] at hread
    cases hread
  · intro h
    rw [Option.eq_none_iff_forall_ne_some]
    rintro ⟨key, value⟩ hread
    exact h _ (gives_of_entry?_eq_some hread)

section Segments

variable {list tag : Text} {attributes filled : Attributes} {segments : List Text}
  {entries : List (Text × Text)} {fault : Fault}

/-- Segments that are entries are added in order. -/
lemma addSegments_eq_addAll (h : List.Forall₂ Gives segments entries) (attributes : Attributes) :
    addSegments list tag attributes segments = attributes.addAll tag entries := by
  induction h generalizing attributes with
  | nil => rfl
  | @cons segment entry segments entries hgives _ ih =>
    obtain ⟨value, hread, hvalue⟩ := entry?_of_gives hgives
    rw [addSegments, hread, Attributes.addAll, hvalue, Attributes.add_trim]
    dsimp only
    cases attributes.add entry.1 value tag with
    | error fault => rfl
    | ok next => exact ih next

/-- Nothing is refused only when all segments are entries that can be added. -/
lemma addSegments_eq_ok_iff :
    addSegments list tag attributes segments = .ok filled ↔
      ∃ entries, List.Forall₂ Gives segments entries ∧
        attributes.addAll tag entries = .ok filled := by
  constructor
  · intro h
    have hentries : ∃ entries, List.Forall₂ Gives segments entries := by
      induction segments generalizing attributes with
      | nil => exact ⟨[], .nil⟩
      | cons segment rest ih =>
        rw [addSegments] at h
        split at h
        · cases h
        · next key value hread =>
          split at h
          · obtain ⟨entries, hentries⟩ := ih h
            exact ⟨_, .cons (gives_of_entry?_eq_some hread) hentries⟩
          · cases h
    obtain ⟨entries, hentries⟩ := hentries
    exact ⟨entries, hentries, by rw [← addSegments_eq_addAll hentries, h]⟩
  · rintro ⟨entries, hentries, hadd⟩
    rw [addSegments_eq_addAll hentries, hadd]

/-- Why a segment is refused behind those that were added under the given keys: it is no entry, or
its key is taken. -/
inductive Offends (attributes : Attributes) (list tag : Text) (earlier : List Text)
    (segment : Text) : Fault → Prop
  | malformed (h : ∀ entry, ¬ Gives segment entry) :
      Offends attributes list tag earlier segment (.malformedAttributes list)
  | taken {key value : Text} (h : Gives segment (key, value))
      (htaken : attributes.Taken earlier key) :
      Offends attributes list tag earlier segment (.duplicateAttribute key tag)

/-- Behind entries that were added, a segment is refused exactly when it offends. -/
lemma offends_iff (hadd : attributes.addAll tag entries = .ok filled)
    {segment : Text} :
    Offends attributes list tag (entries.map Prod.fst) segment fault ↔
      addSegments list tag filled [segment] = .error fault := by
  have htaken : ∀ key, attributes.Taken (entries.map Prod.fst) key ↔
      (filled.get? key).isSome ∧ key ≠ Attributes.classKey := by
    intro key
    rw [Attributes.isSome_get?_of_addAll hadd, Attributes.Taken, and_comm]
  rw [addSegments]
  constructor
  · rintro (h | ⟨h, hkey⟩)
    · rw [entry?_eq_none_iff.2 h]
    · next key value =>
      obtain ⟨raw, hread, -⟩ := entry?_of_gives h
      obtain ⟨hthere, hclass⟩ := (htaken key).1 hkey
      have hrefused : filled.add key raw tag = .error (.duplicateAttribute key tag) :=
        Attributes.add_eq_error_iff.2 ⟨hthere, hclass, rfl⟩
      simp only [hread, hrefused]
  · intro h
    split at h
    · next hread =>
      cases h
      exact .malformed (entry?_eq_none_iff.1 hread)
    · next key value hread =>
      split at h
      · cases h
      · next refused =>
        cases h
        obtain ⟨hthere, hclass, rfl⟩ := Attributes.add_eq_error_iff.1 refused
        exact .taken (gives_of_entry?_eq_some hread) ((htaken key).2 ⟨hthere, hclass⟩)

lemma addSegments_append (first second : List Text) :
    addSegments list tag attributes (first ++ second) =
      match addSegments list tag attributes first with
      | .ok attributes => addSegments list tag attributes second
      | .error fault => .error fault := by
  induction first generalizing attributes with
  | nil => rfl
  | cons segment first ih =>
    rw [List.cons_append, addSegments, addSegments]
    cases entry? segment with
    | none => rfl
    | some entry =>
      dsimp only
      cases attributes.add entry.1 entry.2 tag with
      | error fault => rfl
      | ok next => exact ih

/-- A fault is the one of the first segment that is refused. -/
lemma addSegments_eq_error_iff :
    addSegments list tag attributes segments = .error fault ↔
      ∃ before segment after filled, segments = before ++ segment :: after ∧
        addSegments list tag attributes before = .ok filled ∧
        addSegments list tag filled [segment] = .error fault := by
  constructor
  · intro h
    induction segments generalizing attributes with
    | nil => cases h
    | cons segment rest ih =>
      rw [← List.singleton_append, addSegments_append] at h
      cases hfirst : addSegments list tag attributes [segment] with
      | error first =>
        rw [hfirst] at h
        cases h
        exact ⟨[], segment, rest, attributes, rfl, rfl, hfirst⟩
      | ok next =>
        rw [hfirst] at h
        obtain ⟨before, refused, after, filled, rfl, hbefore, hrefused⟩ := ih h
        refine ⟨segment :: before, refused, after, filled, rfl, ?_, hrefused⟩
        rw [← List.singleton_append, addSegments_append, hfirst]
        exact hbefore
  · rintro ⟨before, segment, after, filled, rfl, hbefore, hsegment⟩
    rw [addSegments_append, hbefore]
    dsimp only
    rw [← List.singleton_append, addSegments_append, hsegment]

end Segments

/-- How a list is read, given its segments. It is accepted exactly when all of them are entries and
no key is taken, and its entries are then added in order. Otherwise the fault is the one of the
first segment that offends. -/
structure ReadInOrder (attributes : Attributes) (list tag : Text) (segments : List Text) :
    Prop where
  accepted_iff : (∃ filled, addTo attributes list tag = .ok filled) ↔
    ∃ entries, List.Forall₂ Gives segments entries ∧ attributes.Untaken (entries.map Prod.fst)
  eq_addAll : ∀ entries, List.Forall₂ Gives segments entries →
    addTo attributes list tag = attributes.addAll tag entries
  refused_iff : ∀ fault, addTo attributes list tag = .error fault ↔
    ∃ before segment after entries, segments = before ++ segment :: after ∧
      List.Forall₂ Gives before entries ∧ attributes.Untaken (entries.map Prod.fst) ∧
      Offends attributes list tag (entries.map Prod.fst) segment fault

/-- Every list is read in the order of its segments. -/
lemma readInOrder (attributes : Attributes) (list tag : Text) :
    ReadInOrder attributes list tag (segments (inside list)) where
  accepted_iff := by
    simp only [addTo, addSegments_eq_ok_iff]
    constructor
    · rintro ⟨filled, entries, hentries, hadd⟩
      exact ⟨entries, hentries, Attributes.exists_addAll_iff.1 ⟨filled, hadd⟩⟩
    · rintro ⟨entries, hentries, huntaken⟩
      obtain ⟨filled, hadd⟩ := Attributes.exists_addAll_iff.2 huntaken
      exact ⟨filled, entries, hentries, hadd⟩
  eq_addAll := fun _ hentries => addSegments_eq_addAll hentries attributes
  refused_iff := by
    intro fault
    rw [addTo, addSegments_eq_error_iff]
    constructor
    · rintro ⟨before, segment, after, filled, hsegments, hbefore, hrefused⟩
      obtain ⟨entries, hentries, hadd⟩ := addSegments_eq_ok_iff.1 hbefore
      exact ⟨before, segment, after, entries, hsegments, hentries,
        Attributes.exists_addAll_iff.1 ⟨filled, hadd⟩,
        (offends_iff hadd).2 hrefused⟩
    · rintro ⟨before, segment, after, entries, hsegments, hentries, huntaken, hoffends⟩
      obtain ⟨filled, hadd⟩ := Attributes.exists_addAll_iff.2 huntaken
      exact ⟨before, segment, after, filled, hsegments,
        addSegments_eq_ok_iff.2 ⟨entries, hentries, hadd⟩,
        (offends_iff hadd).1 hoffends⟩

lemma inside_eq (body : Text) : inside ('(' :: (body ++ [')'])) = body := by
  simp [inside]

lemma Formed.pieces_inside {list : Text} (h : Formed list) :
    Pieces (inside list) (parts false (inside list)) := by
  obtain ⟨body, hbody, rfl⟩ := h
  rw [inside_eq]
  exact hbody.pieces

/-- The attribute list of a line has one cut into pieces at the commas outside its double quotes.
Its segments are the pieces that are not empty, and the list is read in their order. -/
theorem addTo_attributeList {line list : Text} {parts : ElementLine}
    (hparts : ElementLine.ofText? line = some parts) (hlist : parts.attributeList = some list)
    (attributes : Attributes) (tag : Text) :
    (∃! pieces, Pieces (inside list) pieces) ∧
      ∀ pieces, Pieces (inside list) pieces →
        segments (inside list) = pieces.filter (· ≠ []) ∧
          ReadInOrder attributes list tag (pieces.filter (· ≠ [])) := by
  have hformed : Formed list := (ElementLine.formed_of_ofText? hparts).attributeList list hlist
  have hpieces := hformed.pieces_inside
  refine ⟨⟨_, hpieces, fun other hother => hother.unique hpieces⟩, ?_⟩
  intro pieces hother
  have hsegments : segments (inside list) = pieces.filter (· ≠ []) := by
    rw [hother.unique hpieces, segments]
    congr 1
    funext piece
    cases piece <;> rfl
  exact ⟨hsegments, hsegments ▸ readInOrder attributes list tag⟩

/-- Commas in a value do not divide the list, and nothing is said between two commas. -/
theorem addTo_attributeList_past_empty_piece :
    ∃ parts, ElementLine.ofText? "%p(a=\"x, y\",, class = \" b \" )".toList = some parts ∧
      parts.attributeList = some "(a=\"x, y\",, class = \" b \" )".toList ∧
      (∃ pieces, Pieces "a=\"x, y\",, class = \" b \" ".toList pieces ∧
        pieces.filter (· ≠ []) = ["a=\"x, y\"".toList, " class = \" b \" ".toList] ∧
        ReadInOrder {} "(a=\"x, y\",, class = \" b \" )".toList "p".toList
          (pieces.filter (· ≠ []))) ∧
      addTo {} "(a=\"x, y\",, class = \" b \" )".toList "p".toList =
        .ok ⟨[("a".toList, "x, y".toList), ("class".toList, "b".toList)]⟩ := by
  have hparts : ElementLine.ofText? "%p(a=\"x, y\",, class = \" b \" )".toList =
      some { tag := "p".toList
             attributeList := some "(a=\"x, y\",, class = \" b \" )".toList } := rfl
  refine ⟨_, hparts, rfl, ?_, rfl⟩
  obtain ⟨⟨pieces, hpieces, -⟩, hread⟩ := addTo_attributeList hparts rfl {} "p".toList
  obtain ⟨hsegments, hinOrder⟩ := hread pieces hpieces
  exact ⟨pieces, hpieces, hsegments.symm, hinOrder⟩

end Line.AttributeList
end OutlineMarkup

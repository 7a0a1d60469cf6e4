import OutlineMarkup.Proofs.ElementText

/-! Where the separator of a line is. The search for it keeps a quote and a number of open brackets,
and a closing bracket that closes nothing leaves that number at zero. What the search takes for a
place outside quotes and brackets is said here by a grammar that has no such state: the text before
the place is made of parts that are closed again, with any brackets left over that close nothing.
The separator is then the first colon before white space that stands at such a place. -/
namespace OutlineMarkup.Line

/-- Whatever a text opens it closes again: it is made of plain characters, of quotations and of
texts in brackets, whatever brackets these are. With `stray`, brackets that close nothing may stand
between these parts, though not inside of brackets. -/
inductive Balanced : (stray : Bool) → Text → Prop
  | nil {stray : Bool} : Balanced stray []
  | plain {stray : Bool} {c : Char} {t : Text} (hc : Cursor.isCalm c) (ht : Balanced stray t) :
      Balanced stray (c :: t)
  | quoted {stray : Bool} {quote : Char} {s t : Text} (hquote : Cursor.isQuote quote)
      (hs : quote ∉ s) (ht : Balanced stray t) : Balanced stray (quote :: (s ++ quote :: t))
  | bracketed {stray : Bool} {opening closing : Char} {s t : Text}
      (hopening : Cursor.opens opening) (hs : Balanced false s) (hclosing : Cursor.closes closing)
      (ht : Balanced stray t) : Balanced stray (opening :: (s ++ closing :: t))
  | stray {c : Char} {t : Text} (hc : Cursor.closes c) (ht : Balanced true t) :
      Balanced true (c :: t)

/-- What stands behind a text is outside its quotes and brackets. -/
abbrev EndsOutside (t : Text) : Prop := Balanced true t

namespace Cursor

lemma step_of_isQuote {c : Char} (h : isQuote c) (depth : Nat) :
    step ⟨none, depth⟩ c = ⟨some c, depth⟩ := by
  simp [step, h]

lemma step_of_opens {c : Char} (h : opens c) (depth : Nat) :
    step ⟨none, depth⟩ c = ⟨none, depth + 1⟩ := by
  have hquote : isQuote c = false := by
    simp only [opens, Bool.or_eq_true, beq_iff_eq] at h
    rcases h with (rfl | rfl) | rfl <;> rfl
  simp [step, h, hquote]

lemma step_of_closes {c : Char} (h : closes c) (depth : Nat) :
    step ⟨none, depth⟩ c = ⟨none, depth - 1⟩ := by
  have hother : isQuote c = false ∧ opens c = false := by
    simp only [closes, Bool.or_eq_true, beq_iff_eq] at h
    rcases h with (rfl | rfl) | rfl <;> exact ⟨rfl, rfl⟩
  simp [step, h, hother]

lemma char_cases (c : Char) : isCalm c ∨ isQuote c ∨ opens c ∨ closes c := by
  simp only [isCalm]
  cases isQuote c <;> cases opens c <;> cases closes c <;> simp

/-- A balanced text leaves the cursor where it was. One with stray brackets does so outside of all
brackets. -/
lemma along_of_balanced {stray : Bool} {t : Text} (h : Balanced stray t) {depth : Nat}
    (hdepth : stray → depth = 0) : along ⟨none, depth⟩ t = ⟨none, depth⟩ := by
  induction h generalizing depth with
  | nil => rfl
  | plain hc _ ih => rw [along_cons, step_of_isCalm hc rfl, ih hdepth]
  | @quoted _ quote s t hquote hs _ ih =>
    have hinside : along ⟨some quote, depth⟩ s = ⟨some quote, depth⟩ := by
      apply along_eq_self
      intro c hc
      apply step_of_ne_quote rfl
      rintro rfl
      exact hs hc
    have hclose : step ⟨some quote, depth⟩ quote = ⟨none, depth⟩ := by simp [step]
    rw [along_cons, step_of_isQuote hquote, along_append, hinside, along_cons, hclose, ih hdepth]
  | bracketed hopening _ hclosing _ ihs iht =>
    rw [along_cons, step_of_opens hopening, along_append, ihs (by simp), along_cons,
      step_of_closes hclosing, Nat.add_sub_cancel, iht hdepth]
  | stray hc _ ih =>
    obtain rfl := hdepth rfl
    rw [along_cons, step_of_closes hc, Nat.zero_sub, ih fun _ => rfl]

/-- A cursor that comes out of a quote has met that quote again. -/
lemma exists_of_along_quote {quote : Char} {depth : Nat} {t : Text} {cursor : Cursor}
    (h : along ⟨some quote, depth⟩ t = cursor) (hout : cursor.quote = none) :
    ∃ s rest, t = s ++ quote :: rest ∧ quote ∉ s ∧ along ⟨none, depth⟩ rest = cursor := by
  induction t with
  | nil =>
    subst h
    cases hout
  | cons c t ih =>
    by_cases hc : c = quote
    · subst hc
      have hclose : step ⟨some c, depth⟩ c = ⟨none, depth⟩ := by simp [step]
      rw [along_cons, hclose] at h
      exact ⟨[], t, rfl, by simp, h⟩
    · rw [along_cons, step_of_ne_quote rfl hc] at h
      obtain ⟨s, rest, rfl, hs, hrest⟩ := ih h
      exact ⟨c :: s, rest, rfl, by simp [hs, Ne.symm hc], hrest⟩

/-- A cursor that comes out of all brackets has met the end of the innermost one first. -/
lemma exists_of_along_depth {depth : Nat} {t : Text} (h : along ⟨none, depth + 1⟩ t = {}) :
    ∃ s closing rest, t = s ++ closing :: rest ∧ Balanced false s ∧ closes closing ∧
      along ⟨none, depth⟩ rest = {} := by
  -- a bracket opened in between is closed first, and the search goes on behind it
  induction hn : t.length using Nat.strong_induction_on generalizing depth t with
  | _ n ih =>
    cases t with
    | nil => cases h
    | cons c t =>
      subst hn
      rw [along_cons] at h
      rcases char_cases c with hc | hc | hc | hc
      · rw [step_of_isCalm hc rfl] at h
        obtain ⟨s, closing, rest, rfl, hs, hclosing, hrest⟩ := ih _ (by simp) h rfl
        exact ⟨c :: s, closing, rest, rfl, .plain hc hs, hclosing, hrest⟩
      · rw [step_of_isQuote hc] at h
        obtain ⟨inside, behind, rfl, hinside, h⟩ := exists_of_along_quote h rfl
        obtain ⟨s, closing, rest, rfl, hs, hclosing, hrest⟩ := ih _ (by simp; omega) h rfl
        exact ⟨c :: (inside ++ c :: s), closing, rest, by simp, .quoted hc hinside hs, hclosing,
          hrest⟩
      · rw [step_of_opens hc] at h
        obtain ⟨inside, close, behind, rfl, hinside, hclose, h⟩ := ih _ (by simp) h rfl
        obtain ⟨s, closing, rest, rfl, hs, hclosing, hrest⟩ := ih _ (by simp; omega) h rfl
        exact ⟨c :: (inside ++ close :: s), closing, rest, by simp,
          .bracketed hc hinside hclose hs, hclosing, hrest⟩
      · rw [step_of_closes hc, Nat.add_sub_cancel] at h
        exact ⟨[], c, t, rfl, .nil, hc, h⟩

lemma balanced_of_along {t : Text} (h : along {} t = {}) : Balanced true t := by
  induction hn : t.length using Nat.strong_induction_on generalizing t with
  | _ n ih =>
    cases t with
    | nil => exact .nil
    | cons c t =>
      subst hn
      rw [along_cons] at h
      rcases char_cases c with hc | hc | hc | hc
      · rw [step_of_isCalm hc rfl] at h
        exact .plain hc (ih _ (by simp) h rfl)
      · rw [step_of_isQuote hc] at h
        obtain ⟨inside, rest, rfl, hinside, hrest⟩ := exists_of_along_quote h rfl
        exact .quoted hc hinside (ih _ (by simp; omega) hrest rfl)
      · rw [step_of_opens hc] at h
        obtain ⟨inside, closing, rest, rfl, hinside, hclosing, hrest⟩ := exists_of_along_depth h
        exact .bracketed hc hinside hclosing (ih _ (by simp; omega) hrest rfl)
      · rw [step_of_closes hc, Nat.zero_sub] at h
        exact .stray hc (ih _ (by simp) h rfl)

/-- The cursor is outside behind a text exactly when the text closes whatever it opens. -/
theorem isOutside_along_iff {t : Text} : (along {} t).isOutside ↔ EndsOutside t := by
  constructor
  · intro h
    exact balanced_of_along (eq_start_of_isOutside h)
  · intro h
    rw [along_of_balanced h fun _ => rfl]
    rfl

end Cursor

/-- A colon divides a line into a tag and what is nested in it: white space follows the colon and
belongs to neither, the colon stands outside quotes and brackets, and it is the first such colon. In
an element line it also comes before all white space that stands outside. -/
structure FirstSeparator (form : TagForm) (line tag rest : Text) : Prop where
  line_eq : ∃ blank, line = tag ++ ':' :: (blank ++ rest) ∧ blank ≠ [] ∧
    ∀ c ∈ blank, Text.isBlank c
  rest_filled : startsBlank rest = false
  outside : EndsOutside tag
  first : ∀ before after, line = before ++ ':' :: after → EndsOutside before → startsBlank after →
    tag.length ≤ before.length
  before_blank : form = .element → ∀ before c after, line = before ++ c :: after →
    EndsOutside before → Text.isBlank c → tag.length < before.length

/-- A search passes over a text when it ends at none of its characters. -/
lemma passes_iff {form : TagForm} {rest : Text} {cursor : Cursor} {t : Text} :
    passes form rest cursor t ↔ ∀ before c after, t = before ++ c :: after →
      endsAt form (cursor.along before) c (after ++ rest) = false := by
  induction t generalizing cursor with
  | nil => simp [passes]
  | cons d t ih =>
    rw [passes, Bool.and_eq_true, Bool.not_eq_true', ih]
    constructor
    · rintro ⟨hd, ht⟩ before c after heq
      cases before with
      | nil =>
        cases heq
        exact hd
      | cons b before =>
        cases heq
        exact ht before c after rfl
    · intro h
      refine ⟨h [] d t rfl, fun before c after heq => ?_⟩
      exact h (d :: before) c after (by rw [heq]; rfl)

/-- A place before a colon lies in the text before that colon. -/
lemma exists_of_length_lt {before after tag behind : Text} {c d : Char}
    (h : before ++ c :: after = tag ++ d :: behind) (hlt : before.length < tag.length) :
    ∃ between, tag = before ++ c :: between ∧ after = between ++ d :: behind := by
  rcases List.append_eq_append_iff.1 h with ⟨between, rfl, heq⟩ | ⟨between, rfl, -⟩
  · cases between with
    | nil => simp at hlt
    | cons e between =>
      cases heq
      exact ⟨between, rfl, rfl⟩
  · rw [List.length_append] at hlt
    omega

lemma startsBlank_trimStart (t : Text) : startsBlank (Text.trimStart t) = false := by
  cases h : Text.trimStart t with
  | nil => rfl
  | cons c rest => simpa [startsBlank] using Text.isBlank_of_trimStart h

/-- What a search finds is the first separator. -/
lemma firstSeparator_of_split? {form : TagForm} {line tag rest : Text}
    (h : split? form line = some (tag, rest)) : FirstSeparator form line tag rest := by
  obtain ⟨behind, hline, hbehind, rfl, hout, hpasses⟩ := eq_of_splitFrom? h
  rw [passes_iff] at hpasses
  constructor
  case line_eq =>
    refine ⟨Text.margin behind, ?_, ?_, ?_⟩
    · rw [Text.margin_append_trimStart, hline]
    · cases behind with
      | nil => cases hbehind
      | cons c behind =>
        have hc : Text.isBlank c := by simpa [startsBlank] using hbehind
        rw [Text.margin, List.takeWhile_cons_of_pos hc]
        simp
    · intro c hc
      exact List.mem_takeWhile_imp hc
  case rest_filled => exact startsBlank_trimStart behind
  case outside => exact Cursor.isOutside_along_iff.1 hout
  case first =>
    intro before after heq hbefore hafter
    by_contra hlt
    obtain ⟨between, htag, rfl⟩ := exists_of_length_lt (heq.symm.trans hline) (by omega)
    have hends := hpasses before ':' between htag
    rw [endsAt, Cursor.isOutside_along_iff.2 hbefore, hafter] at hends
    cases hends
  case before_blank =>
    rintro rfl before c after heq hbefore hc
    have hcolon : before.length ≠ tag.length := by
      intro hlength
      obtain ⟨-, hcons⟩ := List.append_inj (heq.symm.trans hline) hlength
      obtain ⟨rfl, -⟩ := List.cons.inj hcons
      cases hc
    by_contra hlt
    obtain ⟨between, htag, rfl⟩ := exists_of_length_lt (heq.symm.trans hline) (by omega)
    have hends := hpasses before c between htag
    rw [endsAt, Cursor.isOutside_along_iff.2 hbefore, hc] at hends
    simp [TagForm.stopsAtBlank] at hends

/-- The first separator is found by the search. -/
lemma FirstSeparator.split?_eq {form : TagForm} {line tag rest : Text}
    (h : FirstSeparator form line tag rest) : split? form line = some (tag, rest) := by
  obtain ⟨blank, hline, hne, hblank⟩ := h.line_eq
  have hbehind : startsBlank (blank ++ rest) := by
    cases blank with
    | nil => exact absurd rfl hne
    | cons c blank => simpa [startsBlank] using hblank c (by simp)
  have hpasses : passes form (':' :: (blank ++ rest)) {} tag := by
    rw [passes_iff]
    intro before c after htag
    have heq : line = before ++ c :: (after ++ ':' :: (blank ++ rest)) := by
      rw [hline, htag]
      simp
    have hlt : before.length < tag.length := by
      rw [htag]
      simp
    by_contra hends
    simp only [Bool.not_eq_false, endsAt, Bool.and_eq_true, Bool.or_eq_true, beq_iff_eq] at hends
    obtain ⟨hout, ⟨rfl, hafter⟩ | ⟨hstops, hc⟩⟩ := hends
    · have := h.first before _ heq (Cursor.isOutside_along_iff.1 hout) hafter
      omega
    · cases form with
      | control => cases hstops
      | element =>
        have := h.before_blank rfl before c _ heq (Cursor.isOutside_along_iff.1 hout) hc
        omega
  have hrest : ∀ c ∈ rest.head?, Text.isBlank c = false := by
    intro c hc
    have hfilled := h.rest_filled
    rwa [startsBlank, Option.mem_def.1 hc] at hfilled
  have htrim : Text.trimStart (blank ++ rest) = rest := Text.dropWhile_append_eq hblank hrest
  rw [split?, hline, splitFrom?_append hpasses,
    splitFrom?_separator (Cursor.isOutside_along_iff.2 h.outside) hbehind, htrim]
  simp

/-- A search splits a line at its first separator, and finds it whenever there is one. -/
theorem split?_eq_some_iff_firstSeparator {form : TagForm} {line tag rest : Text} :
    split? form line = some (tag, rest) ↔ FirstSeparator form line tag rest :=
  ⟨firstSeparator_of_split?, FirstSeparator.split?_eq⟩

/-- A bracket that closes nothing does not hide a colon, and one that is never closed hides all
colons behind it. -/
example : split? .control "-a ) b: c".toList = some ("-a ) b".toList, "c".toList) ∧
    split? .control "-a ( b: c".toList = none := by decide

end OutlineMarkup.Line

import Mathlib.Tactic.Common
import OutlineMarkup.Line.Nesting

/-! The search for a separator, part by part. A search that passes over a text goes on behind it
from wherever the text leaves its cursor; it ends at the first colon before white space that stands
outside quotes and brackets, or, in an element line, at the first white space that does. -/
namespace OutlineMarkup.Line

namespace Cursor

def along (cursor : Cursor) (t : Text) : Cursor := t.foldl step cursor

@[simp] lemma along_nil (cursor : Cursor) : cursor.along [] = cursor := rfl

@[simp] lemma along_cons (cursor : Cursor) (c : Char) (t : Text) :
    cursor.along (c :: t) = (cursor.step c).along t := rfl

@[simp] lemma along_append (cursor : Cursor) (s t : Text) :
    cursor.along (s ++ t) = (cursor.along s).along t := List.foldl_append

/-- A character that is neither a quote nor a bracket. -/
def isCalm (c : Char) : Bool := !isQuote c && !opens c && !closes c

/-- A class of characters is calm when it holds neither quotes nor brackets. -/
lemma isCalm_of_class {p : Char → Bool}
    (hp : ['"', '\'', '(', '[', '{', ')', ']', '}'].all (!p ·)) {c : Char} (h : p c) :
    isCalm c := by
  by_contra hc
  have hmem : c ∈ ['"', '\'', '(', '[', '{', ')', ']', '}'] := by
    simp only [isCalm, isQuote, opens, closes] at hc
    simp only [List.mem_cons, List.not_mem_nil, or_false]
    grind
  have hc := List.all_eq_true.1 hp c hmem
  rw [h] at hc
  cases hc

lemma step_of_isCalm {c : Char} (h : isCalm c) {cursor : Cursor} (hquote : cursor.quote = none) :
    cursor.step c = cursor := by
  simp only [isCalm, Bool.and_eq_true, Bool.not_eq_eq_eq_not, Bool.not_true] at h
  simp [step, hquote, h]

lemma isCalm_of_isBlank {c : Char} (h : Text.isBlank c) : isCalm c := isCalm_of_class (by decide) h

lemma step_of_ne_quote {c quote : Char} {cursor : Cursor} (hquote : cursor.quote = some quote)
    (h : c ≠ quote) : cursor.step c = cursor := by
  simp [step, hquote, h]

/-- A cursor that no character moves stays where it is. -/
lemma along_eq_self {cursor : Cursor} {t : Text} (h : ∀ c ∈ t, cursor.step c = cursor) :
    cursor.along t = cursor := by
  induction t with
  | nil => rfl
  | cons c t ih =>
    rw [along_cons, h c (by simp), ih fun d hd => h d (by simp [hd])]

lemma isOutside_start : ({} : Cursor).isOutside := rfl

lemma eq_start_of_isOutside {cursor : Cursor} (h : cursor.isOutside) : cursor = {} := by
  obtain ⟨quote, depth⟩ := cursor
  simpa [isOutside] using h

/-- A cursor is only ever inside of a quote. -/
lemma isQuote_of_quote_step {cursor : Cursor} (h : ∀ q, cursor.quote = some q → isQuote q)
    (c q : Char) (hq : (cursor.step c).quote = some q) : isQuote q := by
  unfold step at hq
  split at hq
  · split at hq
    · cases hq
    · exact h q hq
  · next hnone =>
    split_ifs at hq with hc
    · cases hq
      exact hc
    · simp [hnone] at hq
    · simp [hnone] at hq
    · simp [hnone] at hq

lemma isQuote_of_quote_along {cursor : Cursor} (h : ∀ q, cursor.quote = some q → isQuote q)
    (t : Text) (q : Char) (hq : (cursor.along t).quote = some q) : isQuote q := by
  induction t generalizing cursor with
  | nil => exact h q hq
  | cons c t ih => exact ih (isQuote_of_quote_step h c) hq

/-- White space moves no cursor. -/
lemma step_of_isBlank {cursor : Cursor} (hquote : ∀ q, cursor.quote = some q → isQuote q)
    {c : Char} (h : Text.isBlank c) : cursor.step c = cursor := by
  cases hq : cursor.quote with
  | none => exact step_of_isCalm (isCalm_of_isBlank h) hq
  | some q =>
    apply step_of_ne_quote hq
    rintro rfl
    have hcalm := isCalm_of_isBlank h
    rw [isCalm, hquote c hq] at hcalm
    cases hcalm

end Cursor

/-- Whether a search ends at a character before the rest of the line: at a separator, or at white
space that ends the search. -/
def endsAt (form : TagForm) (cursor : Cursor) (c : Char) (rest : Text) : Bool :=
  cursor.isOutside && (c == ':' && startsBlank rest || form.stopsAtBlank && Text.isBlank c)

/-- Whether a search passes over a text before the rest of the line, and ends at none of its
characters. -/
def passes (form : TagForm) (rest : Text) : Cursor → Text → Bool
  | _, [] => true
  | cursor, c :: t => !endsAt form cursor c (t ++ rest) && passes form rest (cursor.step c) t

section Passes

variable {form : TagForm} {cursor : Cursor} {c : Char} {s t rest : Text}

lemma endsAt_eq_false (hcolon : c ≠ ':') (hfilled : Text.isBlank c = false) :
    endsAt form cursor c rest = false := by
  simp [endsAt, hcolon, hfilled]

lemma splitFrom?_cons (h : endsAt form cursor c t = false) :
    splitFrom? form cursor (c :: t) =
      (splitFrom? form (cursor.step c) t).map fun (head, inner) => (c :: head, inner) := by
  cases hout : cursor.isOutside with
  | false => simp [splitFrom?, hout]
  | true =>
    simp only [endsAt, hout, Bool.true_and, Bool.or_eq_false_iff] at h
    simp [splitFrom?, hout, h]

/-- A colon before white space, outside quotes and brackets, is a separator. -/
lemma splitFrom?_separator (hout : cursor.isOutside) (hblank : startsBlank rest) :
    splitFrom? form cursor (':' :: rest) = some ([], Text.trimStart rest) := by
  simp [splitFrom?, hout, hblank]

/-- In an element line, white space outside quotes and brackets ends the search. -/
lemma splitFrom?_blank (hout : cursor.isOutside) (hblank : Text.isBlank c) :
    splitFrom? .element cursor (c :: rest) = none := by
  have hc : c ≠ ':' := by
    rintro rfl
    cases hblank
  simp [splitFrom?, hout, hblank, hc, TagForm.stopsAtBlank]

/-- Behind a text that is passed over, the search goes on from where the text leaves its cursor. -/
theorem splitFrom?_append (h : passes form rest cursor t) :
    splitFrom? form cursor (t ++ rest) =
      (splitFrom? form (cursor.along t) rest).map fun (head, inner) => (t ++ head, inner) := by
  induction t generalizing cursor with
  | nil => simp
  | cons c t ih =>
    rw [passes, Bool.and_eq_true, Bool.not_eq_true'] at h
    obtain ⟨hc, ht⟩ := h
    rw [List.cons_append, splitFrom?_cons hc, ih ht, Option.map_map]
    rfl

/-- What a search has found: a separator outside quotes and brackets, behind a text that it has
passed over. -/
theorem eq_of_splitFrom? {line head inner : Text}
    (h : splitFrom? form cursor line = some (head, inner)) :
    ∃ blank, line = head ++ ':' :: blank ∧ startsBlank blank ∧ inner = Text.trimStart blank ∧
      (cursor.along head).isOutside ∧ passes form (':' :: blank) cursor head := by
  induction line generalizing cursor head with
  | nil => cases h
  | cons c t ih =>
    by_cases hends : endsAt form cursor c t
    · simp only [endsAt, Bool.and_eq_true, Bool.or_eq_true, beq_iff_eq] at hends
      rcases hends with ⟨hout, ⟨rfl, hblank⟩ | ⟨hstop, hblank⟩⟩
      · rw [splitFrom?_separator hout hblank] at h
        cases h
        exact ⟨t, rfl, hblank, rfl, hout, rfl⟩
      · cases form with
        | control => cases hstop
        | element =>
          rw [splitFrom?_blank hout hblank] at h
          cases h
    · rw [splitFrom?_cons (by simpa using hends)] at h
      obtain ⟨⟨head', inner'⟩, hs, he⟩ := Option.map_eq_some_iff.1 h
      cases he
      obtain ⟨blank, rfl, hblank, rfl, hout, hpasses⟩ := ih hs
      refine ⟨blank, rfl, hblank, rfl, hout, ?_⟩
      rw [passes, hpasses, Bool.and_true, Bool.not_eq_true']
      simpa using hends

lemma passes_append : passes form rest cursor (s ++ t) =
    (passes form (t ++ rest) cursor s && passes form rest (cursor.along s) t) := by
  induction s generalizing cursor with
  | nil => simp [passes]
  | cons c s ih =>
    rw [List.cons_append, passes, ih, passes, Cursor.along_cons, List.append_assoc, Bool.and_assoc]

/-- In a control line, a search that finds nothing has passed over everything, unless the line ends
in a colon that white space follows. -/
lemma passes_of_splitFrom?_eq_none (h : splitFrom? .control cursor t = none)
    (hend : t.getLast? = some ':' → startsBlank rest = false) : passes .control rest cursor t := by
  induction t generalizing cursor with
  | nil => rfl
  | cons c t ih =>
    have hends : endsAt .control cursor c t = false := by
      by_contra hc
      simp only [endsAt, TagForm.stopsAtBlank, Bool.false_and, Bool.or_false,
        Bool.not_eq_false, Bool.and_eq_true, beq_iff_eq] at hc
      obtain ⟨hout, rfl, hstart⟩ := hc
      rw [splitFrom?_separator hout hstart] at h
      cases h
    have hpast : endsAt .control cursor c (t ++ rest) = false := by
      cases t with
      | nil =>
        have hc : c = ':' → startsBlank rest = false := by
          rintro rfl
          exact hend rfl
        simpa [endsAt, TagForm.stopsAtBlank] using fun _ => hc
      | cons d t => exact hends
    have hlast : t.getLast? = some ':' → startsBlank rest = false := by
      intro hlast
      apply hend
      rw [List.getLast?_cons, hlast]
      rfl
    rw [splitFrom?_cons hends, Option.map_eq_none_iff] at h
    rw [passes, hpast, ih h hlast]
    rfl

/-- In a control line there is no separator exactly when no colon outside quotes and brackets has
white space behind it. -/
lemma split?_control_eq_none_iff : split? .control t = none ↔
    ∀ before after, t = before ++ ':' :: after → (Cursor.along {} before).isOutside →
      startsBlank after = false := by
  constructor
  · rintro h before after rfl hout
    have hpasses : passes .control [] {} (before ++ ':' :: after) :=
      passes_of_splitFrom?_eq_none h fun _ => rfl
    rw [passes_append, Bool.and_eq_true, passes, Bool.and_eq_true, endsAt, hout] at hpasses
    simpa [TagForm.stopsAtBlank] using hpasses.2.1
  · intro h
    rw [Option.eq_none_iff_forall_ne_some]
    rintro ⟨text, inner⟩ hsplit
    obtain ⟨blank, hline, hblank, -, hout, -⟩ := eq_of_splitFrom? hsplit
    rw [h text blank hline hout] at hblank
    cases hblank

/-- A text is crossed when the search passes over it and leaves the cursor where it was. -/
def Crosses (form : TagForm) (rest : Text) (cursor : Cursor) (t : Text) : Prop :=
  passes form rest cursor t ∧ cursor.along t = cursor

lemma Crosses.append (hs : Crosses form (t ++ rest) cursor s) (ht : Crosses form rest cursor t) :
    Crosses form rest cursor (s ++ t) := by
  constructor
  · rw [passes_append, hs.1, hs.2, ht.1]
    rfl
  · rw [Cursor.along_append, hs.2, ht.2]

/-- Inside quotes or brackets, what does not move the cursor is crossed. -/
lemma crosses_of_inside (h : ∀ c ∈ t, cursor.step c = cursor)
    (hinside : cursor.isOutside = false) : Crosses form rest cursor t := by
  refine ⟨?_, Cursor.along_eq_self h⟩
  induction t with
  | nil => rfl
  | cons c t ih =>
    rw [passes, endsAt, hinside, h c (by simp), ih fun d hd => h d (by simp [hd])]
    rfl

/-- A text without white space, quotes and brackets is crossed, unless it ends in a colon that white
space follows. -/
lemma crosses_of_isCalm (h : ∀ c ∈ t, Cursor.isCalm c ∧ Text.isBlank c = false)
    (hquote : cursor.quote = none) (hend : t.getLast? = some ':' → startsBlank rest = false) :
    Crosses form rest cursor t := by
  refine ⟨?_, Cursor.along_eq_self fun c hc => Cursor.step_of_isCalm (h c hc).1 hquote⟩
  induction t with
  | nil => rfl
  | cons c t ih =>
    obtain ⟨hcalm, hfilled⟩ := h c (by simp)
    -- a colon that is not the last character has one behind it that is not white space
    have hc : c = ':' → startsBlank (t ++ rest) = false := by
      rintro rfl
      cases t with
      | nil => exact hend rfl
      | cons d t => simp [startsBlank, (h d (by simp)).2]
    have ht : passes form rest cursor t := by
      apply ih fun d hd => h d (by simp [hd])
      intro hlast
      apply hend
      rw [List.getLast?_cons, hlast]
      rfl
    rw [passes, Cursor.step_of_isCalm hcalm hquote, ht, Bool.and_true, Bool.not_eq_true']
    by_cases hcolon : c = ':'
    · simp [endsAt, hc hcolon, hfilled]
    · exact endsAt_eq_false hcolon hfilled

/-- A text between double quotes is crossed, whatever else it holds. -/
lemma crosses_quoted (h : '"' ∉ t) (hquote : cursor.quote = none) :
    Crosses form rest cursor ('"' :: (t ++ ['"'])) := by
  obtain ⟨quote, depth⟩ := cursor
  cases hquote
  have hopen : Cursor.step ⟨none, depth⟩ '"' = ⟨some '"', depth⟩ := rfl
  have hinside : Crosses form ('"' :: rest) ⟨some '"', depth⟩ t := by
    apply crosses_of_inside
    · intro c hc
      apply Cursor.step_of_ne_quote rfl
      rintro rfl
      exact h hc
    · rfl
  constructor
  · rw [passes, endsAt_eq_false (by decide) rfl, hopen, passes_append, List.singleton_append,
      hinside.1, hinside.2]
    rfl
  · rw [Cursor.along_cons, hopen, Cursor.along_append, hinside.2]
    rfl

/-- A text between parentheses is crossed when it is crossed in there. -/
lemma crosses_bracketed {depth : Nat} (h : Crosses form (')' :: rest) ⟨none, depth + 1⟩ t) :
    Crosses form rest ⟨none, depth⟩ ('(' :: (t ++ [')'])) := by
  have hopen : Cursor.step ⟨none, depth⟩ '(' = ⟨none, depth + 1⟩ := rfl
  constructor
  · rw [passes, endsAt_eq_false (by decide) rfl, hopen, passes_append, List.singleton_append,
      h.1, h.2]
    rfl
  · rw [Cursor.along_cons, hopen, Cursor.along_append, h.2]
    rfl

/-- Behind a text that is crossed, a separator is found. -/
lemma Crosses.split?_separator (h : Crosses form (':' :: rest) {} t) (hblank : startsBlank rest) :
    split? form (t ++ ':' :: rest) = some (t, Text.trimStart rest) := by
  rw [split?, splitFrom?_append h.1, h.2, splitFrom?_separator Cursor.isOutside_start hblank]
  simp

/-- In a text that is crossed as a whole there is no separator. -/
lemma Crosses.split?_eq_none (h : Crosses form [] {} t) : split? form t = none := by
  rw [split?, ← List.append_nil t, splitFrom?_append h.1]
  rfl

end Passes

end OutlineMarkup.Line

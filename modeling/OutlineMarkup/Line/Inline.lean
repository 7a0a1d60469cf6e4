import OutlineMarkup.Text.Word

/-! What may follow a tag on its line: nothing, or white space and then something on the same
line. -/
namespace OutlineMarkup.Line

def isOneLine (t : Text) : Bool := !t.isEmpty && !t.contains '\n'

/-- Whether a text is white space followed by one line; that line may be white space too. -/
def isInline : Text → Bool
  | [] => false
  | c :: t => Text.isBlank c && (isOneLine t || isInline t)

/-- The text after a tag and what belongs to it, if it may stand there. -/
def inline? (rest : Text) : Option (Option Text) :=
  if rest.isEmpty then some none else if isInline rest then some (some rest) else none

/-- The text after a tag is not lost. -/
theorem getD_of_inline? {rest : Text} {inline : Option Text} (h : inline? rest = some inline) :
    inline.getD [] = rest := by
  unfold inline? at h
  split at h
  · cases h
    simp_all
  · split at h <;> cases h
    rfl

/-- Inline text is white space and then one line. -/
theorem isInline_iff {t : Text} :
    isInline t ↔ ∃ blanks line, t = blanks ++ line ∧ blanks ≠ [] ∧
      (∀ c ∈ blanks, Text.isBlank c) ∧ isOneLine line := by
  induction t with
  | nil => simp [isInline, isOneLine]
  | cons c t ih =>
    simp only [isInline, Bool.and_eq_true, Bool.or_eq_true, ih]
    constructor
    · rintro ⟨hc, h | ⟨blanks, line, rfl, _, hb, hl⟩⟩
      · exact ⟨[c], t, rfl, by simp, by simpa using hc, h⟩
      · exact ⟨c :: blanks, line, rfl, by simp, by simpa using ⟨hc, hb⟩, hl⟩
    · rintro ⟨blanks, line, ht, hn, hb, hl⟩
      cases blanks with
      | nil => exact absurd rfl hn
      | cons b blanks =>
        obtain ⟨rfl, rfl⟩ := List.cons.inj ht
        refine ⟨hb _ (by simp), ?_⟩
        cases blanks with
        | nil => exact .inl hl
        | cons d blanks =>
          exact .inr ⟨d :: blanks, line, rfl, by simp, fun x hx => hb x (by simp_all), hl⟩

def contentOf (inline : Option Text) : Text := (inline.getD []).trim

end OutlineMarkup.Line

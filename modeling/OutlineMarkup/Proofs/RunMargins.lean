import OutlineMarkup.Indentation
import OutlineMarkup.Proofs.LineEnds

/-! The margin of a run of continued lines. The logical line of a run has the margin of the line
that the run begins with, as long as that line says something. A first line with nothing but its
margin and the backslash loses the margin: what is left is one space for every line that says
nothing. -/
namespace OutlineMarkup

namespace Text

/-- What stands behind a text that is not blank does not reach its margin. -/
lemma margin_append {t : Text} (h : t.trim ≠ []) (rest : Text) : (t ++ rest).margin = t.margin := by
  rw [margin, List.takeWhile_append, if_neg, margin]
  intro hlength
  have hall := List.takeWhile_eq_self_iff.1 ((List.takeWhile_prefix isBlank).eq_of_length hlength)
  exact h (trim_eq_nil_iff.2 hall)

lemma margin_trimEnd {t : Text} (h : t.trim ≠ []) : t.trimEnd.margin = t.margin := by
  have hsplit : t.trimEnd ++ t.rtakeWhile isBlank = t := List.rdropWhile_append_rtakeWhile
  rw [← margin_append (by rwa [trim_trimEnd]) (t.rtakeWhile isBlank), hsplit]

end Text

lemma indentation_congr {line other : Text} (h : line.margin = other.margin) :
    indentation line = indentation other := by
  rw [indentation, h, indentation]

lemma indentation_of_spaces {line : Text} {n : Nat} (h : line.margin = List.replicate n ' ') :
    indentation line = .ok n := by
  rw [indentation, h, if_neg, List.length_replicate]
  simp [List.mem_replicate]

namespace Source

open Text

/-- A line that begins with a reference begins with a hash, and then with a brace. -/
lemma exists_of_reference?_eq_some {t body rest : Text} (h : reference? t = some (body, rest)) :
    (∃ other, t = '#' :: other) ∧ ∃ other, expand t = '{' :: other := by
  rw [expand, pieces_of_reference?_eq_some h, eq_of_reference? h]
  exact ⟨⟨_, rfl⟩, _, rfl⟩

lemma expand_cons_of_reference?_eq_none {c : Char} {t : Text} (h : reference? (c :: t) = none) :
    expand (c :: t) = c :: expand t := by
  rw [expand, pieces_of_reference?_eq_none h, List.flatMap_cons]
  rfl

/-- References leave the margin of a line alone. -/
theorem margin_expand (t : Text) : (expand t).margin = t.margin := by
  fun_induction pieces t with
  | case1 => rw [expand_nil]
  | case2 c t body rest h _ _ =>
    obtain ⟨⟨other, hline⟩, ⟨output, hexpand⟩⟩ := exists_of_reference?_eq_some h
    rw [hexpand, hline]
    rfl
  | case3 c t h ih =>
    rw [expand_cons_of_reference?_eq_none h, margin, margin, List.takeWhile_cons,
      List.takeWhile_cons, ← margin, ← margin, ih]

/-- A line is blank exactly when it is so with its references expanded. -/
lemma trim_expand_eq_nil_iff (t : Text) : (expand t).trim = [] ↔ t.trim = [] := by
  rw [trim_eq_nil_iff, trim_eq_nil_iff]
  fun_induction pieces t with
  | case1 => simp
  | case2 c t body rest h _ _ =>
    obtain ⟨⟨other, hline⟩, ⟨output, hexpand⟩⟩ := exists_of_reference?_eq_some h
    have hhash : isBlank '#' = false := by decide
    have hbrace : isBlank '{' = false := by decide
    rw [hexpand, hline]
    simp [hhash, hbrace]
  | case3 c t h ih => simp [expand_cons_of_reference?_eq_none h, ih]

lemma exists_intercalate_cons (piece : Text) (rest : List Text) :
    ∃ later, List.intercalate [' '] (piece :: rest) = piece ++ later := by
  cases rest with
  | nil => exact ⟨[], by simp⟩
  | cons next others => exact ⟨_, by rw [List.intercalate_cons_cons, List.append_assoc]⟩

/-- Joined pieces without margins begin with one space for every empty piece before the first that
is not empty. -/
lemma margin_intercalate {pieces : List Text} (hmargins : ∀ piece ∈ pieces, piece.margin = [])
    (h : trim (List.intercalate [' '] pieces) ≠ []) :
    margin (List.intercalate [' '] pieces) =
      List.replicate (pieces.takeWhile List.isEmpty).length ' ' := by
  induction pieces with
  | nil => exact absurd rfl h
  | cons piece rest ih =>
    obtain ⟨hpiece, hrest⟩ := List.forall_mem_cons.1 hmargins
    cases piece with
    | nil =>
      cases rest with
      | nil => exact absurd rfl h
      | cons next others =>
        have hspace : isBlank ' ' := by decide
        have hjoined : List.intercalate [' '] ([] :: next :: others) =
            ' ' :: List.intercalate [' '] (next :: others) := by simp
        rw [hjoined, Ne, trim_eq_nil_iff, List.forall_mem_cons, not_and, ← trim_eq_nil_iff] at h
        rw [hjoined, margin, List.takeWhile_cons_of_pos hspace, ← margin, ih hrest (h hspace)]
        rfl
    | cons c text =>
      have hc : isBlank c = false := by
        cases hblank : isBlank c with
        | true => simp [margin, hblank] at hpiece
        | false => rfl
      obtain ⟨later, hlater⟩ := exists_intercalate_cons (c :: text) rest
      simp [hlater, margin, hc]

/-- The number of lines that say nothing, before the first that does. -/
def idleLines (lines : List Text) : Nat :=
  (lines.takeWhile fun line => (saying line).trim.isEmpty).length

/-- The margin of merged lines is that of the first, or what joining makes of a first line that
says nothing. -/
lemma margin_merged {first : Text} {later : List Text}
    (h : (merged (first :: later)).trim ≠ []) :
    (merged (first :: later)).margin =
      if (saying first).trim.isEmpty then List.replicate (idleLines (first :: later)) ' '
      else (saying first).margin := by
  by_cases hfirst : (saying first).trim.isEmpty
  · have hempty := List.isEmpty_iff.1 hfirst
    have hpieces : merged (first :: later) =
        List.intercalate [' '] ((first :: later).map fun line => (saying line).trim) := by
      rw [merged, trimEnd_eq_nil_of_isEmpty_trim hfirst, List.map_cons, hempty]
    have hmargins : ∀ piece ∈ (first :: later).map fun line => (saying line).trim,
        piece.margin = [] := by
      intro piece hpiece
      obtain ⟨line, -, rfl⟩ := List.mem_map.1 hpiece
      exact margin_trim (saying line)
    rw [hpieces] at h ⊢
    rw [if_pos hfirst, margin_intercalate hmargins h, List.takeWhile_map, List.length_map]
    rfl
  · have hfilled : (saying first).trim ≠ [] := by simpa using hfirst
    obtain ⟨rest, hrest⟩ := exists_intercalate_cons (saying first).trimEnd
      (later.map fun line => (saying line).trim)
    rw [if_neg hfirst, merged, hrest, margin_append (by rwa [trim_trimEnd]),
      margin_trimEnd hfilled]

/-- The logical line of a run has the margin of the line that the run begins with, and so its
indentation, when that line says something. Otherwise it has one space for every line of the run
that says nothing, before the first that does. -/
theorem margin_of_run {source line logical : Text} {lines : List Text} {number : Nat}
    (h : logicalLines source = .ok lines) (hline : (physicalLines source)[number]? = some line)
    (hruns : runsOn line) (hclosed : isOpenAfter false ((physicalLines source).take number) = false)
    (hlogical : lines[number]? = some logical) (hfilled : ¬ logical.trim.isEmpty) :
    (¬ (saying line).trim.isEmpty →
      logical.margin = (saying line).margin ∧ indentation logical = indentation (saying line)) ∧
    ((saying line).trim.isEmpty →
      let idle := idleLines (firstRun (withoutNotes ((physicalLines source).drop number)))
      logical.margin = List.replicate idle ' ' ∧ indentation logical = .ok idle) := by
  obtain ⟨-, hnote⟩ := ofText_of_runsOn hruns
  rw [eq_of_logicalLines h] at hlogical
  obtain ⟨-, rfl⟩ := getElem?_logicalLinesAt.1 hlogical
  rw [withoutNotes_drop hline hnote]
  rw [logicalLineAt_of_first hline hnote hclosed] at hfilled ⊢
  rw [firstRun, if_pos hruns] at hfilled ⊢
  rw [List.isEmpty_iff, trim_expand_eq_nil_iff] at hfilled
  have hmargin := margin_merged hfilled
  rw [← margin_expand] at hmargin
  constructor
  · intro hfirst
    rw [if_neg hfirst] at hmargin
    exact ⟨hmargin, indentation_congr hmargin⟩
  · intro hfirst
    rw [if_pos hfirst] at hmargin
    exact ⟨hmargin, indentation_of_spaces hmargin⟩

/-- A run inside an element, with a note in it. -/
theorem margin_of_run_element :
    let source := "%div\n  %p(a=\"1\", \\ \n; note\n     b=\"2\")\n    Text".toList
    let logical : Text := "  %p(a=\"1\", b=\"2\")".toList
    logicalLines source =
        .ok ("%div".toList :: logical :: ["", "", "    Text"].map String.toList) ∧
      logical.margin = "  ".toList ∧ indentation logical = .ok 2 := by
  intro source logical
  have h : logicalLines source =
      .ok ("%div".toList :: logical :: ["", "", "    Text"].map String.toList) := by
    decide +kernel
  have hline : (physicalLines source)[1]? = some "  %p(a=\"1\", \\ ".toList := by decide +kernel
  obtain ⟨hkept, -⟩ := margin_of_run h hline (by decide +kernel) (by decide +kernel) rfl
    (by decide +kernel)
  obtain ⟨hmargin, hindentation⟩ := hkept (by decide +kernel)
  rw [hmargin, hindentation]
  exact ⟨h, by decide +kernel, by decide +kernel⟩

/-- The margin before a backslash that is alone on its line is lost. -/
theorem lone_backslash_loses_margin :
    let source := "%div\n  \\\n  %p".toList
    let line := "  \\".toList
    let logical : Text := " %p".toList
    logicalLines source = .ok ["%div".toList, logical, []] ∧
      (physicalLines source)[1]? = some line ∧ runsOn line ∧
      isOpenAfter false ((physicalLines source).take 1) = false ∧ ¬ logical.trim.isEmpty ∧
      (saying line).margin = "  ".toList ∧ logical.margin ≠ (saying line).margin ∧
      indentation logical ≠ indentation (saying line) := by
  decide +kernel

end Source
end OutlineMarkup

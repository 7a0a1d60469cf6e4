import OutlineMarkup.Proofs.ContinuedLines
import OutlineMarkup.Template

/-! White space at the ends of lines. A source is trimmed as a whole before it is cut into lines,
and then line by line. Both together leave the trimmed lines of the source without the empty ones
at its end, and everything else is read off those. So blanks behind a line, and carriage returns
among them, make no difference to any template. -/
namespace OutlineMarkup

namespace Text

lemma trimEnd_eq_nil_iff {t : Text} : t.trimEnd = [] ↔ ∀ c ∈ t, isBlank c :=
  List.rdropWhile_eq_nil_iff

lemma trimEnd_cons_eq_nil_iff {c : Char} {t : Text} :
    trimEnd (c :: t) = [] ↔ isBlank c ∧ t.trimEnd = [] := by
  rw [trimEnd_eq_nil_iff, trimEnd_eq_nil_iff, List.forall_mem_cons]

lemma trimEnd_cons_of_ne_nil {c : Char} {t : Text} (h : trimEnd (c :: t) ≠ []) :
    trimEnd (c :: t) = c :: t.trimEnd := by
  rw [trimEnd_cons] at h ⊢
  split at h
  · exact absurd rfl h
  · next hfilled => rw [if_neg hfilled]

lemma trimEnd_append_of_blank {pad : Text} (h : ∀ c ∈ pad, isBlank c) (t : Text) :
    (t ++ pad).trimEnd = t.trimEnd := by
  rw [trimEnd, List.reverse_append, List.dropWhile_append_of_pos, trimEnd]
  simpa using h

lemma isBlank_of_trimStart {t rest : Text} {c : Char} (h : t.trimStart = c :: rest) :
    isBlank c = false := by
  have hhead := List.head?_dropWhile_not isBlank t
  rw [← trimStart, h] at hhead
  exact hhead

/-- A text that begins with something else than white space still does so when its end is
trimmed. -/
lemma head?_trim (t : Text) : t.trim.head? = t.trimStart.head? := by
  cases ht : t.trimStart with
  | nil => rw [trim, ht, trimEnd_nil]
  | cons c rest =>
    rw [trim, ht, trimEnd_cons, if_neg (by simp [isBlank_of_trimStart ht])]
    rfl

/-- A trimmed text begins with a character that is not white space, if it begins with any. -/
lemma margin_trim (t : Text) : t.trim.margin = [] := by
  cases ht : t.trim with
  | nil => rfl
  | cons c rest =>
    have hhead := head?_trim t
    cases hstart : t.trimStart with
    | nil => simp [ht, hstart] at hhead
    | cons d other =>
      have hcd : c = d := by simpa [ht, hstart] using hhead
      simp [margin, hcd, isBlank_of_trimStart hstart]

lemma trim_eq_nil_iff {t : Text} : t.trim = [] ↔ ∀ c ∈ t, isBlank c := by
  rw [← List.head?_eq_none_iff, head?_trim, List.head?_eq_none_iff]
  exact List.dropWhile_eq_nil_iff

lemma trimEnd_eq_nil_of_isEmpty_trim {t : Text} (h : t.trim.isEmpty) : t.trimEnd = [] :=
  trimEnd_eq_nil_iff.2 (trim_eq_nil_iff.1 (List.isEmpty_iff.1 h))

end Text

namespace Source

open Text

lemma isNote_trimEnd (line : Text) : Physical.isNote line.trimEnd = Physical.isNote line := by
  rw [Physical.isNote, trimStart_trimEnd, head?_trim, Physical.isNote]

/-- A line is read off what is left of it when its end is trimmed. -/
lemma ofText_trimEnd (line : Text) : Physical.ofText line.trimEnd = Physical.ofText line := by
  rw [Physical.ofText, isNote_trimEnd, trimEnd_trimEnd, Physical.ofText]

lemma logicalLines?_map_trimEnd (run : Option Run) (lines : List Text) :
    logicalLines? run (lines.map trimEnd) = logicalLines? run lines := by
  induction lines generalizing run with
  | nil => rfl
  | cons line rest ih => cases run <;> simp only [List.map_cons, logicalLines?, ofText_trimEnd, ih]

/-- Lines without the empty ones at the end. The first line is kept in any case. -/
def settled : List Text → List Text
  | [] => []
  | line :: rest => line :: if ∀ other ∈ rest, other = [] then [] else settled rest

/-- Lines that settle have only empty ones behind them. -/
lemma exists_settled_append (lines : List Text) :
    ∃ n, lines = settled lines ++ List.replicate n [] := by
  induction lines with
  | nil => exact ⟨0, rfl⟩
  | cons line rest ih =>
    rw [settled]
    by_cases hrest : ∀ other ∈ rest, other = []
    · exact ⟨rest.length, by rw [if_pos hrest, ← List.eq_replicate_of_mem hrest]; rfl⟩
    · obtain ⟨n, hn⟩ := ih
      exact ⟨n, by rw [if_neg hrest, List.cons_append, ← hn]⟩

lemma settled_append_of_empty {first second : List Text} (hfirst : first ≠ [])
    (h : ∀ line ∈ second, line = []) : settled (first ++ second) = settled first := by
  induction first with
  | nil => exact absurd rfl hfirst
  | cons line rest ih =>
    rw [List.cons_append, settled, settled]
    by_cases hrest : ∀ other ∈ rest, other = []
    · rw [if_pos hrest, if_pos]
      intro other hother
      rcases List.mem_append.1 hother with hmem | hmem
      · exact hrest other hmem
      · exact h other hmem
    · have hne : rest ≠ [] := by
        rintro rfl
        simp at hrest
      rw [if_neg hrest, if_neg, ih hne]
      exact fun hall => hrest fun other hmem => hall other (List.mem_append_left _ hmem)

lemma settled_append_of_filled {second : List Text} (h : ¬ ∀ line ∈ second, line = [])
    (first : List Text) : settled (first ++ second) = first ++ settled second := by
  induction first with
  | nil => rfl
  | cons line rest ih =>
    rw [List.cons_append, settled, if_neg, ih, List.cons_append]
    exact fun hall => h fun other hmem => hall other (List.mem_append_right _ hmem)

lemma exists_getLast?_settled {lines : List Text} (h : ¬ ∀ line ∈ lines, line = []) :
    ∃ last, (settled lines).getLast? = some last ∧ last ≠ [] := by
  induction lines with
  | nil => simp at h
  | cons line rest ih =>
    rw [settled]
    by_cases hrest : ∀ other ∈ rest, other = []
    · refine ⟨line, by simp [if_pos hrest], fun hline => h ?_⟩
      exact List.forall_mem_cons.2 ⟨hline, hrest⟩
    · obtain ⟨last, hlast, hne⟩ := ih hrest
      exact ⟨last, by simp [if_neg hrest, List.getLast?_cons, hlast], hne⟩

/-- The lines of a source, trimmed at their ends, without the empty ones at its end. -/
def trimmedLines (source : Text) : List Text := settled ((source.splitOn '\n').map trimEnd)

lemma exists_splitOn_eq_cons (source : Text) :
    ∃ line lines, source.splitOn '\n' = line :: lines :=
  List.exists_cons_of_ne_nil (List.splitOn_ne_nil '\n' source)

lemma splitOn_newline_cons (source : Text) :
    ('\n' :: source).splitOn '\n' = [] :: source.splitOn '\n' :=
  List.splitOn_append_cons_self [] source

/-- A character that begins no new line belongs to the first line. -/
lemma splitOn_cons_of_ne {c : Char} (hc : c ≠ '\n') {source line : Text} {lines : List Text}
    (h : source.splitOn '\n' = line :: lines) :
    (c :: source).splitOn '\n' = (c :: line) :: lines := by
  rw [List.splitOn_cons_eq_if_modifyHead, if_neg (by simpa using hc), h]
  rfl

/-- A source is blank exactly when its lines are. -/
lemma trimEnd_eq_nil_iff_splitOn (source : Text) :
    source.trimEnd = [] ↔ ∀ line ∈ (source.splitOn '\n').map trimEnd, line = [] := by
  induction source with
  | nil => simp
  | cons c source ih =>
    rw [trimEnd_cons_eq_nil_iff, ih]
    by_cases hc : c = '\n'
    · have hblank : isBlank '\n' := by decide
      simp [hc, splitOn_newline_cons, hblank]
    · obtain ⟨line, lines, hlines⟩ := exists_splitOn_eq_cons source
      simp [splitOn_cons_of_ne hc hlines, hlines, trimEnd_cons_eq_nil_iff, and_assoc]

lemma trimmedLines_of_blank {source : Text} (h : source.trimEnd = []) :
    trimmedLines source = [[]] := by
  obtain ⟨line, lines, hlines⟩ := exists_splitOn_eq_cons source
  have hempty := (trimEnd_eq_nil_iff_splitOn source).1 h
  rw [hlines, List.map_cons, List.forall_mem_cons] at hempty
  rw [trimmedLines, hlines, List.map_cons, settled, if_pos hempty.2, hempty.1]

lemma trimmedLines_newline_cons {source : Text} (h : source.trimEnd ≠ []) :
    trimmedLines ('\n' :: source) = [] :: trimmedLines source := by
  rw [trimmedLines, splitOn_newline_cons, List.map_cons, settled,
    if_neg (mt (trimEnd_eq_nil_iff_splitOn source).2 h)]
  rfl

/-- The physical lines of a source, when their ends are trimmed too. -/
theorem map_trimEnd_physicalLines (source : Text) :
    (physicalLines source).map trimEnd = trimmedLines source := by
  induction source with
  | nil => rfl
  | cons c source ih =>
    by_cases hblank : trimEnd (c :: source) = []
    · rw [physicalLines, hblank, trimmedLines_of_blank hblank]
      rfl
    · rw [physicalLines, trimEnd_cons_of_ne_nil hblank]
      by_cases hc : c = '\n'
      · subst hc
        have hsource : trimEnd source ≠ [] := fun hempty =>
          hblank (trimEnd_cons_eq_nil_iff.2 ⟨by decide, hempty⟩)
        rw [splitOn_newline_cons, List.map_cons, ← physicalLines, ih,
          trimmedLines_newline_cons hsource]
        rfl
      · -- the first line grows by the character, the others are those of the rest
        obtain ⟨line, lines, hlines⟩ := exists_splitOn_eq_cons (trimEnd source)
        obtain ⟨line', lines', hlines'⟩ := exists_splitOn_eq_cons source
        rw [physicalLines, trimmedLines, hlines, hlines', List.map_cons, List.map_cons,
          settled] at ih
        obtain ⟨hline, hrest⟩ := List.cons.inj ih
        rw [trimmedLines, splitOn_cons_of_ne hc hlines, splitOn_cons_of_ne hc hlines',
          List.map_cons, List.map_cons, settled, ← hrest, trimEnd_cons, hline, ← trimEnd_cons]

/-- More text after a source leaves its lines as they are, with some empty lines behind them at
most. -/
lemma exists_trimmedLines_append (source text : Text) :
    ∃ n, trimmedLines (source ++ '\n' :: text) = trimmedLines source ++
      if text.trimEnd = [] then [] else List.replicate n [] ++ trimmedLines text := by
  have hne : (source.splitOn '\n').map trimEnd ≠ [] := by simp [List.splitOn_ne_nil]
  obtain ⟨n, hn⟩ := exists_settled_append ((source.splitOn '\n').map trimEnd)
  refine ⟨n, ?_⟩
  rw [trimmedLines, List.splitOn_append_cons_self, List.map_append]
  by_cases htext : text.trimEnd = []
  · have hempty := (trimEnd_eq_nil_iff_splitOn text).1 htext
    rw [settled_append_of_empty hne hempty, if_pos htext, List.append_nil, trimmedLines]
  · have hfilled := mt (trimEnd_eq_nil_iff_splitOn text).2 htext
    rw [settled_append_of_filled hfilled, if_neg htext, ← List.append_assoc, trimmedLines, ← hn,
      trimmedLines]

/-- The logical lines of a source are read off its trimmed lines. -/
lemma logicalLines_eq_of_trimmedLines (source : Text) :
    logicalLines source =
      match logicalLines? none (trimmedLines source) with
      | some lines => .ok lines
      | none => .error (.openContinuation ((trimmedLines source).length - 1)) := by
  rw [← map_trimEnd_physicalLines, logicalLines?_map_trimEnd, List.length_map]
  rfl

/-- A source with blanks behind its lines: every line has become that line with some white space
behind it. -/
def Padded (source padded : Text) : Prop :=
  List.Forall₂ (fun line padded => ∃ pad : Text, (∀ c ∈ pad, isBlank c) ∧ padded = line ++ pad)
    (source.splitOn '\n') (padded.splitOn '\n')

def withReturns (source : Text) : Text :=
  source.flatMap fun c => if c = '\n' then ['\r', '\n'] else [c]

lemma Padded.trimmedLines_eq {source padded : Text} (h : Padded source padded) :
    trimmedLines padded = trimmedLines source := by
  have hlines : (padded.splitOn '\n').map trimEnd = (source.splitOn '\n').map trimEnd := by
    rw [Padded] at h
    generalize source.splitOn '\n' = lines, padded.splitOn '\n' = lines' at h ⊢
    induction h with
    | nil => rfl
    | cons hline _ ih =>
      obtain ⟨pad, hpad, rfl⟩ := hline
      rw [List.map_cons, List.map_cons, trimEnd_append_of_blank hpad, ih]
  rw [trimmedLines, hlines, trimmedLines]

lemma padded_withReturns (source : Text) : Padded source (withReturns source) := by
  induction source with
  | nil => exact .cons ⟨[], by simp, rfl⟩ .nil
  | cons c source ih =>
    obtain ⟨line, lines, hlines⟩ := exists_splitOn_eq_cons source
    obtain ⟨line', lines', hlines'⟩ := exists_splitOn_eq_cons (withReturns source)
    by_cases hc : c = '\n'
    · subst hc
      have hreturns : withReturns ('\n' :: source) = '\r' :: '\n' :: withReturns source := by
        simp [withReturns]
      rw [Padded, hreturns, splitOn_newline_cons,
        splitOn_cons_of_ne (by decide) (splitOn_newline_cons (withReturns source))]
      have hreturn : isBlank '\r' := by decide
      exact .cons ⟨['\r'], by simpa using hreturn, rfl⟩ ih
    · have hreturns : withReturns (c :: source) = c :: withReturns source := by
        simp [withReturns, hc]
      rw [Padded, hlines, hlines'] at ih
      rw [Padded, hreturns, splitOn_cons_of_ne hc hlines, splitOn_cons_of_ne hc hlines']
      cases ih with
      | cons hline hrest =>
        obtain ⟨pad, hpad, rfl⟩ := hline
        exact .cons ⟨pad, hpad, rfl⟩ hrest

end Source

namespace Template

open Source

lemma compile_eq (source : Text) (style : Style) :
    compile source style = ((logicalLines source).bind Tree.ofLines).map fun tree =>
      List.intercalate style.lineJoin (Layout.treeLines style.indentUnit tree) := by
  rw [compile, ofSource, Tree.ofSource]
  cases (logicalLines source).bind Tree.ofLines <;> rfl

/-- White space behind the lines of a source never matters, carriage returns included: the logical
lines stay the same, or the fault and its place, and so does the output in every style. -/
theorem compile_padded (source : Text) :
    (∀ padded, Padded source padded →
      logicalLines padded = logicalLines source ∧
      ∀ style, compile padded style = compile source style) ∧
    Padded source (withReturns source) := by
  refine ⟨fun padded h => ?_, padded_withReturns source⟩
  have hlogical : logicalLines padded = logicalLines source := by
    rw [logicalLines_eq_of_trimmedLines, h.trimmedLines_eq, ← logicalLines_eq_of_trimmedLines]
  exact ⟨hlogical, fun style => by rw [compile_eq, hlogical, ← compile_eq]⟩

/-- Blanks behind a backslash, a note, a line that closes a run, an empty line and the end. -/
theorem compile_padded_run :
    let source := "-if a \\\n; note\n  and b\n\n  c\n".toList
    let padded := "-if a \\ \t\n; note \n  and b\r\n   \n  c  \n ".toList
    Padded source padded ∧
      logicalLines padded =
        .ok (["-if a and b", "", "", "", "  c"].map String.toList) ∧
      compile padded {} = .ok "{% if a and b %}c{% endif %}".toList := by
  intro source padded
  have hpadded : Padded source padded := by
    have hsource : source.splitOn '\n' =
        ["-if a \\", "; note", "  and b", "", "  c", ""].map String.toList := by decide +kernel
    have hlines : padded.splitOn '\n' =
        ["-if a \\ \t", "; note ", "  and b\r", "   ", "  c  ", " "].map String.toList := by
      decide +kernel
    rw [Padded, hsource, hlines]
    refine .cons ⟨" \t".toList, List.all_eq_true.1 ?_, ?_⟩ <|
      .cons ⟨" ".toList, List.all_eq_true.1 ?_, ?_⟩ <|
      .cons ⟨"\r".toList, List.all_eq_true.1 ?_, ?_⟩ <|
      .cons ⟨"   ".toList, List.all_eq_true.1 ?_, ?_⟩ <|
      .cons ⟨"  ".toList, List.all_eq_true.1 ?_, ?_⟩ <|
      .cons ⟨" ".toList, List.all_eq_true.1 ?_, ?_⟩ .nil
    all_goals decide +kernel
  obtain ⟨hlogical, hcompile⟩ := (compile_padded source).1 padded hpadded
  refine ⟨hpadded, ?_, ?_⟩
  · rw [hlogical]
    decide +kernel
  · rw [hcompile]
    decide +kernel

end Template
end OutlineMarkup

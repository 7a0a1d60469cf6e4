import OutlineMarkup.Proofs.Building
import OutlineMarkup.Proofs.LineEnds

/-! Where faults are reported. A fault found while a tree is built stands at a line that is not
blank, and a logical line that is not blank stands at the physical line that it begins with. What
comes after the fault is never looked at, except for one thing: whether the source ends inside a
run of continued lines is found out first. -/
namespace OutlineMarkup

/-- A run that is left open is known by its words. -/
lemma Diagnostic.ne_openContinuation {diagnostic : Diagnostic}
    (h : diagnostic.message ≠ (openContinuation 0).message) (line : Nat) :
    diagnostic ≠ openContinuation line := by
  rintro rfl
  exact h rfl

namespace Builder

open OutlineMarkup.Tree

variable {builder : Builder} {number : Nat} {diagnostic : Diagnostic}

/-- A line at fault is not blank, and the fault is reported at its number. -/
theorem Ready.addLine_eq_error (ready : Ready builder) {line : Text}
    (h : builder.addLine number line = .error diagnostic) :
    diagnostic.line = number ∧ ¬ line.trim.isEmpty := by
  cases hs : (Line.read line.trim).sprout with
  | error fault =>
    rw [builder.addLine_of_sprout_error number hs] at h
    cases h
    refine ⟨rfl, fun hblank => ?_⟩
    rw [List.isEmpty_iff.1 hblank, Line.read_nil] at hs
    cases hs
  | ok sprout =>
    obtain ⟨planted, -, -, -, hadd⟩ := ready.addLine_of_sprout number hs
    rw [hadd] at h
    by_cases hblank : line.trim.isEmpty
    · rw [if_pos hblank] at h
      cases h
    · rw [if_neg hblank] at h
      refine ⟨?_, hblank⟩
      split at h
      · cases h
        rfl
      · split at h
        · cases h
          rfl
        · split at h
          · cases h
          · cases h
            rfl

/-- So the first fault of a run is reported at a line of the run that is not blank. -/
theorem Ready.addLines_eq_error (ready : Ready builder) {lines : List Text}
    (h : builder.addLines number lines = .error diagnostic) :
    ∃ k line, lines[k]? = some line ∧ ¬ line.trim.isEmpty ∧ diagnostic.line = number + k := by
  induction lines generalizing builder number with
  | nil => cases h
  | cons line rest ih =>
    rw [addLines] at h
    cases hline : builder.addLine number line with
    | error first =>
      rw [hline] at h
      cases h
      obtain ⟨hnumber, hfilled⟩ := ready.addLine_eq_error hline
      exact ⟨0, line, rfl, hfilled, hnumber⟩
    | ok mid =>
      rw [hline] at h
      obtain ⟨k, other, hk, hfilled, hnumber⟩ := ih ((ready.adds hline).ready ready) h
      exact ⟨k + 1, other, hk, hfilled, by omega⟩

/-- Lines after a fault are not looked at. -/
lemma addLines_append_of_error {first : List Text}
    (h : builder.addLines number first = .error diagnostic) (second : List Text) :
    builder.addLines number (first ++ second) = .error diagnostic := by
  rw [addLines_append, h]
  rfl

end Builder

namespace Source

open Text

/-- Reading can be cut where no run is open. -/
lemma logicalLines?_append {run : Option Run} {first lines : List Text}
    (h : logicalLines? run first = some lines) (second : List Text) :
    logicalLines? run (first ++ second) = (logicalLines? none second).map (lines ++ ·) := by
  induction first generalizing run lines with
  | nil =>
    cases run with
    | none =>
      cases h
      simp
    | some run => cases h
  | cons line rest ih =>
    cases run with
    | none =>
      simp only [List.cons_append, logicalLines?] at h ⊢
      split at h
      · obtain ⟨later, hlater, rfl⟩ := Option.map_eq_some_iff.1 h
        simp [ih hlater, Function.comp_def]
      · exact ih h
      · obtain ⟨later, hlater, rfl⟩ := Option.map_eq_some_iff.1 h
        simp [ih hlater, Function.comp_def]
    | some run =>
      simp only [List.cons_append, logicalLines?] at h ⊢
      split at h
      · exact ih h
      · exact ih h
      · obtain ⟨later, hlater, rfl⟩ := Option.map_eq_some_iff.1 h
        simp [ih hlater, Function.comp_def]

lemma logicalLines?_replicate_nil (n : Nat) :
    logicalLines? none (List.replicate n []) = some (List.replicate n []) := by
  induction n with
  | zero => rfl
  | succ n ih =>
    have hline : Physical.ofText [] = .whole [] := rfl
    rw [List.replicate_succ, logicalLines?, hline, ih]
    simp

/-- What follows a source that does not end inside a run is read as if it stood alone. -/
lemma exists_logicalLines?_append {source : Text} {lines : List Text}
    (h : logicalLines? none (physicalLines source) = some lines) (text : Text) :
    ∃ later : List Text → List Text, logicalLines? none (physicalLines (source ++ '\n' :: text)) =
      (logicalLines? none (physicalLines text)).map fun own => lines ++ later own := by
  obtain ⟨n, hn⟩ := exists_trimmedLines_append source text
  rw [← logicalLines?_map_trimEnd, map_trimEnd_physicalLines] at h
  rw [← logicalLines?_map_trimEnd, map_trimEnd_physicalLines, hn, logicalLines?_append h]
  by_cases htext : text.trimEnd = []
  · refine ⟨fun _ => [], ?_⟩
    rw [if_pos htext, physicalLines, htext]
    rfl
  · refine ⟨(List.replicate n [] ++ ·), ?_⟩
    rw [if_neg htext, logicalLines?_append (logicalLines?_replicate_nil n),
      ← map_trimEnd_physicalLines, logicalLines?_map_trimEnd, Option.map_map]
    rfl

/-- A logical line that is not blank begins with a physical line that is not blank either. That line
is no note and not inside a run. -/
lemma exists_of_logicalLineAt {lines : List Text} {number : Nat}
    (h : ¬ (logicalLineAt false lines number).trim.isEmpty) :
    ∃ line, lines[number]? = some line ∧ ¬ line.trim.isEmpty ∧ Physical.isNote line = false ∧
      isOpenAfter false (lines.take number) = false := by
  by_cases hblank : isOpenAfter false (lines.take number) || (lines[number]?).any Physical.isNote
  · rw [logicalLineAt, if_pos hblank] at h
    exact absurd rfl h
  · rw [Bool.or_eq_true, not_or, Bool.not_eq_true] at hblank
    obtain ⟨hclosed, hnote⟩ := hblank
    cases hline : lines[number]? with
    | none =>
      rw [logicalLineAt, hline, hclosed, List.drop_eq_nil_of_le (List.getElem?_eq_none_iff.1 hline)]
        at h
      simp [withoutNotes, firstRun, merged] at h
    | some line =>
      have hnote : Physical.isNote line = false := by simpa [hline] using hnote
      refine ⟨line, rfl, fun hempty => h ?_, hnote, hclosed⟩
      have htrim := trimEnd_eq_nil_of_isEmpty_trim hempty
      have hruns : runsOn line = false := by simp [runsOn, htrim]
      rw [logicalLineAt_of_first hline hnote hclosed]
      simp [firstRun, hruns, merged, saying, htrim]

/-- A source that ends inside a run ends with a line that is not blank. -/
lemma exists_last_of_open {source : Text} (h : isOpenAfter false (physicalLines source)) :
    ∃ last, (physicalLines source)[(physicalLines source).length - 1]? = some last ∧
      ¬ last.trim.isEmpty := by
  have hsource : source.trimEnd ≠ [] := by
    intro hempty
    rw [physicalLines, hempty] at h
    cases h
  obtain ⟨last, hlast, hne⟩ :=
    exists_getLast?_settled (mt (trimEnd_eq_nil_iff_splitOn source).2 hsource)
  rw [← trimmedLines, ← map_trimEnd_physicalLines, List.getLast?_map] at hlast
  obtain ⟨line, hline, rfl⟩ := Option.map_eq_some_iff.1 hlast
  exact ⟨line, by rw [← List.getLast?_eq_getElem?, hline],
    fun hblank => hne (trimEnd_eq_nil_of_isEmpty_trim hblank)⟩

end Source

namespace Template

open Source

variable {source : Text} {style : Style} {diagnostic : Diagnostic}

/-- A template fails at the end of its source, or at one of its logical lines. -/
lemma compile_eq_error_iff :
    compile source style = .error diagnostic ↔
      logicalLines source = .error diagnostic ∨
      ∃ lines, logicalLines source = .ok lines ∧
        Builder.addLines {} 0 lines = .error diagnostic := by
  rw [compile_eq]
  cases logicalLines source with
  | error first => simp [Except.bind, Except.map]
  | ok lines =>
    simp only [Except.bind, Tree.ofLines, reduceCtorEq, Except.ok.injEq, exists_eq_left', false_or]
    cases Builder.addLines {} 0 lines <;> simp [Except.map]

/-- What a template fails for: the source ends inside a run, or else a logical line is at fault. -/
lemma compile_error_cases (h : compile source style = .error diagnostic) :
    (isOpenAfter false (physicalLines source) ∧
      diagnostic = .openContinuation ((physicalLines source).length - 1)) ∨
    (isOpenAfter false (physicalLines source) = false ∧
      Builder.addLines {} 0 (logicalLinesAt false (physicalLines source)) = .error diagnostic) := by
  rw [compile_eq_error_iff] at h
  cases hopen : isOpenAfter false (physicalLines source) with
  | true =>
    rw [logicalLines_of_open hopen] at h
    exact .inl ⟨rfl, by simpa [eq_comm] using h⟩
  | false =>
    rw [logicalLines_of_closed hopen] at h
    exact .inr ⟨rfl, by simpa using h⟩

/-- A fault stays the fault of a source when more text comes after it, unless that text ends inside
a run: a run that is left open is reported instead of any other fault. -/
theorem compile_append_of_error (h : compile source style = .error diagnostic)
    (hclosed : ∀ line, diagnostic ≠ .openContinuation line) (text : Text) :
    compile (source ++ '\n' :: text) style =
      if isOpenAfter false (physicalLines text) then
        .error (.openContinuation ((physicalLines (source ++ '\n' :: text)).length - 1))
      else .error diagnostic := by
  obtain ⟨-, hend⟩ | ⟨hsource, hlines⟩ := compile_error_cases h
  · exact absurd hend (hclosed _)
  · have hfirst := (logicalLines?_eq (physicalLines source)).1
    rw [if_neg (by simp [hsource])] at hfirst
    obtain ⟨later, hlater⟩ := exists_logicalLines?_append hfirst text
    rw [(logicalLines?_eq (physicalLines text)).1] at hlater
    cases htext : isOpenAfter false (physicalLines text) with
    | true =>
      rw [if_pos htext, Option.map_none] at hlater
      rw [if_pos rfl, compile_eq_error_iff, logicalLines, hlater]
      exact .inl rfl
    | false =>
      rw [if_neg (by simp [htext]), Option.map_some] at hlater
      rw [if_neg (by simp), compile_eq_error_iff, logicalLines, hlater]
      exact .inr ⟨_, rfl, Builder.addLines_append_of_error hlines _⟩

/-- More lines, a run with a note in it and all: the text after a void element stays the fault. -/
theorem compile_append_of_error_run :
    let source := "%hr\n  text".toList
    let text := "%p \\\n ; note \\\n  q\n%".toList
    let fault := Diagnostic.ofFault 1 (.childrenNotAllowed .voidElement)
    compile source {} = .error fault ∧ compile (source ++ '\n' :: text) {} = .error fault := by
  intro source text fault
  have h : compile source {} = .error fault := by decide +kernel
  have hclosed := Diagnostic.ne_openContinuation (show fault.message ≠ _ by decide +kernel)
  have htext : isOpenAfter false (physicalLines text) = false := by decide +kernel
  refine ⟨h, ?_⟩
  rw [compile_append_of_error h hclosed text, if_neg (by simp [htext])]

/-- A run that is left open below hides the fault. -/
theorem open_run_hides_fault :
    let source := "%hr\n  text".toList
    let text := "%p \\".toList
    let fault := Diagnostic.ofFault 1 (.childrenNotAllowed .voidElement)
    fault.message ≠ (Diagnostic.openContinuation 0).message ∧ compile source {} = .error fault ∧
      compile (source ++ '\n' :: text) {} = .error (.openContinuation 2) ∧
      compile (source ++ '\n' :: text) {} ≠ .error fault := by
  decide +kernel

/-- Every fault is reported at a physical line that is not blank. Unless the source ends inside a
run, that line is no note and not inside a run. -/
theorem line_of_compile_error (h : compile source style = .error diagnostic) :
    ∃ line, (physicalLines source)[diagnostic.line]? = some line ∧ ¬ line.trim.isEmpty ∧
      ((∀ number, diagnostic ≠ .openContinuation number) →
        Physical.isNote line = false ∧
        isOpenAfter false ((physicalLines source).take diagnostic.line) = false) := by
  obtain ⟨hopen, rfl⟩ | ⟨-, hlines⟩ := compile_error_cases h
  · obtain ⟨last, hlast, hfilled⟩ := exists_last_of_open hopen
    exact ⟨last, hlast, hfilled, fun hclosed => absurd rfl (hclosed _)⟩
  · obtain ⟨k, logical, hlogical, hfilled, hk⟩ := Builder.ready_start.addLines_eq_error hlines
    obtain ⟨-, rfl⟩ := getElem?_logicalLinesAt.1 hlogical
    obtain ⟨line, hline, hlinefilled, hnote, hclosed⟩ := exists_of_logicalLineAt hfilled
    rw [hk, Nat.zero_add]
    exact ⟨line, hline, hlinefilled, fun _ => ⟨hnote, hclosed⟩⟩

/-- A fault in a run that begins behind a note and goes on over another one. -/
theorem line_of_compile_error_run :
    let source := "%p\n; note\n  %div(a=\"1\", \\\n  ; note\n    b=\"2\" c=\"3\")".toList
    let fault := Diagnostic.ofFault 2 (.malformedAttributes "(a=\"1\", b=\"2\" c=\"3\")".toList)
    compile source {} = .error fault ∧
      ∃ line, (physicalLines source)[2]? = some line ∧ ¬ line.trim.isEmpty ∧
        Physical.isNote line = false ∧
        isOpenAfter false ((physicalLines source).take 2) = false := by
  intro source fault
  have h : compile source {} = .error fault := by decide +kernel
  have hclosed := Diagnostic.ne_openContinuation (show fault.message ≠ _ by decide +kernel)
  obtain ⟨line, hline, hfilled, hplace⟩ := line_of_compile_error h
  exact ⟨h, line, hline, hfilled, hplace hclosed⟩

end Template
end OutlineMarkup

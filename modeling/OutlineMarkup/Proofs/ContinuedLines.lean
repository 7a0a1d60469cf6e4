import Mathlib.Data.List.DropRight
import OutlineMarkup.Source.Logical

/-! Logical lines by their numbers. Which line of a source gives which logical line can be read off
the physical lines around it: notes and the later lines of a run give blank lines, and any other
line gives the run that begins there. There are no logical lines exactly when the last line that is
no note runs on. -/
namespace OutlineMarkup

namespace Text

lemma trimEnd_cons (c : Char) (t : Text) :
    trimEnd (c :: t) = if trimEnd t = [] ∧ isBlank c then [] else c :: trimEnd t := by
  unfold trimEnd
  rw [List.reverse_cons, List.dropWhile_append]
  cases hd : t.reverse.dropWhile isBlank with
  | nil => cases hc : isBlank c <;> simp [hc]
  | cons d rest => simp

/-- Texts can be trimmed at the end first. -/
lemma trimStart_trimEnd (t : Text) : t.trimEnd.trimStart = t.trim := by
  induction t with
  | nil => rfl
  | cons c t ih =>
    rw [trim] at ih ⊢
    cases hc : isBlank c with
    | false =>
      have hstart : ∀ rest, trimStart (c :: rest) = c :: rest := by simp [trimStart, hc]
      simp [trimEnd_cons, hc, hstart]
    | true =>
      have hstart : ∀ rest, trimStart (c :: rest) = trimStart rest := by simp [trimStart, hc]
      by_cases hn : trimEnd t = []
      · rw [trimEnd_cons, if_pos ⟨hn, hc⟩, hstart, ← ih, hn]
      · rw [trimEnd_cons, if_neg (by simp [hn]), hstart, hstart, ih]

@[simp] lemma trimEnd_trimEnd (t : Text) : t.trimEnd.trimEnd = t.trimEnd :=
  List.rdropWhile_idempotent isBlank t

@[simp] lemma trim_trimEnd (t : Text) : t.trimEnd.trim = t.trim := by
  rw [trim, trimStart_trimEnd, trim, trimEnd_trimEnd]

end Text

namespace Source

/-- Whether a line runs on in the next one: it is no note, and its last character that is not white
space is a backslash. -/
def runsOn (line : Text) : Bool :=
  !Physical.isNote line && line.trimEnd.getLast? == some '\\'

def withoutNotes (lines : List Text) : List Text := lines.filter (!Physical.isNote ·)

/-- Whether a run is open after some lines: the last one that is no note runs on. Where there is
none, a run is open if one was open before. -/
def isOpenAfter (before : Bool) (lines : List Text) : Bool :=
  ((withoutNotes lines).getLast?.map runsOn).getD before

/-- The lines up to the first that does not run on, that one included. -/
def firstRun : List Text → List Text
  | [] => []
  | line :: rest => if runsOn line then line :: firstRun rest else [line]

/-- What a line says, without the backslash that makes it run on. -/
def saying (line : Text) : Text := if runsOn line then line.trimEnd.dropLast else line

/-- The lines of a run in one. The first keeps its margin, the later ones are trimmed at both
ends. -/
def merged : List Text → Text
  | [] => []
  | first :: later =>
    List.intercalate [' '] ((saying first).trimEnd :: later.map fun line => (saying line).trim)

/-- The logical line of a number, where a run may be open before the first line. -/
def logicalLineAt (before : Bool) (lines : List Text) (number : Nat) : Text :=
  if isOpenAfter before (lines.take number) || (lines[number]?).any Physical.isNote then []
  else expand (merged (firstRun (withoutNotes (lines.drop number))))

def logicalLinesAt (before : Bool) (lines : List Text) : List Text :=
  (List.range lines.length).map (logicalLineAt before lines)

variable {line : Text}

lemma ofText_of_isNote (h : Physical.isNote line) : Physical.ofText line = .note := by
  rw [Physical.ofText, if_pos h]

lemma ofText_of_runsOn (h : runsOn line) :
    Physical.ofText line = .continued (saying line) ∧ Physical.isNote line = false := by
  have hline : Physical.isNote line = false ∧ line.trimEnd.getLast? = some '\\' := by
    simpa [runsOn] using h
  simp [Physical.ofText, saying, h, hline]

lemma ofText_of_not_runsOn (hn : Physical.isNote line = false) (h : runsOn line = false) :
    Physical.ofText line = .whole line.trimEnd ∧ saying line = line := by
  have hlast : line.trimEnd.getLast? ≠ some '\\' := by simpa [runsOn, hn] using h
  simp [Physical.ofText, saying, hn, h, hlast]

lemma withoutNotes_cons (line : Text) (rest : List Text) :
    withoutNotes (line :: rest) =
      if Physical.isNote line then withoutNotes rest else line :: withoutNotes rest := by
  rw [withoutNotes, List.filter_cons]
  cases Physical.isNote line <;> rfl

/-- A line that is no note decides whether a run is open after it. -/
lemma isOpenAfter_cons (before : Bool) (line : Text) (rest : List Text) :
    isOpenAfter before (line :: rest) =
      isOpenAfter (if Physical.isNote line then before else runsOn line) rest := by
  rw [isOpenAfter, withoutNotes_cons, isOpenAfter]
  cases Physical.isNote line with
  | true => rfl
  | false =>
    cases hrest : (withoutNotes rest).getLast? with
    | none => simp [List.getLast?_eq_none_iff.1 hrest]
    | some last => simp [List.getLast?_cons, hrest]

lemma logicalLineAt_succ (before : Bool) (line : Text) (rest : List Text) (number : Nat) :
    logicalLineAt before (line :: rest) (number + 1) =
      logicalLineAt (if Physical.isNote line then before else runsOn line) rest number := by
  rw [logicalLineAt, List.take_succ_cons, isOpenAfter_cons, List.getElem?_cons_succ,
    List.drop_succ_cons, logicalLineAt]

lemma logicalLinesAt_cons (before : Bool) (line : Text) (rest : List Text) :
    logicalLinesAt before (line :: rest) =
      logicalLineAt before (line :: rest) 0 ::
        logicalLinesAt (if Physical.isNote line then before else runsOn line) rest := by
  rw [logicalLinesAt, List.length_cons, List.range_succ_eq_map, List.map_cons, List.map_map,
    logicalLinesAt]
  congr 1
  apply List.map_congr_left
  intro number _
  exact logicalLineAt_succ before line rest number

/-- Inside a run, lines give blank lines. -/
lemma logicalLineAt_zero_of_open (line : Text) (rest : List Text) :
    logicalLineAt true (line :: rest) 0 = [] := by
  simp [logicalLineAt, isOpenAfter, withoutNotes]

lemma logicalLineAt_zero (line : Text) (rest : List Text) :
    logicalLineAt false (line :: rest) 0 =
      if Physical.isNote line then []
      else expand (merged (firstRun (line :: withoutNotes rest))) := by
  cases hn : Physical.isNote line <;>
    simp [logicalLineAt, isOpenAfter, withoutNotes, hn]

lemma getElem?_logicalLinesAt {before : Bool} {lines : List Text} {number : Nat} {logical : Text} :
    (logicalLinesAt before lines)[number]? = some logical ↔
      number < lines.length ∧ logicalLineAt before lines number = logical := by
  simp [logicalLinesAt, List.getElem?_eq_some_iff]

lemma withoutNotes_drop {lines : List Text} {number : Nat} {line : Text}
    (hline : lines[number]? = some line) (hnote : Physical.isNote line = false) :
    withoutNotes (lines.drop number) = line :: withoutNotes (lines.drop (number + 1)) := by
  obtain ⟨hlt, rfl⟩ := List.getElem?_eq_some_iff.1 hline
  rw [List.drop_eq_getElem_cons hlt, withoutNotes_cons, if_neg (by simp [hnote])]

/-- A line that is no note and not inside a run begins its logical line. -/
lemma logicalLineAt_of_first {lines : List Text} {number : Nat} {line : Text}
    (hline : lines[number]? = some line) (hnote : Physical.isNote line = false)
    (hclosed : isOpenAfter false (lines.take number) = false) :
    logicalLineAt false lines number =
      expand (merged (firstRun (line :: withoutNotes (lines.drop (number + 1))))) := by
  rw [logicalLineAt, if_neg (by simp [hclosed, hline, hnote]), withoutNotes_drop hline hnote]

/-- A run is closed by what follows it, and its later lines are made up for by blank ones. -/
def Run.finish (run : Run) (lines : List Text) : List Text :=
  expand (List.intercalate [' ']
      (run.pieces ++ (firstRun (withoutNotes lines)).map fun line => (saying line).trim)) ::
    (List.replicate (run.taken - 1) [] ++ logicalLinesAt true lines)

namespace Run

variable {run : Run} {rest : List Text}

/-- One more line taken by a run is one more blank line. -/
lemma replicate_append_nil_cons (h : 0 < run.taken) (lines : List Text) :
    List.replicate (run.taken - 1) [] ++ [] :: lines = List.replicate run.taken [] ++ lines := by
  obtain ⟨n, hn⟩ : ∃ n, run.taken = n + 1 := ⟨run.taken - 1, by omega⟩
  rw [hn, Nat.add_sub_cancel, List.replicate_succ', List.append_assoc, List.singleton_append]

lemma finish_cons (h : 0 < run.taken) (line : Text) (rest : List Text) :
    run.finish (line :: rest) =
      expand (List.intercalate [' '] (run.pieces ++
        (firstRun (withoutNotes (line :: rest))).map fun line => (saying line).trim)) ::
      (List.replicate run.taken [] ++
        logicalLinesAt (if Physical.isNote line then true else runsOn line) rest) := by
  rw [finish, logicalLinesAt_cons, logicalLineAt_zero_of_open, replicate_append_nil_cons h]

lemma finish_of_isNote (h : 0 < run.taken) (hline : Physical.isNote line) :
    run.finish (line :: rest) = run.skip.finish rest := by
  rw [finish_cons h, withoutNotes_cons, if_pos hline, if_pos hline, finish, skip,
    Nat.add_sub_cancel]

lemma finish_of_runsOn (h : 0 < run.taken) (hline : runsOn line) :
    run.finish (line :: rest) = (run.extend (saying line)).finish rest := by
  obtain ⟨-, hnote⟩ := ofText_of_runsOn hline
  rw [finish_cons h, withoutNotes_cons, finish, extend, Nat.add_sub_cancel]
  simp [hnote, hline, firstRun]

lemma finish_of_not_runsOn (h : 0 < run.taken) (hnote : Physical.isNote line = false)
    (hline : runsOn line = false) :
    run.finish (line :: rest) =
      expand (run.close line.trimEnd) :: (List.replicate run.taken [] ++
        logicalLinesAt false rest) := by
  obtain ⟨-, hsaying⟩ := ofText_of_not_runsOn hnote hline
  rw [finish_cons h, withoutNotes_cons, close]
  simp [hnote, hline, firstRun, hsaying]

/-- A run that begins with a line gives that line's logical line first. -/
lemma finish_start (hline : runsOn line) :
    (start (saying line)).finish rest = logicalLinesAt false (line :: rest) := by
  obtain ⟨-, hnote⟩ := ofText_of_runsOn hline
  rw [logicalLinesAt_cons, logicalLineAt_zero, hnote, firstRun, finish, start]
  simp [hline, merged]

end Run

/-- Reading on from any line, with no run open or with one that has taken some lines, gives what
the numbers say. -/
theorem logicalLines?_eq (lines : List Text) :
    (logicalLines? none lines =
      if isOpenAfter false lines then none else some (logicalLinesAt false lines)) ∧
    ∀ run : Run, 0 < run.taken → logicalLines? (some run) lines =
      if isOpenAfter true lines then none else some (run.finish lines) := by
  induction lines with
  | nil => simp [logicalLines?, isOpenAfter, withoutNotes, logicalLinesAt]
  | cons line rest ih =>
    obtain ⟨ihclosed, ihopen⟩ := ih
    rw [logicalLines?, isOpenAfter_cons, isOpenAfter_cons]
    cases hnote : Physical.isNote line with
    | true =>
      simp only [if_true]
      constructor
      · rw [ofText_of_isNote hnote, logicalLinesAt_cons, logicalLineAt_zero, if_pos hnote,
          if_pos hnote]
        dsimp only
        rw [ihclosed]
        split <;> rfl
      · intro run hrun
        rw [logicalLines?, ofText_of_isNote hnote, Run.finish_of_isNote hrun hnote]
        exact ihopen run.skip (Nat.succ_pos _)
    | false =>
      simp only [Bool.false_eq_true, if_false]
      cases hline : runsOn line with
      | true =>
        obtain ⟨htext, -⟩ := ofText_of_runsOn hline
        constructor
        · rw [htext, ← Run.finish_start hline]
          exact ihopen (.start (saying line)) Nat.one_pos
        · intro run hrun
          rw [logicalLines?, htext, Run.finish_of_runsOn hrun hline]
          exact ihopen (run.extend (saying line)) (Nat.succ_pos _)
      | false =>
        obtain ⟨htext, hsaying⟩ := ofText_of_not_runsOn hnote hline
        constructor
        · have hmerged : merged (firstRun (line :: withoutNotes rest)) = line.trimEnd := by
            simp [firstRun, hline, merged, hsaying]
          rw [htext, logicalLinesAt_cons, logicalLineAt_zero, hmerged, hnote, hline]
          dsimp only
          rw [ihclosed]
          split <;> rfl
        · intro run hrun
          rw [logicalLines?, htext, Run.finish_of_not_runsOn hrun hnote hline]
          dsimp only
          rw [ihclosed]
          split <;> rfl

/-- A source that ends inside a run has no logical lines. -/
lemma logicalLines_of_open {source : Text} (h : isOpenAfter false (physicalLines source)) :
    logicalLines source = .error (.openContinuation ((physicalLines source).length - 1)) := by
  rw [logicalLines, (logicalLines?_eq (physicalLines source)).1, if_pos h]

lemma logicalLines_of_closed {source : Text}
    (h : isOpenAfter false (physicalLines source) = false) :
    logicalLines source = .ok (logicalLinesAt false (physicalLines source)) := by
  rw [logicalLines, (logicalLines?_eq (physicalLines source)).1, if_neg (by simp [h])]

lemma eq_of_logicalLines {source : Text} {lines : List Text} (h : logicalLines source = .ok lines) :
    lines = logicalLinesAt false (physicalLines source) := by
  cases hopen : isOpenAfter false (physicalLines source) with
  | true =>
    rw [logicalLines_of_open hopen] at h
    cases h
  | false =>
    rw [logicalLines_of_closed hopen] at h
    exact (Except.ok.inj h).symm

/-- The logical lines of a source, all of them by their numbers. There are none exactly when the
last line that is no note runs on, and that is reported at the last line. -/
theorem logicalLines_eq (source : Text) :
    logicalLines source =
      if isOpenAfter false (physicalLines source) then
        .error (.openContinuation ((physicalLines source).length - 1))
      else
        .ok ((List.range (physicalLines source).length).map
          (logicalLineAt false (physicalLines source))) := by
  rw [logicalLines, (logicalLines?_eq (physicalLines source)).1, logicalLinesAt]
  cases isOpenAfter false (physicalLines source) <;> rfl

example : logicalLines "  a \\ \n ; note\n   b\nc \n".toList =
    .ok (["  a b", "", "", "c"].map String.toList) := by decide +kernel

end Source
end OutlineMarkup

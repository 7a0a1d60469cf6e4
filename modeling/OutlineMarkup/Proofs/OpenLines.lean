import Mathlib.Tactic.Common
import OutlineMarkup.Indentation

/-! Which lines are open. After any number of lines, an earlier line is still open when no later one
is as narrow or narrower. So the innermost open line around a new one is the nearest earlier line
that is narrower, however far the margins went in and out before. -/
namespace OutlineMarkup.Frame

variable {α : Type}

/-- The lines that are open after some lines. The latest line comes first on both sides. -/
def openAfter : List (Frame α) → List (Frame α)
  | [] => []
  | last :: past => last :: (openAfter past).dropWhile (last.width ≤ ·.width)

lemma dropWhile_dropWhile_of_imp {p q : Frame α → Bool} (h : ∀ frame, q frame → p frame)
    (frames : List (Frame α)) : (frames.dropWhile q).dropWhile p = frames.dropWhile p := by
  induction frames with
  | nil => rfl
  | cons frame frames ih =>
    by_cases hq : q frame
    · rw [List.dropWhile_cons_of_pos hq, List.dropWhile_cons_of_pos (h frame hq), ih]
    · rw [List.dropWhile_cons_of_neg hq]

/-- Widths fall strictly from each open line to the next one outside it. -/
lemma width_lt_of_mem_dropWhile {frames : List (Frame α)} (width : Nat)
    (h : frames.Pairwise fun inner outer => outer.width < inner.width) :
    ∀ frame ∈ frames.dropWhile (width ≤ ·.width), frame.width < width := by
  induction frames with
  | nil => simp
  | cons last frames ih =>
    obtain ⟨hlast, hframes⟩ := List.pairwise_cons.1 h
    by_cases hw : width ≤ last.width
    · rw [List.dropWhile_cons_of_pos (by simpa using hw)]
      exact ih hframes
    · rw [List.dropWhile_cons_of_neg (by simpa using hw)]
      intro frame hf
      rcases List.mem_cons.1 hf with rfl | hf
      · omega
      · have := hlast frame hf
        omega

lemma pairwise_openAfter (past : List (Frame α)) :
    (openAfter past).Pairwise fun inner outer => outer.width < inner.width := by
  induction past with
  | nil => exact .nil
  | cons last past ih =>
    exact .cons (width_lt_of_mem_dropWhile last.width ih)
      (ih.sublist (List.dropWhile_sublist _))

/-- The innermost open line narrower than a width is the latest line narrower than it. -/
theorem head?_dropWhile_openAfter (width : Nat) (past : List (Frame α)) :
    ((openAfter past).dropWhile (width ≤ ·.width)).head? = past.find? (·.width < width) := by
  induction past with
  | nil => rfl
  | cons last past ih =>
    by_cases hw : width ≤ last.width
    · rw [openAfter, List.dropWhile_cons_of_pos (by simpa using hw),
        List.find?_cons_of_neg (by simpa using hw), ← ih,
        dropWhile_dropWhile_of_imp fun frame hf => by simp at hf ⊢; omega]
    · rw [openAfter, List.dropWhile_cons_of_neg (by simpa using hw),
        List.find?_cons_of_pos (by simpa using hw), List.head?_cons]

/-- The lines around a new line are those open lines that are narrower. -/
lemma eq_dropWhile_of_enclosing? {width : Nat} {frames around : List (Frame α)}
    (hframes : frames.Pairwise fun inner outer => outer.width < inner.width)
    (h : enclosing? width frames = some around) :
    around = frames.dropWhile (width ≤ ·.width) := by
  unfold enclosing? at h
  split at h
  · cases h
    rfl
  · next inner outer =>
    split at h
    · next hw =>
      cases h
      rw [List.dropWhile_cons_of_neg (by simpa using hw)]
    · split at h
      · next same around' hd =>
        split at h
        · next hsame =>
          cases h
          have hp : (same :: around).Pairwise fun inner outer => outer.width < inner.width := by
            rw [← hd]
            exact hframes.sublist (List.dropWhile_sublist _)
          have haround : around.dropWhile (width ≤ ·.width) = around := by
            cases around with
            | nil => rfl
            | cons next around =>
              have := (List.pairwise_cons.1 hp).1 next (by simp)
              rw [List.dropWhile_cons_of_neg (by simp; omega)]
          rw [← dropWhile_dropWhile_of_imp (q := (width < ·.width))
              fun frame hf => by simp at hf ⊢; omega,
            hd, List.dropWhile_cons_of_pos (by simp [hsame]), haround]
        · cases h
      · cases h

/-- Opening a line after others leaves open exactly the lines around it. -/
theorem openAfter_cons_of_enclosing? {past around : List (Frame α)} (frame : Frame α)
    (h : enclosing? frame.width (openAfter past) = some around) :
    openAfter (frame :: past) = frame :: around := by
  rw [openAfter, eq_dropWhile_of_enclosing? (pairwise_openAfter past) h]

theorem head?_of_enclosing? {width : Nat} {past around : List (Frame α)}
    (h : enclosing? width (openAfter past) = some around) :
    around.head? = past.find? (·.width < width) := by
  rw [eq_dropWhile_of_enclosing? (pairwise_openAfter past) h, head?_dropWhile_openAfter]

/-- A new line meets no open line when it is narrower than the latest one, and the latest one that
is not wider is narrower still. -/
theorem enclosing?_openAfter_eq_none_iff {width : Nat} {past : List (Frame α)} :
    enclosing? width (openAfter past) = none ↔
      past.head?.any (width < ·.width) ∧ (past.find? (·.width ≤ width)).all (·.width < width) := by
  cases past with
  | nil => simp [openAfter, enclosing?]
  | cons last past =>
    have hhead : ((openAfter (last :: past)).dropWhile (width < ·.width)).head? =
        (last :: past).find? (·.width ≤ width) := by
      simpa only [Nat.lt_succ_iff, Nat.succ_le_iff] using
        head?_dropWhile_openAfter (width + 1) (last :: past)
    have hlast : last.width ≤ width → (last :: past).find? (·.width ≤ width) = some last := by
      intro hle
      rw [List.find?_cons_of_pos (by simpa using hle)]
    rw [openAfter] at hhead ⊢
    simp only [enclosing?, List.head?_cons, Option.any_some, decide_eq_true_eq]
    by_cases hw : last.width < width
    · simp only [hw, if_true, reduceCtorEq, false_iff, not_and]
      omega
    · rw [if_neg hw]
      cases hdrop : (last :: (openAfter past).dropWhile (last.width ≤ ·.width)).dropWhile
          (width < ·.width) with
      | nil =>
        rw [hdrop, List.head?_nil] at hhead
        rw [← hhead]
        simp only [Option.all_none, and_true, true_iff]
        by_contra hn
        rw [hlast (by omega)] at hhead
        cases hhead
      | cons same around =>
        rw [hdrop, List.head?_cons] at hhead
        have hle : same.width ≤ width := by simpa using List.find?_some hhead.symm
        rw [← hhead]
        simp only [Option.all_some, decide_eq_true_eq]
        by_cases hs : same.width = width
        · simp [hs]
        · simp only [hs, if_false, true_iff]
          refine ⟨?_, by omega⟩
          by_contra hn
          rw [hlast (by omega)] at hhead
          cases hhead
          omega

end OutlineMarkup.Frame

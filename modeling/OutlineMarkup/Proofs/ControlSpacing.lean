import OutlineMarkup.Proofs.LineFaults
import OutlineMarkup.Proofs.LineWidths
import OutlineMarkup.Proofs.ListSpacing

/-! Spaces before the separator of a control line. Behind the data of a tag they make no difference,
as data is trimmed. Behind a tag without data they make none either, unless there is exactly one: a
single space is neither nothing nor the beginning of data, and the line is refused for it. -/
namespace OutlineMarkup.Line

def spaces (n : Nat) : Text := List.replicate n ' '

@[simp] lemma mem_spaces {n : Nat} {c : Char} : c ∈ spaces n ↔ n ≠ 0 ∧ c = ' ' := List.mem_replicate

lemma isBlank_of_mem_spaces {n : Nat} : ∀ c ∈ spaces n, Text.isBlank c := by
  intro c hc
  rw [(mem_spaces.1 hc).2]
  rfl

section Inline

variable {t : Text} {n : Nat}

lemma isInline_append_spaces (h : isInline t) (n : Nat) : isInline (t ++ spaces n) := by
  obtain ⟨blanks, line, rfl, hne, hblanks, hline⟩ := isInline_iff.1 h
  refine isInline_iff.2 ⟨blanks, line ++ spaces n, by simp, hne, hblanks, ?_⟩
  simp only [isOneLine, Bool.and_eq_true, Bool.not_eq_true', List.isEmpty_eq_false_iff,
    List.contains_eq_mem, decide_eq_false_iff_not] at hline ⊢
  exact ⟨by simp [hline.1], by simp [hline.2]⟩

/-- Two spaces may stand behind a tag, as a blank and a line; one may not. -/
lemma isInline_spaces_iff : isInline (spaces n) ↔ 2 ≤ n := by
  rcases n with _ | _ | n
  · simp [spaces, isInline]
  · simp [spaces, isInline, isOneLine]
  · have hline : isOneLine (spaces (n + 1)) := by simp [isOneLine, spaces]
    have hspaces : isInline (' ' :: spaces (n + 1)) := by
      rw [isInline, hline]
      rfl
    exact iff_of_true hspaces (by omega)

lemma trim_append_spaces (t : Text) (n : Nat) : (t ++ spaces n).trim = t.trim := by
  have hnone : ∀ c ∈ ([] : Text), Text.isBlank c := by simp
  exact Text.trim_append_of_blank hnone isBlank_of_mem_spaces t

/-- Spaces behind what follows a tag do not change what it says, but a single space behind nothing
may not stand there. -/
lemma inline?_append_spaces {inline : Option Text} (h : inline? t = some inline) (n : Nat) :
    (inline? (t ++ spaces n)).map contentOf =
      if t = [] ∧ n = 1 then none else some (contentOf inline) := by
  by_cases ht : t = []
  · rw [ht] at h ⊢
    cases h
    rw [List.nil_append, inline?]
    rcases n with _ | _ | n
    · rfl
    · rfl
    · have hinline : isInline (spaces (n + 2)) := isInline_spaces_iff.2 (by omega)
      have htrim : (spaces (n + 2)).trim = [] := trim_append_spaces [] (n + 2)
      rw [if_neg (by simp [spaces]), if_pos hinline, if_neg (by omega)]
      exact congrArg some htrim
  · have hinline : isInline t := by
      by_contra hinline
      simp [inline?, ht, hinline] at h
    rw [inline?, if_neg (by simpa using ht), if_pos hinline] at h
    cases h
    rw [inline?, if_neg (by simp [ht]), if_pos (isInline_append_spaces hinline n),
      if_neg (by simp [ht])]
    exact congrArg some (trim_append_spaces t n)

end Inline

namespace ControlLine

variable {tag rest line : Text}

/-- Whether a line is a dash and a tag, with nothing behind it. -/
def isBare (line : Text) : Bool := line.tail.all Text.isWord

lemma exists_of_ofText? {parts : ControlLine} (h : ofText? line = some parts) :
    ∃ rest, line = '-' :: (parts.tag ++ rest) ∧ parts.tag ≠ [] ∧
      (∀ c ∈ parts.tag, Text.isWord c) ∧ inline? rest = some parts.data := by
  unfold ofText? at h
  split at h
  · next t =>
    split at h
    · cases h
    · next hne =>
      obtain ⟨data, hdata, rfl⟩ := Option.map_eq_some_iff.1 h
      refine ⟨t.dropWhile Text.isWord, by simp, by simpa using hne, ?_, hdata⟩
      exact fun c hc => List.mem_takeWhile_imp hc
  · cases h

lemma isBare_cons_iff (hword : ∀ c ∈ tag, Text.isWord c)
    (hrest : ∀ c ∈ rest.head?, Text.isBlank c) : isBare ('-' :: (tag ++ rest)) ↔ rest = [] := by
  cases rest with
  | nil => simpa [isBare] using hword
  | cons c rest => simp [isBare, Text.isWord_eq_false_of_isBlank (hrest c rfl)]

end ControlLine

/-- Spaces behind a control line do not change what it says, but a single space behind a bare tag
makes it none. -/
theorem head_append_spaces {line : Text} {first : Head} (h : head .control line = .ok first)
    (n : Nat) :
    head .control (line ++ spaces n) =
      if ControlLine.isBare line ∧ n = 1 then .error (.noMatch .control (line ++ spaces n))
      else .ok first := by
  rw [head] at h
  split at h
  · cases h
  · next parts hparts =>
    cases h
    obtain ⟨rest, rfl, hne, hword, hinline⟩ := ControlLine.exists_of_ofText? hparts
    have hrest := isBlank_head_of_inline? hinline
    rw [getD_of_inline? hinline] at hrest
    have hpadded : ∀ c ∈ (rest ++ spaces n).head?, Text.isBlank c := by
      cases rest with
      | nil => exact fun c hc => isBlank_of_mem_spaces c (List.mem_of_head? hc)
      | cons d rest => exact hrest
    have hspaced := inline?_append_spaces hinline n
    rw [List.cons_append, List.append_assoc, head, ControlLine.ofText?_cons hne hword hpadded]
    simp only [ControlLine.isBare_cons_iff hword hrest]
    split_ifs at hspaced ⊢ with hcase
    · rw [Option.map_eq_none_iff.1 hspaced]
      rfl
    · obtain ⟨data, hdata, hcontent⟩ := Option.map_eq_some_iff.1 hspaced
      rw [hdata]
      simp [ControlLine.node, hcontent]

/-- A control line that stands alone: it is accepted by itself, its quotes and brackets are closed,
no colon outside of them has white space behind it, and none is its last character. -/
structure StandsAlone (line : Text) : Prop where
  dash : line.head? = some '-'
  accepted : ∃ planted id, plant {} line = (planted, .ok id)
  closed : (Cursor.along {} line).isOutside
  whole : ∀ before after, line = before ++ ':' :: after → (Cursor.along {} before).isOutside →
    startsBlank after = false
  unended : line.getLast? ≠ some ':'

lemma opening_of_dash {line : Text} (h : line.head? = some '-') (rest : Text) :
    Opening.ofText (line ++ rest) = .tag .control [] := by
  obtain ⟨tail, rfl⟩ := List.head?_eq_some_iff.1 h
  rfl

lemma standsAlone_of_head {line : Text} {first : Head} (hdash : line.head? = some '-')
    (hhead : head .control line = .ok first) (hclosed : (Cursor.along {} line).isOutside)
    (hwhole : split? .control line = none) (hlast : line.getLast? ≠ some ':') :
    StandsAlone line := by
  have hopening : Opening.ofText line = .tag .control [] := by
    simpa using opening_of_dash hdash []
  have hread := read_of_split?_eq_none hopening hwhole
  refine ⟨hdash, ?_, hclosed, split?_control_eq_none_iff.1 hwhole, hlast⟩
  rw [plant, hread, hhead]
  simp [Reading.plant, Head.plant, content_of_head_control hhead]

namespace StandsAlone

variable {line : Text} (h : StandsAlone line)
include h

lemma exists_head : ∃ first, head .control line = .ok first := by
  have hopening : Opening.ofText line = .tag .control [] := by
    simpa using opening_of_dash h.dash []
  have hread := read_of_split?_eq_none hopening (split?_control_eq_none_iff.2 h.whole)
  obtain ⟨planted, id, hplant⟩ := h.accepted
  cases hhead : head .control line with
  | ok first => exact ⟨first, rfl⟩
  | error fault =>
    rw [hhead] at hread
    rw [plant, hread] at hplant
    cases hplant

lemma crosses_append_spaces (n : Nat) (rest : Text) :
    Crosses .control (':' :: rest) {} (line ++ spaces n) := by
  have hstart := Cursor.eq_start_of_isOutside h.closed
  have hline : Crosses .control (spaces n ++ ':' :: rest) {} line :=
    ⟨passes_of_splitFrom?_eq_none (split?_control_eq_none_iff.2 h.whole)
      fun hlast => absurd hlast h.unended, hstart⟩
  refine hline.append ⟨passes_of_splitFrom?_eq_none ?_ fun _ => rfl, ?_⟩
  · apply split?_control_eq_none_iff.2
    intro before after hspaces
    have hcolon : ':' ∈ spaces n := by simp [hspaces]
    cases (mem_spaces.1 hcolon).2
  · exact Cursor.along_eq_self fun c hc =>
      Cursor.step_of_isCalm (Cursor.isCalm_of_isBlank (isBlank_of_mem_spaces c hc)) rfl

/-- The search for a separator passes over the line and the spaces behind it. -/
lemma split?_append_spaces (n : Nat) {rest : Text} (hrest : rest.trim = rest) :
    split? .control (line ++ spaces n ++ ':' :: ' ' :: rest) = some (line ++ spaces n, rest) := by
  have hinner : Text.trimStart (' ' :: rest) = rest := Text.trimStart_of_trim hrest
  rw [(h.crosses_append_spaces n (' ' :: rest)).split?_separator rfl, hinner]

/-- A line nested in another one behind spaces is read with the head that the spaces leave. -/
lemma read_append_spaces (n : Nat) {rest : Text} (hrest : rest.trim = rest) :
    read (line ++ spaces n ++ ':' :: ' ' :: rest) =
      match head .control (line ++ spaces n) with
      | .error fault => .faulty fault
      | .ok first => .nested first (read rest) := by
  have hopening : Opening.ofText (line ++ spaces n ++ ':' :: ' ' :: rest) = .tag .control [] := by
    rw [List.append_assoc]
    exact opening_of_dash h.dash _
  exact read_of_split?_eq_some hopening (h.split?_append_spaces n hrest)

end StandsAlone

lemma outcome_eq_error_iff {tree : Tree} {line : Text} {fault : Fault} :
    outcome tree line = .error fault ↔ fault? line = some fault := by
  have hplant : outcome tree line = .error fault ↔
      ∃ planted, plant tree line = (planted, .error fault) := by
    unfold outcome
    rcases plant tree line with ⟨planted, other | id⟩ <;> simp [Except.map]
  rw [hplant, plant_eq_error_iff, fault?_eq_some_iff]

/-- Of a line and the tag around it, only the line can be one that matches no form. -/
lemma Reading.sprout_nested_eq_noMatch_iff {first : Head} (hcontent : first.content = [])
    {inner : Reading} {form : TagForm} {text : Text} :
    (nested first inner).sprout = .error (.noMatch form text) ↔
      inner.sprout = .error (.noMatch form text) := by
  have hfirst : first.sprout = .ok (first.node, first.contentForest) := by
    simp [Head.sprout, hcontent]
  rw [Reading.sprout, hfirst]
  cases inner.sprout with
  | error fault => rfl
  | ok sprout =>
    dsimp only
    split_ifs <;> simp

/-- Spaces before the separator of a control line make no difference, except for a single one behind
a bare tag. The line is then refused, and without the space it comes to the same only if the line
behind the separator is refused with the very same words. -/
theorem outcome_append_spaces (tree : Tree) {line : Text} (h : StandsAlone line) (n : Nat)
    {rest : Text} (hrest : rest.trim = rest) :
    (ControlLine.isBare line ∧ n = 1 → outcome tree (line ++ spaces n ++ ':' :: ' ' :: rest) =
      .error (.noMatch .control (line ++ [' ']))) ∧
    (outcome tree (line ++ spaces n ++ ':' :: ' ' :: rest) =
        outcome tree (line ++ ':' :: ' ' :: rest) ↔
      (ControlLine.isBare line ∧ n = 1 →
        fault? rest = some (.noMatch .control (line ++ [' '])))) := by
  obtain ⟨first, hfirst⟩ := h.exists_head
  have hplain := h.read_append_spaces 0 hrest
  have hspaced := h.read_append_spaces n hrest
  have hnone : line ++ spaces 0 = line := List.append_nil line
  rw [hnone, hfirst] at hplain
  rw [head_append_spaces hfirst n] at hspaced
  by_cases hcase : ControlLine.isBare line ∧ n = 1
  · obtain ⟨-, rfl⟩ := id hcase
    rw [if_pos hcase] at hspaced
    have hrefused : outcome tree (line ++ spaces 1 ++ ':' :: ' ' :: rest) =
        .error (.noMatch .control (line ++ [' '])) := by
      rw [outcome, plant, hspaced]
      rfl
    refine ⟨fun _ => hrefused, ?_⟩
    have hcontent : first.content = [] := content_of_head_control hfirst
    rw [hrefused, eq_comm, outcome_eq_error_iff, fault?_eq_some_iff, hplain,
      Reading.sprout_nested_eq_noMatch_iff hcontent, ← fault?_eq_some_iff]
    exact ⟨fun hfault _ => hfault, fun hfault => hfault hcase⟩
  · rw [if_neg hcase] at hspaced
    refine ⟨fun hbare => absurd hbare hcase, iff_of_true ?_ fun hbare => absurd hbare hcase⟩
    rw [outcome, outcome, plant, plant, hspaced, hplain]

/-- Three spaces behind data do not matter, though the data holds a separator in brackets and one in
quotes. -/
theorem outcome_append_spaces_behind_data :
    StandsAlone "-if a[1: 2] == ': '".toList ∧
      outcome {} "-if a[1: 2] == ': '   : %p: b".toList =
        outcome {} "-if a[1: 2] == ': ': %p: b".toList := by
  have halone : StandsAlone "-if a[1: 2] == ': '".toList :=
    standsAlone_of_head rfl rfl rfl rfl (by decide)
  have hrest : Text.trim "%p: b".toList = "%p: b".toList := rfl
  refine ⟨halone, (outcome_append_spaces {} halone 3 hrest).2.2 ?_⟩
  rintro ⟨hbare, -⟩
  cases hbare

/-- A bare tag is accepted before a separator, and refused with a space between them. -/
theorem space_behind_bare_tag :
    StandsAlone "-else".toList ∧
      (∃ planted, outcome {} "-else: x".toList = .ok (planted, 1)) ∧
      outcome {} "-else : x".toList = .error (.noMatch .control "-else ".toList) := by
  have halone : StandsAlone "-else".toList := standsAlone_of_head rfl rfl rfl rfl (by decide)
  have hinner : read "x".toList = .single { node := .text "x".toList } := by rw [read_eq]; rfl
  have hplain : split? .control "-else: x".toList = some ("-else".toList, "x".toList) := rfl
  have hspaced : split? .control "-else : x".toList = some ("-else ".toList, "x".toList) := rfl
  refine ⟨halone, ?_, ?_⟩
  · rw [outcome, plant, read_of_split?_eq_some rfl hplain, hinner]
    exact ⟨_, rfl⟩
  · rw [outcome, plant, read_of_split?_eq_some rfl hspaced]
    rfl

end OutlineMarkup.Line

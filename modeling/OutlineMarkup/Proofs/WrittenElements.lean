import OutlineMarkup.Proofs.ElementText
import OutlineMarkup.Proofs.Planting

/-! Reading back a written element. Its attributes are added in the order they are written, and the
first key that is given twice, `class` apart, is reported before anything is planted. -/
namespace OutlineMarkup

namespace Attributes

/-- The first key that was seen before, `class` apart. -/
def firstRepeat? (seen : List Text) : List Text → Option Text
  | [] => none
  | key :: rest =>
    if key ∈ seen ∧ key ≠ classKey then some key else firstRepeat? (key :: seen) rest

lemma firstRepeat?_eq_none {seen keys : List Text} (hnodup : (keys.filter (· ≠ classKey)).Nodup)
    (hnew : ∀ key ∈ keys, key ≠ classKey → key ∉ seen) : firstRepeat? seen keys = none := by
  induction keys generalizing seen with
  | nil => rfl
  | cons key rest ih =>
    rw [firstRepeat?, if_neg fun h => hnew key (by simp) h.2 h.1]
    apply ih
    · exact hnodup.sublist ((List.sublist_cons_self key rest).filter _)
    · intro other hother hclass
      rw [List.mem_cons, not_or]
      refine ⟨?_, hnew other (by simp [hother]) hclass⟩
      rintro rfl
      rw [List.filter_cons_of_pos (by simpa using hclass), List.nodup_cons] at hnodup
      exact hnodup.1 (List.mem_filter.2 ⟨hother, by simpa using hclass⟩)

lemma isSome_get?_iff {attributes : Attributes} {key : Text} :
    (attributes.get? key).isSome ↔ key ∈ attributes.entries.map Prod.fst := by
  simp [get?]

/-- Another value for a key leaves the keys as they are. -/
lemma keys_replace (attributes : Attributes) (key value : Text) :
    (attributes.replace key value).entries.map Prod.fst = attributes.entries.map Prod.fst := by
  rw [replace, List.map_map]
  apply List.map_congr_left
  intro entry _
  by_cases he : entry.1 = key <;> simp [he]

/-- Adding a value makes its key one that is there, and no other. -/
lemma isSome_get?_of_add {attributes next : Attributes} {key value tag : Text}
    (h : attributes.add key value tag = .ok next) (other : Text) :
    (next.get? other).isSome ↔ other = key ∨ (attributes.get? other).isSome := by
  unfold add at h
  simp only [isSome_get?_iff]
  split at h
  · cases h
    simp [or_comm]
  · next present hpresent =>
    have hkey : key ∈ attributes.entries.map Prod.fst :=
      isSome_get?_iff.1 (Option.isSome_of_eq_some hpresent)
    split at h
    · cases h
      rw [keys_replace]
      constructor
      · exact .inr
      · rintro (rfl | hother)
        · exact hkey
        · exact hother
    · cases h

/-- Adding several values is refused at the first key that is given again. -/
theorem addAll_cases {attributes : Attributes} {seen : List Text}
    (hseen : ∀ key, key ∈ seen ↔ (attributes.get? key).isSome) (tag : Text)
    (entries : List (Text × Text)) :
    match firstRepeat? seen (entries.map Prod.fst) with
    | some key => attributes.addAll tag entries = .error (.duplicateAttribute key tag)
    | none => ∃ filled, attributes.addAll tag entries = .ok filled := by
  induction entries generalizing attributes seen with
  | nil => exact ⟨attributes, rfl⟩
  | cons entry entries ih =>
    obtain ⟨key, value⟩ := entry
    rw [List.map_cons, firstRepeat?, addAll]
    by_cases hrepeat : key ∈ seen ∧ key ≠ classKey
    · have hrefused : attributes.add key value tag = .error (.duplicateAttribute key tag) :=
        add_eq_error_iff.2 ⟨(hseen key).1 hrepeat.1, hrepeat.2, rfl⟩
      simp only [if_pos hrepeat, hrefused]
    · cases hadd : attributes.add key value tag with
      | error fault =>
        obtain ⟨hget, hclass, -⟩ := add_eq_error_iff.1 hadd
        exact absurd ⟨(hseen key).2 hget, hclass⟩ hrepeat
      | ok next =>
        simp only [if_neg hrepeat]
        apply ih
        intro other
        rw [List.mem_cons, hseen, isSome_get?_of_add hadd]

lemma addAll_start_cases (tag : Text) (entries : List (Text × Text)) :
    match firstRepeat? [] (entries.map Prod.fst) with
    | some key => Attributes.addAll {} tag entries = .error (.duplicateAttribute key tag)
    | none => ∃ filled, Attributes.addAll {} tag entries = .ok filled :=
  addAll_cases (by simp) tag entries

end Attributes

namespace Line

/-- A tag line without a separator is read as its tag. -/
lemma read_of_split?_eq_none {form : TagForm} {line : Text}
    (hopening : Opening.ofText line = .tag form []) (hsplit : split? form line = none) :
    read line =
      match head form line with
      | .error fault => .faulty fault
      | .ok head => .single head := by
  rw [read_eq, hopening]
  cases hhead : head form line <;> simp only [hsplit, List.nil_append, hhead]

/-- A tag line with a separator is read as its tag around the rest of the line. -/
lemma read_of_split?_eq_some {form : TagForm} {line text rest : Text}
    (hopening : Opening.ofText line = .tag form [])
    (hsplit : split? form line = some (text, rest)) :
    read line =
      match head form text with
      | .error fault => .faulty fault
      | .ok head => .nested head (read rest) := by
  rw [read_eq, hopening]
  cases hhead : head form text <;> simp only [hsplit, List.nil_append, hhead]

/-- A control line is a dash, a tag and what may follow a tag. -/
lemma ControlLine.ofText?_cons {tag rest : Text} (hne : tag ≠ [])
    (hword : ∀ c ∈ tag, Text.isWord c) (hrest : ∀ c ∈ rest.head?, Text.isBlank c) :
    ofText? ('-' :: (tag ++ rest)) = (inline? rest).map fun data => ⟨tag, data⟩ := by
  have hstop : ∀ c ∈ rest.head?, Text.isWord c = false :=
    fun c hc => Text.isWord_eq_false_of_isBlank (hrest c hc)
  rw [ofText?, Text.takeWhile_append_eq hword hstop, Text.dropWhile_append_eq hword hstop,
    if_neg (by simpa using hne)]

def behindTag (content : Text) : Text := if content = [] then [] else ' ' :: content

lemma inline?_behindTag {content : Text} (htrim : content.trim = content)
    (hline : '\n' ∉ content) :
    ∃ inline, inline? (behindTag content) = some inline ∧ contentOf inline = content := by
  by_cases hcontent : content = []
  · exact ⟨none, by simp [behindTag, hcontent, inline?], by simp [hcontent, contentOf]⟩
  · refine ⟨some (' ' :: content), ?_, htrim⟩
    have hblank : Text.isBlank ' ' := rfl
    simp [behindTag, hcontent, inline?, isInline, isOneLine, hblank, hline]

lemma isBlank_head_behindTag {content : Text} :
    ∀ c ∈ (behindTag content).head?, Text.isBlank c := by
  intro c hc
  unfold behindTag at hc
  split at hc
  · cases hc
  · cases hc
    rfl

namespace ElementText

variable (element : ElementText) {content : Text}

def lineWith (content : Text) : Text := element.toText ++ behindTag content

/-- A written line gives its element with its content, unless an attribute is refused. -/
lemma head_lineWith (htrim : content.trim = content) (hline : '\n' ∉ content)
    (hvoid : Tag.isVoidElement element.tag → content = []) :
    head .element (element.lineWith content) =
      (Attributes.addAll {} element.tag element.entries).map fun attributes =>
        ⟨.ofElement ⟨element.tag, attributes, element.condensed⟩, content⟩ := by
  obtain ⟨inline, hinline, hcontent⟩ := inline?_behindTag htrim hline
  have hparts : ElementLine.ofText? (element.lineWith content) = some (element.parts inline) := by
    rw [lineWith, element.ofText?_append isBlank_head_behindTag, hinline]
    rfl
  have hallowed : ¬ (Tag.isVoidElement element.tag && !content.isEmpty) := by
    intro h
    rw [Bool.and_eq_true, Bool.not_eq_true'] at h
    simp [hvoid h.1] at h
  simp only [head, hparts]
  rw [ElementLine.node, element.attributes_parts]
  cases Attributes.addAll {} element.tag element.entries with
  | error fault => rfl
  | ok attributes =>
    simp only [parts, hcontent, if_neg hallowed]
    rfl

end ElementText

end Line
end OutlineMarkup

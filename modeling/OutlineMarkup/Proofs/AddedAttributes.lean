import Mathlib.Data.List.Induction
import OutlineMarkup.Proofs.RenderedAttributes

/-! Attributes added one after another, with additions that are refused among them. What is there in
the end can be read off the calls: each key once, where it was given first, with its first value;
and for `class` all values that are not blank, in order and with single spaces between them. The
value of `class` is put together and trimmed anew by every addition, and stays the same text as if
it were joined once. -/
namespace OutlineMarkup

namespace Text

variable {s t : Text}

lemma trimEnd_append_of_filled (h : t.trimEnd ≠ []) : (s ++ t).trimEnd = s ++ t.trimEnd := by
  have hne : (t.reverse.dropWhile isBlank).isEmpty = false := by
    simpa [trimEnd] using h
  rw [trimEnd, List.reverse_append, List.dropWhile_append, hne, if_neg (by simp),
    List.reverse_append, List.reverse_reverse, trimEnd]

/-- Two trimmed texts with a space between them are trimmed, unless one of them is empty. -/
lemma trim_spaced (hs : s.trim = s) (ht : t.trim = t) :
    trim (s ++ ' ' :: t) = if s = [] then t else if t = [] then s else s ++ ' ' :: t := by
  have hspace : ∀ c ∈ [' '], isBlank c := by simp [isBlank]
  have hnone : ∀ c ∈ ([] : Text), isBlank c := by simp
  split_ifs with hs' ht'
  · rw [hs']
    have hpad := trim_append_of_blank hspace hnone t
    rwa [List.append_nil, ht] at hpad
  · rw [ht']
    exact (trim_append_of_blank hnone hspace s).trans hs
  · obtain ⟨c, rest, rfl⟩ := List.exists_cons_of_ne_nil hs'
    have hfirst : isBlank c = false := isBlank_of_trimStart (trimStart_of_trim hs)
    have hlast : t.trimEnd = t := by
      conv_lhs => rw [← trimStart_of_trim ht]
      exact ht
    have hstart : trimStart (c :: rest ++ ' ' :: t) = (c :: rest ++ [' ']) ++ t := by
      simp [trimStart, hfirst]
    rw [trim, hstart, trimEnd_append_of_filled (by rwa [hlast]), hlast]
    simp

/-- Texts joined by single spaces, the empty ones left out. -/
def joined (values : List Text) : Text := List.intercalate [' '] (values.filter (· ≠ []))

lemma intercalate_concat (separator last : Text) (values : List Text) :
    List.intercalate separator (values ++ [last]) =
      if values = [] then last else List.intercalate separator values ++ separator ++ last := by
  induction values with
  | nil => simp
  | cons value rest ih =>
    cases rest with
    | nil => simp [List.intercalate_cons_cons]
    | cons next rest =>
      rw [List.cons_append, List.cons_append, List.intercalate_cons_cons, ← List.cons_append, ih]
      simp [List.intercalate_cons_cons]

lemma joined_eq_nil_iff {values : List Text} :
    joined values = [] ↔ values.filter (· ≠ []) = [] := by
  have hfilled : ∀ value ∈ values.filter (· ≠ []), value ≠ [] := by
    intro value hvalue
    simpa using (List.mem_filter.1 hvalue).2
  rw [joined]
  cases hvalues : values.filter (· ≠ []) with
  | nil => simp
  | cons value rest =>
    have hvalue := hfilled value (hvalues ▸ List.mem_cons_self)
    cases rest <;> simp [List.intercalate_cons_cons, hvalue]

lemma joined_concat (values : List Text) (value : Text) :
    joined (values ++ [value]) =
      if joined values = [] then value
      else if value = [] then joined values else joined values ++ ' ' :: value := by
  rw [joined, List.filter_append]
  by_cases hvalues : values.filter (· ≠ []) = []
  · rw [if_pos (joined_eq_nil_iff.2 hvalues), hvalues]
    by_cases hvalue : value = [] <;> simp [hvalue]
  · rw [if_neg (mt joined_eq_nil_iff.1 hvalues), joined]
    by_cases hvalue : value = []
    · simp [hvalue]
    · rw [if_neg hvalue, List.filter_cons_of_pos (by simpa using hvalue), List.filter_nil,
        intercalate_concat, if_neg hvalues, List.append_assoc, List.singleton_append]

/-- Joined values are trimmed when the values are, so joining one more and trimming the result is
joining them all. -/
lemma trim_joined_concat {values : List Text} (h : ∀ value ∈ values, value.trim = value)
    {value : Text} (hvalue : value.trim = value) :
    trim (joined values ++ ' ' :: value) = joined (values ++ [value]) := by
  have htrim : (joined values).trim = joined values := by
    induction values using List.reverseRecOn with
    | nil => rfl
    | append_singleton values last ih =>
      rw [List.forall_mem_append, List.forall_mem_singleton] at h
      have hjoined := ih h.1
      rw [joined_concat, ← trim_spaced hjoined h.2, trim_trim]
  rw [trim_spaced htrim hvalue, joined_concat]

end Text

namespace Attributes

/-- A program that changes attributes in place. What it has written before a fault stays written. -/
abbrev InPlace (α : Type) := ExceptT Fault (StateM Attributes) α

def InPlace.runOn {α : Type} (program : InPlace α) (attributes : Attributes) :
    Except Fault α × Attributes :=
  (ExceptT.run program).run attributes

structure Addition where
  key : Text
  value : Text
  tag : Text
  deriving Repr, DecidableEq

def Addition.perform (call : Addition) : InPlace Unit := do
  let attributes ← get
  match attributes.get? call.key with
  | none => set (Attributes.mk (attributes.entries ++ [(call.key, call.value.trim)]))
  | some present =>
    unless call.key = classKey do
      throw (.duplicateAttribute call.key call.tag)
    set (attributes.replace call.key (Text.trim (present ++ ' ' :: call.value.trim)))

/-- Adding in place leaves what was added behind, or the attributes as they were and the fault. -/
lemma Addition.runOn_perform (call : Addition) (attributes : Attributes) :
    call.perform.runOn attributes =
      match attributes.add call.key call.value call.tag with
      | .ok next => (.ok (), next)
      | .error fault => (.error fault, attributes) := by
  have hget : ∀ next : Attributes → InPlace Unit,
      InPlace.runOn (get >>= next) attributes = (next attributes).runOn attributes :=
    fun _ => rfl
  rw [Addition.perform, hget, add]
  cases attributes.get? call.key with
  | none => rfl
  | some present =>
    by_cases hclass : call.key = classKey
    · simp only [hclass, if_true]
      rfl
    · simp only [hclass, if_false]
      rfl

/-- The attributes that some calls leave behind, each run on what the one before has left, whether
that one was refused or not. -/
def after (calls : List Addition) : Attributes :=
  calls.foldl (fun attributes call => (call.perform.runOn attributes).2) {}

lemma after_concat (calls : List Addition) (call : Addition) :
    after (calls ++ [call]) = (call.perform.runOn (after calls)).2 := by
  rw [after, List.foldl_append]
  rfl

/-- The values that some calls give for a key, trimmed. -/
def given (calls : List Addition) (key : Text) : List Text :=
  (calls.filter (·.key = key)).map (·.value.trim)

section Given

variable {calls : List Addition} {call : Addition} {key : Text}

lemma given_concat_self : given (calls ++ [call]) call.key =
    given calls call.key ++ [call.value.trim] := by
  simp [given]

lemma given_concat_of_ne (h : key ≠ call.key) : given (calls ++ [call]) key = given calls key := by
  simp [given, h.symm]

lemma given_eq_nil_iff : given calls key = [] ↔ key ∉ calls.map Addition.key := by
  simp [given, List.filter_eq_nil_iff]

lemma trim_of_mem_given {value : Text} (h : value ∈ given calls key) : value.trim = value := by
  obtain ⟨call, -, rfl⟩ := List.mem_map.1 h
  exact Text.trim_trim call.value

end Given

/-- The value of a key after some calls: the first that was given, and for `class` all of them,
joined. -/
def valueOf? (calls : List Addition) (key : Text) : Option Text :=
  match given calls key with
  | [] => none
  | value :: values => some (if key = classKey then Text.joined (value :: values) else value)

lemma lookup_cons_eq (key value other : Text) (entries : List (Text × Text)) :
    List.lookup other ((key, value) :: entries) =
      if other = key then some value else List.lookup other entries := by
  by_cases h : other = key
  · simp [h]
  · rw [List.lookup_cons, beq_false_of_ne h, if_neg h]

lemma get?_append (entries : List (Text × Text)) (key value other : Text) :
    get? ⟨entries ++ [(key, value)]⟩ other =
      (get? ⟨entries⟩ other).or (if other = key then some value else none) := by
  rw [get?, List.lookup_append, lookup_cons_eq]
  rfl

lemma get?_replace (attributes : Attributes) (key value other : Text) :
    (attributes.replace key value).get? other =
      if other = key then (attributes.get? key).map fun _ => value else attributes.get? other := by
  obtain ⟨entries⟩ := attributes
  simp only [get?, replace]
  induction entries with
  | nil => simp
  | cons entry entries ih =>
    obtain ⟨first, present⟩ := entry
    by_cases hfirst : first = key
    · simp only [List.map_cons, lookup_cons_eq, ih, hfirst, if_true, Option.map_some]
      split_ifs <;> rfl
    · simp only [List.map_cons, if_neg hfirst, lookup_cons_eq, ih, Ne.symm hfirst, if_false]
      split_ifs with hother hkey
      · exact absurd (hother.symm.trans hkey) hfirst
      · rfl
      · rfl
      · rfl

section ValueOf

variable {calls : List Addition} {call : Addition} {key : Text}

lemma valueOf?_eq_none_iff : valueOf? calls key = none ↔ given calls key = [] := by
  unfold valueOf?
  cases given calls key <;> simp

lemma valueOf?_concat_of_ne (h : key ≠ call.key) :
    valueOf? (calls ++ [call]) key = valueOf? calls key := by
  rw [valueOf?, given_concat_of_ne h, ← valueOf?]

/-- The first value of a key is kept as it is, also for `class`. -/
lemma valueOf?_concat_first (h : valueOf? calls call.key = none) :
    valueOf? (calls ++ [call]) call.key = some call.value.trim := by
  have hjoined : Text.joined [call.value.trim] = call.value.trim :=
    Text.joined_concat [] call.value.trim
  rw [valueOf?, given_concat_self, valueOf?_eq_none_iff.1 h, List.nil_append]
  dsimp only
  rw [hjoined, ite_self]

/-- A later value changes nothing for a key other than `class`. -/
lemma valueOf?_concat_later (hclass : call.key ≠ classKey) (h : valueOf? calls call.key ≠ none) :
    valueOf? (calls ++ [call]) call.key = valueOf? calls call.key := by
  rw [valueOf?, valueOf?, given_concat_self]
  cases hgiven : given calls call.key with
  | nil => exact absurd (valueOf?_eq_none_iff.2 hgiven) h
  | cons value values => simp [hclass]

/-- A later value of `class` is joined to those before, and the result is trimmed already. -/
lemma valueOf?_concat_class (hclass : call.key = classKey) {present : Text}
    (h : valueOf? calls call.key = some present) :
    valueOf? (calls ++ [call]) call.key =
      some (Text.trim (present ++ ' ' :: call.value.trim)) := by
  have htrim : ∀ value ∈ given calls call.key, value.trim = value := fun _ => trim_of_mem_given
  rw [valueOf?] at h ⊢
  rw [given_concat_self]
  cases hgiven : given calls call.key with
  | nil => simp [hgiven] at h
  | cons value values =>
    rw [hgiven] at h htrim
    simp only [if_pos hclass, Option.some.injEq] at h
    rw [← h, Text.trim_joined_concat htrim (Text.trim_trim call.value), List.cons_append]
    simp only [if_pos hclass]

end ValueOf

/-- What some calls come to: the keys that were given, in the order in which each was given first,
with their values. -/
structure Tallies (calls : List Addition) (attributes : Attributes) : Prop where
  mem_keys_iff : ∀ key, key ∈ attributes.entries.map Prod.fst ↔ key ∈ calls.map Addition.key
  inOrder : (attributes.entries.map Prod.fst).Pairwise fun key other =>
    (calls.map Addition.key).idxOf key < (calls.map Addition.key).idxOf other
  get?_eq : ∀ key, attributes.get? key = valueOf? calls key

namespace Tallies

variable {calls : List Addition} {attributes : Attributes} {call : Addition}

lemma start : Tallies [] {} where
  mem_keys_iff := by simp
  inOrder := by simp
  get?_eq := by simp [valueOf?, given]

lemma mem_keys_concat_iff (h : Tallies calls attributes) (hget : attributes.get? call.key ≠ none)
    (key : Text) :
    key ∈ attributes.entries.map Prod.fst ↔ key ∈ (calls ++ [call]).map Addition.key := by
  have hkey : call.key ∈ calls.map Addition.key := by
    rwa [← h.mem_keys_iff, ← isSome_get?_iff, Option.isSome_iff_ne_none]
  rw [List.map_append, List.mem_append, h.mem_keys_iff, List.map_singleton, List.mem_singleton]
  refine (or_iff_left_of_imp ?_).symm
  rintro rfl
  exact hkey

/-- One more call does not change which of two keys was given first. -/
lemma inOrder_concat (h : Tallies calls attributes) (call : Addition) :
    (attributes.entries.map Prod.fst).Pairwise fun key other =>
      ((calls ++ [call]).map Addition.key).idxOf key <
        ((calls ++ [call]).map Addition.key).idxOf other := by
  refine h.inOrder.imp_of_mem ?_
  intro key other hkey hother hlt
  rwa [List.map_append, List.idxOf_append_of_mem ((h.mem_keys_iff key).1 hkey),
    List.idxOf_append_of_mem ((h.mem_keys_iff other).1 hother)]

/-- A key that is given for the first time comes last. -/
lemma first (h : Tallies calls attributes) (hget : attributes.get? call.key = none) :
    Tallies (calls ++ [call]) ⟨attributes.entries ++ [(call.key, call.value.trim)]⟩ := by
  have hvalue : valueOf? calls call.key = none := by rw [← h.get?_eq, hget]
  have hnew : call.key ∉ calls.map Addition.key :=
    given_eq_nil_iff.1 (valueOf?_eq_none_iff.1 hvalue)
  have hkeys : (attributes.entries ++ [(call.key, call.value.trim)]).map Prod.fst =
      attributes.entries.map Prod.fst ++ [call.key] := List.map_append
  constructor
  · intro key
    rw [hkeys, List.map_append, List.mem_append, List.mem_append, h.mem_keys_iff]
    rfl
  · rw [hkeys, List.pairwise_append]
    refine ⟨h.inOrder_concat call, by simp, ?_⟩
    intro key hkey other hother
    obtain rfl : other = call.key := by simpa using hother
    have hearlier := (h.mem_keys_iff key).1 hkey
    rw [List.map_append, List.idxOf_append_of_mem hearlier, List.idxOf_append_of_notMem hnew]
    exact Nat.lt_of_lt_of_le (List.idxOf_lt_length_of_mem hearlier) (Nat.le_add_right _ _)
  · intro key
    rw [get?_append, h.get?_eq]
    by_cases hkey : key = call.key
    · rw [hkey, hvalue, if_pos rfl, Option.none_or, valueOf?_concat_first hvalue]
    · rw [if_neg hkey, Option.or_none, valueOf?_concat_of_ne hkey]

/-- A further value of `class` takes the place of the one that is there. -/
lemma further (h : Tallies calls attributes) (hclass : call.key = classKey) {present : Text}
    (hget : attributes.get? call.key = some present) :
    Tallies (calls ++ [call])
      (attributes.replace call.key (Text.trim (present ++ ' ' :: call.value.trim))) := by
  have hthere : attributes.get? call.key ≠ none := by simp [hget]
  constructor
  · rw [keys_replace]
    exact h.mem_keys_concat_iff hthere
  · rw [keys_replace]
    exact h.inOrder_concat call
  · intro key
    rw [get?_replace]
    split_ifs with hkey
    · rw [hget, hkey, Option.map_some]
      exact (valueOf?_concat_class hclass ((h.get?_eq _).symm.trans hget)).symm
    · rw [valueOf?_concat_of_ne hkey, h.get?_eq]

/-- A call that is refused says nothing new. -/
lemma refused (h : Tallies calls attributes) (hclass : call.key ≠ classKey)
    (hget : attributes.get? call.key ≠ none) : Tallies (calls ++ [call]) attributes := by
  refine ⟨h.mem_keys_concat_iff hget, h.inOrder_concat call, ?_⟩
  intro key
  by_cases hkey : key = call.key
  · rw [hkey, valueOf?_concat_later hclass (by rwa [← h.get?_eq]), h.get?_eq]
  · rw [valueOf?_concat_of_ne hkey, h.get?_eq]

/-- One more call, refused or not, is tallied. -/
lemma perform (h : Tallies calls attributes) (call : Addition) :
    Tallies (calls ++ [call]) (call.perform.runOn attributes).2 := by
  rw [call.runOn_perform, add]
  cases hget : attributes.get? call.key with
  | none => exact h.first hget
  | some present =>
    by_cases hclass : call.key = classKey
    · simp only [if_pos hclass]
      exact h.further hclass hget
    · simp only [if_neg hclass]
      exact h.refused hclass (by simp [hget])

end Tallies

/-- Whatever calls are made, they are tallied. -/
theorem tallies_after (calls : List Addition) : Tallies calls (after calls) := by
  induction calls using List.reverseRecOn with
  | nil => exact .start
  | append_singleton calls call ih =>
    rw [after_concat]
    exact ih.perform call

lemma get?_eq_some_iff_mem {attributes : Attributes} (h : attributes.Distinct) {key value : Text} :
    attributes.get? key = some value ↔ (key, value) ∈ attributes.entries := by
  constructor
  · intro hget
    obtain ⟨before, behind, hentries, -⟩ := List.lookup_eq_some_iff.1 hget
    simp [hentries]
  · intro hmem
    obtain ⟨before, behind, hentries⟩ := List.append_of_mem hmem
    refine List.lookup_eq_some_iff.2 ⟨before, behind, hentries, ?_⟩
    intro entry hentry
    rw [Distinct, hentries, List.map_append, List.nodup_append] at h
    rw [bne_iff_ne]
    exact (h.2.2 entry.1 (List.mem_map_of_mem hentry) key (by simp)).symm

/-- The law of attributes after some calls. The keys are those that were given, each once and in the
order in which each was given first. A key other than `class` has the first value given for it,
trimmed; `class` has all values given for it that are not blank, trimmed and joined by single
spaces. A further call is refused exactly when its key is there and is not `class`, for that key and
its tag, and then it has changed nothing. Looking a key up gives the value that is listed with it.
-/
structure Accumulated (calls : List Addition) (attributes : Attributes) : Prop where
  nodup_keys : (attributes.entries.map Prod.fst).Nodup
  mem_keys_iff : ∀ key, key ∈ attributes.entries.map Prod.fst ↔ key ∈ calls.map Addition.key
  inOrder : (attributes.entries.map Prod.fst).Pairwise fun key other =>
    (calls.map Addition.key).idxOf key < (calls.map Addition.key).idxOf other
  get?_of_ne_class : ∀ key, key ≠ classKey → attributes.get? key = (given calls key).head?
  get?_class : attributes.get? classKey =
    if given calls classKey = [] then none
    else some (List.intercalate [' '] ((given calls classKey).filter (· ≠ [])))
  fault_iff : ∀ (call : Addition) fault, (call.perform.runOn attributes).1 = .error fault ↔
    call.key ∈ attributes.entries.map Prod.fst ∧ call.key ≠ classKey ∧
      fault = .duplicateAttribute call.key call.tag
  eq_of_fault : ∀ (call : Addition) fault left,
    call.perform.runOn attributes = (.error fault, left) → left = attributes
  get?_eq_some_iff : ∀ key value,
    attributes.get? key = some value ↔ (key, value) ∈ attributes.entries

/-- Whatever values are added to no attributes, in any order and with those that are refused, the
law of attributes holds. -/
theorem accumulated_after (calls : List Addition) : Accumulated calls (after calls) := by
  have h := tallies_after calls
  have hnodup : (after calls).Distinct := h.inOrder.imp fun hlt heq => by simp [heq] at hlt
  constructor
  case nodup_keys => exact hnodup
  case mem_keys_iff => exact h.mem_keys_iff
  case inOrder => exact h.inOrder
  case get?_of_ne_class =>
    intro key hclass
    rw [h.get?_eq, valueOf?]
    cases given calls key <;> simp [hclass]
  case get?_class =>
    rw [h.get?_eq, valueOf?, ← Text.joined]
    cases given calls classKey <;> simp
  case fault_iff =>
    intro call fault
    have hrefused : (after calls).add call.key call.value call.tag = .error fault ↔ _ :=
      add_eq_error_iff
    rw [call.runOn_perform, ← isSome_get?_iff, ← hrefused]
    cases (after calls).add call.key call.value call.tag <;> simp
  case eq_of_fault =>
    intro call fault left hrun
    rw [call.runOn_perform] at hrun
    split at hrun <;> cases hrun
    rfl
  case get?_eq_some_iff => exact fun key value => get?_eq_some_iff_mem hnodup

/-- Blank classes leave no spaces behind, wherever they come. -/
example : (after [⟨"class".toList, " ".toList, []⟩, ⟨"id".toList, " x ".toList, []⟩,
    ⟨"class".toList, "a".toList, []⟩, ⟨"id".toList, "y".toList, []⟩,
    ⟨"class".toList, [], []⟩, ⟨"class".toList, " b c".toList, []⟩]).entries =
      [("class".toList, "a b c".toList), ("id".toList, "x".toList)] := by
  decide +kernel

end Attributes
end OutlineMarkup

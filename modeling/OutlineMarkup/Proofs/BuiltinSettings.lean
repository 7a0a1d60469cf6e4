import Mathlib.Data.List.TakeWhile
import OutlineMarkup.Settings.Load

/-! The library at hand does what loading relies on. Its settings are trees of values, and merging a
table into them comes down, field by field, to putting the values of each key one over the other. -/
namespace OutlineMarkup.Settings

namespace KeyPath

/-- A key without dots and brackets is used as it is. -/
lemma ofKey_eq {key : Text} (hdot : '.' ∉ key) (hbracket : '[' ∉ key) :
    ofKey key = [.field key] := by
  unfold ofKey ofText? name?
  by_cases hempty : (key.takeWhile isName).isEmpty
  · simp [hempty]
  · have happend : key.takeWhile isName ++ key.dropWhile isName = key :=
      List.takeWhile_append_dropWhile
    simp only [hempty, Bool.false_eq_true, if_false]
    cases hrest : key.dropWhile isName with
    | nil =>
      rw [hrest, List.append_nil] at happend
      simp [steps?, happend]
    | cons c rest =>
      have hc : c ∈ key := by
        rw [← happend, hrest]
        simp
      have hstep : step? (c :: rest) = none := by
        unfold step?
        split
        · simp_all
        · simp_all
        · rfl
      simp [steps?, hstep]

/-- Two names with a dot between them are a path of two fields. -/
lemma ofText?_dotted {first second : Text} (hfirst : IsName first) (hsecond : IsName second) :
    ofText? (first ++ '.' :: second) = some [.field first, .field second] := by
  obtain ⟨hfirst, hf⟩ := hfirst
  obtain ⟨hsecond, hs⟩ := hsecond
  rw [List.all_eq_true] at hf hs
  have hdot : isName '.' = false := by decide
  have hname : name? (first ++ '.' :: second) = some (first, '.' :: second) := by
    simp [name?, List.takeWhile_append_of_pos hf, List.dropWhile_append_of_pos hf, hdot, hfirst]
  have hname' : name? second = some (second, []) := by
    simp [name?, List.takeWhile_eq_self_iff.2 hs, List.dropWhile_eq_nil_iff.2 hs, hsecond]
  simp [ofText?, hname, steps?, step?, hname']

end KeyPath

namespace Value

lemma field?_update (change : Option Value → Value) (key other : Text) (rest : List Step)
    (root : Value) :
    (update change (.field key :: rest) (some root)).field? other =
      if normalKey other = normalKey key then some (update change rest (root.field? other))
      else root.field? other := by
  rw [update, field?, fields, Option.map_some, Option.getD_some]
  split_ifs with h
  · rw [h, lookup_updateField_self, field?, h]
  · rw [lookup_updateField_of_ne _ h, field?]

/-- The field of a plain key goes over the field that is there. -/
lemma merge_cons {key : Text} (hdot : '.' ∉ key) (hbracket : '[' ∉ key) (root value : Value)
    (rest : List (Text × Value)) :
    root.merge ((key, value) :: rest) =
      (update (fun present => layOver present value) [.field key] (some root)).merge rest := by
  rw [merge, List.foldl_cons, KeyPath.ofKey_eq hdot hbracket]
  rfl

/-- What is under a key after merging: all that the table has for it, one over the other. -/
lemma field?_merge {table : List (Text × Value)}
    (hplain : ∀ field ∈ table, '.' ∉ field.1 ∧ '[' ∉ field.1) {key : Text}
    (hkey : normalKey key = key) (root : Value) :
    (root.merge table).field? key =
      (table.filter fun field => normalKey field.1 = key).foldl
        (fun present field => some (layOver present field.2)) (root.field? key) := by
  induction table generalizing root with
  | nil => rfl
  | cons field rest ih =>
    obtain ⟨⟨hdot, hbracket⟩, hrest⟩ := List.forall_mem_cons.1 hplain
    rw [merge_cons hdot hbracket, ih hrest, field?_update, hkey, List.filter_cons]
    by_cases h : normalKey field.1 = key
    · rw [if_pos h.symm, if_pos (by simpa using h), List.foldl_cons, update]
    · rw [if_neg (Ne.symm h), if_neg (by simpa using h)]

/-- Merging a table into a table goes over its fields. -/
lemma merge_table {table : List (Text × Value)}
    (hplain : ∀ field ∈ table, '.' ∉ field.1 ∧ '[' ∉ field.1) (present : List (Text × Value)) :
    (Value.table present).merge table = .table (layFields present table) := by
  induction table generalizing present with
  | nil => simp [merge, layFields]
  | cons field rest ih =>
    obtain ⟨⟨hdot, hbracket⟩, hrest⟩ := List.forall_mem_cons.1 hplain
    rw [merge_cons hdot hbracket, update, ih hrest, layFields]
    rfl

/-- A table over a table is merged into it. -/
lemma layOver_table {table : List (Text × Value)}
    (hplain : ∀ field ∈ table, '.' ∉ field.1 ∧ '[' ∉ field.1) {present : Option Value}
    (h : (present.getD (.table [])).isTable) :
    layOver present (.table table) = (present.getD (.table [])).merge table := by
  cases table with
  | nil => simp [layOver, merge]
  | cons field rest =>
    match present with
    | none => rw [layOver, Option.getD_none, merge_table hplain]; rfl
    | some (.table fields) => rw [layOver, Option.getD_some, merge_table hplain]; rfl

end Value

/-- Where the last pair of a key stands in a list. -/
lemma exists_last_cons {α β : Type} {first : α × β} {given : List (α × β)} {key : α} {value : β} :
    (∃ before after, first :: given = before ++ (key, value) :: after ∧
      ∀ pair ∈ after, pair.1 ≠ key) ↔
    (first = (key, value) ∧ ∀ pair ∈ given, pair.1 ≠ key) ∨
      ∃ before after, given = before ++ (key, value) :: after ∧ ∀ pair ∈ after, pair.1 ≠ key := by
  constructor
  · rintro ⟨before, after, heq, hafter⟩
    cases before with
    | nil =>
      obtain ⟨rfl, rfl⟩ := List.cons.inj heq
      exact .inl ⟨rfl, hafter⟩
    | cons other before =>
      obtain ⟨rfl, rfl⟩ := List.cons.inj heq
      exact .inr ⟨before, after, rfl, hafter⟩
  · rintro (⟨rfl, hgiven⟩ | ⟨before, after, rfl, hafter⟩)
    · exact ⟨[], given, rfl, hgiven⟩
    · exact ⟨first :: before, after, rfl, hafter⟩

lemma holdsLast_latest (overrides : List (List Step × Value)) :
    HoldsLast (latest overrides) overrides := by
  induction overrides with
  | nil => exact ⟨by simp [latest], by simp [latest]⟩
  | cons first rest ih =>
    obtain ⟨path, value⟩ := first
    by_cases hany : ∃ pair ∈ rest, pair.1 = path
    · have hlatest : latest ((path, value) :: rest) = latest rest := by
        rw [latest, if_pos (by simpa using hany)]
      rw [hlatest]
      refine ⟨ih.nodup, fun key found => ?_⟩
      rw [ih.mem_iff, exists_last_cons, or_iff_right]
      rintro ⟨heq, hrest⟩
      obtain ⟨pair, hm, hpair⟩ := hany
      exact hrest pair hm (by rw [hpair, (Prod.mk.inj heq).1])
    · have hlatest : latest ((path, value) :: rest) = (path, value) :: latest rest := by
        rw [latest, if_neg (by simpa using hany)]
      rw [hlatest]
      have hrest : ∀ pair ∈ rest, pair.1 ≠ path := fun pair hm he => hany ⟨pair, hm, he⟩
      constructor
      case nodup =>
        rw [List.map_cons, List.nodup_cons]
        refine ⟨fun hm => ?_, ih.nodup⟩
        obtain ⟨⟨key, found⟩, hheld, rfl⟩ := List.mem_map.1 hm
        obtain ⟨before, after, rfl, -⟩ := (ih.mem_iff key found).1 hheld
        exact hrest (key, found) (by simp) rfl
      case mem_iff =>
        intro key found
        rw [List.mem_cons, ih.mem_iff, exists_last_cons]
        refine or_congr_left ⟨?_, fun h => h.1.symm⟩
        rintro heq
        cases heq
        exact ⟨rfl, hrest⟩

section Builtin
variable {table : List (Text × Value)} {key : Text}

lemma hasPlainKeys_builtin :
    builtin.HasPlainKeys table ↔ ∀ field ∈ table, '.' ∉ field.1 ∧ '[' ∉ field.1 :=
  List.forall_mem_map

lemma entriesAt_builtin : builtin.entriesAt table key =
    (table.filter fun field => normalKey field.1 = key).map fun field => field.2.entry := by
  rw [Library.entriesAt, List.filter_map, List.map_map]
  rfl

lemma normalKey_of_mem (h : key ∈ styleKey :: optionKeys) : normalKey key = key := by
  revert key
  decide +kernel

lemma exists_of_entriesAt {entry : Entry (List (Text × Value)) Value}
    (h : builtin.entriesAt table key = [entry]) :
    ∃ field, (table.filter fun field => normalKey field.1 = key) = [field] ∧
      field.2.entry = entry := by
  rw [entriesAt_builtin] at h
  obtain ⟨field, hfilter, hentry⟩ := List.map_eq_singleton_iff.1 h
  exact ⟨field, hfilter, hentry⟩

lemma eq_of_entry_table {value : Value} {inner : List (Text × Value)}
    (h : value.entry = .table inner) : value = .table inner := by
  cases value <;> simp_all [Value.entry]

lemma layOver_of_entry_value {value found : Value} (h : value.entry = .value found)
    (present : Option Value) : Value.layOver present value = found := by
  cases value <;> simp_all [Value.entry, Value.layOver]

lemma layOver_of_scalar? {value : Value} (h : value.scalar?.isSome) (present : Option Value) :
    Value.layOver present value = value := by
  cases value <;> simp_all [Value.scalar?, Value.layOver]

/-- A single value at two keys is a layer with these keys. -/
lemma assign_dotted {value : Value} (h : value.scalar?.isSome) (first second : Text)
    (root : Value) :
    root.assign [.field first, .field second] value =
      Value.update (fun present => Value.layOver present (.table [(second, value)]))
        [.field first] (some root) := by
  have hinner : Value.update (fun _ => value) [.field second] =
      fun present => Value.layOver present (.table [(second, value)]) := by
    funext present
    rw [Value.update, Value.layOver, Value.layFields, Value.layFields]
    congr 2
    funext inner
    rw [Value.update, layOver_of_scalar? h]
  rw [Value.assign, Value.update, Value.update, hinner]
  rfl

lemma entry_of_scalar? {value : Value} (h : value.scalar?.isSome) : value.entry = .value value := by
  cases value <;> simp_all [Value.scalar?, Value.entry]

/-- A value whose two fields are known by name and as scalars is a table of these fields. -/
lemma exists_table_of_scalars {value : Value} {first second : Text} {x y : Scalar}
    (h : value.fields.map (fun field => (field.1, field.2.scalar?)) =
      [(first, some x), (second, some y)]) :
    ∃ a b, value = .table [(first, a), (second, b)] ∧ a.scalar? = some x ∧ b.scalar? = some y := by
  cases value with
  | table fields =>
    obtain ⟨⟨_, a⟩, rest, rfl, ha, hrest⟩ := List.map_eq_cons_iff.1 h
    obtain ⟨⟨_, b⟩, rfl, hb⟩ := List.map_eq_singleton_iff.1 hrest
    obtain ⟨rfl, hx⟩ := Prod.mk.inj ha
    obtain ⟨rfl, hy⟩ := Prod.mk.inj hb
    exact ⟨a, b, rfl, hx, hy⟩
  | _ => cases h

lemma exists_read_defaultToml : ∃ join unit,
    builtin.read defaultToml =
      .ok [(styleKey, .table [(lineJoinKey, join), (indentUnitKey, unit)])] ∧
    join.scalar? = some (.text []) ∧ unit.scalar? = some (.text []) := by
  -- values cannot be compared, but the scalars in them can
  have hscalars : (builtin.read defaultToml).map (fun table => table.map fun field =>
        (field.1, field.2.fields.map fun option => (option.1, option.2.scalar?))) =
      .ok [(styleKey, [(lineJoinKey, some (.text [])), (indentUnitKey, some (.text []))])] := by
    decide +kernel
  cases hread : builtin.read defaultToml with
  | error problem =>
    rw [hread] at hscalars
    cases hscalars
  | ok table =>
    rw [hread] at hscalars
    obtain ⟨⟨_, style⟩, rfl, hstyle⟩ := List.map_eq_singleton_iff.1 (Except.ok.inj hscalars)
    obtain ⟨rfl, hfields⟩ := Prod.mk.inj hstyle
    obtain ⟨join, unit, rfl, hjoin, hunit⟩ := exists_table_of_scalars hfields
    exact ⟨join, unit, rfl, hjoin, hunit⟩

lemma path_builtin {first second : Text} (hfirst : IsName first) (hsecond : IsName second) :
    builtin.path (first ++ '.' :: second) = .ok [.field first, .field second] := by
  simp [KeyPath.ofText?_dotted hfirst hsecond]

/-- A name has neither dots nor brackets. -/
lemma IsName.plain {name : Text} (h : IsName name) : '.' ∉ name ∧ '[' ∉ name := by
  have hnames := List.all_eq_true.1 h.2
  exact ⟨fun hm => absurd (hnames _ hm) (by decide), fun hm => absurd (hnames _ hm) (by decide)⟩

lemma readStyle_of_scalars {fields : List (Text × Value)} {join unit : Value}
    {joinScalar unitScalar : Scalar} (hjoin : (Value.table fields).field? lineJoinKey = some join)
    (hunit : (Value.table fields).field? indentUnitKey = some unit)
    (hj : join.scalar? = some joinScalar) (hu : unit.scalar? = some unitScalar) :
    readStyle (.table fields) =
      .ok { lineJoin := joinScalar.toText, indentUnit := unitScalar.toText } := by
  simp [readStyle, readField?, hjoin, hunit, readText, hj, hu, Except.map]

/-- The library at hand does what it is relied on to do. -/
theorem lawful_builtin : builtin.Lawful := by
  constructor
  case isTable_empty => rfl
  case field?_empty => exact fun key => rfl
  case isTable_merge =>
    intro root table hroot hplain
    cases root with
    | table present =>
      have hmerge := Value.merge_table (hasPlainKeys_builtin.1 hplain) present
      exact congrArg Value.isTable hmerge
    | _ => cases hroot
  case field?_merge_other =>
    intro root table key hkey hroot hplain hentries
    rw [entriesAt_builtin, List.map_eq_nil_iff] at hentries
    refine (Value.field?_merge (hasPlainKeys_builtin.1 hplain) (normalKey_of_mem hkey) _).trans ?_
    rw [hentries, List.foldl_nil]
  case field?_merge_value =>
    intro root table key value hkey hroot hplain hentries
    obtain ⟨field, hfilter, hentry⟩ := exists_of_entriesAt hentries
    refine (Value.field?_merge (hasPlainKeys_builtin.1 hplain) (normalKey_of_mem hkey) _).trans ?_
    rw [hfilter, List.foldl_cons, List.foldl_nil, layOver_of_entry_value hentry]
  case field?_merge_table =>
    intro root table key inner hkey hroot hplain hinner hentries htable
    obtain ⟨field, hfilter, hentry⟩ := exists_of_entriesAt hentries
    refine (Value.field?_merge (hasPlainKeys_builtin.1 hplain) (normalKey_of_mem hkey) _).trans ?_
    rw [hfilter, List.foldl_cons, List.foldl_nil, eq_of_entry_table hentry,
      Value.layOver_table (hasPlainKeys_builtin.1 hinner) htable]
  case read_defaultToml =>
    obtain ⟨join, unit, hread, hjoin, hunit⟩ := exists_read_defaultToml
    refine ⟨_, _, join, unit, hread, rfl, .of_eq ?_, hjoin, hunit⟩
    have hj := entry_of_scalar? (Option.isSome_of_eq_some hjoin)
    have hu := entry_of_scalar? (Option.isSome_of_eq_some hunit)
    simp only [List.map_cons, List.map_nil, hj, hu]
  case put_dotted =>
    intro first second hfirst hsecond
    refine ⟨_, path_builtin hfirst hsecond, fun value hvalue => ?_⟩
    refine ⟨[(first, .table [(second, value)])], [(second, value)], rfl, ?_, fun root _ => ?_⟩
    · exact congrArg (fun entry => [(second, entry)]) (entry_of_scalar? hvalue)
    · refine (assign_dotted hvalue first second root).trans ?_
      exact (Value.merge_cons hfirst.plain.1 hfirst.plain.2 root _ []).symm
  case path_injective =>
    intro first second first' second' path hfirst hsecond hfirst' hsecond' hpath hpath'
    rw [path_builtin hfirst hsecond] at hpath
    rw [path_builtin hfirst' hsecond', ← hpath] at hpath'
    cases hpath'
    exact ⟨rfl, rfl⟩
  case override_eq => exact fun root overrides => ⟨_, holdsLast_latest overrides, rfl⟩
  case style_eq =>
    intro root style join unit joinScalar unitScalar _ hstyle htable hjoin hunit hj hu
    cases style with
    | table fields =>
      dsimp only
      rw [show root.field? styleKey = some (.table fields) from hstyle]
      exact readStyle_of_scalars hjoin hunit hj hu
    | _ => cases htable

end Builtin

end OutlineMarkup.Settings

import OutlineMarkup.Proofs.BuiltinSettings

/-! The precedence of settings, option by option, with any library that is lawful. What an option of
the style comes to is followed through one table, through the layers, and through the single values
put over them: each of these either gives the option a new text or leaves it, whatever else it
sets. -/
namespace OutlineMarkup.Settings

/-- The last element with a value decides. -/
lemma getLast?_filterMap_cons {α β : Type} (f : α → Option β) (x : α) (xs : List α) (y : β) :
    ((x :: xs).filterMap f).getLast?.getD y =
      (xs.filterMap f).getLast?.getD ((f x).getD y) := by
  cases h : f x <;> simp [List.getLast?_cons, h]

/-- Either no element has a value, or there is a last one that has. -/
lemma getLast?_filterMap_cases {α β : Type} (f : α → Option β) (xs : List α) :
    ((∀ x ∈ xs, f x = none) ∧ (xs.filterMap f).getLast? = none) ∨
      ∃ before x after y, xs = before ++ x :: after ∧ f x = some y ∧
        (∀ other ∈ after, f other = none) ∧ (xs.filterMap f).getLast? = some y := by
  induction xs with
  | nil => exact .inl ⟨by simp, rfl⟩
  | cons x xs ih =>
    obtain ⟨hnone, hlast⟩ | ⟨before, last, after, y, rfl, hy, hafter, hlast⟩ := ih
    · cases hx : f x with
      | none => exact .inl ⟨by simpa [hx] using hnone, by simpa [hx] using hlast⟩
      | some y =>
        refine .inr ⟨[], x, xs, y, rfl, hx, hnone, ?_⟩
        rw [List.filterMap_cons_some hx, List.filterMap_eq_nil_iff.2 hnone]
        rfl
    · refine .inr ⟨x :: before, last, after, y, rfl, hy, hafter, ?_⟩
      cases hx : f x with
      | none => rwa [List.filterMap_cons_none hx]
      | some z => rw [List.filterMap_cons_some hx, List.getLast?_cons, hlast, Option.getD_some]

lemma eq_nil_or_singleton {α : Type} {xs : List α} (h : xs.length ≤ 1) :
    xs = [] ∨ ∃ x, xs = [x] := by
  match xs, h with
  | [], _ => exact .inl rfl
  | [x], _ => exact .inr ⟨x, rfl⟩

def optionPath (key : Text) : Text := styleKey ++ '.' :: key

lemma isName_of_toLower {c : Char} (h : isName c.toLower) : isName c := by
  unfold Char.toLower at h
  split_ifs at h with hu
  · have hupper : c.isUpper = true := decide_eq_true hu
    have halphanum : c.isAlphanum = true := by
      change (c.isUpper || c.isLower || c.isDigit) = true
      rw [hupper, Bool.true_or, Bool.true_or]
    simp [isName, halphanum]
  · exact h

lemma eq_dot_of_toLower {c : Char} (h : c.toLower = '.') : c = '.' := by
  unfold Char.toLower at h
  split_ifs at h with hu
  · have hval := congrArg (fun c => c.val.toNat) h
    obtain ⟨h1, h2⟩ := hu
    simp [UInt32.le_iff_toNat_le, UInt32.toNat_add] at hval h1 h2
    omega
  · exact h

lemma isName_of_normalKey {name : Text} (h : IsName (normalKey name)) : IsName name := by
  refine ⟨fun he => h.1 (by rw [he]; rfl), List.all_eq_true.2 fun c hc => ?_⟩
  exact isName_of_toLower (List.all_eq_true.1 h.2 _ (List.mem_map_of_mem hc))

lemma isName_of_mem {key : Text} (h : key ∈ styleKey :: optionKeys) : IsName key := by
  have hnames : ∀ key ∈ styleKey :: optionKeys, key ≠ [] ∧ key.all isName := by decide +kernel
  exact hnames key h

/-- A key that is an option in lower case is made of two names. -/
lemma exists_names_of_optionPath {name key : Text} (hk : key ∈ optionKeys)
    (h : normalKey name = optionPath key) :
    ∃ first second, name = first ++ '.' :: second ∧ IsName first ∧ IsName second ∧
      normalKey first = styleKey ∧ normalKey second = key := by
  obtain ⟨first, behind, rfl, hfirst, hbehind⟩ := List.map_eq_append_iff.1 h
  obtain ⟨c, second, rfl, hc, hsecond⟩ := List.map_eq_cons_iff.1 hbehind
  obtain rfl := eq_dot_of_toLower hc
  refine ⟨first, second, rfl, isName_of_normalKey ?_, isName_of_normalKey ?_, hfirst, hsecond⟩
  · rw [normalKey, hfirst]
    exact isName_of_mem List.mem_cons_self
  · rw [normalKey, hsecond]
    exact isName_of_mem (List.mem_cons_of_mem _ hk)

namespace Library
variable {lib : Library}

/-! ### Tables and layers -/

/-- A style as a layer may give it: each option once at most, to a string, a number or a truth
value. -/
structure PlainStyle (lib : Library) (style : lib.Table) : Prop where
  keys : lib.HasPlainKeys style
  once : ∀ key ∈ optionKeys, (lib.entriesAt style key).length ≤ 1
  scalars : ∀ key ∈ optionKeys, ∀ entry ∈ lib.entriesAt style key,
    ∃ value ∈ entry.value?, (lib.scalar? value).isSome

/-- A table with at most one style, which is a table. -/
structure PlainTable (lib : Library) (table : lib.Table) : Prop where
  keys : lib.HasPlainKeys table
  once : (lib.entriesAt table styleKey).length ≤ 1
  style : ∀ entry ∈ lib.entriesAt table styleKey, ∃ inner ∈ entry.table?, lib.PlainStyle inner

/-- A layer that can be read and is plain, or a file that need not exist and does not. -/
def Plain (lib : Library) : Layer → Prop
  | .toml text => ∃ table, lib.read text = .ok table ∧ lib.PlainTable table
  | .missing required => required = false

instance : DecidablePred lib.HasPlainKeys := fun table =>
  inferInstanceAs (Decidable (∀ field ∈ lib.fields table, '.' ∉ field.1 ∧ '[' ∉ field.1))

instance : DecidablePred lib.PlainStyle := fun style =>
  decidable_of_iff
    (lib.HasPlainKeys style ∧ (∀ key ∈ optionKeys, (lib.entriesAt style key).length ≤ 1) ∧
      ∀ key ∈ optionKeys, ∀ entry ∈ lib.entriesAt style key,
        ∃ value ∈ entry.value?, (lib.scalar? value).isSome)
    ⟨fun ⟨keys, once, scalars⟩ => ⟨keys, once, scalars⟩, fun h => ⟨h.keys, h.once, h.scalars⟩⟩

instance : DecidablePred lib.PlainTable := fun table =>
  decidable_of_iff
    (lib.HasPlainKeys table ∧ (lib.entriesAt table styleKey).length ≤ 1 ∧
      ∀ entry ∈ lib.entriesAt table styleKey, ∃ inner ∈ entry.table?, lib.PlainStyle inner)
    ⟨fun ⟨keys, once, style⟩ => ⟨keys, once, style⟩, fun h => ⟨h.keys, h.once, h.style⟩⟩

instance : DecidablePred lib.Plain
  | .toml text =>
    match h : lib.read text with
    | .ok table => decidable_of_iff (lib.PlainTable table) (by simp [Plain, h])
    | .error _ => isFalse (by simp [Plain, h])
  | .missing required => inferInstanceAs (Decidable (required = false))

def styleText? (lib : Library) (key : Text) (style : lib.Table) : Option Text :=
  (((lib.entriesAt style key).head?.bind Entry.value?).bind lib.scalar?).map Scalar.toText

def tableText? (lib : Library) (key : Text) (table : lib.Table) : Option Text :=
  ((lib.entriesAt table styleKey).head?.bind Entry.table?).bind (lib.styleText? key)

def layerText? (lib : Library) (key : Text) : Layer → Option Text
  | .toml text =>
    match lib.read text with
    | .ok table => lib.tableText? key table
    | .error _ => none
  | .missing _ => none

/-- A single value for an option: a string, a number or a truth value. -/
def SetsOption (lib : Library) (override : Text × lib.Value) : Prop :=
  (∃ key ∈ optionKeys, normalKey override.1 = optionPath key) ∧ (lib.scalar? override.2).isSome

instance : DecidablePred lib.SetsOption := fun override =>
  inferInstanceAs (Decidable ((∃ key ∈ optionKeys, normalKey override.1 = optionPath key) ∧
    (lib.scalar? override.2).isSome))

def overrideText? (lib : Library) (key : Text) (override : Text × lib.Value) : Option Text :=
  if normalKey override.1 = optionPath key then (lib.scalar? override.2).map Scalar.toText else none

/-- The text of an option: that of the last single value for it, or else of the last layer that
sets it, or else nothing. -/
def chosen (lib : Library) (layers : List Layer) (overrides : List (Text × lib.Value))
    (key : Text) : Text :=
  ((overrides.filterMap (lib.overrideText? key)).getLast?.or
    (layers.filterMap (lib.layerText? key)).getLast?).getD []

/-- Settings whose style is a table with a text for an option. -/
def Offers (lib : Library) (root : lib.Value) (key text : Text) : Prop :=
  lib.isTable root ∧ ∃ style value scalar, lib.field? root styleKey = some style ∧
    lib.isTable style ∧ lib.field? style key = some value ∧ lib.scalar? value = some scalar ∧
    scalar.toText = text

variable {root : lib.Value} {table inner : lib.Table} {key text : Text}

lemma PlainTable.entriesAt_cases (h : lib.PlainTable table) :
    lib.entriesAt table styleKey = [] ∨
      ∃ inner, lib.entriesAt table styleKey = [.table inner] ∧ lib.PlainStyle inner := by
  obtain hnone | ⟨entry, hone⟩ := eq_nil_or_singleton h.once
  · exact .inl hnone
  · obtain ⟨inner, hinner, hplain⟩ := h.style entry (by simp [hone])
    cases entry with
    | table _ => exact .inr ⟨inner, by rw [hone, Option.some.inj hinner], hplain⟩
    | value _ => cases hinner

lemma PlainStyle.entriesAt_cases (h : lib.PlainStyle inner) (hk : key ∈ optionKeys) :
    lib.entriesAt inner key = [] ∨
      ∃ value scalar, lib.entriesAt inner key = [.value value] ∧
        lib.scalar? value = some scalar := by
  obtain hnone | ⟨entry, hone⟩ := eq_nil_or_singleton (h.once key hk)
  · exact .inl hnone
  · obtain ⟨value, hvalue, hsome⟩ := h.scalars key hk entry (by simp [hone])
    obtain ⟨scalar, hscalar⟩ := Option.isSome_iff_exists.1 hsome
    cases entry with
    | table _ => cases hvalue
    | value _ => exact .inr ⟨value, scalar, by rw [hone, Option.some.inj hvalue], hscalar⟩

lemma hasPlainKeys_of_perm {fields : List (Text × Entry lib.Table lib.Value)}
    (h : (lib.fields table).Perm fields) (hnames : ∀ field ∈ fields, IsName field.1) :
    lib.HasPlainKeys table :=
  fun field hm => (hnames field (h.mem_iff.1 hm)).plain

lemma entriesAt_of_fields {name : Text} {entry : Entry lib.Table lib.Value}
    (h : lib.fields table = [(name, entry)]) (key : Text) :
    lib.entriesAt table key = if normalKey name = key then [entry] else [] := by
  rw [entriesAt, h]
  split_ifs with hname <;> simp [hname]

/-- Of a style with one value for each option, each option has a value. -/
lemma exists_entriesAt_of_perm {join unit : lib.Value}
    (h : (lib.fields inner).Perm [(lineJoinKey, .value join), (indentUnitKey, .value unit)])
    (hk : key ∈ optionKeys) :
    ∃ value, (value = join ∨ value = unit) ∧ lib.entriesAt inner key = [.value value] := by
  have hperm := (h.filter fun field => normalKey field.1 = key).map Prod.snd
  have hj : normalKey lineJoinKey = lineJoinKey := normalKey_of_mem (by decide)
  have hu : normalKey indentUnitKey = indentUnitKey := normalKey_of_mem (by decide)
  have hne : lineJoinKey ≠ indentUnitKey := by decide
  simp only [optionKeys, List.mem_cons, List.not_mem_nil, or_false] at hk
  rcases hk with rfl | rfl
  · refine ⟨join, .inl rfl, List.perm_singleton.1 (hperm.trans (.of_eq ?_))⟩
    simp [hj, hu, hne.symm]
  · refine ⟨unit, .inr rfl, List.perm_singleton.1 (hperm.trans (.of_eq ?_))⟩
    simp [hj, hu, hne]

namespace Lawful
variable (lawful : lib.Lawful)
include lawful

/-- An option that a table sets has the text it is set to, whatever was there. -/
lemma offers_merge {value : lib.Value} {scalar : Scalar} (hk : key ∈ optionKeys)
    (hroot : lib.isTable root) (hkeys : lib.HasPlainKeys table)
    (hstyle : lib.entriesAt table styleKey = [.table inner]) (hplain : lib.HasPlainKeys inner)
    (htable : lib.isTable ((lib.field? root styleKey).getD lib.empty))
    (hvalue : lib.entriesAt inner key = [.value value])
    (hscalar : lib.scalar? value = some scalar) :
    lib.Offers (lib.merge root table) key scalar.toText := by
  refine ⟨lawful.isTable_merge hroot hkeys, _, value, scalar,
    lawful.field?_merge_table List.mem_cons_self hroot hkeys hplain hstyle htable,
    lawful.isTable_merge htable hplain, ?_, hscalar, rfl⟩
  exact lawful.field?_merge_value (List.mem_cons_of_mem _ hk) htable hplain hvalue

/-- A plain table gives the option its text or leaves it. -/
lemma offers_merge_plain (hk : key ∈ optionKeys) (hplain : lib.PlainTable table)
    (ho : lib.Offers root key text) :
    lib.Offers (lib.merge root table) key ((lib.tableText? key table).getD text) := by
  obtain ⟨hroot, style, value, scalar, hstyle, htable, hvalue, hscalar, rfl⟩ := ho
  have hpresent : lib.isTable ((lib.field? root styleKey).getD lib.empty) := by
    rw [hstyle]
    exact htable
  obtain hnone | ⟨inner, hone, hinner⟩ := hplain.entriesAt_cases
  · have hfield := lawful.field?_merge_other List.mem_cons_self hroot hplain.keys hnone
    refine ⟨lawful.isTable_merge hroot hplain.keys, style, value, scalar, ?_, htable, hvalue,
      hscalar, by simp [tableText?, hnone]⟩
    rw [hfield, hstyle]
  · obtain hleft | ⟨new, newScalar, hnew, hnewScalar⟩ := hinner.entriesAt_cases hk
    · have hfield := lawful.field?_merge_table List.mem_cons_self hroot hplain.keys hinner.keys
        hone hpresent
      rw [hstyle, Option.getD_some] at hfield
      refine ⟨lawful.isTable_merge hroot hplain.keys, _, value, scalar, hfield,
        lawful.isTable_merge htable hinner.keys, ?_, hscalar,
        by simp [tableText?, styleText?, hone, hleft, Entry.table?]⟩
      rw [lawful.field?_merge_other (List.mem_cons_of_mem _ hk) htable hinner.keys hleft, hvalue]
    · have htext : lib.tableText? key table = some newScalar.toText := by
        simp [tableText?, styleText?, hone, hnew, Entry.table?, Entry.value?, hnewScalar]
      rw [htext]
      exact lawful.offers_merge hk hroot hplain.keys hone hinner.keys hpresent hnew hnewScalar

/-- One layer can be added and gives the option its text or leaves it. -/
lemma exists_addLayer {layer : Layer} (hplain : lib.Plain layer) (root : lib.Value) :
    ∃ next, lib.addLayer root layer = .ok next ∧ ∀ key ∈ optionKeys, ∀ text,
      lib.Offers root key text → lib.Offers next key ((lib.layerText? key layer).getD text) := by
  cases layer with
  | missing required =>
    obtain rfl : required = false := hplain
    exact ⟨root, rfl, fun key _ text ho => ho⟩
  | toml source =>
    obtain ⟨table, hread, htable⟩ := hplain
    refine ⟨lib.merge root table, by rw [addLayer, hread]; rfl, fun key hk text ho => ?_⟩
    rw [layerText?, hread]
    exact lawful.offers_merge_plain hk htable ho

lemma exists_addLayers {layers : List Layer} (hplain : ∀ layer ∈ layers, lib.Plain layer)
    (root : lib.Value) :
    ∃ last, lib.addLayers root layers = .ok last ∧ ∀ key ∈ optionKeys, ∀ text,
      lib.Offers root key text →
        lib.Offers last key ((layers.filterMap (lib.layerText? key)).getLast?.getD text) := by
  induction layers generalizing root with
  | nil => exact ⟨root, rfl, fun key _ text ho => ho⟩
  | cons layer layers ih =>
    obtain ⟨next, hnext, hoffers⟩ := lawful.exists_addLayer (hplain layer List.mem_cons_self) root
    obtain ⟨last, hlast, hrest⟩ :=
      ih (fun other hm => hplain other (List.mem_cons_of_mem _ hm)) next
    refine ⟨last, by rw [addLayers, hnext, ← hlast], fun key hk text ho => ?_⟩
    rw [getLast?_filterMap_cons]
    exact hrest key hk _ (hoffers key hk text ho)

/-- The defaults can be added to nothing, and both options are then empty. -/
lemma exists_addLayer_defaultToml : ∃ root, lib.addLayer lib.empty (.toml defaultToml) = .ok root ∧
    ∀ key ∈ optionKeys, lib.Offers root key [] := by
  obtain ⟨table, inner, join, unit, hread, htable, hinner, hjoin, hunit⟩ := lawful.read_defaultToml
  refine ⟨lib.merge lib.empty table, by rw [addLayer, hread]; rfl, fun key hk => ?_⟩
  have hstyle : lib.entriesAt table styleKey = [.table inner] := by
    rw [entriesAt_of_fields htable, if_pos (normalKey_of_mem List.mem_cons_self)]
  have hkeys : lib.HasPlainKeys table := by
    refine hasPlainKeys_of_perm (.of_eq htable) fun field hm => ?_
    rw [List.mem_singleton.1 hm]
    exact isName_of_mem List.mem_cons_self
  have hplain : lib.HasPlainKeys inner := by
    refine hasPlainKeys_of_perm hinner fun field hm => ?_
    have hfield : field.1 ∈ optionKeys := List.mem_map_of_mem (f := Prod.fst) hm
    exact isName_of_mem (List.mem_cons_of_mem _ hfield)
  obtain ⟨value, heq, hvalue⟩ := exists_entriesAt_of_perm hinner hk
  have hscalar : lib.scalar? value = some (.text []) := by
    rcases heq with rfl | rfl
    · exact hjoin
    · exact hunit
  refine lawful.offers_merge hk lawful.isTable_empty hkeys hstyle hplain ?_ hvalue hscalar
  rw [lawful.field?_empty]
  exact lawful.isTable_empty

/-- A single value is like a plain table that sets its option and nothing else. -/
lemma exists_table_of_setsOption {override : Text × lib.Value} (h : lib.SetsOption override) :
    ∃ path table, lib.path override.1 = .ok path ∧ lib.PlainTable table ∧
      (∀ key ∈ optionKeys, lib.tableText? key table = lib.overrideText? key override) ∧
      ∀ root, lib.isTable root → lib.put root path override.2 = lib.merge root table := by
  obtain ⟨name, value⟩ := override
  obtain ⟨⟨own, hown, hname⟩, hscalar⟩ := h
  obtain ⟨first, second, rfl, hfirst, hsecond, hstyle, hoption⟩ :=
    exists_names_of_optionPath hown hname
  obtain ⟨path, hpath, hput⟩ := lawful.put_dotted hfirst hsecond
  obtain ⟨table, inner, htable, hinner, hmerge⟩ := hput value hscalar
  have hone : lib.entriesAt table styleKey = [.table inner] := by
    rw [entriesAt_of_fields htable, if_pos hstyle]
  have hentries (key : Text) :
      lib.entriesAt inner key = if own = key then [.value value] else [] := by
    rw [entriesAt_of_fields hinner, hoption]
  refine ⟨path, table, hpath, ⟨?_, ?_, ?_⟩, fun key hk => ?_, hmerge⟩
  · exact hasPlainKeys_of_perm (.of_eq htable) (by simpa using hfirst)
  · rw [hone]
    rfl
  · rw [hone]
    refine List.forall_mem_singleton.2 ⟨inner, rfl, ?_, fun key _ => ?_, fun key _ => ?_⟩
    · exact hasPlainKeys_of_perm (.of_eq hinner) (by simpa using hsecond)
    · rw [hentries]
      split_ifs <;> simp
    · rw [hentries]
      split_ifs
      · exact List.forall_mem_singleton.2 ⟨value, rfl, hscalar⟩
      · simp
  · have htext : lib.tableText? key table = lib.styleText? key inner := by
      rw [tableText?, hone]
      rfl
    have hpaths : optionPath own = optionPath key ↔ own = key := by simp [optionPath]
    rw [htext, styleText?, hentries, overrideText?, hname]
    simp only [hpaths]
    split_ifs <;> rfl

end Lawful

/-! ### Single values -/

section Overrides
variable {overrides : List (Text × lib.Value)} {pairs : List (lib.Path × lib.Value)}

lemma readOverrides_cons_eq_ok_iff {override : Text × lib.Value} :
    lib.readOverrides (override :: overrides) = .ok pairs ↔
      ∃ path rest, lib.path override.1 = .ok path ∧ lib.readOverrides overrides = .ok rest ∧
        pairs = (path, override.2) :: rest := by
  rw [readOverrides]
  cases lib.path override.1 with
  | error error => simp
  | ok path =>
    cases lib.readOverrides overrides with
    | error error => simp [Except.map]
    | ok rest => simp [Except.map, eq_comm]

/-- Every path that is read is that of a single value. -/
lemma exists_of_mem_readOverrides (h : lib.readOverrides overrides = .ok pairs)
    {pair : lib.Path × lib.Value} (hm : pair ∈ pairs) :
    ∃ override ∈ overrides, lib.path override.1 = .ok pair.1 ∧ override.2 = pair.2 := by
  induction overrides generalizing pairs with
  | nil =>
    cases h
    cases hm
  | cons override overrides ih =>
    obtain ⟨path, rest, hpath, hrest, rfl⟩ := readOverrides_cons_eq_ok_iff.1 h
    rcases List.mem_cons.1 hm with rfl | hm
    · exact ⟨override, List.mem_cons_self, hpath, rfl⟩
    · obtain ⟨other, ho, hother⟩ := ih hrest hm
      exact ⟨other, List.mem_cons_of_mem _ ho, hother⟩

lemma exists_of_readOverrides_append {before after : List (Text × lib.Value)}
    {override : Text × lib.Value}
    (h : lib.readOverrides (before ++ override :: after) = .ok pairs) :
    ∃ before' path after', pairs = before' ++ (path, override.2) :: after' ∧
      lib.path override.1 = .ok path ∧ lib.readOverrides after = .ok after' := by
  induction before generalizing pairs with
  | nil =>
    obtain ⟨path, rest, hpath, hrest, rfl⟩ := readOverrides_cons_eq_ok_iff.1 h
    exact ⟨[], path, rest, rfl, hpath, hrest⟩
  | cons first before ih =>
    obtain ⟨_, rest, -, hrest, rfl⟩ := readOverrides_cons_eq_ok_iff.1 h
    obtain ⟨before', path, after', rfl, hpath, hafter⟩ := ih hrest
    exact ⟨_ :: before', path, after', rfl, hpath, hafter⟩

lemma overrideText?_eq_none_iff {override : Text × lib.Value} (h : lib.SetsOption override) :
    lib.overrideText? key override = none ↔ normalKey override.1 ≠ optionPath key := by
  obtain ⟨scalar, hscalar⟩ := Option.isSome_iff_exists.1 h.2
  rw [overrideText?, hscalar]
  split_ifs with hname <;> simp [hname]

/-- A pair of a path and a value is that of a single value for an option. -/
def IsOptionPair (lib : Library) (override : Text × lib.Value) (pair : lib.Path × lib.Value) :
    Prop :=
  lib.SetsOption override ∧ lib.path override.1 = .ok pair.1 ∧ override.2 = pair.2

lemma exists_isOptionPair {held : List (lib.Path × lib.Value)} {pair : lib.Path × lib.Value}
    (h : ∀ override ∈ overrides, lib.SetsOption override)
    (hread : lib.readOverrides overrides = .ok pairs) (hheld : HoldsLast held pairs)
    (hm : pair ∈ held) : ∃ override ∈ overrides, lib.IsOptionPair override pair := by
  obtain ⟨before, after, hpairs, -⟩ := (hheld.mem_iff pair.1 pair.2).1 hm
  have hmem : pair ∈ pairs := by simp [hpairs]
  obtain ⟨override, ho, hpath, hvalue⟩ := exists_of_mem_readOverrides hread hmem
  exact ⟨override, ho, h override ho, hpath, hvalue⟩

namespace Lawful
variable (lawful : lib.Lawful)
include lawful

lemma exists_readOverrides (h : ∀ override ∈ overrides, lib.SetsOption override) :
    ∃ pairs, lib.readOverrides overrides = .ok pairs := by
  induction overrides with
  | nil => exact ⟨[], rfl⟩
  | cons override overrides ih =>
    obtain ⟨path, -, hpath, -⟩ := lawful.exists_table_of_setsOption (h override List.mem_cons_self)
    obtain ⟨rest, hrest⟩ := ih fun other hm => h other (List.mem_cons_of_mem _ hm)
    exact ⟨_, readOverrides_cons_eq_ok_iff.2 ⟨path, rest, hpath, hrest, rfl⟩⟩

/-- One single value gives its option a text and leaves the other. -/
lemma offers_put {override : Text × lib.Value} {pair : lib.Path × lib.Value}
    (h : lib.IsOptionPair override pair) (hk : key ∈ optionKeys) (ho : lib.Offers root key text) :
    lib.Offers (lib.put root pair.1 pair.2) key ((lib.overrideText? key override).getD text) := by
  obtain ⟨hsets, hpath, hvalue⟩ := h
  obtain ⟨path, table, hpath', hplain, htext, hput⟩ := lawful.exists_table_of_setsOption hsets
  obtain rfl : path = pair.1 := Except.ok.inj (hpath'.symm.trans hpath)
  rw [← hvalue, hput root ho.1, ← htext key hk]
  exact lawful.offers_merge_plain hk hplain ho

/-- Single values for other options leave an option as it is. -/
lemma offers_foldl_put {held : List (lib.Path × lib.Value)} (hk : key ∈ optionKeys)
    (h : ∀ pair ∈ held, ∃ override, lib.IsOptionPair override pair ∧
      lib.overrideText? key override = none)
    (ho : lib.Offers root key text) :
    lib.Offers (held.foldl (fun root pair => lib.put root pair.1 pair.2) root) key text := by
  induction held generalizing root with
  | nil => exact ho
  | cons pair held ih =>
    obtain ⟨override, hpair, hnone⟩ := h pair List.mem_cons_self
    have hnext := lawful.offers_put hpair hk ho
    rw [hnone, Option.getD_none] at hnext
    exact ih (fun other hm => h other (List.mem_cons_of_mem _ hm)) hnext

/-- Whatever options single values are for, each option still has a text. -/
lemma exists_offers_foldl_put {held : List (lib.Path × lib.Value)} (hk : key ∈ optionKeys)
    (h : ∀ pair ∈ held, ∃ override, lib.IsOptionPair override pair)
    (ho : lib.Offers root key text) :
    ∃ text,
      lib.Offers (held.foldl (fun root pair => lib.put root pair.1 pair.2) root) key text := by
  induction held generalizing root text with
  | nil => exact ⟨text, ho⟩
  | cons pair held ih =>
    obtain ⟨override, hpair⟩ := h pair List.mem_cons_self
    exact ih (fun other hm => h other (List.mem_cons_of_mem _ hm)) (lawful.offers_put hpair hk ho)

/-- Single values at one path are for one option. -/
lemma normalKey_eq_of_path {override other : Text × lib.Value} {path : lib.Path}
    (h : lib.SetsOption override) (h' : lib.SetsOption other)
    (hpath : lib.path override.1 = .ok path) (hpath' : lib.path other.1 = .ok path) :
    normalKey override.1 = normalKey other.1 := by
  obtain ⟨⟨own, hown, hname⟩, -⟩ := h
  obtain ⟨⟨own', hown', hname'⟩, -⟩ := h'
  obtain ⟨first, second, heq, hfirst, hsecond, -⟩ := exists_names_of_optionPath hown hname
  obtain ⟨first', second', heq', hfirst', hsecond', -⟩ := exists_names_of_optionPath hown' hname'
  rw [heq] at hpath
  rw [heq'] at hpath'
  obtain ⟨hf, hs⟩ := lawful.path_injective hfirst hsecond hfirst' hsecond' hpath hpath'
  rw [heq, heq', normalKey, List.map_append, List.map_cons, ← normalKey, ← normalKey, hf, hs]
  simp [normalKey]

/-- The last single value for an option is kept: none behind it is at the same path. -/
lemma exists_mem_held {before after : List (Text × lib.Value)} {override : Text × lib.Value}
    {held : List (lib.Path × lib.Value)}
    (h : ∀ other ∈ before ++ override :: after, lib.SetsOption other)
    (hread : lib.readOverrides (before ++ override :: after) = .ok pairs)
    (hheld : HoldsLast held pairs)
    (hafter : ∀ other ∈ after, normalKey other.1 ≠ normalKey override.1) :
    ∃ path, lib.path override.1 = .ok path ∧ (path, override.2) ∈ held := by
  obtain ⟨before', path, after', rfl, hpath, hrest⟩ := exists_of_readOverrides_append hread
  refine ⟨path, hpath, (hheld.mem_iff _ _).2 ⟨before', after', rfl, fun pair hm he => ?_⟩⟩
  obtain ⟨other, hother, hpath', -⟩ := exists_of_mem_readOverrides hrest hm
  have hsame := lawful.normalKey_eq_of_path (h other (by simp [hother])) (h override (by simp))
    (he ▸ hpath') hpath
  exact hafter other hother hsame

/-- Of all single values for an option the last decides. -/
lemma offers_override (h : ∀ override ∈ overrides, lib.SetsOption override)
    (hspelled : ∀ override ∈ overrides, ∀ other ∈ overrides,
      normalKey override.1 = normalKey other.1 → override.1 = other.1)
    (hread : lib.readOverrides overrides = .ok pairs) (hk : key ∈ optionKeys)
    (ho : lib.Offers root key text) :
    lib.Offers (lib.override root pairs) key
      ((overrides.filterMap (lib.overrideText? key)).getLast?.getD text) := by
  obtain ⟨held, hheld, heq⟩ := lawful.override_eq root pairs
  have hpair : ∀ pair ∈ held, ∃ override ∈ overrides, lib.IsOptionPair override pair :=
    fun pair hm => exists_isOptionPair h hread hheld hm
  rw [heq]
  obtain ⟨hnone, hlast⟩ | ⟨before, override, after, new, hsplit, hnew, hafter, hlast⟩ :=
    getLast?_filterMap_cases (lib.overrideText? key) overrides
  · rw [hlast]
    refine lawful.offers_foldl_put hk (fun pair hm => ?_) ho
    obtain ⟨override, ho, hpair⟩ := hpair pair hm
    exact ⟨override, hpair, hnone override ho⟩
  · subst hsplit
    have hsets := h override (by simp)
    have hname : normalKey override.1 = optionPath key := by
      by_contra hne
      rw [(overrideText?_eq_none_iff hsets).2 hne] at hnew
      cases hnew
    have hbehind : ∀ other ∈ after, normalKey other.1 ≠ normalKey override.1 := by
      intro other hm
      rw [hname]
      exact (overrideText?_eq_none_iff (h other (by simp [hm]))).1 (hafter other hm)
    obtain ⟨path, hpath, hkept⟩ := lawful.exists_mem_held h hread hheld hbehind
    obtain ⟨earlier, later, rfl⟩ := List.append_of_mem hkept
    have hlater : path ∉ later.map Prod.fst := by
      have hnodup := hheld.nodup
      rw [List.map_append, List.map_cons, List.nodup_append] at hnodup
      exact (List.nodup_cons.1 hnodup.2.1).1
    have hearlier : ∀ pair ∈ earlier, ∃ other, lib.IsOptionPair other pair := by
      intro pair hm
      obtain ⟨other, -, hother⟩ := hpair pair (List.mem_append_left _ hm)
      exact ⟨other, hother⟩
    have hown : lib.IsOptionPair override (path, override.2) := ⟨hsets, hpath, rfl⟩
    obtain ⟨_, hbefore⟩ := lawful.exists_offers_foldl_put hk hearlier ho
    have hput := lawful.offers_put hown hk hbefore
    rw [hnew, Option.getD_some] at hput
    rw [hlast, List.foldl_append, List.foldl_cons]
    refine lawful.offers_foldl_put hk (fun pair hm => ?_) hput
    obtain ⟨other, hother, hotherPair⟩ := hpair pair (by simp [hm])
    refine ⟨other, hotherPair, (overrideText?_eq_none_iff hotherPair.1).2 fun hsame => hlater ?_⟩
    -- spelled alike, it would be at the path that is kept once
    have hspell := hspelled other hother override (by simp) (hsame.trans hname.symm)
    have hpath' := hotherPair.2.1
    rw [hspell, hpath] at hpath'
    exact List.mem_map.2 ⟨pair, hm, (Except.ok.inj hpath').symm⟩

end Lawful

end Overrides

/-- With a lawful library, each option is what the last single value for it says, or else the last
layer that sets it, or else nothing; the other option, other keys and other tables have no part in
it. Single values for an option are spelled alike, as the library may keep those that are not in any
order. -/
theorem load_eq_chosen (lawful : lib.Lawful) {layers : List Layer}
    {overrides : List (Text × lib.Value)} (hl : ∀ layer ∈ layers, lib.Plain layer)
    (ho : ∀ override ∈ overrides, lib.SetsOption override)
    (hspelled : ∀ override ∈ overrides, ∀ other ∈ overrides,
      normalKey override.1 = normalKey other.1 → override.1 = other.1) :
    lib.load layers overrides = .ok
      { lineJoin := lib.chosen layers overrides lineJoinKey
        indentUnit := lib.chosen layers overrides indentUnitKey } := by
  obtain ⟨first, hfirst, hdefaults⟩ := lawful.exists_addLayer_defaultToml
  obtain ⟨root, hroot, hlayers⟩ := lawful.exists_addLayers hl first
  obtain ⟨pairs, hpairs⟩ := lawful.exists_readOverrides ho
  have hoffers : ∀ key ∈ optionKeys,
      lib.Offers (lib.override root pairs) key (lib.chosen layers overrides key) := by
    intro key hk
    rw [chosen, Option.getD_or]
    exact lawful.offers_override ho hspelled hpairs hk (hlayers key hk _ (hdefaults key hk))
  obtain ⟨htable, style, join, joinScalar, hstyle, hisTable, hjoin, hj, hjtext⟩ :=
    hoffers lineJoinKey (by decide)
  obtain ⟨-, style', unit, unitScalar, hstyle', -, hunit, hu, hutext⟩ :=
    hoffers indentUnitKey (by decide)
  obtain rfl : style' = style := Option.some.inj (hstyle'.symm.trans hstyle)
  have hload := lawful.style_eq htable hstyle hisTable hjoin hunit hj hu
  rw [load, hpairs, addLayers, hfirst]
  dsimp only
  rw [hroot]
  dsimp only
  rw [hload, hjtext, hutext]

/-- Headers and dotted keys of mixed case, other tables and a missing file: the second layer decides
the line join, and the single value the indent, over the last layer. -/
theorem load_eq_chosen_of_four_layers :
    builtin.load
      [.toml "[render]\nline_join_string = 1\n[other]\nx = { render = 2 }".toList,
        .toml "Render.LINE_JOIN_STRING = \"a\"".toList, .missing false,
        .toml "[render]\nindent_unit_string = true".toList]
      [("RENDER.Indent_Unit_String".toList, .int (-4))] =
      .ok { lineJoin := "a".toList, indentUnit := "-4".toList } := by
  rw [load_eq_chosen lawful_builtin (by decide +kernel) (by decide +kernel) (by decide +kernel)]
  decide +kernel

end Library

end OutlineMarkup.Settings

import OutlineMarkup.Proofs.ListEntries
import OutlineMarkup.Proofs.RunMargins

/-! References as a pattern finds them. The pattern has three repetitions over classes that overlap:
white space, an expression, white space again. Each can be taken in several ways, which are tried in
order, with everything behind it tried again for each; the first way that leads to the closing brace
is taken. That comes to the trimmed body of the reference. Behind the scan no match is left: what it
writes begins no reference, and completes none that was begun before. -/
namespace OutlineMarkup.Source

section Repetition

variable {p : Char → Bool} {part rest t : Text}

/-- The ways to cut a text behind characters of a class, with the shortest part first. -/
def shortestFirst (p : Char → Bool) : Text → List (Text × Text)
  | [] => [([], [])]
  | c :: t =>
    ([], c :: t) ::
      if p c then (shortestFirst p t).map fun (part, rest) => (c :: part, rest) else []

/-- The same ways, with the longest part first. -/
def longestFirst (p : Char → Bool) (t : Text) : List (Text × Text) := (shortestFirst p t).reverse

lemma mem_shortestFirst (h : (part, rest) ∈ shortestFirst p t) :
    t = part ++ rest ∧ ∀ c ∈ part, p c := by
  induction t generalizing part with
  | nil =>
    obtain ⟨rfl, rfl⟩ : part = [] ∧ rest = [] := by simpa [shortestFirst] using h
    simp
  | cons c t ih =>
    rw [shortestFirst, List.mem_cons] at h
    rcases h with h | h
    · cases h
      simp
    · split at h
      · next hc =>
        obtain ⟨⟨shorter, behind⟩, hmem, heq⟩ := List.mem_map.1 h
        cases heq
        obtain ⟨rfl, hpart⟩ := ih hmem
        exact ⟨rfl, List.forall_mem_cons.2 ⟨hc, hpart⟩⟩
      · cases h

lemma mem_longestFirst (h : (part, rest) ∈ longestFirst p t) :
    t = part ++ rest ∧ ∀ c ∈ part, p c :=
  mem_shortestFirst (List.mem_reverse.1 h)

/-- Where a way to cut stands among the others: behind the shorter ones and before the longer
ones. -/
lemma exists_shortestFirst_eq (hpart : ∀ c ∈ part, p c) (rest : Text) :
    ∃ shorter longer, shortestFirst p (part ++ rest) = shorter ++ (part, rest) :: longer ∧
      (∀ cut ∈ shorter, ∃ more, more ≠ [] ∧ cut.1 ++ more = part ∧ cut.2 = more ++ rest) ∧
      ∀ cut ∈ longer, ∃ more, more ≠ [] ∧ cut.1 = part ++ more ∧ rest = more ++ cut.2 ∧
        ∀ c ∈ more, p c := by
  induction part with
  | nil =>
    cases rest with
    | nil => exact ⟨[], [], rfl, by simp, by simp⟩
    | cons c rest =>
      refine ⟨[], _, rfl, by simp, ?_⟩
      intro cut hcut
      split at hcut
      · next hc =>
        obtain ⟨⟨part, behind⟩, hmem, rfl⟩ := List.mem_map.1 hcut
        obtain ⟨rfl, hpart⟩ := mem_shortestFirst hmem
        exact ⟨c :: part, by simp, rfl, rfl, List.forall_mem_cons.2 ⟨hc, hpart⟩⟩
      · cases hcut
  | cons c part ih =>
    obtain ⟨hc, hpart⟩ := List.forall_mem_cons.1 hpart
    obtain ⟨shorter, longer, heq, hshorter, hlonger⟩ := ih hpart
    let extend : Text × Text → Text × Text := fun cut => (c :: cut.1, cut.2)
    refine ⟨([], c :: (part ++ rest)) :: shorter.map extend, longer.map extend, ?_, ?_, ?_⟩
    · rw [List.cons_append, shortestFirst, if_pos hc, heq, List.map_append, List.map_cons]
      rfl
    · intro cut hcut
      rcases List.mem_cons.1 hcut with rfl | hcut
      · exact ⟨c :: part, by simp, rfl, rfl⟩
      · obtain ⟨before, hmem, rfl⟩ := List.mem_map.1 hcut
        obtain ⟨more, hne, rfl, hrest⟩ := hshorter before hmem
        exact ⟨more, hne, rfl, hrest⟩
    · intro cut hcut
      obtain ⟨before, hmem, rfl⟩ := List.mem_map.1 hcut
      obtain ⟨more, hne, hmore, hrest, hclass⟩ := hlonger before hmem
      exact ⟨more, hne, congrArg (c :: ·) hmore, hrest, hclass⟩

variable {β : Type} {f : Text × Text → Option β} {found : β}

/-- The shortest part that leads on is taken. -/
lemma findSome?_shortestFirst (hpart : ∀ c ∈ part, p c) (hfound : f (part, rest) = some found)
    (hshorter : ∀ before more, more ≠ [] → before ++ more = part →
      f (before, more ++ rest) = none) :
    (shortestFirst p (part ++ rest)).findSome? f = some found := by
  obtain ⟨shorter, longer, heq, hbefore, -⟩ := exists_shortestFirst_eq hpart rest
  rw [heq, List.findSome?_eq_some_iff]
  refine ⟨shorter, (part, rest), longer, rfl, hfound, ?_⟩
  rintro ⟨before, behind⟩ hmem
  obtain ⟨more, hne, hmore, rfl⟩ := hbefore _ hmem
  exact hshorter before more hne hmore

/-- The longest part that leads on is taken. -/
lemma findSome?_longestFirst (hpart : ∀ c ∈ part, p c) (hfound : f (part, rest) = some found)
    (hlonger : ∀ more behind, more ≠ [] → rest = more ++ behind → (∀ c ∈ more, p c) →
      f (part ++ more, behind) = none) :
    (longestFirst p (part ++ rest)).findSome? f = some found := by
  obtain ⟨shorter, longer, heq, -, hafter⟩ := exists_shortestFirst_eq hpart rest
  rw [longestFirst, heq, List.reverse_append, List.reverse_cons, List.append_assoc,
    List.singleton_append, List.findSome?_eq_some_iff]
  refine ⟨longer.reverse, (part, rest), shorter.reverse, rfl, hfound, ?_⟩
  rintro ⟨cut, behind⟩ hmem
  obtain ⟨more, hne, rfl, hrest, hclass⟩ := hafter _ (List.mem_reverse.1 hmem)
  exact hlonger more behind hne hrest hclass

end Repetition

/-- Behind an expression: as much white space as possible, and the closing brace. -/
def close? (expression t : Text) : Option (Text × Text) :=
  (longestFirst Text.isBlank t).findSome? fun (_, t) => (Text.after? ['}'] t).map (expression, ·)

/-- An expression without braces, not empty and as short as possible, and what closes it. -/
def express? (t : Text) : Option (Text × Text) :=
  (shortestFirst (!isBrace ·) t).findSome? fun (expression, t) =>
    if expression.isEmpty then none else close? expression t

/-- The pattern of a reference: a hash and an opening brace, as much white space as possible, and an
expression that is closed. It gives the expression and the text behind the reference. -/
def search? : Text → Option (Text × Text)
  | '#' :: '{' :: t => (longestFirst Text.isBlank t).findSome? fun (_, t) => express? t
  | _ => none

section Search

variable {expression t rest : Text}

lemma close?_eq_some_iff {found : Text × Text} :
    close? expression t = some found ↔
      ∃ pad rest, (∀ c ∈ pad, Text.isBlank c) ∧ t = pad ++ '}' :: rest ∧
        found = (expression, rest) := by
  constructor
  · intro h
    obtain ⟨⟨pad, behind⟩, hmem, hfound⟩ := List.exists_of_findSome?_eq_some h
    obtain ⟨rfl, hpad⟩ := mem_longestFirst hmem
    obtain ⟨rest, hrest, rfl⟩ := Option.map_eq_some_iff.1 hfound
    obtain rfl := Text.after?_eq_some_iff.1 hrest
    exact ⟨pad, rest, hpad, rfl, rfl⟩
  · rintro ⟨pad, rest, hpad, rfl, rfl⟩
    refine findSome?_longestFirst hpad rfl ?_
    -- a longer stretch of white space would take the brace
    intro more behind hne hmore hblank
    cases more with
    | nil => exact absurd rfl hne
    | cons c more =>
      obtain rfl : '}' = c := (List.cons.inj hmore).1
      cases hblank '}' (by simp)

/-- An expression is found when no shorter one could be closed: what it would leave out is not all
white space. -/
lemma express?_append {pad : Text} (hne : expression ≠ [])
    (hplain : ∀ c ∈ expression, isBrace c = false) (hpad : ∀ c ∈ pad, Text.isBlank c)
    (hshortest : ∀ before more, before ≠ [] → more ≠ [] → before ++ more = expression →
      ¬ ∀ c ∈ more, Text.isBlank c) :
    express? (expression ++ (pad ++ '}' :: rest)) = some (expression, rest) := by
  have hclose : close? expression (pad ++ '}' :: rest) = some (expression, rest) :=
    close?_eq_some_iff.2 ⟨pad, rest, hpad, rfl, rfl⟩
  refine findSome?_shortestFirst (by simpa using hplain) (by simpa [hne] using hclose) ?_
  intro before more hmore heq
  by_cases hbefore : before = []
  · simp [hbefore]
  · dsimp only
    rw [if_neg (by simpa using hbefore), Option.eq_none_iff_forall_ne_some]
    intro found hfound
    obtain ⟨blank, behind, hblank, htext, -⟩ := close?_eq_some_iff.1 hfound
    refine hshortest before more hbefore hmore heq ?_
    rcases List.append_eq_append_iff.1 htext with ⟨mid, rfl, -⟩ | ⟨mid, rfl, hmid⟩
    · exact fun c hc => hblank c (List.mem_append_left mid hc)
    · cases mid with
      | nil => simpa using hblank
      | cons c mid =>
        obtain rfl : '}' = c := (List.cons.inj hmid).1
        cases hplain '}' (by simp [← heq])

lemma exists_of_express? {found : Text × Text} (h : express? t = some found) :
    ∃ pad, found.1 ≠ [] ∧ (∀ c ∈ found.1, isBrace c = false) ∧ (∀ c ∈ pad, Text.isBlank c) ∧
      t = found.1 ++ (pad ++ '}' :: found.2) := by
  obtain ⟨⟨expression, behind⟩, hmem, hfound⟩ := List.exists_of_findSome?_eq_some h
  obtain ⟨rfl, hplain⟩ := mem_shortestFirst hmem
  dsimp only at hfound
  split at hfound
  · cases hfound
  · next hne =>
    obtain ⟨pad, rest, hpad, rfl, rfl⟩ := close?_eq_some_iff.1 hfound
    exact ⟨pad, by simpa using hne, by simpa using hplain, hpad, rfl⟩

lemma isBrace_of_isBlank {c : Char} (h : Text.isBlank c) : isBrace c = false := by
  by_contra hc
  simp only [isBrace, Bool.not_eq_false, Bool.or_eq_true, beq_iff_eq] at hc
  rcases hc with rfl | rfl <;> cases h

/-- A text begins with a reference: a hash, an opening brace, a body without braces that is not
empty, and a closing brace. -/
structure Begins (t body rest : Text) : Prop where
  ne_nil : body ≠ []
  plain : ∀ c ∈ body, c ≠ '{' ∧ c ≠ '}'
  eq : t = '#' :: '{' :: (body ++ '}' :: rest)

lemma isBrace_eq_false_iff {c : Char} : isBrace c = false ↔ c ≠ '{' ∧ c ≠ '}' := by
  simp [isBrace]

/-- What is left of a trimmed body cannot be told from white space by taking less of it. -/
lemma not_blank_of_append_eq_trim {body before more : Text} (hne : more ≠ [])
    (h : before ++ more = body.trim) : ¬ ∀ c ∈ more, Text.isBlank c := by
  intro hblank
  have hnone : ∀ c ∈ ([] : Text), Text.isBlank c := by simp
  have htrim : (before ++ more).trim = before ++ more := by rw [h, Text.trim_trim]
  have hshort : (before ++ more).trim = before.trim :=
    Text.trim_append_of_blank hnone hblank before
  have hlength := Text.length_trim_le before
  rw [← hshort, htrim, List.length_append] at hlength
  exact hne (List.length_eq_zero_iff.1 (by omega))

/-- The pattern takes the trimmed body of a reference, when there is anything to take. -/
lemma search?_of_filled {body rest : Text} (hplain : ∀ c ∈ body, isBrace c = false)
    (hfilled : body.trim ≠ []) :
    search? ('#' :: '{' :: (body ++ '}' :: rest)) = some (body.trim, rest) := by
  obtain ⟨pad, pad', hpad, hpad', hbody⟩ := Text.exists_append_trim body
  have htext : body ++ '}' :: rest = pad ++ (body.trim ++ (pad' ++ '}' :: rest)) := by
    conv_lhs => rw [hbody]
    simp
  have hexpress : express? (body.trim ++ (pad' ++ '}' :: rest)) = some (body.trim, rest) := by
    refine express?_append hfilled (fun c hc => hplain c ?_) hpad' ?_
    · rw [hbody]
      simp [hc]
    · exact fun before more _ hmore heq => not_blank_of_append_eq_trim hmore heq
  rw [search?, htext]
  refine findSome?_longestFirst hpad hexpress ?_
  -- the trimmed body begins with something else than white space
  intro more behind hne hmore hblank
  obtain ⟨c, core, hcore⟩ := List.exists_cons_of_ne_nil hfilled
  obtain ⟨d, more, rfl⟩ := List.exists_cons_of_ne_nil hne
  rw [hcore] at hmore
  obtain rfl : c = d := (List.cons.inj hmore).1
  have hmargin := Text.margin_trim body
  rw [hcore, Text.margin, List.takeWhile_cons_of_pos (hblank c (by simp))] at hmargin
  cases hmargin

/-- Of a body that is all white space, the pattern takes the last character: the white space before
it leaves nothing for the expression until it gives that character back. -/
lemma search?_of_blank {pad rest : Text} {last : Char} (hpad : ∀ c ∈ pad, Text.isBlank c)
    (hlast : Text.isBlank last) :
    search? ('#' :: '{' :: (pad ++ [last] ++ '}' :: rest)) = some ([last], rest) := by
  have hexpress : express? ([last] ++ ([] ++ '}' :: rest)) = some ([last], rest) := by
    refine express?_append (by simp) (by simpa using isBrace_of_isBlank hlast) (by simp) ?_
    intro before more hbefore hmore heq
    have hlength := congrArg List.length heq
    rw [List.length_append, List.length_singleton] at hlength
    have := List.length_pos_iff.2 hbefore
    have := List.length_pos_iff.2 hmore
    omega
  rw [search?, List.append_assoc]
  refine findSome?_longestFirst hpad hexpress ?_
  intro more behind hne hmore hblank
  obtain ⟨c, more, rfl⟩ := List.exists_cons_of_ne_nil hne
  obtain ⟨-, hmore⟩ := List.cons.inj hmore
  cases more with
  | cons d more =>
    obtain rfl : '}' = d := (List.cons.inj hmore).1
    cases hblank '}' (by simp)
  | nil =>
    obtain rfl : '}' :: rest = behind := hmore
    rw [Option.eq_none_iff_forall_ne_some]
    intro found hfound
    obtain ⟨_, hfilled, hplain, -, htext⟩ := exists_of_express? hfound
    obtain ⟨d, expression, hexpression⟩ := List.exists_cons_of_ne_nil hfilled
    rw [hexpression] at htext hplain
    obtain rfl : '}' = d := (List.cons.inj htext).1
    cases hplain '}' (by simp)

/-- The pattern finds the references that there are, and takes of each what it refers to. -/
theorem search?_eq_some_iff :
    search? t = some (expression, rest) ↔
      ∃ body, Begins t body rest ∧ expression = Piece.expression body := by
  have hbegins : ∀ {body}, Begins t body rest →
      search? t = some (Piece.expression body, rest) := by
    rintro body ⟨hne, hplain, rfl⟩
    by_cases hblank : body.trim = []
    · obtain ⟨pad, last, rfl⟩ := (List.eq_nil_or_concat' body).resolve_left hne
      have hall := Text.trim_eq_nil_iff.1 hblank
      rw [List.forall_mem_append, List.forall_mem_singleton] at hall
      rw [search?_of_blank hall.1 hall.2, Piece.expression, if_pos hblank]
      simp
    · rw [search?_of_filled (fun c hc => isBrace_eq_false_iff.2 (hplain c hc)) hblank,
        Piece.expression, if_neg hblank]
  constructor
  · intro h
    have hshape : ∃ body, Begins t body rest := by
      unfold search? at h
      split at h
      · obtain ⟨⟨pad, behind⟩, hmem, hfound⟩ := List.exists_of_findSome?_eq_some h
        obtain ⟨rfl, hpad⟩ := mem_longestFirst hmem
        obtain ⟨pad', hne, hplain, hpad', rfl⟩ := exists_of_express? hfound
        refine ⟨pad ++ (expression ++ pad'), ?_, ?_, by simp⟩
        · simp [hne]
        · intro c hc
          apply isBrace_eq_false_iff.1
          rcases List.mem_append.1 hc with hc | hc
          · exact isBrace_of_isBlank (hpad c hc)
          · rcases List.mem_append.1 hc with hc | hc
            · exact hplain c hc
            · exact isBrace_of_isBlank (hpad' c hc)
      · cases h
    obtain ⟨body, hbody⟩ := hshape
    rw [hbegins hbody] at h
    cases h
    exact ⟨body, hbody, rfl⟩
  · rintro ⟨body, hbody, rfl⟩
    exact hbegins hbody

lemma reference?_eq_some_iff {body : Text} :
    reference? t = some (body, rest) ↔ Begins t body rest := by
  constructor
  · intro h
    unfold reference? at h
    split at h
    · next t =>
      split at h <;> cases h
      next c body htake hdrop =>
      have htext := List.takeWhile_append_dropWhile (p := (!isBrace ·)) (l := t)
      rw [htake, hdrop] at htext
      refine ⟨by simp, ?_, by rw [htext]⟩
      intro d hd
      rw [← htake] at hd
      simpa [isBrace] using List.mem_takeWhile_imp hd
    · cases h
  · rintro ⟨hne, hplain, rfl⟩
    have hclass : ∀ c ∈ body, (!isBrace c) = true := by
      intro c hc
      rw [isBrace_eq_false_iff.2 (hplain c hc)]
      rfl
    have hstop : ∀ c ∈ ('}' :: rest).head?, (!isBrace c) = false := by
      rintro c ⟨⟩
      rfl
    obtain ⟨c, body, rfl⟩ := List.exists_cons_of_ne_nil hne
    rw [reference?, Text.takeWhile_append_eq hclass hstop, Text.dropWhile_append_eq hclass hstop]
    rfl

/-- The pattern is found where the scan sees a reference, and nowhere else. -/
lemma search?_eq_none_iff : search? t = none ↔ reference? t = none := by
  simp only [Option.eq_none_iff_forall_ne_some, Prod.forall, ne_eq, search?_eq_some_iff,
    reference?_eq_some_iff]
  constructor
  · exact fun h body rest hbegins => h _ _ ⟨body, hbegins, rfl⟩
  · rintro h _ rest ⟨body, hbegins, -⟩
    exact h body rest hbegins

end Search

def inBraces (expression : Text) : Text := '{' :: '{' :: ' ' :: expression ++ [' ', '}', '}']

/-- A scan from left to right, with a way to find an expression at the start of a text and the text
behind it: what is found is put in braces, and any other character is copied. -/
inductive Scans (finds : Text → Text → Text → Prop) : Text → Text → Prop
  | done : Scans finds [] []
  | replaced {t expression rest out : Text} (h : finds t expression rest)
      (hrest : Scans finds rest out) : Scans finds t (inBraces expression ++ out)
  | copied {c : Char} {t out : Text} (h : ∀ expression rest, ¬ finds (c :: t) expression rest)
      (hrest : Scans finds t out) : Scans finds (c :: t) (c :: out)

section Expansion

variable {t rest : Text}

lemma expand_of_reference?_eq_some {body : Text} (h : reference? t = some (body, rest)) :
    expand t = inBraces (Piece.expression body) ++ expand rest := by
  rw [expand, pieces_of_reference?_eq_some h, List.flatMap_cons]
  rfl

/-- A scan that finds what a reference refers to is the expansion of the line. -/
lemma scans_iff {finds : Text → Text → Text → Prop}
    (hfinds : ∀ {t expression rest}, finds t expression rest ↔
      ∃ body, reference? t = some (body, rest) ∧ expression = Piece.expression body)
    {line out : Text} : Scans finds line out ↔ out = expand line := by
  constructor
  · intro h
    induction h with
    | done => rw [expand_nil]
    | replaced h _ ih =>
      obtain ⟨body, hbody, rfl⟩ := hfinds.1 h
      rw [ih, expand_of_reference?_eq_some hbody]
    | copied h _ ih =>
      rw [ih, expand_cons_of_reference?_eq_none]
      rw [Option.eq_none_iff_forall_ne_some]
      rintro ⟨body, rest⟩ hbody
      exact h _ rest (hfinds.2 ⟨body, hbody, rfl⟩)
  · rintro rfl
    fun_induction pieces line with
    | case1 =>
      rw [expand_nil]
      exact .done
    | case2 c t body rest h _ ih =>
      rw [expand_of_reference?_eq_some h]
      exact .replaced (hfinds.2 ⟨body, h, rfl⟩) ih
    | case3 c t h ih =>
      rw [expand_cons_of_reference?_eq_none h]
      refine .copied ?_ ih
      intro expression rest hfound
      obtain ⟨body, hbody, -⟩ := hfinds.1 hfound
      rw [h] at hbody
      cases hbody

/-- Up to a closing brace, an expanded line is the line itself: an expression would bring an opening
brace first. -/
lemma exists_of_expand_eq_append {before behind : Text}
    (hplain : ∀ c ∈ before, c ≠ '{' ∧ c ≠ '}') (h : expand t = before ++ '}' :: behind) :
    ∃ rest, t = before ++ '}' :: rest := by
  induction before generalizing t with
  | nil =>
    cases t with
    | nil => simp at h
    | cons c t =>
      cases hc : reference? (c :: t) with
      | some found =>
        obtain ⟨-, _, hexpand⟩ := exists_of_reference?_eq_some hc
        rw [hexpand] at h
        cases h
      | none =>
        rw [expand_cons_of_reference?_eq_none hc] at h
        obtain ⟨rfl, -⟩ := List.cons.inj h
        exact ⟨t, rfl⟩
  | cons d before ih =>
    obtain ⟨hd, hbefore⟩ := List.forall_mem_cons.1 hplain
    cases t with
    | nil => simp at h
    | cons c t =>
      cases hc : reference? (c :: t) with
      | some found =>
        obtain ⟨-, _, hexpand⟩ := exists_of_reference?_eq_some hc
        rw [hexpand] at h
        exact absurd (List.cons.inj h).1.symm hd.1
      | none =>
        rw [expand_cons_of_reference?_eq_none hc] at h
        obtain ⟨rfl, hrest⟩ := List.cons.inj h
        obtain ⟨rest, rfl⟩ := ih hbefore hrest
        exact ⟨rest, rfl⟩

/-- Expanding what follows a character begins no reference that was not there. -/
lemma reference?_cons_expand {c : Char} (h : reference? (c :: t) = none) :
    reference? (c :: expand t) = none := by
  rw [Option.eq_none_iff_forall_ne_some]
  rintro ⟨body, behind⟩ hfound
  obtain ⟨hne, hplain, heq⟩ := reference?_eq_some_iff.1 hfound
  obtain ⟨rfl, hexpand⟩ := List.cons.inj heq
  obtain ⟨d, body, rfl⟩ := List.exists_cons_of_ne_nil hne
  cases t with
  | nil => simp at hexpand
  | cons e t =>
    cases he : reference? (e :: t) with
    | some found =>
      -- the expression brings a second opening brace, and a body holds none
      rw [expand_of_reference?_eq_some he] at hexpand
      obtain rfl : '{' = d := (List.cons.inj (List.cons.inj hexpand).2).1
      exact (hplain '{' (by simp)).1 rfl
    | none =>
      rw [expand_cons_of_reference?_eq_none he] at hexpand
      obtain ⟨rfl, hrest⟩ := List.cons.inj hexpand
      obtain ⟨rest, rfl⟩ := exists_of_expand_eq_append hplain hrest
      rw [reference?_eq_some_iff.2 ⟨hne, hplain, rfl⟩] at h
      cases h

/-- A reference that begins within text free of braces and the white space behind it begins further
behind. -/
lemma suffix_of_plain_append {expression behind : Text}
    (hplain : ∀ c ∈ expression, c ≠ '{') (h : '#' :: '{' :: t <:+ expression ++ ' ' :: behind) :
    '#' :: '{' :: t <:+ behind := by
  induction expression with
  | nil =>
    rcases List.suffix_cons_iff.1 h with heq | h
    · cases heq
    · exact h
  | cons c expression ih =>
    obtain ⟨-, hrest⟩ := List.forall_mem_cons.1 hplain
    rw [List.cons_append] at h
    rcases List.suffix_cons_iff.1 h with heq | h
    · have hnext := (List.cons.inj heq).2
      cases expression with
      | nil => cases hnext
      | cons d expression => exact absurd (List.cons.inj hnext).1.symm (hrest d (by simp))
    · exact ih hrest h

lemma mem_of_mem_expression {body : Text} {c : Char} (h : c ∈ Piece.expression body) :
    c ∈ body := by
  unfold Piece.expression at h
  split at h
  · exact List.mem_of_getLast? (by simpa using h)
  · obtain ⟨pad, pad', -, -, hbody⟩ := Text.exists_append_trim body
    rw [hbody]
    simp [h]

/-- No reference begins anywhere in an expanded line. -/
theorem reference?_of_suffix_expand (line : Text) (h : t <:+ expand line) :
    reference? t = none := by
  fun_induction pieces line generalizing t with
  | case1 =>
    rw [expand_nil, List.suffix_nil] at h
    rw [h]
    rfl
  | case3 c rest hc ih =>
    rw [expand_cons_of_reference?_eq_none hc] at h
    rcases List.suffix_cons_iff.1 h with rfl | h
    · exact reference?_cons_expand hc
    · exact ih h
  | case2 c rest body behind hbody _ ih =>
    rw [Option.eq_none_iff_forall_ne_some]
    rintro ⟨other, more⟩ hfound
    obtain ⟨-, -, rfl⟩ := reference?_eq_some_iff.1 hfound
    have hplain : ∀ c ∈ Piece.expression body, c ≠ '{' := fun c hc =>
      ((reference?_eq_some_iff.1 hbody).plain c (mem_of_mem_expression hc)).1
    have hexpand : expand (c :: rest) =
        '{' :: '{' :: ' ' :: (Piece.expression body ++ ' ' :: '}' :: '}' :: expand behind) := by
      rw [expand_of_reference?_eq_some hbody]
      simp [inBraces]
    -- it would have to begin behind the expression and its braces
    have hafter : '#' :: '{' :: (other ++ '}' :: more) <:+ expand behind := by
      simp only [hexpand, List.suffix_cons_iff, List.cons.injEq, Char.reduceEq, false_and,
        false_or] at h
      have hbraces := suffix_of_plain_append hplain h
      simpa only [List.suffix_cons_iff, List.cons.injEq, Char.reduceEq, false_and, false_or]
        using hbraces
    rw [ih hafter] at hfound
    cases hfound

/-- A line in which no reference begins is expanded to itself. -/
lemma expand_eq_self (h : ∀ rest, rest <:+ t → reference? rest = none) : expand t = t := by
  induction t with
  | nil => rw [expand_nil]
  | cons c t ih =>
    rw [expand_cons_of_reference?_eq_none (h _ (List.suffix_refl _)),
      ih fun rest hrest => h rest (hrest.trans (List.suffix_cons c t))]

/-- The expansion of a line is what a scan from left to right makes of it, whether the scan looks
for the pattern or for a body between braces; no match of the pattern is left anywhere in it, a
second expansion changes nothing, and the margin of the line is kept. -/
theorem expand_by_scan (line : Text) :
    (∀ out, Scans (fun t expression rest => search? t = some (expression, rest)) line out ↔
      out = expand line) ∧
    (∀ out, Scans (fun t expression rest =>
        ∃ body, Begins t body rest ∧ expression = Piece.expression body) line out ↔
      out = expand line) ∧
    (∀ rest, rest <:+ expand line → search? rest = none) ∧
    expand (expand line) = expand line ∧
    (expand line).margin = line.margin := by
  have hleft : ∀ rest, rest <:+ expand line → reference? rest = none :=
    fun rest => reference?_of_suffix_expand line
  refine ⟨fun out => scans_iff ?_, fun out => scans_iff ?_, ?_, expand_eq_self hleft,
    margin_expand line⟩
  · simp only [search?_eq_some_iff, reference?_eq_some_iff, implies_true]
  · simp only [reference?_eq_some_iff, implies_true]
  · exact fun rest hrest => search?_eq_none_iff.2 (hleft rest hrest)

/-- Braces and hashes around a reference do not make another one of what is written for it. -/
example : expand "##{ a } #{#{b}}".toList = "#{{ a }} #{{{ b }}}".toList := by
  decide +kernel

end Expansion

end OutlineMarkup.Source

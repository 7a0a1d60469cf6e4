import OutlineMarkup.Proofs.Planting

/-! The faults of a line by itself. A line shows the same fault in every tree, and it is never one
of indentation or of a node that is attached twice. -/
namespace OutlineMarkup

open OutlineMarkup.Tree

namespace Line

/-- The fault a line shows when it is read into an empty tree. -/
def fault? (line : Text) : Option Fault :=
  match plant {} line with
  | (_, .error fault) => some fault
  | (_, .ok _) => none

/-- The node a line is read as, with nothing that is written inline after it. -/
def node? (line : Text) : Option Node :=
  match plant {} line with
  | (planted, .ok id) => some (planted.node id)
  | (_, .error _) => none

/-- A line at fault shows the same fault in every tree. -/
lemma plant_eq_error_iff {line : Text} {fault : Fault} (tree : Tree) :
    (∃ planted, plant tree line = (planted, .error fault)) ↔
      (read line).sprout = .error fault := by
  have hspec := (read line).plantSpec tree
  constructor
  · rintro ⟨planted, hplant⟩
    rw [← plant, hplant] at hspec
    cases hs : (read line).sprout with
    | error other =>
      rw [hs] at hspec
      obtain ⟨_, heq⟩ := hspec
      cases heq
      rfl
    | ok sprout =>
      rw [hs] at hspec
      obtain ⟨_, heq, -⟩ := hspec
      cases heq
  · intro hs
    rw [hs] at hspec
    exact hspec

lemma fault?_of_sprout_error {line : Text} {fault : Fault}
    (h : (read line).sprout = .error fault) : fault? line = some fault := by
  obtain ⟨planted, hplant⟩ := (plant_eq_error_iff {}).2 h
  rw [fault?, hplant]

lemma sprout_of_fault? {line : Text} {fault : Fault} (h : fault? line = some fault) :
    (read line).sprout = .error fault := by
  apply (plant_eq_error_iff {}).1
  unfold fault? at h
  split at h
  · next planted other hplant =>
    cases h
    exact ⟨planted, hplant⟩
  · cases h

lemma fault?_eq_some_iff {line : Text} {fault : Fault} :
    fault? line = some fault ↔ (read line).sprout = .error fault :=
  ⟨sprout_of_fault?, fault?_of_sprout_error⟩

/-- A line that is not at fault is read as the top of its sprout. -/
lemma node?_of_sprout {line : Text} {node : Node} {children : Forest Node}
    (h : (read line).sprout = .ok (node, children)) :
    fault? line = none ∧ node? line = some node := by
  have hspec := (read line).plantSpec {}
  rw [h, ← plant] at hspec
  obtain ⟨planted, hplant, hplanted⟩ := hspec
  rw [fault?, node?, hplant]
  exact ⟨rfl, congrArg some hplanted.node_eq⟩

end Line

/-- The faults that a line can have by itself: not those of its margin, and not a node that is
attached twice. -/
def Fault.isInherent : Fault → Bool
  | alreadyParented | mixedIndentation => false
  | _ => true

namespace Line

lemma Shorthand.isInherent_of_addChunks {shorthand tag : Text} {attributes : Attributes}
    {chunks : List (Text × Text)} {fault : Fault}
    (h : addChunks shorthand tag attributes chunks = .error fault) : fault.isInherent := by
  induction chunks generalizing attributes with
  | nil => cases h
  | cons chunk rest ih =>
    obtain ⟨key, name⟩ := chunk
    rw [addChunks] at h
    split at h
    · cases h
      rfl
    · split at h
      · exact ih h
      · next refused =>
        cases h
        obtain ⟨-, -, rfl⟩ := Attributes.add_eq_error_iff.1 refused
        rfl

lemma AttributeList.isInherent_of_addSegments {list tag : Text} {attributes : Attributes}
    {segments : List Text} {fault : Fault}
    (h : addSegments list tag attributes segments = .error fault) : fault.isInherent := by
  induction segments generalizing attributes with
  | nil => cases h
  | cons segment rest ih =>
    rw [addSegments] at h
    split at h
    · cases h
      rfl
    · split at h
      · exact ih h
      · next refused =>
        cases h
        obtain ⟨-, -, rfl⟩ := Attributes.add_eq_error_iff.1 refused
        rfl

lemma ElementLine.isInherent_of_attributes {line : ElementLine} {fault : Fault}
    (h : line.attributes = .error fault) : fault.isInherent := by
  unfold attributes at h
  split at h
  · next first hs =>
    cases h
    cases hshorthand : line.shorthand with
    | none => simp [hshorthand] at hs
    | some shorthand =>
      rw [hshorthand] at hs
      exact Shorthand.isInherent_of_addChunks hs
  · cases hlist : line.attributeList with
    | none => simp [hlist] at h
    | some list =>
      rw [hlist] at h
      exact AttributeList.isInherent_of_addSegments h

lemma isInherent_of_head {form : TagForm} {text : Text} {fault : Fault}
    (h : head form text = .error fault) : fault.isInherent := by
  cases form with
  | control =>
    rw [head] at h
    split at h <;> cases h
    rfl
  | element =>
    rw [head] at h
    split at h
    · cases h
      rfl
    · next parts _ =>
      unfold ElementLine.node at h
      cases ha : parts.attributes with
      | error first =>
        rw [ha] at h
        cases h
        exact ElementLine.isInherent_of_attributes ha
      | ok attributes =>
        simp only [ha] at h
        split at h <;> cases h
        rfl

def Reading.fault? : Reading → Option Fault
  | faulty fault => some fault
  | single _ => none
  | nested _ inner => inner.fault?

lemma isInherent_of_fault?_read {line : Text} {fault : Fault}
    (h : (read line).fault? = some fault) : fault.isInherent := by
  fun_induction read line with
  | case1 => cases h
  | case2 _ _ _ _ _ _ hhead =>
    cases h
    exact isInherent_of_head hhead
  | case3 => cases h
  | case4 _ _ _ _ _ _ _ _ _ hhead =>
    cases h
    exact isInherent_of_head hhead
  | case5 _ _ _ _ _ _ _ _ _ _ ih => exact ih h

lemma Head.isInherent_of_sprout {head : Head} {fault : Fault}
    (h : head.sprout = .error fault) : fault.isInherent := by
  unfold Head.sprout at h
  split at h <;> cases h
  rfl

lemma Reading.isInherent_of_sprout {reading : Reading} {fault : Fault}
    (hread : ∀ fault, reading.fault? = some fault → fault.isInherent)
    (h : reading.sprout = .error fault) : fault.isInherent := by
  induction reading with
  | faulty first =>
    cases h
    exact hread _ rfl
  | single head => exact head.isInherent_of_sprout h
  | nested head inner ih =>
    rw [Reading.sprout] at h
    split at h
    · next hhead =>
      cases h
      exact head.isInherent_of_sprout hhead
    · split at h
      · next hinner =>
        cases h
        exact ih hread hinner
      · split at h <;> cases h
        rfl

/-- Whatever fault a line shows by itself, it is neither one of indentation nor one of a node that
is attached twice. -/
theorem isInherent_of_sprout {line : Text} {fault : Fault}
    (h : (read line).sprout = .error fault) : fault.isInherent :=
  Reading.isInherent_of_sprout (fun _ => isInherent_of_fault?_read) h

lemma plant_ne_alreadyParented (tree : Tree) (line : Text) :
    (plant tree line).2 ≠ .error .alreadyParented := by
  intro hfault
  have hsprout := (plant_eq_error_iff tree).1 ⟨(plant tree line).1, Prod.ext rfl hfault⟩
  have hinherent := isInherent_of_sprout hsprout
  cases hinherent

end Line

end OutlineMarkup

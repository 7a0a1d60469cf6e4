import OutlineMarkup.Fault

/-! What is wrong with a template, in words and at a line of the source. -/
namespace OutlineMarkup

inductive Topic where
  | indentation
  | form
  deriving Repr, DecidableEq

def Topic.name : Topic → Text
  | indentation => "Indentation".toList
  | form => "Syntax".toList

/-- What is wrong with a template, at a line counted from zero. -/
structure Diagnostic where
  topic : Topic
  line : Nat
  message : Text
  deriving Repr, DecidableEq

namespace Diagnostic

/-- A fault found at a line. Mixed indentation is about indentation, any other fault about form. -/
def ofFault (line : Nat) (fault : Fault) : Diagnostic where
  topic := if fault = .mixedIndentation then .indentation else .form
  line := line
  message := fault.message

/-- A line that is less indented than the one before and meets no open line of its own width. -/
def unmatchedUnindent (line : Nat) : Diagnostic :=
  ⟨.indentation, line, "Unindent does not match any outer indentation level".toList⟩

/-- A template that ends inside a continued line. -/
def openContinuation (line : Nat) : Diagnostic :=
  ⟨.form, line, "Line continuation at the end of the template".toList⟩

def display (diagnostic : Diagnostic) : Text :=
  diagnostic.topic.name ++ " error on line ".toList ++ (toString diagnostic.line).toList ++
    ": ".toList ++ diagnostic.message

@[simp] theorem line_ofFault (line : Nat) (fault : Fault) : (ofFault line fault).line = line := rfl
@[simp] theorem message_ofFault (line : Nat) (fault : Fault) :
    (ofFault line fault).message = fault.message := rfl
@[simp] theorem line_unmatchedUnindent (line : Nat) : (unmatchedUnindent line).line = line := rfl
@[simp] theorem line_openContinuation (line : Nat) : (openContinuation line).line = line := rfl

end Diagnostic
end OutlineMarkup

/-!
# What can go wrong with a template

A template may be malformed, may use names that mean nothing, or may ask for an operation that
cannot be carried out. That it is malformed may come out where nobody looks for it (`Fault.untold`).
-/

namespace ReleaseNotes.Template

/-- What goes wrong with a template. -/
inductive Fault where
  /-- The template breaks the rules of the language. -/
  | malformed (reason : String)
  /-- The template breaks the rules of the language, which comes out only when its names are looked
  for. -/
  | refused (reason : String)
  /-- The template uses a value that is not there. -/
  | undefined (reason : String)
  /-- The template uses names that are not available. -/
  | undeclared (names available : List String)
  /-- A branch that is reached names a filter or a test that does not exist. -/
  | unknownHelper
  /-- An operation does not apply to values like these. -/
  | mismatched
  /-- A value cannot be gone through. -/
  | notIterable
  /-- A division by zero. -/
  | zeroDivision
  /-- An operation applies to values like these, but not to these. -/
  | unfit
  /-- A number grows beyond what a floating-point number or a count can hold, or the template is
  nested more deeply than it can be followed. -/
  | tooLarge
  deriving DecidableEq, Repr

/-- The wording of a fault in the template with a name. -/
def Fault.message (name : String) : Fault → String
  | .malformed reason => "Invalid " ++ name ++ " syntax: " ++ reason
  | .refused reason => "Invalid " ++ name ++ " syntax: " ++ reason
  | .undefined reason => "Template uses undefined variable: " ++ reason
  | .undeclared names available =>
    name ++ " uses undefined variables: " ++ ", ".intercalate names ++
      ". Available variables: " ++ ", ".intercalate available
  | .unknownHelper => "no such filter or test"
  | .mismatched => "operand of a wrong type"
  | .notIterable => "argument must be iterable"
  | .zeroDivision => "division by zero"
  | .unfit => "operand out of range"
  | .tooLarge => "number too large"

/-- A fault as it is told where a template is expected to be malformed. -/
def Fault.told : Fault → Fault
  | .refused reason => .malformed reason
  | fault => fault

/-- A fault as it comes out where no template is expected to be malformed. -/
def Fault.untold : Fault → Fault
  | .malformed reason => .refused reason
  | fault => fault

/-- Whether a fault that comes out when a template is checked is told as something that is wrong with the
template. -/
def Fault.isComplaint : Fault → Bool
  | .malformed _ | .undeclared _ _ | .unfit => true
  | .refused _ | .undefined _ | .unknownHelper | .mismatched | .notIterable | .zeroDivision | .tooLarge => false

end ReleaseNotes.Template

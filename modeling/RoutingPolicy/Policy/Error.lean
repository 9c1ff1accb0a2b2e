import RoutingPolicy.Text.Diagnostic

/-!
# Errors in policies

A text that is no policy is refused for one of three reasons. What is wrong with a malformed
document is said where the policy itself lays down the rule that is broken: a field is missing, or a
number in the section on resizing is out of range.
-/

set_option autoImplicit false

namespace RoutingPolicy

def thresholdMessage (category key : String) : String :=
  "invalid " ++ category ++ " threshold " ++ Text.diagnostic key ++ ": expected a number"

inductive Malformation where
  | notJson
  /-- A value is of another kind than its place asks for. -/
  | wrongShape
  | missingField (name : String)
  /-- A number in the section on resizing is out of range. -/
  | resizingRange (number : String)
  deriving DecidableEq

/-- What is said about it beyond that the document is malformed. -/
def Malformation.detail? : Malformation → Option String
  | notJson => none
  | wrongShape => none
  | missingField name => some ("missing field \x60" ++ name ++ "\x60")
  | resizingRange number => some (thresholdMessage "resizing" number)

inductive PolicyError where
  /-- The document is of another kind than an object. -/
  | notAnObject (kind : String)
  /-- The text is no document, or a section has the wrong shape. -/
  | malformed (cause : Malformation)
  | invalidThreshold (category key : String)
  deriving DecidableEq

namespace PolicyError

def isThreshold : PolicyError → Bool
  | invalidThreshold .. => true
  | _ => false

def message : PolicyError → String
  | notAnObject kind => "policy document must be a JSON object, got " ++ kind
  | malformed cause => match cause.detail? with
    | some detail => "malformed policy document: " ++ detail
    | none => "malformed policy document"
  | invalidThreshold category key => thresholdMessage category key

end PolicyError

end RoutingPolicy

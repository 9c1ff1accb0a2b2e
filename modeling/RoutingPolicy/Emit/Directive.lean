import RoutingPolicy.Rule.Basic
import RoutingPolicy.Text.Diagnostic

/-!
# Clashing directives

The directives of a rule are attributes of one ad, beside four attributes that every rule has. No
two of them may have the same name; the case of letters does not count. A rule set with a clash is
not written at all.
-/

set_option autoImplicit false

namespace RoutingPolicy

inductive EmitError where
  | duplicateDirective (rule directive : String)
  deriving DecidableEq

def EmitError.message : EmitError → String
  | duplicateDirective rule directive =>
    "rule " ++ Text.diagnostic rule ++ " has more than one " ++ directive ++ " directive"

/-- The attributes that every rule has beside its directives. -/
def fixedAttributes : List String := ["Name", "GridResource", "TargetUniverse", "Requirements"]

/-- The first name that repeats one before it or one in `seen`, which is in small letters. -/
def firstRepeated? (seen : List String) : List String → Option String
  | [] => none
  | name :: rest =>
    if seen.contains (Text.foldCase name) then some name
    else firstRepeated? (Text.foldCase name :: seen) rest

/-- The first directive of a rule whose name is taken. -/
def Rule.clash? (r : Rule) : Option String :=
  firstRepeated? (fixedAttributes.map Text.foldCase) r.directives

def RuleSet.validate (s : RuleSet) : Except EmitError Unit :=
  match s.rules.findSome? fun r => r.clash?.map (EmitError.duplicateDirective r.name) with
  | some e => .error e
  | none => .ok ()

end RoutingPolicy

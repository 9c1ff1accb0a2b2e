import RoutingPolicy.Digest.Sha256
import RoutingPolicy.Emit.Directive
import RoutingPolicy.Json.Printer

/-!
# Rule sets as text

A rule set is written as ads for the router, one for each rule, or as a JSON document. The text
depends on the rules alone. The fingerprint of a rule set is a digest of its ads.
-/

set_option autoImplicit false

namespace RoutingPolicy

def gridResource : String := "condor localhost localhost"

def targetUniverse : Int64 := 5

inductive RuleFormat where
  | ads
  | json
  deriving DecidableEq

/-! ### Ads -/

def assignment (name value : String) : String := name ++ " = " ++ value

def boolText (b : Bool) : String := if b then "true" else "false"

def Mutation.line (m : Mutation) : String :=
  assignment (attributeName m.directive) <| match m with
    | copy _ destination => quote destination
    | set _ e => e.render
    | evalSet _ e => e.render
    | delete _ => boolText true

def MarkerUpdate.line (m : MarkerUpdate) : String :=
  assignment (attributeName m.directive) (boolText m.value)

def Rule.lines (r : Rule) : List String :=
  [assignment "Name" (quote r.name), assignment "GridResource" (quote gridResource),
    assignment "TargetUniverse" (Integer.text targetUniverse),
    assignment "Requirements" r.guard.render] ++
    r.mutations.map Mutation.line ++ r.markers.map MarkerUpdate.line

def Rule.ad (r : Rule) : String :=
  "[\n" ++ String.join (r.lines.map fun line => "    " ++ line ++ ";\n") ++ "]\n"

def RuleSet.ads (s : RuleSet) : String := "\n".intercalate (s.rules.map Rule.ad)

/-! ### JSON -/

def Mutation.document : Mutation → Json
  | copy source destination =>
    .object [("op", .string "copy"), ("from", .string source), ("to", .string destination)]
  | set attr e =>
    .object [("op", .string "set"), ("attr", .string attr), ("expr", .string e.render)]
  | evalSet attr e =>
    .object [("op", .string "eval_set"), ("attr", .string attr), ("expr", .string e.render)]
  | delete attr => .object [("op", .string "delete"), ("attr", .string attr)]

def MarkerUpdate.document (m : MarkerUpdate) : Json :=
  .object [("flag", .string m.flag), ("value", .bool m.value)]

def Rule.document (r : Rule) : Json :=
  .object [("name", .string r.name), ("category", .string r.category.name),
    ("requirements", .string r.guard.render),
    ("mutations", .array (r.mutations.map Mutation.document)),
    ("markers", .array (r.markers.map MarkerUpdate.document))]

def RuleSet.documentText (s : RuleSet) : String :=
  (Json.array (s.rules.map Rule.document)).pretty ++ "\n"

/-! ### Rule sets without clashes -/

def RuleSet.render (format : RuleFormat) (s : RuleSet) : Except EmitError String := do
  s.validate
  return match format with
    | .ads => s.ads
    | .json => s.documentText

def RuleSet.fingerprint (s : RuleSet) : Except EmitError String := do
  return "sha256:" ++ Sha256.hexDigest (← s.render .ads)

end RoutingPolicy

import RoutingPolicy.CommandLine.Arguments
import RoutingPolicy.Text.Lines

/-!
# Help

What is shown to a request for help or for the version, and what is said of arguments that are
refused.
-/

set_option autoImplicit false

namespace RoutingPolicy.UsageError

def versionText : String := Text.ofLines ["route-ads 0.1.0"]

def callText : String := "Usage: route-ads [OPTIONS] [COMMAND]"

def helpText : String :=
  let commands := Subcommand.all.map fun c => "  " ++ c.name
  let settings := Setting.all.map fun s => "  --" ++ s.name ++ " <VALUE>"
  let switches := Switch.all.map fun s => "  --" ++ s.name
  Text.ofLines
    ([callText, "", "Commands:"] ++ commands ++ ["", "Options:"] ++ settings ++ switches ++
      ["  --help", "  --version"])

def isRequest : UsageError → Bool
  | displayHelp => true
  | displayVersion => true
  | _ => false

def refusal (what : String) : String := Text.ofLines ["error: " ++ what, "", callText]

def report : UsageError → String
  | invalidValue => refusal "invalid value"
  | valueValidation => refusal "value is no number in the range"
  | unknownArgument => refusal "unexpected argument"
  | tooManyValues => refusal "unexpected value"
  | invalidSubcommand => refusal "unrecognized subcommand"
  | argumentConflict => refusal "an option is given twice"
  | missingRequiredArgument => refusal "a required option is missing"
  | displayHelp => helpText
  | displayVersion => versionText

end RoutingPolicy.UsageError

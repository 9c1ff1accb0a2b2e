import RoutingPolicy.CommandLine.Settings

/-!
# Arguments

Arguments are options and at most one command, which divides them: options of a dry run come behind
its command, all others stand on either side. A value follows its option behind an equals sign or as
the next argument. A value is examined when the next option or the end of the arguments on its side
is met, so of several faults the one that shows first is reported. The arguments behind the command
are examined to their end before those in front of it.
-/

set_option autoImplicit false

namespace RoutingPolicy

inductive Subcommand where
  | emit
  | check
  | simulate
  deriving DecidableEq

namespace Subcommand

def all : List Subcommand := [emit, check, simulate]

def name : Subcommand → String
  | emit => "emit"
  | check => "check"
  | simulate => "simulate"

def ofName? (text : String) : Option Subcommand := all.find? (·.name == text)

def help : String := "help"

def isName (text : String) : Bool := text == help || (ofName? text).isSome

end Subcommand

/-- What an option with a long name does. -/
inductive LongOption where
  | setting (s : Setting)
  | switch (s : Switch)
  | help
  | version
  deriving DecidableEq

namespace LongOption

/-- Whether an option is known on a side: in front of the command, if none is given, else behind
it. -/
def isKnown (side : Option Subcommand) : LongOption → Bool
  | setting s => !s.isOfSimulation || side == some .simulate
  | version => side.isNone
  | _ => true

def all : List (String × LongOption) :=
  Setting.all.map (fun s => (s.name, setting s)) ++ Switch.all.map (fun s => (s.name, switch s)) ++
    [("help", help), ("version", version)]

def ofName? (side : Option Subcommand) (name : String) : Option LongOption :=
  (all.lookup name).filter (·.isKnown side)

end LongOption

inductive Argument where
  /-- An option with a long name, and the value behind the equals sign. -/
  | long (name : String) (value : Option String)
  /-- Options with names of one letter; only the first matters. -/
  | short (first : Char)
  | plain (text : String)
  deriving DecidableEq

def Argument.ofString (text : String) : Argument :=
  match text.toList with
  | '-' :: '-' :: cs =>
    let name := String.ofList (cs.takeWhile (· != '='))
    match cs.dropWhile (· != '=') with
    | _ :: value => .long name (some (String.ofList value))
    | [] => .long name none
  | '-' :: first :: _ => .short first
  | _ => .plain text

def lastOption : String := "--"

/-- What the arguments of one side have said so far. -/
structure Side where
  settings : Settings
  /-- The last option if its value was not examined yet, with the value if there is one. -/
  pending : Option (Setting × Option String)

namespace Side

def empty : Side := ⟨.empty, none⟩

def settle (side : Side) : Except UsageError Settings :=
  match side.pending with
  | none => .ok side.settings
  | some (setting, some text) => side.settings.putOnce setting text
  | some (_, none) => .error .invalidValue

def awaitsValue (side : Side) : Bool :=
  match side.pending with
  | some (_, none) => true
  | _ => false

def takeLong (side : Side) : LongOption → Option String → Except UsageError Side
  | .setting s, some text => return ⟨← (← side.settle).putOnce s text, none⟩
  | .setting s, none => return ⟨← side.settle, some (s, none)⟩
  | .switch s, none => return ⟨← (← side.settle).switchOn s, none⟩
  | .help, none => side.settle >>= fun _ => .error .displayHelp
  | .version, none => side.settle >>= fun _ => .error .displayVersion
  | _, some _ => .error .tooManyValues

def takeShort (command : Option Subcommand) (side : Side) (letter : Char) :
    Except UsageError Side :=
  if letter == 'h' then side.takeLong .help none
  else if letter == 'V' && command.isNone then side.takeLong .version none
  else .error .unknownArgument

def take (command : Option Subcommand) (side : Side) (text : String) : Except UsageError Side :=
  match Argument.ofString text with
  | .long name value => match LongOption.ofName? command name with
    | some option => side.takeLong option value
    | none => .error .unknownArgument
  | .short letter => side.takeShort command letter
  | .plain text => match side.pending with
    | some (setting, none) => .ok ⟨side.settings, some (setting, some text)⟩
    | _ => .error (if command.isNone then .invalidSubcommand else .unknownArgument)

def surplus (command : Option Subcommand) (text : String) : UsageError :=
  if command.isNone && !Subcommand.isName text then .invalidSubcommand else .unknownArgument

def helpOn : List String → UsageError
  | [] => .displayHelp
  | [name] => if Subcommand.isName name then .displayHelp else .invalidSubcommand
  | _ => .invalidSubcommand

/-- Takes the arguments of a side. In front of a command they end with it. -/
def takeAll (command : Option Subcommand) (side : Side) :
    List String → Except UsageError (Side × Option (Subcommand × List String))
  | [] => .ok (side, none)
  | text :: rest =>
    if text == lastOption then
      match rest with
      | [] => .ok (side, none)
      | next :: _ => .error (surplus command next)
    else if command.isNone && !side.awaitsValue && text == Subcommand.help then .error (helpOn rest)
    else
      match if command.isNone && !side.awaitsValue then Subcommand.ofName? text else none with
      | some found => .ok (side, some (found, rest))
      | none => do takeAll command (← side.take command text) rest

end Side

end RoutingPolicy

import RoutingPolicy.Ad.Expr
import RoutingPolicy.Number.Decimal
import RoutingPolicy.Text.Case

/-!
# The text of values and expressions

The text depends on the expression alone: the fields of a record keep their ascending order, and
parentheses stand only where an operand binds more weakly than its place asks. A name that is not an
identifier, or is a reserved word, is quoted. Doubles are written without exponent and with a point,
in the fewest digits that read back; of two equally near numbers with as many digits the larger is
written.
-/

set_option autoImplicit false

namespace RoutingPolicy

/-! ### Names and literal texts -/

def quoteChar (c : Char) : List Char :=
  if c = '"' then ['\\', '"']
  else if c = '\\' then ['\\', '\\']
  else if c = '\n' then ['\\', 'n']
  else if c = '\r' then ['\\', 'r']
  else if c = '\t' then ['\\', 't']
  else [c]

def quote (s : String) : String := String.ofList ('"' :: (s.toList.flatMap quoteChar ++ ['"']))

def reservedWords : List String :=
  ["true", "false", "undefined", "error", "is", "isnt", "my", "target", "parent"]

def isIdentifierStart (c : Char) : Bool := c.isAlpha || c == '_'

def isIdentifierChar (c : Char) : Bool := c.isAlphanum || c == '_'

/-- Whether a name can be written without quotes: an identifier that is not a reserved word. -/
def isPlainName (name : String) : Bool :=
  match name.toList with
  | [] => false
  | first :: rest =>
    isIdentifierStart first && rest.all isIdentifierChar &&
      !reservedWords.contains (Text.foldCase name)

def quoteNameChar (c : Char) : List Char :=
  if c = '\'' then ['\\', '\''] else if c = '\\' then ['\\', '\\'] else [c]

def attributeName (name : String) : String :=
  if isPlainName name then name
  else String.ofList ('\'' :: (name.toList.flatMap quoteNameChar ++ ['\'']))

/-! ### Values -/

def realText : Binary64 → String
  | .nan => "real(\"NaN\")"
  | .infinite negative => if negative then "real(\"-INF\")" else "real(\"INF\")"
  | .finite negative m => (if negative then "-" else "") ++ (Decimal.shortest .upward m).positional

namespace Value

mutual

def render : Value → String
  | undefined => "undefined"
  | error => "error"
  | bool b => if b then "true" else "false"
  | int i => Integer.text i
  | real r => realText r
  | str s => quote s
  | list [] => "\x7b \x7d"
  | list (item :: items) => "\x7b " ++ render item ++ renderItems items ++ " \x7d"
  | record [] => "[ ]"
  | record ((name, v) :: fields) =>
    "[ " ++ attributeName name ++ " = " ++ render v ++ renderFields fields ++ " ]"

def renderItems : List Value → String
  | [] => ""
  | item :: items => ", " ++ render item ++ renderItems items

def renderFields : List (String × Value) → String
  | [] => ""
  | (name, v) :: fields => "; " ++ attributeName name ++ " = " ++ render v ++ renderFields fields

end

/-- Whether the text of the value begins with the sign of a number below zero. -/
def isNegative : Value → Bool
  | int i => i < 0
  | real r => r.isNegative
  | _ => false

end Value

/-! ### Expressions -/

def AttrRef.render (a : AttrRef) : String :=
  let scope := match a.scope with
    | some .target => "target."
    | some .my => "my."
    | none => ""
  scope ++ attributeName a.name

def ArithmeticOp.symbol : ArithmeticOp → String
  | add => "+"
  | sub => "-"
  | mul => "*"
  | div => "/"

def OrderOp.symbol : OrderOp → String
  | lt => "<"
  | le => "<="
  | gt => ">"
  | ge => ">="

def Comparison.symbol : Comparison → String
  | order op => op.symbol
  | equal => "=="
  | unequal => "!="
  | identical => "=?="
  | distinct => "=!="

namespace BinaryOp

def symbol : BinaryOp → String
  | arithmetic op => op.symbol
  | compare comparison => comparison.symbol
  | both => "&&"

def precedence : BinaryOp → Nat
  | both => 2
  | compare (.order _) => 5
  | compare _ => 4
  | arithmetic .add => 6
  | arithmetic .sub => 6
  | arithmetic .mul => 7
  | arithmetic .div => 7

end BinaryOp

def Func.name : Func → String
  | size => "size"
  | strcat => "strcat"
  | stringListMember => "stringListMember"
  | sortStringSet => "sortStringSet"
  | siteMapping => "siteMapping"
  | removeSite => "removeSite"

namespace Expr

def unaryPrecedence : Nat := 8

/-- How tightly what needs no parentheses anywhere holds together. -/
def primaryPrecedence : Nat := 9

def precedence : Expr → Nat
  | binary op _ _ => op.precedence
  | neg _ => unaryPrecedence
  | lit v => if v.isNegative then unaryPrecedence else primaryPrecedence
  | _ => primaryPrecedence

def parenthesizedIf (inParentheses : Bool) (text : String) : String :=
  if inParentheses then "(" ++ text ++ ")" else text

mutual

/-- The text of an expression in a place that asks for `least` precedence. -/
def renderAt (least : Nat) : Expr → String
  | lit v => parenthesizedIf ((lit v).precedence < least) v.render
  | attr a => parenthesizedIf (primaryPrecedence < least) a.render
  | neg e => parenthesizedIf (unaryPrecedence < least) ("-" ++ renderAt unaryPrecedence e)
  | binary op left right =>
    parenthesizedIf (op.precedence < least)
      (renderAt op.precedence left ++ " " ++ op.symbol ++ " " ++ renderAt (op.precedence + 1) right)
  | member item list =>
    parenthesizedIf (primaryPrecedence < least)
      ("member(" ++ renderAt 0 item ++ ", " ++ renderAt 0 list ++ ")")
  | regexp pattern target =>
    parenthesizedIf (primaryPrecedence < least)
      ("regexp(" ++ quote pattern ++ ", " ++ renderAt 0 target ++ ")")
  | call f args =>
    parenthesizedIf (primaryPrecedence < least) (f.name ++ "(" ++ renderArguments args ++ ")")
  | cond condition yes no =>
    parenthesizedIf (primaryPrecedence < least)
      ("ifThenElse(" ++ renderAt 0 condition ++ ", " ++ renderAt 0 yes ++ ", " ++
        renderAt 0 no ++ ")")

def renderArguments : List Expr → String
  | [] => ""
  | arg :: args => renderAt 0 arg ++ renderMoreArguments args

def renderMoreArguments : List Expr → String
  | [] => ""
  | arg :: args => ", " ++ renderAt 0 arg ++ renderMoreArguments args

end

def render (e : Expr) : String := renderAt 0 e

end Expr

end RoutingPolicy

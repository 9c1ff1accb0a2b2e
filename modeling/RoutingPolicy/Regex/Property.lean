import RoutingPolicy.Regex.CharSet
import RoutingPolicy.Text.GeneralCategory
import RoutingPolicy.Text.Script

/-!
# Sets of characters that Unicode names

Behind `\p` stands the name of a general category or a script, as in `\p{Lu}` and `\p{Greek}`, which
may be called by what it is a value of, as in `\p{gc=Lu}`, or the name of a property, as in
`\p{Alphabetic}`. Capital letters, blanks, underscores and hyphens do not matter in a name, and
neither does `is` in front of it. The properties that are known are those of letters and blanks.
Other properties, ages, extensions of scripts and the kinds of breaks in a text are not, and a
pattern that names one is refused.
-/

set_option autoImplicit false

namespace RoutingPolicy.CharSet

open Text

abbrev Names := List (List String × CharSet)

/-! ### What can be named -/

def letters : CharTable :=
  uppercaseLetters ++ lowercaseLetters ++ titlecaseLetters ++ modifierLetters ++ otherLetters

def casedLetters : CharTable := uppercaseLetters ++ lowercaseLetters ++ titlecaseLetters

def marks : CharTable := nonspacingMarks ++ spacingMarks ++ enclosingMarks

def numbers : CharTable := digitTable ++ letterNumbers ++ otherNumbers

def punctuation : CharTable :=
  connectorPunctuation ++ dashPunctuation ++ openPunctuation ++ closePunctuation ++
    initialPunctuation ++ finalPunctuation ++ otherPunctuation

def symbols : CharTable := mathSymbols ++ currencySymbols ++ modifierSymbols ++ otherSymbols

def separators : CharTable := spaceSeparators ++ lineSeparators ++ paragraphSeparators

def graphic : CharTable := letters ++ marks ++ numbers ++ punctuation ++ symbols ++ separators

def assigned : CharTable := graphic ++ controls ++ formats ++ privateUse

def generalCategories : Names := [
  (["L", "Letter"], listed letters), (["LC", "Cased_Letter"], listed casedLetters),
  (["Lu", "Uppercase_Letter"], listed uppercaseLetters),
  (["Ll", "Lowercase_Letter"], listed lowercaseLetters),
  (["Lt", "Titlecase_Letter"], listed titlecaseLetters),
  (["Lm", "Modifier_Letter"], listed modifierLetters),
  (["Lo", "Other_Letter"], listed otherLetters),
  (["M", "Mark", "Combining_Mark"], listed marks),
  (["Mn", "Nonspacing_Mark"], listed nonspacingMarks),
  (["Mc", "Spacing_Mark"], listed spacingMarks),
  (["Me", "Enclosing_Mark"], listed enclosingMarks),
  (["N", "Number"], listed numbers), (["Nd", "Decimal_Number", "digit"], digit),
  (["Nl", "Letter_Number"], listed letterNumbers), (["No", "Other_Number"], listed otherNumbers),
  (["P", "Punctuation", "punct"], listed punctuation),
  (["Pc", "Connector_Punctuation"], listed connectorPunctuation),
  (["Pd", "Dash_Punctuation"], listed dashPunctuation),
  (["Ps", "Open_Punctuation"], listed openPunctuation),
  (["Pe", "Close_Punctuation"], listed closePunctuation),
  (["Pi", "Initial_Punctuation"], listed initialPunctuation),
  (["Pf", "Final_Punctuation"], listed finalPunctuation),
  (["Po", "Other_Punctuation"], listed otherPunctuation),
  (["S", "Symbol"], listed symbols), (["Sm", "Math_Symbol"], listed mathSymbols),
  (["Sc", "Currency_Symbol"], listed currencySymbols),
  (["Sk", "Modifier_Symbol"], listed modifierSymbols),
  (["So", "Other_Symbol"], listed otherSymbols),
  (["Z", "Separator"], listed separators), (["Zs", "Space_Separator"], listed spaceSeparators),
  (["Zl", "Line_Separator"], listed lineSeparators),
  (["Zp", "Paragraph_Separator"], listed paragraphSeparators),
  (["C", "Other"], compl (listed graphic)), (["Cc", "Control", "cntrl"], listed controls),
  (["Cf", "Format"], listed formats), (["Co", "Private_Use"], listed privateUse),
  (["Cn", "Unassigned"], compl (listed assigned)),
  (["Any"], all), (["Assigned"], listed assigned), (["ASCII"], ascii)]

def scripts : Names := Text.scripts.map fun (names, table) => (names, listed table)

def properties : Names := [
  (["Alphabetic", "Alpha"], listed (letters ++ letterNumbers ++ otherAlphabetic)),
  (["Lowercase", "Lower"], listed (lowercaseLetters ++ otherLowercase)),
  (["Uppercase", "Upper"], listed (uppercaseLetters ++ otherUppercase)),
  (["Cased"], listed (casedLetters ++ otherLowercase ++ otherUppercase)),
  (["White_Space", "WSpace", "space"], blank)]

/-! ### Names -/

def countsInName (c : Char) : Bool := c.toNat < 0x80 && c != ' ' && c != '_' && c != '-'

/-- What counts of a name. With `is` in front, a lone `c` would be the name of a category, but `isc`
is that of a property. -/
def essence (name : List Char) : List Char :=
  let bare (cs : List Char) := (cs.filter countsInName).map Char.toLower
  match name with
  | first :: second :: rest =>
    if [first.toLower, second.toLower] = ['i', 's'] ∧ bare rest ≠ ['c'] then bare rest
    else bare name
  | name => bare name

def lookUp? (names : Names) (name : List Char) : Option CharSet :=
  (names.find? fun entry => entry.1.any fun known => essence known.toList == essence name).map (·.2)

def valuesOf? (property : List Char) : Option Names :=
  if essence property ∈ ["gc".toList, "generalcategory".toList] then some generalCategories
  else if essence property ∈ ["sc".toList, "script".toList] then some scripts
  else none

def cutAt? (mark : List Char) : List Char → Option (List Char × List Char)
  | [] => none
  | c :: rest =>
    if mark.isPrefixOf (c :: rest) then some ([], (c :: rest).drop mark.length)
    else (cutAt? mark rest).map fun (before, behind) => (c :: before, behind)

/-- The set that the text in the braces denotes, and whether what is not in it is meant. -/
def ofName? (text : List Char) : Option (Bool × CharSet) :=
  let valueOf (negated : Bool) (parts : List Char × List Char) :=
    ((valuesOf? parts.1).bind (lookUp? · parts.2)).map (negated, ·)
  match cutAt? ['!', '='] text, cutAt? [':'] text, cutAt? ['='] text with
  | some parts, _, _ => valueOf true parts
  | none, some parts, _ => valueOf false parts
  | none, none, some parts => valueOf false parts
  | none, none, none =>
    (lookUp? (properties ++ generalCategories ++ scripts) text).map (false, ·)

end RoutingPolicy.CharSet

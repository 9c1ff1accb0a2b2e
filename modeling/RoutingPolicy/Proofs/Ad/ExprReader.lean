import RoutingPolicy.Proofs.Ad.Folding
import RoutingPolicy.Proofs.Ad.ValueReader

/-!
# Reading expressions

An expression begins with an operand: a value, a name, a call, a negation or an expression in
parentheses. Behind it stand operators with their right operands, as many as the place admits: those
that bind at least as tightly as it asks. An operator takes to its right only what binds more
tightly than itself, so operators of one strength group to the left. Every expression is read back
from its text, folded.
-/

set_option autoImplicit false

namespace RoutingPolicy

open Text

/-! ### Operators -/

namespace BinaryOp

def all : List BinaryOp :=
  [both, compare .equal, compare .unequal, compare .identical, compare .distinct,
    compare (.order .lt), compare (.order .le), compare (.order .gt), compare (.order .ge),
    arithmetic .add, arithmetic .sub, arithmetic .mul, arithmetic .div]

def read? (cs : List Char) : Option (BinaryOp × List Char) :=
  all.findSome? fun op =>
    ((' ' :: (op.symbol.toList ++ [' '])).isPrefixOf? cs).map fun rest => (op, rest)

theorem read?_symbol (op : BinaryOp) (rest : List Char) :
    read? (' ' :: (op.symbol.toList ++ ' ' :: rest)) = some (op, rest) := by
  rcases op with (_ | _ | _ | _) | ((_ | _ | _ | _) | _ | _ | _ | _) | _ <;> rfl

theorem read?_of_ne_blank {c : Char} (other : c ≠ ' ') (cs : List Char) :
    read? (c :: cs) = none := by
  refine List.findSome?_eq_none_iff.2 fun op _ => ?_
  rw [List.isPrefixOf?, if_neg (by simpa using other.symm), Option.map_none]

theorem precedence_lt_unaryPrecedence (op : BinaryOp) : op.precedence < Expr.unaryPrecedence := by
  rcases op with (_ | _ | _ | _) | ((_ | _ | _ | _) | _ | _ | _ | _) | _ <;> decide

end BinaryOp

def Func.ofName? (name : String) : Option Func :=
  [size, strcat, stringListMember, sortStringSet, siteMapping, removeSite].find? (·.name == name)

theorem Func.ofName?_name (f : Func) : ofName? f.name = some f := by
  cases f <;> rfl

def Scope.word : Scope → String
  | target => "target"
  | my => "my"

namespace Expr

/-! ### The reader -/

/-- The call of a function by its name, if the function takes such arguments. -/
def ofCall? (name : String) (args : List Expr) : Option Expr :=
  if name = "member" then
    match args with
    | [item, list] => some (member item list)
    | _ => none
  else if name = "regexp" then
    match args with
    | [lit (.str pattern), target] => some (regexp pattern target)
    | _ => none
  else if name = "ifThenElse" then
    match args with
    | [condition, yes, no] => some (cond condition yes no)
    | _ => none
  else (Func.ofName? name).map fun f => call f args

def scope? (word : String) : Option Scope :=
  if word = "target" then some .target
  else if word = "my" then some .my
  else none

/-- Reads what begins with a name: a call, an attribute of an ad that is named, or an attribute. -/
def readNamed (readArgument : List Char → Option (Expr × List Char)) (fuel : Nat)
    (cs : List Char) : Option (Expr × List Char) :=
  (readName cs).bind fun (name, cs) =>
    match cs with
    | '(' :: cs =>
      (readItems readArgument [',', ' '] [')'] fuel [] cs).bind fun (args, rest) =>
        (ofCall? name args).map fun e => (e, rest)
    | '.' :: cs =>
      (scope? name).bind fun scope =>
        (readName cs).map fun (name, rest) => (attr ⟨some scope, name⟩, rest)
    | rest => some (attr ⟨none, name⟩, rest)

mutual

def readOperand : Nat → List Char → Option (Expr × List Char)
  | 0, _ => none
  | fuel + 1, cs =>
    match Value.read fuel cs with
    | some (v, rest) => some (lit v, rest)
    | none =>
      match cs with
      | '(' :: cs =>
        (readAt fuel 0 cs).bind fun (e, cs) => ([')'].isPrefixOf? cs).map fun rest => (e, rest)
      | '-' :: cs => (readOperand fuel cs).map fun (e, rest) => (negated e, rest)
      | cs => readNamed (readAt fuel 0) fuel cs

/-- Reads an expression in a place that asks for `least` precedence. -/
def readAt : Nat → (least : Nat) → List Char → Option (Expr × List Char)
  | 0, _, _ => none
  | fuel + 1, least, cs =>
    (readOperand fuel cs).bind fun (e, rest) => readMore fuel least e rest

/-- Reads the operators behind an operand that bind tightly enough, with their right operands. -/
def readMore : Nat → (least : Nat) → Expr → List Char → Option (Expr × List Char)
  | 0, _, _, _ => none
  | fuel + 1, least, left, cs =>
    match BinaryOp.read? cs with
    | none => some (left, cs)
    | some (op, behind) =>
      if least ≤ op.precedence then
        (readAt fuel (op.precedence + 1) behind).bind fun (right, rest) =>
          readMore fuel least (binary op left right) rest
      else some (left, cs)

end

/-! ### What it means to be read back -/

/-- The text is read as the operand `e` wherever it ends. -/
def ReadsOperand (text : List Char) (e : Expr) : Prop :=
  Reads readOperand Stops text e

/-- No operator behind binds more tightly than `bound`. -/
def Loosens (bound : Nat) (rest : List Char) : Prop :=
  ∀ op behind, BinaryOp.read? rest = some (op, behind) → op.precedence ≤ bound

/-- In every place that asks for at most `bound` precedence, and before operators that bind at most
so tightly, reading goes on behind the text with `e` as left operand. -/
def ReadsWhole (bound : Nat) (text : List Char) (e : Expr) : Prop :=
  ∀ least ≤ bound, ∀ rest, Stops rest → Loosens bound rest → ∀ result,
    Settles (fun fuel => readMore fuel least e rest) result →
      Settles (fun fuel => readAt fuel least (text ++ rest)) result

/-- What may stand behind an expression in parentheses and behind an argument. -/
structure Ends (rest : List Char) : Prop where
  stops : Stops rest
  read?_eq_none : BinaryOp.read? rest = none

theorem ends_nil : Ends [] := ⟨stops_nil, rfl⟩

theorem ends_cons {c : Char} (among : c ∈ [',', ')']) (rest : List Char) : Ends (c :: rest) := by
  simp only [List.mem_cons, List.not_mem_nil, or_false] at among
  obtain rfl | rfl := among
  · exact ⟨stops_cons (by decide) rest, BinaryOp.read?_of_ne_blank (by decide) rest⟩
  · exact ⟨stops_cons (by decide) rest, BinaryOp.read?_of_ne_blank (by decide) rest⟩

theorem settles_readMore_of_loosens {bound : Nat} {rest : List Char} (loosens : Loosens bound rest)
    (e : Expr) : Settles (fun fuel => readMore fuel (bound + 1) e rest) (e, rest) :=
  .of_forall fun fuel => by
    rw [readMore]
    split
    · rfl
    · next op behind found =>
      have := loosens op behind found
      rw [if_neg (by omega)]

theorem ReadsOperand.whole {text : List Char} {e : Expr} (reads : ReadsOperand text e)
    (bound : Nat) : ReadsWhole bound text e := by
  intro least _ rest stops _ result continues
  refine .succ ?_
  simp only [readAt]
  exact (reads rest stops).bind continues

theorem ReadsWhole.mono {text : List Char} {e : Expr} {bound lower : Nat}
    (reads : ReadsWhole bound text e) (below : lower ≤ bound) : ReadsWhole lower text e := by
  intro least fits rest stops loosens
  exact reads least (fits.trans below) rest stops fun op behind found =>
    (loosens op behind found).trans below

theorem ReadsWhole.settles {text : List Char} {e : Expr} {bound : Nat}
    (reads : ReadsWhole bound text e) {rest : List Char} (ends : Ends rest) :
    Settles (fun fuel => readAt fuel 0 (text ++ rest)) (e, rest) := by
  have loosens : Loosens bound rest := fun op behind found => by
    rw [ends.read?_eq_none] at found
    cases found
  have stays : Settles (fun fuel => readMore fuel 0 e rest) (e, rest) :=
    .of_forall fun fuel => by rw [readMore, ends.read?_eq_none]
  exact reads 0 (Nat.zero_le bound) rest ends.stops loosens _ stays

theorem ReadsWhole.parenthesized {text : List Char} {e : Expr} {bound : Nat}
    (reads : ReadsWhole bound text e) : ReadsOperand ('(' :: (text ++ [')'])) e := by
  intro rest _
  have inside := reads.settles (ends_cons (c := ')') (by decide) rest)
  have closes : [')'].isPrefixOf? (')' :: rest) = some rest := isPrefixOf?_append [')'] rest
  refine .succ ?_
  simp only [List.cons_append, List.append_assoc, List.nil_append, readOperand,
    Value.read_symbol (c := '(') (by decide)]
  refine inside.bind ?_
  simp only [closes, Option.map_some]
  exact .of_forall fun _ => rfl

/-- A left operand, an operator and a right operand that binds more tightly than the operator. -/
theorem ReadsWhole.binary {op : BinaryOp} {left right : Expr} {before behind : List Char}
    (reads_left : ReadsWhole op.precedence before left)
    (reads_right : ReadsWhole (op.precedence + 1) behind right) :
    ReadsWhole op.precedence (before ++ ' ' :: (op.symbol.toList ++ ' ' :: behind))
      (binary op left right) := by
  intro least fits rest stops loosens result continues
  have found := BinaryOp.read?_symbol op (behind ++ rest)
  have right_settles := reads_right (op.precedence + 1) (le_refl _) rest stops
    (fun other text found => (loosens other text found).trans (Nat.le_succ _)) (right, rest)
    (settles_readMore_of_loosens loosens right)
  have spelled : before ++ ' ' :: (op.symbol.toList ++ ' ' :: behind) ++ rest =
      before ++ ' ' :: (op.symbol.toList ++ ' ' :: (behind ++ rest)) := by
    simp only [List.append_assoc, List.cons_append]
  rw [spelled]
  refine reads_left least fits _ (stops_cons (by decide) _) ?_ result (.succ ?_)
  · intro other text read
    rw [found] at read
    obtain ⟨rfl, -⟩ := Prod.mk.inj (Option.some.inj read)
    exact le_refl _
  · simp only [readMore, found, if_pos fits]
    exact right_settles.bind continues

/-! ### Values, names and calls -/

theorem readsOperand_lit (v : Value) : ReadsOperand v.render.toList (lit v) := by
  intro rest stops
  obtain ⟨least, reads⟩ := v.reads_render rest stops
  exact .succ ⟨least, fun fuel enough => by simp only [readOperand, reads fuel enough]⟩

theorem readOperand_eq_readNamed {cs : List Char} (begins : Begins isNameStart cs) {fuel : Nat}
    (unvalued : Value.read fuel cs = none) :
    readOperand (fuel + 1) cs = readNamed (readAt fuel 0) fuel cs := by
  obtain ⟨c, cs, rfl, start⟩ := begins
  have other {d : Char} : isNameStart d = false → c ≠ d := ne_of_holds start
  simp only [readOperand, unvalued]
  split
  · next same => exact absurd (List.cons.inj same).1 (other (by decide))
  · next same => exact absurd (List.cons.inj same).1 (other (by decide))
  · rfl

theorem readNamed_of_stops {cs rest : List Char} {name : String}
    (found : readName cs = some (name, rest)) (stops : Stops rest)
    (readArgument : List Char → Option (Expr × List Char)) (fuel : Nat) :
    readNamed readArgument fuel cs = some (attr ⟨none, name⟩, rest) := by
  rw [readNamed, found, Option.bind_some]
  dsimp only
  split
  · exact absurd (stops '(' rfl) (by decide)
  · exact absurd (stops '.' rfl) (by decide)
  · rfl

theorem value_read_attributeName (name : String) {rest : List Char} (stops : Stops rest)
    (fuel : Nat) : Value.read fuel ((attributeName name).toList ++ rest) = none := by
  unfold attributeName
  split
  · next plain =>
    obtain ⟨word, unreserved⟩ := isPlainName_iff.1 plain
    refine Value.read_word_eq_none word (stops.forall_head (by decide)) ?_ fuel
    rw [String.ofList_toList, Value.ofWord?_of_unreserved unreserved stops]
  · rw [String.toList_ofList]
    exact Value.read_symbol (c := '\'') (by decide) fuel _

theorem toList_render_scoped (scope : Scope) (name : String) :
    (AttrRef.render ⟨some scope, name⟩).toList =
      scope.word.toList ++ '.' :: (attributeName name).toList := by
  cases scope <;> simp [AttrRef.render, Scope.word]

theorem readsOperand_plain (name : String) :
    ReadsOperand (attributeName name).toList (attr ⟨none, name⟩) := by
  intro rest stops
  refine .of_forall fun fuel => ?_
  have found := readName_attributeName name (stops.forall_head (by decide))
  rw [readOperand_eq_readNamed ((begins_attributeName name).append rest)
    (value_read_attributeName name stops fuel), readNamed_of_stops found stops]

theorem readsOperand_scoped (scope : Scope) (name : String) :
    ReadsOperand (scope.word.toList ++ '.' :: (attributeName name).toList)
      (attr ⟨some scope, name⟩) := by
  intro rest stops
  refine .of_forall fun fuel => ?_
  have word : isWord scope.word.toList = true := by cases scope <;> decide
  have unvalued : Value.ofWord? scope.word
      ('.' :: ((attributeName name).toList ++ rest)) = none := by
    cases scope <;> simp [Value.ofWord?, Scope.word]
  have known : scope? scope.word = some scope := by cases scope <;> decide
  have ends : ∀ c ∈ ('.' :: ((attributeName name).toList ++ rest)).head?,
      isIdentifierChar c = false := by simp; decide
  have none := Value.read_word_eq_none word ends (by rwa [String.ofList_toList]) fuel
  rw [List.append_assoc, List.cons_append,
    readOperand_eq_readNamed ((begins_of_isWord word).append _) none, readNamed,
    readName_word word ends, Option.bind_some, String.ofList_toList]
  simp only [known, Option.bind_some,
    readName_attributeName name (stops.forall_head (by decide)), Option.map_some]

theorem readsOperand_attr (a : AttrRef) : ReadsOperand a.render.toList (attr a) := by
  obtain ⟨scope, name⟩ := a
  cases scope with
  | none =>
    rw [AttrRef.render, String.empty_append]
    exact readsOperand_plain name
  | some scope =>
    rw [toList_render_scoped]
    exact readsOperand_scoped scope name

theorem readsOperand_call {name : String} {args : List Expr} {e : Expr}
    (word : isWord name.toList = true) (unvalued : ∀ rest, Value.ofWord? name rest = none)
    (reads : ∀ arg ∈ args, ReadsWhole 0 (renderAt 0 arg).toList arg.folded)
    (begins : ∀ arg ∈ args, Begins (fun c => !isClosing c) (renderAt 0 arg).toList)
    (built : ofCall? name (args.map folded) = some e) :
    ReadsOperand (name.toList ++ '(' ::
      (separated [',', ' '] [] (args.map fun arg => (renderAt 0 arg).toList) ++ [')'])) e := by
  intro rest _
  have separates (cs : List Char) : Ends ([',', ' '] ++ cs) := ends_cons (by decide) (' ' :: cs)
  have closes (cs : List Char) : Ends ([')'] ++ cs) := ends_cons (by decide) cs
  have arguments : Settles (fun fuel => readItems (readAt fuel 0) [',', ' '] [')'] fuel []
      (separated [',', ' '] [] (args.map fun arg => (renderAt 0 arg).toList) ++ ([')'] ++ rest)))
      (args.map folded, rest) := by
    refine settles_readItems (fun arg => (renderAt 0 arg).toList) folded []
      separates closes ?_ ?_ rest
    · intro arg listed cs ends
      exact (reads arg listed).settles ends
    · intro arg listed cs
      exact ⟨((begins arg listed).append cs).isPrefixOf?_eq_none (by decide), rfl⟩
  have ends (cs : List Char) : ∀ c ∈ ('(' :: cs).head?, isIdentifierChar c = false := by
    simp; decide
  have none (cs : List Char) (fuel : Nat) : Value.read fuel (name.toList ++ '(' :: cs) = none :=
    Value.read_word_eq_none word (ends cs) (by rw [String.ofList_toList, unvalued]) fuel
  have named (cs : List Char) (fuel : Nat) :=
    readOperand_eq_readNamed ((begins_of_isWord word).append ('(' :: cs)) (none cs fuel)
  refine .succ ?_
  simp only [List.append_assoc, List.cons_append, named, readNamed, readName_word word (ends _),
    Option.bind_some, String.ofList_toList]
  refine arguments.bind (.of_forall fun _ => ?_)
  simp only [built, Option.map_some]

/-! ### Texts of operations and calls -/

theorem parenthesizedIf_of_le {precedence least : Nat} (binds : least ≤ precedence)
    (text : String) : parenthesizedIf (precedence < least) text = text := by
  rw [parenthesizedIf, if_neg]
  simpa using binds

theorem renderAt_lit (v : Value) {least : Nat} (fits : least ≤ unaryPrecedence) :
    renderAt least (lit v) = v.render := by
  have binds : unaryPrecedence ≤ (lit v).precedence := by
    rw [precedence]
    split <;> decide
  rw [renderAt, parenthesizedIf_of_le (fits.trans binds)]

theorem toList_binary (op : BinaryOp) (left right : String) :
    (left ++ " " ++ op.symbol ++ " " ++ right).toList =
      left.toList ++ ' ' :: (op.symbol.toList ++ ' ' :: right.toList) := by
  simp [String.toList_append]

theorem toList_parenthesized (text : String) :
    ("(" ++ text ++ ")").toList = '(' :: (text.toList ++ [')']) := by
  simp [String.toList_append]

/-- The name and the arguments of what is written as a call. The pattern of a match is written as a
text. -/
def call? : Expr → Option (String × List Expr)
  | member item list => some ("member", [item, list])
  | regexp pattern target => some ("regexp", [lit (.str pattern), target])
  | call f args => some (f.name, args)
  | cond condition yes no => some ("ifThenElse", [condition, yes, no])
  | _ => none

theorem toList_renderMoreArguments (args : List Expr) :
    (renderMoreArguments args).toList =
      separated [',', ' '] [',', ' '] (args.map fun arg => (renderAt 0 arg).toList) := by
  induction args with
  | nil => rfl
  | cons arg args induction =>
    rw [renderMoreArguments, String.toList_append, String.toList_append, induction, List.map_cons,
      separated]
    rfl

theorem toList_renderArguments (args : List Expr) :
    (renderArguments args).toList =
      separated [',', ' '] [] (args.map fun arg => (renderAt 0 arg).toList) := by
  cases args with
  | nil => rfl
  | cons arg args =>
    rw [renderArguments, String.toList_append, toList_renderMoreArguments, List.map_cons, separated,
      List.nil_append]

theorem toList_call (name : String) (args : List Expr) :
    (name ++ "(" ++ renderArguments args ++ ")").toList = name.toList ++ '(' ::
      (separated [',', ' '] [] (args.map fun arg => (renderAt 0 arg).toList) ++ [')']) := by
  simp [String.toList_append, toList_renderArguments]

theorem renderAt_of_call? {e : Expr} {name : String} {args : List Expr}
    (called : e.call? = some (name, args)) (least : Nat) :
    renderAt least e = parenthesizedIf (primaryPrecedence < least)
      (name ++ "(" ++ renderArguments args ++ ")") := by
  cases e with
  | call f args =>
    cases called
    rw [renderAt]
  | member item list =>
    cases called
    rw [renderAt]
    exact congrArg _ (String.toList_inj.1 (by simp [renderArguments, renderMoreArguments]))
  | regexp pattern target =>
    cases called
    have quoted : renderAt 0 (lit (.str pattern)) = quote pattern := renderAt_lit _ (Nat.zero_le _)
    rw [renderAt]
    exact congrArg _ (String.toList_inj.1 (by simp [renderArguments, renderMoreArguments, quoted]))
  | cond condition yes no =>
    cases called
    rw [renderAt]
    exact congrArg _ (String.toList_inj.1 (by simp [renderArguments, renderMoreArguments]))
  | _ => cases called

theorem isWord_of_call? {e : Expr} {name : String} {args : List Expr}
    (called : e.call? = some (name, args)) : isWord name.toList = true := by
  cases e with
  | call f args =>
    cases called
    cases f <;> decide
  | _ => cases called <;> decide

theorem ofWord?_of_call? {e : Expr} {name : String} {args : List Expr}
    (called : e.call? = some (name, args)) (rest : List Char) : Value.ofWord? name rest = none := by
  cases e with
  | call f args =>
    cases called
    cases f <;> simp [Value.ofWord?, Func.name]
  | _ => cases called <;> simp [Value.ofWord?]

theorem ofCall?_of_call? {e : Expr} {name : String} {args : List Expr}
    (called : e.call? = some (name, args)) :
    ofCall? name (args.map folded) = some e.folded := by
  cases e with
  | call f args =>
    cases called
    have known := f.ofName?_name
    rw [folded, foldedAll_eq_map]
    cases f <;> simp [ofCall?, Func.name] at known ⊢ <;> simp [known]
  | _ => cases called <;> simp [ofCall?, folded]

/-! ### How expressions begin -/

theorem begins_render_attr (a : AttrRef) : Begins isNameStart a.render.toList := by
  obtain ⟨scope, name⟩ := a
  cases scope with
  | none =>
    rw [AttrRef.render, String.empty_append]
    exact begins_attributeName name
  | some scope =>
    have word : isWord scope.word.toList = true := by cases scope <;> decide
    rw [toList_render_scoped]
    exact (begins_of_isWord word).append _

theorem begins_parenthesizedIf {p : Char → Bool} (paren : p '(' = true) {text : String}
    (begins : Begins p text.toList) (inParentheses : Bool) :
    Begins p (parenthesizedIf inParentheses text).toList := by
  cases inParentheses with
  | false => exact begins
  | true => exact ⟨'(', _, toList_parenthesized text, paren⟩

theorem begins_of_call? {e : Expr} {name : String} {args : List Expr}
    (called : e.call? = some (name, args)) (least : Nat) :
    Begins isOpening (renderAt least e).toList := by
  rw [renderAt_of_call? called]
  refine begins_parenthesizedIf (by decide) ?_ _
  rw [toList_call]
  exact ((begins_of_isWord (isWord_of_call? called)).mono isOpening_of_isNameStart).append _

theorem begins_renderAt_of_symbol {e : Expr} (operand : ∀ op left right, e ≠ binary op left right)
    (symbol : ∀ v, e ≠ lit v) (least : Nat) : Begins isOpening (renderAt least e).toList := by
  cases e with
  | binary op left right => exact absurd rfl (operand op left right)
  | lit v => exact absurd rfl (symbol v)
  | attr a =>
    rw [renderAt]
    exact begins_parenthesizedIf (by decide)
      ((begins_render_attr a).mono isOpening_of_isNameStart) _
  | neg e =>
    rw [renderAt]
    exact begins_parenthesizedIf (by decide) ⟨'-', _, String.toList_append, by decide⟩ _
  | _ => exact begins_of_call? rfl least

theorem begins_renderAt (e : Expr) (least : Nat) :
    Begins (fun c => !isClosing c) (renderAt least e).toList := by
  -- Only a left operand can stand in front of the operation, so the induction is on it alone.
  cases e with
  | lit v =>
    rw [renderAt]
    exact begins_parenthesizedIf (by decide) v.begins_render _
  | binary op left right =>
    rw [renderAt]
    refine begins_parenthesizedIf (by decide) ?_ _
    rw [toList_binary]
    exact (begins_renderAt left op.precedence).append _
  | _ =>
    exact (begins_renderAt_of_symbol (fun _ _ _ same => by cases same)
      (fun _ same => by cases same) least).mono not_isClosing_of_isOpening

/-! ### Expressions -/

/-- An expression is read back, folded, as an operand and in every place where it stands. -/
structure ReadsBack (e : Expr) : Prop where
  operand : ReadsOperand (renderAt unaryPrecedence e).toList e.folded
  whole : ∀ least ≤ unaryPrecedence, ReadsWhole least (renderAt least e).toList e.folded

theorem renderAt_eq_of_not_binary {e : Expr} (operand : ∀ op left right, e ≠ binary op left right)
    {least : Nat} (fits : least ≤ unaryPrecedence) :
    renderAt least e = renderAt unaryPrecedence e := by
  have primary : least ≤ primaryPrecedence := fits.trans (by decide)
  cases e with
  | binary op left right => exact absurd rfl (operand op left right)
  | lit v => rw [renderAt_lit v fits, renderAt_lit v (le_refl _)]
  | neg e => rw [renderAt, renderAt, parenthesizedIf_of_le fits, parenthesizedIf_of_le (le_refl _)]
  | _ =>
    rw [renderAt, renderAt, parenthesizedIf_of_le primary, parenthesizedIf_of_le (by decide)]

theorem ReadsBack.of_operand {e : Expr} (operand : ∀ op left right, e ≠ binary op left right)
    (reads : ReadsOperand (renderAt unaryPrecedence e).toList e.folded) : ReadsBack e where
  operand := reads
  whole least fits := by
    rw [renderAt_eq_of_not_binary operand fits]
    exact reads.whole least

theorem readsBack_binary {op : BinaryOp} {left right : Expr} (reads_left : ReadsBack left)
    (reads_right : ReadsBack right) : ReadsBack (binary op left right) := by
  have weak := op.precedence_lt_unaryPrecedence
  have inside := ReadsWhole.binary (reads_left.whole op.precedence weak.le)
    (reads_right.whole (op.precedence + 1) weak)
  rw [← toList_binary] at inside
  have wrapped := inside.parenthesized
  rw [← toList_parenthesized] at wrapped
  constructor
  · rw [renderAt, parenthesizedIf, if_pos (by simpa using weak)]
    exact wrapped
  · intro least fits
    rw [renderAt, parenthesizedIf]
    split
    · exact wrapped.whole least
    · next binds => exact inside.mono (by simpa using binds)

theorem readsBack_lit (v : Value) : ReadsBack (lit v) := by
  refine .of_operand (fun _ _ _ same => by cases same) ?_
  rw [renderAt_lit v (le_refl _)]
  exact readsOperand_lit v

theorem readsBack_attr (a : AttrRef) : ReadsBack (attr a) := by
  refine .of_operand (fun _ _ _ same => by cases same) ?_
  rw [renderAt, parenthesizedIf_of_le (by decide)]
  exact readsOperand_attr a

theorem readsBack_of_call? {e : Expr} {name : String} {args : List Expr}
    (called : e.call? = some (name, args)) (reads : ∀ arg ∈ args, ReadsBack arg) :
    ReadsBack e := by
  refine .of_operand (fun _ _ _ same => by rw [same] at called; cases called) ?_
  rw [renderAt_of_call? called, parenthesizedIf_of_le (by decide), toList_call]
  exact readsOperand_call (isWord_of_call? called) (ofWord?_of_call? called)
    (fun arg listed => (reads arg listed).whole 0 (Nat.zero_le _))
    (fun arg _ => begins_renderAt arg 0) (ofCall?_of_call? called)

/-! ### Negations -/

theorem settles_negative {v : Value} (unsigned : Value.Unsigned v) :
    ∃ w, v.negative? = some w ∧ ∀ rest, Stops rest →
      Settles (fun fuel => Value.read fuel ('-' :: (v.render.toList ++ rest))) (w, rest) := by
  cases unsigned with
  | @int i nonneg =>
    refine ⟨.int (-i), by rw [Value.negative?, if_pos nonneg], fun rest stops => ?_⟩
    refine .of_forall fun fuel => ?_
    have positive : decide (i.toInt < 0) = false := by simpa using nonneg
    have reads := Value.read_number (Value.begins_toDigits i.toInt.natAbs)
      (fun _ => Value.isNumberChar_of_mem_toDigits) stops true fuel
    have value : (if true = true then -(i.toInt.natAbs : Int) else i.toInt.natAbs) = -i.toInt := by
      rw [if_pos rfl]
      omega
    rw [Value.number?_toDigits, value] at reads
    rw [Value.toList_render_int, positive]
    refine reads.trans ?_
    have fits : Integer.ofInt? (-i.toInt) = some (-i) := Value.neg?_of_nonneg nonneg
    rw [fits, Option.map_some, Option.map_some]
  | finite m =>
    refine ⟨.real (.finite true m), rfl, fun rest stops => ?_⟩
    refine .of_forall fun fuel => ?_
    have reads := Value.read_number (Decimal.exists_cons_positional (Decimal.shortest .upward m))
      (fun _ => Value.isNumberChar_of_mem_positional) stops true fuel
    rw [Value.number?_positional] at reads
    rw [Value.toList_render_finite]
    exact reads

theorem unsigned_or_begins_operand (e : Expr) :
    (∃ v, e = lit v ∧ Value.Unsigned v) ∨
      Begins isOpening (renderAt unaryPrecedence e).toList := by
  cases e with
  | lit v =>
    rw [renderAt_lit v (le_refl _)]
    obtain unsigned | begins := v.unsigned_or_begins
    · exact .inl ⟨v, rfl, unsigned⟩
    · exact .inr begins
  | binary op left right =>
    rw [renderAt, parenthesizedIf, if_pos (by simpa using op.precedence_lt_unaryPrecedence)]
    exact .inr ⟨'(', _, toList_parenthesized _, by decide⟩
  | _ =>
    exact .inr (begins_renderAt_of_symbol (fun _ _ _ same => by cases same)
      (fun _ same => by cases same) unaryPrecedence)

theorem readsBack_neg {e : Expr} (reads : ReadsBack e) : ReadsBack (neg e) := by
  refine .of_operand (fun _ _ _ same => by cases same) ?_
  have spelled : (renderAt unaryPrecedence (neg e)).toList =
      '-' :: (renderAt unaryPrecedence e).toList := by
    rw [renderAt, parenthesizedIf_of_le (le_refl _), String.toList_append]
    rfl
  rw [spelled, folded]
  intro rest stops
  obtain ⟨v, rfl, unsigned⟩ | begins := unsigned_or_begins_operand e
  · obtain ⟨w, negative, settles⟩ := settles_negative unsigned
    obtain ⟨least, reads_value⟩ := settles rest stops
    rw [renderAt_lit v (le_refl _), List.cons_append, folded, negated, negative]
    exact .succ ⟨least, fun fuel enough => by simp only [readOperand, reads_value fuel enough]⟩
  · have none (fuel : Nat) := Value.read_minus_eq_none (begins.append rest) fuel
    refine .succ ?_
    simp only [List.cons_append, readOperand, none]
    exact (reads.operand rest stops).map fun (e, rest) => (negated e, rest)

mutual

/-- Every expression is read back from its text, folded. -/
theorem readsBack : ∀ e : Expr, ReadsBack e
  | lit v => readsBack_lit v
  | attr a => readsBack_attr a
  | neg e => readsBack_neg (readsBack e)
  | binary _ left right => readsBack_binary (readsBack left) (readsBack right)
  | member item list =>
    readsBack_of_call? rfl (by simp [readsBack item, readsBack list])
  | regexp _ target =>
    readsBack_of_call? rfl (by simp [readsBack_lit, readsBack target])
  | call _ args => readsBack_of_call? rfl fun _ => readsBack_all args
  | cond condition yes no =>
    readsBack_of_call? rfl (by simp [readsBack condition, readsBack yes, readsBack no])

theorem readsBack_all : ∀ (args : List Expr) {arg : Expr}, arg ∈ args → ReadsBack arg
  | first :: args, arg, listed => by
    obtain same | listed := List.mem_cons.1 listed
    · rw [same]
      exact readsBack first
    · exact readsBack_all args listed

end

end Expr

end RoutingPolicy

import RoutingPolicy.Proofs.Ad.NameReader
import RoutingPolicy.Proofs.Number.Shortest

/-!
# Reading values

A value is told by the first character of its text: a quote, a bracket, a sign, a digit or a letter.
Numbers with a point are doubles and numbers without are integers; NaN and the infinities have a
notation of their own. Every value is read back from its text, whatever stands behind.
-/

set_option autoImplicit false

namespace RoutingPolicy

open Text

namespace Value

/-! ### Numbers -/

def number? (cs : List Char) : Option Value :=
  if cs.contains '.' then (Binary64.read? (String.ofList cs)).map real
  else (Integer.read? (String.ofList cs)).map int

def readNumber (sign cs : List Char) : Option (Value × List Char) :=
  (number? (sign ++ cs.takeWhile isNumberChar)).map fun v => (v, cs.dropWhile isNumberChar)

def signChars (negative : Bool) : List Char := if negative then ['-'] else []

theorem isNumberChar_of_isDigit {c : Char} (digit : c.isDigit = true) : isNumberChar c = true := by
  rw [isNumberChar, digit, Bool.true_or]

theorem splitSign_signChars {negative : Bool} {c : Char} (digit : c.isDigit = true)
    (cs : List Char) :
    Integer.splitSign (signChars negative ++ c :: cs) = (negative, c :: cs) := by
  cases negative with
  | true => rfl
  | false =>
    rw [signChars, if_neg Bool.false_ne_true, List.nil_append]
    unfold Integer.splitSign
    split
    · next same =>
      rw [(List.cons.inj same).1] at digit
      exact absurd digit (by decide)
    · next same =>
      rw [(List.cons.inj same).1] at digit
      exact absurd digit (by decide)
    · rfl

theorem begins_toDigits (n : Nat) : Begins Char.isDigit (Nat.toDigits 10 n) := by
  obtain ⟨c, cs, digits⟩ := List.exists_cons_of_ne_nil (Nat.toDigits_ne_nil (b := 10) (n := n))
  exact ⟨c, cs, digits, Nat.isDigit_of_mem_toDigits (by decide) (by decide)
    (digits ▸ List.mem_cons_self)⟩

theorem number?_toDigits (negative : Bool) (n : Nat) :
    number? (signChars negative ++ Nat.toDigits 10 n) =
      (Integer.ofInt? (if negative then -n else n)).map int := by
  obtain ⟨c, cs, digits, digit⟩ := begins_toDigits n
  have pointless : '.' ∉ signChars negative ++ Nat.toDigits 10 n := by
    rw [List.mem_append, not_or]
    refine ⟨by cases negative <;> decide, fun listed => ?_⟩
    have isDigit := Nat.isDigit_of_mem_toDigits (by decide) (by decide) listed
    exact absurd isDigit (by decide)
  have whole : (signChars negative ++ Nat.toDigits 10 n).contains '.' = false := by
    rwa [List.contains_eq_mem, decide_eq_false_iff_not]
  rw [number?, whole, if_neg Bool.false_ne_true, Integer.read?, String.toList_ofList, digits,
    splitSign_signChars digit, ← digits]
  simp only [Integer.readDigits?_toDigits, Option.bind_some]

theorem ofList_map_toLower_ne {cs : List Char} (point : '.' ∈ cs) {word : String}
    (pointless : '.' ∉ word.toList) : String.ofList (cs.map Char.toLower) ≠ word := by
  rintro rfl
  rw [String.toList_ofList] at pointless
  exact pointless (List.mem_map.2 ⟨'.', point, rfl⟩)

theorem number?_positional (negative : Bool) (m : Magnitude) :
    number? (signChars negative ++ (Decimal.shortest .upward m).positional.toList) =
      some (real (.finite negative m)) := by
  obtain ⟨k, reads, same⟩ := Decimal.read?_positional (Decimal.shortest .upward m)
  have point := Decimal.point_mem_positional (Decimal.shortest .upward m)
  obtain ⟨c, cs, written, digit⟩ := Decimal.exists_cons_positional (Decimal.shortest .upward m)
  rw [written] at reads point ⊢
  have pointed : (signChars negative ++ c :: cs).contains '.' = true := by
    rw [List.contains_eq_mem, decide_eq_true_iff]
    exact List.mem_append_right _ point
  have finite : ¬(String.ofList ((c :: cs).map Char.toLower) = "inf" ∨
      String.ofList ((c :: cs).map Char.toLower) = "infinity") :=
    not_or.2 ⟨ofList_map_toLower_ne point (by decide), ofList_map_toLower_ne point (by decide)⟩
  have number : String.ofList ((c :: cs).map Char.toLower) ≠ "nan" :=
    ofList_map_toLower_ne point (by decide)
  rw [number?, if_pos pointed, Binary64.read?, String.toList_ofList, splitSign_signChars digit]
  simp only [if_neg finite, if_neg number, reads, Option.map_some, same,
    Decimal.toBinary64_shortest]

/-! ### Words -/

def readSpecial (cs : List Char) : Option (Value × List Char) :=
  (['(', '"'].isPrefixOf? cs).bind fun cs =>
    (unquote '"' cs).bind fun (text, cs) =>
      ([')'].isPrefixOf? cs).bind fun rest =>
        (Binary64.read? (String.ofList text)).map fun r => (real r, rest)

/-- The value that begins with a word, and what stands behind it. -/
def ofWord? (word : String) (rest : List Char) : Option (Value × List Char) :=
  if word = "undefined" then some (undefined, rest)
  else if word = "error" then some (error, rest)
  else if word = "true" then some (bool true, rest)
  else if word = "false" then some (bool false, rest)
  else if word = "real" then readSpecial rest
  else none

theorem ofWord?_real (rest : List Char) : ofWord? "real" rest = readSpecial rest := by
  simp [ofWord?]

/-! ### Values -/

def readField (readValue : List Char → Option (Value × List Char)) (cs : List Char) :
    Option ((String × Value) × List Char) :=
  (readName cs).bind fun (name, cs) =>
    ([' ', '=', ' '].isPrefixOf? cs).bind fun cs =>
      (readValue cs).map fun (v, rest) => ((name, v), rest)

def read : Nat → List Char → Option (Value × List Char)
  | 0, _ => none
  | _ + 1, [] => none
  | fuel + 1, c :: cs =>
    if c = '"' then (unquote '"' cs).map fun (text, rest) => (str (String.ofList text), rest)
    else if c = '\x7b' then
      (readItems (read fuel) [',', ' '] [' ', '\x7d'] fuel [' '] cs).map fun (items, rest) =>
        (list items, rest)
    else if c = '[' then
      (readItems (readField (read fuel)) [';', ' '] [' ', ']'] fuel [' '] cs).map
        fun (fields, rest) => (record fields, rest)
    else if c = '-' then readNumber ['-'] cs
    else if c.isDigit then readNumber [] (c :: cs)
    else ofWord? (String.ofList ((c :: cs).takeWhile isIdentifierChar))
      ((c :: cs).dropWhile isIdentifierChar)

/-! ### What each kind of text is read as -/

theorem read_str (fuel : Nat) (text : String) (rest : List Char) :
    read (fuel + 1) ((quote text).toList ++ rest) = some (str text, rest) := by
  have spelled : (quote text).toList ++ rest =
      '"' :: (text.toList.flatMap quoteChar ++ '"' :: rest) := by
    simp [quote]
  rw [spelled, read, if_pos rfl, unquote_flatMap unquote_quoteChar, Option.map_some]
  simp only [String.ofList_toList]

theorem read_list (fuel : Nat) (cs : List Char) :
    read (fuel + 1) ('\x7b' :: cs) =
      (readItems (read fuel) [',', ' '] [' ', '\x7d'] fuel [' '] cs).map fun (items, rest) =>
        (list items, rest) := by
  rw [read, if_neg (by decide), if_pos rfl]

theorem read_record (fuel : Nat) (cs : List Char) :
    read (fuel + 1) ('[' :: cs) =
      (readItems (readField (read fuel)) [';', ' '] [' ', ']'] fuel [' '] cs).map
        fun (fields, rest) => (record fields, rest) := by
  rw [read, if_neg (by decide), if_neg (by decide), if_pos rfl]

theorem read_minus (fuel : Nat) (cs : List Char) :
    read (fuel + 1) ('-' :: cs) = readNumber ['-'] cs := by
  rw [read, if_neg (by decide), if_neg (by decide), if_neg (by decide), if_pos rfl]

theorem read_digit {c : Char} (digit : c.isDigit = true) (fuel : Nat) (cs : List Char) :
    read (fuel + 1) (c :: cs) = readNumber [] (c :: cs) := by
  have other {d : Char} : d.isDigit = false → c ≠ d := ne_of_holds digit
  rw [read, if_neg (other rfl), if_neg (other rfl), if_neg (other rfl), if_neg (other rfl),
    if_pos digit]

theorem read_start {c : Char} (start : isIdentifierStart c = true) (fuel : Nat) (cs : List Char) :
    read (fuel + 1) (c :: cs) = ofWord? (String.ofList ((c :: cs).takeWhile isIdentifierChar))
      ((c :: cs).dropWhile isIdentifierChar) := by
  have other {d : Char} : isIdentifierStart d = false → c ≠ d := ne_of_holds start
  rw [read, if_neg (other rfl), if_neg (other rfl), if_neg (other rfl), if_neg (other rfl),
    if_neg (not_isDigit_of_isIdentifierStart start)]

theorem read_word {word rest : List Char} (isWord : isWord word = true)
    (stops : ∀ c ∈ rest.head?, isIdentifierChar c = false) (fuel : Nat) :
    read (fuel + 1) (word ++ rest) = ofWord? (String.ofList word) rest := by
  have all := isIdentifierChar_of_mem isWord
  obtain ⟨first, others, chars, start⟩ := exists_cons_of_isWord isWord
  rw [chars, List.cons_append, read_start start, ← List.cons_append, ← chars,
    takeWhile_append_of_stops all stops, dropWhile_append_of_stops all stops]

theorem readNumber_append {sign word rest : List Char}
    (all : ∀ c ∈ word, isNumberChar c = true)
    (stops : ∀ c ∈ rest.head?, isNumberChar c = false) :
    readNumber sign (word ++ rest) = (number? (sign ++ word)).map fun v => (v, rest) := by
  rw [readNumber, takeWhile_append_of_stops all stops, dropWhile_append_of_stops all stops]

theorem read_number {word rest : List Char} (digit : Begins Char.isDigit word)
    (all : ∀ c ∈ word, isNumberChar c = true) (stops : Stops rest) (negative : Bool) (fuel : Nat) :
    read (fuel + 1) (signChars negative ++ word ++ rest) =
      (number? (signChars negative ++ word)).map fun v => (v, rest) := by
  rw [← readNumber_append all (stops.forall_head (by decide))]
  cases negative with
  | true => exact read_minus fuel _
  | false =>
    obtain ⟨c, cs, rfl, digit⟩ := digit
    exact read_digit digit fuel _

/-! ### Values read back -/

theorem reads_word (word : String) {v : Value} (word_isWord : isWord word.toList = true)
    (value : ∀ rest, ofWord? word rest = some (v, rest)) : Reads read Stops word.toList v := by
  intro rest stops
  refine .of_forall fun fuel => ?_
  rw [read_word word_isWord (stops.forall_head (by decide)), String.ofList_toList, value]

theorem reads_special (name : List Char) {r : Binary64}
    (unescaped : name.flatMap quoteChar = name)
    (number : Binary64.read? (String.ofList name) = some r) :
    Reads read Stops ("real(\"".toList ++ (name ++ ['"', ')'])) (real r) := by
  intro rest _
  refine .of_forall fun fuel => ?_
  have word : isWord "real".toList = true := by decide
  have spelled : "real(\"".toList ++ (name ++ ['"', ')']) ++ rest =
      "real".toList ++ (['(', '"'] ++ (name ++ '"' :: ([')'] ++ rest))) := by
    simp [List.append_assoc]
  have unquoted (cs : List Char) : unquote '"' (name ++ '"' :: cs) = some (name, cs) := by
    conv_lhs => rw [← unescaped]
    exact unquote_flatMap unquote_quoteChar name cs
  rw [spelled, read_word word (by simp; decide), String.ofList_toList, ofWord?_real, readSpecial,
    isPrefixOf?_append, Option.bind_some, unquoted, Option.bind_some]
  simp only [isPrefixOf?_append, Option.bind_some, number, Option.map_some]

theorem toList_intText (i : Int) :
    (Integer.intText i).toList = signChars (i < 0) ++ Nat.toDigits 10 i.natAbs := by
  cases i with
  | ofNat n => simp [Integer.intText, Integer.natText, signChars]
  | negSucc n => simp [Integer.intText, Integer.natText, signChars, Int.negSucc_lt_zero]

theorem isNumberChar_of_mem_toDigits {n : Nat} {c : Char} (listed : c ∈ Nat.toDigits 10 n) :
    isNumberChar c = true :=
  isNumberChar_of_isDigit (Nat.isDigit_of_mem_toDigits (by decide) (by decide) listed)

theorem isNumberChar_of_mem_positional {d : Decimal} {c : Char}
    (listed : c ∈ d.positional.toList) : isNumberChar c = true := by
  obtain digit | rfl := Decimal.isDigit_of_mem_positional listed
  · exact isNumberChar_of_isDigit digit
  · rfl

theorem toList_render_int (i : Int64) :
    (int i).render.toList = signChars (i.toInt < 0) ++ Nat.toDigits 10 i.toInt.natAbs := by
  rw [render, Integer.text, toList_intText]

theorem toList_render_finite (negative : Bool) (m : Magnitude) :
    (real (.finite negative m)).render.toList =
      signChars negative ++ (Decimal.shortest .upward m).positional.toList := by
  have sign : (if negative = true then "-" else "").toList = signChars negative := by
    cases negative <;> rfl
  rw [render, realText, String.toList_append, sign]

theorem reads_int (i : Int64) : Reads read Stops (int i).render.toList (int i) := by
  intro rest stops
  refine .of_forall fun fuel => ?_
  have value : (if decide (i.toInt < 0) = true then -(i.toInt.natAbs : Int)
      else i.toInt.natAbs) = i.toInt := by
    split
    · next below => rw [decide_eq_true_eq] at below; omega
    · next below => rw [decide_eq_true_eq] at below; omega
  rw [toList_render_int,
    read_number (begins_toDigits _) (fun c => isNumberChar_of_mem_toDigits) stops,
    number?_toDigits, value, Integer.ofInt?_eq_some_iff.2 rfl]
  rfl

theorem reads_finite (negative : Bool) (m : Magnitude) :
    Reads read Stops (real (.finite negative m)).render.toList (real (.finite negative m)) := by
  intro rest stops
  refine .of_forall fun fuel => ?_
  rw [toList_render_finite,
    read_number (Decimal.exists_cons_positional _) (fun c => isNumberChar_of_mem_positional) stops,
    number?_positional]
  rfl

theorem reads_real (r : Binary64) : Reads read Stops (real r).render.toList (real r) := by
  cases r with
  | nan => exact reads_special ['N', 'a', 'N'] (by decide) (by decide +kernel)
  | infinite negative =>
    cases negative with
    | true => exact reads_special ['-', 'I', 'N', 'F'] (by decide) (by decide +kernel)
    | false => exact reads_special ['I', 'N', 'F'] (by decide) (by decide +kernel)
  | finite negative m => exact reads_finite negative m

/-! ### Lists and records -/

def fieldText (field : String × Value) : List Char :=
  (attributeName field.1).toList ++ ([' ', '=', ' '] ++ field.2.render.toList)

theorem toList_renderItems (items : List Value) :
    (renderItems items).toList =
      separated [',', ' '] [',', ' '] (items.map fun item => item.render.toList) := by
  induction items with
  | nil => rfl
  | cons item items induction =>
    rw [renderItems, String.toList_append, String.toList_append, induction, List.map_cons,
      separated]
    rfl

theorem toList_renderFields (fields : List (String × Value)) :
    (renderFields fields).toList = separated [';', ' '] [';', ' '] (fields.map fieldText) := by
  induction fields with
  | nil => rfl
  | cons field fields induction =>
    simp only [renderFields, String.toList_append, induction, List.map_cons, separated, fieldText]
    simp only [List.append_assoc]
    rfl

theorem toList_render_list (items : List Value) :
    (list items).render.toList =
      '\x7b' :: (separated [',', ' '] [' '] (items.map fun item => item.render.toList) ++
        [' ', '\x7d']) := by
  cases items with
  | nil => rfl
  | cons item items =>
    simp only [render, String.toList_append, toList_renderItems, List.map_cons, separated]
    simp only [List.append_assoc]
    rfl

theorem toList_render_record (fields : List (String × Value)) :
    (record fields).render.toList =
      '[' :: (separated [';', ' '] [' '] (fields.map fieldText) ++ [' ', ']']) := by
  cases fields with
  | nil => rfl
  | cons field fields =>
    simp only [render, String.toList_append, toList_renderFields, List.map_cons, separated,
      fieldText]
    simp only [List.append_assoc]
    rfl

/-- The numbers that are written without a sign. -/
inductive Unsigned : Value → Prop
  | int {i : Int64} (nonneg : 0 ≤ i.toInt) : Unsigned (int i)
  | finite (m : Magnitude) : Unsigned (real (.finite false m))

theorem begins_of_unsigned {v : Value} (unsigned : Unsigned v) :
    Begins Char.isDigit v.render.toList := by
  cases unsigned with
  | @int i nonneg =>
    have positive : decide (i.toInt < 0) = false := by simpa using nonneg
    rw [toList_render_int, positive]
    exact begins_toDigits _
  | finite m =>
    rw [toList_render_finite, signChars, if_neg Bool.false_ne_true, List.nil_append]
    exact Decimal.exists_cons_positional _

theorem unsigned_or_begins (v : Value) : Unsigned v ∨ Begins isOpening v.render.toList := by
  cases v with
  | undefined => exact .inr ⟨_, _, rfl, by decide⟩
  | error => exact .inr ⟨_, _, rfl, by decide⟩
  | bool b => cases b <;> exact .inr ⟨_, _, rfl, by decide⟩
  | int i =>
    by_cases nonneg : 0 ≤ i.toInt
    · exact .inl (.int nonneg)
    · have negative : decide (i.toInt < 0) = true := by simpa using nonneg
      rw [toList_render_int, negative]
      exact .inr ⟨'-', _, rfl, by decide⟩
  | real r =>
    cases r with
    | nan => exact .inr ⟨_, _, rfl, by decide⟩
    | infinite negative => cases negative <;> exact .inr ⟨_, _, rfl, by decide⟩
    | finite negative m =>
      cases negative with
      | true => exact .inr ⟨'-', _, toList_render_finite true m, by decide⟩
      | false => exact .inl (.finite m)
  | str s => exact .inr ⟨'"', _, String.toList_ofList, by decide⟩
  | list items => exact .inr ⟨_, _, toList_render_list items, by decide⟩
  | record fields => exact .inr ⟨_, _, toList_render_record fields, by decide⟩

theorem begins_render (v : Value) : Begins (fun c => !isClosing c) v.render.toList := by
  obtain unsigned | begins := unsigned_or_begins v
  · exact (begins_of_unsigned unsigned).mono not_isClosing_of_isDigit
  · exact begins.mono not_isClosing_of_isOpening

theorem reads_field (name : String) {v : Value} (reads : Reads read Stops v.render.toList v) :
    Reads (fun fuel => readField (read fuel)) Stops (fieldText (name, v)) (name, v) := by
  intro rest stops
  have spelled : fieldText (name, v) ++ rest =
      (attributeName name).toList ++ ([' ', '=', ' '] ++ (v.render.toList ++ rest)) := by
    simp only [fieldText, List.append_assoc]
  have found : readName ((attributeName name).toList ++
      ([' ', '=', ' '] ++ (v.render.toList ++ rest))) =
        some (name, [' ', '=', ' '] ++ (v.render.toList ++ rest)) :=
    readName_attributeName name (by simp; decide)
  simp only [readField, spelled, found, Option.bind_some, isPrefixOf?_append]
  exact (reads rest stops).map fun (v, rest) => ((name, v), rest)

/-- What stands between brackets is not taken for the closing one, whose last character is. -/
theorem isPrefixOf?_close {p : Char → Bool} {cs : List Char} (begins : Begins p cs)
    {close : Char} (excluded : p close = false) {separator : Char} (other : separator ≠ ' ') :
    [' ', close].isPrefixOf? ([' '] ++ cs) = none ∧
      [' ', close].isPrefixOf? ([separator, ' '] ++ cs) = none := by
  constructor
  · exact begins.isPrefixOf?_eq_none excluded
  · rw [List.cons_append, List.isPrefixOf?, if_neg (by simpa using other.symm)]

theorem reads_list {items : List Value}
    (reads : ∀ item ∈ items, Reads read Stops item.render.toList item) :
    Reads read Stops (list items).render.toList (list items) := by
  intro rest _
  have inside := settles_readItems (fun item : Value => item.render.toList) id [' ']
    (fun rest => stops_cons (c := ',') (by decide) (' ' :: rest))
    (fun rest => stops_cons (c := ' ') (by decide) ('\x7d' :: rest)) reads
    (fun item _ rest => isPrefixOf?_close ((begins_render item).append rest) (by decide)
      (by decide)) rest
  rw [List.map_id] at inside
  refine .succ ?_
  simp only [toList_render_list, List.cons_append, List.append_assoc, read_list]
  exact inside.map fun (items, rest) => (list items, rest)

theorem reads_record {fields : List (String × Value)}
    (reads : ∀ field ∈ fields,
      Reads (fun fuel => readField (read fuel)) Stops (fieldText field) field) :
    Reads read Stops (record fields).render.toList (record fields) := by
  intro rest _
  have inside := settles_readItems fieldText id [' ']
    (fun rest => stops_cons (c := ';') (by decide) (' ' :: rest))
    (fun rest => stops_cons (c := ' ') (by decide) (']' :: rest)) reads
    (fun field _ rest => isPrefixOf?_close
      (((begins_attributeName field.1).append _).append rest) (by decide) (by decide)) rest
  rw [List.map_id] at inside
  refine .succ ?_
  simp only [toList_render_record, List.cons_append, List.append_assoc, read_record]
  exact inside.map fun (fields, rest) => (record fields, rest)

mutual

/-- Every value is read back from its text. -/
theorem reads_render : ∀ v : Value, Reads read Stops v.render.toList v
  | undefined => reads_word "undefined" (by decide) (by simp [ofWord?])
  | error => reads_word "error" (by decide) (by simp [ofWord?])
  | bool true => reads_word "true" (by decide) (by simp [ofWord?])
  | bool false => reads_word "false" (by decide) (by simp [ofWord?])
  | int i => reads_int i
  | real r => reads_real r
  | str s => fun rest _ => .of_forall fun fuel => read_str fuel s rest
  | list items => reads_list (reads_items items)
  | record fields => reads_record (reads_fields fields)

theorem reads_items : ∀ (items : List Value), ∀ item ∈ items,
    Reads read Stops item.render.toList item
  | first :: items, item, listed => by
    obtain same | listed := List.mem_cons.1 listed
    · rw [same]
      exact reads_render first
    · exact reads_items items item listed

theorem reads_fields : ∀ (fields : List (String × Value)), ∀ field ∈ fields,
    Reads (fun fuel => readField (read fuel)) Stops (fieldText field) field
  | (name, v) :: fields, field, listed => by
    obtain same | listed := List.mem_cons.1 listed
    · rw [same]
      exact reads_field name (reads_render v)
    · exact reads_fields fields field listed

end

/-- The text of a value determines it, doubles to the last bit. -/
theorem eq_of_render_eq {v w : Value} (same : v.render = w.render) : v = w := by
  have left := reads_render v
  rw [same] at left
  exact left.unique (reads_render w) stops_nil

/-! ### What is no value -/

theorem read_symbol {c : Char} (symbol : c ∈ ['(', '\'']) (fuel : Nat) (cs : List Char) :
    read fuel (c :: cs) = none := by
  cases fuel with
  | zero => rfl
  | succ fuel =>
    have word : (c :: cs).takeWhile isIdentifierChar = [] := by
      simp only [List.mem_cons, List.not_mem_nil, or_false] at symbol
      obtain rfl | rfl := symbol <;> rfl
    rw [read, word]
    simp only [List.mem_cons, List.not_mem_nil, or_false] at symbol
    obtain rfl | rfl := symbol <;> rfl

theorem read_minus_eq_none {cs : List Char} (begins : Begins isOpening cs) (fuel : Nat) :
    read fuel ('-' :: cs) = none := by
  cases fuel with
  | zero => rfl
  | succ fuel =>
    obtain ⟨c, rest, rfl, opening⟩ := begins
    have other : isNumberChar c = false := by
      rw [isOpening, Bool.and_eq_true_iff, Bool.not_eq_true', Bool.not_eq_true'] at opening
      exact opening.2
    have digits : (c :: rest).takeWhile isNumberChar = [] := by
      rw [List.takeWhile_cons, other, if_neg Bool.false_ne_true]
    have sign : number? ['-'] = none := by decide +kernel
    rw [read_minus, readNumber, digits, List.append_nil, sign, Option.map_none]

theorem read_word_eq_none {word rest : List Char} (word_isWord : isWord word = true)
    (stops : ∀ c ∈ rest.head?, isIdentifierChar c = false)
    (other : ofWord? (String.ofList word) rest = none) (fuel : Nat) :
    read fuel (word ++ rest) = none := by
  cases fuel with
  | zero => rfl
  | succ fuel => rw [read_word word_isWord stops, other]

theorem ofWord?_of_unreserved {name : String} (unreserved : Text.foldCase name ∉ reservedWords)
    {rest : List Char} (stops : Stops rest) : ofWord? name rest = none := by
  have other {word : String} (reserved : Text.foldCase word ∈ reservedWords) : name ≠ word := by
    rintro rfl
    exact unreserved reserved
  have special : readSpecial rest = none := by
    cases rest with
    | nil => rfl
    | cons c rest =>
      have paren : '(' ≠ c := by
        rintro rfl
        exact absurd (stops '(' rfl) (by decide)
      rw [readSpecial, List.isPrefixOf?, if_neg (by simpa using paren), Option.bind_none]
  rw [ofWord?, if_neg (other (by decide +kernel)), if_neg (other (by decide +kernel)),
    if_neg (other (by decide +kernel)), if_neg (other (by decide +kernel)), special, ite_self]

end Value

end RoutingPolicy

import RoutingPolicy.Proofs.Text.Reader

/-!
# Reading names

A name stands in quotes unless it is an identifier and no reserved word. Either way it is read back,
up to a character that belongs to no identifier. What a text begins with tells a name from a number
and from a closing bracket.
-/

set_option autoImplicit false

namespace RoutingPolicy

open Text

/-! ### Names and words -/

def isWord : List Char → Bool
  | [] => false
  | first :: rest => isIdentifierStart first && rest.all isIdentifierChar

theorem isIdentifierChar_of_isIdentifierStart {c : Char} (start : isIdentifierStart c = true) :
    isIdentifierChar c = true := by
  simp only [isIdentifierStart, isIdentifierChar, Char.isAlphanum, Bool.or_eq_true] at start ⊢
  exact start.imp_left .inl

theorem not_isDigit_of_isIdentifierStart {c : Char} (start : isIdentifierStart c = true) :
    ¬c.isDigit = true := by
  intro digit
  have low : c.val ≤ '9'.val := of_decide_eq_true (Bool.and_eq_true_iff.1 digit).2
  rw [isIdentifierStart, Bool.or_eq_true, beq_iff_eq] at start
  obtain letter | rfl := start
  · obtain upper | lower : c.isUpper = true ∨ c.isLower = true := Bool.or_eq_true_iff.1 letter
    · have high : 'A'.val ≤ c.val := (of_decide_eq_true upper).1
      exact absurd (UInt32.le_trans high low) (by decide)
    · have high : 'a'.val ≤ c.val := of_decide_eq_true (Bool.and_eq_true_iff.1 lower).1
      exact absurd (UInt32.le_trans high low) (by decide)
  · exact absurd digit (by decide)

theorem exists_cons_of_isWord {word : List Char} (isWord : isWord word = true) :
    ∃ first rest, word = first :: rest ∧ isIdentifierStart first = true := by
  cases word with
  | nil => cases isWord
  | cons first rest => exact ⟨first, rest, rfl, (Bool.and_eq_true_iff.1 isWord).1⟩

theorem isIdentifierChar_of_mem {word : List Char} (isWord : isWord word = true) :
    ∀ c ∈ word, isIdentifierChar c = true := by
  cases word with
  | nil => cases isWord
  | cons first rest =>
    obtain ⟨start, others⟩ := Bool.and_eq_true_iff.1 isWord
    intro c listed
    obtain rfl | listed := List.mem_cons.1 listed
    · exact isIdentifierChar_of_isIdentifierStart start
    · exact List.all_eq_true.1 others c listed

theorem isPlainName_iff {name : String} :
    isPlainName name = true ↔
      isWord name.toList = true ∧ Text.foldCase name ∉ reservedWords := by
  unfold isPlainName
  cases name.toList with
  | nil => simp [isWord]
  | cons first rest => simp [isWord]

def readName : List Char → Option (String × List Char)
  | '\'' :: cs => (unquote '\'' cs).map fun (name, rest) => (String.ofList name, rest)
  | cs => some (String.ofList (cs.takeWhile isIdentifierChar), cs.dropWhile isIdentifierChar)

theorem readName_of_start {c : Char} (start : isIdentifierStart c = true) (cs : List Char) :
    readName (c :: cs) = some (String.ofList ((c :: cs).takeWhile isIdentifierChar),
      (c :: cs).dropWhile isIdentifierChar) := by
  have other : c ≠ '\'' := ne_of_holds start (by decide)
  rw [readName]
  simpa using other

theorem readName_word {word rest : List Char} (isWord : isWord word = true)
    (stops : ∀ c ∈ rest.head?, isIdentifierChar c = false) :
    readName (word ++ rest) = some (String.ofList word, rest) := by
  have all := isIdentifierChar_of_mem isWord
  obtain ⟨first, others, chars, start⟩ := exists_cons_of_isWord isWord
  rw [chars, List.cons_append, readName_of_start start, ← List.cons_append, ← chars,
    takeWhile_append_of_stops all stops, dropWhile_append_of_stops all stops]

theorem readName_attributeName (name : String) {rest : List Char}
    (stops : ∀ c ∈ rest.head?, isIdentifierChar c = false) :
    readName ((attributeName name).toList ++ rest) = some (name, rest) := by
  unfold attributeName
  split
  · next plain =>
    rw [readName_word (isPlainName_iff.1 plain).1 stops, String.ofList_toList]
  · rw [String.toList_ofList, List.cons_append, List.append_assoc, List.singleton_append, readName,
      unquote_flatMap unquote_quoteNameChar, Option.map_some]
    simp only [String.ofList_toList]

/-! ### How texts begin -/

def Begins (p : Char → Bool) (cs : List Char) : Prop := ∃ c rest, cs = c :: rest ∧ p c = true

theorem Begins.append {p : Char → Bool} {cs : List Char} (begins : Begins p cs)
    (rest : List Char) : Begins p (cs ++ rest) := by
  obtain ⟨c, others, rfl, holds⟩ := begins
  exact ⟨c, others ++ rest, rfl, holds⟩

theorem Begins.mono {p q : Char → Bool} (implies : ∀ c, p c = true → q c = true)
    {cs : List Char} (begins : Begins p cs) : Begins q cs := by
  obtain ⟨c, rest, same, holds⟩ := begins
  exact ⟨c, rest, same, implies c holds⟩

theorem Begins.isPrefixOf?_eq_none {p : Char → Bool} {cs : List Char} (begins : Begins p cs)
    {close : Char} (excluded : p close = false) : [close].isPrefixOf? cs = none := by
  obtain ⟨c, rest, rfl, holds⟩ := begins
  have other : c ≠ close := ne_of_holds holds excluded
  rw [List.isPrefixOf?, if_neg (by simpa using other.symm)]

/-- The characters of a number behind its sign. -/
def isNumberChar (c : Char) : Bool := c.isDigit || c == '.'

def isClosing (c : Char) : Bool := [')', ']', '\x7d'].contains c

/-- The characters that may begin an expression other than a number without a sign. -/
def isOpening (c : Char) : Bool := !isClosing c && !isNumberChar c

theorem not_isClosing_of_isOpening (c : Char) (opening : isOpening c = true) :
    (!isClosing c) = true :=
  (Bool.and_eq_true_iff.1 opening).1

theorem not_isClosing_of_isDigit (c : Char) (digit : c.isDigit = true) :
    (!isClosing c) = true := by
  simp only [Bool.not_eq_true', isClosing, List.contains_eq_mem, decide_eq_false_iff_not,
    List.mem_cons, List.not_mem_nil, or_false, not_or]
  have other {d : Char} : d.isDigit = false → c ≠ d := ne_of_holds digit
  exact ⟨other (by decide), other (by decide), other (by decide)⟩

def isNameStart (c : Char) : Bool := isIdentifierStart c || c == '\''

theorem isOpening_of_isNameStart (c : Char) (start : isNameStart c = true) :
    isOpening c = true := by
  have other {d : Char} : isNameStart d = false → c ≠ d := ne_of_holds start
  have digit : c.isDigit = false := by
    rw [isNameStart, Bool.or_eq_true, beq_iff_eq] at start
    obtain start | rfl := start
    · exact Bool.eq_false_iff.2 (not_isDigit_of_isIdentifierStart start)
    · rfl
  have closing : isClosing c = false := by
    simp only [isClosing, List.contains_eq_mem, List.mem_cons, List.not_mem_nil, or_false,
      decide_eq_false_iff_not, not_or]
    exact ⟨other (by decide), other (by decide), other (by decide)⟩
  have number : isNumberChar c = false := by
    rw [isNumberChar, digit, Bool.false_or, beq_eq_false_iff_ne]
    exact other (by decide)
  rw [isOpening, closing, number]
  rfl

theorem begins_of_isWord {word : List Char} (isWord : isWord word = true) :
    Begins isNameStart word := by
  obtain ⟨first, rest, rfl, start⟩ := exists_cons_of_isWord isWord
  exact ⟨first, rest, rfl, by rw [isNameStart, start, Bool.true_or]⟩

theorem begins_attributeName (name : String) : Begins isNameStart (attributeName name).toList := by
  unfold attributeName
  split
  · next plain => exact begins_of_isWord (isPlainName_iff.1 plain).1
  · exact ⟨'\'', _, String.toList_ofList, by decide⟩

end RoutingPolicy

import Mathlib.Data.List.Basic
import Mathlib.Tactic.SplitIfs
import RoutingPolicy.Ad.Text

/-!
# Reading a text from its front

A reader takes what it understands off the front of a text and hands on the rest. Readers that call
each other take fuel; `Settles` says that a result is reached and no longer changes however much
fuel there is, so there is at most one such result. What is read here is what names, texts, items
and words are written as, whatever stands behind.
-/

set_option autoImplicit false

namespace RoutingPolicy.Text

/-! ### Results that are reached -/

/-- With enough fuel the result is `a`. -/
def Settles {α : Type} (read : Nat → Option α) (a : α) : Prop :=
  ∃ least, ∀ fuel, least ≤ fuel → read fuel = some a

namespace Settles

variable {α β : Type} {read : Nat → Option α} {a : α}

theorem of_forall (reads : ∀ fuel, read (fuel + 1) = some a) : Settles read a := by
  refine ⟨1, fun fuel enough => ?_⟩
  obtain ⟨k, rfl⟩ := Nat.exists_eq_add_of_le' enough
  exact reads k

theorem succ (settles : Settles (fun fuel => read (fuel + 1)) a) : Settles read a := by
  obtain ⟨least, reads⟩ := settles
  refine ⟨least + 1, fun fuel enough => ?_⟩
  obtain ⟨k, rfl⟩ := Nat.exists_eq_add_of_le' enough
  exact reads (k + least) (Nat.le_add_left least k)

theorem bind {next : Nat → α → Option β} {b : β} (settles : Settles read a)
    (next_settles : Settles (fun fuel => next fuel a) b) :
    Settles (fun fuel => (read fuel).bind (next fuel)) b := by
  obtain ⟨least, reads⟩ := settles
  obtain ⟨later, continues⟩ := next_settles
  refine ⟨max least later, fun fuel enough => ?_⟩
  have first := reads fuel (by omega)
  have second := continues fuel (by omega)
  simpa only [first, Option.bind_some] using second

theorem map (settles : Settles read a) (f : α → β) :
    Settles (fun fuel => (read fuel).map f) (f a) := by
  obtain ⟨least, reads⟩ := settles
  refine ⟨least, fun fuel enough => ?_⟩
  simp only [reads fuel enough, Option.map_some]

theorem unique {b : α} (left : Settles read a) (right : Settles read b) : a = b := by
  obtain ⟨least, reads⟩ := left
  obtain ⟨later, agrees⟩ := right
  have first := reads (max least later) (by omega)
  have second := agrees (max least later) (by omega)
  exact Option.some.inj (first.symm.trans second)

end Settles

/-! ### Where a word ends -/

/-- What may stand behind a value or an expression: nothing, or a character that belongs to
neither. -/
def Stops (rest : List Char) : Prop := ∀ c ∈ rest.head?, c ∈ [' ', ',', ')', ';']

theorem stops_nil : Stops [] := by
  intro c listed
  cases listed

theorem stops_cons {c : Char} (among : c ∈ [' ', ',', ')', ';']) (rest : List Char) :
    Stops (c :: rest) := by
  intro d listed
  rwa [← Option.some.inj listed]

/-- The reader takes the text off the front of any that goes on as `follows` says, and makes `a` of
it. -/
def Reads {α : Type} (read : Nat → List Char → Option (α × List Char))
    (follows : List Char → Prop) (text : List Char) (a : α) : Prop :=
  ∀ rest, follows rest → Settles (fun fuel => read fuel (text ++ rest)) (a, rest)

theorem Reads.unique {α : Type} {read : Nat → List Char → Option (α × List Char)}
    {follows : List Char → Prop} {text : List Char} {a b : α} (left : Reads read follows text a)
    (right : Reads read follows text b) (ends : follows []) : a = b :=
  (Prod.mk.inj ((left [] ends).unique (right [] ends))).1

theorem isPrefixOf?_append (before rest : List Char) :
    before.isPrefixOf? (before ++ rest) = some rest :=
  List.isPrefixOf?_eq_some_iff_append_eq.2 rfl

theorem ne_of_holds {p : Char → Bool} {c d : Char} (holds : p c = true) (fails : p d = false) :
    c ≠ d := by
  rintro rfl
  rw [holds] at fails
  cases fails

section Word

variable {p : Char → Bool} {word rest : List Char}

theorem takeWhile_append_of_stops (all : ∀ c ∈ word, p c = true)
    (stops : ∀ c ∈ rest.head?, p c = false) : (word ++ rest).takeWhile p = word := by
  rw [List.takeWhile_append_of_pos all]
  cases rest with
  | nil => exact List.append_nil _
  | cons c rest => simp [stops c rfl]

theorem dropWhile_append_of_stops (all : ∀ c ∈ word, p c = true)
    (stops : ∀ c ∈ rest.head?, p c = false) : (word ++ rest).dropWhile p = rest := by
  rw [List.dropWhile_append_of_pos all]
  cases rest with
  | nil => rfl
  | cons c rest => simp [stops c rfl]

theorem append_inj_of_stops {word' rest' : List Char} (all : ∀ c ∈ word, p c = true)
    (all' : ∀ c ∈ word', p c = true) (stops : ∀ c ∈ rest.head?, p c = false)
    (stops' : ∀ c ∈ rest'.head?, p c = false) (same : word ++ rest = word' ++ rest') :
    word = word' ∧ rest = rest' := by
  have words := congrArg (List.takeWhile p) same
  have rests := congrArg (List.dropWhile p) same
  rw [takeWhile_append_of_stops all stops, takeWhile_append_of_stops all' stops'] at words
  rw [dropWhile_append_of_stops all stops, dropWhile_append_of_stops all' stops'] at rests
  exact ⟨words, rests⟩

theorem Stops.forall_head (stops : Stops rest)
    (none : ([' ', ',', ')', ';'].all fun c => !p c) = true) : ∀ c ∈ rest.head?, p c = false := by
  intro c listed
  simpa using List.all_eq_true.1 none c (stops c listed)

end Word

/-! ### Quotes -/

def unescaped : Char → Char
  | 'n' => '\n'
  | 'r' => '\r'
  | 't' => '\t'
  | c => c

def unquote (close : Char) : List Char → Option (List Char × List Char)
  | [] => none
  | c :: cs =>
    if c = close then some ([], cs)
    else if c = '\\' then
      match cs with
      | [] => none
      | escaped :: cs =>
        (unquote close cs).map fun (text, rest) => (unescaped escaped :: text, rest)
    else (unquote close cs).map fun (text, rest) => (c :: text, rest)

theorem unquote_close (close : Char) (cs : List Char) :
    unquote close (close :: cs) = some ([], cs) := by
  rw [unquote.eq_def]
  exact if_pos rfl

theorem unquote_of_ne {close c : Char} (other : c ≠ close) (plain : c ≠ '\\') (cs : List Char) :
    unquote close (c :: cs) = (unquote close cs).map fun (text, rest) => (c :: text, rest) := by
  rw [unquote.eq_def]
  exact (if_neg other).trans (if_neg plain)

theorem unquote_quoteChar (c : Char) (cs : List Char) :
    unquote '"' (quoteChar c ++ cs) =
      (unquote '"' cs).map fun (text, rest) => (c :: text, rest) := by
  unfold quoteChar
  split_ifs with quote backslash newline carriage tab
  · rw [quote]; rfl
  · rw [backslash]; rfl
  · rw [newline]; rfl
  · rw [carriage]; rfl
  · rw [tab]; rfl
  · exact unquote_of_ne quote backslash cs

theorem unquote_quoteNameChar (c : Char) (cs : List Char) :
    unquote '\'' (quoteNameChar c ++ cs) =
      (unquote '\'' cs).map fun (text, rest) => (c :: text, rest) := by
  unfold quoteNameChar
  split_ifs with quote backslash
  · rw [quote]; rfl
  · rw [backslash]; rfl
  · exact unquote_of_ne quote backslash cs

theorem unquote_flatMap {close : Char} {escape : Char → List Char}
    (escapes : ∀ c cs, unquote close (escape c ++ cs) =
      (unquote close cs).map fun (text, rest) => (c :: text, rest)) (text rest : List Char) :
    unquote close (text.flatMap escape ++ close :: rest) = some (text, rest) := by
  induction text with
  | nil => exact unquote_close close rest
  | cons c text induction =>
    rw [List.flatMap_cons, List.append_assoc, escapes, induction, Option.map_some]

/-! ### Items -/

section Items

variable {α β : Type}

/-- Reads items up to a closing text and past it: the first behind `before`, the others behind the
separator. -/
def readItems (readOne : List Char → Option (α × List Char)) (separator close : List Char) :
    Nat → (before : List Char) → List Char → Option (List α × List Char)
  | 0, _, _ => none
  | fuel + 1, before, cs =>
    match close.isPrefixOf? cs with
    | some rest => some ([], rest)
    | none =>
      (before.isPrefixOf? cs).bind fun cs =>
        (readOne cs).bind fun (item, cs) =>
          (readItems readOne separator close fuel separator cs).map fun (items, rest) =>
            (item :: items, rest)

/-- Texts with a separator before each but the first, before which there is another. -/
def separated (separator : List Char) : (before : List Char) → List (List Char) → List Char
  | _, [] => []
  | before, text :: texts => before ++ text ++ separated separator separator texts

variable {readOne : Nat → List Char → Option (α × List Char)} {separator close : List Char}
  {text : β → List Char} {value : β → α} {follows : List Char → Prop}

/-- Items are read up to the closing text if each is read wherever a separator or the closing text
may stand behind it, and none begins with the closing text. -/
theorem exists_readItems (separator_follows : ∀ rest, follows (separator ++ rest))
    (close_follows : ∀ rest, follows (close ++ rest)) {before : List Char} {items : List β}
    (reads : ∀ item ∈ items, Reads readOne follows (text item) (value item))
    (opens : ∀ item ∈ items, ∀ rest,
      close.isPrefixOf? (before ++ (text item ++ rest)) = none ∧
        close.isPrefixOf? (separator ++ (text item ++ rest)) = none) (rest : List Char) :
    ∃ least, ∀ n, least ≤ n → ∀ fuel, least ≤ fuel →
      readItems (readOne n) separator close fuel before
        (separated separator before (items.map text) ++ (close ++ rest)) =
          some (items.map value, rest) := by
  induction items generalizing before with
  | nil =>
    refine ⟨1, fun n _ fuel enough => ?_⟩
    obtain ⟨k, rfl⟩ := Nat.exists_eq_add_of_le' enough
    simp only [readItems, List.map_nil, separated, List.nil_append, isPrefixOf?_append]
  | cons item items induction =>
    simp only [List.mem_cons, forall_eq_or_imp] at reads opens
    obtain ⟨reads_item, reads_items⟩ := reads
    obtain ⟨opens_item, opens_items⟩ := opens
    have tail_follows :
        follows (separated separator separator (items.map text) ++ (close ++ rest)) := by
      cases items with
      | nil => exact close_follows rest
      | cons next items =>
        rw [List.map_cons, separated, List.append_assoc, List.append_assoc]
        exact separator_follows _
    obtain ⟨least, reads_first⟩ := reads_item _ tail_follows
    obtain ⟨later, reads_others⟩ := induction reads_items fun next listed rest =>
      ⟨(opens_items next listed rest).2, (opens_items next listed rest).2⟩
    refine ⟨max least later + 1, fun n enough fuel enough_fuel => ?_⟩
    obtain ⟨k, rfl⟩ := Nat.exists_eq_add_of_le' enough_fuel
    have continues :=
      (opens_item (separated separator separator (items.map text) ++ (close ++ rest))).1
    have first := reads_first n (by omega)
    have others := reads_others n (by omega) (k + max least later) (by omega)
    simp only [List.map_cons, separated, List.append_assoc]
    rw [← Nat.add_assoc, readItems, continues]
    simp only [isPrefixOf?_append, Option.bind_some, first, others, Option.map_some]

theorem settles_readItems (text : β → List Char) (value : β → α) (before : List Char)
    (separator_follows : ∀ rest, follows (separator ++ rest))
    (close_follows : ∀ rest, follows (close ++ rest)) {items : List β}
    (reads : ∀ item ∈ items, Reads readOne follows (text item) (value item))
    (opens : ∀ item ∈ items, ∀ rest,
      close.isPrefixOf? (before ++ (text item ++ rest)) = none ∧
        close.isPrefixOf? (separator ++ (text item ++ rest)) = none) (rest : List Char) :
    Settles (fun fuel => readItems (readOne fuel) separator close fuel before
      (separated separator before (items.map text) ++ (close ++ rest)))
      (items.map value, rest) := by
  obtain ⟨least, reads_items⟩ :=
    exists_readItems separator_follows close_follows reads opens rest
  exact ⟨least, fun fuel enough => reads_items fuel enough fuel enough⟩

end Items

end RoutingPolicy.Text

import RoutingPolicy.Proofs.Ad.NameReader

/-!
# Quoted texts end where they should

A text in quotes is pasted into rules, with anything behind it. Whoever reads it from its opening
mark on, and takes a backslash together with the character behind it, finds the closing mark at its
end and nowhere before. Texts and names that are quoted have this property whatever quotes and
backslashes they hold, and names are never confused by it.
-/

set_option autoImplicit false

namespace RoutingPolicy

namespace Text

/-- What stands before the first closing mark that no backslash belongs to, as it is written, and
what stands behind that mark. -/
def splitAtClose (close : Char) : List Char → Option (List Char × List Char)
  | [] => none
  | c :: cs =>
    if c = close then some ([], cs)
    else if c = '\\' then
      match cs with
      | [] => none
      | escaped :: cs =>
        (splitAtClose close cs).map fun (inside, behind) => (c :: escaped :: inside, behind)
    else (splitAtClose close cs).map fun (inside, behind) => (c :: inside, behind)

/-- Puts what an escape stands for in the place of a backslash and the character behind it. -/
def undoEscapes : List Char → List Char
  | '\\' :: escaped :: cs => unescaped escaped :: undoEscapes cs
  | c :: cs => c :: undoEscapes cs
  | [] => []

variable {close : Char} {cs inside behind : List Char}

theorem undoEscapes_of_ne {c : Char} (plain : c ≠ '\\') (cs : List Char) :
    undoEscapes (c :: cs) = c :: undoEscapes cs := by
  rw [undoEscapes]
  exact fun _ _ escape => absurd escape plain

theorem eq_of_splitAtClose (split : splitAtClose close cs = some (inside, behind)) :
    cs = inside ++ close :: behind := by
  fun_induction splitAtClose close cs generalizing inside behind with
  | case1 => cases split
  | case2 cs =>
      cases split
      rw [List.nil_append]
  | case3 => cases split
  | case4 escaped cs other induction =>
      obtain ⟨⟨inside', behind'⟩, found, same⟩ := Option.map_eq_some_iff.1 split
      cases same
      rw [induction found, List.cons_append, List.cons_append]
  | case5 c cs other plain induction =>
      obtain ⟨⟨inside', behind'⟩, found, same⟩ := Option.map_eq_some_iff.1 split
      cases same
      rw [induction found, List.cons_append]

theorem unquote_eq_map_splitAtClose (close : Char) (cs : List Char) :
    unquote close cs =
      (splitAtClose close cs).map fun (inside, behind) => (undoEscapes inside, behind) := by
  fun_induction splitAtClose close cs with
  | case1 => rfl
  | case2 cs => exact unquote_close close cs
  | case3 other =>
      rw [unquote.eq_def]
      exact (if_neg other).trans (if_pos rfl)
  | case4 escaped cs other induction =>
      have step : unquote close ('\\' :: escaped :: cs) =
          (unquote close cs).map fun (text, rest) => (unescaped escaped :: text, rest) := by
        rw [unquote.eq_def]
        exact (if_neg other).trans (if_pos rfl)
      rw [step, induction, Option.map_map, Option.map_map]
      rfl
  | case5 c cs other plain induction =>
      rw [unquote_of_ne other plain, induction, Option.map_map, Option.map_map]
      refine congrArg (fun f => Option.map f _) (funext fun split => ?_)
      exact congrArg (·, split.2) (undoEscapes_of_ne plain split.1).symm

/-- A text that is escaped character by character is split off whole, and undoing its escapes gives
it back. -/
theorem splitAtClose_flatMap {escape : Char → List Char}
    (escapes : ∀ c cs, unquote close (escape c ++ cs) =
      (unquote close cs).map fun (text, rest) => (c :: text, rest)) (text behind : List Char) :
    splitAtClose close (text.flatMap escape ++ close :: behind) =
        some (text.flatMap escape, behind) ∧
      undoEscapes (text.flatMap escape) = text := by
  have read := unquote_flatMap escapes text behind
  rw [unquote_eq_map_splitAtClose, Option.map_eq_some_iff] at read
  obtain ⟨⟨inside, behind'⟩, split, same⟩ := read
  obtain ⟨undone, rfl⟩ := Prod.mk.inj same
  obtain rfl := List.append_cancel_right (eq_of_splitAtClose split)
  exact ⟨split, undone⟩

/-- Reading the written text from its opening mark on, with whatever behind it, finds the closing
mark at its end, and with the escapes undone it says `s`. -/
def Quotes (mark : Char) (written s : String) : Prop :=
  ∃ inside, written.toList = mark :: (inside ++ [mark]) ∧ undoEscapes inside = s.toList ∧
    ∀ behind : String,
      splitAtClose mark (written ++ behind).toList.tail = some (inside, behind.toList)

theorem quotes_flatMap {mark : Char} {escape : Char → List Char}
    (escapes : ∀ c cs, unquote mark (escape c ++ cs) =
      (unquote mark cs).map fun (text, rest) => (c :: text, rest)) (s : String) :
    Quotes mark (String.ofList (mark :: (s.toList.flatMap escape ++ [mark]))) s := by
  refine ⟨s.toList.flatMap escape, String.toList_ofList,
    (splitAtClose_flatMap escapes s.toList []).2, fun behind => ?_⟩
  rw [String.toList_append, String.toList_ofList, List.cons_append, List.tail_cons,
    List.append_assoc]
  exact (splitAtClose_flatMap escapes s.toList behind.toList).1

end Text

open Text

/-! ### Texts and names -/

theorem quotes_quote (s : String) : Quotes '"' (quote s) s := quotes_flatMap unquote_quoteChar s

theorem quotes_attributeName {name : String} (quoted : isPlainName name = false) :
    Quotes '\'' (attributeName name) name := by
  rw [attributeName, quoted, if_neg Bool.false_ne_true]
  exact quotes_flatMap unquote_quoteNameChar name

theorem attributeName_injective : Function.Injective attributeName := by
  intro name name' same
  have read (name : String) : readName (attributeName name).toList = some (name, []) := by
    have ends : ∀ c ∈ ([] : List Char).head?, isIdentifierChar c = false := nofun
    rw [← readName_attributeName name ends, List.append_nil]
  have left := read name
  rw [same, read name'] at left
  exact (Prod.mk.inj (Option.some.inj left)).1.symm

theorem all_quoteChar (c : Char) :
    (quoteChar c).all (fun d => ['\n', '\r', '\t'].all (· != d)) = true := by
  unfold quoteChar
  split_ifs with quote backslash newline carriage tab
  · decide
  · decide
  · decide
  · decide
  · decide
  · simp [Ne.symm newline, Ne.symm carriage, Ne.symm tab]

theorem not_mem_quote {s : String} {c : Char} (control : c ∈ ['\n', '\r', '\t']) :
    c ∉ (quote s).toList := by
  intro listed
  have mark : '"' ∉ ['\n', '\r', '\t'] := by decide
  rw [quote, String.toList_ofList, List.mem_cons, List.mem_append, List.mem_flatMap,
    List.mem_singleton] at listed
  obtain rfl | ⟨d, -, escaped⟩ | rfl := listed
  · exact mark control
  · have others := List.all_eq_true.1 (all_quoteChar d) c escaped
    exact bne_iff_ne.1 (List.all_eq_true.1 others c control) rfl
  · exact mark control

/-- Behind its opening mark, and with anything behind it, a quoted text is read up to its end and
says what was quoted; it holds no line break and no tab. The same marks close a name that needs
quotes, and different names are written differently. -/
theorem quotations_close_at_their_end :
    (∀ s : String, Quotes '"' (quote s) s ∧ ∀ c ∈ ['\n', '\r', '\t'], c ∉ (quote s).toList) ∧
    (∀ name : String, isPlainName name = false → Quotes '\'' (attributeName name) name) ∧
    Function.Injective attributeName :=
  ⟨fun s => ⟨quotes_quote s, fun _ => not_mem_quote⟩,
    fun _ => quotes_attributeName, attributeName_injective⟩

/-- A name that ends in a backslash behind a quotation mark. -/
theorem quotations_close_of_backslash :
    isPlainName "T2_CH'\\" = false ∧ Quotes '\'' (attributeName "T2_CH'\\") "T2_CH'\\" := by
  have quoted : isPlainName "T2_CH'\\" = false := by decide +kernel
  exact ⟨quoted, quotations_close_at_their_end.2.1 _ quoted⟩

end RoutingPolicy

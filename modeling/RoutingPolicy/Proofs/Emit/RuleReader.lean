import RoutingPolicy.Emit.Format
import RoutingPolicy.Proofs.Ad.ExprReader
import RoutingPolicy.Proofs.Rule.Content

/-!
# Reading the ads of rules

The ad of a rule is a block of lines. The first four give the name and the condition beside two
fixed attributes; each further line is a step, and the prefix of its directive says of which kind.
Names, quoted texts and expressions may contain what ends a line or a block, so lines cannot be
found by their ends; but each part is read from its front and says itself where it ends. In this way
the contents of rules are read back from their ads, whatever stands behind, and two rule sets with
the same ads have the same contents and the same runs.
-/

set_option autoImplicit false

namespace RoutingPolicy

open Text

theorem ends_semicolon (rest : List Char) : Expr.Ends (';' :: rest) :=
  ⟨stops_cons (by decide) rest, BinaryOp.read?_of_ne_blank (by decide) rest⟩

theorem Expr.settles_readAt_line (e : Expr) (rest : List Char) :
    Settles (fun fuel => readAt fuel 0 (e.render.toList ++ ';' :: rest))
      (e.folded, ';' :: rest) :=
  ((readsBack e).whole 0 (Nat.zero_le _)).settles (ends_semicolon rest)

def readQuoted (cs : List Char) : Option (String × List Char) :=
  (['"'].isPrefixOf? cs).bind fun cs =>
    (unquote '"' cs).map fun (text, rest) => (String.ofList text, rest)

theorem readQuoted_quote (text : String) (rest : List Char) :
    readQuoted ((quote text).toList ++ rest) = some (text, rest) := by
  have opens : (quote text).toList ++ rest =
      ['"'] ++ (text.toList.flatMap quoteChar ++ '"' :: rest) := by
    simp [quote]
  rw [readQuoted, opens, isPrefixOf?_append, Option.bind_some,
    unquote_flatMap unquote_quoteChar, Option.map_some]
  simp only [String.ofList_toList]

/-! ### Steps -/

/-- Reads what stands behind the name of a directive and the sign of equality. -/
def readChange (fuel : Nat) (directive cs : List Char) : Option (Mutation × List Char) :=
  match directive with
  | 'c' :: 'o' :: 'p' :: 'y' :: '_' :: source =>
    (readQuoted cs).map fun (destination, rest) => (.copy (String.ofList source) destination, rest)
  | 's' :: 'e' :: 't' :: '_' :: attr =>
    (Expr.readAt fuel 0 cs).map fun (e, rest) => (.set (String.ofList attr) e, rest)
  | 'e' :: 'v' :: 'a' :: 'l' :: '_' :: 's' :: 'e' :: 't' :: '_' :: attr =>
    (Expr.readAt fuel 0 cs).map fun (e, rest) => (.evalSet (String.ofList attr) e, rest)
  | 'd' :: 'e' :: 'l' :: 'e' :: 't' :: 'e' :: '_' :: attr =>
    (['t', 'r', 'u', 'e'].isPrefixOf? cs).map fun rest => (.delete (String.ofList attr), rest)
  | _ => none

def readStep (fuel : Nat) (cs : List Char) : Option (Mutation × List Char) :=
  (readName cs).bind fun (directive, cs) =>
    ([' ', '=', ' '].isPrefixOf? cs).bind fun cs =>
      (readChange fuel directive.toList cs).bind fun (m, cs) =>
        ([';', '\n'].isPrefixOf? cs).map fun rest => (m, rest)

def endedLine (line : String) : List Char := line.toList ++ [';', '\n']

theorem reads_assignment {m m' : Mutation} {right : String}
    (reads : ∀ rest, Settles
      (fun fuel => readChange fuel m.directive.toList (right.toList ++ ';' :: rest))
      (m', ';' :: rest)) :
    Reads readStep (fun _ => True)
      (endedLine (assignment (attributeName m.directive) right)) m' := by
  intro rest _
  have spelled : endedLine (assignment (attributeName m.directive) right) ++ rest =
      (attributeName m.directive).toList ++
        ([' ', '=', ' '] ++ (right.toList ++ ';' :: '\n' :: rest)) := by
    simp [endedLine, assignment]
  have stops : ∀ c ∈ ([' ', '=', ' '] ++ (right.toList ++ ';' :: '\n' :: rest)).head?,
      isIdentifierChar c = false := by simp; decide
  have closes : [';', '\n'].isPrefixOf? (';' :: '\n' :: rest) = some rest :=
    isPrefixOf?_append [';', '\n'] rest
  simp only [readStep, spelled, readName_attributeName _ stops, Option.bind_some,
    isPrefixOf?_append]
  refine (reads ('\n' :: rest)).bind ?_
  simp only [closes, Option.map_some]
  exact .of_forall fun _ => rfl

theorem Mutation.reads_line (m : Mutation) :
    Reads readStep (fun _ => True) (endedLine m.line) m.folded := by
  apply reads_assignment
  intro rest
  cases m <;> simp only [directive, String.toList_append, String.reduceToList, List.cons_append,
    List.nil_append, readChange, String.ofList_toList, folded]
  case copy source destination =>
    refine .of_forall fun fuel => ?_
    rw [readQuoted_quote, Option.map_some]
  case set attr e => exact (e.settles_readAt_line rest).map fun (e, rest) => (set attr e, rest)
  case evalSet attr e =>
    exact (e.settles_readAt_line rest).map fun (e, rest) => (evalSet attr e, rest)
  case delete attr =>
    refine .of_forall fun fuel => ?_
    exact congrArg (Option.map fun rest => (delete attr, rest))
      (isPrefixOf?_append ['t', 'r', 'u', 'e'] (';' :: rest))

theorem MarkerUpdate.line_eq (m : MarkerUpdate) : m.line = m.step.line := by
  have literal : (Expr.bool m.value).render = boolText m.value :=
    (Expr.renderAt_lit (.bool m.value) (Nat.zero_le _)).trans rfl
  rw [line, step, Mutation.line, literal]
  rfl

/-! ### Rules -/

def indentChars : List Char := [' ', ' ', ' ', ' ']

def openingChars : List Char := '[' :: '\n' :: (indentChars ++ "Name = ".toList)

def fixedChars : List Char :=
  ';' :: '\n' :: (indentChars ++ endedLine (assignment "GridResource" (quote gridResource)) ++
    (indentChars ++ endedLine (assignment "TargetUniverse" (Integer.text targetUniverse))) ++
      (indentChars ++ "Requirements = ".toList))

theorem toList_join_lines (lines : List String) :
    (String.join (lines.map fun line => "    " ++ line ++ ";\n")).toList =
      lines.flatMap fun line => indentChars ++ endedLine line := by
  rw [String.toList_join, List.flatMap_map]
  refine List.flatMap_congr fun line _ => ?_
  rw [String.toList_append, String.toList_append, List.append_assoc]
  rfl

theorem Rule.lines_eq (r : Rule) :
    r.lines = assignment "Name" (quote r.name) ::
      assignment "GridResource" (quote gridResource) ::
        assignment "TargetUniverse" (Integer.text targetUniverse) ::
          assignment "Requirements" r.guard.render :: r.steps.map Mutation.line := by
  have markers : r.markers.map MarkerUpdate.line =
      (r.markers.map MarkerUpdate.step).map Mutation.line := by
    rw [List.map_map]
    exact List.map_congr_left fun m _ => m.line_eq
  rw [lines, markers, List.append_assoc, ← List.map_append]
  rfl

theorem separated_eq_flatMap (separator : List Char) (texts : List (List Char)) :
    separated separator separator texts = texts.flatMap (separator ++ ·) := by
  induction texts with
  | nil => rfl
  | cons text texts induction => rw [separated, induction, List.flatMap_cons]

theorem endedLine_assignment (name value : String) :
    endedLine (assignment name value) =
      (name ++ " = ").toList ++ (value.toList ++ [';', '\n']) := by
  rw [endedLine, assignment, String.toList_append, List.append_assoc]

theorem Rule.toList_ad (r : Rule) :
    r.ad.toList = openingChars ++ ((quote r.name).toList ++ (fixedChars ++
      (r.guard.render.toList ++ ';' :: '\n' ::
        (separated indentChars indentChars (r.steps.map fun m => endedLine m.line) ++
          [']', '\n'])))) := by
  have name := endedLine_assignment "Name" (quote r.name)
  have requirements := endedLine_assignment "Requirements" r.guard.render
  rw [ad, String.toList_append, String.toList_append, toList_join_lines, lines_eq]
  simp only [List.flatMap_cons, name, requirements, List.flatMap_map, separated_eq_flatMap]
  simp only [openingChars, fixedChars, List.append_assoc, List.cons_append, List.nil_append]
  rfl

def readRule (fuel : Nat) (cs : List Char) : Option (RuleContent × List Char) :=
  (openingChars.isPrefixOf? cs).bind fun cs =>
    (readQuoted cs).bind fun (name, cs) =>
      (fixedChars.isPrefixOf? cs).bind fun cs =>
        (Expr.readAt fuel 0 cs).bind fun (condition, cs) =>
          ([';', '\n'].isPrefixOf? cs).bind fun cs =>
            (readItems (readStep fuel) indentChars [']', '\n'] fuel indentChars cs).map
              fun (steps, rest) => (⟨name, condition, steps⟩, rest)

theorem Rule.reads_ad (r : Rule) : Reads readRule (fun _ => True) r.ad.toList r.content := by
  intro rest _
  have steps : Settles (fun fuel => readItems (readStep fuel) indentChars [']', '\n'] fuel
      indentChars (separated indentChars indentChars (r.steps.map fun m => endedLine m.line) ++
        ([']', '\n'] ++ rest))) (r.steps.map Mutation.folded, rest) := by
    refine settles_readItems (fun m : Mutation => endedLine m.line) Mutation.folded indentChars
      (fun _ => trivial) (fun _ => trivial) (fun m _ => m.reads_line) ?_ rest
    intro m _ rest
    exact ⟨rfl, rfl⟩
  have condition := r.guard.expr.settles_readAt_line ('\n' ::
    (separated indentChars indentChars (r.steps.map fun m => endedLine m.line) ++
      ([']', '\n'] ++ rest)))
  have closes (cs : List Char) : [';', '\n'].isPrefixOf? (';' :: '\n' :: cs) = some cs :=
    isPrefixOf?_append [';', '\n'] cs
  simp only [toList_ad, List.append_assoc, List.cons_append, readRule, isPrefixOf?_append,
    Option.bind_some, readQuoted_quote]
  refine condition.bind ?_
  simp only [closes, Option.bind_some]
  exact steps.map _

/-! ### Rule sets -/

theorem intercalate_eq_separated (separator : List Char) (texts : List (List Char)) :
    separator.intercalate texts = separated separator [] texts := by
  induction texts with
  | nil => rfl
  | cons text texts induction =>
      cases texts with
      | nil => simp [separated]
      | cons next texts =>
          rw [List.intercalate_cons_cons, induction]
          simp only [separated, List.nil_append, List.append_assoc]

theorem RuleSet.toList_ads (s : RuleSet) :
    s.ads.toList = separated ['\n'] [] (s.rules.map fun r => r.ad.toList) := by
  rw [ads, String.toList_intercalate, intercalate_eq_separated, List.map_map]
  rfl

/-- Each ad says itself where it ends, so a list of ads is that of one list of contents only. -/
theorem Rule.contents_eq_of_separated_eq (before : List Char) {left right : List Rule}
    (same : separated ['\n'] before (left.map fun r => r.ad.toList) =
      separated ['\n'] before (right.map fun r => r.ad.toList)) :
    left.map content = right.map content := by
  induction left generalizing before right with
  | nil =>
      cases right with
      | nil => rfl
      | cons r right =>
          have opens := congrArg (List.elem '[') same
          simp [separated, toList_ad, openingChars] at opens
  | cons r left induction =>
      cases right with
      | nil =>
          have opens := congrArg (List.elem '[') same
          simp [separated, toList_ad, openingChars] at opens
      | cons r' right =>
          simp only [List.map_cons, separated, List.append_assoc] at same
          have tails := List.append_cancel_left same
          have first := r.reads_ad (separated ['\n'] ['\n'] (left.map fun r => r.ad.toList)) trivial
          rw [tails] at first
          have read := first.unique (r'.reads_ad _ trivial)
          have contents : r.content = r'.content := congrArg Prod.fst read
          have others := induction ['\n'] (congrArg Prod.snd read)
          rw [List.map_cons, List.map_cons, contents, others]

theorem RuleSet.contents_eq_of_ads_eq {s t : RuleSet} (same : s.ads = t.ads) :
    s.contents = t.contents := by
  apply Rule.contents_eq_of_separated_eq []
  rw [← toList_ads, ← toList_ads, same]

/-! ### What the text determines -/

theorem RuleSet.ads_eq_of_render {s : RuleSet} {text : String}
    (rendered : s.render .ads = .ok text) : s.ads = text := by
  unfold render at rendered
  cases valid : s.validate with
  | error e =>
      rw [valid] at rendered
      cases rendered
  | ok =>
      rw [valid] at rendered
      exact Except.ok.inj rendered

/-- Rule sets that are written as the same ads have the same run on every job, up to signs that an
expression may have in two places: the same rules are applied, and the ads that are left have the
same attributes with the same values. -/
theorem RuleSet.run_eq_of_render_eq {s t : RuleSet} {text : String}
    (left : s.render .ads = .ok text) (right : t.render .ads = .ok text) (ad : JobAd)
    (limit : Nat) :
    (s.run limit ad).1 = (t.run limit ad).1 ∧
      (s.run limit ad).2.toList.map Binding.name = (t.run limit ad).2.toList.map Binding.name ∧
        ∀ name, (s.run limit ad).2.evalAttr name = (t.run limit ad).2.evalAttr name := by
  have same : s.ads = t.ads := (ads_eq_of_render left).trans (ads_eq_of_render right).symm
  have alike := run_congr (contents_eq_of_ads_eq same) (Eq.refl ad.folded) limit
  refine ⟨alike.1, ?_, fun name => ?_⟩
  · rw [← JobAd.names_folded, alike.2, JobAd.names_folded]
  · have value (final : JobAd) : final.evalAttr name = final.folded.evalAttr name :=
      (final.folded_eval (.named name)).symm
    rw [value (s.run limit ad).2, alike.2, ← value]

/-- Clears a flag by a change, under a nested condition. -/
def tierChange : RuleSet :=
  ⟨[.make .memory "Tier = \"1\"" [.both (.flagIsTrue (.plain "Tier")) (.named "Idle"),
    .named "Queued"] [.set "Tier" (.bool false)] []]⟩

/-- Clears the flag by a marker, under a flat condition. -/
def tierMarker : RuleSet :=
  ⟨[.make .time "Tier = \"1\"" [.flagIsTrue (.plain "Tier"), .named "Idle", .named "Queued"] []
    [⟨"Tier", false⟩]]⟩

theorem RuleSet.run_tierChange_eq :
    let ad := ["Tier", "Idle", "Queued"].foldl (fun ad name => ad.assign name (.bool true)) .empty
    tierChange.render .ads = .ok tierChange.ads ∧ tierMarker.render .ads = .ok tierChange.ads ∧
      (tierChange.run 3 ad).1 = ⟨["Tier = \"1\""], true⟩ ∧
        (tierChange.run 3 ad).1 = (tierMarker.run 3 ad).1 := by
  intro ad
  have left : tierChange.render .ads = .ok tierChange.ads := by rfl
  have right : tierMarker.render .ads = .ok tierChange.ads := by rfl
  have fires : (tierChange.run 3 ad).1 = ⟨["Tier = \"1\""], true⟩ := by decide +kernel
  exact ⟨left, right, fires, (run_eq_of_render_eq left right ad 3).1⟩

end RoutingPolicy

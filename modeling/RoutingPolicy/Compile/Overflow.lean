import RoutingPolicy.Compile.Sites
import RoutingPolicy.Policy.Document
import RoutingPolicy.Rule.Attribute
import RoutingPolicy.Site.Group

/-!
# Rules for overflow

A task whose whitelist is replaced has a rule of its own, which comes from the first workflow that
replaces it; what else is asked for its whitelist is reported and ignored. All other tasks are
grouped by the sites that the first of their additions names, and each group has one rule, which
adds the destinations of the sites in the whitelist of the job, as far as they belong to the group.
-/

set_option autoImplicit false

namespace RoutingPolicy

/-- A modification with its workflow and task. -/
structure Listing where
  workflow : String
  task : String
  modification : TaskModification

def Modifications.listings (m : Modifications) : List Listing :=
  m.entries.flatMap fun (workflow, tasks) =>
    tasks.entries.map fun (task, modification) => ⟨workflow, task, modification⟩

namespace Compile.Overflow

def rankExpr : Expr :=
  .call .stringListMember [.named Attribute.glideinSite, .named Attribute.extDesiredSites]

/-! ### Replacement -/

def replacementRule (task : String) (sites : List SiteName) : Rule :=
  .make .overflow ("Site Replacement for " ++ task)
    [.flagIsNotTrue (.plain Marker.hasBeenReplaced),
      .compareTo .identical (.plain Attribute.subtaskName) (.str task)]
    [.evalSet Attribute.desiredSites (.str (SiteList.join (sites.map (·.text)))),
      .set Attribute.rank rankExpr]
    [⟨Marker.hasBeenReplaced, true⟩]

def replacement (task : String) (sites : List String) : List Compiled :=
  let present := Text.nonblank sites
  let valid := validSites present
  Compiled.skips (invalidSiteReasons present) ++
    [if valid.isEmpty then .skip (.emptyWhitelist task) else .rule (replacementRule task valid)]

/-- Carries out a modification, as far as it replaces the whitelist. The tasks that are replaced so
far stand in a map, each with the workflow that replaces it. -/
def replaceListing (done : SortedMap String String × List Compiled) (l : Listing) :
    SortedMap String String × List Compiled :=
  match l.modification.replacement with
  | none => done
  | some sites =>
    match done.1.get? l.task with
    | some kept =>
      (done.1, done.2 ++ [.skip (.duplicateTask l.task ("replacement from " ++ kept)
        ("replacement from " ++ l.workflow))])
    | none => (done.1.insert l.task l.workflow, done.2 ++ replacement l.task sites)

def replaceListings (listings : List Listing) : SortedMap String String × List Compiled :=
  listings.foldl replaceListing (.empty, [])

/-! ### Addition -/

/-- Enters a modification into the groups, as far as it adds to the whitelist, and reports what is
ignored. -/
def addListing (replaced : SortedMap String String) (groups : WhitelistGroups) (l : Listing) :
    WhitelistGroups × List SkipReason :=
  match l.modification.replacement, l.modification.added with
  | none, some sites =>
    if replaced.contains l.task then
      (groups, [.duplicateTask l.task "site replacement" (SiteList.join sites)])
    else
      let present := Text.nonblank sites
      let invalid := invalidSiteReasons present
      match groups.insert l.task ((validSites present).map (·.text)) with
      | (groups, .added _) => (groups, invalid)
      | (groups, .duplicate existing) =>
        (groups, invalid ++ [.duplicateTask l.task existing.text (SiteList.join sites)])
      | (groups, .emptyWhitelist) => (groups, invalid ++ [.emptyWhitelist l.task])
  | _, _ => (groups, [])

def addListings (replaced : SortedMap String String) :
    WhitelistGroups → List Listing → WhitelistGroups × List SkipReason
  | groups, [] => (groups, [])
  | groups, l :: rest =>
    let (groups, reasons) := addListing replaced groups l
    let (groups, more) := addListings replaced groups rest
    (groups, reasons ++ more)

/-! ### Mapping -/

def mappingReasons (destination : String) (sources : List String) : List SkipReason :=
  match trimmedSite? destination with
  | none => [.invalidSite destination]
  | some _ => invalidSiteReasons (Text.nonblank sources)

/-- A destination with the sources that are sites, if there are any. -/
def checkedEntry? (destination : String) (sources : List String) : Option (String × List String) :=
  (trimmedSite? destination).bind fun site =>
    let valid := validSites (Text.nonblank sources)
    if valid.isEmpty then none else some (site.text, valid.map (·.text))

def checkedMapping (reversed : SourcesByDestination) : SourcesByDestination :=
  (reversed.entries.filterMap fun (destination, sources) => checkedEntry? destination sources).foldl
    (fun checked (destination, sources) =>
      checked.alter destination fun known => some (known.getD [] ++ sources))
    .empty

/-! ### Groups -/

def masterName (whitelist : Whitelist) : String :=
  "Master overflow rule to run at " ++ whitelist.text ++ " in addition"

/-- The whitelist with the destinations of its sites, or as it is if that has no meaning. -/
def expandedExpr (mapping : ScopedMapping) : Expr :=
  let mapped := .call .siteMapping [.named Attribute.preDesiredSites, .lit (.ofMapping mapping)]
  .cond (.compare .distinct mapped (.lit .error)) mapped (.named Attribute.preDesiredSites)

def masterRule (group : SiteMapGroup) (selector : Expr) : Rule :=
  .make .overflow (masterName group.whitelist)
    [selector, .flagIsNotTrue (.plain Marker.hasBeenRoutedOverflow)]
    [.copy Attribute.desiredSites Attribute.preDesiredSites,
      .evalSet Attribute.desiredSites (expandedExpr group.mapping),
      .set Attribute.rank rankExpr]
    [⟨Marker.hasBeenRoutedOverflow, true⟩]

def groupEntry (group : SiteMapGroup) : Compiled :=
  if group.mapping.isEmpty then .skip (.emptySiteMapping group.whitelist.text)
  else
    match Expr.memberOf? (.plain Attribute.subtaskName) group.tasks.toList with
    | some selector => .rule (masterRule group selector)
    | none => .skip (.emptySelector (masterName group.whitelist))

end Compile.Overflow

open Compile.Overflow in
/-- What becomes of the section on overflow: replacements first, then groups. -/
def Overflow.compile (o : Overflow) : List Compiled :=
  let listings := o.modifications.listings
  let (replaced, replacements) := replaceListings listings
  let (groups, additionReasons) := addListings replaced .empty listings
  let destinations := DestinationMap.invert (checkedMapping o.reversedMapping)
  replacements ++
    Compiled.skips additionReasons ++
    Compiled.skips (o.reversedMapping.entries.flatMap fun (destination, sources) =>
      mappingReasons destination sources) ++
    (groups.withMapping destinations).map groupEntry

end RoutingPolicy

import RoutingPolicy.Compile.Options
import RoutingPolicy.Compile.Sites
import RoutingPolicy.Policy.Document
import RoutingPolicy.Rule.Attribute

/-!
# Rules that hold and release

A held task has its whitelist put aside, and gets one that no site matches; release brings the
whitelist back. A held site is taken out of every whitelist that mentions it; release appends it
again. What is to be held and to be released is only released, since the two rules would undo each
other without end.
-/

set_option autoImplicit false

namespace RoutingPolicy

namespace Compile.Hold

def holdTasksRule (options : CompileOptions) (selector : Expr) : Rule :=
  .make .hold "Holding tasks"
    [.flagIsNotTrue (.plain Marker.hasBeenSetHeld), selector]
    [.copy Attribute.desiredSites Attribute.heldDesiredSites,
      .set Attribute.desiredSites (.str options.holdSite)]
    [⟨Marker.hasBeenSetHeld, true⟩]

def releaseTasksRule (selector : Expr) : Rule :=
  .make .release "Releasing tasks"
    [.flagIsTrue (.plain Marker.hasBeenSetHeld), selector]
    [.copy Attribute.heldDesiredSites Attribute.desiredSites, .delete Attribute.heldDesiredSites]
    [⟨Marker.hasBeenSetHeld, false⟩]

def holdSiteRule (site : SiteName) : Rule :=
  .make .holdSite ("Holding jobs from " ++ site.text)
    [.matchesRegex site.text (.plain Attribute.desiredSites),
      .flagIsNotTrue (.plain (Marker.heldFrom site))]
    [.copy Attribute.desiredSites Attribute.holdingDesiredSites,
      .evalSet Attribute.desiredSites
        (.call .removeSite [.str site.text, .named Attribute.holdingDesiredSites])]
    [⟨Marker.heldFrom site, true⟩]

/-- The saved whitelist with a site appended, unless the site is listed or the whitelist is
empty. -/
def restoredExpr (site : SiteName) : Expr :=
  let saved := .named Attribute.releasingDesiredSites
  .cond (.compare .equal saved (.str "")) (.str site.text)
    (.cond (.call .stringListMember [.str site.text, saved]) saved
      (.call .strcat [saved, .str ("," ++ site.text)]))

def releaseSiteRule (site : SiteName) : Rule :=
  .make .releaseSite ("Releasing jobs for " ++ site.text)
    [.flagIsTrue (.plain (Marker.heldFrom site))]
    [.copy Attribute.desiredSites Attribute.releasingDesiredSites,
      .evalSet Attribute.desiredSites (restoredExpr site),
      .delete Attribute.releasingDesiredSites]
    [⟨Marker.heldFrom site, false⟩]

def taskEntries (rule : Expr → Rule) (tasks : List String) : List Compiled :=
  match Expr.memberOf? (.plain Attribute.subtaskName) tasks with
  | some selector => [.rule (rule selector)]
  | none => []

end Compile.Hold

namespace Policy

open Compile.Hold

def compileHold (p : Policy) (options : CompileOptions) : List Compiled :=
  let (conflicting, held) := p.hold.keys.partition p.release.contains
  conflicting.map (fun task => .skip (.holdReleaseConflict task)) ++
    taskEntries (holdTasksRule options) held

def compileRelease (p : Policy) : List Compiled := taskEntries releaseTasksRule p.release.toList

def holdSiteEntry (p : Policy) (site : SiteName) : Compiled :=
  if (p.releaseSite.map Text.trim).contains site.text then .skip (.holdReleaseConflict site.text)
  else .rule (holdSiteRule site)

def compileHoldSite (p : Policy) : List Compiled :=
  Compiled.skips (invalidSiteReasons p.holdSite) ++ (validSites p.holdSite).map p.holdSiteEntry

def compileReleaseSite (p : Policy) : List Compiled :=
  Compiled.skips (invalidSiteReasons p.releaseSite) ++
    (validSites p.releaseSite).map fun site => .rule (releaseSiteRule site)

end Policy

end RoutingPolicy

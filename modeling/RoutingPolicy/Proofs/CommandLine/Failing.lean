import RoutingPolicy.CommandLine.Run
import RoutingPolicy.Proofs.Compile.Emission
import RoutingPolicy.Proofs.Emit.Refusal

/-!
# When commands fail

A command first computes the whole text that it writes, and writes it in the end, so a command that
fails has written nothing. The rules of a policy can always be written and always have a
fingerprint; what can fail on a policy that is read is only the reading of a job.
-/

namespace RoutingPolicy

set_option autoImplicit false

/-! ### Jobs -/

/-- Why a text is not the ad of a job. -/
inductive NoJob (text : String) : Prop where
  | notJson (unread : Json.read? text = none)
  | notAnObject {document : Json} (read : Json.read? text = some document)
      (other : ∀ members, document ≠ .object members)
  | emptyName {members : List (String × Json)} {value : Json}
      (read : Json.read? text = some (.object members)) (listed : ("", value) ∈ members)

theorem JobAd.ofMembers_eq_error_iff {ad : JobAd} {members : List (String × Json)} :
    (∃ e, ofMembers ad members = .error e) ↔ ∃ value, ("", value) ∈ members := by
  induction members generalizing ad with
  | nil => simp [ofMembers]
  | cons member rest induction =>
      obtain ⟨name, document⟩ := member
      rw [ofMembers]
      by_cases empty : name = ""
      · subst empty
        simp
      · simp [empty, induction, Ne.symm empty]

theorem JobAd.ofJson_eq_error_iff {document : Json} :
    (∃ e, ofJson document = .error e) ↔
      (∀ members, document ≠ .object members) ∨
        ∃ members value, document = .object members ∧ ("", value) ∈ members := by
  cases document with
  | object members => simp [ofJson, ofMembers_eq_error_iff]
  | _ => simp [ofJson]

theorem readJob_of_read?_eq_none {files : Files} {path text : String}
    (found : files path = .ok text) (unread : Json.read? text = none) :
    readJob files path = .error (.jobNotJson path) := by
  rw [readJob, found]
  simp [Except.mapError, unread, bind, Except.bind]

theorem readJob_of_read?_eq_some {files : Files} {path text : String} {document : Json}
    (found : files path = .ok text) (read : Json.read? text = some document) :
    readJob files path = (JobAd.ofJson document).mapError (Failure.invalidJob path) := by
  rw [readJob, found]
  simp [Except.mapError, read, bind, Except.bind]

theorem readJob_eq_error_iff {files : Files} {path text : String} (found : files path = .ok text) :
    (∃ failure, readJob files path = .error failure) ↔ NoJob text := by
  cases read : Json.read? text with
  | none =>
      rw [readJob_of_read?_eq_none found read]
      constructor
      · intro _
        exact .notJson read
      · intro _
        exact ⟨_, rfl⟩
  | some document =>
      have named : (∃ failure, (JobAd.ofJson document).mapError (Failure.invalidJob path) =
          .error failure) ↔ ∃ e, JobAd.ofJson document = .error e := by
        cases JobAd.ofJson document <;> simp [Except.mapError]
      rw [readJob_of_read?_eq_some found read, named, JobAd.ofJson_eq_error_iff]
      constructor
      · rintro (other | ⟨members, value, rfl, listed⟩)
        · exact .notAnObject read other
        · exact .emptyName read listed
      · intro unfit
        cases unfit with
        | notJson unread =>
            rw [read] at unread
            cases unread
        | notAnObject read' other =>
            rw [read] at read'
            cases read'
            exact .inl other
        | emptyName read' listed =>
            rw [read] at read'
            cases read'
            exact .inr ⟨_, _, rfl, listed⟩

/-! ### Commands -/

namespace Invocation

def textOn (invocation : Invocation) (surroundings : Surroundings) (c : Compilation) :
    Except Failure String :=
  match invocation.command with
  | .emit => (c.rules.render invocation.format).mapError Failure.unwritableRules
  | .check =>
    ((Summary.ofCompilation surroundings.patternFault c).mapError Failure.noFingerprint).map
      (·.render invocation.format)
  | .simulate job maxCycles => (readJob surroundings.files job).map fun ad =>
    (c.rules.run maxCycles ad).1.render invocation.format (c.rules.run maxCycles ad).2

theorem runOn_eq (invocation : Invocation) (surroundings : Surroundings) (c : Compilation) :
    invocation.runOn surroundings c = Output.ofText (invocation.textOn surroundings c) := by
  rw [runOn, textOn]
  cases invocation.command with
  | emit =>
      simp only [RuleSet.emit]
      cases c.rules.render invocation.format <;> rfl
  | check => cases Summary.ofCompilation surroundings.patternFault c <;> rfl
  | simulate job maxCycles =>
      dsimp only
      cases readJob surroundings.files job <;> rfl

theorem run_eq {invocation : Invocation} {location : String}
    (located : invocation.location? = some location) (surroundings : Surroundings) :
    invocation.run surroundings = Output.ofText
      (readPolicy surroundings invocation.fetchTimeoutSecs location >>= fun policy =>
        invocation.textOn surroundings (policy.compile invocation.options)) := by
  simp only [run, located, runOn_eq]
  exact Output.ofExcept_bind_ofText _ _

/-- A compiled policy can be written and summarized, so only a dry run can fail on it. -/
theorem textOn_eq_error_iff (invocation : Invocation) (surroundings : Surroundings) (p : Policy)
    (options : CompileOptions) :
    (∃ failure, invocation.textOn surroundings (p.compile options) = .error failure) ↔
      ∃ job maxCycles failure, invocation.command = .simulate job maxCycles ∧
        readJob surroundings.files job = .error failure := by
  have valid := p.validate_compile options
  rw [textOn]
  cases invocation.command with
  | emit => simp [RuleSet.render_of_validate valid, Except.mapError]
  | check =>
      simp [Summary.ofCompilation, RuleSet.fingerprint_of_validate valid, Except.mapError,
        Except.map]
  | simulate job maxCycles =>
      dsimp only
      cases read : readJob surroundings.files job <;> simp [Except.map, read]

/-! ### All or nothing -/

variable {invocation : Invocation} {surroundings : Surroundings} {text : String} {policy : Policy}

/-- The policy that is named lies in a file that can be read, or a server gives it; this is its
text. -/
inductive PolicyText (invocation : Invocation) (surroundings : Surroundings) (text : String) :
    Prop where
  | file {location path : String} (located : invocation.location? = some location)
      (isFile : PolicyLocation.ofString? location = .ok (.file path))
      (found : surroundings.files path = .ok text)
  | server {location url : String} {response : Response}
      (located : invocation.location? = some location)
      (isServer : PolicyLocation.ofString? location = .ok (.http url))
      (answered : surroundings.servers url invocation.fetchTimeoutSecs = .ok response)
      (success : response.isSuccess = true) (complete : response.body = .ok text)

theorem PolicyText.exists_place (readable : invocation.PolicyText surroundings text) :
    ∃ location place, invocation.location? = some location ∧
      PolicyLocation.ofString? location = .ok place ∧
        place.fetch surroundings invocation.fetchTimeoutSecs = .ok text := by
  cases readable with
  | file located isFile found =>
      refine ⟨_, _, located, isFile, ?_⟩
      simp [PolicyLocation.fetch, found, Except.mapError]
  | server located isServer answered success complete =>
      refine ⟨_, _, located, isServer, ?_⟩
      simp [PolicyLocation.fetch, fetchFrom, answered, success, complete, Except.mapError, bind,
        Except.bind]

theorem PolicyText.run_eq (readable : invocation.PolicyText surroundings text) : ∃ place,
    invocation.run surroundings = Output.ofText
      ((Policy.read? text).mapError (Failure.invalidPolicy place) >>= fun policy =>
        invocation.textOn surroundings (policy.compile invocation.options)) := by
  obtain ⟨location, place, located, placed, found⟩ := readable.exists_place
  have read : readPolicy surroundings invocation.fetchTimeoutSecs location =
      (Policy.read? text).mapError (Failure.invalidPolicy place) := by
    simp [readPolicy, placed, found, Except.mapError, bind, Except.bind]
  exact ⟨place, by rw [Invocation.run_eq located, read]⟩

/-- On a policy that is read, a command writes its text as a whole, or fails. -/
theorem PolicyText.collect_run (readable : invocation.PolicyText surroundings text)
    (read : Policy.read? text = .ok policy) {written : String}
    (computed : invocation.textOn surroundings (policy.compile invocation.options) = .ok written) :
    (invocation.run surroundings).collect = (.ok (), written) := by
  obtain ⟨place, run⟩ := readable.run_eq
  rw [run, Output.collect_ofText, read]
  simp [Except.mapError, bind, Except.bind, computed]

theorem PolicyText.fails_iff (readable : invocation.PolicyText surroundings text) :
    (∃ failure, (invocation.run surroundings).collect.1 = .error failure) ↔
      (∃ e, Policy.read? text = .error e) ∨
        ∃ policy failure, Policy.read? text = .ok policy ∧
          invocation.textOn surroundings (policy.compile invocation.options) = .error failure := by
  obtain ⟨place, run⟩ := readable.run_eq
  rw [run, Output.collect_ofText]
  cases Policy.read? text with
  | error e => simp [Except.mapError, bind, Except.bind]
  | ok policy =>
      cases written : invocation.textOn surroundings (policy.compile invocation.options) <;>
        simp [Except.mapError, bind, Except.bind, written]

/-- What a command writes, and when it fails. -/
structure AllOrNothing (invocation : Invocation) (surroundings : Surroundings) : Prop where
  nothing : (invocation.run surroundings).Atomic
  /-- Also on a policy from elsewhere. -/
  nothingOn (policy : Policy) :
    (invocation.runOn surroundings (policy.compile invocation.options)).Atomic
  /-- The rules of each policy can be written and summarized, and exactly that is written. -/
  written {text : String} {policy : Policy} (readable : invocation.PolicyText surroundings text)
    (read : Policy.read? text = .ok policy)
    (command : invocation.command = .emit ∨ invocation.command = .check) :
    ∃ output, invocation.textOn surroundings (policy.compile invocation.options) = .ok output ∧
      (invocation.run surroundings).collect = (.ok (), output)
  /-- A dry run fails on what is no policy and on what is no job, and on nothing else. -/
  simulated {job text jobText : String} {maxCycles : Nat}
    (command : invocation.command = .simulate job maxCycles)
    (readable : invocation.PolicyText surroundings text)
    (found : surroundings.files job = .ok jobText) :
    (∃ failure, (invocation.run surroundings).collect.1 = .error failure) ↔
      (∃ e, Policy.read? text = .error e) ∨ NoJob jobText
  /-- A dry run of a job writes exactly what it has found. -/
  reported {job text : String} {policy : Policy} {ad : JobAd} {maxCycles : Nat}
    (command : invocation.command = .simulate job maxCycles)
    (readable : invocation.PolicyText surroundings text)
    (read : Policy.read? text = .ok policy) (found : readJob surroundings.files job = .ok ad) :
    (invocation.run surroundings).collect = (.ok (),
      ((policy.compile invocation.options).rules.run maxCycles ad).1.render invocation.format
        ((policy.compile invocation.options).rules.run maxCycles ad).2)

theorem runOn_atomic (invocation : Invocation) (surroundings : Surroundings) (c : Compilation) :
    (invocation.runOn surroundings c).Atomic := by
  rw [runOn_eq]
  exact Output.atomic_ofText _

theorem run_atomic (invocation : Invocation) (surroundings : Surroundings) :
    (invocation.run surroundings).Atomic := by
  cases located : invocation.location? with
  | none =>
      intro before failure after ran
      simp only [run, located] at ran
      cases ran
  | some location =>
      rw [run_eq located]
      exact Output.atomic_ofText _

theorem PolicyText.succeeds (readable : invocation.PolicyText surroundings text)
    (read : Policy.read? text = .ok policy)
    (command : invocation.command = .emit ∨ invocation.command = .check) :
    ∃ output, invocation.textOn surroundings (policy.compile invocation.options) = .ok output ∧
      (invocation.run surroundings).collect = (.ok (), output) := by
  cases computed : invocation.textOn surroundings (policy.compile invocation.options) with
  | ok output => exact ⟨output, rfl, readable.collect_run read computed⟩
  | error failure =>
      obtain ⟨job, maxCycles, -, simulated, -⟩ :=
        (invocation.textOn_eq_error_iff surroundings policy invocation.options).1
          ⟨failure, computed⟩
      rcases command with command | command <;> rw [command] at simulated <;> cases simulated

theorem PolicyText.simulation_fails_iff {job jobText : String} {maxCycles : Nat}
    (command : invocation.command = .simulate job maxCycles)
    (readable : invocation.PolicyText surroundings text)
    (found : surroundings.files job = .ok jobText) :
    (∃ failure, (invocation.run surroundings).collect.1 = .error failure) ↔
      (∃ e, Policy.read? text = .error e) ∨ NoJob jobText := by
  have onPolicy (policy : Policy) :
      (∃ failure,
        invocation.textOn surroundings (policy.compile invocation.options) = .error failure) ↔
          NoJob jobText := by
    rw [textOn_eq_error_iff, command, ← readJob_eq_error_iff found]
    constructor
    · rintro ⟨_, _, failure, same, failed⟩
      cases same
      exact ⟨failure, failed⟩
    · rintro ⟨failure, failed⟩
      exact ⟨job, maxCycles, failure, rfl, failed⟩
  rw [readable.fails_iff]
  cases Policy.read? text with
  | error e => simp
  | ok policy => simpa using onPolicy policy

theorem PolicyText.simulation_reports {job : String} {ad : JobAd} {maxCycles : Nat}
    (command : invocation.command = .simulate job maxCycles)
    (readable : invocation.PolicyText surroundings text)
    (read : Policy.read? text = .ok policy) (found : readJob surroundings.files job = .ok ad) :
    (invocation.run surroundings).collect = (.ok (),
      ((policy.compile invocation.options).rules.run maxCycles ad).1.render invocation.format
        ((policy.compile invocation.options).rules.run maxCycles ad).2) := by
  apply readable.collect_run read
  simp [textOn, command, found, Except.map]

theorem allOrNothing (invocation : Invocation) (surroundings : Surroundings) :
    invocation.AllOrNothing surroundings where
  nothing := invocation.run_atomic surroundings
  nothingOn _ := invocation.runOn_atomic surroundings _
  written := PolicyText.succeeds
  simulated := PolicyText.simulation_fails_iff
  reported := PolicyText.simulation_reports

/-- A dry run fails on a job with an unnamed attribute, also where the policy asks for nothing. -/
example :
    ((ofSettings { Settings.empty with policy := some "http://policy" } (.simulate "job" 4)).run
      ⟨fun _ => .ok "\x7b\"\": 1\x7d", fun _ _ => .ok ⟨200, .ok "\x7b\x7d"⟩,
        fun _ => ""⟩).collect.1.isOk = false := by
  decide +kernel

end Invocation

end RoutingPolicy

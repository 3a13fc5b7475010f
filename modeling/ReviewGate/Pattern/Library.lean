import ReviewGate.Data.Cause
import ReviewGate.Pattern.Rule

/-!
# Pattern libraries

A library is a version and its rules in the order in which they came.  Each successful change makes
the next version; nothing is removed, and a rule that is switched off stays off.
-/

namespace ReviewGate

inductive LibraryError where
  | invalidMatcher (ruleId : String) (cause : MatcherError)
  | duplicateRule (ruleId : String)
  | unknownRule (ruleId : String)
  /-- A candidate matches code known to be good. -/
  | containment (ruleId : String) (sample : Nat)
  | unknownReview (reviewId : String)
  deriving DecidableEq, Repr

namespace LibraryError

def code : LibraryError → String
  | .invalidMatcher _ cause => "InvalidMatcher." ++ cause.code
  | .duplicateRule _ => "DuplicateRule"
  | .unknownRule _ => "UnknownRule"
  | .containment .. => "ContainmentViolation"
  | .unknownReview _ => "UnknownReview"

def message : LibraryError → String
  | .invalidMatcher ruleId cause => "Invalid matcher for rule " ++ ruleId ++ ": " ++ cause.message
  | .duplicateRule ruleId => "Rule already exists: " ++ ruleId
  | .unknownRule ruleId => "Unknown rule: " ++ ruleId
  | .containment ruleId sample =>
      "Rule " ++ ruleId ++ " matches known-good sample #" ++ toString sample
  | .unknownReview reviewId => "Unknown review item: " ++ reviewId

instance : Cause LibraryError := ⟨code, message⟩

end LibraryError

/-- A rule with its compiled matcher. -/
structure CompiledRule where
  rule : Rule
  matcher : CompiledMatcher
  compiled : rule.matcher.compile = .ok matcher

namespace CompiledRule

def ofRule (rule : Rule) : Except LibraryError CompiledRule :=
  match found : rule.matcher.compile with
  | .ok matcher => .ok ⟨rule, matcher, found⟩
  | .error cause => .error (.invalidMatcher rule.id cause)

/-- The rule switched off, with the successor it is said to have. -/
def deactivate (entry : CompiledRule) (successor : Option String) : CompiledRule :=
  ⟨{ entry.rule with active := false, supersededBy := successor }, entry.matcher, entry.compiled⟩

@[simp]
theorem rule_deactivate (entry : CompiledRule) (successor : Option String) :
    (entry.deactivate successor).rule =
      { entry.rule with active := false, supersededBy := successor } := rfl

theorem rule_of_ofRule {rule : Rule} {entry : CompiledRule} (made : ofRule rule = .ok entry) :
    entry.rule = rule := by
  unfold ofRule at made
  split at made
  · injection made with same
    rw [← same]
  · contradiction

end CompiledRule

structure Library where
  version : Nat
  rules : List CompiledRule

namespace Library

/-- No rules, at version 0. -/
def empty : Library := ⟨0, []⟩

def active (library : Library) : List CompiledRule :=
  library.rules.filter fun entry => entry.rule.active

def get? (library : Library) (ruleId : String) : Option Rule :=
  (library.rules.find? fun entry => entry.rule.id == ruleId).map CompiledRule.rule

/-- The first active rule with exactly this matcher. -/
def findByMatcher? (library : Library) (matcher : Matcher) : Option Rule :=
  (library.active.find? fun entry => entry.rule.matcher == matcher).map CompiledRule.rule

/-- Rules at version 1; the ids have to be distinct. -/
def ofRules (rules : List Rule) : Except LibraryError Library := do
  let entries ← rules.foldlM add []
  return ⟨1, entries⟩
where
  add (entries : List CompiledRule) (rule : Rule) : Except LibraryError (List CompiledRule) :=
    if entries.any fun entry => entry.rule.id == rule.id then .error (.duplicateRule rule.id)
    else do
      let entry ← CompiledRule.ofRule { rule with version := 1 }
      return entries ++ [entry]

/-- Adds a rule and tells the next version, at which it comes. -/
def insertInPlace (library : Library) (rule : Rule) : Except LibraryError Nat × Library :=
  if (library.get? rule.id).isSome then (.error (.duplicateRule rule.id), library)
  else
    let version := library.version + 1
    match CompiledRule.ofRule { rule with version } with
    | .error cause => (.error cause, library)
    | .ok entry => (.ok version, ⟨version, library.rules ++ [entry]⟩)

/-- The library with one more rule, at the next version. -/
def insert (library : Library) (rule : Rule) : Except LibraryError Library :=
  Prod.snd <$> together (library.insertInPlace rule)

/-- Switches off the rules of an id. -/
def switchOff (ruleId : String) (successor : Option String) (entries : List CompiledRule) :
    List CompiledRule :=
  entries.map fun entry =>
    if entry.rule.id = ruleId then entry.deactivate successor else entry

/-- Switches a rule off and tells it as it is then. -/
def deactivateInPlace (library : Library) (ruleId : String) (successor : Option String) :
    Except LibraryError Rule × Library :=
  match library.get? ruleId with
  | none => (.error (.unknownRule ruleId), library)
  | some rule =>
      (.ok { rule with active := false, supersededBy := successor },
        ⟨library.version + 1, switchOff ruleId successor library.rules⟩)

/-- The library with a rule switched off, and the rule as it is then. -/
def deactivate (library : Library) (ruleId : String) (successor : Option String) :
    Except LibraryError (Rule × Library) :=
  together (library.deactivateInPlace ruleId successor)

/-- Switches a rule off and adds its replacement, in one version, and tells that version. -/
def supersedeInPlace (library : Library) (ruleId : String) (replacement : Rule) :
    Except LibraryError Nat × Library :=
  if (library.get? ruleId).isNone then (.error (.unknownRule ruleId), library)
  else if (library.get? replacement.id).isSome then
    (.error (.duplicateRule replacement.id), library)
  else
    let version := library.version + 1
    match CompiledRule.ofRule { replacement with version } with
    | .error cause => (.error cause, library)
    | .ok entry =>
        (.ok version, ⟨version, switchOff ruleId (some replacement.id) library.rules ++ [entry]⟩)

/-- The library with a rule switched off and its replacement added, in one version. -/
def supersede (library : Library) (ruleId : String) (replacement : Rule) :
    Except LibraryError Library :=
  Prod.snd <$> together (library.supersedeInPlace ruleId replacement)

@[simp]
theorem length_switchOff (ruleId : String) (successor : Option String)
    (entries : List CompiledRule) :
    (switchOff ruleId successor entries).length = entries.length := by
  simp [switchOff]

/-! ## Records -/

/-- The state of the library, with its rules in full or in short. -/
def toJson (full : Bool) (library : Library) : Json :=
  let row := fun entry : CompiledRule =>
    if full then entry.rule.toFullJson
    else .array [.string entry.rule.id, .bool entry.rule.active,
      Json.ofOption .string entry.rule.supersededBy, Json.ofNat entry.rule.version]
  Json.ofFields [("version", Json.ofNat library.version),
    ("len", Json.ofNat library.rules.length), ("empty", .bool library.rules.isEmpty),
    ("active", Json.ofNat library.active.length), ("rules", Json.ofList row library.rules)]

end Library

end ReviewGate

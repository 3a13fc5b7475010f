import ReviewGate.Pattern.Matcher
import ReviewGate.Time.Record

/-!
# Rules

A rule names what its matcher finds and how severe that is.  Rules are not edited once a library
holds them; only their activity and their successor change.
-/

namespace ReviewGate

/-- What kind of failure a rule was learned from. -/
inductive Trigger where
  | deepVerification
  | production
  deriving DecidableEq, Repr, Inhabited

instance : Named Trigger where
  all := [.deepVerification, .production]
  name
    | .deepVerification => "deep_verification"
    | .production => "production"

inductive Origin where
  | manual
  /-- Learned from a failure that a verdict reported. -/
  | synthesized (sourceVerdict : String) (trigger : Trigger)
  deriving DecidableEq, Repr, Inhabited

structure Rule where
  id : String
  name : String
  weakness : Weakness
  severity : Severity
  /-- A match rejects without any further tier. -/
  hardBlock : Bool
  matcher : Matcher
  description : String
  origin : Origin
  active : Bool
  /-- The rule that replaced this one. -/
  supersededBy : Option String
  /-- The version of the library that introduced the rule. -/
  version : Nat
  createdAt : Instant
  deriving DecidableEq, Repr

namespace Rule

def isSynthesized (rule : Rule) : Bool := rule.origin != .manual

/-- The verdict a rule was learned from. -/
def sourceVerdict (rule : Rule) : Option String :=
  match rule.origin with
  | .manual => none
  | .synthesized sourceVerdict _ => some sourceVerdict

end Rule

/-! ## Records -/

namespace Origin

def toJson : Origin → Json
  | .manual => Json.ofFields [("origin", .string "manual")]
  | .synthesized sourceVerdict trigger =>
      Json.ofFields [("origin", .string "synthesized"), ("source_verdict", .string sourceVerdict),
        ("trigger", Named.toJson trigger)]

def ofDocument? (document : Document) : Option Origin := do
  let (kind, rest) ← document.toVariant? "origin"
  if kind = "manual" then pure .manual
  else if kind = "synthesized" then
    let fields ← rest.toRecord? ["source_verdict", "trigger"]
    let sourceVerdict ← Document.required fields "source_verdict" Document.toText?
    let trigger ← Document.required fields "trigger" Document.toNamed?
    pure (.synthesized sourceVerdict trigger)
  else none

end Origin

namespace Rule

def toJson (rule : Rule) : Json :=
  Json.ofFields [("id", .string rule.id), ("name", .string rule.name),
    ("category", Named.toJson rule.weakness), ("severity", Named.toJson rule.severity),
    ("hard_block", .bool rule.hardBlock), ("matcher", rule.matcher.toJson),
    ("description", .string rule.description), ("origin", rule.origin.toJson),
    ("active", .bool rule.active), ("superseded_by", Json.ofOption .string rule.supersededBy),
    ("version", Json.ofNat rule.version), ("created_at", rule.createdAt.toJson)]

/-- The record with what its origin says of it. -/
def toFullJson (rule : Rule) : Json :=
  match rule.toJson with
  | .object fields => Json.ofFields (fields ++
      [("synthesized", .bool rule.isSynthesized),
        ("source_verdict", Json.ofOption .string rule.sourceVerdict)])
  | other => other

/-- A rule that is added now.  An id, a kind, a severity and a matcher are enough. -/
def ofDocument? (now : Instant) (document : Document) : Option Rule := do
  let fields ← document.toRecord? ["id", "name", "category", "severity", "hard_block", "matcher",
    "description", "origin", "active", "superseded_by", "version"]
  let id ← Document.required fields "id" Document.toText?
  pure {
    id
    name := ← Document.withDefault fields "name" Document.toText? id
    weakness := ← Document.required fields "category" Document.toNamed?
    severity := ← Document.required fields "severity" Document.toNamed?
    hardBlock := ← Document.withDefault fields "hard_block" Document.toBool? false
    matcher := ← Document.required fields "matcher" Matcher.ofDocument?
    description := ← Document.withDefault fields "description" Document.toText? ""
    origin := ← Document.withDefault fields "origin" Origin.ofDocument? .manual
    active := ← Document.withDefault fields "active" Document.toBool? true
    supersededBy := ← Document.optional fields "superseded_by" Document.toText?
    version := ← Document.withDefault fields "version" Document.toNat? 0
    createdAt := now }

end Rule

end ReviewGate

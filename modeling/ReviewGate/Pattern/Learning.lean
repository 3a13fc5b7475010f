import ReviewGate.Ids
import ReviewGate.Pattern.Library

/-!
# Learning rules from failures

A failure names an offending line.  Its tokens are a shape that matches the line; as many of them
are left out as can be without the shape matching code known to be good.  If already the full shape
matches such code, the candidate waits for a human.

A proposal changes nothing.  Applying it publishes the rule or puts the candidate into the queue.
-/

namespace ReviewGate

structure LearningConfig where
  /-- So many known-good items are checked. -/
  sampleSize : Nat
  /-- Shapes keep at least this many tokens. -/
  minTokens : Nat
  severity : Severity
  /-- Whether learned rules block on their own. -/
  hardBlock : Bool
  deriving DecidableEq, Repr

namespace LearningConfig

def default : LearningConfig := ⟨50, 2, .high, false⟩

end LearningConfig

/-- Failing code and what was wrong with it; the line counts from 1. -/
structure Trace where
  fragment : String
  line : Option Nat
  weakness : Weakness
  description : String
  sourceVerdict : String
  trigger : Trigger
  deriving DecidableEq, Repr

namespace Trace

def ofViolation (fragment : String) (violation : Violation) (sourceVerdict : String)
    (trigger : Trigger) : Trace :=
  ⟨fragment, violation.line, violation.weakness, violation.description, sourceVerdict, trigger⟩

def hasSignificantToken (line : String) : Bool := (Token.ofLine line).any Token.isSignificant

/-- The line the trace points at, if it holds a significant token, and else the first line that
does. -/
def offendingLine? (trace : Trace) : Option String :=
  let lines := Text.lines trace.fragment
  let hinted := match trace.line with
    | some (index + 1) => (lines[index]?).filter hasSignificantToken
    | _ => none
  hinted.or (lines.find? hasSignificantToken)

end Trace

/-- A candidate that waits for a human. -/
structure ReviewItem where
  id : String
  candidate : Rule
  reason : String
  /-- Which known-good items the candidate matched. -/
  matchedSamples : List Nat
  queuedAt : Instant
  deriving DecidableEq, Repr

inductive Proposal where
  | activate (rule : Rule)
  | queue (item : ReviewItem)
  /-- An active rule has the same matcher. -/
  | duplicate (ruleId : String)
  deriving DecidableEq, Repr

inductive Learned where
  | activated (rule : Rule) (version : Nat)
  | queued (item : ReviewItem)
  | duplicate (ruleId : String)
  deriving DecidableEq, Repr

/-- The library with all that learning needs besides it. -/
structure Learner where
  config : LearningConfig
  library : Library
  knownGood : List String
  reviews : List ReviewItem

namespace Learner

def start (config : LearningConfig) (library : Library) : Learner := ⟨config, library, [], []⟩

def addKnownGood (learner : Learner) (sample : String) : Learner :=
  { learner with knownGood := learner.knownGood ++ [sample] }

/-- The known-good items that candidates are checked against. -/
def sample (learner : Learner) : List String :=
  learner.knownGood.take learner.config.sampleSize

/-- The positions of the items that a matcher matches. -/
def matchingSamples (matcher : CompiledMatcher) (sample : List String) : List Nat :=
  (sample.zipIdx).filterMap fun (item, index) =>
    if matcher.matchesSource item then some index else none

/-! ## Shrinking a shape -/

/-- The tokens that are kept. -/
def keptTokens (tokens : List String) (kept : List Bool) : List String :=
  (tokens.zip kept).filterMap fun (token, keep) => if keep then some token else none

/-- Whether a shape may stand: long enough, with a significant token, and silent on the sample. -/
def isViable (config : LearningConfig) (sample tokens : List String) : Bool :=
  decide (max config.minTokens 1 ≤ tokens.length) && tokens.any Token.isSignificant &&
    (matchingSamples (.shape (.sequence tokens)) sample).isEmpty

/-- Leaves out one more token if what is left may stand. -/
def dropToken (config : LearningConfig) (sample tokens : List String) (kept : List Bool)
    (index : Nat) : List Bool :=
  let fewer := kept.set index false
  if isViable config sample (keptTokens tokens fewer) then fewer else kept

/-- Positions in the order in which tokens are tried: grouping punctuation first, then names,
numbers and literals.  Operators are never tried. -/
def dropOrder (tokens : List String) : List Nat :=
  let positions := fun (test : String → Bool) =>
    (tokens.zipIdx).filterMap fun (token, index) => if test token then some index else none
  positions Token.isStructural ++ positions Token.isSignificant

/-- The tokens left after one pass. -/
def minimize (config : LearningConfig) (sample tokens : List String) : List String :=
  keptTokens tokens ((dropOrder tokens).foldl (dropToken config sample tokens)
    (List.replicate tokens.length true))

/-! ## Proposals -/

/-- The rule a trace yields. -/
def candidate (config : LearningConfig) (trace : Trace) (ruleId : String) (now : Instant)
    (tokens : List String) (active : Bool) : Rule where
  id := ruleId
  name := "Synthesized " ++ Named.name trace.weakness ++ " shape"
  weakness := trace.weakness
  severity := config.severity
  hardBlock := config.hardBlock
  matcher := Matcher.sequence tokens
  description := trace.description
  origin := .synthesized trace.sourceVerdict trace.trigger
  active := active
  supersededBy := none
  version := 0
  createdAt := now

/-- What a trace yields, under an id for the rule and one for its review. -/
def proposeAs (learner : Learner) (now : Instant) (ruleId reviewId : String) (trace : Trace) :
    Except LibraryError Proposal :=
  match trace.offendingLine? with
  | none => .error (.invalidMatcher ruleId .emptyShape)
  | some line =>
      let tokens := Token.ofLine line
      let matched := matchingSamples (.shape (.sequence tokens)) learner.sample
      if matched.isEmpty then
        let fewer := minimize learner.config learner.sample tokens
        match learner.library.findByMatcher? (Matcher.sequence fewer) with
        | some rule => .ok (.duplicate rule.id)
        | none => .ok (.activate (candidate learner.config trace ruleId now fewer true))
      else
        .ok (.queue ⟨reviewId, candidate learner.config trace ruleId now tokens false,
          "full shape matches known-good code", matched, now⟩)

/-- The id of a learned rule: what it is about, and a fresh end. -/
def ruleId (weakness : Weakness) (id : String) : String :=
  weakness.ruleStem ++ "-SYN-" ++ Ids.shortForm id

/-- What a trace yields, under fresh ids. -/
def propose (learner : Learner) (now : Instant) (ids : Ids) (trace : Trace) :
    Except LibraryError Proposal × Ids :=
  (learner.proposeAs now (ruleId trace.weakness ids.next) ids.advance.next trace,
    ids.advance.advance)

/-- Publishes a proposal.  A matcher that has become active since is not published again. -/
def applyInPlace (learner : Learner) (proposal : Proposal) :
    Except LibraryError Learned × Learner :=
  match proposal with
  | .activate rule =>
      match learner.library.findByMatcher? rule.matcher with
      | some existing => (.ok (.duplicate existing.id), learner)
      | none =>
          match learner.library.insertInPlace rule with
          | (.error cause, library) => (.error cause, { learner with library })
          | (.ok version, library) =>
              (.ok (.activated { rule with version } version), { learner with library })
  | .queue item => (.ok (.queued item), { learner with reviews := learner.reviews ++ [item] })
  | .duplicate ruleId => (.ok (.duplicate ruleId), learner)

def apply (learner : Learner) (proposal : Proposal) : Except LibraryError (Learned × Learner) :=
  together (learner.applyInPlace proposal)

/-- Proposes and applies at once. -/
def learnInPlace (learner : Learner) (now : Instant) (ids : Ids) (trace : Trace) :
    (Except LibraryError Learned × Learner) × Ids :=
  match learner.propose now ids trace with
  | (.error cause, ids) => ((.error cause, learner), ids)
  | (.ok proposal, ids) => (learner.applyInPlace proposal, ids)

def learn (learner : Learner) (now : Instant) (ids : Ids) (trace : Trace) :
    Except LibraryError (Learned × Learner) × Ids :=
  let (result, ids) := learner.learnInPlace now ids trace
  (together result, ids)

/-! ## Reviews -/

def review? (learner : Learner) (reviewId : String) : Except LibraryError ReviewItem :=
  match learner.reviews.find? fun item => item.id == reviewId with
  | some item => .ok item
  | none => .error (.unknownReview reviewId)

/-- The queue without the first item of an id. -/
def withoutReview (learner : Learner) (reviewId : String) : List ReviewItem :=
  learner.reviews.eraseP fun item => item.id == reviewId

/-- The rule an item would become, with a revised matcher if there is one. -/
def reviewedRule (item : ReviewItem) (revised : Option Matcher) : Rule :=
  { item.candidate with matcher := revised.getD item.candidate.matcher, active := true }

/-- Makes a queued candidate live.  It is checked against the sample once more; where that fails it
stays queued. -/
def activateReviewInPlace (learner : Learner) (reviewId : String) (revised : Option Matcher) :
    Except LibraryError Rule × Learner :=
  match learner.review? reviewId with
  | .error cause => (.error cause, learner)
  | .ok item =>
      let rule := reviewedRule item revised
      match CompiledRule.ofRule rule with
      | .error cause => (.error cause, learner)
      | .ok entry =>
          match matchingSamples entry.matcher learner.sample with
          | sample :: _ => (.error (.containment rule.id sample), learner)
          | [] =>
              match learner.library.insertInPlace rule with
              | (.error cause, library) => (.error cause, { learner with library })
              | (.ok version, library) =>
                  (.ok { rule with version },
                    { learner with library, reviews := learner.withoutReview reviewId })

def activateReview (learner : Learner) (reviewId : String) (revised : Option Matcher) :
    Except LibraryError (Rule × Learner) :=
  together (learner.activateReviewInPlace reviewId revised)

def discardReviewInPlace (learner : Learner) (reviewId : String) :
    Except LibraryError ReviewItem × Learner :=
  match learner.review? reviewId with
  | .error cause => (.error cause, learner)
  | .ok item => (.ok item, { learner with reviews := learner.withoutReview reviewId })

def discardReview (learner : Learner) (reviewId : String) :
    Except LibraryError (ReviewItem × Learner) :=
  together (learner.discardReviewInPlace reviewId)

end Learner

/-! ## Records -/

namespace Trace

def ofDocument? (document : Document) : Option Trace := do
  let fields ← document.toRecord? ["fragment", "line", "category", "description",
    "source_verdict", "trigger"]
  pure {
    fragment := ← Document.required fields "fragment" Document.toText?
    line := ← Document.optional fields "line" Document.toNat?
    weakness := ← Document.required fields "category" Document.toNamed?
    description := ← Document.required fields "description" Document.toText?
    sourceVerdict := ← Document.required fields "source_verdict" Document.toText?
    trigger := ← Document.required fields "trigger" Document.toNamed? }

end Trace

namespace ReviewItem

def toJson (item : ReviewItem) : Json :=
  Json.ofFields [("id", .string item.id), ("candidate", item.candidate.toJson),
    ("reason", .string item.reason),
    ("matched_samples", Json.ofList Json.ofNat item.matchedSamples), ("queued_at", item.queuedAt.toJson)]

end ReviewItem

def Proposal.toJson : Proposal → Json
  | .activate rule => Json.ofFields [("activate", rule.toFullJson)]
  | .queue item => Json.ofFields [("queue", item.toJson)]
  | .duplicate ruleId => Json.ofFields [("duplicate", .string ruleId)]

def Learned.toJson : Learned → Json
  | .activated rule version =>
      Json.ofFields [("activated", rule.toFullJson), ("version", Json.ofNat version)]
  | .queued item => Json.ofFields [("queued", item.toJson)]
  | .duplicate ruleId => Json.ofFields [("duplicate", .string ruleId)]

namespace LearningConfig

/-- The fields in the order in which a configuration file lists them. -/
def toJson (config : LearningConfig) : Json :=
  .object [("known_good_sample_size", Json.ofNat config.sampleSize),
    ("min_shape_tokens", Json.ofNat config.minTokens), ("severity", Named.toJson config.severity),
    ("hard_block", .bool config.hardBlock)]

def ofDocument? (document : Document) : Option LearningConfig := do
  let fields ← document.toRecord? ["known_good_sample_size", "min_shape_tokens", "severity",
    "hard_block"]
  pure {
    sampleSize :=
      ← Document.withDefault fields "known_good_sample_size" Document.toNat? default.sampleSize
    minTokens := ← Document.withDefault fields "min_shape_tokens" Document.toNat? default.minTokens
    severity := ← Document.withDefault fields "severity" Document.toNamed? default.severity
    hardBlock := ← Document.withDefault fields "hard_block" Document.toBool? default.hardBlock }

end LearningConfig

end ReviewGate

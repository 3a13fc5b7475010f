import ReviewGate.Data.Yaml.Printer
import ReviewGate.Gate.Rules
import ReviewGate.Main
import ReviewGate.Data.Json.Reader
import ReviewGate.Proofs.Data.Laws
import ReviewGate.Proofs.Trust.Ledger
import ReviewGate.Proofs.Trust.Chain
import ReviewGate.Proofs.Trust.Propagation
import ReviewGate.Proofs.Trust.Commitment
import ReviewGate.Proofs.Pattern.Proposal
import ReviewGate.Proofs.Pattern.Minimality
import ReviewGate.Proofs.Pattern.Workshop
import ReviewGate.Proofs.Pattern.Lasting
import ReviewGate.Proofs.Trust.Operation
import ReviewGate.Proofs.Trust.Policy
import ReviewGate.Proofs.Trust.Replay
import ReviewGate.Proofs.Trust.Change
import ReviewGate.Proofs.Trust.Range
import ReviewGate.Proofs.Number.Rounding
import ReviewGate.Proofs.Gate.Progress
import ReviewGate.Proofs.Gate.Course
import ReviewGate.Proofs.Gate.Scores
import ReviewGate.Proofs.Gate.System
import ReviewGate.Proofs.Gate.Schedule
import ReviewGate.Proofs.Gate.Audit
import ReviewGate.Proofs.Gate.Failure
import ReviewGate.Proofs.Pattern.Scan
import ReviewGate.Proofs.Gate.FailClosed
import ReviewGate.Proofs.Gate.Blocking
import ReviewGate.Proofs.Gate.Lessons
import ReviewGate.Proofs.Gate.Approval
import ReviewGate.Proofs.Gate.Records
import ReviewGate.Proofs.Pattern.Learning
import ReviewGate.Proofs.Number.Double
import ReviewGate.Proofs.Time.Calendar
import ReviewGate.Proofs.Time.Text
import ReviewGate.Proofs.Gate.Tiers
import ReviewGate.Proofs.Gate.Activation
import ReviewGate.Proofs.Gate.Rules
import ReviewGate.Proofs.Gate.CoolingOff
import ReviewGate.Proofs.Trust.DailyCap
import ReviewGate.Proofs.Trust.Keys
import ReviewGate.Proofs.Trust.Refusal
import ReviewGate.Proofs.Gate.Requests
import ReviewGate.Proofs.Gate.Agreement
import ReviewGate.Proofs.Number.Extended
import ReviewGate.Proofs.Number.Literal
import ReviewGate.Proofs.Contract.Interval
import ReviewGate.Proofs.Contract.Satisfiability
import ReviewGate.Proofs.Contract.Source
import ReviewGate.Proofs.Contract.Grammar
import ReviewGate.Proofs.Contract.Reading
import ReviewGate.Proofs.Contract.Rejection
import ReviewGate.Proofs.Gate.Trails
import ReviewGate.Proofs.Gate.Credits
import ReviewGate.Proofs.Trust.History
import ReviewGate.Proofs.Trust.Plan
import ReviewGate.Proofs.Trust.Isolation
import ReviewGate.Proofs.Trust.Enrollment
import ReviewGate.Proofs.Gate.Verdicts
import ReviewGate.Proofs.Pattern.Report
import ReviewGate.Proofs.Pattern.Lifecycle
import ReviewGate.Proofs.Trust.Fingerprints
import ReviewGate.Proofs.Trust.Inactivity
import ReviewGate.Proofs.Pattern.Joining
import ReviewGate.Proofs.Pattern.Queue
import ReviewGate.Proofs.Contract.Cutting
import ReviewGate.Proofs.Trust.Saturation
import ReviewGate.Proofs.Contract.Meaning
import ReviewGate.Proofs.Time.Elapsed
import ReviewGate.Proofs.Trust.Feasibility
import ReviewGate.Proofs.Trust.Service
import ReviewGate.Proofs.Trust.Polling
import ReviewGate.Proofs.Trust.Parts
import ReviewGate.Proofs.Trust.Windows
import ReviewGate.Proofs.Trust.Averages
import ReviewGate.Proofs.Trust.Restoration
import ReviewGate.Proofs.Pattern.Literals
import ReviewGate.Proofs.Pattern.Calls
import ReviewGate.Proofs.Gate.Warnings
import ReviewGate.Proofs.Gate.Succession
import ReviewGate.Proofs.Pattern.Spacing
import ReviewGate.Proofs.Pattern.Subsequence
import ReviewGate.Proofs.Number.Message
import ReviewGate.Proofs.Gate.Overtaking

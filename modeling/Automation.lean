import Automation.Action
import Automation.Audit
import Automation.CommandLine.Arguments
import Automation.CommandLine.Command
import Automation.CommandLine.Exit
import Automation.Condition.Basic
import Automation.Condition.Evaluation
import Automation.Config
import Automation.Context
import Automation.Cron.Basic
import Automation.Cron.Grammar
import Automation.Cron.Schedule
import Automation.Decode.Basic
import Automation.Decode.Error
import Automation.Decode.Plain
import Automation.Decode.Record
import Automation.Decode.Tree
import Automation.Duration
import Automation.Engine.Basic
import Automation.Engine.Dispatch
import Automation.Engine.FieldStep
import Automation.Engine.Lifecycle
import Automation.Engine.ListStep
import Automation.Engine.OutsideStep
import Automation.Engine.RecordStep
import Automation.Engine.Sequence
import Automation.Engine.Standard
import Automation.Execution
import Automation.Failure
import Automation.Files
import Automation.Http.Basic
import Automation.Json.Parser
import Automation.Json.Path
import Automation.Json.Printer
import Automation.Json.Value
import Automation.Json.View
import Automation.Main
import Automation.Number.Binary64
import Automation.Number.Literal
import Automation.Number.Shortest
import Automation.Program
import Automation.Proofs.Action
import Automation.Proofs.Condition.Containment
import Automation.Proofs.Condition.Equality
import Automation.Proofs.Condition.Fold
import Automation.Proofs.Condition.Integers
import Automation.Proofs.Condition.Order
import Automation.Proofs.Cron.Crontab
import Automation.Proofs.Cron.FireTimes
import Automation.Proofs.Cron.Reading
import Automation.Proofs.Cron.Search
import Automation.Proofs.Cron.Weekdays
import Automation.Proofs.Decode.Ensures
import Automation.Proofs.Decode.Reads
import Automation.Proofs.Engine.Addressing
import Automation.Proofs.Engine.Atomicity
import Automation.Proofs.Engine.Attempts
import Automation.Proofs.Engine.AuditMetadata
import Automation.Proofs.Engine.AuditTrail
import Automation.Proofs.Engine.Bookkeeping
import Automation.Proofs.Engine.BoundedWork
import Automation.Proofs.Engine.Calculations
import Automation.Proofs.Engine.Closing
import Automation.Proofs.Engine.ClosingOnce
import Automation.Proofs.Engine.Confinement
import Automation.Proofs.Engine.ContextFlow
import Automation.Proofs.Engine.Counting
import Automation.Proofs.Engine.DeliveryLogs
import Automation.Proofs.Engine.Dispatch
import Automation.Proofs.Engine.DueActions
import Automation.Proofs.Engine.FieldChange
import Automation.Proofs.Engine.FieldFold
import Automation.Proofs.Engine.FieldPlan
import Automation.Proofs.Engine.FieldRuns
import Automation.Proofs.Engine.Halting
import Automation.Proofs.Engine.Intent
import Automation.Proofs.Engine.Interpretation
import Automation.Proofs.Engine.ListIntegrity
import Automation.Proofs.Engine.LoopItems
import Automation.Proofs.Engine.LoopNesting
import Automation.Proofs.Engine.Membership
import Automation.Proofs.Engine.OwnRuns
import Automation.Proofs.Engine.Plan
import Automation.Proofs.Engine.Primitives
import Automation.Proofs.Engine.Raising
import Automation.Proofs.Engine.Reach
import Automation.Proofs.Engine.RecordWrites
import Automation.Proofs.Engine.SecretLogs
import Automation.Proofs.Engine.Serializable
import Automation.Proofs.Engine.SharedRun
import Automation.Proofs.Engine.SoundValidation
import Automation.Proofs.Engine.StatusOrder
import Automation.Proofs.Engine.StoredRun
import Automation.Proofs.Engine.UrlCredentials
import Automation.Proofs.Engine.Visits
import Automation.Proofs.Engine.WorkspaceIsolation
import Automation.Proofs.Engine.WrittenFields
import Automation.Proofs.Execution
import Automation.Proofs.Json.Canonical
import Automation.Proofs.Json.Members
import Automation.Proofs.Json.Path
import Automation.Proofs.Json.Sameness
import Automation.Proofs.Number.Rounding
import Automation.Proofs.Number.Whole
import Automation.Proofs.Program.Asks
import Automation.Proofs.Program.Contract
import Automation.Proofs.Program.Correspondence
import Automation.Proofs.Program.Interleaving
import Automation.Proofs.Program.Reliance
import Automation.Proofs.Program.Work
import Automation.Proofs.Redaction
import Automation.Proofs.Step.Command
import Automation.Proofs.Step.Error
import Automation.Proofs.Step.Position
import Automation.Proofs.Step.Preorder
import Automation.Proofs.Step.Spelling
import Automation.Proofs.Step.Stored
import Automation.Proofs.Store.Alike
import Automation.Proofs.Store.Answers
import Automation.Proofs.Store.Entries
import Automation.Proofs.Store.Footprint
import Automation.Proofs.Store.InsertionOrder
import Automation.Proofs.Store.Isolation
import Automation.Proofs.Store.LogKeeping
import Automation.Proofs.Store.Served
import Automation.Proofs.Store.Surroundings
import Automation.Proofs.Store.SystemFields
import Automation.Proofs.Store.Update
import Automation.Proofs.Template
import Automation.Proofs.Template.Paths
import Automation.Proofs.Template.Rendering
import Automation.Proofs.Text.Blank
import Automation.Proofs.Text.LowerCase
import Automation.Proofs.Text.Spelling
import Automation.Proofs.Time.Moments
import Automation.Proofs.Time.Rfc3339
import Automation.Proofs.Url.BlockedHosts
import Automation.Proofs.Url.Credentials
import Automation.Proofs.Url.Networks
import Automation.Proofs.Url.PlainDomains
import Automation.Proofs.Url.PublicAddresses
import Automation.Proofs.Url.Targets
import Automation.Proofs.Validation
import Automation.Proofs.Validation.WellFormed
import Automation.Proofs.Webhook.Protocol
import Automation.Proofs.Webhook.Twins
import Automation.RecordSearch
import Automation.Redaction
import Automation.Scheduler
import Automation.Settings
import Automation.Step.Basic
import Automation.Step.Command
import Automation.Step.Decoding
import Automation.Step.Error
import Automation.Store.Document
import Automation.Store.Memory
import Automation.Store.Operation
import Automation.Store.Seed
import Automation.Store.Table
import Automation.Store.Update
import Automation.Template
import Automation.Text.Blank
import Automation.Text.Case
import Automation.Text.CaseRuns
import Automation.Text.Composition
import Automation.Text.CompositionRows
import Automation.Text.HiddenRanges
import Automation.Text.Packed
import Automation.Text.Property
import Automation.Text.PropertyRows
import Automation.Text.Shown
import Automation.Text.Split
import Automation.Time.Instant
import Automation.Time.Rfc3339
import Automation.Tool.Basic
import Automation.Tool.Records
import Automation.Transform
import Automation.Trigger
import Automation.Url.Basic
import Automation.Url.Guard
import Automation.Url.Host
import Automation.Url.Idna.Domain
import Automation.Url.Idna.MappingRows
import Automation.Url.Ipv4
import Automation.Url.Ipv6
import Automation.Url.Parser
import Automation.Url.Percent
import Automation.Url.Punycode
import Automation.Validation
import Automation.Webhook.Auth
import Automation.Webhook.Basic
import Automation.Webhook.Delivery
import Automation.Webhook.Request
import Automation.Work
import Automation.Yaml.Cursor
import Automation.Yaml.Document
import Automation.Yaml.Label
import Automation.Yaml.Lexer
import Automation.Yaml.Scalar

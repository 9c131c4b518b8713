import ResilientCalls.Arguments
import ResilientCalls.Binary64
import ResilientCalls.Binary64.Shortest
import ResilientCalls.Breaker.Clock
import ResilientCalls.Breaker.Config
import ResilientCalls.Breaker.Guard
import ResilientCalls.Breaker.Registry
import ResilientCalls.Breaker.State
import ResilientCalls.Duration
import ResilientCalls.Duration.Setting
import ResilientCalls.Effect
import ResilientCalls.Failure
import ResilientCalls.Failure.Described
import ResilientCalls.Fault
import ResilientCalls.Fault.Loose
import ResilientCalls.Http.Exchange
import ResilientCalls.Http.Host
import ResilientCalls.Http.Host.Admitted
import ResilientCalls.Http.Host.Composition
import ResilientCalls.Http.Host.Direction
import ResilientCalls.Http.Host.Flaw
import ResilientCalls.Http.Host.Joining
import ResilientCalls.Http.Host.Label
import ResilientCalls.Http.Host.Lower
import ResilientCalls.Http.Host.Mark
import ResilientCalls.Http.Host.Punycode
import ResilientCalls.Http.Percent
import ResilientCalls.Http.Query
import ResilientCalls.Http.Status
import ResilientCalls.Http.Url
import ResilientCalls.Json.Compact
import ResilientCalls.Json.Dictionary
import ResilientCalls.Json.Equality
import ResilientCalls.Json.Items
import ResilientCalls.Json.Literal
import ResilientCalls.Json.Number
import ResilientCalls.Json.Numeral
import ResilientCalls.Json.Print
import ResilientCalls.Json.Reader
import ResilientCalls.Json.Refusal
import ResilientCalls.Json.Value
import ResilientCalls.Localization.Limits
import ResilientCalls.Localization.Model
import ResilientCalls.Localization.Prompt
import ResilientCalls.Localization.Service
import ResilientCalls.Log
import ResilientCalls.Metric
import ResilientCalls.Metric.Sink
import ResilientCalls.Number
import ResilientCalls.Provider
import ResilientCalls.Provider.Adapter
import ResilientCalls.Provider.Answer
import ResilientCalls.Provider.Call
import ResilientCalls.Retry.Engine
import ResilientCalls.Retry.Policy
import ResilientCalls.Schema
import ResilientCalls.Schema.Integer
import ResilientCalls.Service
import ResilientCalls.Service.Setup
import ResilientCalls.Settings
import ResilientCalls.Settings.Environment
import ResilientCalls.StringMap
import ResilientCalls.StringMap.Balance
import ResilientCalls.StringMap.Fence
import ResilientCalls.StringMap.Loose
import ResilientCalls.Summary.Extract
import ResilientCalls.Summary.Loose
import ResilientCalls.Summary.Model
import ResilientCalls.Summary.Prompt
import ResilientCalls.Summary.Service
import ResilientCalls.Text.Base64
import ResilientCalls.Text.Blank
import ResilientCalls.Text.CodePoint
import ResilientCalls.Text.Digit
import ResilientCalls.Text.Octets
import ResilientCalls.Text.Printable
import ResilientCalls.Text.Quoted
import ResilientCalls.Text.Written
import ResilientCalls.World
import ResilientCalls.Proofs.Effect
import ResilientCalls.Proofs.Observation
import ResilientCalls.Proofs.Breaker.Steps
import ResilientCalls.Proofs.Breaker.Session
import ResilientCalls.Proofs.Breaker.Slots
import ResilientCalls.Proofs.Breaker.Balance
import ResilientCalls.Proofs.Service.Motion
import ResilientCalls.Proofs.Service.Served
import ResilientCalls.Proofs.Service.Asking
import ResilientCalls.Proofs.Abreast
import ResilientCalls.Proofs.Outside
import ResilientCalls.Proofs.Service.Bracket
import ResilientCalls.Proofs.Breaker.Changes
import ResilientCalls.Proofs.Breaker.Allowance
import ResilientCalls.Proofs.Breaker.Shape
import ResilientCalls.Proofs.Breaker.Lateness
import ResilientCalls.Proofs.Breaker.Window
import ResilientCalls.Proofs.Breaker.Records
import ResilientCalls.Proofs.Breaker.Replay
import ResilientCalls.Proofs.Tally
import ResilientCalls.Proofs.Service.Budget
import ResilientCalls.Proofs.Service.Spending
import ResilientCalls.Proofs.Text
import ResilientCalls.Proofs.Sentences
import ResilientCalls.Proofs.Extract
import ResilientCalls.Proofs.Number
import ResilientCalls.Proofs.Retry.Schedule
import ResilientCalls.Proofs.Retry.Trace
import ResilientCalls.Proofs.Localization.Limits
import ResilientCalls.Proofs.Localization.Alignment
import ResilientCalls.Proofs.Json.Nesting
import ResilientCalls.Proofs.Json.Grammar
import ResilientCalls.Proofs.StringMap.Balance
import ResilientCalls.Proofs.StringMap.Passage
import ResilientCalls.Proofs.Json.Reading
import ResilientCalls.Proofs.StringMap.Candidates
import ResilientCalls.Proofs.StringMap.Recovery
import ResilientCalls.Proofs.Breaker.Streak
import ResilientCalls.Proofs.Service.Transparent
import ResilientCalls.Proofs.Service.Course
import ResilientCalls.Proofs.Localization.Untranslated
import ResilientCalls.Proofs.Account
import ResilientCalls.Proofs.Breaker.Desk
import ResilientCalls.Proofs.Breaker.Separation
import ResilientCalls.Proofs.Service.Setup
import ResilientCalls.Proofs.Json.Printing
import ResilientCalls.Proofs.Localization.Prompt
import ResilientCalls.Proofs.Sightings
import ResilientCalls.Proofs.Provider.Exchange
import ResilientCalls.Proofs.Provider.Growth
import ResilientCalls.Proofs.Provider.Answer
import ResilientCalls.Proofs.Provider.Reply
import ResilientCalls.Proofs.Service.History
import ResilientCalls.Proofs.Service.Retelling
import ResilientCalls.Proofs.Service.Conservation
import ResilientCalls.Proofs.Schema.Checks
import ResilientCalls.Proofs.Schema.Payload
import ResilientCalls.Proofs.Service.Rejection
import ResilientCalls.Proofs.Binary64
import ResilientCalls.Proofs.Duration
import ResilientCalls.Proofs.Breaker.Admission
import ResilientCalls.Proofs.Settings.Blanks

import ValidatorEjector.Library.Program
import ValidatorEjector.Library.Windows
import ValidatorEjector.Library.CachePolicy
import ValidatorEjector.Library.OrderedMap
import ValidatorEjector.Library.Stamped
import ValidatorEjector.Library.Replace
import ValidatorEjector.Library.Steps
import ValidatorEjector.Library.DoWhile
import ValidatorEjector.Library.Masking
import ValidatorEjector.Library.Packed
import ValidatorEjector.Library.Pool
import ValidatorEjector.Js.Text
import ValidatorEjector.Js.Replace
import ValidatorEjector.Js.Json
import ValidatorEjector.Js.Stringify
import ValidatorEjector.Js.Lexed
import ValidatorEjector.Js.Number
import ValidatorEjector.Js.Literal
import ValidatorEjector.Logger.Printer
import ValidatorEjector.Logger.Redaction
import ValidatorEjector.Logger.Masking
import ValidatorEjector.Validator
import ValidatorEjector.Validator.UrlList
import ValidatorEjector.Request.Errors
import ValidatorEjector.Request.Fallback
import ValidatorEjector.Ethers
import ValidatorEjector.Hex
import ValidatorEjector.ExecutionApi
import ValidatorEjector.ExecutionApi.Ranges
import ValidatorEjector.ConsensusApi
import ValidatorEjector.ExitLogs.Verifier
import ValidatorEjector.ExitLogs.Checks
import ValidatorEjector.Recorded
import ValidatorEjector.RecordedOracle
import ValidatorEjector.ExitLogs.Soundness
import ValidatorEjector.ExitLogs.Fetcher
import ValidatorEjector.Config.Service
import ValidatorEjector.Config.Secrets
import ValidatorEjector.Config.Scope
import ValidatorEjector.Config.Numbers
import ValidatorEjector.Config.WellFormed
import ValidatorEjector.ExitLogs.Binding
import ValidatorEjector.ExitLogs.Service
import ValidatorEjector.ExitLogs.Scans
import ValidatorEjector.ExitLogs.Flaky
import ValidatorEjector.ExitLogs.Transient
import ValidatorEjector.ExitLogs.Honest
import ValidatorEjector.ExitLogs.Transparency
import ValidatorEjector.ExitLogs.Completeness
import ValidatorEjector.ExitLogs.Delivery
import ValidatorEjector.ExitLogs.Allowlists
import ValidatorEjector.ExitLogs.Scopes
import ValidatorEjector.ExitLogs.Records
import ValidatorEjector.Messages.Storage
import ValidatorEjector.Messages.Dto
import ValidatorEjector.Outside
import ValidatorEjector.Messages.Processor
import ValidatorEjector.Messages.Frame
import ValidatorEjector.Messages.Rules
import ValidatorEjector.Messages.Table
import ValidatorEjector.Messages.Load
import ValidatorEjector.Messages.Shapes
import ValidatorEjector.Messages.Recorded
import ValidatorEjector.Messages.Isolation
import ValidatorEjector.Messages.Accounting
import ValidatorEjector.Messages.History
import ValidatorEjector.Messages.Pruning
import ValidatorEjector.Messages.Failure
import ValidatorEjector.Job.Processor
import ValidatorEjector.Job.Frame
import ValidatorEjector.Job.Events
import ValidatorEjector.Job.Acknowledgement
import ValidatorEjector.Job.ExitSafety
import ValidatorEjector.Job.Runner
import ValidatorEjector.ConsensusApi.Batches
import ValidatorEjector.Job.MessagesLeft
import ValidatorEjector.Consistency
import ValidatorEjector.S3Store
import ValidatorEjector.LocalFileReader
import ValidatorEjector.Messages.Erased
import ValidatorEjector.Messages.Encryptor
import ValidatorEjector.Webhook
import ValidatorEjector.Request.Wire
import ValidatorEjector.Request.Broadcast
import ValidatorEjector.ExecutionApi.Client
import ValidatorEjector.ConsensusApi.Client
import ValidatorEjector.Job.Quiet
import ValidatorEjector.Job.Dencun
import ValidatorEjector.ExitLogs.Frame
import ValidatorEjector.App.Module
import ValidatorEjector.App.Boot
import ValidatorEjector.App.Traffic
import ValidatorEjector.App.Posts
import ValidatorEjector.App.Authority

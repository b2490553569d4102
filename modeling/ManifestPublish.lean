import ManifestPublish.Binary64.Basic
import ManifestPublish.Binary64.Shortest
import ManifestPublish.CommandLine.Arguments
import ManifestPublish.CommandLine.Program
import ManifestPublish.CommandLine.Stop
import ManifestPublish.CommandLine.Usage
import ManifestPublish.Digest.Sha256
import ManifestPublish.File.Edit
import ManifestPublish.File.LocalFile
import ManifestPublish.File.Path
import ManifestPublish.File.Resolve
import ManifestPublish.File.SystemFault
import ManifestPublish.File.Tree
import ManifestPublish.Http.Fault
import ManifestPublish.Http.MediaType
import ManifestPublish.Http.Request
import ManifestPublish.Http.Session
import ManifestPublish.Http.Status
import ManifestPublish.Json.Fault
import ManifestPublish.Json.Lexeme
import ManifestPublish.Json.Number
import ManifestPublish.Json.Record
import ManifestPublish.Json.Skip
import ManifestPublish.Main
import ManifestPublish.Publish.Answer
import ManifestPublish.Publish.Error
import ManifestPublish.Publish.Exchange
import ManifestPublish.Publish.Run
import ManifestPublish.Publish.Service
import ManifestPublish.Publish.Stage
import ManifestPublish.Settings.Config
import ManifestPublish.Settings.Endpoints
import ManifestPublish.Settings.EnvFile.Line
import ManifestPublish.Settings.EnvFile.Load
import ManifestPublish.Settings.EnvFile.Value
import ManifestPublish.Settings.Environment
import ManifestPublish.Settings.Load
import ManifestPublish.Text.Base64
import ManifestPublish.Text.Blank
import ManifestPublish.Text.CharClass
import ManifestPublish.Text.Charset
import ManifestPublish.Text.Decimal
import ManifestPublish.Text.Hex
import ManifestPublish.Text.Quoted
import ManifestPublish.Text.Similarity
import ManifestPublish.Text.SingleByte
import ManifestPublish.Text.Utf16
import ManifestPublish.Text.Utf8
import ManifestPublish.Url.Basic
import ManifestPublish.Url.Domain
import ManifestPublish.Url.Host
import ManifestPublish.Url.Parser
import ManifestPublish.Url.Percent
import ManifestPublish.Proofs.CommandLine.Given
import ManifestPublish.Proofs.CommandLine.Interchange
import ManifestPublish.Proofs.CommandLine.Written
import ManifestPublish.Proofs.File.Beside
import ManifestPublish.Proofs.File.Grounded
import ManifestPublish.Proofs.File.Reading
import ManifestPublish.Proofs.File.Walk
import ManifestPublish.Proofs.Http.Alike
import ManifestPublish.Proofs.Http.ApiToken
import ManifestPublish.Proofs.Http.Encodings
import ManifestPublish.Proofs.Http.Exchange
import ManifestPublish.Proofs.Http.FactSheet
import ManifestPublish.Proofs.Http.FilePart
import ManifestPublish.Proofs.Http.Reception
import ManifestPublish.Proofs.Json.Grammar
import ManifestPublish.Proofs.Json.Members
import ManifestPublish.Proofs.Json.Numbers
import ManifestPublish.Proofs.Json.Readers
import ManifestPublish.Proofs.Json.Records
import ManifestPublish.Proofs.Json.Skip
import ManifestPublish.Proofs.Json.Strings
import ManifestPublish.Proofs.Program.EnvFile
import ManifestPublish.Proofs.Program.ExitCodes
import ManifestPublish.Proofs.Program.Secrecy
import ManifestPublish.Proofs.Publish.Answer
import ManifestPublish.Proofs.Run.Course
import ManifestPublish.Proofs.Run.Lockstep
import ManifestPublish.Proofs.Run.OverHttp
import ManifestPublish.Proofs.Run.Requests
import ManifestPublish.Proofs.Run.Scripted
import ManifestPublish.Proofs.Run.Stages
import ManifestPublish.Proofs.Settings.Addresses
import ManifestPublish.Proofs.Settings.BaseUrl
import ManifestPublish.Proofs.Settings.Complaint
import ManifestPublish.Proofs.Settings.EnvFile.Defaults
import ManifestPublish.Proofs.Settings.EnvFile.Lines
import ManifestPublish.Proofs.Settings.Resolution
import ManifestPublish.Proofs.Settings.Subdomain
import ManifestPublish.Proofs.Settings.TimeLimit
import ManifestPublish.Proofs.Settings.Workspace
import ManifestPublish.Proofs.Text.Base64
import ManifestPublish.Proofs.Text.Blank
import ManifestPublish.Proofs.Text.Charset
import ManifestPublish.Proofs.Text.Decimal
import ManifestPublish.Proofs.Text.Numeral
import ManifestPublish.Proofs.Text.Quoted
import ManifestPublish.Proofs.Text.Utf16
import ManifestPublish.Proofs.Text.Utf8
import ManifestPublish.Proofs.Url.Authority
import ManifestPublish.Proofs.Url.Behind
import ManifestPublish.Proofs.Url.Percent
import ManifestPublish.Proofs.Url.Segments
import ManifestPublish.Proofs.Url.Under

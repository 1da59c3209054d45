import ScriptVet.Analysis.Patterns
import ScriptVet.Analysis.Resources
import ScriptVet.Analysis.Structure
import ScriptVet.Analysis.Verdict
import ScriptVet.Failure
import ScriptVet.Fault
import ScriptVet.Form.Charset
import ScriptVet.Form.Fields
import ScriptVet.Form.Multipart
import ScriptVet.Form.Parameters
import ScriptVet.Form.UrlEncoded
import ScriptVet.Json.Bytes
import ScriptVet.Json.Plain
import ScriptVet.Json.Printer
import ScriptVet.Json.Reader
import ScriptVet.Json.Value
import ScriptVet.Limiter
import ScriptVet.Limits
import ScriptVet.Log.Clock
import ScriptVet.Log.Event
import ScriptVet.Log.Line
import ScriptVet.Log.Setup
import ScriptVet.Log.Template
import ScriptVet.Main
import ScriptVet.Number.Binary64
import ScriptVet.Number.FloatText
import ScriptVet.Number.Integer
import ScriptVet.Number.Literal
import ScriptVet.Number.Power
import ScriptVet.Number.Rounded
import ScriptVet.Number.Shortest
import ScriptVet.Regex.Basic
import ScriptVet.Regex.CharSet
import ScriptVet.Regex.Folding
import ScriptVet.Regex.Parser
import ScriptVet.Response
import ScriptVet.Rule.Category
import ScriptVet.Rule.Defaults
import ScriptVet.Rule.Registry
import ScriptVet.Rule.Scan
import ScriptVet.Script.Chars
import ScriptVet.Script.Cursor
import ScriptVet.Script.Escape
import ScriptVet.Script.Grammar.Basic
import ScriptVet.Script.Grammar.Brackets
import ScriptVet.Script.Grammar.Declaration
import ScriptVet.Script.Grammar.Expression
import ScriptVet.Script.Grammar.Functions
import ScriptVet.Script.Grammar.Markup
import ScriptVet.Script.Grammar.Modules
import ScriptVet.Script.Grammar.Name
import ScriptVet.Script.Grammar.Objects
import ScriptVet.Script.Grammar.Operand
import ScriptVet.Script.Grammar.Signature
import ScriptVet.Script.Grammar.Statement
import ScriptVet.Script.Grammar.Types
import ScriptVet.Script.Language
import ScriptVet.Script.Lexeme
import ScriptVet.Script.Parse
import ScriptVet.Script.Parsed
import ScriptVet.Script.Query
import ScriptVet.Script.Semicolon
import ScriptVet.Script.Tree
import ScriptVet.Service.Basis
import ScriptVet.Service.Builtin
import ScriptVet.Service.Checking
import ScriptVet.Service.ErrorCode
import ScriptVet.Service.Payload
import ScriptVet.Service.Request
import ScriptVet.Service.Route
import ScriptVet.Service.Startup
import ScriptVet.Service.Submission
import ScriptVet.Service.Tool
import ScriptVet.Settings.Environment
import ScriptVet.Settings.Field
import ScriptVet.Settings.Load
import ScriptVet.Specifier
import ScriptVet.Text
import ScriptVet.Text.Blank
import ScriptVet.Text.Case
import ScriptVet.Text.Decode
import ScriptVet.Text.Encode
import ScriptVet.Text.Printable
import ScriptVet.Text.Quoted
import ScriptVet.Text.Utf8
import ScriptVet.Url
import ScriptVet.Validator
import ScriptVet.Proofs.LimiterRuns
import ScriptVet.Proofs.Acceptance
import ScriptVet.Proofs.Agreement
import ScriptVet.Proofs.SlidingLog
import ScriptVet.Proofs.DefaultRules
import ScriptVet.Proofs.HexEscapes
import ScriptVet.Proofs.Obfuscation
import ScriptVet.Proofs.WindowBound
import ScriptVet.Proofs.ForeignModules
import ScriptVet.Proofs.JsonLimits
import ScriptVet.Proofs.Payloads
import ScriptVet.Proofs.ViolationList
import ScriptVet.Proofs.StructureResult
import ScriptVet.Proofs.Spellings
import ScriptVet.Proofs.ByteTexts
import ScriptVet.Proofs.MalformedBodies
import ScriptVet.Proofs.RetryAfter
import ScriptVet.Proofs.StoredWindows
import ScriptVet.Proofs.Padding
import ScriptVet.Proofs.DistinctFindings
import ScriptVet.Proofs.BodyReader
import ScriptVet.Proofs.RuleFailures
import ScriptVet.Proofs.CompactJson
import ScriptVet.Proofs.ScriptBodies
import ScriptVet.Proofs.AccessLog
import ScriptVet.Proofs.RouteOutcomes
import ScriptVet.Proofs.RegistryGroups
import ScriptVet.Proofs.Trying
import ScriptVet.Proofs.Occurrences
import ScriptVet.Proofs.InlineScripts
import ScriptVet.Proofs.Selections
import ScriptVet.Proofs.IntegerPrefix
import ScriptVet.Proofs.VusCeiling
import ScriptVet.Proofs.DocumentOrder
import ScriptVet.Proofs.AuditLog
import ScriptVet.Proofs.Lifecycle
import ScriptVet.Proofs.LogLines
import ScriptVet.Proofs.EscapeValues

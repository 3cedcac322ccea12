import OperatorConsole.CommandLine
import OperatorConsole.CommandTable
import OperatorConsole.CommandTable.Builtin
import OperatorConsole.CommandTable.Format
import OperatorConsole.CommandTable.Load
import OperatorConsole.Console
import OperatorConsole.Cookie.Basic
import OperatorConsole.Cookie.Date
import OperatorConsole.Cookie.Jar
import OperatorConsole.Cookie.SessionFile
import OperatorConsole.Cookie.SetCookie
import OperatorConsole.Files
import OperatorConsole.Http.Client
import OperatorConsole.Http.Form
import OperatorConsole.Http.MediaType
import OperatorConsole.Http.Message
import OperatorConsole.Http.Target
import OperatorConsole.Http.Wire
import OperatorConsole.Json.Fault
import OperatorConsole.Json.Reader
import OperatorConsole.Json.Scalar
import OperatorConsole.Json.Value
import OperatorConsole.LogFile
import OperatorConsole.Login
import OperatorConsole.Main
import OperatorConsole.Markup
import OperatorConsole.Numeric.Binary64
import OperatorConsole.Numeric.Shortest
import OperatorConsole.OrderedBy
import OperatorConsole.Remote.Action
import OperatorConsole.Remote.Address
import OperatorConsole.Remote.Call
import OperatorConsole.Remote.Client
import OperatorConsole.Remote.Failure
import OperatorConsole.Remote.Pool
import OperatorConsole.Remote.Reply
import OperatorConsole.Router
import OperatorConsole.Session
import OperatorConsole.Settings
import OperatorConsole.Startup
import OperatorConsole.Terminal.Frame
import OperatorConsole.Terminal.InputLine
import OperatorConsole.Terminal.Screen
import OperatorConsole.Text.Big5
import OperatorConsole.Text.Big5Data
import OperatorConsole.Text.Blank
import OperatorConsole.Text.CaseData
import OperatorConsole.Text.CharacterSet
import OperatorConsole.Text.Charset
import OperatorConsole.Text.CharsetData
import OperatorConsole.Text.Chinese
import OperatorConsole.Text.ChineseData
import OperatorConsole.Text.CodePoints
import OperatorConsole.Text.Compose
import OperatorConsole.Text.ComposeData
import OperatorConsole.Text.Decoder
import OperatorConsole.Text.Japanese
import OperatorConsole.Text.JapaneseData
import OperatorConsole.Text.Korean
import OperatorConsole.Text.KoreanData
import OperatorConsole.Text.Lowercase
import OperatorConsole.Text.Percent
import OperatorConsole.Text.PrintData
import OperatorConsole.Text.Quoted
import OperatorConsole.Text.Table
import OperatorConsole.Text.Utf8
import OperatorConsole.Transcript
import OperatorConsole.Url.Authority
import OperatorConsole.Url.Basic
import OperatorConsole.Url.Direction
import OperatorConsole.Url.DirectionData
import OperatorConsole.Url.Domain
import OperatorConsole.Url.DomainData
import OperatorConsole.Url.Encoding
import OperatorConsole.Url.Host
import OperatorConsole.Url.Ipv4
import OperatorConsole.Url.Ipv6
import OperatorConsole.Url.Joining
import OperatorConsole.Url.JoiningData
import OperatorConsole.Url.Path
import OperatorConsole.Url.Punycode
import OperatorConsole.Url.Reference
import OperatorConsole.Proofs.Pool.Accounts
import OperatorConsole.Proofs.Pool.Operations
import OperatorConsole.Proofs.Pool.Delivery
import OperatorConsole.Proofs.Text.Percent
import OperatorConsole.Proofs.Remote.Address
import OperatorConsole.Proofs.Console.Requests
import OperatorConsole.Proofs.Cookie.Scope
import OperatorConsole.Proofs.OrderedBy
import OperatorConsole.Proofs.Cookie.History
import OperatorConsole.Proofs.Console.Schedule
import OperatorConsole.Proofs.Cookie.Separation
import OperatorConsole.Proofs.Console.Blocks
import OperatorConsole.Proofs.Console.Superseding
import OperatorConsole.Proofs.Json.Reader
import OperatorConsole.Proofs.Except
import OperatorConsole.Proofs.Files
import OperatorConsole.Proofs.Cookie.Expiry
import OperatorConsole.Proofs.Cookie.SessionFile
import OperatorConsole.Proofs.Cookie.Restart
import OperatorConsole.Proofs.CommandTable.Accepted
import OperatorConsole.Proofs.Console.Leaving
import OperatorConsole.Proofs.Cookie.Forgetting
import OperatorConsole.Proofs.Console.Clearing
import OperatorConsole.Proofs.Pool.Sending
import OperatorConsole.Proofs.Console.Settled
import OperatorConsole.Proofs.Console.Ending
import OperatorConsole.Proofs.CommandTable.Written
import OperatorConsole.Proofs.Cookie.Origin
import OperatorConsole.Proofs.Http.Sending
import OperatorConsole.Proofs.Url.Literal
import OperatorConsole.Proofs.Remote.Client
import OperatorConsole.Proofs.Remote.Origins
import OperatorConsole.Proofs.Remote.Action
import OperatorConsole.Proofs.Text.Split
import OperatorConsole.Proofs.Markup.Scan
import OperatorConsole.Proofs.Markup.Lines
import OperatorConsole.Proofs.Login.StartUp
import OperatorConsole.Proofs.Terminal.Editor
import OperatorConsole.Proofs.Terminal.Loop
import OperatorConsole.Proofs.Console.Failing
import OperatorConsole.Proofs.Http.Target
import OperatorConsole.Proofs.Settings.BaseUrl
import OperatorConsole.Proofs.Terminal.Freshness
import OperatorConsole.Proofs.Terminal.Lines
import OperatorConsole.Proofs.Url.WellFormed
import OperatorConsole.Proofs.Transcript.Lines
import OperatorConsole.Proofs.Console.Echo
import OperatorConsole.Proofs.Cookie.Updates
import OperatorConsole.Proofs.Cookie.Restoring
import OperatorConsole.Proofs.Cookie.Lifetimes
import OperatorConsole.Proofs.Cookie.Reading
import OperatorConsole.Proofs.Cookie.Returning
import OperatorConsole.Proofs.Pool.Waiting
import OperatorConsole.Proofs.CommandTable.Verbs
import OperatorConsole.Proofs.CommandLine.Words
import OperatorConsole.Proofs.CommandTable.Topics
import OperatorConsole.Proofs.Json.Grammar
import OperatorConsole.Proofs.Json.Strings
import OperatorConsole.Proofs.Json.Skipping
import OperatorConsole.Proofs.Json.Nesting
import OperatorConsole.Proofs.Json.Containers
import OperatorConsole.Proofs.Remote.Reply
import OperatorConsole.Proofs.Settings.Variables
import OperatorConsole.Proofs.Terminal.Drawing
import OperatorConsole.Proofs.CommandTable.Flaws

import SignIn.Account
import SignIn.Account.Directory
import SignIn.Application
import SignIn.Base64
import SignIn.Bytes
import SignIn.Calendar
import SignIn.Channel
import SignIn.Clock
import SignIn.Database.Address
import SignIn.Database.Migration
import SignIn.Database.Repository
import SignIn.Database.Script
import SignIn.Database.Statement
import SignIn.Double
import SignIn.Double.Text
import SignIn.Error
import SignIn.Gateway
import SignIn.Hash.Argon2
import SignIn.Hash.Blake2b
import SignIn.Hash.Hmac
import SignIn.Hash.Sha2
import SignIn.Http
import SignIn.Json
import SignIn.Json.Buffer
import SignIn.Json.Double
import SignIn.Json.Printer
import SignIn.Json.Reader
import SignIn.Log
import SignIn.Log.Filter
import SignIn.Message
import SignIn.Passcode
import SignIn.Passcode.Store
import SignIn.Password
import SignIn.Password.Phc
import SignIn.Program
import SignIn.Proofs.Account.Directory
import SignIn.Proofs.Account.Repository
import SignIn.Proofs.Base64
import SignIn.Proofs.Clock
import SignIn.Proofs.Database.Conversation
import SignIn.Proofs.Database.Fidelity
import SignIn.Proofs.Database.Transcript
import SignIn.Proofs.Gateway.Request
import SignIn.Proofs.Gateway.Verdict
import SignIn.Proofs.Json.Grammar
import SignIn.Proofs.Json.Legible
import SignIn.Proofs.Json.Number
import SignIn.Proofs.Json.ReadBack
import SignIn.Proofs.Json.Record
import SignIn.Proofs.Json.Spelling
import SignIn.Proofs.Passcode.Store
import SignIn.Proofs.Password.Phc
import SignIn.Proofs.Password.Verify
import SignIn.Proofs.Service.Admission
import SignIn.Proofs.Service.Agreement
import SignIn.Proofs.Service.Asked
import SignIn.Proofs.Service.Chronicle
import SignIn.Proofs.Service.Codes
import SignIn.Proofs.Service.Contest
import SignIn.Proofs.Service.Device
import SignIn.Proofs.Service.Discretion
import SignIn.Proofs.Service.Effect
import SignIn.Proofs.Service.Endurance
import SignIn.Proofs.Service.Entitlement
import SignIn.Proofs.Service.Fault
import SignIn.Proofs.Service.History
import SignIn.Proofs.Service.Holdings
import SignIn.Proofs.Service.Honoured
import SignIn.Proofs.Service.Lineage
import SignIn.Proofs.Service.Newcomer
import SignIn.Proofs.Service.Notice
import SignIn.Proofs.Service.Outage
import SignIn.Proofs.Service.Outcomes.Accounts
import SignIn.Proofs.Service.Outcomes.Sessions
import SignIn.Proofs.Service.Overlap
import SignIn.Proofs.Service.Questions
import SignIn.Proofs.Service.Refusal
import SignIn.Proofs.Service.Run
import SignIn.Proofs.Service.Schema
import SignIn.Proofs.Service.Script
import SignIn.Proofs.Service.Sound
import SignIn.Proofs.Service.Spacing
import SignIn.Proofs.Service.Sweeping
import SignIn.Proofs.Service.Traffic
import SignIn.Proofs.Service.Whitelist
import SignIn.Proofs.Service.Winner
import SignIn.Proofs.Session.Index
import SignIn.Proofs.Session.Map
import SignIn.Proofs.Settings.Layers
import SignIn.Proofs.Settings.Places
import SignIn.Proofs.Settings.Reading
import SignIn.Proofs.Settings.Sources
import SignIn.Proofs.Settings.Variables
import SignIn.Proofs.Settings.Written
import SignIn.Proofs.Table
import SignIn.Proofs.Text.Blank
import SignIn.Proofs.Text.Decimal
import SignIn.Proofs.Text.Number
import SignIn.Proofs.Token.Genuine
import SignIn.Proofs.Token.Lifetime
import SignIn.Service
import SignIn.Service.Answers
import SignIn.Service.Query
import SignIn.Service.Rehearsal
import SignIn.Service.Sweeper
import SignIn.Service.World
import SignIn.Session
import SignIn.Session.Store
import SignIn.Settings
import SignIn.Settings.Conversion
import SignIn.Settings.Error
import SignIn.Settings.File
import SignIn.Settings.Loading
import SignIn.Settings.Path
import SignIn.Settings.Toml
import SignIn.Settings.Tree
import SignIn.Settings.VariableFile
import SignIn.Settings.Variables
import SignIn.Table
import SignIn.Text.Alphanumeric
import SignIn.Text.Blank
import SignIn.Text.Boundary
import SignIn.Text.Digits
import SignIn.Text.Hidden
import SignIn.Text.Padded
import SignIn.Text.Quoted
import SignIn.Text.Split
import SignIn.Token
import SignIn.Token.Claims
import SignIn.Token.Codec
import SignIn.Token.Fault
import SignIn.Token.Header
import SignIn.Url
import SignIn.Wire

import TransactionGateway.Act
import TransactionGateway.CommandLine.Arguments
import TransactionGateway.CommandLine.Help
import TransactionGateway.CommandLine.Program
import TransactionGateway.Database.Connection
import TransactionGateway.Database.Error
import TransactionGateway.Database.Fault
import TransactionGateway.Database.Statement
import TransactionGateway.Database.Transaction
import TransactionGateway.Decimal.Binary64
import TransactionGateway.Decimal.Numeral
import TransactionGateway.Decimal.Shortest
import TransactionGateway.Environment.Basic
import TransactionGateway.Environment.Definitions
import TransactionGateway.Environment.Line
import TransactionGateway.Files.ReadError
import TransactionGateway.Files.SystemError
import TransactionGateway.Files.Tree
import TransactionGateway.Gateway.Engine
import TransactionGateway.Gateway.Envelope
import TransactionGateway.Gateway.Error
import TransactionGateway.Gateway.Notice
import TransactionGateway.Gateway.Operation
import TransactionGateway.Gateway.Pool
import TransactionGateway.Gateway.Rehearsal
import TransactionGateway.Gateway.Run
import TransactionGateway.Gateway.Scope
import TransactionGateway.Gateway.Session
import TransactionGateway.Main
import TransactionGateway.Settings.Basic
import TransactionGateway.Settings.Document
import TransactionGateway.Settings.Error
import TransactionGateway.Settings.Lookup
import TransactionGateway.Settings.Printer
import TransactionGateway.Settings.Source
import TransactionGateway.Settings.Validation
import TransactionGateway.Text.Alphanumeric
import TransactionGateway.Text.Blank
import TransactionGateway.Text.Cut
import TransactionGateway.Text.Numeral
import TransactionGateway.Text.Octets
import TransactionGateway.Text.Quoted
import TransactionGateway.Text.Unseen
import TransactionGateway.Url.Redaction
import TransactionGateway.Yaml.Assembly
import TransactionGateway.Yaml.Character
import TransactionGateway.Yaml.Fault
import TransactionGateway.Yaml.Meaning
import TransactionGateway.Yaml.Node
import TransactionGateway.Yaml.Scalar.Block
import TransactionGateway.Yaml.Scalar.Gap
import TransactionGateway.Yaml.Scalar.Plain
import TransactionGateway.Yaml.Scalar.Printer
import TransactionGateway.Yaml.Scalar.Quoted
import TransactionGateway.Yaml.Scan
import TransactionGateway.Yaml.Tag
import TransactionGateway.Yaml.Token
import TransactionGateway.Proofs.Actions
import TransactionGateway.Proofs.Sending
import TransactionGateway.Proofs.Envelope
import TransactionGateway.Proofs.Transcripts
import TransactionGateway.Proofs.Waits
import TransactionGateway.Proofs.Upkeep
import TransactionGateway.Proofs.Sessions
import TransactionGateway.Proofs.Lives
import TransactionGateway.Proofs.AllOrNothing
import TransactionGateway.Proofs.Dialogues
import TransactionGateway.Proofs.SingleTransaction
import TransactionGateway.Proofs.Histories
import TransactionGateway.Proofs.NoLeak
import TransactionGateway.Proofs.Names
import TransactionGateway.Proofs.Books
import TransactionGateway.Proofs.Accounts
import TransactionGateway.Proofs.Traffic
import TransactionGateway.Proofs.Ledger
import TransactionGateway.Proofs.AtomicTrees
import TransactionGateway.Proofs.Store
import TransactionGateway.Proofs.Refinement
import TransactionGateway.Proofs.Items
import TransactionGateway.Proofs.Addresses
import TransactionGateway.Proofs.Building
import TransactionGateway.Proofs.Disclosure
import TransactionGateway.Proofs.Calm
import TransactionGateway.Proofs.Parallels
import TransactionGateway.Proofs.Reports
import TransactionGateway.Proofs.Teardown
import TransactionGateway.Proofs.Lines
import TransactionGateway.Proofs.Outline
import TransactionGateway.Proofs.Numerals
import TransactionGateway.Proofs.Spellings
import TransactionGateway.Proofs.Acceptance
import TransactionGateway.Proofs.Documents
import TransactionGateway.Proofs.Agreement
import TransactionGateway.Proofs.RoundTrip
import TransactionGateway.Proofs.Pending
import TransactionGateway.Proofs.Chronicles
import TransactionGateway.Proofs.Durability
import TransactionGateway.Proofs.Handback
import TransactionGateway.Proofs.Checkouts
import TransactionGateway.Proofs.Batches
import TransactionGateway.Proofs.Savepoints
import TransactionGateway.Proofs.Scripts
import TransactionGateway.Proofs.Exits
import TransactionGateway.Proofs.Shown
import TransactionGateway.Proofs.Precedence
import TransactionGateway.Proofs.Placeholders
import TransactionGateway.Proofs.Layout
import TransactionGateway.Proofs.Blocks
import TransactionGateway.Proofs.Contents
import TransactionGateway.Proofs.Rearrangement

import WalletLedger.AddressSet
import WalletLedger.Bundle.Basic
import WalletLedger.Bundle.ClientRecord
import WalletLedger.Bundle.Draft
import WalletLedger.CommandLine.Arguments
import WalletLedger.CommandLine.FileTree
import WalletLedger.CommandLine.Invocation
import WalletLedger.CommandLine.Session
import WalletLedger.Config.Basic
import WalletLedger.Config.Toml
import WalletLedger.Connection
import WalletLedger.DecimalAmount
import WalletLedger.DisconnectReason
import WalletLedger.FixedWidth
import WalletLedger.InputError
import WalletLedger.Json.Decode
import WalletLedger.Json.Reader
import WalletLedger.Json.Token
import WalletLedger.Json.Value
import WalletLedger.Json.Writer
import WalletLedger.Log.Directive
import WalletLedger.Log.Entry
import WalletLedger.Log.Filter
import WalletLedger.Log.Format
import WalletLedger.Log.Logged
import WalletLedger.Main
import WalletLedger.Manager.Balance
import WalletLedger.Manager.Basic
import WalletLedger.Manager.Error
import WalletLedger.Manager.Event
import WalletLedger.Manager.Lifecycle
import WalletLedger.Manager.Operation
import WalletLedger.Manager.Recovery
import WalletLedger.Network
import WalletLedger.Pattern.Atom
import WalletLedger.Pattern.Basic
import WalletLedger.Pattern.CharacterSet
import WalletLedger.Pattern.Flags
import WalletLedger.Pattern.Reader
import WalletLedger.Proofs.Amount.Grammar
import WalletLedger.Proofs.Amount.Reading
import WalletLedger.Proofs.Amount.Value
import WalletLedger.Proofs.Bundle.Built
import WalletLedger.Proofs.Bundle.Converted
import WalletLedger.Proofs.Bundle.Encoded
import WalletLedger.Proofs.Bundle.Faithful
import WalletLedger.Proofs.Bundle.Settings
import WalletLedger.Proofs.Bundle.Unplaced
import WalletLedger.Proofs.Json.Compact
import WalletLedger.Proofs.Json.Decode
import WalletLedger.Proofs.Json.RoundTrip
import WalletLedger.Proofs.Json.Token
import WalletLedger.Proofs.Ledger.Absorb
import WalletLedger.Proofs.Ledger.Distinct
import WalletLedger.Proofs.Ledger.Estranged
import WalletLedger.Proofs.Ledger.Holding
import WalletLedger.Proofs.Ledger.Keyed
import WalletLedger.Proofs.Ledger.SecondPass
import WalletLedger.Proofs.Ledger.Split
import WalletLedger.Proofs.Ledger.Sums
import WalletLedger.Proofs.Manager.Balance
import WalletLedger.Proofs.Manager.Control
import WalletLedger.Proofs.Manager.Deleted
import WalletLedger.Proofs.Manager.Finality
import WalletLedger.Proofs.Manager.History
import WalletLedger.Proofs.Manager.Journal
import WalletLedger.Proofs.Manager.Machine
import WalletLedger.Proofs.Manager.OneRecord
import WalletLedger.Proofs.Manager.Recognition
import WalletLedger.Proofs.Manager.Reconciliation
import WalletLedger.Proofs.Manager.Recovery
import WalletLedger.Proofs.Manager.Redelivery
import WalletLedger.Proofs.Manager.Refusal
import WalletLedger.Proofs.Manager.Replica
import WalletLedger.Proofs.Manager.Run
import WalletLedger.Proofs.Manager.SplitWallet
import WalletLedger.Proofs.Manager.Targets
import WalletLedger.Proofs.Manager.Totals
import WalletLedger.Proofs.Manager.Units
import WalletLedger.Proofs.Manager.WellFormed
import WalletLedger.Proofs.Report.Confirmations
import WalletLedger.Proofs.Report.Contents
import WalletLedger.Proofs.Report.Failure
import WalletLedger.Proofs.Report.Rejection
import WalletLedger.Proofs.Store.Memory
import WalletLedger.Proofs.Tag
import WalletLedger.Proofs.Text.Blank
import WalletLedger.Proofs.Text.Bytes
import WalletLedger.Proofs.Text.Run
import WalletLedger.Proofs.TextMap
import WalletLedger.Proofs.Toml.Document
import WalletLedger.Proofs.Toml.RoundTrip
import WalletLedger.Proofs.Toml.Text
import WalletLedger.Proofs.Toml.Value
import WalletLedger.Proofs.Transfer.Attributes
import WalletLedger.Proofs.Transfer.Failed
import WalletLedger.Proofs.Transfer.Merge
import WalletLedger.Proofs.Transfer.MergeAll
import WalletLedger.Proofs.Transfer.WellFormed
import WalletLedger.Report
import WalletLedger.Store.Basic
import WalletLedger.Store.Faulty
import WalletLedger.Store.Memory
import WalletLedger.Tag
import WalletLedger.Text.Alphabetic
import WalletLedger.Text.Alphanumeric
import WalletLedger.Text.Blank
import WalletLedger.Text.Combining
import WalletLedger.Text.Letters
import WalletLedger.Text.Magnitude
import WalletLedger.Text.Numeral
import WalletLedger.Text.Quoted
import WalletLedger.Text.Slice
import WalletLedger.Text.Unprintable
import WalletLedger.TextMap
import WalletLedger.Toml.Blank
import WalletLedger.Toml.Reader
import WalletLedger.Toml.Scalar
import WalletLedger.Toml.Table
import WalletLedger.Toml.Text
import WalletLedger.Toml.Value
import WalletLedger.Toml.Writer
import WalletLedger.Transfer.Direction
import WalletLedger.Transfer.Record
import WalletLedger.Transfer.State
import WalletLedger.TransferStatus

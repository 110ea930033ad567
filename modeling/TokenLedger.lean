import TokenLedger.Data.SortedMap
import TokenLedger.Text.Blank
import TokenLedger.Text.Lossy
import TokenLedger.Text.Quoted
import TokenLedger.Number.Shortest
import TokenLedger.Json.Writer
import TokenLedger.Json.Reader
import TokenLedger.Json.Record
import TokenLedger.Digest.Sha256
import TokenLedger.Ledger.Account
import TokenLedger.Wire.Field
import TokenLedger.Record.Format
import TokenLedger.Ledger.Holdings
import TokenLedger.Ledger.Registry
import TokenLedger.Request.Message
import TokenLedger.Engine.Basic
import TokenLedger.Engine.Comparison
import TokenLedger.Engine.Document
import TokenLedger.Disk.Basic
import TokenLedger.Toml.Value
import TokenLedger.Toml.Text
import TokenLedger.Toml.Number
import TokenLedger.Toml.Section
import TokenLedger.Toml.Reader
import TokenLedger.Settings.File
import TokenLedger.Journal.Basic
import TokenLedger.Snapshot.Folder
import TokenLedger.Session.Basic
import TokenLedger.Main
import TokenLedger.Proofs.Data.Bindings
import TokenLedger.Proofs.Store.View
import TokenLedger.Proofs.Json.Numbers
import TokenLedger.Proofs.Json.Spacing
import TokenLedger.Proofs.Json.Documents
import TokenLedger.Proofs.Wire.Fields
import TokenLedger.Proofs.Record.RoundTrip
import TokenLedger.Proofs.Data.Encoding
import TokenLedger.Proofs.Ledger.Book
import TokenLedger.Proofs.Engine.Steps
import TokenLedger.Proofs.Ledger.Posting
import TokenLedger.Proofs.Engine.Delivery
import TokenLedger.Proofs.Engine.Refinement
import TokenLedger.Proofs.Ledger.Loading
import TokenLedger.Proofs.Engine.Reachable
import TokenLedger.Proofs.Engine.Invariants
import TokenLedger.Proofs.Engine.Specification
import TokenLedger.Proofs.Engine.Conservation
import TokenLedger.Proofs.Engine.Bisimulation
import TokenLedger.Proofs.Request.Envelopes
import TokenLedger.Proofs.Request.Signing
import TokenLedger.Proofs.Disk.Folders
import TokenLedger.Proofs.Disk.Files
import TokenLedger.Proofs.Journal.Frames
import TokenLedger.Proofs.Journal.Appending
import TokenLedger.Proofs.Data.Ordering
import TokenLedger.Proofs.Json.Values
import TokenLedger.Proofs.Json.Records
import TokenLedger.Proofs.Json.Reordering
import TokenLedger.Proofs.Engine.Canonical
import TokenLedger.Proofs.Engine.Replay
import TokenLedger.Proofs.Session.Rebuilding
import TokenLedger.Proofs.Session.Recovery
import TokenLedger.Proofs.Disk.Names
import TokenLedger.Proofs.Snapshot.Files
import TokenLedger.Proofs.Session.Keeping
import TokenLedger.Proofs.Session.Durability
import TokenLedger.Proofs.Ledger.Footprint
import TokenLedger.Proofs.Session.Formats
import TokenLedger.Proofs.Engine.Evolution
import TokenLedger.Proofs.Engine.Authority
import TokenLedger.Proofs.Ledger.Independence
import TokenLedger.Proofs.Engine.Commutation
import TokenLedger.Proofs.Engine.Issuance
import TokenLedger.Proofs.Engine.Refusals
import TokenLedger.Proofs.Session.Failures
import TokenLedger.Proofs.Session.Lockstep
import TokenLedger.Proofs.Engine.Acceptance
import TokenLedger.Proofs.Engine.Sequencing
import TokenLedger.Proofs.Ledger.Solvency
import TokenLedger.Proofs.Engine.Solvency
import TokenLedger.Proofs.Engine.Exhaustion
import TokenLedger.Proofs.Session.Creation
import TokenLedger.Proofs.Session.Leftovers
import TokenLedger.Proofs.Store.Copies
import TokenLedger.Proofs.Engine.Reversal
import TokenLedger.Proofs.Journal.Acceptance
import TokenLedger.Proofs.Engine.Comparison
import TokenLedger.Proofs.Ledger.Revisions
import TokenLedger.Proofs.Request.Grammar
import TokenLedger.Proofs.Disk.Contents
import TokenLedger.Proofs.Snapshot.Saving
import TokenLedger.Proofs.Ledger.Numerals
import TokenLedger.Proofs.Engine.Differences
import TokenLedger.Proofs.Engine.Queries
import TokenLedger.Proofs.Engine.Denominations
import TokenLedger.Proofs.Engine.Proposals
import TokenLedger.Proofs.Ledger.Balances

import Termbase.Text.ByteLength
import Termbase.Text.Quoted
import Termbase.Number.Shortest
import Termbase.Json.Writer
import Termbase.Json.Fault
import Termbase.Json.Lexical
import Termbase.Json.Reader
import Termbase.Term.Json
import Termbase.Record.Encoding
import Termbase.Failure
import Termbase.Interning.TypeCodes
import Termbase.Interning.ForcedIds
import Termbase.Interning.Acquired
import Termbase.Settings.StoreSettings
import Termbase.Storage.Batch
import Termbase.Storage.Table
import Termbase.Storage.Links
import Termbase.Storage.Database
import Termbase.Storage.Action
import Termbase.Interning.RecordIds
import Termbase.Interning.Passes
import Termbase.Store
import Termbase.Cleanup
import Termbase.Store.Links
import Termbase.Store.Resolve
import Termbase.Lookup
import Termbase.Session.Step
import Termbase.Session
import Termbase.Number.Real
import Termbase.Settings.Scalar
import Termbase.Settings.Scan
import Termbase.Settings.Setting
import Termbase.Settings.Toml.Lexical
import Termbase.Settings.Toml.Moment
import Termbase.Settings.Toml.Number
import Termbase.Settings.Toml.Table
import Termbase.Settings.Toml
import Termbase.Settings.Json
import Termbase.Settings.Json5.Lexical
import Termbase.Settings.Json5.Number
import Termbase.Settings.Json5
import Termbase.Settings.Ron.Lexical
import Termbase.Settings.Ron.Number
import Termbase.Settings.Ron
import Termbase.Settings.Ini
import Termbase.Settings.Yaml.Cursor
import Termbase.Settings.Yaml.Folding
import Termbase.Settings.Yaml.Quoted
import Termbase.Settings.Yaml.Plain
import Termbase.Settings.Yaml.Block
import Termbase.Settings.Yaml.Tag
import Termbase.Settings.Yaml.Directive
import Termbase.Settings.Yaml.Token
import Termbase.Settings.Yaml.Layout
import Termbase.Settings.Yaml.Node
import Termbase.Settings.Yaml.Grammar
import Termbase.Settings.Yaml.Document
import Termbase.Settings.Yaml
import Termbase.Settings.Format
import Termbase.Settings.KeyPath
import Termbase.Settings.Layers
import Termbase.CommandLine.Arguments
import Termbase.CommandLine.Path
import Termbase.Results
import Termbase.Show
import Termbase.Storage.Snapshot
import Termbase.CommandLine.Content
import Termbase.CommandLine.Files
import Termbase.CommandLine.Address
import Termbase.CommandLine.SettingsFile
import Termbase.CommandLine.Opening
import Termbase.CommandLine
import Termbase.Main
import Termbase.Proofs.Lists
import Termbase.Proofs.Tables
import Termbase.Proofs.Encoding
import Termbase.Proofs.Acquiring
import Termbase.Proofs.Cleaning
import Termbase.Proofs.Integrity
import Termbase.Proofs.Facts
import Termbase.Proofs.Ledger
import Termbase.Proofs.Shaping
import Termbase.Proofs.Denoting
import Termbase.Proofs.Recording
import Termbase.Proofs.Forcing
import Termbase.Proofs.Interning
import Termbase.Proofs.Reconciling
import Termbase.Proofs.Accounting
import Termbase.Proofs.Histories
import Termbase.Proofs.Acquisition
import Termbase.Proofs.Sparing
import Termbase.Proofs.Tracking
import Termbase.Proofs.Refining
import Termbase.Proofs.Coding
import Termbase.Proofs.Refinement
import Termbase.Proofs.Constancy
import Termbase.Proofs.Yielding
import Termbase.Proofs.Anchoring
import Termbase.Proofs.Events
import Termbase.Proofs.Retrying
import Termbase.Proofs.Idempotence
import Termbase.Proofs.Agreement
import Termbase.Proofs.Sessions
import Termbase.Proofs.Playing
import Termbase.Proofs.Grounding
import Termbase.Proofs.Reclaiming
import Termbase.Proofs.Reading
import Termbase.Proofs.RoundTrip
import Termbase.Proofs.Sweeping
import Termbase.Proofs.Mirroring
import Termbase.Proofs.Buffering
import Termbase.Proofs.Prefetching
import Termbase.Proofs.Assigning
import Termbase.Proofs.Refusing
import Termbase.Proofs.Gaining
import Termbase.Proofs.Applying
import Termbase.Proofs.Resolving
import Termbase.Proofs.Registering
import Termbase.Proofs.Numerals
import Termbase.Proofs.Scanning
import Termbase.Proofs.Containers
import Termbase.Proofs.Serializing
import Termbase.Proofs.Spelling
import Termbase.Proofs.Truncating
import Termbase.Proofs.Fingerprinting
import Termbase.Proofs.Keying
import Termbase.Proofs.Showing
import Termbase.Proofs.Collating
import Termbase.Proofs.Editing

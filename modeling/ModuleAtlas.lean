import ModuleAtlas.Analysis.Pool
import ModuleAtlas.Main
import ModuleAtlas.Session.Operation
import ModuleAtlas.Service
import ModuleAtlas.Proofs.Disk.Place
import ModuleAtlas.Proofs.Discovery.Naming
import ModuleAtlas.Proofs.Discovery.Walk
import ModuleAtlas.Proofs.Discovery.Stopping
import ModuleAtlas.Proofs.Disk.Following
import ModuleAtlas.Proofs.Disk.Agreement
import ModuleAtlas.Proofs.Discovery.Exactness
import ModuleAtlas.Proofs.Analysis.Workers
import ModuleAtlas.Proofs.Analysis.Endings
import ModuleAtlas.Proofs.Analysis.Accounting
import ModuleAtlas.Proofs.Analysis.Cancellation
import ModuleAtlas.Proofs.Discovery.Change
import ModuleAtlas.Proofs.Analysis.Isolation
import ModuleAtlas.Proofs.Analysis.Ledger
import ModuleAtlas.Proofs.Analysis.Schedules
import ModuleAtlas.Proofs.Tree.Order
import ModuleAtlas.Proofs.Extract.Firsts
import ModuleAtlas.Proofs.Extract.Worklist
import ModuleAtlas.Proofs.Extract.Siblings
import ModuleAtlas.Proofs.Extract.Importing
import ModuleAtlas.Proofs.Extract.Exporting
import ModuleAtlas.Proofs.Text.Spelling
import ModuleAtlas.Proofs.Analysis.Uniqueness
import ModuleAtlas.Proofs.Json.RoundTrip
import ModuleAtlas.Proofs.Schema.Reading
import ModuleAtlas.Proofs.Record.Serialization
import ModuleAtlas.Proofs.Analysis.Faults
import ModuleAtlas.Proofs.Json.Characters
import ModuleAtlas.Proofs.Text.Utf8
import ModuleAtlas.Proofs.Interfaces.Configuration
import ModuleAtlas.Proofs.Interfaces.Agreement
import ModuleAtlas.Proofs.Analysis.Fatal
import ModuleAtlas.Proofs.Text.Storage
import ModuleAtlas.Proofs.Analysis.SingleFile
import ModuleAtlas.Proofs.Analysis.Logging
import ModuleAtlas.Proofs.Analysis.Decoding
import ModuleAtlas.Proofs.Tree.FirstFault
import ModuleAtlas.Proofs.Extract.Comments
import ModuleAtlas.Proofs.Discovery.Monotone
import ModuleAtlas.Proofs.Text.LowerCase
import ModuleAtlas.Proofs.Config.Extensions
import ModuleAtlas.Proofs.Config.Normalization
import ModuleAtlas.Proofs.Record.Spellings
import ModuleAtlas.Proofs.Report.Tally
import ModuleAtlas.Proofs.Report.Ranking
import ModuleAtlas.Proofs.Report.Contents
import ModuleAtlas.Proofs.Disk.Relative
import ModuleAtlas.Proofs.Discovery.RelativePaths
import ModuleAtlas.Proofs.Interfaces.CurrentHandler
import ModuleAtlas.Proofs.Interfaces.SettingsInForce

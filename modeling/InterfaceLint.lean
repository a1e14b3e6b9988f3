import InterfaceLint.Analysis
import InterfaceLint.CallSite
import InterfaceLint.CheckRun
import InterfaceLint.Command
import InterfaceLint.Decimal.Binary64
import InterfaceLint.Decimal.Shortest
import InterfaceLint.Declaration
import InterfaceLint.Disk
import InterfaceLint.Document
import InterfaceLint.Document.Edit
import InterfaceLint.ExitStatus
import InterfaceLint.Finding
import InterfaceLint.Glob
import InterfaceLint.Invocation
import InterfaceLint.Json.Container
import InterfaceLint.Json.Cursor
import InterfaceLint.Json.Decoder
import InterfaceLint.Json.Fault
import InterfaceLint.Json.Printer
import InterfaceLint.Json.Record
import InterfaceLint.Json.Scalar
import InterfaceLint.Json.Skip
import InterfaceLint.Json.Value
import InterfaceLint.Location
import InterfaceLint.Main
import InterfaceLint.Marker
import InterfaceLint.Markup
import InterfaceLint.Model
import InterfaceLint.ModelFile
import InterfaceLint.Notice
import InterfaceLint.Path
import InterfaceLint.Proofs.Analysis.Exactness
import InterfaceLint.Proofs.Analysis.MissingSymbols
import InterfaceLint.Proofs.Analysis.PostFilter
import InterfaceLint.Proofs.Analysis.Violation
import InterfaceLint.Proofs.CheckRun.Composition
import InterfaceLint.Proofs.CheckRun.ExitStatus
import InterfaceLint.Proofs.CheckRun.MissingPaths
import InterfaceLint.Proofs.CheckRun.Verbosity
import InterfaceLint.Proofs.Disk.Addition
import InterfaceLint.Proofs.Disk.Replacement
import InterfaceLint.Proofs.Disk.Resolution
import InterfaceLint.Proofs.Disk.Spelling
import InterfaceLint.Proofs.Disk.Tree
import InterfaceLint.Proofs.Finding.StableSort
import InterfaceLint.Proofs.Invocation.VerboseFlag
import InterfaceLint.Proofs.Json.Containers
import InterfaceLint.Proofs.Json.Decoding
import InterfaceLint.Proofs.Json.Layout
import InterfaceLint.Proofs.Json.Reading
import InterfaceLint.Proofs.Model.Index
import InterfaceLint.Proofs.ModelFile.Loading
import InterfaceLint.Proofs.Outcome
import InterfaceLint.Proofs.Path.Parents
import InterfaceLint.Proofs.Scan.Selection
import InterfaceLint.Proofs.Scan.Spelling
import InterfaceLint.Proofs.Scan.Walk
import InterfaceLint.Proofs.Settings.Discovery
import InterfaceLint.Proofs.Settings.Options
import InterfaceLint.Proofs.Setup.Neutrality
import InterfaceLint.Proofs.Wire.RoundTrip
import InterfaceLint.Report.Json
import InterfaceLint.Report.Text
import InterfaceLint.Rule
import InterfaceLint.Scan
import InterfaceLint.Settings
import InterfaceLint.Settings.Levels
import InterfaceLint.Settings.Lookup
import InterfaceLint.Setup
import InterfaceLint.Severity
import InterfaceLint.Symbol
import InterfaceLint.Template
import InterfaceLint.Text.Quoted
import InterfaceLint.Text.Ranges
import InterfaceLint.Text.Unprintable
import InterfaceLint.Text.Width
import InterfaceLint.Text.WidthTables
import InterfaceLint.Text.Word
import InterfaceLint.Wire.Document
import InterfaceLint.Wire.Settings
import InterfaceLint.Wire.Symbol
import InterfaceLint.Proofs.Analysis.Lookups
import InterfaceLint.Proofs.Model.Representation
import InterfaceLint.Proofs.Analysis.GeneratedCode
import InterfaceLint.Proofs.Finding.Ties
import InterfaceLint.Proofs.Analysis.DocumentOrder
import InterfaceLint.Proofs.Analysis.Locality
import InterfaceLint.Proofs.Settings.Spellings
import InterfaceLint.Proofs.Settings.Validation
import InterfaceLint.Proofs.Settings.Loading
import InterfaceLint.Proofs.Report.Agreement
import InterfaceLint.Proofs.Template.Substitution
import InterfaceLint.Proofs.Report.Colouring
import InterfaceLint.Proofs.Settings.Effect
import InterfaceLint.Proofs.Path.Stripping
import InterfaceLint.Proofs.Disk.Components
import InterfaceLint.Proofs.CheckRun.DisplayPaths
import InterfaceLint.Proofs.Report.Position

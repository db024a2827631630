import DebugIndex.Capability
import DebugIndex.CodeRange
import DebugIndex.CommandLine.Options
import DebugIndex.CommandLine.Run
import DebugIndex.CommandLine.Usage
import DebugIndex.CompilationUnit.Basic
import DebugIndex.CompilationUnit.Build
import DebugIndex.CompilationUnit.Extraction
import DebugIndex.CompilationUnit.SourceLines
import DebugIndex.Console
import DebugIndex.Database.Argument
import DebugIndex.Database.Ingest
import DebugIndex.Database.NameIndex
import DebugIndex.Database.Query
import DebugIndex.Database.QueryError
import DebugIndex.Entry.Basic
import DebugIndex.Entry.Tag
import DebugIndex.Executable
import DebugIndex.Failure
import DebugIndex.FileSystem
import DebugIndex.Leb128
import DebugIndex.LineRow
import DebugIndex.Main
import DebugIndex.Message.Basic
import DebugIndex.Message.Event
import DebugIndex.Message.Trace
import DebugIndex.Number.Binary64
import DebugIndex.Number.Reading
import DebugIndex.Number.Shortest
import DebugIndex.Proofs.CodeRange.Sorted
import DebugIndex.Proofs.CompilationUnit.AddressRange
import DebugIndex.Proofs.CompilationUnit.BuildFailures
import DebugIndex.Proofs.CompilationUnit.EntryNumbers
import DebugIndex.Proofs.CompilationUnit.EntryRelocation
import DebugIndex.Proofs.CompilationUnit.Functions
import DebugIndex.Proofs.CompilationUnit.HostIndependence
import DebugIndex.Proofs.CompilationUnit.InterruptedReading
import DebugIndex.Proofs.CompilationUnit.MalformedEntries
import DebugIndex.Proofs.CompilationUnit.MemoryExhaustion
import DebugIndex.Proofs.CompilationUnit.OpenSlice
import DebugIndex.Proofs.CompilationUnit.RangeIndex
import DebugIndex.Proofs.CompilationUnit.Relocation
import DebugIndex.Proofs.CompilationUnit.Slices
import DebugIndex.Proofs.CompilationUnit.Stages
import DebugIndex.Proofs.CompilationUnit.Types
import DebugIndex.Proofs.Database.AddressSearch
import DebugIndex.Proofs.Database.DisjointRanges
import DebugIndex.Proofs.Database.GlobalNames
import DebugIndex.Proofs.Database.Globals
import DebugIndex.Proofs.Database.HostIndependence
import DebugIndex.Proofs.Database.LineLookup
import DebugIndex.Proofs.Database.LineTexts
import DebugIndex.Proofs.Database.MemoryExhaustion
import DebugIndex.Proofs.Database.NameIndex
import DebugIndex.Proofs.Database.Places
import DebugIndex.Proofs.Database.RowIndices
import DebugIndex.Proofs.Database.RowLists
import DebugIndex.Proofs.Database.RowReach
import DebugIndex.Proofs.Database.Symbols
import DebugIndex.Proofs.Database.UnreadableUnits
import DebugIndex.Proofs.Database.UnusableSources
import DebugIndex.Proofs.Entry.Numbers
import DebugIndex.Proofs.Executable.OpenFailures
import DebugIndex.Proofs.FileSystem.Writing
import DebugIndex.Proofs.LineRow.Nearest
import DebugIndex.Proofs.Number.Digits
import DebugIndex.Proofs.Number.Exactness
import DebugIndex.Proofs.Number.Groups
import DebugIndex.Proofs.Number.Layout
import DebugIndex.Proofs.Report.Correspondence
import DebugIndex.Proofs.Report.Failures
import DebugIndex.Proofs.Session.LiveSettings
import DebugIndex.Proofs.Settings.CarryingOut
import DebugIndex.Proofs.Settings.Entries
import DebugIndex.Proofs.Settings.FailedChanges
import DebugIndex.Proofs.Settings.FileText
import DebugIndex.Proofs.Settings.Lexing
import DebugIndex.Proofs.Settings.Loading
import DebugIndex.Proofs.Settings.Parsing
import DebugIndex.Proofs.Settings.QuotedText
import DebugIndex.Proofs.Settings.Reloading
import DebugIndex.Proofs.Settings.RoundTrip
import DebugIndex.Proofs.Settings.Spelling
import DebugIndex.Proofs.Settings.WritingBack
import DebugIndex.Proofs.SourcePath.Meaning
import DebugIndex.Proofs.SourcePath.NormalForm
import DebugIndex.Proofs.SourcePath.Segments
import DebugIndex.Proofs.SourcePath.Separators
import DebugIndex.Proofs.Text.LineEnds
import DebugIndex.Proofs.Text.SourceLines
import DebugIndex.Proofs.Text.Utf8
import DebugIndex.Proofs.TypeTable.Chain
import DebugIndex.Proofs.TypeTable.Expansion
import DebugIndex.Proofs.TypeTable.HiddenNames
import DebugIndex.Proofs.TypeTable.Locality
import DebugIndex.Proofs.TypeTable.MemberTree
import DebugIndex.Proofs.TypeTable.Origins
import DebugIndex.Proofs.TypeTable.Pointers
import DebugIndex.Proofs.TypeTable.Relocation
import DebugIndex.Proofs.TypeTable.Repetition
import DebugIndex.Proofs.TypeTable.StepBound
import DebugIndex.Proofs.TypeTable.Walk
import DebugIndex.Reader.Fault
import DebugIndex.Reader.Identification
import DebugIndex.Reader.Unit
import DebugIndex.Report
import DebugIndex.Session
import DebugIndex.Settings.Basic
import DebugIndex.Settings.Datum
import DebugIndex.Settings.Evaluation
import DebugIndex.Settings.Expression
import DebugIndex.Settings.File
import DebugIndex.Settings.Grammar
import DebugIndex.Settings.Interpreter
import DebugIndex.Settings.Lexicon
import DebugIndex.Settings.Literal
import DebugIndex.Settings.Nesting
import DebugIndex.Settings.Predefined
import DebugIndex.Settings.Standard
import DebugIndex.Settings.Store
import DebugIndex.Settings.Token
import DebugIndex.SourcePath
import DebugIndex.SourceStatus
import DebugIndex.SourceText
import DebugIndex.Subprogram
import DebugIndex.Text.Blank
import DebugIndex.Text.Digit
import DebugIndex.Text.Encoding
import DebugIndex.Text.Identifier
import DebugIndex.Text.Name.Aliases
import DebugIndex.Text.Name.Alphabets
import DebugIndex.Text.Name.Ancient
import DebugIndex.Text.Name.Cuneiform
import DebugIndex.Text.Name.Emblems
import DebugIndex.Text.Name.Forms
import DebugIndex.Text.Name.Indic
import DebugIndex.Text.Name.Lookup
import DebugIndex.Text.Name.Notation
import DebugIndex.Text.Name.Pictures
import DebugIndex.Text.Name.Row
import DebugIndex.Text.Name.Scripts
import DebugIndex.Text.Name.Syllables
import DebugIndex.Text.Name.Symbols
import DebugIndex.Text.Normal.Compositions
import DebugIndex.Text.Normal.Decompositions
import DebugIndex.Text.Normal.Form
import DebugIndex.Text.Normal.Marks
import DebugIndex.Text.Normal.Table
import DebugIndex.Text.Numeral
import DebugIndex.Text.Point
import DebugIndex.Text.Printable
import DebugIndex.Text.Quoted
import DebugIndex.Text.Ranges
import DebugIndex.Text.Utf8
import DebugIndex.TypeTable.Basic
import DebugIndex.TypeTable.Resolution
import DebugIndex.Value.Basic
import DebugIndex.Value.Text
import DebugIndex.Variable

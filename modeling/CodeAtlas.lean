import CodeAtlas.Analysis
import CodeAtlas.Analyzer
import CodeAtlas.CommandLine
import CodeAtlas.CommandLine.Arguments
import CodeAtlas.Conversion
import CodeAtlas.CyclePolicy
import CodeAtlas.Declarations
import CodeAtlas.EdgeKind
import CodeAtlas.Extraction
import CodeAtlas.Extraction.Context
import CodeAtlas.Extraction.Java
import CodeAtlas.Extraction.Python
import CodeAtlas.Extraction.Script
import CodeAtlas.Fault
import CodeAtlas.FileTree
import CodeAtlas.FileTree.Disk
import CodeAtlas.FileTree.Name
import CodeAtlas.FileTree.Sources
import CodeAtlas.Graph
import CodeAtlas.Graph.Adjacency
import CodeAtlas.Graph.Components
import CodeAtlas.Graph.Frames
import CodeAtlas.Graph.Live
import CodeAtlas.Graph.Metrics
import CodeAtlas.Json
import CodeAtlas.Json.Access
import CodeAtlas.Json.Display
import CodeAtlas.Json.Order
import CodeAtlas.Json.Reader
import CodeAtlas.Json.Writer
import CodeAtlas.Language
import CodeAtlas.Main
import CodeAtlas.Metadata
import CodeAtlas.Number.Double
import CodeAtlas.Number.Numeral
import CodeAtlas.Number.Shortest
import CodeAtlas.OrderedMap
import CodeAtlas.Path
import CodeAtlas.Project
import CodeAtlas.Project.Detection
import CodeAtlas.Project.Manifest
import CodeAtlas.Project.Name
import CodeAtlas.Proofs.Analysis
import CodeAtlas.Proofs.Conversion.Agreement
import CodeAtlas.Proofs.Conversion.Codec
import CodeAtlas.Proofs.Conversion.Completeness
import CodeAtlas.Proofs.Conversion.Integrity
import CodeAtlas.Proofs.Conversion.Packages
import CodeAtlas.Proofs.Conversion.Reading
import CodeAtlas.Proofs.Conversion.RoundTrip
import CodeAtlas.Proofs.EdgeKind
import CodeAtlas.Proofs.Extraction.Closure
import CodeAtlas.Proofs.Extraction.Comments
import CodeAtlas.Proofs.Extraction.Errors
import CodeAtlas.Proofs.Extraction.Fields
import CodeAtlas.Proofs.Extraction.Isolation
import CodeAtlas.Proofs.Extraction.Java
import CodeAtlas.Proofs.Extraction.Outcomes
import CodeAtlas.Proofs.Extraction.Python
import CodeAtlas.Proofs.Extraction.Reading
import CodeAtlas.Proofs.Extraction.Scoping
import CodeAtlas.Proofs.Extraction.Script
import CodeAtlas.Proofs.Extraction.Specifiers
import CodeAtlas.Proofs.Extraction.Variables
import CodeAtlas.Proofs.Extraction.Walks
import CodeAtlas.Proofs.FileTree.Listing
import CodeAtlas.Proofs.FileTree.Names
import CodeAtlas.Proofs.FileTree.Places
import CodeAtlas.Proofs.FileTree.Rollback
import CodeAtlas.Proofs.FileTree.Saving
import CodeAtlas.Proofs.FileTree.Sources
import CodeAtlas.Proofs.Graph.Blocks
import CodeAtlas.Proofs.Graph.Components
import CodeAtlas.Proofs.Graph.Condensation
import CodeAtlas.Proofs.Graph.Cycles
import CodeAtlas.Proofs.Graph.Depth
import CodeAtlas.Proofs.Graph.Index
import CodeAtlas.Proofs.Graph.Search
import CodeAtlas.Proofs.Graph.Walks
import CodeAtlas.Proofs.Json.Plain
import CodeAtlas.Proofs.Outcome
import CodeAtlas.Proofs.Project.Census
import CodeAtlas.Proofs.Project.Detection
import CodeAtlas.Proofs.Project.Manifest
import CodeAtlas.Proofs.Resolution.Calls
import CodeAtlas.Proofs.Resolution.Containment
import CodeAtlas.Proofs.Resolution.Entries
import CodeAtlas.Proofs.Resolution.Heritage
import CodeAtlas.Proofs.Resolution.Identifiers
import CodeAtlas.Proofs.Resolution.Imports
import CodeAtlas.Proofs.Resolution.Kinds
import CodeAtlas.Proofs.Resolution.Links
import CodeAtlas.Proofs.Resolution.Lookup
import CodeAtlas.Proofs.Resolution.Naming
import CodeAtlas.Proofs.Resolution.Order
import CodeAtlas.Proofs.Resolution.Packages
import CodeAtlas.Proofs.Resolution.Phases
import CodeAtlas.Proofs.Resolution.Precedence
import CodeAtlas.Proofs.Resolution.SelfRelations
import CodeAtlas.Proofs.Resolution.Symbols
import CodeAtlas.Proofs.Resolution.Table
import CodeAtlas.Proofs.Resolution.Titles
import CodeAtlas.Proofs.Resolution.Totality
import CodeAtlas.Proofs.Scheduler.Account
import CodeAtlas.Proofs.Scheduler.Coverage
import CodeAtlas.Proofs.Scheduler.Effects
import CodeAtlas.Proofs.Scheduler.Order
import CodeAtlas.Proofs.Scheduler.Queue
import CodeAtlas.Proofs.Session
import CodeAtlas.Proofs.Settings.Loading
import CodeAtlas.Proofs.Settings.Tables
import CodeAtlas.Proofs.Snapshot.Answers
import CodeAtlas.Proofs.Snapshot.Loading
import CodeAtlas.Proofs.Snapshot.Resaving
import CodeAtlas.Proofs.Sorting
import CodeAtlas.Proofs.Text.Trimming
import CodeAtlas.Proofs.Toml.Names
import CodeAtlas.Resolution
import CodeAtlas.Resolution.Calls
import CodeAtlas.Resolution.Names
import CodeAtlas.Resolution.Relations
import CodeAtlas.Resolution.Symbols
import CodeAtlas.Scheduler
import CodeAtlas.Scheduler.Log
import CodeAtlas.Scheduler.Threads
import CodeAtlas.Session
import CodeAtlas.Session.Shared
import CodeAtlas.Settings
import CodeAtlas.Settings.Configuration
import CodeAtlas.Snapshot
import CodeAtlas.Source
import CodeAtlas.Symbol
import CodeAtlas.SymbolTable
import CodeAtlas.SyntaxTree
import CodeAtlas.SyntaxTree.Site
import CodeAtlas.Text.Blank
import CodeAtlas.Text.Charset
import CodeAtlas.Text.Charset.Dos
import CodeAtlas.Text.Charset.Iso
import CodeAtlas.Text.Charset.Local
import CodeAtlas.Text.Charset.Mac
import CodeAtlas.Text.Charset.Registry
import CodeAtlas.Text.Charset.Windows
import CodeAtlas.Text.CodePage
import CodeAtlas.Text.Digit
import CodeAtlas.Text.Half
import CodeAtlas.Text.LetterCase
import CodeAtlas.Text.Lines
import CodeAtlas.Text.Pieces
import CodeAtlas.Text.Printable
import CodeAtlas.Text.Quoted
import CodeAtlas.Text.Units
import CodeAtlas.Text.Word
import CodeAtlas.Toml
import CodeAtlas.Toml.Display
import CodeAtlas.Toml.Moment
import CodeAtlas.Toml.Reader
import CodeAtlas.Workspace
import CodeAtlas.Workspace.Description
import CodeAtlas.Xml
import CodeAtlas.Xml.AttributeValue
import CodeAtlas.Xml.Content
import CodeAtlas.Xml.Declaration
import CodeAtlas.Xml.DocumentType
import CodeAtlas.Xml.DocumentType.Reader
import CodeAtlas.Xml.DocumentType.Token
import CodeAtlas.Xml.Encoding
import CodeAtlas.Xml.Entities
import CodeAtlas.Xml.Lexeme
import CodeAtlas.Xml.NameCharacter
import CodeAtlas.Xml.Namespaces
import CodeAtlas.Xml.Reader

import LivePreview.Build
import LivePreview.Build.Answer
import LivePreview.Build.Report
import LivePreview.Build.Request
import LivePreview.Catalog
import LivePreview.CompileError
import LivePreview.Config
import LivePreview.Dependency
import LivePreview.Engine
import LivePreview.FileTree
import LivePreview.Globals
import LivePreview.Hash.Sha256
import LivePreview.Json
import LivePreview.Json.Decode
import LivePreview.Json.Draft
import LivePreview.Json.Fault
import LivePreview.Json.Reader
import LivePreview.Message
import LivePreview.Module.Lowering
import LivePreview.Module.Requires
import LivePreview.Number.Double
import LivePreview.Number.DoubleText
import LivePreview.Path
import LivePreview.Pattern
import LivePreview.Pattern.Fault
import LivePreview.Pattern.NamedClass
import LivePreview.Pattern.Nest
import LivePreview.Pattern.Reader
import LivePreview.Pattern.Size
import LivePreview.Project
import LivePreview.Project.Loading
import LivePreview.Registry
import LivePreview.Sandbox
import LivePreview.Sandbox.Harness
import LivePreview.Sandbox.Loader
import LivePreview.Script.Constant
import LivePreview.Script.Declared
import LivePreview.Script.Diagnostic
import LivePreview.Script.Entity
import LivePreview.Script.Kind
import LivePreview.Script.Letter
import LivePreview.Script.Lexer
import LivePreview.Script.Markup
import LivePreview.Script.Names
import LivePreview.Script.Operator
import LivePreview.Script.Parser
import LivePreview.Script.Parser.Basic
import LivePreview.Script.Parser.Calls
import LivePreview.Script.Parser.Classes
import LivePreview.Script.Parser.Declarations
import LivePreview.Script.Parser.Elements
import LivePreview.Script.Parser.Expressions
import LivePreview.Script.Parser.Functions
import LivePreview.Script.Parser.Grammar
import LivePreview.Script.Parser.Modules
import LivePreview.Script.Parser.Statements
import LivePreview.Script.Parser.Targets
import LivePreview.Script.Parser.Types
import LivePreview.Script.Plain
import LivePreview.Script.Plain.Basic
import LivePreview.Script.Plain.Tree
import LivePreview.Script.Pragma
import LivePreview.Script.Printer
import LivePreview.Script.Printer.Page
import LivePreview.Script.Printer.Tree
import LivePreview.Script.StringText
import LivePreview.Script.Token
import LivePreview.Script.Transpile
import LivePreview.Script.Tree
import LivePreview.Script.Usage
import LivePreview.Script.Walk
import LivePreview.Session
import LivePreview.Specifier
import LivePreview.Table
import LivePreview.Text.Blank
import LivePreview.Text.Escape
import LivePreview.Text.Hex
import LivePreview.Text.Quoted
import LivePreview.Text.Search
import LivePreview.Text.Splice
import LivePreview.Text.Split
import LivePreview.Unicode.Age
import LivePreview.Unicode.Binary
import LivePreview.Unicode.Boundary
import LivePreview.Unicode.Category
import LivePreview.Unicode.CodeSet
import LivePreview.Unicode.Fold
import LivePreview.Unicode.Hidden
import LivePreview.Unicode.Property
import LivePreview.Unicode.ScriptTable
import LivePreview.Window
import LivePreview.Proofs.Engine.Debounce
import LivePreview.Proofs.Engine.Status
import LivePreview.Proofs.Engine.Reports
import LivePreview.Proofs.Engine.Duplicates
import LivePreview.Proofs.Engine.Failures
import LivePreview.Proofs.Request.Encoding
import LivePreview.Proofs.Registry.Spellings
import LivePreview.Proofs.Registry.Ownership
import LivePreview.Proofs.Registry.OwnPath
import LivePreview.Proofs.Catalog.Scripts
import LivePreview.Proofs.Loader.Lookup
import LivePreview.Proofs.Loader.Report
import LivePreview.Proofs.Registry.Aliases
import LivePreview.Proofs.Specifier.Joining
import LivePreview.Proofs.Specifier.Confinement
import LivePreview.Proofs.Registry.Relative
import LivePreview.Proofs.Lowering.Course
import LivePreview.Proofs.Lowering.Places
import LivePreview.Proofs.Lowering.Splice
import LivePreview.Proofs.Lowering.Pieces
import LivePreview.Proofs.Lowering.Order
import LivePreview.Proofs.Lowering.Patches
import LivePreview.Proofs.Lowering.Words
import LivePreview.Proofs.Lowering.Weave
import LivePreview.Proofs.Lowering.Kept
import LivePreview.Proofs.Lowering.Edits
import LivePreview.Proofs.Document.Scanning
import LivePreview.Proofs.Document.Elements
import LivePreview.Proofs.Document.Markup
import LivePreview.Proofs.Document.Addresses
import LivePreview.Proofs.Build.Traces
import LivePreview.Proofs.Json.Words
import LivePreview.Proofs.Json.ReadBack
import LivePreview.Proofs.Document.ScriptData
import LivePreview.Proofs.Json.Decoding
import LivePreview.Proofs.Message.RoundTrip
import LivePreview.Proofs.Build.Bridge
import LivePreview.Proofs.Exports.Assignments
import LivePreview.Proofs.Exports.Bindings
import LivePreview.Proofs.Exports.Faithful
import LivePreview.Proofs.Exports.Mounting
import LivePreview.Proofs.Registry.Importer
import LivePreview.Proofs.Project.Keys
import LivePreview.Proofs.Project.Trees
import LivePreview.Proofs.Project.Sources
import LivePreview.Proofs.Registry.Directories
import LivePreview.Proofs.Imports.Nodes
import LivePreview.Proofs.Imports.Requests
import LivePreview.Proofs.Lowering.Openings
import LivePreview.Proofs.Lowering.Again

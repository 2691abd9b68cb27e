import ClientGen.Command.Flags
import ClientGen.Command.Flavors
import ClientGen.Command.Generate
import ClientGen.Command.Issue
import ClientGen.Command.Line
import ClientGen.Command.Run
import ClientGen.Command.Suite
import ClientGen.Command.Validate
import ClientGen.Console.Reply
import ClientGen.Console.Table
import ClientGen.Cpp.Declaration
import ClientGen.Cpp.Error
import ClientGen.Cpp.Literal
import ClientGen.Cpp.Lowering
import ClientGen.DependencyMap
import ClientGen.Encoding.Base16
import ClientGen.Encoding.Base58
import ClientGen.Encoding.Base64
import ClientGen.Encoding.Sha256
import ClientGen.ErrorCode
import ClientGen.FileTree
import ClientGen.Flavor
import ClientGen.Formats
import ClientGen.Formatter
import ClientGen.Glob
import ClientGen.Idl.Check
import ClientGen.Idl.Decode
import ClientGen.Idl.DecodeError
import ClientGen.Idl.DecodeRoot
import ClientGen.Idl.Document
import ClientGen.Idl.DocumentReader
import ClientGen.Idl.Node
import ClientGen.Idl.Root
import ClientGen.Idl.Schema
import ClientGen.IncludeSet
import ClientGen.Json.Decimal
import ClientGen.Json.Fields
import ClientGen.Json.Indented
import ClientGen.Json.Merge
import ClientGen.Json.Reader
import ClientGen.Json.Value
import ClientGen.Main
import ClientGen.Naming
import ClientGen.OutputDirectory
import ClientGen.Path
import ClientGen.Proofs.Command.Gate
import ClientGen.Proofs.Command.Overriding
import ClientGen.Proofs.Command.Snapshots
import ClientGen.Proofs.Command.UpdateThenCheck
import ClientGen.Proofs.Cpp.Agreement
import ClientGen.Proofs.Cpp.ByteSpellings
import ClientGen.Proofs.Cpp.CodeLines
import ClientGen.Proofs.Cpp.DeclaredNames
import ClientGen.Proofs.Cpp.Documentation
import ClientGen.Proofs.Cpp.Failures
import ClientGen.Proofs.Cpp.Faithful
import ClientGen.Proofs.Cpp.Headers
import ClientGen.Proofs.Cpp.Hoisting
import ClientGen.Proofs.Cpp.Lines
import ClientGen.Proofs.Cpp.MemberOrder
import ClientGen.Proofs.Cpp.NumberLayers
import ClientGen.Proofs.Cpp.Quotations
import ClientGen.Proofs.Cpp.Shape
import ClientGen.Proofs.Cpp.ShortStrings
import ClientGen.Proofs.Cpp.Site
import ClientGen.Proofs.Cpp.SizeHints
import ClientGen.Proofs.Cpp.Tracking
import ClientGen.Proofs.Cpp.Visits
import ClientGen.Proofs.Encoding.Base16
import ClientGen.Proofs.Encoding.Base58
import ClientGen.Proofs.Encoding.Base64
import ClientGen.Proofs.FileTree
import ClientGen.Proofs.Idl.Addresses
import ClientGen.Proofs.Idl.Canonical
import ClientGen.Proofs.Idl.CompactForm
import ClientGen.Proofs.Idl.DistinctNames
import ClientGen.Proofs.Idl.Members
import ClientGen.Proofs.Idl.Modes
import ClientGen.Proofs.Idl.NodeRoundTrip
import ClientGen.Proofs.Idl.ProblemCounts
import ClientGen.Proofs.Idl.RoundTrip
import ClientGen.Proofs.Idl.SameDocument
import ClientGen.Proofs.Idl.WithoutDocs
import ClientGen.Proofs.IncludeSet
import ClientGen.Proofs.Includes.BarePaths
import ClientGen.Proofs.Includes.History
import ClientGen.Proofs.Includes.Memory
import ClientGen.Proofs.Includes.Store
import ClientGen.Proofs.Json.Compact
import ClientGen.Proofs.Json.Reading
import ClientGen.Proofs.Json.SameValue
import ClientGen.Proofs.Json.Sources
import ClientGen.Proofs.Json.Spelling
import ClientGen.Proofs.Naming.Capitals
import ClientGen.Proofs.Naming.Casing
import ClientGen.Proofs.Naming.PlainNames
import ClientGen.Proofs.Naming.Segmentation
import ClientGen.Proofs.Naming.Separators
import ClientGen.Proofs.OutputDirectory.Clearing
import ClientGen.Proofs.OutputDirectory.Writing
import ClientGen.Proofs.Path
import ClientGen.Proofs.Path.Cleaning
import ClientGen.Proofs.Path.Extensions
import ClientGen.Proofs.Render.Constructor
import ClientGen.Proofs.Render.Contents
import ClientGen.Proofs.Render.DeclaredTypes
import ClientGen.Proofs.Render.Digest
import ClientGen.Proofs.Render.Directives
import ClientGen.Proofs.Render.Documentation
import ClientGen.Proofs.Render.DuplicatePaths
import ClientGen.Proofs.Render.EnclosingNames
import ClientGen.Proofs.Render.EntityOrder
import ClientGen.Proofs.Render.ErrorClasses
import ClientGen.Proofs.Render.Failures
import ClientGen.Proofs.Render.FileMap
import ClientGen.Proofs.Render.IncludeBlock
import ClientGen.Proofs.Render.IncludeClosure
import ClientGen.Proofs.Render.Independence
import ClientGen.Proofs.Render.JoinOrder
import ClientGen.Proofs.Render.LocalPaths
import ClientGen.Proofs.Render.MemberOrder
import ClientGen.Proofs.Render.PageCode
import ClientGen.Proofs.Render.PageTops
import ClientGen.Proofs.Render.ParameterNames
import ClientGen.Proofs.Render.Paths
import ClientGen.Proofs.Render.ProgramKeys
import ClientGen.Proofs.Render.Quotations
import ClientGen.Proofs.Render.References
import ClientGen.Proofs.Render.Selection
import ClientGen.Proofs.Render.SharedMaps
import ClientGen.Proofs.Render.SortedMaps
import ClientGen.Proofs.Render.Spellings
import ClientGen.Proofs.Render.TopLevel
import ClientGen.Proofs.Render.Unions
import ClientGen.Proofs.Render.VersionCodes
import ClientGen.Proofs.Scenario.Verdicts
import ClientGen.Proofs.Settings.Layers
import ClientGen.Proofs.Text.Utf8
import ClientGen.Render.Account
import ClientGen.Render.DefinedType
import ClientGen.Render.Errors
import ClientGen.Render.FileMap
import ClientGen.Render.Instruction
import ClientGen.Render.ModuleFiles
import ClientGen.Render.Outcome
import ClientGen.Render.Page
import ClientGen.Render.Root
import ClientGen.Scenario.Assertion
import ClientGen.Scenario.Basic
import ClientGen.Scenario.Outcome
import ClientGen.Settings
import ClientGen.Text.CaseMapping
import ClientGen.Text.CodeRanges
import ClientGen.Text.Decomposition
import ClientGen.Text.Digits
import ClientGen.Text.DisplayWidth
import ClientGen.Text.EditDistance
import ClientGen.Text.Letter
import ClientGen.Text.NormalForm
import ClientGen.Text.Printable
import ClientGen.Text.Quoted
import ClientGen.Text.Search
import ClientGen.Text.ShellWords
import ClientGen.Text.WordBoundary
import ClientGen.Text.WordSize
import ClientGen.Toml.Reader
import ClientGen.Toml.Table
import ClientGen.Toml.Value
import ClientGen.Version
import ClientGen.Yaml.Cursor
import ClientGen.Yaml.Node
import ClientGen.Yaml.Record
import ClientGen.Yaml.Scalar
import ClientGen.Yaml.Token
import ClientGen.Yaml.Typed

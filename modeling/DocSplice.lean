import DocSplice.Analysis
import DocSplice.Block
import DocSplice.Brace.Body
import DocSplice.Brace.Code
import DocSplice.Brace.Declaration
import DocSplice.Brace.MarkedLines
import DocSplice.Checking
import DocSplice.Command.Argument
import DocSplice.Command.Execution
import DocSplice.Command.Invocation
import DocSplice.Decimal.Binary
import DocSplice.Decimal.Shortest
import DocSplice.Detail
import DocSplice.Digest.Sha256
import DocSplice.Discovery
import DocSplice.Docstring.Clean
import DocSplice.Docstring.Declarations
import DocSplice.Docstring.Literal
import DocSplice.Docstring.Sections
import DocSplice.Documentation
import DocSplice.Documenting
import DocSplice.Failure
import DocSplice.Generator
import DocSplice.Grammar.Chart
import DocSplice.Grammar.Layout
import DocSplice.Grammar.Lexeme
import DocSplice.Grammar.Outline
import DocSplice.Grammar.Parser
import DocSplice.Grammar.Productions
import DocSplice.Grammar.Token
import DocSplice.Grammar.Vocabulary
import DocSplice.Host
import DocSplice.Ignore.Glob
import DocSplice.Ignore.Rules
import DocSplice.Injection
import DocSplice.Item
import DocSplice.Json.Printer
import DocSplice.Json.Reader
import DocSplice.Json.Value
import DocSplice.LineBuffer
import DocSplice.Main
import DocSplice.Parser
import DocSplice.Path
import DocSplice.Place
import DocSplice.Prompt
import DocSplice.Proofs.AtOnce
import DocSplice.Proofs.Blanks
import DocSplice.Proofs.Brace.BracedBodies
import DocSplice.Proofs.Brace.Brackets
import DocSplice.Proofs.Brace.CarriageReturns
import DocSplice.Proofs.Brace.CodeKept
import DocSplice.Proofs.Brace.CodeStream
import DocSplice.Proofs.Brace.Continuation
import DocSplice.Proofs.Brace.Cut
import DocSplice.Proofs.Brace.DeclarationLine
import DocSplice.Proofs.Brace.Extraction
import DocSplice.Proofs.Brace.Installation
import DocSplice.Proofs.Brace.Items
import DocSplice.Proofs.Brace.LeftOpen
import DocSplice.Proofs.Brace.Lexing
import DocSplice.Proofs.Brace.OneByOne
import DocSplice.Proofs.Brace.OneLine
import DocSplice.Proofs.Brace.Reinstallation
import DocSplice.Proofs.Brace.Rendering
import DocSplice.Proofs.Brace.RoundTrip
import DocSplice.Proofs.Brace.Search
import DocSplice.Proofs.Brace.StringLines
import DocSplice.Proofs.Brace.TaggedText
import DocSplice.Proofs.Brace.Tags
import DocSplice.Proofs.Docstring.Cleaning
import DocSplice.Proofs.Docstring.Closing
import DocSplice.Proofs.Docstring.Escaping
import DocSplice.Proofs.Docstring.KeptStatements
import DocSplice.Proofs.Docstring.Patching
import DocSplice.Proofs.Docstring.Planning
import DocSplice.Proofs.Docstring.ReadBack
import DocSplice.Proofs.Docstring.Rendering
import DocSplice.Proofs.Docstring.SectionedText
import DocSplice.Proofs.Docstring.Underlines
import DocSplice.Proofs.Documenting.Accounting
import DocSplice.Proofs.Documenting.AllOrNothing
import DocSplice.Proofs.Documenting.Converging
import DocSplice.Proofs.Documenting.DryRun
import DocSplice.Proofs.Documenting.LineEndings
import DocSplice.Proofs.Documenting.Settling
import DocSplice.Proofs.Endings.FinalNewline
import DocSplice.Proofs.Endings.Injection
import DocSplice.Proofs.Endings.Rendered
import DocSplice.Proofs.Endings.Splices
import DocSplice.Proofs.Endings.Uniform
import DocSplice.Proofs.Grammar.Accepted
import DocSplice.Proofs.Grammar.Derivation
import DocSplice.Proofs.Grammar.Headers
import DocSplice.Proofs.Grammar.Laws
import DocSplice.Proofs.Grammar.Openings
import DocSplice.Proofs.Grammar.Starts
import DocSplice.Proofs.Grammar.Statements
import DocSplice.Proofs.Injected
import DocSplice.Proofs.Issues
import DocSplice.Proofs.ItemSpans
import DocSplice.Proofs.LatestTargets
import DocSplice.Proofs.LeadingBlocks
import DocSplice.Proofs.Lines
import DocSplice.Proofs.MaximalBlocks
import DocSplice.Proofs.Parsers
import DocSplice.Proofs.Patches
import DocSplice.Proofs.Places
import DocSplice.Proofs.Query.Body
import DocSplice.Proofs.Query.Markdown
import DocSplice.Proofs.Query.NormalForm
import DocSplice.Proofs.Query.Reinjection
import DocSplice.Proofs.Query.Rendering
import DocSplice.Proofs.Query.RoutineNames
import DocSplice.Proofs.Replies
import DocSplice.Proofs.RowEdit
import DocSplice.Proofs.Runs
import DocSplice.Proofs.SectionTexts
import DocSplice.Proofs.Sections
import DocSplice.Proofs.Session
import DocSplice.Proofs.Splicing
import DocSplice.Proofs.Staging
import DocSplice.Proofs.Steps
import DocSplice.Proofs.Targets
import DocSplice.Query.Comment
import DocSplice.Query.Routine
import DocSplice.Reply
import DocSplice.Run
import DocSplice.Section
import DocSplice.Service.Address
import DocSplice.Service.Message
import DocSplice.Service.Provider
import DocSplice.Settings
import DocSplice.Settings.File
import DocSplice.SourceFile
import DocSplice.SourceKind
import DocSplice.Splice
import DocSplice.Storage
import DocSplice.Target
import DocSplice.Text.Basic
import DocSplice.Text.Blank
import DocSplice.Text.Identifier
import DocSplice.Text.Lines
import DocSplice.Text.Ranges
import DocSplice.Text.Utf8
import DocSplice.Text.Word
import DocSplice.Toml.Printer
import DocSplice.Toml.Reader
import DocSplice.Toml.Value
import DocSplice.Validation

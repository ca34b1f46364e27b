import CodeAtlas.Chunk.Budget
import CodeAtlas.Chunk.Chunker
import CodeAtlas.Chunk.Packing
import CodeAtlas.Decimal.Double
import CodeAtlas.Decimal.Lenient
import CodeAtlas.Dialogue.Backend
import CodeAtlas.Dialogue.Question
import CodeAtlas.Dialogue.Survey
import CodeAtlas.Entity.Basic
import CodeAtlas.Entity.Intake
import CodeAtlas.Entity.Json
import CodeAtlas.Extract.Callable
import CodeAtlas.Extract.Declarations
import CodeAtlas.Extract.Documentation
import CodeAtlas.Extract.Focus
import CodeAtlas.FileParser
import CodeAtlas.FileSystem.Access
import CodeAtlas.FileSystem.Change
import CodeAtlas.FileSystem.Listing
import CodeAtlas.FileSystem.Path
import CodeAtlas.FileSystem.Tree
import CodeAtlas.Intake.Issue
import CodeAtlas.Intake.Read
import CodeAtlas.Json.Basic
import CodeAtlas.Json.Printer
import CodeAtlas.Json.Reader
import CodeAtlas.Language
import CodeAtlas.Profile
import CodeAtlas.Project
import CodeAtlas.Proofs.Chunk.Grouping
import CodeAtlas.Registry
import CodeAtlas.Reply.Answer
import CodeAtlas.Reply.Contract
import CodeAtlas.Request.Body
import CodeAtlas.Request.Context
import CodeAtlas.Request.Prompt
import CodeAtlas.Service
import CodeAtlas.Settings.Basic
import CodeAtlas.Settings.EnvFile
import CodeAtlas.Settings.Level
import CodeAtlas.Source.Cursor
import CodeAtlas.SourceParser
import CodeAtlas.Syntax.Character
import CodeAtlas.Syntax.Draft
import CodeAtlas.Syntax.Grammar
import CodeAtlas.Syntax.Grammar.Classes
import CodeAtlas.Syntax.Grammar.Elements
import CodeAtlas.Syntax.Grammar.Expressions
import CodeAtlas.Syntax.Grammar.Phrase
import CodeAtlas.Syntax.Grammar.Statements
import CodeAtlas.Syntax.Grammar.Types
import CodeAtlas.Syntax.Kind
import CodeAtlas.Syntax.Lexeme
import CodeAtlas.Syntax.Node
import CodeAtlas.Syntax.Parse
import CodeAtlas.Syntax.Rule
import CodeAtlas.Syntax.Semicolon
import CodeAtlas.Syntax.Terminal
import CodeAtlas.Text.Blank
import CodeAtlas.Text.Case
import CodeAtlas.Text.Digit
import CodeAtlas.Text.Quoted
import CodeAtlas.Text.Removal
import CodeAtlas.Text.Shown
import CodeAtlas.Text.Utf8
import CodeAtlas.Yaml.Fault
import CodeAtlas.Yaml.Mark
import CodeAtlas.Yaml.Moment
import CodeAtlas.Yaml.Node
import CodeAtlas.Yaml.Number
import CodeAtlas.Yaml.Place
import CodeAtlas.Yaml.Scalar
import CodeAtlas.Yaml.Tag
import CodeAtlas.Yaml.Token
import CodeAtlas.Yaml.Value
import CodeAtlas.Proofs.Chunk.Coverage
import CodeAtlas.Proofs.Chunk.Fewest
import CodeAtlas.Proofs.Chunk.Payload
import CodeAtlas.Proofs.Chunk.Splitting
import CodeAtlas.Proofs.FileSystem.Visits
import CodeAtlas.Proofs.FileSystem.Location
import CodeAtlas.Proofs.Project.Merging
import CodeAtlas.Proofs.Project.Isolation
import CodeAtlas.Proofs.FileSystem.Exactness
import CodeAtlas.Proofs.Project.Pool
import CodeAtlas.Proofs.Dialogue.Delivery
import CodeAtlas.Proofs.Json.Same
import CodeAtlas.Proofs.Reply.Contract
import CodeAtlas.Proofs.Reply.Verdict
import CodeAtlas.Proofs.Json.RoundTrip
import CodeAtlas.Proofs.Entity.Preservation
import CodeAtlas.Proofs.Extract.Classes
import CodeAtlas.Proofs.Json.Limits
import CodeAtlas.Proofs.Json.Overflow
import CodeAtlas.Proofs.Reply.Object
import CodeAtlas.Proofs.Dialogue.Failure
import CodeAtlas.Proofs.Dialogue.Conversation
import CodeAtlas.Proofs.Dialogue.Conveyance
import CodeAtlas.Proofs.Project.Root
import CodeAtlas.Proofs.Dialogue.Server
import CodeAtlas.Proofs.Json.Lines
import CodeAtlas.Proofs.Request.Readable
import CodeAtlas.Proofs.Dialogue.Section
import CodeAtlas.Proofs.Dialogue.Discretion
import CodeAtlas.Proofs.Dispatch
import CodeAtlas.Proofs.Settings.Acceptance
import CodeAtlas.Proofs.Extract.Validity
import CodeAtlas.Proofs.Extract.Faults
import CodeAtlas.Proofs.Extract.Documented
import CodeAtlas.Proofs.FileSystem.Spelling
import CodeAtlas.Proofs.Project.Contribution
import CodeAtlas.Proofs.Outcome
import CodeAtlas.Proofs.Text.Removal
import CodeAtlas.Proofs.Text.Blank
import CodeAtlas.Proofs.Text.Lines
import CodeAtlas.Proofs.Extract.Cleaning
import CodeAtlas.Proofs.Request.Body
import CodeAtlas.Proofs.Request.Frame
import CodeAtlas.Proofs.Request.Pieces
import CodeAtlas.Proofs.Yaml.Lexical
import CodeAtlas.Proofs.Yaml.Parts
import CodeAtlas.Proofs.Yaml.Step
import CodeAtlas.Proofs.Yaml.Compose
import CodeAtlas.Proofs.Yaml.Problem
import CodeAtlas.Proofs.Yaml.Sound
import CodeAtlas.Proofs.Yaml.Loading
import CodeAtlas.Proofs.Project.Documents
import CodeAtlas.Proofs.Chunk.Growth
import CodeAtlas.Proofs.Chunk.Envelope
import CodeAtlas.Proofs.Extract.Delimiters
import CodeAtlas.Proofs.Source.Decoding
import CodeAtlas.Proofs.Syntax.Meaning
import CodeAtlas.Proofs.Syntax.Sound
import CodeAtlas.Proofs.Syntax.Onset
import CodeAtlas.Proofs.Syntax.Parts
import CodeAtlas.Proofs.Syntax.Parameters
import CodeAtlas.Proofs.Extract.Parameters
import CodeAtlas.Proofs.Chunk.Runs
import CodeAtlas.Proofs.Chunk.Truncation
import CodeAtlas.Proofs.FileSystem.Order

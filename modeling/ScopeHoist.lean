import ScopeHoist.Bundle
import ScopeHoist.CommandLine.Arguments
import ScopeHoist.CommandLine.Command
import ScopeHoist.Config.File
import ScopeHoist.Config.Load
import ScopeHoist.Config.Settings
import ScopeHoist.FileTree
import ScopeHoist.Graph.Interface
import ScopeHoist.Graph.Loading
import ScopeHoist.Graph.Order
import ScopeHoist.Graph.Provide
import ScopeHoist.Graph.Record
import ScopeHoist.Graph.Session
import ScopeHoist.Graph.Specifier
import ScopeHoist.Graph.Table
import ScopeHoist.Link.Aggregate
import ScopeHoist.Link.Names
import ScopeHoist.Link.Program
import ScopeHoist.Link.Spelling
import ScopeHoist.Link.Statements
import ScopeHoist.Main
import ScopeHoist.Name.Legal
import ScopeHoist.Name.Pool
import ScopeHoist.Parse.Basic
import ScopeHoist.Parse.Expression
import ScopeHoist.Parse.Function
import ScopeHoist.Parse.Item
import ScopeHoist.Parse.Member
import ScopeHoist.Parse.Name
import ScopeHoist.Parse.Pattern
import ScopeHoist.Parse.Program
import ScopeHoist.Parse.Statement
import ScopeHoist.Path
import ScopeHoist.Print.Edges
import ScopeHoist.Print.Page
import ScopeHoist.Print.Program
import ScopeHoist.Print.Tree
import ScopeHoist.Proofs.Answering
import ScopeHoist.Proofs.Assembly
import ScopeHoist.Proofs.Assigning
import ScopeHoist.Proofs.Backing
import ScopeHoist.Proofs.Capture
import ScopeHoist.Proofs.Claims
import ScopeHoist.Proofs.ClauseTexts
import ScopeHoist.Proofs.Clauses
import ScopeHoist.Proofs.Coherence
import ScopeHoist.Proofs.Completeness
import ScopeHoist.Proofs.Completion
import ScopeHoist.Proofs.Constancy
import ScopeHoist.Proofs.Contained
import ScopeHoist.Proofs.Contention
import ScopeHoist.Proofs.Defaults
import ScopeHoist.Proofs.Descent
import ScopeHoist.Proofs.Draft
import ScopeHoist.Proofs.EagerTables
import ScopeHoist.Proofs.Economy
import ScopeHoist.Proofs.Editing
import ScopeHoist.Proofs.Encounters
import ScopeHoist.Proofs.Exposure
import ScopeHoist.Proofs.Files
import ScopeHoist.Proofs.Finishing
import ScopeHoist.Proofs.Forms
import ScopeHoist.Proofs.Fusion
import ScopeHoist.Proofs.Generated
import ScopeHoist.Proofs.Globals
import ScopeHoist.Proofs.Growth
import ScopeHoist.Proofs.Integrity
import ScopeHoist.Proofs.Interface
import ScopeHoist.Proofs.Interruption
import ScopeHoist.Proofs.Judgement
import ScopeHoist.Proofs.Kept
import ScopeHoist.Proofs.Layout
import ScopeHoist.Proofs.Leaner
import ScopeHoist.Proofs.Leftovers
import ScopeHoist.Proofs.Legal
import ScopeHoist.Proofs.Lending
import ScopeHoist.Proofs.Linkable
import ScopeHoist.Proofs.Lists
import ScopeHoist.Proofs.Liveness
import ScopeHoist.Proofs.LoadCases
import ScopeHoist.Proofs.Loading
import ScopeHoist.Proofs.NameCases
import ScopeHoist.Proofs.NamespaceObjects
import ScopeHoist.Proofs.Namespaces
import ScopeHoist.Proofs.Naming
import ScopeHoist.Proofs.ObjectTexts
import ScopeHoist.Proofs.Observed
import ScopeHoist.Proofs.Occurrences
import ScopeHoist.Proofs.Options
import ScopeHoist.Proofs.Order
import ScopeHoist.Proofs.Origins
import ScopeHoist.Proofs.OuterImports
import ScopeHoist.Proofs.Pages
import ScopeHoist.Proofs.Places
import ScopeHoist.Proofs.PlainNames
import ScopeHoist.Proofs.Pool
import ScopeHoist.Proofs.Progress
import ScopeHoist.Proofs.Providing
import ScopeHoist.Proofs.Publishing
import ScopeHoist.Proofs.Queries
import ScopeHoist.Proofs.Reach
import ScopeHoist.Proofs.Remains
import ScopeHoist.Proofs.Removal
import ScopeHoist.Proofs.Renaming
import ScopeHoist.Proofs.Requests
import ScopeHoist.Proofs.Reshaking
import ScopeHoist.Proofs.Resolution
import ScopeHoist.Proofs.Respelling
import ScopeHoist.Proofs.Sequence
import ScopeHoist.Proofs.Shake
import ScopeHoist.Proofs.Shrinking
import ScopeHoist.Proofs.Snapshots
import ScopeHoist.Proofs.Soundness
import ScopeHoist.Proofs.Sources
import ScopeHoist.Proofs.Stars
import ScopeHoist.Proofs.Steps
import ScopeHoist.Proofs.Substitution
import ScopeHoist.Proofs.Surface
import ScopeHoist.Proofs.Table
import ScopeHoist.Proofs.Tally
import ScopeHoist.Proofs.TopLevel
import ScopeHoist.Proofs.Traversals
import ScopeHoist.Proofs.Twins
import ScopeHoist.Proofs.Underway
import ScopeHoist.Proofs.Undisturbed
import ScopeHoist.Proofs.Uniqueness
import ScopeHoist.Proofs.Usage
import ScopeHoist.Proofs.Verdict
import ScopeHoist.Proofs.Wiring
import ScopeHoist.Report.Error
import ScopeHoist.Report.Journal
import ScopeHoist.Report.Stats
import ScopeHoist.Report.Warning
import ScopeHoist.Scope.Frame
import ScopeHoist.Scope.Hoisting
import ScopeHoist.Scope.Occurrence
import ScopeHoist.Scope.Program
import ScopeHoist.Scope.Rename
import ScopeHoist.Scope.Resolve
import ScopeHoist.Scope.Usage
import ScopeHoist.Shake.Declarations
import ScopeHoist.Shake.Session
import ScopeHoist.Shake.Verdict
import ScopeHoist.Source.Comments
import ScopeHoist.Source.Escape
import ScopeHoist.Source.Fault
import ScopeHoist.Source.Gap
import ScopeHoist.Source.Scan
import ScopeHoist.Source.Token
import ScopeHoist.Text.Blank
import ScopeHoist.Text.Columns
import ScopeHoist.Text.Decimal
import ScopeHoist.Text.IdentifierChars
import ScopeHoist.Text.Quoted
import ScopeHoist.Text.Rounding
import ScopeHoist.Text.Shown
import ScopeHoist.Tree.Basic
import ScopeHoist.Tree.Build
import ScopeHoist.Tree.Pattern
import ScopeHoist.Tree.Position

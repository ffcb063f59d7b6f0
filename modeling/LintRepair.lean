import LintRepair.Analyzer
import LintRepair.Campaign.Basic
import LintRepair.Campaign.Run
import LintRepair.Campaign.Script
import LintRepair.Check
import LintRepair.Command
import LintRepair.CommandLine.Arguments
import LintRepair.CommandLine.Help
import LintRepair.CommandLine.Run
import LintRepair.Diagnostic.Count
import LintRepair.Diagnostic.Location
import LintRepair.Diagnostic.Message
import LintRepair.Diagnostic.Reading
import LintRepair.Edit.Batch
import LintRepair.Edit.Line
import LintRepair.Edit.Patch
import LintRepair.Finding
import LintRepair.Gate
import LintRepair.Json.Basic
import LintRepair.Json.Reader
import LintRepair.Main
import LintRepair.Path.Basic
import LintRepair.Path.Normal
import LintRepair.Path.Scope
import LintRepair.Pattern.Basic
import LintRepair.Pattern.Layout
import LintRepair.Pattern.Reader
import LintRepair.Print.Campaign
import LintRepair.Print.Scan
import LintRepair.Print.Seconds
import LintRepair.Print.Style
import LintRepair.Project
import LintRepair.Remedy.Annotation
import LintRepair.Remedy.Basic
import LintRepair.Remedy.Catalog
import LintRepair.Remedy.CatchClause
import LintRepair.Remedy.Declaration
import LintRepair.Remedy.Parameter
import LintRepair.Settings
import LintRepair.Setup
import LintRepair.Shell.Arithmetic
import LintRepair.Shell.Fields
import LintRepair.Shell.Glob
import LintRepair.Shell.Reader
import LintRepair.Shell.Regex
import LintRepair.Shell.Run
import LintRepair.Shell.Script
import LintRepair.Shell.Utility.Basic
import LintRepair.Shell.Utility.Files
import LintRepair.Shell.Utility.Print
import LintRepair.Shell.Utility.Search
import LintRepair.Shell.Utility.Test
import LintRepair.Shell.Utility.Text
import LintRepair.Shell.World
import LintRepair.Text.Bytes
import LintRepair.Text.CharClass
import LintRepair.Text.Digit
import LintRepair.Text.Lines
import LintRepair.Text.Scan
import LintRepair.Tree.Access
import LintRepair.Tree.Basic
import LintRepair.Tree.Difference
import LintRepair.Tree.Walk
import LintRepair.Unicode.Age
import LintRepair.Unicode.Break
import LintRepair.Unicode.ByteSequence
import LintRepair.Unicode.CaseFold
import LintRepair.Unicode.Category
import LintRepair.Unicode.CharSet
import LintRepair.Unicode.CodeSet
import LintRepair.Unicode.Property
import LintRepair.Unicode.PropertyName
import LintRepair.Unicode.Ranges
import LintRepair.Unicode.Script
import LintRepair.Unicode.ScriptExtension
import LintRepair.Yaml.Cursor
import LintRepair.Yaml.Decode
import LintRepair.Yaml.Node
import LintRepair.Yaml.Scalar
import LintRepair.Yaml.Token
import LintRepair.Proofs.PathComponents
import LintRepair.Proofs.Scope
import LintRepair.Proofs.Edits
import LintRepair.Proofs.CampaignTrace
import LintRepair.Proofs.Gating
import LintRepair.Proofs.Scanning
import LintRepair.Proofs.Messages
import LintRepair.Proofs.Locations
import LintRepair.Proofs.Independence
import LintRepair.Proofs.RoundTrip
import LintRepair.Proofs.Summaries
import LintRepair.Proofs.ParameterSites
import LintRepair.Proofs.ParameterMarks
import LintRepair.Proofs.OneLine
import LintRepair.Proofs.ParameterBatch
import LintRepair.Proofs.PassReuse
import LintRepair.Proofs.Containment
import LintRepair.Proofs.LineLocality
import LintRepair.Proofs.ParameterEffect
import LintRepair.Proofs.ParameterRepeat
import LintRepair.Proofs.FindingOrder
import LintRepair.Proofs.SourceWalk
import LintRepair.Proofs.ContentBatch
import LintRepair.Proofs.WhiteSpace
import LintRepair.Proofs.CatchClauses
import LintRepair.Proofs.CatchEffect
import LintRepair.Proofs.CatchRepeat
import LintRepair.Proofs.Substituting
import LintRepair.Proofs.Narrowings
import LintRepair.Proofs.NarrowingPasses
import LintRepair.Proofs.BatchRepeat
import LintRepair.Proofs.NarrowingRepeat
import LintRepair.Proofs.NarrowingEffect
import LintRepair.Proofs.Backing
import LintRepair.Proofs.PatternMatches
import LintRepair.Proofs.LineRemoval
import LintRepair.Proofs.DeclarationBlocks
import LintRepair.Proofs.DeclarationEffect
import LintRepair.Proofs.DeclarationRepeat
import LintRepair.Proofs.LineProgress
import LintRepair.Proofs.Accounting
import LintRepair.Proofs.FileCount
import LintRepair.Proofs.Truncation
import LintRepair.Proofs.SourceSelection
import LintRepair.Proofs.NarrowingLines
import LintRepair.Proofs.IssueCounts
import LintRepair.Proofs.ResolvedIssues
import LintRepair.Proofs.JsonDocuments
import LintRepair.Proofs.NormalForm
import LintRepair.Proofs.LineEdits
import LintRepair.Proofs.RemedyOrder

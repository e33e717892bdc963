import AgentPackage.Audit.Findings
import AgentPackage.Audit.Followed
import AgentPackage.Audit.Issue
import AgentPackage.Audit.Report
import AgentPackage.Audit.Rules.Agents
import AgentPackage.Audit.Rules.EnvironmentFile
import AgentPackage.Audit.Rules.Evaluations
import AgentPackage.Audit.Rules.GlobalInstruction
import AgentPackage.Audit.Rules.GuardrailReferences
import AgentPackage.Audit.Rules.Instructions
import AgentPackage.Audit.Rules.NestingDepth
import AgentPackage.Audit.Rules.RootAgent
import AgentPackage.Audit.Rules.RootManifest
import AgentPackage.Audit.Rules.Toolsets
import AgentPackage.Audit.Rules.UnsupportedDirectories
import AgentPackage.Audit.Run
import AgentPackage.CommandLine.Arguments
import AgentPackage.CommandLine.Output
import AgentPackage.CommandLine.ReportText
import AgentPackage.CommandLine.Run
import AgentPackage.Configuration.Basic
import AgentPackage.Configuration.Coercion
import AgentPackage.Configuration.Loading
import AgentPackage.Decimal.FloatText
import AgentPackage.Decimal.Shortest
import AgentPackage.Disk
import AgentPackage.Document
import AgentPackage.Failure
import AgentPackage.FileTree.Basic
import AgentPackage.FileTree.Path
import AgentPackage.FileTree.Read
import AgentPackage.FileTree.Resolve
import AgentPackage.FileTree.Write
import AgentPackage.Instruction.Basic
import AgentPackage.Instruction.Markup
import AgentPackage.Json.Error
import AgentPackage.Json.Reader
import AgentPackage.Json.Writer
import AgentPackage.Main
import AgentPackage.Manifest.Cleaning
import AgentPackage.Manifest.Kinds
import AgentPackage.Manifest.Shape
import AgentPackage.Package.Declared
import AgentPackage.Package.Discovery
import AgentPackage.Package.Index
import AgentPackage.Package.Inventory
import AgentPackage.Package.Model
import AgentPackage.Proofs.Audit.Codes
import AgentPackage.Proofs.Audit.EntityKinds
import AgentPackage.Proofs.Audit.EnvironmentFile
import AgentPackage.Proofs.Audit.Evaluations
import AgentPackage.Proofs.Audit.GlobalInstruction
import AgentPackage.Proofs.Audit.Guardrails
import AgentPackage.Proofs.Audit.InstructionFiles
import AgentPackage.Proofs.Audit.Instructions
import AgentPackage.Proofs.Audit.Isolation
import AgentPackage.Proofs.Audit.LineNumbers
import AgentPackage.Proofs.Audit.LocalAddress
import AgentPackage.Proofs.Audit.Locality
import AgentPackage.Proofs.Audit.MissingValues
import AgentPackage.Proofs.Audit.NestingDepth
import AgentPackage.Proofs.Audit.Report
import AgentPackage.Proofs.Audit.RootAgent
import AgentPackage.Proofs.Audit.RuleOrder
import AgentPackage.Proofs.Audit.Schemas
import AgentPackage.Proofs.Audit.Soundness
import AgentPackage.Proofs.Audit.Steps
import AgentPackage.Proofs.Audit.Unloaded
import AgentPackage.Proofs.CommandLine.Validate
import AgentPackage.Proofs.Configuration.Loading
import AgentPackage.Proofs.Document
import AgentPackage.Proofs.Document.Plain
import AgentPackage.Proofs.Except
import AgentPackage.Proofs.FileTree.Following
import AgentPackage.Proofs.FileTree.Listed
import AgentPackage.Proofs.FileTree.Names
import AgentPackage.Proofs.FileTree.Outline
import AgentPackage.Proofs.Findings
import AgentPackage.Proofs.Instruction.Joining
import AgentPackage.Proofs.Instruction.LineBreaks
import AgentPackage.Proofs.Instruction.Numbering
import AgentPackage.Proofs.Instruction.Pairing
import AgentPackage.Proofs.Instruction.References
import AgentPackage.Proofs.Instruction.Scanning
import AgentPackage.Proofs.Instruction.Sections
import AgentPackage.Proofs.Instruction.Tags
import AgentPackage.Proofs.Instruction.ToolCalls
import AgentPackage.Proofs.Json.Depth
import AgentPackage.Proofs.Json.Reader
import AgentPackage.Proofs.Json.Values
import AgentPackage.Proofs.Manifest.Cleaning
import AgentPackage.Proofs.Manifest.Dropping
import AgentPackage.Proofs.Manifest.Keys
import AgentPackage.Proofs.Manifest.Locations
import AgentPackage.Proofs.Manifest.Misfits
import AgentPackage.Proofs.Manifest.Records
import AgentPackage.Proofs.Manifest.Rounds
import AgentPackage.Proofs.Manifest.Texts
import AgentPackage.Proofs.Manifest.Toolsets
import AgentPackage.Proofs.Manifest.Ways
import AgentPackage.Proofs.Package.Agents
import AgentPackage.Proofs.Package.Closed
import AgentPackage.Proofs.Package.Completion
import AgentPackage.Proofs.Package.Declared
import AgentPackage.Proofs.Package.Discovery
import AgentPackage.Proofs.Package.Entities
import AgentPackage.Proofs.Package.Index
import AgentPackage.Proofs.Package.Inventory
import AgentPackage.Proofs.Package.Listing
import AgentPackage.Proofs.Package.Outline
import AgentPackage.Proofs.Package.Places
import AgentPackage.Proofs.Package.Rebuild
import AgentPackage.Proofs.Package.Resolution
import AgentPackage.Proofs.Package.Scans
import AgentPackage.Proofs.Package.Walk
import AgentPackage.Proofs.Session
import AgentPackage.Proofs.Sorting
import AgentPackage.Proofs.Terminal.Markup
import AgentPackage.Proofs.Text.Blanks
import AgentPackage.Proofs.Text.Lines
import AgentPackage.Proofs.Text.Occurrence
import AgentPackage.Proofs.Yaml.Building
import AgentPackage.Proofs.Yaml.Composing
import AgentPackage.Proofs.Yaml.Scanning
import AgentPackage.Session
import AgentPackage.Sorting
import AgentPackage.Terminal.Constant
import AgentPackage.Terminal.Emoji
import AgentPackage.Terminal.Emoji.Names
import AgentPackage.Terminal.Markup
import AgentPackage.Terminal.Style
import AgentPackage.Terminal.Style.Colours
import AgentPackage.Terminal.Styled
import AgentPackage.Terminal.Table
import AgentPackage.Terminal.Wrap
import AgentPackage.Text.Base64
import AgentPackage.Text.Blank
import AgentPackage.Text.Cluster
import AgentPackage.Text.CodePoints
import AgentPackage.Text.Digits
import AgentPackage.Text.IgnoreCase
import AgentPackage.Text.Lines
import AgentPackage.Text.LowerCase
import AgentPackage.Text.LowerCase.Table
import AgentPackage.Text.Printable
import AgentPackage.Text.Quoted
import AgentPackage.Text.Split
import AgentPackage.Text.Utf8
import AgentPackage.Text.Width
import AgentPackage.Text.WordCharacters
import AgentPackage.Value.Basic
import AgentPackage.Value.Calendar
import AgentPackage.Value.Copy
import AgentPackage.Value.Fault
import AgentPackage.Value.Numeral
import AgentPackage.Value.Shown
import AgentPackage.Yaml.Cursor
import AgentPackage.Yaml.Event
import AgentPackage.Yaml.Implicit
import AgentPackage.Yaml.Mark
import AgentPackage.Yaml.Merge
import AgentPackage.Yaml.Name
import AgentPackage.Yaml.Node
import AgentPackage.Yaml.Reader
import AgentPackage.Yaml.ScalarText
import AgentPackage.Yaml.ScalarValue
import AgentPackage.Yaml.Token
import AgentPackage.Yaml.TokenStream

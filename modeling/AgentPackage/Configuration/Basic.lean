/-!
# Configurations

What can be set for an audit: how deep files may lie, which directories are refused, which
findings count, and how the report is written. Every setting has a default.
-/

namespace AgentPackage

/-- The layouts of a report. -/
inductive OutputFormat where
  /-- Lines and headings for people. -/
  | table
  /-- A JSON object. -/
  | json
  /-- A Markdown document. -/
  | markdown
  deriving DecidableEq, Repr, Inhabited

namespace OutputFormat

/-- The word for a layout. -/
def name : OutputFormat → String
  | .table => "table"
  | .json => "json"
  | .markdown => "markdown"

/-- All layouts. -/
def all : List OutputFormat := [.table, .json, .markdown]

end OutputFormat

/-- How much is logged. -/
inductive LogLevel where
  /-- Errors only. -/
  | error
  /-- Warnings too. -/
  | warn
  /-- What is being done. -/
  | info
  /-- Every step. -/
  | debug
  deriving DecidableEq, Repr, Inhabited

namespace LogLevel

/-- The word for a level. -/
def name : LogLevel → String
  | .error => "error"
  | .warn => "warn"
  | .info => "info"
  | .debug => "debug"

/-- All levels. -/
def all : List LogLevel := [.error, .warn, .info, .debug]

end LogLevel

/-- What can be set for the rules of an audit. -/
structure AuditSettings where
  /-- How many names may follow that of a folder of agents, tools or examples. -/
  rootDepthLimit : Int := 2
  /-- How many names may follow that of the folder of toolsets. -/
  toolsetDepthLimit : Int := 3
  /-- How many names may follow that of the folder of guardrails. -/
  guardrailDepthLimit : Int := 2
  /-- The directories that are refused at the root of a package. -/
  unsupportedDirectories : List String := ["evaluationDatasets"]
  /-- Whether local addresses in the environment file are reported. -/
  warnOnLocalhost : Bool := true
  /-- Whether warnings count as failure. -/
  failOnWarnings : Bool := false
  deriving DecidableEq, Repr, Inhabited

/-- A configuration. -/
structure Configuration where
  /-- The settings of the rules. -/
  audit : AuditSettings := {}
  /-- The layout of the report. -/
  outputFormat : OutputFormat := .table
  /-- How much is logged. -/
  logLevel : LogLevel := .warn
  deriving DecidableEq, Repr, Inhabited

end AgentPackage

import AgentWorkflow.Text.Basic
import AgentWorkflow.Text.Case
import AgentWorkflow.Text.Printable
import AgentWorkflow.Text.Identifier
import AgentWorkflow.Text.Blank
import AgentWorkflow.Text.Digit
import AgentWorkflow.Text.Quoted
import AgentWorkflow.Text.Utf8
import AgentWorkflow.Number.Shortest
import AgentWorkflow.Number.Literal
import AgentWorkflow.Json.Reader
import AgentWorkflow.Naming.Identifier
import AgentWorkflow.Naming.Distinct
import AgentWorkflow.Source.Literal
import AgentWorkflow.Workflow.Document
import AgentWorkflow.Project.Requirements
import AgentWorkflow.Tools.Catalogue
import AgentWorkflow.Preflight.Deployment
import AgentWorkflow.Project.Files
import AgentWorkflow.Compilation.Outcome
import AgentWorkflow.Source.Bracket
import AgentWorkflow.Source.Syntax
import AgentWorkflow.Compilation.Notice
import AgentWorkflow.Service.Settings
import AgentWorkflow.Workflow.Edit
import AgentWorkflow.Disk.DiskPath
import AgentWorkflow.Disk.Tree
import AgentWorkflow.Console.Command
import AgentWorkflow.Console.Load
import AgentWorkflow.Console.Run
import AgentWorkflow.Json.Compact
import AgentWorkflow.Service.Form
import AgentWorkflow.Service.Reply
import AgentWorkflow.Service.Server
import AgentWorkflow.Main
import AgentWorkflow.Proofs.Naming.Words
import AgentWorkflow.Proofs.Source.Literals
import AgentWorkflow.Proofs.Source.Twins
import AgentWorkflow.Proofs.Number.Points
import AgentWorkflow.Proofs.Compilation.Exits
import AgentWorkflow.Proofs.Project.Containment
import AgentWorkflow.Proofs.Workflow.Cycles
import AgentWorkflow.Proofs.Workflow.Walk
import AgentWorkflow.Proofs.Workflow.RoundTrip
import AgentWorkflow.Proofs.Workflow.Grammar
import AgentWorkflow.Proofs.Project.Supervision
import AgentWorkflow.Proofs.Naming.Conventions
import AgentWorkflow.Proofs.Preflight.Formats
import AgentWorkflow.Proofs.Preflight.Findings
import AgentWorkflow.Proofs.Preflight.Paths
import AgentWorkflow.Proofs.Preflight.Verdict
import AgentWorkflow.Proofs.Preflight.Names
import AgentWorkflow.Proofs.Workflow.Renaming
import AgentWorkflow.Proofs.Project.Renaming
import AgentWorkflow.Proofs.Source.References
import AgentWorkflow.Proofs.Project.References
import AgentWorkflow.Proofs.Source.Blocks
import AgentWorkflow.Proofs.Project.ToolsProgram
import AgentWorkflow.Proofs.Project.ToolAgreement
import AgentWorkflow.Proofs.Service.Documents
import AgentWorkflow.Proofs.Service.Switching
import AgentWorkflow.Proofs.Service.Generating
import AgentWorkflow.Proofs.Console.Agreement
import AgentWorkflow.Proofs.Console.Breaking
import AgentWorkflow.Proofs.Project.KindSwitches
import AgentWorkflow.Proofs.Console.Escapes
import AgentWorkflow.Proofs.Workflow.Unread
import AgentWorkflow.Proofs.Project.Credentials
import AgentWorkflow.Proofs.Service.Limiting
import AgentWorkflow.Proofs.Source.Decoding
import AgentWorkflow.Proofs.Project.Shadowing
import AgentWorkflow.Proofs.Tools.Additions
import AgentWorkflow.Proofs.Preflight.Passing
import AgentWorkflow.Proofs.Project.ToolNames
import AgentWorkflow.Proofs.Hash.Framing
import AgentWorkflow.Proofs.Service.Reporting
import AgentWorkflow.Proofs.Project.Furnishing
import AgentWorkflow.Proofs.Project.Dependencies
import AgentWorkflow.Proofs.Project.Destination
import AgentWorkflow.Proofs.Project.Overview
import AgentWorkflow.Proofs.Naming.Numbering
import AgentWorkflow.Proofs.Naming.Forms
import AgentWorkflow.Proofs.Project.UnreadVariables
import AgentWorkflow.Proofs.Workflow.Nulls

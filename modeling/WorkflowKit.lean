import WorkflowKit.Log
import WorkflowKit.Manager
import WorkflowKit.Proofs.Markup.Canonical
import WorkflowKit.Proofs.Markup.Kept
import WorkflowKit.Proofs.Markup.Schema
import WorkflowKit.Workflow.Edit
import WorkflowKit.Proofs.Yaml.Double
import WorkflowKit.Proofs.Yaml.Plain
import WorkflowKit.Proofs.Yaml.Scan
import WorkflowKit.Proofs.Yaml.Single
import WorkflowKit.Proofs.Manager.Validation
import WorkflowKit.Proofs.Decode.Id
import WorkflowKit.Proofs.Json.Fault
import WorkflowKit.Proofs.Markup.Refusal
import WorkflowKit.Proofs.Expression.Condition
import WorkflowKit.Proofs.Expression.Grammar
import WorkflowKit.Proofs.Expression.Normal
import WorkflowKit.Proofs.Expression.Reading
import WorkflowKit.Proofs.Expression.Stable
import WorkflowKit.Proofs.Expression.Verdict
import WorkflowKit.Proofs.Expression.Constants
import WorkflowKit.Proofs.Expression.Numerals
import WorkflowKit.Proofs.Expression.Lexed
import WorkflowKit.Proofs.Expression.Literals
import WorkflowKit.Proofs.Json.Float
import WorkflowKit.Proofs.Json.Spelling
import WorkflowKit.Proofs.Manager.Isolation
import WorkflowKit.Proofs.Markup.Numbers
import WorkflowKit.Proofs.Evaluator.Registry
import WorkflowKit.Proofs.Expression.Fault
import WorkflowKit.Proofs.Manager.Lookup
import WorkflowKit.Manager.Session
import WorkflowKit.Proofs.Manager.Session
import WorkflowKit.Proofs.Markup.Yaml
import WorkflowKit.Proofs.Evaluator.Verdict
import WorkflowKit.Proofs.Workflow.Matching
import WorkflowKit.Proofs.Decode.Order
import WorkflowKit.Proofs.Workflow.Order
import WorkflowKit.Proofs.Manager.Order
import WorkflowKit.Proofs.Manager.Memory
import WorkflowKit.Proofs.Expression.Renaming
import WorkflowKit.Proofs.Expression.Synonyms
import WorkflowKit.Proofs.Evaluator.Interchange
import WorkflowKit.Proofs.Evaluator.Mention
import WorkflowKit.Proofs.Expression.Chain
import WorkflowKit.Proofs.Text.Line
import WorkflowKit.Proofs.Template.Properties

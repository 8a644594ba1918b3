import ParamTypes.Batch
import ParamTypes.Comment.Read
import ParamTypes.LogFormat
import ParamTypes.Options.Document
import ParamTypes.Proofs.Batch.Report
import ParamTypes.Proofs.Batch.Schedule
import ParamTypes.Proofs.Batch.Shared
import ParamTypes.Proofs.Batch.Task
import ParamTypes.Proofs.Comment.Blocks
import ParamTypes.Proofs.Comment.Content
import ParamTypes.Proofs.Comment.Delimiters
import ParamTypes.Proofs.Comment.EmptyLines
import ParamTypes.Proofs.Comment.Framed
import ParamTypes.Proofs.Comment.Index
import ParamTypes.Proofs.Comment.LeadingType
import ParamTypes.Proofs.Comment.Lookup
import ParamTypes.Proofs.Comment.QuotedSections
import ParamTypes.Proofs.Comment.RoundTrip
import ParamTypes.Proofs.Comment.Segmentation
import ParamTypes.Proofs.Comment.WellFormed
import ParamTypes.Proofs.Comment.WrittenName
import ParamTypes.Proofs.Comment.WrittenTag
import ParamTypes.Proofs.Declaration.Arity
import ParamTypes.Proofs.Declaration.Callers
import ParamTypes.Proofs.Declaration.Components
import ParamTypes.Proofs.Diagnostic.Report
import ParamTypes.Proofs.Diagnostic.Template
import ParamTypes.Proofs.Json.Number
import ParamTypes.Proofs.Json.Quoted
import ParamTypes.Proofs.Json.Tokens
import ParamTypes.Proofs.Json.Written
import ParamTypes.Proofs.Options.Document
import ParamTypes.Proofs.Options.Reference
import ParamTypes.Proofs.Reconciliation.AtomOrder
import ParamTypes.Proofs.Reconciliation.ChangedTag
import ParamTypes.Proofs.Reconciliation.Frame
import ParamTypes.Proofs.Reconciliation.MergedType
import ParamTypes.Proofs.Reconciliation.Messages
import ParamTypes.Proofs.Reconciliation.Reordering
import ParamTypes.Proofs.Reconciliation.SecondPass
import ParamTypes.Proofs.Reconciliation.WiderTypes
import ParamTypes.Proofs.Respacing.Basic
import ParamTypes.Proofs.Respacing.Blocks
import ParamTypes.Proofs.Respacing.Edits
import ParamTypes.Proofs.Respacing.ParamTag
import ParamTypes.Proofs.Respacing.Rewrapping
import ParamTypes.Proofs.Respacing.TypeExpr
import ParamTypes.Proofs.Signature.Masks
import ParamTypes.Proofs.Text
import ParamTypes.Proofs.TypeExpr.Brackets
import ParamTypes.Proofs.TypeExpr.Composition
import ParamTypes.Proofs.TypeExpr.Cut
import ParamTypes.Proofs.TypeExpr.Decomposition
import ParamTypes.Proofs.TypeExpr.Grammar
import ParamTypes.Proofs.TypeExpr.Spelling
import ParamTypes.Proofs.TypeExpr.WrittenType
import ParamTypes.Proofs.UnionType.Equality
import ParamTypes.Proofs.UnionType.History

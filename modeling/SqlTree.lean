import SqlTree.Attribute
import SqlTree.Blueprint
import SqlTree.Blueprint.Audit
import SqlTree.Blueprint.Bytes
import SqlTree.Blueprint.Decode
import SqlTree.Blueprint.Reader
import SqlTree.Clone
import SqlTree.Dialect
import SqlTree.Edit
import SqlTree.Equality
import SqlTree.Error
import SqlTree.Feed
import SqlTree.Feed.Word
import SqlTree.Identity
import SqlTree.Lookup
import SqlTree.Node.Any
import SqlTree.Node.CreateTable
import SqlTree.Node.DataType
import SqlTree.Node.Element
import SqlTree.Node.Expr
import SqlTree.Node.Keyword
import SqlTree.Node.Parameter
import SqlTree.Node.Source
import SqlTree.Node.Value
import SqlTree.Node.Verbatim
import SqlTree.NodeInfo
import SqlTree.Number.Binary64
import SqlTree.Number.Shortest
import SqlTree.OrderedMap
import SqlTree.Proofs.Audited
import SqlTree.Proofs.Bags
import SqlTree.Proofs.Bare
import SqlTree.Proofs.Blindness
import SqlTree.Proofs.Built
import SqlTree.Proofs.CaseFolding
import SqlTree.Proofs.Ceiling
import SqlTree.Proofs.Clauses
import SqlTree.Proofs.Commands
import SqlTree.Proofs.Comments
import SqlTree.Proofs.Copies
import SqlTree.Proofs.Decimals
import SqlTree.Proofs.Decoded
import SqlTree.Proofs.Delimited
import SqlTree.Proofs.Editing
import SqlTree.Proofs.Equivariance
import SqlTree.Proofs.Family
import SqlTree.Proofs.Grouping
import SqlTree.Proofs.Growth
import SqlTree.Proofs.Hashing
import SqlTree.Proofs.Histories
import SqlTree.Proofs.Levels
import SqlTree.Proofs.Likeness
import SqlTree.Proofs.Literals
import SqlTree.Proofs.Lookups
import SqlTree.Proofs.Making
import SqlTree.Proofs.Mirrors
import SqlTree.Proofs.Nested
import SqlTree.Proofs.Obstacles
import SqlTree.Proofs.Owners
import SqlTree.Proofs.Ownership
import SqlTree.Proofs.Presentation
import SqlTree.Proofs.Quoting
import SqlTree.Proofs.Renaming
import SqlTree.Proofs.Rewalks
import SqlTree.Proofs.Sessions
import SqlTree.Proofs.Setters
import SqlTree.Proofs.Spellings
import SqlTree.Proofs.Substitution
import SqlTree.Proofs.Supplies
import SqlTree.Proofs.Walked
import SqlTree.Render
import SqlTree.Replace
import SqlTree.Text.CaseTable
import SqlTree.Text.Delimited
import SqlTree.Text.Lowercase
import SqlTree.Text.Normalizer
import SqlTree.Text.PrintTable
import SqlTree.Text.Quoted
import SqlTree.Text.Ranges
import SqlTree.Walk.Depth
import SqlTree.Walk.Outline
import SqlTree.Walk.ParentIndex
import SqlTree.Walk.Trace
import SqlTree.Walk.Visitor

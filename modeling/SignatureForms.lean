import SignatureForms.Unicode.Number
import SignatureForms.Unicode.Lowercase
import SignatureForms.Unicode.Printable
import SignatureForms.Unicode.Blank
import SignatureForms.Json.Writer
import SignatureForms.Json.Reader
import SignatureForms.Condition
import SignatureForms.Budget
import SignatureForms.Fault
import SignatureForms.Document.Module
import SignatureForms.Naming.Resolve
import SignatureForms.Naming.Registry
import SignatureForms.ParamTree.Depth
import SignatureForms.ParamTree.OfOperation
import SignatureForms.Wire.Descriptor
import SignatureForms.Form.Layout
import SignatureForms.Report.Html
import SignatureForms.Artifact.Files
import SignatureForms.Main
import SignatureForms.Proofs.ParamTree.Derivation
import SignatureForms.Proofs.ParamTree.Labels
import SignatureForms.Proofs.ParamTree.Accounting
import SignatureForms.Proofs.ParamTree.Evaluation
import SignatureForms.Proofs.ParamTree.Simulation
import SignatureForms.Proofs.Condition.Merge
import SignatureForms.Proofs.Form.Controls
import SignatureForms.Proofs.Form.Traversal
import SignatureForms.Proofs.Wire.Agreement
import SignatureForms.Proofs.Naming.ControlNames
import SignatureForms.Proofs.ParamTree.Wiring
import SignatureForms.Proofs.Form.Visibility
import SignatureForms.Proofs.Form.Columns
import SignatureForms.Proofs.Naming.Numerals
import SignatureForms.Proofs.Naming.Reservations
import SignatureForms.Proofs.Steps
import SignatureForms.Proofs.Entities
import SignatureForms.Proofs.Artifact.OperationNames
import SignatureForms.Proofs.Wire.Keys
import SignatureForms.Proofs.Wire.Fields
import SignatureForms.Proofs.Wire.Numbering
import SignatureForms.Proofs.ParamTree.Leaves
import SignatureForms.Proofs.Artifact.Refusals
import SignatureForms.Proofs.Wire.Completeness
import SignatureForms.Proofs.ParamTree.Subtrees
import SignatureForms.Proofs.ParamTree.Shape
import SignatureForms.Proofs.ParamTree.Saturation
import SignatureForms.Proofs.ParamTree.Reachability
import SignatureForms.Proofs.ParamTree.Simplification
import SignatureForms.Proofs.Form.Unfolding
import SignatureForms.Proofs.Wire.Soundness
import SignatureForms.Proofs.ParamTree.Arrangement
import SignatureForms.Proofs.ParamTree.Cutoff
import SignatureForms.Proofs.Wire.Elements
import SignatureForms.Proofs.ParamTree.Renumbering
import SignatureForms.Proofs.Artifact.Renumbering
import SignatureForms.Proofs.Document.Blocks
import SignatureForms.Proofs.Document.Following
import SignatureForms.Proofs.Document.NamedTypes
import SignatureForms.Proofs.Document.TableOrder
import SignatureForms.Proofs.Artifact.Announcements
import SignatureForms.Proofs.ParamTree.Representation
import SignatureForms.Proofs.Artifact.Conservation
import SignatureForms.Proofs.Console.Places
import SignatureForms.Proofs.Artifact.FilePaths
import SignatureForms.Proofs.ParamTree.Correspondence
import SignatureForms.Proofs.Document.References
import SignatureForms.Proofs.Document.Loading
import SignatureForms.Proofs.Document.Parts
import SignatureForms.Proofs.Document.Inlining
import SignatureForms.Proofs.Artifact.ClosedRecords
import SignatureForms.Proofs.Form.Switches
import SignatureForms.Proofs.ParamTree.TableColumns
import SignatureForms.Proofs.ParamTree.Choices
import SignatureForms.Proofs.Form.Choices
import SignatureForms.Proofs.ParamTree.DoubledUnions
import SignatureForms.Proofs.Condition.OrderedUnion
import SignatureForms.Proofs.Wire.Emission
import SignatureForms.Proofs.Form.Tables
import SignatureForms.Proofs.Naming.Identifiers
import SignatureForms.Proofs.Artifact.OfferedNames
import SignatureForms.Proofs.Report.Markup
import SignatureForms.Proofs.Report.Reading
import SignatureForms.Proofs.Report.Sections
import SignatureForms.Proofs.Document.Shapes
import SignatureForms.Proofs.Document.Auditing
import SignatureForms.Proofs.Wire.Escaping
import SignatureForms.Proofs.Naming.TypeWords
import SignatureForms.Proofs.Naming.PathTexts
import SignatureForms.Proofs.Report.Outlines

import ErSchema.CommandLine.Run
import ErSchema.CommandLine.Usage
import ErSchema.FileSystem.Tree
import ErSchema.Main
import ErSchema.Model.Construction
import ErSchema.Model.Hierarchy
import ErSchema.Processing
import ErSchema.Proofs.Identification
import ErSchema.Proofs.Dot.Reader
import ErSchema.Proofs.Dot.RoundTrip
import ErSchema.Proofs.Prescription
import ErSchema.Proofs.Assembly
import ErSchema.Proofs.Schema.Findings
import ErSchema.Proofs.Schema.Description
import ErSchema.Proofs.Schema.Invariant
import ErSchema.Proofs.Schema.Acceptance
import ErSchema.Proofs.Diagram.Node
import ErSchema.Proofs.Diagram.Nodes
import ErSchema.Proofs.Diagram.Separation
import ErSchema.Proofs.Schema.Separation
import ErSchema.Proofs.Division
import ErSchema.Proofs.Diagram.Closure
import ErSchema.Proofs.Validation.Identification
import ErSchema.Proofs.Validation.Increment
import ErSchema.Proofs.Extension
import ErSchema.Proofs.Schema.References
import ErSchema.Proofs.Renaming
import ErSchema.Proofs.Validation.Renaming
import ErSchema.Proofs.Schema.Reordering
import ErSchema.Proofs.Validation.Degree
import ErSchema.Proofs.Diagram.Links
import ErSchema.Proofs.Hierarchy
import ErSchema.Proofs.Path
import ErSchema.Proofs.FileSystem.Tree
import ErSchema.Proofs.CommandLine.Processing
import ErSchema.Proofs.CommandLine.Outputs
import ErSchema.Proofs.CommandLine.Batch
import ErSchema.Proofs.CommandLine.Diagrams
import ErSchema.Proofs.Ascent
import ErSchema.Proofs.InPlace
import ErSchema.Proofs.Refusal
import ErSchema.Proofs.Validation.ValidLinks
import ErSchema.Proofs.Diagram.Keys
import ErSchema.Proofs.Unicode.CaseImages
import ErSchema.Proofs.Name.Settled
import ErSchema.Proofs.Schema.Naming
import ErSchema.Proofs.Schema.Resolution
import ErSchema.Proofs.Validation.Outcomes
import ErSchema.Proofs.Parts
import ErSchema.Proofs.Lines
import ErSchema.Proofs.Validation.KeyRules
import ErSchema.Proofs.Validation.Lines
import ErSchema.Proofs.Dot.Identifier
import ErSchema.Proofs.Schema.Parts
import ErSchema.Proofs.Diagram.Labels
import ErSchema.Proofs.Name.Words
import ErSchema.Proofs.CommandLine.Omission

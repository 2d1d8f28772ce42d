import ClientGen.Main
import ClientGen.Proofs.Class.Additions
import ClientGen.Proofs.Class.Scope
import ClientGen.Proofs.Diagnostics.History
import ClientGen.Proofs.Diagnostics.Message
import ClientGen.Proofs.Document.Acceptance
import ClientGen.Proofs.Generation.ClassNames
import ClientGen.Proofs.Generation.CleanRun
import ClientGen.Proofs.Generation.DryRun
import ClientGen.Proofs.Generation.Duplicates
import ClientGen.Proofs.Generation.Order
import ClientGen.Proofs.Generation.OverloadTypes
import ClientGen.Proofs.Generation.Overloads
import ClientGen.Proofs.Generation.QueryParameters
import ClientGen.Proofs.Generation.Siblings
import ClientGen.Proofs.Generation.Skipped
import ClientGen.Proofs.Generation.Warnings
import ClientGen.Proofs.JavaSource.Chain
import ClientGen.Proofs.JavaSource.DocComment
import ClientGen.Proofs.JavaSource.StringLiteral
import ClientGen.Proofs.Naming.NormalForm
import ClientGen.Proofs.Naming.Projection
import ClientGen.Proofs.Navigation.Identifiers
import ClientGen.Proofs.Navigation.Placeholder
import ClientGen.Proofs.Output.ClassJson
import ClientGen.Proofs.Output.PackageDirectory
import ClientGen.Proofs.ParametersClass.Layout
import ClientGen.Proofs.Service.Lookup
import ClientGen.Proofs.TypeTable.Reference
import ClientGen.Proofs.TypeTable.ReservedWords

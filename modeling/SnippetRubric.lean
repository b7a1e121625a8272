import SnippetRubric.Main
import SnippetRubric.Proofs.Handle.Grounded
import SnippetRubric.Proofs.Tree.Copying
import SnippetRubric.Proofs.Tree.NormalForm
import SnippetRubric.Proofs.Rubric.Resolution
import SnippetRubric.Proofs.Handle.Source
import SnippetRubric.Proofs.Rubric.Absence
import SnippetRubric.Proofs.Rubric.Formatting
import SnippetRubric.Proofs.Fragment.Reading
import SnippetRubric.Proofs.Handle.Reachable
import SnippetRubric.Proofs.Files.Joining
import SnippetRubric.Proofs.Rubric.Validity
import SnippetRubric.Proofs.Rubric.Containment
import SnippetRubric.Proofs.Tree.Walking
import SnippetRubric.Proofs.Handle.TopLevel
import SnippetRubric.Proofs.Rubric.Decoding
import SnippetRubric.Proofs.Command.ExitStatus
import SnippetRubric.Proofs.Fragment.Whole
import SnippetRubric.Proofs.Handle.Annotations
import SnippetRubric.Proofs.Handle.Declarators
import SnippetRubric.Proofs.Handle.IfChains
import SnippetRubric.Proofs.Handle.NestedBodies
import SnippetRubric.Proofs.Handle.Exports
import SnippetRubric.Proofs.Handle.Callees
import SnippetRubric.Proofs.Rubric.Exporting
import SnippetRubric.Proofs.Handle.TypeMembers
import SnippetRubric.Proofs.Rubric.MemberChecks
import SnippetRubric.Proofs.Handle.TextMatching
import SnippetRubric.Proofs.Handle.LoneExports
import SnippetRubric.Proofs.Handle.ClassMembers
import SnippetRubric.Proofs.Handle.IntegerLiterals
import SnippetRubric.Proofs.Text.Positions
import SnippetRubric.Proofs.Tree.Addresses
import SnippetRubric.Proofs.Tree.SourceOrder
import SnippetRubric.Proofs.Tree.DamageReports
import SnippetRubric.Proofs.Handle.ListingOrder

import TemplateWiring.Exchange.Pass
import TemplateWiring.Proofs.Roots.Step
import TemplateWiring.Proofs.Roots.Collection
import TemplateWiring.Proofs.Roots.Leavers
import TemplateWiring.Proofs.Roots.Classes
import TemplateWiring.Proofs.Roots.Reports
import TemplateWiring.Proofs.Roots.Repetition
import TemplateWiring.Proofs.Roots.Account
import TemplateWiring.Proofs.Binding.Marking
import TemplateWiring.Proofs.Binding.Keys
import TemplateWiring.Proofs.Binding.Repetition
import TemplateWiring.Proofs.Sibling.Scan
import TemplateWiring.Proofs.Sibling.Name
import TemplateWiring.Proofs.Sibling.Precedence
import TemplateWiring.Proofs.Sibling.Pattern
import TemplateWiring.Proofs.Sibling.BaseName
import TemplateWiring.Proofs.Sibling.Split
import TemplateWiring.Proofs.Sibling.Subfolders
import TemplateWiring.Proofs.Sibling.Neighbour
import TemplateWiring.Proofs.Template.Numbered
import TemplateWiring.Proofs.Template.Height
import TemplateWiring.Proofs.Template.Normal
import TemplateWiring.Proofs.Tree.Grafting
import TemplateWiring.Proofs.Tree.Nested
import TemplateWiring.Proofs.Tree.Detaching
import TemplateWiring.Proofs.Walk.Depth
import TemplateWiring.Proofs.Walk.Entered
import TemplateWiring.Proofs.Behavior.Entries
import TemplateWiring.Proofs.Behavior.Overriding
import TemplateWiring.Proofs.Document.Pooling
import TemplateWiring.Proofs.Inline
import TemplateWiring.Proofs.Style
import TemplateWiring.Proofs.Wiring.Course
import TemplateWiring.Proofs.Wiring.Failing
import TemplateWiring.Proofs.Wiring.Bound
import TemplateWiring.Proofs.Wiring.Keys
import TemplateWiring.Proofs.Wiring.Ambiguity
import TemplateWiring.Proofs.Wiring.Remainder
import TemplateWiring.Proofs.Wiring.Foretold
import TemplateWiring.Proofs.Wiring.Interleaving
import TemplateWiring.Proofs.Wiring.Growth
import TemplateWiring.Proofs.Wiring.Conflicts
import TemplateWiring.Proofs.Json.Reading
import TemplateWiring.Proofs.Json.Shape
import TemplateWiring.Proofs.Json.Tagged
import TemplateWiring.Proofs.Json.Text
import TemplateWiring.Proofs.Json.Decoding
import TemplateWiring.Proofs.Json.Records
import TemplateWiring.Proofs.Json.Extent
import TemplateWiring.Proofs.Json.Rewriting
import TemplateWiring.Proofs.Json.Tolerance
import TemplateWiring.Proofs.Json.Variants
import TemplateWiring.Proofs.Exchange.Answer
import TemplateWiring.Proofs.Exchange.RoundTrip
import TemplateWiring.Proofs.Exchange.Nesting
import TemplateWiring.Proofs.Exchange.Reread
import TemplateWiring.Proofs.Exchange.Tolerance

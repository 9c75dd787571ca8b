import Switchyard.Command.Documents
import Switchyard.Command.Output
import Switchyard.Command.Run
import Switchyard.Configuration.Validation
import Switchyard.Main
import Switchyard.Port
import Switchyard.Router.Trace
import Switchyard.Steps
import Switchyard.Proofs.Rounding
import Switchyard.Proofs.Comparison
import Switchyard.Proofs.Json.Equality
import Switchyard.Proofs.Condition.Semantics
import Switchyard.Proofs.Router.Semantics
import Switchyard.Proofs.Condition.Equivalence
import Switchyard.Proofs.Router.Equivalence
import Switchyard.Proofs.Json.Reading
import Switchyard.Proofs.Command.Job
import Switchyard.Proofs.Command.Documents
import Switchyard.Proofs.Command.Run
import Switchyard.Proofs.Digits
import Switchyard.Proofs.Json.Literal
import Switchyard.Proofs.Json.Rereading
import Switchyard.Proofs.Json.RoundTrip
import Switchyard.Proofs.Command.Outcomes
import Switchyard.Proofs.Command.Input
import Switchyard.Proofs.Decoding.Printed
import Switchyard.Proofs.Decoding.Yields
import Switchyard.Proofs.Configuration.RoundTrip
import Switchyard.Proofs.Command.Framing
import Switchyard.Proofs.Scaling
import Switchyard.Proofs.Numeral
import Switchyard.Proofs.Json.Spelling
import Switchyard.Proofs.Condition.Quoting
import Switchyard.Proofs.Configuration.Validation
import Switchyard.Proofs.Steps
import Switchyard.Proofs.Router.Branches
import Switchyard.Proofs.Router.Noninterference
import Switchyard.Proofs.Router.Trace
import Switchyard.Proofs.Router.Ports
import Switchyard.Proofs.Path.Display
import Switchyard.Proofs.Path.Resolution
import Switchyard.Proofs.Path.Access
import Switchyard.Proofs.Rule.Expansion
import Switchyard.Proofs.Rule.Negation
import Switchyard.Proofs.Json.Identity
import Switchyard.Proofs.Numeral.Recognition
import Switchyard.Proofs.Appending
import Switchyard.Proofs.Numeral.Radix
import Switchyard.Proofs.Configuration.Report
import Switchyard.Proofs.Json.StringForm
import Switchyard.Proofs.Router.Equality
import Switchyard.Proofs.Numeral.Printed
import Switchyard.Proofs.Naming
import Switchyard.Proofs.Router.Fallback
import Switchyard.Proofs.Json.Grammar
import Switchyard.Proofs.Json.Locality
import Switchyard.Proofs.Json.Denotation
import Switchyard.Proofs.Json.Skipping
import Switchyard.Proofs.Decoding.Locality
import Switchyard.Proofs.Decoding.Members
import Switchyard.Proofs.Decoding.Drafts
import Switchyard.Proofs.Decoding.Rewording
import Switchyard.Proofs.Configuration.Rewording
import Switchyard.Proofs.Command.Lines

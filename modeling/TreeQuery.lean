import TreeQuery.Text
import TreeQuery.Integer
import TreeQuery.Params
import TreeQuery.Tree
import TreeQuery.Forest
import TreeQuery.Regex.Expr
import TreeQuery.Regex.Fault
import TreeQuery.Regex.Syntax
import TreeQuery.Regex.Parser
import TreeQuery.Regex.Meaning
import TreeQuery.Regex.Unicode.BinaryProperty
import TreeQuery.Regex.Unicode.Script
import TreeQuery.Regex.Unicode.Age
import TreeQuery.Regex.Unicode.Folding
import TreeQuery.Regex.Unicode.Property
import TreeQuery.Error
import TreeQuery.Pattern.Quote
import TreeQuery.Pattern.Item
import TreeQuery.Pattern
import TreeQuery.Json.Value
import TreeQuery.Json.Fault
import TreeQuery.Json.Number
import TreeQuery.Json.Reader
import TreeQuery.Json.Printer
import TreeQuery.Snapshot
import TreeQuery.Path.Segment
import TreeQuery.Path.Descent
import TreeQuery.Path.Frontier
import TreeQuery.Path.Plan
import TreeQuery.Path
import TreeQuery.Locator
import TreeQuery.Display
import TreeQuery.Invocation
import TreeQuery.Invocation.Usage
import TreeQuery.Invocation.Run
import TreeQuery.Main
import TreeQuery.Proofs.Path.Grammar
import TreeQuery.Proofs.Path.Parts
import TreeQuery.Proofs.Path.Opening
import TreeQuery.Proofs.Path.Composition
import TreeQuery.Proofs.Path.Quoting
import TreeQuery.Proofs.Path.OperatorEnd
import TreeQuery.Proofs.Locator.Soundness
import TreeQuery.Proofs.Path.Keys
import TreeQuery.Proofs.Locator.Description
import TreeQuery.Proofs.Locator.Completeness
import TreeQuery.Proofs.Path.Reach
import TreeQuery.Proofs.Path.Outcome
import TreeQuery.Proofs.Path.Search
import TreeQuery.Proofs.Path.Turns
import TreeQuery.Proofs.Path.Preorder
import TreeQuery.Proofs.Path.Alternatives
import TreeQuery.Proofs.Path.Fusion
import TreeQuery.Proofs.Path.Rootwise
import TreeQuery.Proofs.Path.Slices
import TreeQuery.Proofs.Path.Sorting
import TreeQuery.Proofs.Regex.Locality
import TreeQuery.Proofs.Regex.ClassLocality
import TreeQuery.Proofs.Regex.SelfContained
import TreeQuery.Proofs.Pattern.Written
import TreeQuery.Proofs.Pattern.Anchoring
import TreeQuery.Proofs.Pattern.Escaping
import TreeQuery.Proofs.Regex.Preference
import TreeQuery.Proofs.Integer.Numerals
import TreeQuery.Proofs.Pattern.Cuts
import TreeQuery.Proofs.Pattern.Matching
import TreeQuery.Proofs.Tree.Building
import TreeQuery.Proofs.Tree.History
import TreeQuery.Proofs.Params.Flags
import TreeQuery.Proofs.Json.RoundTrip
import TreeQuery.Proofs.Snapshot.Planting
import TreeQuery.Proofs.Snapshot.Matches
import TreeQuery.Proofs.Snapshot.Listing
import TreeQuery.Proofs.Invocation.Outcome
import TreeQuery.Proofs.Invocation.Single
import TreeQuery.Proofs.Pattern.Reading
import TreeQuery.Proofs.Access.Bytes
import TreeQuery.Proofs.Access.Checked
import TreeQuery.Proofs.Access.Scanning
import TreeQuery.Proofs.Access.Matching
import TreeQuery.Proofs.Access.Lines
import TreeQuery.Proofs.Access.Parameters
import TreeQuery.Proofs.Access.Slots
import TreeQuery.Proofs.Access.Queries
import TreeQuery.Proofs.Access.Locators
import TreeQuery.Proofs.Pattern.Ranges
import TreeQuery.Proofs.Locator.Shortest
import TreeQuery.Proofs.Path.Faults
import TreeQuery.Proofs.Locator.Chains
import TreeQuery.Proofs.Params.LetterCase
import TreeQuery.Proofs.Params.Frame
import TreeQuery.Proofs.Pattern.LetterCase
import TreeQuery.Proofs.Path.LetterCase

import ComponentInliner.About
import ComponentInliner.Main
import ComponentInliner.Proofs.Build.Editing
import ComponentInliner.Proofs.Component.Analysis
import ComponentInliner.Proofs.Component.Order
import ComponentInliner.Proofs.Build.History
import ComponentInliner.Proofs.Build.Registrations
import ComponentInliner.Build.Workspace
import ComponentInliner.Proofs.Build.Merging
import ComponentInliner.Proofs.Html.Reader
import ComponentInliner.Proofs.Html.RoundTrip
import ComponentInliner.Proofs.Component.Classification
import ComponentInliner.Proofs.Component.Cycle
import ComponentInliner.Proofs.Component.CycleSearch
import ComponentInliner.Proofs.Fold.Chains
import ComponentInliner.Proofs.Fold.Following
import ComponentInliner.Proofs.Fold.Knowledge
import ComponentInliner.Proofs.Fold.Learning
import ComponentInliner.Proofs.Fold.Locality
import ComponentInliner.Proofs.Fold.Shadowing
import ComponentInliner.Proofs.Build.Finishing
import ComponentInliner.Proofs.Build.LoadOrder
import ComponentInliner.Proofs.Command.Scalars
import ComponentInliner.Proofs.Component.Recursion
import ComponentInliner.Proofs.Component.Stability
import ComponentInliner.Proofs.Fold.Canonical
import ComponentInliner.Proofs.Config.Readable
import ComponentInliner.Proofs.Number.Layout
import ComponentInliner.Proofs.Command.Refusal
import ComponentInliner.Proofs.Value.Comparison
import ComponentInliner.Proofs.Value.Elements
import ComponentInliner.Proofs.Value.Equality
import ComponentInliner.Proofs.Value.Bitwise
import ComponentInliner.Proofs.Fold.Objects
import ComponentInliner.Proofs.Fold.Prototypes
import ComponentInliner.Proofs.Module.Exports
import ComponentInliner.Proofs.Script.Spellings
import ComponentInliner.Proofs.Script.LineEndings
import ComponentInliner.Proofs.Html.Bootstrap
import ComponentInliner.Proofs.Html.Runtime
import ComponentInliner.Proofs.Html.Clearing
import ComponentInliner.Proofs.StyleSheet.Blanks
import ComponentInliner.Proofs.StyleSheet.Comments
import ComponentInliner.Proofs.StyleSheet.Reader
import ComponentInliner.Proofs.StyleSheet.Tokens
import ComponentInliner.Proofs.StyleSheet.Compact
import ComponentInliner.Proofs.Html.Names
import ComponentInliner.Proofs.Command.Visits
import ComponentInliner.Proofs.Script.Arrays
import ComponentInliner.Proofs.Script.StatementAgreement
import ComponentInliner.Proofs.Pattern.Reader
import ComponentInliner.Proofs.Pattern.Rounds

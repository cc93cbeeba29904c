import PageTemplate.Command.Run
import PageTemplate.Main
import PageTemplate.Proofs.Render.Fragments
import PageTemplate.Proofs.Template.Conservation
import PageTemplate.Proofs.Template.RoundTrip
import PageTemplate.Proofs.Entries.Overlay
import PageTemplate.Proofs.Render.Agreement
import PageTemplate.Proofs.Inheritance.LateBinding
import PageTemplate.Proofs.Inheritance.Overriding
import PageTemplate.Proofs.File.Components
import PageTemplate.Proofs.Loader.Resolution
import PageTemplate.Proofs.Render.Ignored
import PageTemplate.Proofs.Render.Iterations
import PageTemplate.Proofs.Render.KeyOrder
import PageTemplate.Proofs.Render.Renaming
import PageTemplate.Proofs.Render.SingleBranches
import PageTemplate.Proofs.Template.Sequence
import PageTemplate.Proofs.Template.Unsupported
import PageTemplate.Proofs.Engine.TwoFiles
import PageTemplate.Proofs.Engine.Verbatim
import PageTemplate.Proofs.Command.Effects
import PageTemplate.Proofs.Filter.Bounds
import PageTemplate.Proofs.Token.Places
import PageTemplate.Proofs.Template.Parent
import PageTemplate.Proofs.Template.Unclosed
import PageTemplate.Proofs.Expression.Written
import PageTemplate.Proofs.Filter.Order
import PageTemplate.Proofs.Engine.Comparison
import PageTemplate.Proofs.Escape.Decoded
import PageTemplate.Proofs.Engine.Globals
import PageTemplate.Proofs.Render.Moments
import PageTemplate.Proofs.Decimal.Nearest
import PageTemplate.Proofs.Value.Documents
import PageTemplate.Proofs.Path.Readers

import LinkPattern.NamedValues.Data
import LinkPattern.Matcher
import LinkPattern.Options.File
import LinkPattern.Pattern.Template
import LinkPattern.Proofs.Pattern.WellFormed
import LinkPattern.Proofs.Alignment.Tiling
import LinkPattern.Proofs.Alignment.Leftmost
import LinkPattern.Proofs.Rendering.Subject
import LinkPattern.Proofs.Component
import LinkPattern.Proofs.Url.Delimiters
import LinkPattern.Proofs.Alignment.Components
import LinkPattern.Proofs.Rendering.Url
import LinkPattern.Proofs.Pattern.History
import LinkPattern.Proofs.Pattern.Template
import LinkPattern.Proofs.Pattern.RoundTrip
import LinkPattern.Proofs.Url.Dots
import LinkPattern.Proofs.Url.Site
import LinkPattern.Proofs.Rendering.Literal
import LinkPattern.Proofs.Bindings
import LinkPattern.Proofs.Record
import LinkPattern.Proofs.Rendering.Separator
import LinkPattern.Proofs.Alignment.PlusSigns
import LinkPattern.Proofs.Pattern.Faults
import LinkPattern.Proofs.Decoding
import LinkPattern.Proofs.Bindings.Spaces
import LinkPattern.Proofs.Bindings.Filters
import LinkPattern.Proofs.Rendering.Parameters
import LinkPattern.Proofs.Alignment.Mismatch
import LinkPattern.Proofs.Pattern.Cuts
import LinkPattern.Proofs.Component.Pieces
import LinkPattern.Proofs.Matching.Base
import LinkPattern.Proofs.Escaping
import LinkPattern.Proofs.Pattern.Flags
import LinkPattern.Proofs.Alignment.Bounds

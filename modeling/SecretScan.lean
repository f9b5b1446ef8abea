import SecretScan.Options.Json
import SecretScan.Options.Toml
import SecretScan.Regex.Chart.Spans
import SecretScan.Proofs.Locality
import SecretScan.Proofs.Extension
import SecretScan.Proofs.Collecting
import SecretScan.Proofs.Pattern.Iteration
import SecretScan.Proofs.Json.Number
import SecretScan.Proofs.Json.Text
import SecretScan.Proofs.Json.Document
import SecretScan.Proofs.Json.Decoder
import SecretScan.Proofs.Options.Fields
import SecretScan.Proofs.Options.Json
import SecretScan.Proofs.Number.Rounding
import SecretScan.Proofs.Toml.Number
import SecretScan.Proofs.Toml.Document
import SecretScan.Proofs.Number.Nearest
import SecretScan.Proofs.Number.Literal
import SecretScan.Proofs.Options.Sheet
import SecretScan.Proofs.Reordering
import SecretScan.Proofs.Options.Agreement
import SecretScan.Proofs.Options.Forms
import SecretScan.Proofs.Frequencies
import SecretScan.Proofs.EntropyBounds
import SecretScan.Proofs.Proportion
import SecretScan.Proofs.Repetition
import SecretScan.Proofs.Options.Repeated
import SecretScan.Proofs.Strictness
import SecretScan.Proofs.Context
import SecretScan.Proofs.Options.Shapes
import SecretScan.Proofs.Joining
import SecretScan.Proofs.Pattern.Quoted
import SecretScan.Proofs.Pattern.Address
import SecretScan.Proofs.Pattern.Inverse
import SecretScan.Proofs.Finding

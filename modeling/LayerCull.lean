import LayerCull.Main
import LayerCull.Proofs.Account
import LayerCull.Proofs.Wire
import LayerCull.Proofs.Authority
import LayerCull.Proofs.Catalog.Cleans
import LayerCull.Proofs.Limit
import LayerCull.Proofs.FailStop
import LayerCull.Proofs.Deletion
import LayerCull.Proofs.Groups
import LayerCull.Proofs.Attribution
import LayerCull.Proofs.Url.Escapes
import LayerCull.Proofs.Url.Segments
import LayerCull.Proofs.Url.Layout
import LayerCull.Proofs.Endpoint
import LayerCull.Proofs.Workspace
import LayerCull.Proofs.Course.Opening
import LayerCull.Proofs.Narration
import LayerCull.Proofs.Extension
import LayerCull.Proofs.Observation
import LayerCull.Proofs.Preview
import LayerCull.Proofs.Execution
import LayerCull.Proofs.Secrecy
import LayerCull.Proofs.Lockstep
import LayerCull.Proofs.Encoding
import LayerCull.Proofs.Relevance
import LayerCull.Proofs.Extraction
import LayerCull.Proofs.Substitution
import LayerCull.Proofs.Precedence
import LayerCull.Proofs.Validity
import LayerCull.Proofs.Secret
import LayerCull.Proofs.Layers
import LayerCull.Proofs.Recognition

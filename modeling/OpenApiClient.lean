import OpenApiClient.Expr.Reader
import OpenApiClient.Main
import OpenApiClient.Proofs.Client.Acyclic
import OpenApiClient.Proofs.Client.Appended
import OpenApiClient.Proofs.Client.Faults
import OpenApiClient.Proofs.Client.Forwarding
import OpenApiClient.Proofs.Client.Optional
import OpenApiClient.Proofs.Client.Options
import OpenApiClient.Proofs.Client.Statuses
import OpenApiClient.Proofs.Client.Warnings
import OpenApiClient.Proofs.Client.WellFormed
import OpenApiClient.Proofs.Config
import OpenApiClient.Proofs.Conversion.Constraints
import OpenApiClient.Proofs.Conversion.Types
import OpenApiClient.Proofs.Declaration.Circles
import OpenApiClient.Proofs.Document.Chains
import OpenApiClient.Proofs.Document.Parameters
import OpenApiClient.Proofs.Document.Paths
import OpenApiClient.Proofs.Endpoint.Selection
import OpenApiClient.Proofs.File.Write
import OpenApiClient.Proofs.Schema.KeyOrder
import OpenApiClient.Proofs.Schema.Soundness
import OpenApiClient.Proofs.Source.Bindings
import OpenApiClient.Proofs.Source.Pattern

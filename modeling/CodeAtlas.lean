import CodeAtlas.Json.Config
import CodeAtlas.Main
import CodeAtlas.Proofs.Archive.Intake
import CodeAtlas.Proofs.CSharp.Directive
import CodeAtlas.Proofs.CSharp.Respelling
import CodeAtlas.Proofs.Extraction.Failure
import CodeAtlas.Proofs.Extraction.Outcome
import CodeAtlas.Proofs.Extraction.Policies
import CodeAtlas.Proofs.Http.Parts
import CodeAtlas.Proofs.Json.RoundTrip
import CodeAtlas.Proofs.Linker.Cap
import CodeAtlas.Proofs.Linker.Outcome
import CodeAtlas.Proofs.Linker.Representation
import CodeAtlas.Proofs.Manifest.Comment
import CodeAtlas.Proofs.Pipeline.Conservation
import CodeAtlas.Proofs.Pipeline.Interleaving
import CodeAtlas.Proofs.Pipeline.Order
import CodeAtlas.Proofs.Pipeline.Parts
import CodeAtlas.Proofs.Pipeline.Projects
import CodeAtlas.Proofs.Query.Explanation
import CodeAtlas.Proofs.Server.Requests
import CodeAtlas.Proofs.Server.Session
import CodeAtlas.Proofs.Store.Detail
import CodeAtlas.Proofs.Store.Disturbed
import CodeAtlas.Proofs.Store.Equivalence
import CodeAtlas.Proofs.Store.Intact
import CodeAtlas.Proofs.Store.Retry
import CodeAtlas.Proofs.Store.Search
import CodeAtlas.Server.Router
import CodeAtlas.Source.Lines
import CodeAtlas.Store.Any

import SearchRequest.Clause.Attachment
import SearchRequest.Clause.Conditional
import SearchRequest.Document.Reader
import SearchRequest.Encoding.Encode
import SearchRequest.Proofs.Absence
import SearchRequest.Proofs.BoolRuns
import SearchRequest.Proofs.Clean
import SearchRequest.Proofs.Conformity
import SearchRequest.Proofs.EnvelopeRuns
import SearchRequest.Proofs.Grammar
import SearchRequest.Proofs.Recovery
import SearchRequest.Proofs.Verdict
import SearchRequest.Proofs.Filters
import SearchRequest.Proofs.Fragments
import SearchRequest.Proofs.AggregationRuns
import SearchRequest.Proofs.AggregationTrees
import SearchRequest.Proofs.InnerHitsRuns
import SearchRequest.Proofs.SourceRuns
import SearchRequest.Proofs.Layouts
import SearchRequest.Proofs.KeyOrder
import SearchRequest.Proofs.WriterRoom
import SearchRequest.Proofs.Contexts
import SearchRequest.Proofs.LogIndependence
import SearchRequest.Proofs.SettingRuns
import SearchRequest.Proofs.Delivery
import SearchRequest.Proofs.Conditions
import SearchRequest.Proofs.NullLocation
import SearchRequest.Proofs.RangeRuns
import SearchRequest.Proofs.DebugMode
import SearchRequest.Proofs.DroppedClauses
import SearchRequest.Proofs.Blanks
import SearchRequest.Proofs.EncoderEnvironment
import SearchRequest.Proofs.JsonLines
import SearchRequest.Proofs.LogEnvironment
import SearchRequest.Proofs.StreamLines

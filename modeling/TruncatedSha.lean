import TruncatedSha.Compression
import TruncatedSha.Standard
import TruncatedSha.Count
import TruncatedSha.Stream
import TruncatedSha.Context
import TruncatedSha.Batch
import TruncatedSha.Batch.Rounds
import TruncatedSha.Commitment
import TruncatedSha.Commitment.Session
import TruncatedSha.Environment
import TruncatedSha.Hex
import TruncatedSha.Parameters
import TruncatedSha.Text.Space
import TruncatedSha.Checksum.Entry
import TruncatedSha.Checksum.Listing
import TruncatedSha.Checksum.Verification
import TruncatedSha.Arguments
import TruncatedSha.Checksum.Command
import TruncatedSha.Benchmark
import TruncatedSha.Benchmark.Command
import TruncatedSha.Main
import TruncatedSha.Log.Pattern
import TruncatedSha.Log.Directive
import TruncatedSha.Text.Number
import TruncatedSha.Proofs.BigEndian
import TruncatedSha.Proofs.Block.Chunks
import TruncatedSha.Proofs.Count
import TruncatedSha.Proofs.Padding
import TruncatedSha.Proofs.Stream.Absorption
import TruncatedSha.Proofs.Stream.Closing
import TruncatedSha.Proofs.Compression.Conformance
import TruncatedSha.Proofs.Compression.Rotation
import TruncatedSha.Proofs.Context
import TruncatedSha.Proofs.Collision
import TruncatedSha.Proofs.Commitment.Verdict
import TruncatedSha.Proofs.Reader
import TruncatedSha.Proofs.Session.Agreement
import TruncatedSha.Session.Transcript
import TruncatedSha.Proofs.Session.Refinement
import TruncatedSha.Proofs.Stream.InPlace
import TruncatedSha.Proofs.Overflow
import TruncatedSha.Proofs.Commitment.Session
import TruncatedSha.Proofs.Batch
import TruncatedSha.Proofs.Checksum
import TruncatedSha.Proofs.Stream.Finishing
import TruncatedSha.Proofs.Checksum.Entry
import TruncatedSha.Proofs.Checksum.Listing
import TruncatedSha.Proofs.Checksum.Comparison
import TruncatedSha.Proofs.Compression.Permutation
import TruncatedSha.Proofs.Commitment.Composition
import TruncatedSha.Reader
import TruncatedSha.Proofs.Hex.Spelling
import TruncatedSha.Proofs.Checksum.Reading
import TruncatedSha.Proofs.Window.Recovery
import TruncatedSha.Arguments.Meaning
import TruncatedSha.Proofs.Arguments.Options
import TruncatedSha.Proofs.Arguments.Scan
import TruncatedSha.Proofs.Checksum.Consistency
import TruncatedSha.Proofs.Arguments.Settling

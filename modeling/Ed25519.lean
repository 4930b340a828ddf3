import Ed25519.Base64
import Ed25519.Bytes
import Ed25519.ConstantTime
import Ed25519.Curve.Encoding
import Ed25519.Curve.Field
import Ed25519.Curve.Ladder
import Ed25519.Curve.Point
import Ed25519.Curve.Projective
import Ed25519.Curve.Scalar
import Ed25519.Decimal.Shortest
import Ed25519.Envelope
import Ed25519.Error
import Ed25519.Event
import Ed25519.Hash.Sha512
import Ed25519.Hex
import Ed25519.Interchange
import Ed25519.Json.Numeral
import Ed25519.Json.Printer
import Ed25519.Json.Quoted
import Ed25519.Json.Reader
import Ed25519.Json.Value
import Ed25519.Key.Private
import Ed25519.Key.Public
import Ed25519.Operation
import Ed25519.Proofs.Amendment
import Ed25519.Proofs.Answer
import Ed25519.Proofs.Base64
import Ed25519.Proofs.Bytes
import Ed25519.Proofs.ConstantTime
import Ed25519.Proofs.Curve.Addition
import Ed25519.Proofs.Curve.Encoding
import Ed25519.Proofs.Curve.Group
import Ed25519.Proofs.Curve.Order
import Ed25519.Proofs.Envelope
import Ed25519.Proofs.Events
import Ed25519.Proofs.Field.Algebra
import Ed25519.Proofs.Field.Prime
import Ed25519.Proofs.Field.Square
import Ed25519.Proofs.Generation
import Ed25519.Proofs.Hex
import Ed25519.Proofs.Interchange
import Ed25519.Proofs.Json.Text
import Ed25519.Proofs.Key.Comparison
import Ed25519.Proofs.Key.Point
import Ed25519.Proofs.Key.Private
import Ed25519.Proofs.Key.Public
import Ed25519.Proofs.Operation
import Ed25519.Proofs.Random.Stream
import Ed25519.Proofs.Report
import Ed25519.Proofs.Reported
import Ed25519.Proofs.Result
import Ed25519.Proofs.Scheme.Completeness
import Ed25519.Proofs.Scheme.Keys
import Ed25519.Proofs.Scheme.Uniqueness
import Ed25519.Proofs.Scheme.Verification
import Ed25519.Proofs.Signing
import Ed25519.Proofs.Startup
import Ed25519.Proofs.Verifying
import Ed25519.Random.ChaCha20
import Ed25519.Random.Source
import Ed25519.Report
import Ed25519.Reported
import Ed25519.Scheme
import Ed25519.Signature
import Ed25519.Signing
import Ed25519.Startup
import Ed25519.Text.Quoted
import Ed25519.Text.Record
import Ed25519.Text.Unprintable

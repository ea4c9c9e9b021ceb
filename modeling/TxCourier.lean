import TxCourier.Abi.Encoding
import TxCourier.Courier
import TxCourier.Envelope.Exchange
import TxCourier.Envelope.Object
import TxCourier.Envelope.Record
import TxCourier.Node.JsonRpc
import TxCourier.Proofs.Canonical
import TxCourier.Proofs.Signing
import TxCourier.Proofs.WireRoundTrip
import TxCourier.Proofs.SignEnvelope
import TxCourier.Proofs.SignedContent
import TxCourier.Proofs.DraftRun
import TxCourier.Proofs.Vetting
import TxCourier.Proofs.Broadcast
import TxCourier.Proofs.Unsigned
import TxCourier.Proofs.Dispatch
import TxCourier.Proofs.Waiting
import TxCourier.Proofs.StrictRlp
import TxCourier.Proofs.StrictCanonical
import TxCourier.Proofs.Acceptance
import TxCourier.Proofs.Conversion
import TxCourier.Proofs.DraftBuild
import TxCourier.Proofs.ConversionDomain
import TxCourier.Proofs.Confirmation
import TxCourier.Proofs.JsonRoundTrip
import TxCourier.Proofs.FeeFloor
import TxCourier.Proofs.Reached
import TxCourier.Proofs.Estimating
import TxCourier.Proofs.AbiLayout
import TxCourier.Proofs.AbiTypes
import TxCourier.Proofs.Utf8
import TxCourier.Proofs.AbiRoundTrip
import TxCourier.Proofs.RevertRoundTrip
import TxCourier.Proofs.IntrinsicCost
import TxCourier.Proofs.Affordability
import TxCourier.Proofs.StoredParity
import TxCourier.Proofs.FloorExactness
import TxCourier.Proofs.ChainFromV
import TxCourier.Proofs.RevertLookup
import TxCourier.Proofs.LenientHex
import TxCourier.Proofs.Wrapping
import TxCourier.Proofs.Phrases
import TxCourier.Proofs.RevertPassage
import TxCourier.Proofs.Classification
import TxCourier.Proofs.OwnWords
import TxCourier.Proofs.HexLanguage

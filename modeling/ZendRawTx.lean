import ZendRawTx.Primitives
import ZendRawTx.Hex
import ZendRawTx.Transaction
import ZendRawTx.State
import ZendRawTx.Sign.Loop
import ZendRawTx.Sign.Invariant
import ZendRawTx.Sign.Properties
import ZendRawTx.Sign.Merge
import ZendRawTx.Sign.PrevTxs
import ZendRawTx.Sign.Handlers
import ZendRawTx.Merkle.PartialMerkleTree
import ZendRawTx.Merkle.Extract
import ZendRawTx.Merkle.Serialize
import ZendRawTx.TxOutProof.Handlers
import ZendRawTx.TxOutProof.Properties
import ZendRawTx.Decode.CertToJson
import ZendRawTx.Decode.TxToJson
import ZendRawTx.Create.RawCertificate
import ZendRawTx.Create.Properties
import ZendRawTx.Create.RawTransaction
import ZendRawTx.Create.RoundTrip
import ZendRawTx.Send

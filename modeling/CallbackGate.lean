import CallbackGate.Bytes.Base64
import CallbackGate.Bytes.BigEndian
import CallbackGate.Bytes.Form
import CallbackGate.Bytes.Hex
import CallbackGate.Bytes.Sha1
import CallbackGate.Cipher.Aes
import CallbackGate.Cipher.Cbc
import CallbackGate.Cipher.Error
import CallbackGate.Cipher.Frame
import CallbackGate.Cipher.Substitution
import CallbackGate.Dispatch.Payload
import CallbackGate.Dispatch.Route
import CallbackGate.Dispatch.Run
import CallbackGate.Dispatch.Table
import CallbackGate.Endpoint.Account
import CallbackGate.Endpoint.Error
import CallbackGate.Endpoint.Opening
import CallbackGate.Endpoint.Query
import CallbackGate.Endpoint.Sealing
import CallbackGate.Endpoint.Serve
import CallbackGate.Key
import CallbackGate.KeyRing
import CallbackGate.Markup.Attributes
import CallbackGate.Markup.Draft
import CallbackGate.Markup.Entity
import CallbackGate.Markup.Node
import CallbackGate.Markup.Record
import CallbackGate.Markup.Token
import CallbackGate.Message.Envelope
import CallbackGate.Message.Reading
import CallbackGate.Message.Reply
import CallbackGate.Message.Sealed
import CallbackGate.Pool
import CallbackGate.Proofs.Base64
import CallbackGate.Proofs.BlankNumerals
import CallbackGate.Proofs.BlockCipher
import CallbackGate.Proofs.Chaining
import CallbackGate.Proofs.Classification
import CallbackGate.Proofs.Configuration
import CallbackGate.Proofs.Decryption
import CallbackGate.Proofs.Deliveries
import CallbackGate.Proofs.Documents
import CallbackGate.Proofs.EncodedKeys
import CallbackGate.Proofs.EnvelopeDocuments
import CallbackGate.Proofs.ForeignElements
import CallbackGate.Proofs.ForeignTrees
import CallbackGate.Proofs.Framing
import CallbackGate.Proofs.Gaps
import CallbackGate.Proofs.Gate
import CallbackGate.Proofs.Generations
import CallbackGate.Proofs.Isolation
import CallbackGate.Proofs.Layouts
import CallbackGate.Proofs.Lending
import CallbackGate.Proofs.LoanHistories
import CallbackGate.Proofs.Numerals
import CallbackGate.Proofs.Outcomes
import CallbackGate.Proofs.Queries
import CallbackGate.Proofs.Refusals
import CallbackGate.Proofs.Registrations
import CallbackGate.Proofs.ReplyDocuments
import CallbackGate.Proofs.ReplyRoundTrip
import CallbackGate.Proofs.ReplySignatures
import CallbackGate.Proofs.Resealing
import CallbackGate.Proofs.Rotation
import CallbackGate.Proofs.RotationRequests
import CallbackGate.Proofs.Scanning
import CallbackGate.Proofs.SealedDocuments
import CallbackGate.Proofs.SealedReplies
import CallbackGate.Proofs.SecurePath
import CallbackGate.Proofs.SignatureModes
import CallbackGate.Proofs.SignedTexts
import CallbackGate.Proofs.StagedMessages
import CallbackGate.Proofs.Staging
import CallbackGate.Proofs.Trimming
import CallbackGate.Proofs.Utf8
import CallbackGate.Proofs.WholeDocuments
import CallbackGate.Proofs.ZeroKey
import CallbackGate.Service.AutoReply
import CallbackGate.Service.Http
import CallbackGate.Service.PathPattern
import CallbackGate.Service.Settings
import CallbackGate.Signature
import CallbackGate.Text.Binary64
import CallbackGate.Text.Blank
import CallbackGate.Text.Hidden
import CallbackGate.Text.Integer
import CallbackGate.Text.Letters
import CallbackGate.Text.Quoted
import CallbackGate.Text.Utf8

import SealedMail.Arith.Modular
import SealedMail.Armor.Block
import SealedMail.Armor.Crc24
import SealedMail.Armor.Reader
import SealedMail.Armor.Writer
import SealedMail.Asymmetric.Dsa
import SealedMail.Asymmetric.Ecdh
import SealedMail.Asymmetric.Ecdsa
import SealedMail.Asymmetric.Nonce
import SealedMail.Asymmetric.Rsa
import SealedMail.Bytes.Basic
import SealedMail.Bytes.Hex
import SealedMail.Cipher.Aes
import SealedMail.Cipher.Algorithm
import SealedMail.Cipher.Modes
import SealedMail.Cipher.Raw
import SealedMail.Cli.Commands
import SealedMail.Cli.Diagnostic
import SealedMail.Cli.Dotenv
import SealedMail.Cli.Grammar
import SealedMail.Cli.Integer
import SealedMail.Cli.Parse
import SealedMail.Cli.Run
import SealedMail.Cli.Similarity
import SealedMail.Cli.Usage
import SealedMail.Cli.Workspace
import SealedMail.Clock
import SealedMail.Config
import SealedMail.Curve.Edwards
import SealedMail.Curve.Montgomery
import SealedMail.Curve.Weierstrass
import SealedMail.Digest.Algorithm
import SealedMail.Digest.Sha1
import SealedMail.Digest.Sha2
import SealedMail.Engine.Attachment
import SealedMail.Engine.Basic
import SealedMail.Engine.Keys
import SealedMail.Engine.Mime
import SealedMail.Entropy
import SealedMail.Error
import SealedMail.Json
import SealedMail.Json.Read
import SealedMail.Kdf.Scrypt
import SealedMail.Key.Algorithm
import SealedMail.Key.Basic
import SealedMail.Key.Generate
import SealedMail.Key.Prime
import SealedMail.Key.Ring
import SealedMail.Key.Secret
import SealedMail.Key.Verify
import SealedMail.Message.Attachment
import SealedMail.Message.Basic
import SealedMail.Message.Collector
import SealedMail.Message.Inflate
import SealedMail.Message.Session
import SealedMail.Message.Signing
import SealedMail.Mime.ContentType
import SealedMail.Mime.Decode
import SealedMail.Mime.Decrypt
import SealedMail.Mime.EncodedWord
import SealedMail.Mime.Header
import SealedMail.Mime.Parse
import SealedMail.Mime.Scan
import SealedMail.Mime.Unstructured
import SealedMail.Mime.Walk
import SealedMail.Packet.Body
import SealedMail.Packet.Codes
import SealedMail.Packet.Cursor
import SealedMail.Packet.Data
import SealedMail.Packet.Error
import SealedMail.Packet.Header
import SealedMail.Packet.KeyPacket
import SealedMail.Packet.KeyParams
import SealedMail.Packet.Mpi
import SealedMail.Packet.S2k
import SealedMail.Packet.SessionKey
import SealedMail.Packet.Signature
import SealedMail.Packet.Stream
import SealedMail.Packet.Subpacket
import SealedMail.Proofs.ArmorBlocks
import SealedMail.Proofs.ArmorFields
import SealedMail.Proofs.ArmorReading
import SealedMail.Proofs.ArmorSeparators
import SealedMail.Proofs.ArmorWriting
import SealedMail.Proofs.AttachmentFinish
import SealedMail.Proofs.AttachmentRuns
import SealedMail.Proofs.Base64Groups
import SealedMail.Proofs.ByteStrings
import SealedMail.Proofs.CipherFeedback
import SealedMail.Proofs.CounterMode
import SealedMail.Proofs.CreationTimes
import SealedMail.Proofs.DecryptedContent
import SealedMail.Proofs.ExpiryEncryption
import SealedMail.Proofs.Framing
import SealedMail.Proofs.FramingGuard
import SealedMail.Proofs.FramingWalk
import SealedMail.Proofs.FreshKeys
import SealedMail.Proofs.GeneratedKeys
import SealedMail.Proofs.KeyExpiry
import SealedMail.Proofs.KeyLocking
import SealedMail.Proofs.KeyMaterialPackets
import SealedMail.Proofs.KeyPackets
import SealedMail.Proofs.KeyRoundTrip
import SealedMail.Proofs.KeySessions
import SealedMail.Proofs.LineBreaks
import SealedMail.Proofs.MimeDelivery
import SealedMail.Proofs.MimeProtocol
import SealedMail.Proofs.OutputSizes
import SealedMail.Proofs.PacketBodies
import SealedMail.Proofs.PasswordSessions
import SealedMail.Proofs.ProtectedPlaintext
import SealedMail.Proofs.ReportedStatus
import SealedMail.Proofs.RingSearch
import SealedMail.Proofs.RsaEncryption
import SealedMail.Proofs.RsaParameters
import SealedMail.Proofs.SampleKey
import SealedMail.Proofs.SealedData
import SealedMail.Proofs.SessionWrapping
import SealedMail.Proofs.SignaturePackets
import SealedMail.Proofs.SignatureStatus
import SealedMail.Proofs.SignedEntity
import SealedMail.Proofs.StreamedSignatures
import SealedMail.Proofs.TrailingBlanks
import SealedMail.Proofs.Utf8Decoding
import SealedMail.Proofs.ValiditySettings
import SealedMail.Proofs.VerificationTime
import SealedMail.Session
import SealedMail.Text.Base64
import SealedMail.Text.Blank
import SealedMail.Text.Charset
import SealedMail.Text.Double
import SealedMail.Text.Escape
import SealedMail.Text.Letters
import SealedMail.Text.Lines
import SealedMail.Text.Utf8
import SealedMail.Main

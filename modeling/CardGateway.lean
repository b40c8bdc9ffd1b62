import CardGateway.Crypto.Cbc
import CardGateway.Crypto.Gcm
import CardGateway.Main
import CardGateway.Proofs.Cancellation
import CardGateway.Proofs.Dialogue
import CardGateway.Proofs.PinProvenance
import CardGateway.Rehearsal.Stage
import CardGateway.Proofs.Base64
import CardGateway.Proofs.Hex
import CardGateway.Proofs.Aes
import CardGateway.Proofs.Sealing
import CardGateway.Proofs.JsonText
import CardGateway.Proofs.JsonDocument
import CardGateway.Proofs.JsonRecord
import CardGateway.Proofs.MessageRoundTrip
import CardGateway.Proofs.Encryption
import CardGateway.Proofs.Cleanup
import CardGateway.Proofs.DownloadAddress
import CardGateway.Proofs.Notices
import CardGateway.Proofs.Responses
import CardGateway.Proofs.Blame
import CardGateway.Proofs.Sending
import CardGateway.Proofs.Pairing
import CardGateway.Proofs.Phases
import CardGateway.Proofs.Coupling
import CardGateway.Proofs.Echo
import CardGateway.Proofs.CommandShape
import CardGateway.Proofs.JsonVariation
import CardGateway.Proofs.Tolerance
import CardGateway.Proofs.EchoTexts
import CardGateway.Proofs.JsonSoundness
import CardGateway.Proofs.Polling
import CardGateway.Proofs.SignatureForms
import CardGateway.Proofs.Acceptance
import CardGateway.Proofs.WorkerTasks
import CardGateway.Proofs.WorkerDeadline
import CardGateway.Proofs.Rounding
import CardGateway.Proofs.LongLiterals
import CardGateway.Proofs.WaitBudgets
import CardGateway.Proofs.SignatureOverlap
import CardGateway.Proofs.StoreLoading
import CardGateway.Proofs.AllowList
import CardGateway.Proofs.OrderOfChecks
import CardGateway.Proofs.PinRoundTrip
import CardGateway.Proofs.ErrorAddress
import CardGateway.Proofs.Persistence
import CardGateway.Proofs.SlotEchoes
import CardGateway.Proofs.TokenFilters
import CardGateway.Proofs.FixtureLoading
import CardGateway.Proofs.CardAgreement
import CardGateway.Proofs.Layers
import CardGateway.Proofs.UniqueKeys
import CardGateway.Proofs.Overriding

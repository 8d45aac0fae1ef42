import Mordant.Match.Attestation
import Mordant.Match.Intent
import Mordant.Vault.Roles
import Mordant.Vault.Distribution
import Mordant.Vault.RecoursePath
import Mordant.Vault.Custody
import Mordant.Recourse.Completion
import Mordant.Recourse.Refinement
import Mordant.Match.Chronology
import Mordant.Protection.BridgePermits
import Mordant.Protection.AdmissionChallenge
import Mordant.Protection.OriginatedChain
import Mordant.Protection.OperationJournal
import Mordant.Identity.Provenance
import Mordant.Identity.SessionProtocol
import Mordant.Identity.Availability
import Mordant.Identity.Exclusivity
import Mordant.Circuit.Malformed
import Mordant.Coalition.Transcript
import Mordant.Coalition.LedgerHistory
import Mordant.Coalition.Pairing
import Mordant.Coalition.ReleasedBits
import Mordant.ThresholdNet.Agreement
import Mordant.ThresholdNet.Canonical
import Mordant.Evaluator.Evaluation
import Mordant.GovernedFhe.Refusal
import Mordant.GovernedFhe.StoreRecovery
import Mordant.GovernedFhe.IntakeRefusal
import Mordant.GovernedFhe.RecourseClock
import Mordant.OneShotCeremony.Envelope
import Mordant.OneShotCeremony.StatusHistory

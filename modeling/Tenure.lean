import Tenure.Event.Codec
import Tenure.Main
import Tenure.Proofs.Activation
import Tenure.Proofs.Course
import Tenure.Proofs.Crowd
import Tenure.Proofs.Deadline
import Tenure.Proofs.Identity
import Tenure.Proofs.Layout
import Tenure.Proofs.Ledger
import Tenure.Proofs.Legibility
import Tenure.Proofs.Lossless
import Tenure.Proofs.Presence
import Tenure.Proofs.Readable
import Tenure.Proofs.Readiness
import Tenure.Proofs.Repair
import Tenure.Proofs.Restoration
import Tenure.Proofs.Signal
import Tenure.Proofs.Silence
import Tenure.Rehearsal.Performance
import Tenure.Standalone.Session
import Tenure.State.Codec
import Tenure.Storage.Batch
import Tenure.Proofs.Regrant
import Tenure.Proofs.Coherence
import Tenure.Proofs.Housed
import Tenure.Proofs.Timespan
import Tenure.Proofs.Interruption
import Tenure.Proofs.Departure
import Tenure.Proofs.Exposition
import Tenure.Proofs.Standin
import Tenure.Proofs.SingleRead

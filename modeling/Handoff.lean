import Handoff.Log.Reading
import Handoff.Proofs.Admitted
import Handoff.Proofs.Alike
import Handoff.Proofs.Approach
import Handoff.Proofs.Ascending
import Handoff.Proofs.Attempts
import Handoff.Proofs.Boots
import Handoff.Proofs.Bounds
import Handoff.Proofs.Canonical
import Handoff.Proofs.Checks
import Handoff.Proofs.Damage
import Handoff.Proofs.Errands
import Handoff.Proofs.Faults
import Handoff.Proofs.Filled
import Handoff.Proofs.Flags
import Handoff.Proofs.HandedOver
import Handoff.Proofs.Kept
import Handoff.Proofs.LastRecord
import Handoff.Proofs.Logged
import Handoff.Proofs.Masked
import Handoff.Proofs.Memory
import Handoff.Proofs.Mirrored
import Handoff.Proofs.Numeral
import Handoff.Proofs.Order
import Handoff.Proofs.Overlap
import Handoff.Proofs.Parked
import Handoff.Proofs.Placed
import Handoff.Proofs.Port
import Handoff.Proofs.Processor
import Handoff.Proofs.Published
import Handoff.Proofs.ReadBack
import Handoff.Proofs.Record
import Handoff.Proofs.Refused
import Handoff.Proofs.Resting
import Handoff.Proofs.Rounding
import Handoff.Proofs.Stack
import Handoff.Proofs.Steps
import Handoff.Proofs.Told
import Handoff.Proofs.Traced
import Handoff.Proofs.Tracked
import Handoff.Proofs.Transcript
import Handoff.Proofs.Uncounted
import Handoff.Proofs.Undisturbed
import Handoff.Proofs.Unheard
import Handoff.Proofs.View
import Handoff.Proofs.Vouched
import Handoff.Proofs.Walked
import Handoff.Proofs.Zeroing
import Handoff.Publication
import Handoff.Session.Run
import Handoff.StringStore
import Handoff.Text.Search

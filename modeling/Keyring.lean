import Keyring.Container.Building
import Keyring.Container.Cursor
import Keyring.Main
import Keyring.Proofs.Acceptance
import Keyring.Proofs.Account
import Keyring.Proofs.Action
import Keyring.Proofs.Asking
import Keyring.Proofs.Beside
import Keyring.Proofs.Building
import Keyring.Proofs.Bundle
import Keyring.Proofs.Calls
import Keyring.Proofs.CarryThrough
import Keyring.Proofs.Causes
import Keyring.Proofs.Confirming
import Keyring.Proofs.Container
import Keyring.Proofs.Course
import Keyring.Proofs.Cursor
import Keyring.Proofs.Discretion
import Keyring.Proofs.Distinction
import Keyring.Proofs.Draws
import Keyring.Proofs.Dumping
import Keyring.Proofs.Errands
import Keyring.Proofs.Failure
import Keyring.Proofs.Faults
import Keyring.Proofs.Footprint
import Keyring.Proofs.Frame
import Keyring.Proofs.History
import Keyring.Proofs.Interruption
import Keyring.Proofs.Kept
import Keyring.Proofs.KeySet
import Keyring.Proofs.Layers
import Keyring.Proofs.Lines
import Keyring.Proofs.Measure
import Keyring.Proofs.Opening
import Keyring.Proofs.Ordering
import Keyring.Proofs.Outline
import Keyring.Proofs.Place
import Keyring.Proofs.Prompting
import Keyring.Proofs.Recovery
import Keyring.Proofs.Register
import Keyring.Proofs.Rekeying
import Keyring.Proofs.Reports
import Keyring.Proofs.Rereading
import Keyring.Proofs.Resemblance
import Keyring.Proofs.RoundTrip
import Keyring.Proofs.Sealing
import Keyring.Proofs.Secrecy
import Keyring.Proofs.Serving
import Keyring.Proofs.Showing
import Keyring.Proofs.Spelling
import Keyring.Proofs.Staging
import Keyring.Proofs.Steps
import Keyring.Proofs.Stopping
import Keyring.Proofs.Unlocking

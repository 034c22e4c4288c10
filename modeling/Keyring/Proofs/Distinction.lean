import Keyring.Proofs.Dumping
import Keyring.Proofs.Failure
import Keyring.Proofs.Register
import Keyring.Proofs.Spelling

namespace Keyring

namespace Listing

/-- What stands behind a key that is active, or that is not. -/
def mark (active : Bool) : String :=
  if active then " [active]" else ""

end Listing

namespace Snapshot

variable {view other : Snapshot}

end Snapshot

namespace Session

open Desk Keyring.Action

variable {path : String} {world : World} {tree : Tree} {passphrases : Passphrases} {listed : Desk}

end Session

end Keyring

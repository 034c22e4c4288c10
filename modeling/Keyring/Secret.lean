import Keyring.Bytes

namespace Keyring

/-- Bytes that are never shown. -/
structure Secret where
  bytes : Bytes
  deriving DecidableEq

namespace Secret

def length (secret : Secret) : Nat :=
  secret.bytes.length

def isEmpty (secret : Secret) : Bool :=
  secret.bytes.isEmpty

/-- What is left when the bytes are wiped. -/
def wiped (_ : Secret) : Secret :=
  ⟨[]⟩

/-- What may be said of a secret: its length. -/
def summary (secret : Secret) : String :=
  s!"SecretBytes([REDACTED; {secret.length}])"

end Secret

end Keyring

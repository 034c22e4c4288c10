import Keyring.Digest.Derivation
import Keyring.Secret
import Keyring.Text.Utf8

namespace Keyring

/-- What turns the salt of a keyring into its access key. -/
inductive Credential where
  /-- The key itself. -/
  | fixed (key : Secret)
  | passphrase (text : String)
  /-- A passphrase whose key takes many rounds. -/
  | stretched (text : String) (rounds : Nat)
  /-- Any rule. -/
  | rule (key : Bytes → Bytes)

namespace Credential

/-- The length of an access key. -/
def keyLength : Nat := 32

/-- The access key for a salt. -/
def key : Credential → Bytes → Bytes
  | fixed key, _ => key.bytes
  | passphrase text, salt => Derivation.extracted (textBytes text) salt keyLength
  | stretched text rounds, salt => Derivation.stretched (textBytes text) salt rounds keyLength
  | rule key, salt => key salt

/-- What may be said of a credential. -/
def summary : Credential → String
  | fixed key => s!"StaticKey({key.summary})"
  | passphrase _ => "PassphraseKey \x7b .. \x7d"
  | stretched _ rounds => s!"Pbkdf2Key \x7b rounds: {rounds}, .. \x7d"
  | rule _ => ""

end Credential

end Keyring

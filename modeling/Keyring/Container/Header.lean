import Keyring.Container.Malformed

namespace Keyring

/-- The four bytes that open a container: the magic byte, then these three. -/
structure Header where
  version : UInt8
  reserved : UInt8 × UInt8
  deriving DecidableEq, Repr

namespace Header

/-- The byte that every container starts with. -/
def magic : UInt8 := 0xec

/-- The one version that is defined. -/
def currentVersion : UInt8 := 1

def size : Nat := 4

/-- The header of a new container. -/
def current : Header := ⟨currentVersion, 0, 0⟩

def bytes (header : Header) : Bytes :=
  [magic, header.version, header.reserved.1, header.reserved.2]

/-- The header at the front of a byte string. -/
def parse : Bytes → Except Malformed Header
  | first :: version :: low :: high :: _ =>
    if first = magic then .ok ⟨version, low, high⟩ else .error (.magic first)
  | short => .error (.shortHeader short.length)

/-- Whether the rest of the container can be interpreted. -/
def isSupported (header : Header) : Bool :=
  header = current

@[simp]
theorem length_bytes (header : Header) : header.bytes.length = size := rfl

theorem parse_bytes_append (header : Header) (rest : Bytes) :
    parse (header.bytes ++ rest) = .ok header := rfl

theorem parse_eq_ok_iff {data : Bytes} {header : Header} :
    parse data = .ok header ↔ ∃ rest, data = header.bytes ++ rest := by
  constructor
  · intro parsed
    unfold parse at parsed
    split at parsed
    · split at parsed
      · next first version low high rest isMagic =>
        cases parsed
        exact ⟨rest, by simp [bytes, isMagic]⟩
      · cases parsed
    · cases parsed
  · rintro ⟨rest, rfl⟩
    exact parse_bytes_append header rest

end Header

end Keyring

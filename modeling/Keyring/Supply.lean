import Keyring.Fault

namespace Keyring

/-- A stream of random bytes of which the first `drawn` are used up. -/
structure Supply where
  stream : Nat → UInt8
  drawn : Nat
  /-- The number of bytes that the stream can give in all, if it can run out. -/
  limit : Option Nat

namespace Supply

/-- `count` bytes of the stream from position `start` on. -/
def segment (supply : Supply) (start count : Nat) : Bytes :=
  (List.range count).map fun i => supply.stream (start + i)

/-- The next `count` bytes. A request that is refused takes nothing. -/
def take (supply : Supply) (count : Nat) : Except Fault (Bytes × Supply) :=
  if lengthLimit ≤ count then .error .lengthOverflow
  else if supply.limit.any (· < supply.drawn + count) then .error .randomness
  else .ok (supply.segment supply.drawn count, { supply with drawn := supply.drawn + count })

@[simp]
theorem length_segment (supply : Supply) (start count : Nat) :
    (supply.segment start count).length = count := by
  simp [segment]

end Supply

end Keyring

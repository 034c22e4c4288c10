import Keyring.Bytes

namespace Keyring.Keccak

/-- Five lanes of the state that share their second coordinate. -/
structure Plane where
  x0 : UInt64
  x1 : UInt64
  x2 : UInt64
  x3 : UInt64
  x4 : UInt64

/-- The 25 lanes of the state. -/
structure State where
  y0 : Plane
  y1 : Plane
  y2 : Plane
  y3 : Plane
  y4 : Plane

@[inline]
def rotate (lane : UInt64) (bits : UInt64) : UInt64 :=
  lane <<< bits ||| lane >>> (64 - bits)

@[inline]
def Plane.xor (p q : Plane) : Plane :=
  ⟨p.x0 ^^^ q.x0, p.x1 ^^^ q.x1, p.x2 ^^^ q.x2, p.x3 ^^^ q.x3, p.x4 ^^^ q.x4⟩

/-- The nonlinear step on one plane. -/
@[inline]
def Plane.chi (p : Plane) : Plane :=
  ⟨p.x0 ^^^ (~~~p.x1 &&& p.x2), p.x1 ^^^ (~~~p.x2 &&& p.x3), p.x2 ^^^ (~~~p.x3 &&& p.x4),
    p.x3 ^^^ (~~~p.x4 &&& p.x0), p.x4 ^^^ (~~~p.x0 &&& p.x1)⟩

/-- What every plane is changed by for the parity of its neighbour columns. -/
@[inline]
def parity (s : State) : Plane :=
  let c := s.y0.xor (s.y1.xor (s.y2.xor (s.y3.xor s.y4)))
  ⟨c.x4 ^^^ rotate c.x1 1, c.x0 ^^^ rotate c.x2 1, c.x1 ^^^ rotate c.x3 1,
    c.x2 ^^^ rotate c.x4 1, c.x3 ^^^ rotate c.x0 1⟩

/-- Turns every lane by its own distance and moves it to its new place. -/
@[inline]
def scatter (s : State) : State :=
  ⟨⟨s.y0.x0, rotate s.y1.x1 44, rotate s.y2.x2 43, rotate s.y3.x3 21, rotate s.y4.x4 14⟩,
    ⟨rotate s.y0.x3 28, rotate s.y1.x4 20, rotate s.y2.x0 3, rotate s.y3.x1 45,
      rotate s.y4.x2 61⟩,
    ⟨rotate s.y0.x1 1, rotate s.y1.x2 6, rotate s.y2.x3 25, rotate s.y3.x4 8,
      rotate s.y4.x0 18⟩,
    ⟨rotate s.y0.x4 27, rotate s.y1.x0 36, rotate s.y2.x1 10, rotate s.y3.x2 15,
      rotate s.y4.x3 56⟩,
    ⟨rotate s.y0.x2 62, rotate s.y1.x3 55, rotate s.y2.x4 39, rotate s.y3.x0 41,
      rotate s.y4.x1 2⟩⟩

def round (s : State) (constant : UInt64) : State :=
  let d := parity s
  let t := scatter ⟨s.y0.xor d, s.y1.xor d, s.y2.xor d, s.y3.xor d, s.y4.xor d⟩
  let first := t.y0.chi
  ⟨{ first with x0 := first.x0 ^^^ constant }, t.y1.chi, t.y2.chi, t.y3.chi, t.y4.chi⟩

def roundConstants : List UInt64 :=
  [0x0000000000000001, 0x0000000000008082, 0x800000000000808a, 0x8000000080008000,
    0x000000000000808b, 0x0000000080000001, 0x8000000080008081, 0x8000000000008009,
    0x000000000000008a, 0x0000000000000088, 0x0000000080008009, 0x000000008000000a,
    0x000000008000808b, 0x800000000000008b, 0x8000000000008089, 0x8000000000008003,
    0x8000000000008002, 0x8000000000000080, 0x000000000000800a, 0x800000008000000a,
    0x8000000080008081, 0x8000000000008080, 0x0000000080000001, 0x8000000080008008]

def permute (s : State) : State :=
  roundConstants.foldl round s

def zeroPlane : Plane := ⟨0, 0, 0, 0, 0⟩

def empty : State := ⟨zeroPlane, zeroPlane, zeroPlane, zeroPlane, zeroPlane⟩

/-- The bytes taken in between two permutations. -/
def rate : Nat := 136

/-- The plane that 40 bytes spell; missing lanes are 0. -/
def Plane.ofBytes (bytes : Bytes) : Plane :=
  ⟨word64OfLe bytes, word64OfLe (bytes.drop 8), word64OfLe (bytes.drop 16),
    word64OfLe (bytes.drop 24), word64OfLe (bytes.drop 32)⟩

/-- Takes in one run of `rate` bytes. -/
def absorb (s : State) (run : Bytes) : State :=
  permute
    ⟨s.y0.xor (.ofBytes run), s.y1.xor (.ofBytes (run.drop 40)),
      s.y2.xor (.ofBytes (run.drop 80)), s.y3.xor (.ofBytes (run.drop 120)), s.y4⟩

/-- The message followed by a 6, zeros and a last bit, so that it fills whole runs. -/
def pad (message : Bytes) : Bytes :=
  let gap := rate - message.length % rate
  if gap = 1 then message ++ [0x86]
  else message ++ 0x06 :: List.replicate (gap - 2) 0 ++ [0x80]

/-- The first 32 bytes of a state. -/
def squeeze (s : State) : Bytes :=
  ofWords64 [s.y0.x0, s.y0.x1, s.y0.x2, s.y0.x3]

/-- The digest of 32 bytes. -/
def digest (message : Bytes) : Bytes :=
  squeeze ((rows rate (pad message)).foldl absorb empty)

@[simp]
theorem length_digest (message : Bytes) : (digest message).length = 32 := by
  simp [digest, squeeze, ofWords64]

end Keyring.Keccak

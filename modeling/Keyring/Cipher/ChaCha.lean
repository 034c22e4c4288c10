import Keyring.Bytes

namespace Keyring.ChaCha

/-- The sixteen words of a block. -/
structure State where
  x0 : UInt32
  x1 : UInt32
  x2 : UInt32
  x3 : UInt32
  x4 : UInt32
  x5 : UInt32
  x6 : UInt32
  x7 : UInt32
  x8 : UInt32
  x9 : UInt32
  x10 : UInt32
  x11 : UInt32
  x12 : UInt32
  x13 : UInt32
  x14 : UInt32
  x15 : UInt32

@[inline]
def rotate (x bits : UInt32) : UInt32 :=
  x <<< bits ||| x >>> (32 - bits)

@[inline]
def quarterRound (a b c d : UInt32) : UInt32 × UInt32 × UInt32 × UInt32 :=
  let a := a + b
  let d := rotate (d ^^^ a) 16
  let c := c + d
  let b := rotate (b ^^^ c) 12
  let a := a + b
  let d := rotate (d ^^^ a) 8
  let c := c + d
  let b := rotate (b ^^^ c) 7
  (a, b, c, d)

/-- One pass over the columns and one over the diagonals. -/
def doubleRound (s : State) : State :=
  let (x0, x4, x8, x12) := quarterRound s.x0 s.x4 s.x8 s.x12
  let (x1, x5, x9, x13) := quarterRound s.x1 s.x5 s.x9 s.x13
  let (x2, x6, x10, x14) := quarterRound s.x2 s.x6 s.x10 s.x14
  let (x3, x7, x11, x15) := quarterRound s.x3 s.x7 s.x11 s.x15
  let (x0, x5, x10, x15) := quarterRound x0 x5 x10 x15
  let (x1, x6, x11, x12) := quarterRound x1 x6 x11 x12
  let (x2, x7, x8, x13) := quarterRound x2 x7 x8 x13
  let (x3, x4, x9, x14) := quarterRound x3 x4 x9 x14
  ⟨x0, x1, x2, x3, x4, x5, x6, x7, x8, x9, x10, x11, x12, x13, x14, x15⟩

/-- The twenty rounds. -/
def permute (s : State) : State :=
  Nat.repeat doubleRound 10 s

/-- The 64 bytes of keystream that a starting state gives. -/
def block (s : State) : Bytes :=
  let m := permute s
  ofWords32
    [m.x0 + s.x0, m.x1 + s.x1, m.x2 + s.x2, m.x3 + s.x3,
      m.x4 + s.x4, m.x5 + s.x5, m.x6 + s.x6, m.x7 + s.x7,
      m.x8 + s.x8, m.x9 + s.x9, m.x10 + s.x10, m.x11 + s.x11,
      m.x12 + s.x12, m.x13 + s.x13, m.x14 + s.x14, m.x15 + s.x15]

/-- The word of a number in a byte string that spells words. -/
def wordAt (bytes : Bytes) (number : Nat) : UInt32 :=
  word32OfLe (bytes.drop (4 * number))

/-- The words of "expand 32-byte k", those of a key, and four more. -/
def load (key : Bytes) (a b c d : UInt32) : State :=
  ⟨0x61707865, 0x3320646e, 0x79622d32, 0x6b206574,
    wordAt key 0, wordAt key 1, wordAt key 2, wordAt key 3,
    wordAt key 4, wordAt key 5, wordAt key 6, wordAt key 7, a, b, c, d⟩

/-- The key of 32 bytes that a key and the first 16 bytes of a long nonce give. -/
def subkey (key nonce : Bytes) : Bytes :=
  let m := permute (load key (wordAt nonce 0) (wordAt nonce 1) (wordAt nonce 2) (wordAt nonce 3))
  ofWords32 [m.x0, m.x1, m.x2, m.x3, m.x12, m.x13, m.x14, m.x15]

/-- The starting state of block 0 under a long nonce of 24 bytes. -/
def start (key nonce : Bytes) : State :=
  load (subkey key nonce) 0 0 (wordAt nonce 4) (wordAt nonce 5)

/-- The keystream block of a number. -/
def blockAt (origin : State) (number : UInt32) : Bytes :=
  block { origin with x12 := number }

/-- `count` blocks of keystream from a number on. -/
def keystream (origin : State) (number : UInt32) : Nat → Bytes
  | 0 => []
  | count + 1 => blockAt origin number ++ keystream origin (number + 1) count

/-- Puts the exclusive or of two byte strings, last byte first, in front of what is done. -/
def xorOnto (done : Bytes) : Bytes → Bytes → Bytes
  | left :: lefts, right :: rights => xorOnto ((left ^^^ right) :: done) lefts rights
  | _, _ => done

/-- Puts the message under the keystream from a number on. What is done comes last byte first. -/
def mask (origin : State) (done : Bytes) (number : UInt32) (message : Bytes) : Bytes :=
  match message with
  | [] => done.reverse
  | first :: rest =>
    mask origin (xorOnto done (first :: rest) (blockAt origin number)) (number + 1) (rest.drop 63)
termination_by message.length

/-- The message under the keystream that starts at block 1. -/
def apply (key nonce message : Bytes) : Bytes :=
  mask (start key nonce) [] 1 message

theorem xorOnto_eq (done left right : Bytes) :
    xorOnto done left right = (xorBytes left right).reverse ++ done := by
  induction left generalizing done right with
  | nil => cases right <;> rfl
  | cons first rest ih =>
    cases right with
    | nil => rfl
    | cons other others =>
      rw [xorOnto, ih]
      simp [xorBytes]

@[simp]
theorem length_blockAt (origin : State) (number : UInt32) : (blockAt origin number).length = 64 := by
  simp [blockAt, block]

@[simp]
theorem length_keystream (origin : State) (number : UInt32) (count : Nat) :
    (keystream origin number count).length = 64 * count := by
  induction count generalizing number with
  | zero => rfl
  | succ count ih =>
    simp only [keystream, List.length_append, length_blockAt, ih]
    omega

/-- The exclusive or with a block and what follows it splits where the block ends. -/
theorem xorBytes_append (message block rest : Bytes) :
    xorBytes message (block ++ rest) =
      xorBytes message block ++ xorBytes (message.drop block.length) rest := by
  induction block generalizing message with
  | nil => simp [xorBytes]
  | cons first others ih =>
    cases message with
    | nil => simp [xorBytes]
    | cons byte message => simpa [xorBytes] using ih message

theorem mask_eq (origin : State) (done : Bytes) (number : UInt32) (message : Bytes) :
    mask origin done number message =
      done.reverse ++
        xorBytes message (keystream origin number ((message.length + 63) / 64)) := by
  fun_induction mask origin done number message with
  | case1 done number => simp [xorBytes]
  | case2 done number first rest ih =>
    have count : ((first :: rest).length + 63) / 64 = ((rest.drop 63).length + 63) / 64 + 1 := by
      simp only [List.length_cons, List.length_drop]
      omega
    rw [ih, xorOnto_eq, count, keystream, xorBytes_append, length_blockAt]
    simp

/-- Applying is the exclusive or with the keystream. -/
theorem apply_eq (key nonce message : Bytes) :
    apply key nonce message =
      xorBytes message (keystream (start key nonce) 1 ((message.length + 63) / 64)) := by
  simp [apply, mask_eq]

@[simp]
theorem length_apply (key nonce message : Bytes) :
    (apply key nonce message).length = message.length := by
  simp only [apply_eq, xorBytes, List.length_zipWith, length_keystream]
  omega

/-- Applying the same keystream twice gives the message back. -/
theorem apply_apply (key nonce message : Bytes) :
    apply key nonce (apply key nonce message) = message := by
  rw [apply_eq, length_apply, apply_eq]
  have covers := length_keystream (start key nonce) 1 ((message.length + 63) / 64)
  apply List.ext_getElem
  · simp only [xorBytes, List.length_zipWith]
    omega
  · intro i inLeft inRight
    simp only [xorBytes, List.getElem_zipWith, UInt8.xor_assoc, UInt8.xor_self, UInt8.xor_zero]

end Keyring.ChaCha

namespace Keyring

/-- A byte string, first byte first. -/
abbrev Bytes := List UInt8

/-- The number of a key; 0 is never given out. -/
abbrev KeyId := UInt32

/-- The largest number that three bytes spell. -/
def max24 : Nat := 16777215

/-- The three low bytes of a number, most significant first. -/
def be24 (n : Nat) : Bytes :=
  [(n / 65536).toUInt8, (n / 256).toUInt8, n.toUInt8]

/-- The number that three bytes spell, most significant first. -/
def ofBe24 (high middle low : UInt8) : Nat :=
  high.toNat * 65536 + middle.toNat * 256 + low.toNat

/-- The four bytes of a word, most significant first. -/
def be32 (word : UInt32) : Bytes :=
  [(word.toNat / 16777216).toUInt8, (word.toNat / 65536).toUInt8, (word.toNat / 256).toUInt8,
    word.toNat.toUInt8]

/-- The word that four bytes spell, most significant first. -/
def ofBe32 (a b c d : UInt8) : UInt32 :=
  (a.toNat * 16777216 + b.toNat * 65536 + c.toNat * 256 + d.toNat).toUInt32

/-- The low `size` bytes of a number, least significant first. -/
def leOfNat (size n : Nat) : Bytes :=
  (List.range size).map fun i => (n >>> (8 * i)).toUInt8

/-- The word that the first `count` bytes spell, least significant first; missing bytes are 0. -/
def wordOfLe : Nat → Bytes → UInt64
  | 0, _ => 0
  | _, [] => 0
  | count + 1, byte :: rest => byte.toUInt64 ||| wordOfLe count rest <<< 8

/-- The word that the first four bytes spell. -/
def word32OfLe (bytes : Bytes) : UInt32 :=
  (wordOfLe 4 bytes).toUInt32

/-- The word that the first eight bytes spell. -/
def word64OfLe (bytes : Bytes) : UInt64 :=
  wordOfLe 8 bytes

/-- The four bytes of a word, least significant first, put one by one in front of other bytes. -/
def pushWord32 (done : Bytes) (word : UInt32) : Bytes :=
  (word >>> 24).toUInt8 :: (word >>> 16).toUInt8 :: (word >>> 8).toUInt8 :: word.toUInt8 :: done

/-- The four bytes of each word in turn, least significant first. -/
def ofWords32 (words : List UInt32) : Bytes :=
  (words.foldl pushWord32 []).reverse

/-- The eight bytes of each word in turn, least significant first. -/
def ofWords64 (words : List UInt64) : Bytes :=
  ofWords32 (words.flatMap fun (word : UInt64) => [word.toUInt32, (word >>> 32).toUInt32])

/-- The bytewise exclusive or of two byte strings, as long as the shorter one. -/
def xorBytes (left right : Bytes) : Bytes :=
  List.zipWith (· ^^^ ·) left right

/-- The list cut into runs of `size` elements; the last run may be shorter. -/
def rows {α : Type} (size : Nat) (list : List α) : List (List α) :=
  collect [] list
where
  collect (done : List (List α)) (rest : List α) : List (List α) :=
    match rest with
    | [] => done.reverse
    | first :: others =>
      collect ((first :: others.take (size - 1)) :: done) (others.drop (size - 1))
  termination_by rest.length

/-- The byte strings one after the other. The last one is not copied. -/
def joined (chunks : List Bytes) : Bytes :=
  match chunks.reverse with
  | [] => []
  | last :: before => before.foldl (fun rest chunk => chunk ++ rest) last

theorem joined_eq_flatten (chunks : List Bytes) : joined chunks = chunks.flatten := by
  have onto : ∀ (before : List Bytes) (rest : Bytes),
      before.foldl (fun rest chunk => chunk ++ rest) rest = before.reverse.flatten ++ rest := by
    intro before
    induction before with
    | nil => simp
    | cons chunk others ih => intro rest; simp [ih]
  unfold joined
  split
  · next none => simp_all
  · next last before shape =>
    have whole : chunks = before.reverse ++ [last] := by
      rw [← List.reverse_reverse chunks, shape, List.reverse_cons]
    simp [whole, onto]

theorem length_foldl_pushWord32 (words : List UInt32) (done : Bytes) :
    (words.foldl pushWord32 done).length = done.length + 4 * words.length := by
  induction words generalizing done with
  | nil => rfl
  | cons word rest ih =>
    simp only [List.foldl_cons, ih, pushWord32, List.length_cons]
    omega

@[simp]
theorem length_ofWords32 (words : List UInt32) : (ofWords32 words).length = 4 * words.length := by
  simp [ofWords32, length_foldl_pushWord32]

@[simp]
theorem length_be24 (n : Nat) : (be24 n).length = 3 := rfl

@[simp]
theorem length_be32 (word : UInt32) : (be32 word).length = 4 := rfl

@[simp]
theorem length_leOfNat (size n : Nat) : (leOfNat size n).length = size := by
  simp [leOfNat]

theorem ofBe24_be24 {n : Nat} (bound : n < 16777216) :
    ofBe24 (n / 65536).toUInt8 (n / 256).toUInt8 n.toUInt8 = n := by
  simp only [ofBe24, Nat.toUInt8, UInt8.toNat_ofNat']
  omega

theorem be24_ofBe24 (high middle low : UInt8) :
    be24 (ofBe24 high middle low) = [high, middle, low] := by
  have h := high.toNat_lt
  have m := middle.toNat_lt
  have l := low.toNat_lt
  simp only [be24, ofBe24, List.cons.injEq, and_true]
  refine ⟨?_, ?_, ?_⟩ <;> apply UInt8.toNat_inj.mp <;> simp only [Nat.toUInt8, UInt8.toNat_ofNat'] <;> omega

theorem ofBe24_lt (high middle low : UInt8) : ofBe24 high middle low < 16777216 := by
  have h := high.toNat_lt
  have m := middle.toNat_lt
  have l := low.toNat_lt
  simp only [ofBe24]
  omega

theorem be32_ofBe32 (a b c d : UInt8) : be32 (ofBe32 a b c d) = [a, b, c, d] := by
  have ha := a.toNat_lt
  have hb := b.toNat_lt
  have hc := c.toNat_lt
  have hd := d.toNat_lt
  simp only [be32, ofBe32, Nat.toUInt32, UInt32.toNat_ofNat', List.cons.injEq, and_true]
  refine ⟨?_, ?_, ?_, ?_⟩ <;> apply UInt8.toNat_inj.mp <;> simp only [Nat.toUInt8, UInt8.toNat_ofNat'] <;> omega

theorem ofBe32_be32 (word : UInt32) :
    ofBe32 (word.toNat / 16777216).toUInt8 (word.toNat / 65536).toUInt8
      (word.toNat / 256).toUInt8 word.toNat.toUInt8 = word := by
  have bound := word.toNat_lt
  apply UInt32.toNat_inj.mp
  simp only [ofBe32, Nat.toUInt32, Nat.toUInt8, UInt32.toNat_ofNat', UInt8.toNat_ofNat']
  omega

end Keyring

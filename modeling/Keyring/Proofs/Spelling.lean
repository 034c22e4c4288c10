import Keyring.Text.ByteRows
import Keyring.Text.KeyText
import Mathlib.Data.List.Basic

namespace Keyring

/-- A list is cut in one way at the first place where `c` stands. -/
theorem cut_inj {α : Type} {c : α} {front other back rest : List α} (before : c ∉ front) (beforeToo : c ∉ other)
    (same : front ++ c :: back = other ++ c :: rest) : front = other ∧ back = rest := by
  induction front generalizing other with
  | nil =>
    cases other with
    | nil => exact ⟨rfl, (List.cons.inj same).2⟩
    | cons d others =>
      have here : c = d := (List.cons.inj same).1
      exact absurd (here ▸ List.mem_cons_self) beforeToo
  | cons d front ih =>
    cases other with
    | nil =>
      have here : d = c := (List.cons.inj same).1
      exact absurd (here ▸ List.mem_cons_self) before
    | cons e others =>
      obtain ⟨rfl, tail⟩ := List.cons.inj same
      have later := ih (List.not_mem_of_not_mem_cons before) (List.not_mem_of_not_mem_cons beforeToo) tail
      exact ⟨congrArg (d :: ·) later.1, later.2⟩

/-- A text is cut in one way at the first place where a mark of one character stands. -/
theorem cut_text_inj {c : Char} {mark front other back rest : String} (one : mark.toList = [c])
    (before : c ∉ front.toList) (beforeToo : c ∉ other.toList)
    (same : front ++ (mark ++ back) = other ++ (mark ++ rest)) : front = other ∧ back = rest := by
  have shape : ∀ front back : String, (front ++ (mark ++ back)).toList = front.toList ++ c :: back.toList := by
    intro front back
    rw [String.toList_append, String.toList_append, one, List.singleton_append]
  rw [← String.toList_inj, shape, shape] at same
  obtain ⟨first, later⟩ := cut_inj before beforeToo same
  exact ⟨String.toList_inj.mp first, String.toList_inj.mp later⟩

theorem append_text_inj {front other back rest : String} (size : front.length = other.length)
    (same : front ++ back = other ++ rest) : front = other ∧ back = rest := by
  rw [← String.toList_inj, String.toList_append, String.toList_append] at same
  obtain ⟨first, later⟩ := List.append_inj same (by rwa [String.length_toList, String.length_toList])
  exact ⟨String.toList_inj.mp first, String.toList_inj.mp later⟩

/-- Pieces of one length tell what they were made of. -/
theorem flatMap_inj {α β : Type} {f : α → List β} (width : Nat) (wide : 0 < width) (length : ∀ a, (f a).length = width)
    (inj : ∀ a b, f a = f b → a = b) {list other : List α} (same : list.flatMap f = other.flatMap f) : list = other := by
  have nonempty : ∀ a rest, f a ++ rest ≠ [] := by
    intro a rest empty
    have none := length a
    rw [(List.append_eq_nil_iff.mp empty).1] at none
    simp only [List.length_nil] at none
    omega
  induction list generalizing other with
  | nil =>
    cases other with
    | nil => rfl
    | cons b others => exact absurd same.symm (nonempty b _)
  | cons a rest ih =>
    cases other with
    | nil => exact absurd same (nonempty a _)
    | cons b others =>
      rw [List.flatMap_cons, List.flatMap_cons] at same
      obtain ⟨first, later⟩ := List.append_inj same ((length a).trans (length b).symm)
      rw [inj a b first, ih later]

theorem toString_inj {n m : Nat} (same : toString n = toString m) : n = m := by
  rw [Nat.toString_eq_ofList_toDigits, Nat.toString_eq_ofList_toDigits, String.ofList_inj] at same
  rw [← Nat.ofDigitChars_ten_toDigits (n := n), same, Nat.ofDigitChars_ten_toDigits]

theorem notMem_toString {c : Char} (other : c.isDigit = false) (n : Nat) : c ∉ (toString n).toList := by
  rw [Nat.toString_eq_ofList_toDigits, String.toList_ofList]
  intro member
  rw [Nat.isDigit_of_mem_toDigits (by decide) (by decide) member] at other
  cases other

namespace Hex

theorem digit_inj {n m : Nat} (small : n < 16) (smallToo : m < 16) (same : digit n = digit m) : n = m := by
  have apart : ∀ n < 16, ∀ m < 16, digit n = digit m → n = m := by decide
  exact apart n small m smallToo same

theorem ofByte_inj {byte other : UInt8} (same : ofByte byte = ofByte other) : byte = other := by
  have bound := byte.toNat_lt
  have boundToo := other.toNat_lt
  simp only [ofByte, List.cons.injEq, and_true] at same
  have high := digit_inj (by omega) (by omega) same.1
  have low := digit_inj (by omega) (by omega) same.2
  exact UInt8.toNat_inj.mp (by omega)

theorem ofBytes_inj {bytes others : Bytes} (same : ofBytes bytes = ofBytes others) : bytes = others :=
  flatMap_inj 2 (by decide) (fun _ => rfl) (fun _ _ => ofByte_inj) same

/-- The characters that hexadecimal digits are. -/
def isDigit (c : Char) : Bool :=
  c.isDigit || 'a' ≤ c && c ≤ 'f'

theorem isDigit_of_mem_ofByte {c : Char} {byte : UInt8} (member : c ∈ ofByte byte) : isDigit c = true := by
  have digits : ∀ n < 16, isDigit (digit n) = true := by decide
  have bound := byte.toNat_lt
  simp only [ofByte, List.mem_cons, List.not_mem_nil, or_false] at member
  rcases member with rfl | rfl
  · exact digits _ (by omega)
  · exact digits _ (by omega)

theorem isDigit_of_mem {c : Char} {bytes : Bytes} (member : c ∈ ofBytes bytes) : isDigit c = true := by
  obtain ⟨byte, -, member⟩ := List.mem_flatMap.mp member
  exact isDigit_of_mem_ofByte member

/-- The number that a digit stands for. -/
def valueOf (c : Char) : Nat :=
  if c.isDigit then c.toNat - 48 else c.toNat - 87

/-- The number that digits spell. -/
def value (digits : List Char) : Nat :=
  digits.foldl (fun n c => 16 * n + valueOf c) 0

theorem value_ofNat (n : Nat) : value (ofNat n) = n := by
  have digits : ∀ n < 16, valueOf (Nat.digitChar n) = n := by decide
  induction n using Nat.strongRecOn with
  | ind n ih =>
    rcases Nat.lt_or_ge n 16 with small | large
    · simp [ofNat, value, Nat.toDigits_of_lt_base small, digits n small]
    · have quotient : value (ofNat (n / 16)) = n / 16 := ih (n / 16) (Nat.div_lt_self (by omega) (by decide))
      unfold ofNat value at quotient ⊢
      rw [Nat.toDigits_of_base_le (by decide) large, List.foldl_append, quotient]
      simp only [List.foldl_cons, List.foldl_nil, digits (n % 16) (Nat.mod_lt n (by decide))]
      omega

theorem isDigit_of_mem_ofNat {c : Char} {n : Nat} (member : c ∈ ofNat n) : isDigit c = true := by
  have digits : ∀ n < 16, isDigit (Nat.digitChar n) = true := by decide
  induction n using Nat.strongRecOn with
  | ind n ih =>
    unfold ofNat at member
    rcases Nat.lt_or_ge n 16 with small | large
    · rw [Nat.toDigits_of_lt_base small, List.mem_singleton] at member
      exact member ▸ digits n small
    · rw [Nat.toDigits_of_base_le (by decide) large, List.mem_append, List.mem_singleton] at member
      rcases member with front | last
      · exact ih (n / 16) (Nat.div_lt_self (by omega) (by decide)) front
      · exact last ▸ digits (n % 16) (Nat.mod_lt n (by decide))

end Hex

namespace Quoted

/-- The character that a letter behind a backslash stands for. -/
def named : Char → Option Char
  | '0' => some '\x00'
  | 't' => some '\t'
  | 'r' => some '\r'
  | 'n' => some '\n'
  | '"' => some '"'
  | '\\' => some '\\'
  | _ => none

/-- The character in front of a quoted text, and what follows it. -/
def readChar : List Char → Option (Char × List Char)
  | '\\' :: 'u' :: '{' :: rest =>
    some (Char.ofNat (Hex.value (rest.takeWhile (· ≠ '}'))), (rest.dropWhile (· ≠ '}')).tail)
  | '\\' :: c :: rest => (named c).map (·, rest)
  | c :: rest => some (c, rest)
  | [] => none

theorem readChar_byNumber (c : Char) (rest : List Char) : readChar (byNumber c ++ rest) = some (c, rest) := by
  have inside : ∀ d ∈ Hex.ofNat c.toNat, decide (d ≠ '}') = true := by
    intro d member
    have digit := Hex.isDigit_of_mem_ofNat member
    refine decide_eq_true ?_
    rintro rfl
    cases digit
  have whole : byNumber c ++ rest = '\\' :: 'u' :: '{' :: (Hex.ofNat c.toNat ++ '}' :: rest) := by simp [byNumber]
  rw [whole, readChar, List.takeWhile_append_of_pos inside, List.dropWhile_append_of_pos inside]
  simp [Hex.value_ofNat]

theorem readChar_plain {c : Char} (plain : c ≠ '\\') (rest : List Char) : readChar (c :: rest) = some (c, rest) := by
  unfold readChar
  split
  · next same => exact absurd (List.cons.inj same).1 plain
  · next same => exact absurd (List.cons.inj same).1 plain
  · next same => cases same; rfl
  · next same => cases same

/-- However a character is written, it is read back, and no character of what follows is taken for a part of it. -/
theorem readChar_ofChar (c : Char) (rest : List Char) : readChar (ofChar c ++ rest) = some (c, rest) := by
  unfold ofChar
  split
  · next same => subst same; rfl
  split
  · next same => subst same; rfl
  split
  · next same => subst same; rfl
  split
  · next same => subst same; rfl
  split
  · next same => rcases same with rfl | rfl <;> rfl
  next other =>
  split
  · exact readChar_byNumber c rest
  · exact readChar_plain (fun same => other (.inr same)) rest

/-- No character within the quotes is written as the quote that ends the text. -/
theorem ofChar_append_ne (c : Char) (back rest : List Char) : ofChar c ++ back ≠ '"' :: rest := by
  intro same
  have read := readChar_ofChar c back
  rw [same, readChar_plain (by decide), Option.some.injEq, Prod.mk.injEq] at read
  obtain ⟨rfl, -⟩ := read
  cases same

/-- A quoted text ends at its quote, whatever stands in it and whatever follows. -/
theorem quote_inj {text other back rest : List Char}
    (same : text.flatMap ofChar ++ '"' :: back = other.flatMap ofChar ++ '"' :: rest) : text = other ∧ back = rest := by
  induction text generalizing other with
  | nil =>
    cases other with
    | nil => exact ⟨rfl, (List.cons.inj same).2⟩
    | cons d others =>
      rw [List.flatMap_cons, List.append_assoc] at same
      exact absurd same.symm (ofChar_append_ne d _ _)
  | cons c text ih =>
    cases other with
    | nil =>
      rw [List.flatMap_cons, List.append_assoc] at same
      exact absurd same (ofChar_append_ne c _ _)
    | cons d others =>
      rw [List.flatMap_cons, List.flatMap_cons, List.append_assoc, List.append_assoc] at same
      have read := readChar_ofChar c (text.flatMap ofChar ++ '"' :: back)
      rw [same, readChar_ofChar, Option.some.injEq, Prod.mk.injEq] at read
      obtain ⟨rfl, tail⟩ := read
      obtain ⟨rfl, rfl⟩ := ih tail.symm
      exact ⟨rfl, rfl⟩

theorem ofString_inj {text other : String} (same : ofString text = ofString other) : text = other := by
  rw [ofString, ofString, String.ofList_inj, ofChars, ofChars, List.cons.injEq] at same
  exact String.toList_inj.mp (quote_inj same.2).1

end Quoted

/-- The characters behind which a new line can be taken to start. -/
def lineBreaks : List Char :=
  ['\n', '\x0b', '\x0c', '\r', '\u0085', '\u2028', '\u2029']

theorem isUnprintable_of_range {c : Char} {first last : Nat} (listed : (first, last) ∈ Unprintable.ranges)
    (above : 0x7f ≤ c.toNat) (within : first ≤ c.toNat ∧ c.toNat ≤ last) : Unprintable.isUnprintable c = true := by
  rw [Unprintable.isUnprintable, if_neg (by omega), List.any_eq_true]
  exact ⟨_, listed, by simpa using within⟩

theorem isUnprintable_of_break {c : Char} (breaks : c ∈ lineBreaks) : Unprintable.isUnprintable c = true := by
  have controls : (0x7f, 0xa0) ∈ Unprintable.ranges := List.mem_cons_of_mem _ List.mem_cons_self
  have separators : (0x2028, 0x202f) ∈ Unprintable.ranges := List.mem_of_getElem? (i := 247) rfl
  simp only [lineBreaks, List.mem_cons, List.not_mem_nil, or_false] at breaks
  rcases breaks with rfl | rfl | rfl | rfl | rfl | rfl | rfl
  · decide
  · decide
  · decide
  · decide
  · exact isUnprintable_of_range controls (by decide) (by decide)
  · exact isUnprintable_of_range separators (by decide) (by decide)
  · exact isUnprintable_of_range separators (by decide) (by decide)

theorem Hex.isUnprintable_of_isDigit {c : Char} (digit : isDigit c = true) : Unprintable.isUnprintable c = false := by
  simp only [isDigit, Char.isDigit, Bool.or_eq_true, Bool.and_eq_true, decide_eq_true_eq] at digit
  have small : 0x20 ≤ c.toNat ∧ c.toNat < 0x7f := by
    rcases digit with ⟨low, high⟩ | ⟨low, high⟩
    · have low : 48 ≤ c.toNat := low
      have high : c.toNat ≤ 57 := high
      omega
    · have low : 97 ≤ c.toNat := low
      have high : c.toNat ≤ 102 := high
      omega
  rw [Unprintable.isUnprintable, if_pos small.2]
  simpa using small.1

namespace Quoted

/-- The characters that escapes are made of, beside digits. -/
def marks : List Char :=
  ['\\', '0', 't', 'r', 'n', '"', 'u', '{', '}']

/-- A character is written as it is only if it is printable. -/
theorem mem_ofChar {c d : Char} (member : d ∈ ofChar c) :
    d ∈ marks ∨ Hex.isDigit d = true ∨ d = c ∧ Unprintable.isUnprintable c = false := by
  have named : ∀ escape ⊆ marks, ∀ d ∈ escape, d ∈ marks := fun _ within _ inside => within inside
  unfold ofChar at member
  split at member
  · exact .inl (named _ (by decide) d member)
  split at member
  · exact .inl (named _ (by decide) d member)
  split at member
  · exact .inl (named _ (by decide) d member)
  split at member
  · exact .inl (named _ (by decide) d member)
  split at member
  · next quote =>
    rcases quote with rfl | rfl
    · exact .inl (named _ (by decide) d member)
    · exact .inl (named _ (by decide) d member)
  split at member
  · simp only [byNumber, List.mem_append, List.mem_singleton] at member
    rcases member with (opening | digit) | closing
    · exact .inl (named _ (by decide) d opening)
    · exact .inr (.inl (Hex.isDigit_of_mem_ofNat digit))
    · exact .inl (closing ▸ by decide)
  · next printable =>
    obtain rfl := List.mem_singleton.mp member
    exact .inr (.inr ⟨rfl, by simpa using (not_or.mp printable).2⟩)

end Quoted

namespace KeyText

/-- A key that is text is shown between quotes. -/
theorem ofBytes_of_text {key : Bytes} {text : String} (spelled : textOf? key = some text) :
    ofBytes key = Quoted.ofString text := by
  rw [ofBytes, spelled]

theorem ofBytes_of_none {key : Bytes} (spelled : textOf? key = none) :
    ofBytes key = String.ofList (Hex.ofBytes key) := by
  rw [ofBytes, spelled]

theorem ofBytes_ne {key : Bytes} {text : String} : String.ofList (Hex.ofBytes key) ≠ Quoted.ofString text := by
  intro same
  rw [Quoted.ofString, String.ofList_inj, Quoted.ofChars] at same
  have digit : Hex.isDigit '"' = true := Hex.isDigit_of_mem (same ▸ List.mem_cons_self)
  cases digit

theorem ofBytes_inj {key other : Bytes} (same : ofBytes key = ofBytes other) : key = other := by
  cases spelled : textOf? key with
  | some text =>
    rw [ofBytes_of_text spelled] at same
    cases spelledToo : textOf? other with
    | some textToo =>
      rw [ofBytes_of_text spelledToo] at same
      rw [textOf?_eq_some_iff.mp spelled, textOf?_eq_some_iff.mp spelledToo, Quoted.ofString_inj same]
    | none =>
      rw [ofBytes_of_none spelledToo] at same
      exact absurd same.symm ofBytes_ne
  | none =>
    rw [ofBytes_of_none spelled] at same
    cases spelledToo : textOf? other with
    | some textToo =>
      rw [ofBytes_of_text spelledToo] at same
      exact absurd same ofBytes_ne
    | none =>
      rw [ofBytes_of_none spelledToo, String.ofList_inj] at same
      exact Hex.ofBytes_inj same

/-- A key is shown without a character that is not printable. -/
theorem isUnprintable_of_mem {key : Bytes} {c : Char} (member : c ∈ (ofBytes key).toList) :
    Unprintable.isUnprintable c = false := by
  have printable : ∀ c ∈ Quoted.marks, Unprintable.isUnprintable c = false := by
    simp only [Quoted.marks, List.forall_mem_cons, List.not_mem_nil, false_implies, implies_true, and_true]
    decide
  cases spelled : textOf? key with
  | some text =>
    rw [ofBytes_of_text spelled, Quoted.ofString, String.toList_ofList, Quoted.ofChars] at member
    simp only [List.mem_cons, List.mem_append, List.mem_flatMap, List.not_mem_nil, or_false] at member
    rcases member with rfl | ⟨d, -, inside⟩ | rfl
    · exact printable _ (by decide)
    · rcases Quoted.mem_ofChar inside with escape | digit | ⟨rfl, shown⟩
      · exact printable c escape
      · exact Hex.isUnprintable_of_isDigit digit
      · exact shown
    · exact printable _ (by decide)
  | none =>
    rw [ofBytes_of_none spelled, String.toList_ofList] at member
    exact Hex.isUnprintable_of_isDigit (Hex.isDigit_of_mem member)

theorem notMem_of_break {c : Char} (breaks : c ∈ lineBreaks) (key : Bytes) : c ∉ (ofBytes key).toList := by
  intro member
  cases (isUnprintable_of_break breaks).symm.trans (isUnprintable_of_mem member)

end KeyText

end Keyring

import Keyring.Container.PacketType
import Keyring.Proofs.Spelling

namespace Keyring

@[simp]
theorem toString_text (text : String) : toString text = text := (rfl)

/-- A text that stands on one line. -/
def Single (text : String) : Prop :=
  '\n' ∉ text.toList

namespace Single

instance (text : String) : Decidable (Single text) :=
  inferInstanceAs (Decidable (_ ∉ _))

@[simp]
theorem append_iff {first second : String} : Single (first ++ second) ↔ Single first ∧ Single second := by
  simp [Single]

@[simp]
theorem nat (n : Nat) : Single (toString n) :=
  notMem_toString (by decide) n

theorem notMem_ofByte (byte : UInt8) : '\n' ∉ Hex.ofByte byte := by
  intro member
  cases Hex.isDigit_of_mem_ofByte member

/-- A key is shown on one line, whatever it spells. -/
@[simp]
theorem keyText (key : Bytes) : Single (KeyText.ofBytes key) :=
  KeyText.notMem_of_break (by decide) key

@[simp]
theorem label (type : PacketType) : Single type.label := by
  unfold PacketType.label PacketType.name?
  cases type.role with
  | unknown => exact append_iff.mpr ⟨by decide, nat _⟩
  | dataKey => exact (by decide : Single "DATA_KEY")
  | salt => exact (by decide : Single "ACCESS_KEY_SALT")
  | entry => exact (by decide : Single "KEYRING_ENTRY")
  | active => exact (by decide : Single "ACTIVE_KEY_ID")
  | bundle => exact (by decide : Single "BUNDLE")

end Single

/-- The lines of a text. What follows the last line feed is one as well. -/
def lines (text : String) : List String :=
  (text.toList.splitOn '\n').map String.ofList

/-- The lines of a text that start in a given way. -/
def linesFrom (start text : String) : List String :=
  (lines text).filter fun line => start.toList.isPrefixOf line.toList

/-- A text whose last line is empty, as it is behind a line feed. -/
def Ended (text : String) : Prop :=
  text = "" ∨ ∃ front, text = front ++ "\n"

section Parting

variable {start line : String}

theorem lines_feed (front back : String) : lines (front ++ "\n" ++ back) = lines front ++ lines back := by
  simp [lines, List.splitOn_append_cons_self]

theorem lines_of_single (single : Single line) : lines line = [line] := by
  rw [lines, List.splitOn, List.splitOnP_eq_singleton]
  · simp
  · intro c member
    simpa using fun feed : c = '\n' => single (feed ▸ member)

theorem lines_join {list : List String} (single : ∀ line ∈ list, Single line) :
    lines (String.join (list.map (· ++ "\n"))) = list ++ [""] := by
  induction list with
  | nil => rfl
  | cons line rest ih =>
    have others := ih fun other member => single other (List.mem_cons_of_mem _ member)
    rw [List.map_cons, String.join_cons, lines_feed, lines_of_single (single line List.mem_cons_self), others]
    rfl

example : lines "one\ntwo\n" = ["one", "two", ""] := by decide

theorem Ended.feed (front : String) : Ended (front ++ "\n") :=
  .inr ⟨front, rfl⟩

theorem Ended.append {first second : String} (ended : Ended first) (endedToo : Ended second) :
    Ended (first ++ second) := by
  rcases endedToo with rfl | ⟨front, rfl⟩
  · rwa [String.append_empty]
  · exact .inr ⟨first ++ front, (String.append_assoc ..).symm⟩

theorem Ended.join {texts : List String} (ended : ∀ text ∈ texts, Ended text) : Ended (String.join texts) := by
  induction texts with
  | nil => exact .inl rfl
  | cons text rest ih =>
    rw [String.join_cons]
    exact (ended text List.mem_cons_self).append (ih fun other member => ended other (List.mem_cons_of_mem _ member))

theorem linesFrom_empty (something : start ≠ "") : linesFrom start "" = [] := by
  have front : start.toList ≠ [] := by simpa using something
  simp [linesFrom, lines_of_single (by decide : Single ""), List.isPrefixOf_iff_prefix, front]

theorem linesFrom_append (something : start ≠ "") {first : String} (ended : Ended first) (second : String) :
    linesFrom start (first ++ second) = linesFrom start first ++ linesFrom start second := by
  rcases ended with rfl | ⟨front, rfl⟩
  · rw [String.empty_append, linesFrom_empty something, List.nil_append]
  · have last := lines_feed front ""
    rw [String.append_empty] at last
    have nothing := linesFrom_empty something
    unfold linesFrom at nothing ⊢
    rw [lines_feed, last, List.filter_append, List.filter_append, nothing, List.append_nil]

theorem linesFrom_join (something : start ≠ "") {texts : List String} (ended : ∀ text ∈ texts, Ended text) :
    linesFrom start (String.join texts) = texts.flatMap (linesFrom start) := by
  induction texts with
  | nil => exact linesFrom_empty something
  | cons text rest ih =>
    have others := ih fun other member => ended other (List.mem_cons_of_mem _ member)
    rw [String.join_cons, linesFrom_append something (ended text List.mem_cons_self), others, List.flatMap_cons]

theorem linesFrom_line (something : start ≠ "") (single : Single line) :
    linesFrom start (line ++ "\n") = if start.toList <+: line.toList then [line] else [] := by
  have last := lines_feed line ""
  rw [String.append_empty, lines_of_single single] at last
  have nothing := linesFrom_empty something
  unfold linesFrom at nothing ⊢
  rw [last, List.filter_append, nothing, List.append_nil]
  simp [List.filter_cons, List.isPrefixOf_iff_prefix]

theorem getElem?_of_front (front : start.toList <+: line.toList) {i : Nat} {c : Char}
    (there : start.toList[i]? = some c) : line.toList[i]? = some c := by
  obtain ⟨within, rfl⟩ := List.getElem?_eq_some_iff.mp there
  exact List.prefix_iff_getElem?.mp front i within

end Parting

end Keyring

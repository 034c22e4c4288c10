import Keyring.Proofs.Register
import Keyring.Proofs.Spelling
import Keyring.Proofs.Steps
import Mathlib.Data.List.DropRight
import Mathlib.Data.List.TakeDrop

namespace Keyring

theorem textBytes_eq_flatMap (text : String) : textBytes text = text.toList.flatMap String.utf8EncodeChar := by
  have spelled : textBytes (String.ofList text.toList) = text.toList.flatMap String.utf8EncodeChar := by
    rw [textBytes, String.toUTF8_eq_toByteArray, String.toByteArray_ofList]
    exact List.toList_data_toByteArray
  rwa [String.ofList_toList] at spelled

/-- A byte below 128 stands for a character of its own wherever it occurs. -/
theorem eq_of_mem_utf8EncodeChar {c : Char} {byte : UInt8} (member : byte ∈ String.utf8EncodeChar c)
    (low : byte.toNat < 128) : c = Char.ofNat byte.toNat := by
  have high : ∀ n, 128 ≤ n → n < 256 → byte ≠ UInt8.ofNat n := by
    rintro n above below rfl
    rw [UInt8.toNat_ofNat'] at low
    omega
  unfold String.utf8EncodeChar at member
  dsimp only at member
  split at member
  · next single =>
    rw [List.mem_singleton.mp member, UInt8.toNat_ofNat', Nat.mod_eq_of_lt (by omega)]
    exact (Char.ofNat_toNat c).symm
  -- of two bytes or more every one is 128 at least
  split at member
  · simp only [List.mem_cons, List.not_mem_nil, or_false] at member
    rcases member with same | same <;> exact absurd same (high _ (by omega) (by omega))
  split at member
  · simp only [List.mem_cons, List.not_mem_nil, or_false] at member
    rcases member with same | same | same <;> exact absurd same (high _ (by omega) (by omega))
  · simp only [List.mem_cons, List.not_mem_nil, or_false] at member
    rcases member with same | same | same | same <;> exact absurd same (high _ (by omega) (by omega))

theorem mem_textBytes {text : String} {byte : UInt8} (low : byte.toNat < 128) (member : byte ∈ textBytes text) :
    Char.ofNat byte.toNat ∈ text.toList := by
  rw [textBytes_eq_flatMap] at member
  obtain ⟨c, inside, member⟩ := List.mem_flatMap.mp member
  exact eq_of_mem_utf8EncodeChar member low ▸ inside

namespace Passphrases

/-- The first line of some input, with the line feed that ends it, and the input behind it. The last line may go
without a line feed. -/
def FirstLine (input line rest : Bytes) : Prop :=
  input = line ++ rest ∧ ((∃ text, lineFeed ∉ text ∧ line = text ++ [lineFeed]) ∨ lineFeed ∉ line ∧ rest = [])

theorem firstLine_splitLine (input : Bytes) : FirstLine input (splitLine input).1 (splitLine input).2 := by
  have before : lineFeed ∉ input.takeWhile (· != lineFeed) := by
    intro member
    simpa using List.mem_takeWhile_imp member
  have whole := List.takeWhile_append_dropWhile (p := (· != lineFeed)) (l := input)
  unfold splitLine
  rw [List.span_eq_takeWhile_dropWhile]
  dsimp only
  cases behind : input.dropWhile (· != lineFeed) with
  | nil =>
    rw [behind] at whole
    exact ⟨whole.symm, .inr ⟨before, rfl⟩⟩
  | cons feed rest =>
    have stops : ¬ (feed != lineFeed) = true := by
      have first := List.head?_dropWhile_not (· != lineFeed) input
      rw [behind] at first
      simpa using first
    obtain rfl : feed = lineFeed := by simpa using stops
    rw [behind] at whole
    refine ⟨?_, .inl ⟨_, before, rfl⟩⟩
    rw [List.append_assoc, List.singleton_append, whole]

/-- Some input starts with one line only. -/
theorem FirstLine.unique {input line rest other back : Bytes} (first : FirstLine input line rest)
    (again : FirstLine input other back) : line = other ∧ rest = back := by
  have feedIn : ∀ text : Bytes, lineFeed ∈ text ++ [lineFeed] := by simp
  obtain ⟨rfl, ended⟩ := first
  obtain ⟨same, endedToo⟩ := again
  rcases ended with ⟨text, before, rfl⟩ | ⟨before, rfl⟩
  · rcases endedToo with ⟨textToo, beforeToo, rfl⟩ | ⟨beforeToo, rfl⟩
    · simp only [List.append_assoc, List.singleton_append] at same
      obtain ⟨rfl, rfl⟩ := cut_inj before beforeToo same
      exact ⟨rfl, rfl⟩
    · rw [List.append_nil] at same
      exact absurd (same ▸ List.mem_append_left _ (feedIn text)) beforeToo
  · rw [List.append_nil] at same
    rcases endedToo with ⟨textToo, -, rfl⟩ | ⟨-, rfl⟩
    · exact absurd (same ▸ List.mem_append_left _ (feedIn textToo)) before
    · exact ⟨same.trans (List.append_nil _), rfl⟩

theorem splitLine_eq {input line rest : Bytes} (first : FirstLine input line rest) : splitLine input = (line, rest) := by
  obtain ⟨rfl, rfl⟩ := first.unique (firstLine_splitLine input)
  rfl

/-- The bytes that can end a line. -/
def endsLine (byte : UInt8) : Bool :=
  byte == lineFeed || byte == carriageReturn

theorem stripLine_eq (line : Bytes) : stripLine line = line.rdropWhile endsLine := rfl

/-- The characters that can end a line. -/
def isEnding (c : Char) : Bool :=
  c = '\n' || c = '\r'

/-- A text without the line feeds and carriage returns at its end. -/
def trimEnd (text : String) : String :=
  String.ofList (text.toList.rdropWhile isEnding)

theorem endsLine_iff {byte : UInt8} : endsLine byte = true ↔ byte = lineFeed ∨ byte = carriageReturn := by
  rw [endsLine, Bool.or_eq_true, beq_iff_eq, beq_iff_eq]

theorem ending_ofNat {byte : UInt8} (ending : endsLine byte = true) :
    byte.toNat < 128 ∧ isEnding (Char.ofNat byte.toNat) = true := by
  rw [endsLine_iff] at ending
  rcases ending with rfl | rfl
  · decide
  · decide

/-- What is cut off the bytes of a text is what is cut off the text. -/
theorem stripLine_textBytes (text : String) : stripLine (textBytes text) = textBytes (trimEnd text) := by
  rw [stripLine_eq, textBytes_eq_flatMap, textBytes_eq_flatMap, trimEnd, String.toList_ofList]
  induction text.toList using List.reverseRecOn with
  | nil => rfl
  | append_singleton front c ih =>
    rw [List.flatMap_append, List.flatMap_singleton]
    cases ending : isEnding c with
    | true =>
      rw [List.rdropWhile_concat_pos _ _ _ ending, ← ih]
      simp only [isEnding, Bool.or_eq_true, decide_eq_true_eq] at ending
      rcases ending with rfl | rfl
      · exact List.rdropWhile_concat_pos _ _ _ rfl
      · exact List.rdropWhile_concat_pos _ _ _ rfl
    | false =>
      rw [List.rdropWhile_concat_neg _ _ _ (by simp [ending]), List.flatMap_append, List.flatMap_singleton]
      rcases List.eq_nil_or_concat (String.utf8EncodeChar c) with nothing | ⟨init, last, code⟩
      · exact absurd nothing (List.ne_nil_of_length_pos (by rw [String.length_utf8EncodeChar]; exact c.utf8Size_pos))
      · rw [List.concat_eq_append] at code
        have member : last ∈ String.utf8EncodeChar c := by simp [code]
        have other : ¬ endsLine last = true := by
          intro ends
          obtain ⟨low, same⟩ := ending_ofNat ends
          rw [← eq_of_mem_utf8EncodeChar member low, ending] at same
          cases same
        rw [code, ← List.append_assoc, List.rdropWhile_concat_neg _ _ _ other]

theorem exists_text {ending : Bytes} (ends : ∀ byte ∈ ending, endsLine byte = true) :
    ∃ text, textBytes text = ending := by
  induction ending with
  | nil => exact ⟨"", rfl⟩
  | cons byte rest ih =>
    obtain ⟨text, same⟩ := ih fun other member => ends other (List.mem_cons_of_mem _ member)
    rcases endsLine_iff.mp (ends byte List.mem_cons_self) with rfl | rfl
    · exact ⟨"\n" ++ text, by rw [textBytes_append, same]; rfl⟩
    · exact ⟨"\r" ++ text, by rw [textBytes_append, same]; rfl⟩

/-- What is left of a line is text only if the line is. -/
theorem textOf?_stripLine (line : Bytes) : textOf? (stripLine line) = (textOf? line).map trimEnd := by
  cases spelled : textOf? line with
  | some text =>
    rw [textOf?_eq_some_iff.mp spelled, stripLine_textBytes, textOf?_textBytes]
    rfl
  | none =>
    cases left : textOf? (stripLine line) with
    | none => rfl
    | some text =>
      have whole : stripLine line ++ line.rtakeWhile endsLine = line := List.rdropWhile_append_rtakeWhile
      obtain ⟨ending, same⟩ : ∃ ending, textBytes ending = line.rtakeWhile endsLine :=
        exists_text fun byte => List.mem_rtakeWhile_imp
      rw [textOf?_eq_some_iff.mp left, ← same, ← textBytes_append] at whole
      rw [← whole, textOf?_textBytes] at spelled
      cases spelled

/-- What a line is taken for. Behind the end of the input there is an empty line. -/
def spelled (line : Bytes) : Except CommandError String :=
  if line = [] then .error .noPassphrase
  else
    match textOf? line with
    | some text => .ok (trimEnd text)
    | none => .error (.io .notText)

theorem ofLine_eq (line : Bytes) : ofLine line = spelled line := by
  unfold ofLine spelled
  by_cases nothing : line = []
  · rw [if_pos nothing, if_pos (List.isEmpty_iff.mpr nothing)]
  · rw [if_neg nothing, if_neg (mt List.isEmpty_iff.mp nothing), textOf?_stripLine]
    cases textOf? line with
    | some text => rfl
    | none => rfl

theorem next_lines {input line rest : Bytes} (first : FirstLine input line rest) :
    (lines input).next = (spelled line, lines rest) := by
  rw [next, splitLine_eq first]
  exact congrArg (·, lines rest) (ofLine_eq line)

/-- The lines that some input starts with, one after the other, and the input behind them. -/
def Parted : Bytes → List Bytes → Bytes → Prop
  | input, [], rest => input = rest
  | input, line :: others, rest => ∃ behind, FirstLine input line behind ∧ Parted behind others rest

theorem Parted.whole {input rest : Bytes} {parts : List Bytes} (parted : Parted input parts rest) :
    input = parts.flatten ++ rest := by
  induction parts generalizing input with
  | nil => exact parted
  | cons line parts ih =>
    obtain ⟨behind, first, others⟩ := parted
    rw [first.1, ih others, List.flatten_cons, List.append_assoc]

section Typing

/-- The two ways in which a line is ended. -/
inductive LineEnd where
  | feed
  | returnFeed

def LineEnd.text : LineEnd → String
  | feed => "\n"
  | returnFeed => "\r\n"

/-- Passphrases that are told from the end of their line. -/
def Typable (passphrase : String) : Prop :=
  '\n' ∉ passphrase.toList ∧ passphrase.toList.getLast? ≠ some '\r'

/-- Passphrases as they are typed, one on each line. Behind them there can be a last one whose line is not ended. -/
def typed (ended : List (String × LineEnd)) (last : String) : String :=
  String.join (ended.map fun line => line.1 ++ line.2.text) ++ last

/-- The passphrases that were typed. -/
def entered (ended : List (String × LineEnd)) (last : String) : List String :=
  ended.map Prod.fst ++ if last = "" then [] else [last]

variable {passphrase : String}

theorem Typable.notMem (typable : Typable passphrase) : lineFeed ∉ textBytes passphrase :=
  fun member => typable.1 (mem_textBytes (by decide) member)

theorem Typable.trimEnd_eq (typable : Typable passphrase) : trimEnd passphrase = passphrase := by
  have other : ∀ something : passphrase.toList ≠ [], ¬ isEnding (passphrase.toList.getLast something) = true := by
    intro something ending
    have last := List.getLast?_eq_some_getLast something
    simp only [isEnding, Bool.or_eq_true, decide_eq_true_eq] at ending
    rcases ending with feed | back
    · exact typable.1 (feed ▸ List.getLast_mem something)
    · exact typable.2 (back ▸ last)
  rw [trimEnd, List.rdropWhile_eq_self_iff.mpr other, String.ofList_toList]

theorem Typable.trimEnd_ended (typable : Typable passphrase) (ending : LineEnd) :
    trimEnd (passphrase ++ ending.text) = passphrase := by
  have same := typable.trimEnd_eq
  rw [trimEnd] at same
  have feed : ("\n" : String).toList = [] ++ ['\n'] := rfl
  have both : ("\r\n" : String).toList = ['\r'] ++ ['\n'] := rfl
  cases ending with
  | feed =>
    rw [LineEnd.text, trimEnd, String.toList_append, feed, ← List.append_assoc, List.rdropWhile_concat_pos _ _ _ rfl,
      List.append_nil]
    exact same
  | returnFeed =>
    rw [LineEnd.text, trimEnd, String.toList_append, both, ← List.append_assoc, List.rdropWhile_concat_pos _ _ _ rfl,
      List.rdropWhile_concat_pos _ _ _ rfl]
    exact same

theorem spelled_textBytes {text : String} (something : text ≠ "") : spelled (textBytes text) = .ok (trimEnd text) := by
  rw [spelled, if_neg (textBytes_ne_nil (by simpa using something)), textOf?_textBytes]

theorem Typable.next_ended (typable : Typable passphrase) (ending : LineEnd) (rest : String) :
    (lines (textBytes (passphrase ++ ending.text ++ rest))).next = (.ok passphrase, lines (textBytes rest)) := by
  have first : FirstLine (textBytes (passphrase ++ ending.text ++ rest)) (textBytes (passphrase ++ ending.text))
      (textBytes rest) := by
    refine ⟨textBytes_append _ _, .inl ?_⟩
    have feed : textBytes "\n" = [lineFeed] := rfl
    have both : textBytes "\r\n" = [carriageReturn] ++ [lineFeed] := rfl
    cases ending with
    | feed => exact ⟨_, typable.notMem, by rw [textBytes_append, LineEnd.text, feed]⟩
    | returnFeed =>
      refine ⟨textBytes passphrase ++ [carriageReturn], ?_, ?_⟩
      · rw [List.mem_append, not_or]
        exact ⟨typable.notMem, by decide⟩
      · rw [textBytes_append, LineEnd.text, both, List.append_assoc]
  have something : passphrase ++ ending.text ≠ "" := by
    cases ending with
    | feed => simp [LineEnd.text]
    | returnFeed => simp [LineEnd.text]
  rw [next_lines first, spelled_textBytes something, typable.trimEnd_ended]

theorem Typable.next_last (typable : Typable passphrase) (something : passphrase ≠ "") :
    (lines (textBytes passphrase)).next = (.ok passphrase, lines []) := by
  have first : FirstLine (textBytes passphrase) (textBytes passphrase) [] :=
    ⟨(List.append_nil _).symm, .inr ⟨typable.notMem, rfl⟩⟩
  rw [next_lines first, spelled_textBytes something, typable.trimEnd_eq]

end Typing

/-- The next answers. -/
def answers (count : Nat) (passphrases : Passphrases) : List (Except CommandError String) :=
  (List.range count).map passphrases.entry

/-- What is left when some answers have been taken. -/
def after : Nat → Passphrases → Passphrases
  | 0, passphrases => passphrases
  | count + 1, passphrases => after count passphrases.next.2

theorem answers_succ (count : Nat) (passphrases : Passphrases) :
    answers (count + 1) passphrases = passphrases.next.1 :: answers count passphrases.next.2 := by
  rw [answers, List.range_succ_eq_map, List.map_cons, List.map_map]
  rfl

theorem answers_nil (count : Nat) : answers count (lines []) = List.replicate count (.error .noPassphrase) := by
  induction count with
  | zero => rfl
  | succ count ih =>
    have ended : (lines []).next = (.error .noPassphrase, lines []) := rfl
    rw [answers_succ, ended, ih, List.replicate_succ]

/-- Whatever is asked for reads one line, and every line is read once. -/
theorem answers_lines (count : Nat) (input : Bytes) :
    ∃ parts rest, parts.length = count ∧ Parted input parts rest ∧ answers count (lines input) = parts.map spelled ∧
      after count (lines input) = lines rest := by
  induction count generalizing input with
  | zero => exact ⟨[], input, rfl, rfl, rfl, rfl⟩
  | succ count ih =>
    have first := firstLine_splitLine input
    obtain ⟨parts, rest, length, parted, answered, left⟩ := ih (splitLine input).2
    refine ⟨(splitLine input).1 :: parts, rest, by rw [List.length_cons, length], ⟨_, first, parted⟩, ?_, ?_⟩
    · rw [answers_succ, next_lines first, answered, List.map_cons]
    · rw [after, next_lines first, left]

theorem answers_typed {ended : List (String × LineEnd)} {last : String} (typable : ∀ line ∈ ended, Typable line.1)
    (typableLast : Typable last) (extra : Nat) :
    answers ((entered ended last).length + extra) (lines (textBytes (typed ended last))) =
      (entered ended last).map .ok ++ List.replicate extra (.error .noPassphrase) := by
  induction ended with
  | nil =>
    by_cases nothing : last = ""
    · subst nothing
      rw [entered, if_pos rfl, List.map_nil, List.append_nil, List.length_nil, Nat.zero_add]
      exact answers_nil extra
    · have shape : entered [] last = [last] := by rw [entered, if_neg nothing]; rfl
      have line : typed [] last = last := String.empty_append
      rw [shape, line, List.length_singleton, Nat.add_comm, answers_succ, typableLast.next_last nothing, answers_nil]
      rfl
  | cons line ended ih =>
    obtain ⟨first, others⟩ := List.forall_mem_cons.mp typable
    -- the first line is read and leaves the others as they were typed
    have shape : entered (line :: ended) last = line.1 :: entered ended last := rfl
    have front : typed (line :: ended) last = line.1 ++ line.2.text ++ typed ended last := by
      rw [typed, List.map_cons, String.join_cons, String.append_assoc, typed]
    rw [shape, front, List.length_cons, Nat.add_right_comm, answers_succ, first.next_ended, ih others, List.map_cons,
      List.cons_append]

end Passphrases

namespace Desk

open Keyring.Action Passphrases

/-- Asks for one passphrase after the other, whatever is answered. -/
def askEach (desk : Desk) : List String → List (Except (Failure CommandError) String) × Desk
  | [] => ([], desk)
  | prompt :: rest =>
    let others := (left (askPassphrase prompt desk)).askEach rest
    (Action.outcome (askPassphrase prompt) desk :: others.1, others.2)

theorem askEach_cons (desk : Desk) (prompt : String) (rest : List String) :
    desk.askEach (prompt :: rest) = (desk.passphrases.next.1.mapError .error :: ((asked prompt desk).askEach rest).1,
      ((asked prompt desk).askEach rest).2) := by
  rw [askEach, Action.outcome, askPassphrase_eq]
  cases desk.passphrases.next.1 with
  | ok text => rfl
  | error cause => rfl

/-- Every answer is asked for by a prompt of its own, and nothing else happens. -/
theorem askEach_lines (prompts : List String) {desk : Desk} {input : Bytes} (given : desk.passphrases = .lines input) :
    (desk.askEach prompts).1 = (answers prompts.length (.lines input)).map (·.mapError .error) ∧
      (desk.askEach prompts).2 = { desk with
        passphrases := after prompts.length (.lines input)
        world := { desk.world with trace := desk.world.trace ++ (prompts.map Mark.prompted).toArray } } := by
  induction prompts generalizing desk input with
  | nil =>
    refine ⟨rfl, ?_⟩
    rw [askEach]
    simp [after, ← given]
  | cons prompt prompts ih =>
    have later : (asked prompt desk).passphrases = .lines (splitLine input).2 := by
      rw [asked, given]
      rfl
    obtain ⟨answered, ended⟩ := ih later
    have world : (asked prompt desk).world =
        { desk.world with trace := desk.world.trace.push (.prompted prompt) } := by
      rw [asked, given]
      rfl
    rw [askEach_cons, List.length_cons, List.map_cons, answers_succ]
    refine ⟨?_, ?_⟩
    · rw [answered, given]
      rfl
    · rw [ended, world]
      simp [asked, after, next]

/-- Prompted passphrases are the lines of the input. Each time one is asked for, a prompt goes out and one whole line is
read, also if it spells no text; no more is read than that line. What was typed in lines comes back as it was typed,
however the lines are ended, and behind the last of them there is no passphrase. -/
theorem prompts_read_lines :
    (∀ (prompts : List String) (desk : Desk) (input : Bytes), desk.passphrases = .lines input →
      ∃ (parts : List Bytes) (rest : Bytes),
        parts.length = prompts.length ∧ Parted input parts rest ∧ input = parts.flatten ++ rest ∧
        (desk.askEach prompts).1 = parts.map (fun line => (spelled line).mapError .error) ∧
        (desk.askEach prompts).2 = { desk with
          passphrases := .lines rest
          world := { desk.world with trace := desk.world.trace ++ (prompts.map Mark.prompted).toArray } }) ∧
    (∀ input : Bytes, ∃! parts : Bytes × Bytes, FirstLine input parts.1 parts.2) ∧
    ∀ (ended : List (String × LineEnd)) (last : String), (∀ line ∈ ended, Typable line.1) → Typable last →
      ∀ (prompts : List String) (extra : Nat) (desk : Desk),
        desk.passphrases = .lines (textBytes (typed ended last)) →
        prompts.length = (entered ended last).length + extra →
        (desk.askEach prompts).1 =
          (entered ended last).map .ok ++ List.replicate extra (.error (.error .noPassphrase)) := by
  refine ⟨?_, ?_, ?_⟩
  · intro prompts desk input given
    obtain ⟨answered, left⟩ := askEach_lines prompts given
    obtain ⟨parts, rest, length, parted, spelled, after⟩ := answers_lines prompts.length input
    refine ⟨parts, rest, length, parted, parted.whole, ?_, ?_⟩
    · rw [answered, spelled, List.map_map]
      rfl
    · rw [left, after]
  · intro input
    refine ⟨splitLine input, firstLine_splitLine input, fun parts first => ?_⟩
    exact (splitLine_eq first).symm
  · intro ended last typable typableLast prompts extra desk given length
    rw [(askEach_lines prompts given).1, length, answers_typed typable typableLast, List.map_append, List.map_map,
      List.map_replicate]
    rfl

/-- Lines that are ended in both ways, an empty one among them, and a last one that is not ended. -/
theorem prompts_read_lines_mixed :
    let desk : Desk := .boundless (Ring.worldFrom []) ⟨[], []⟩ (.lines (textBytes "one\r\n\n  two"))
    (desk.askEach ["a", "b", "c", "d"]).1 = [.ok "one", .ok "", .ok "  two", .error (.error .noPassphrase)] := by
  intro desk
  have typable : ∀ line ∈ [("one", LineEnd.returnFeed), ("", LineEnd.feed)], Typable line.1 := by
    simp only [List.forall_mem_cons, List.not_mem_nil, false_implies, implies_true, and_true, Typable]
    decide
  obtain ⟨-, -, reads⟩ := prompts_read_lines
  exact reads _ "  two" typable ⟨by decide, by decide⟩ ["a", "b", "c", "d"] 1 desk rfl rfl

end Desk

end Keyring

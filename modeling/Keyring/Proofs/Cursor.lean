import Keyring.Container.Cursor
import Keyring.Proofs.Stopping
import Mathlib.Algebra.GroupWithZero.Nat

namespace Keyring

/-- The same damage, in bytes that lie `base` further on. -/
def Malformed.shift (base : Nat) : Malformed → Malformed
  | shortPacketHeader offset => shortPacketHeader (base + offset)
  | shortPacket offset expected actual => shortPacket (base + offset) expected actual
  | shortHeader actual => shortHeader actual
  | magic byte => magic byte
  | shortEntry actual => shortEntry actual
  | zeroId => zeroId
  | activeLength actual => activeLength actual

theorem Torn.shift {offset : Nat} {rest : Bytes} {damage : Malformed} (torn : Torn offset rest damage) (base : Nat) :
    Torn (base + offset) rest (damage.shift base) := by
  cases torn with
  | header nonempty short => exact .header nonempty short
  | content short => exact .content short

namespace Reading

/-- The packets, then the damage if there is any. -/
def answers (reading : Reading) : List (Except Malformed Packet) :=
  reading.packets.map .ok ++ reading.damage.toList.map .error

/-- The same reading behind packets that come first. -/
def behind (reading : Reading) (front : List Packet) : Reading :=
  ⟨front ++ reading.packets, reading.damage⟩

theorem packets_behind (reading : Reading) (packet : Packet) :
    (reading.behind [packet]).packets = packet :: reading.packets := rfl

theorem answers_behind (reading : Reading) (packet : Packet) :
    (reading.behind [packet]).answers = .ok packet :: reading.answers := rfl

/-- Where the bytes lie changes nothing but where the damage is found. -/
theorem of_shift (base offset : Nat) (data : Bytes) :
    of (base + offset) data = ⟨(of offset data).packets, (of offset data).damage.map (.shift base)⟩ := by
  cases found : (of offset data).damage with
  | none =>
    obtain ⟨whole, fits⟩ := joined_packets found
    have again := of_joined fits (base + offset)
    rw [← whole] at again
    rw [again, Option.map_none]
  | some damage =>
    obtain ⟨rest, whole, fits, torn⟩ := torn_of_damage found
    have again := of_joined_append fits (base + offset) rest
    rw [← whole, Nat.add_assoc, of_torn (torn.shift base), List.append_nil] at again
    rw [again, Option.map_some]

end Reading

namespace Cursor

variable {cursor : Cursor}

/-- What there is left to read, when nothing was found wrong so far. -/
def reading (cursor : Cursor) : Reading :=
  .of (cursor.base + cursor.position) cursor.rest

/-- The cursor behind a packet that it stands at. -/
def past (cursor : Cursor) (packet : Packet) (rest : Bytes) : Cursor :=
  { cursor with rest := rest, position := cursor.position + packet.encodedLength }

/-- The cursor at damage that was told. -/
def stopped (cursor : Cursor) : Cursor :=
  { cursor with failed := true }

/-- No offset of what is left to read leaves the range of 64 bits. -/
def InRange (cursor : Cursor) : Prop :=
  cursor.base + cursor.position + cursor.rest.length < offsetLimit

/-- What some calls give, each with the position after it. -/
def calls : Nat → Cursor → Except Fault (List (Option (Except Malformed Packet) × Nat))
  | 0, _ => .ok []
  | count + 1, cursor => do
    let (answer, later) ← cursor.next
    let others ← calls count later
    return (answer, later.position) :: others

theorem checkOffset_of_lt {offset : Nat} (within : offset < offsetLimit) : checkOffset offset = .ok offset :=
  if_pos within

theorem next_of_ended (ended : cursor.failed = true ∨ cursor.rest = []) : cursor.next = .ok (none, cursor) := by
  have stops : (cursor.failed || cursor.rest.isEmpty) = true := by simpa using ended
  rw [next, if_pos stops]
  rfl

theorem InRange.past {packet : Packet} {rest : Bytes} (inRange : cursor.InRange)
    (front : cursor.rest = packet.bytes ++ rest) : (cursor.past packet rest).InRange := by
  unfold InRange at inRange ⊢
  rw [front, List.length_append, Packet.length_bytes] at inRange
  show cursor.base + (cursor.position + packet.encodedLength) + rest.length < offsetLimit
  omega

section Going

variable (inRange : cursor.InRange) (going : cursor.failed = false)
include inRange going

theorem next_of_packet {packet : Packet} {rest : Bytes} (fits : packet.Fits) (front : cursor.rest = packet.bytes ++ rest) :
    cursor.next = .ok (some (.ok packet), cursor.past packet rest) := by
  have size : cursor.rest.length = 4 + packet.content.length + rest.length := by
    rw [front, List.length_append, Packet.length_bytes, Packet.encodedLength, Packet.headerSize]
  unfold InRange at inRange
  have goes : (cursor.failed || cursor.rest.isEmpty) = false := by
    rw [going, front]
    rfl
  have start := checkOffset_of_lt (by omega : cursor.base + cursor.position < offsetLimit)
  have content := checkOffset_of_lt (by omega : cursor.base + cursor.position + 4 < offsetLimit)
  have whole := Front.of_bytes_append fits rest
  rw [← front] at whole
  simp only [next, goes, start, whole, Packet.headerSize, content, past, bind, Except.bind, pure, Except.pure,
    Bool.false_eq_true, if_false]

theorem next_of_shortHeader (something : cursor.rest ≠ []) (front : Front.of cursor.rest = .shortHeader) :
    cursor.next = .ok (some (.error (.shortPacketHeader (cursor.base + cursor.position))), cursor.stopped) := by
  unfold InRange at inRange
  have goes : (cursor.failed || cursor.rest.isEmpty) = false := by simp [going, something]
  have start := checkOffset_of_lt (by omega : cursor.base + cursor.position < offsetLimit)
  simp only [next, goes, start, front, stopped, bind, Except.bind, pure, Except.pure, Bool.false_eq_true, if_false]

theorem next_of_shortContent {expected actual : Nat} (something : cursor.rest ≠ [])
    (front : Front.of cursor.rest = .shortContent expected actual) :
    cursor.next = .ok (some (.error (.shortPacket (cursor.base + cursor.position + Packet.headerSize) expected actual)),
      cursor.stopped) := by
  unfold InRange at inRange
  have long : ¬ cursor.rest.length < Packet.headerSize := by
    rw [← Front.of_eq_shortHeader_iff, front]
    exact Front.noConfusion
  have goes : (cursor.failed || cursor.rest.isEmpty) = false := by simp [going, something]
  have start := checkOffset_of_lt (by omega : cursor.base + cursor.position < offsetLimit)
  have content := checkOffset_of_lt (by omega : cursor.base + cursor.position + Packet.headerSize < offsetLimit)
  simp only [next, goes, start, front, content, stopped, bind, Except.bind, pure, Except.pure, Bool.false_eq_true,
    if_false]

theorem next_of_torn {damage : Malformed} (torn : Torn (cursor.base + cursor.position) cursor.rest damage) :
    cursor.next = .ok (some (.error damage), cursor.stopped) := by
  have something := torn.nonempty
  generalize lies : cursor.rest = rest at torn
  cases torn with
  | header nonempty short =>
    rw [← lies] at short
    exact next_of_shortHeader inRange going something (Front.of_eq_shortHeader_iff.mpr short)
  | @content code high middle low content short =>
    have front := Front.of_short short code
    rw [← lies] at front
    exact next_of_shortContent inRange going something front

/-- What a call can give: nothing at the end, the packet that comes first in what is left to read, or the damage that
is all there is. -/
theorem next_cases :
    (cursor.next = .ok (none, cursor) ∧ cursor.rest = [] ∧ cursor.reading = ⟨[], none⟩) ∨
    (∃ packet rest, cursor.next = .ok (some (.ok packet), cursor.past packet rest) ∧
      (cursor.past packet rest).InRange ∧ rest.length < cursor.rest.length ∧
      cursor.reading = (cursor.past packet rest).reading.behind [packet]) ∨
    ∃ damage, cursor.next = .ok (some (.error damage), cursor.stopped) ∧ cursor.reading = ⟨[], some damage⟩ := by
  rcases Reading.front_cases (cursor.base + cursor.position) cursor.rest with
    empty | ⟨packet, rest, fits, front⟩ | ⟨damage, torn⟩
  · refine .inl ⟨next_of_ended (.inr empty), empty, ?_⟩
    rw [reading, empty, Reading.of_nil]
  · refine .inr (.inl ⟨packet, rest, next_of_packet inRange going fits front, inRange.past front, ?_, ?_⟩)
    · rw [front, List.length_append, Packet.length_bytes, Packet.encodedLength, Packet.headerSize]
      omega
    · rw [reading, front, Reading.of_bytes_append fits, Nat.add_assoc]
      rfl
  · exact .inr (.inr ⟨damage, next_of_torn inRange going torn, Reading.of_torn torn⟩)

end Going

/-- Once a cursor has stopped it stays where it is. -/
theorem calls_of_ended (ended : cursor.failed = true ∨ cursor.rest = []) (count : Nat) :
    cursor.calls count = .ok (List.replicate count (none, cursor.position)) := by
  induction count with
  | zero => rfl
  | succ count ih =>
    rw [calls, next_of_ended ended]
    simp only [bind, Except.bind, pure, Except.pure, ih, List.replicate_succ]

theorem calls_of_next {later : Cursor} {answer : Option (Except Malformed Packet)}
    {others : List (Option (Except Malformed Packet) × Nat)} {count : Nat} (step : cursor.next = .ok (answer, later))
    (onward : later.calls count = .ok others) :
    cursor.calls (count + 1) = .ok ((answer, later.position) :: others) := by
  rw [calls, step]
  simp only [bind, Except.bind, pure, Except.pure, onward]

/-- Calls give a reading answer by answer, and leave the cursor behind the packets among the answers. -/
theorem calls_eq (inRange : cursor.InRange) (going : cursor.failed = false) (count : Nat) :
    cursor.calls count =
      .ok ((List.range count).map fun i =>
        (cursor.reading.answers[i]?,
          cursor.position + ((cursor.reading.packets.take (i + 1)).map Packet.encodedLength).sum)) := by
  induction count generalizing cursor with
  | zero => rfl
  | succ count ih =>
    rcases next_cases inRange going with
      ⟨-, empty, nothing⟩ | ⟨packet, rest, step, onward, -, first⟩ | ⟨damage, step, only⟩
    · rw [calls_of_ended (.inr empty), nothing]
      simp [Reading.answers, List.map_const']
    · rw [calls_of_next step (ih onward going), first, List.range_succ_eq_map]
      simp only [List.map_cons, List.map_map, Function.comp_def, Reading.answers_behind, Reading.packets_behind,
        List.getElem?_cons_zero, List.getElem?_cons_succ, List.take_succ_cons, List.sum_cons, past, Nat.add_assoc]
      rfl
    · have stays : cursor.stopped.calls count = .ok (List.replicate count (none, cursor.position)) :=
        calls_of_ended (.inl rfl) count
      rw [calls_of_next step stays, only, List.range_succ_eq_map]
      simp [Reading.answers, stopped, Function.comp_def, List.map_const']

theorem collect_of_end {later : Cursor} (done : List Packet) (step : cursor.next = .ok (none, later)) :
    collect done cursor = .ok ⟨done.reverse, none⟩ := by
  rw [collect]
  split <;> simp_all

theorem collect_of_damage {later : Cursor} {damage : Malformed} (done : List Packet)
    (step : cursor.next = .ok (some (.error damage), later)) :
    collect done cursor = .ok ⟨done.reverse, some damage⟩ := by
  rw [collect]
  split <;> simp_all

theorem collect_of_packet {later : Cursor} {packet : Packet} (done : List Packet)
    (step : cursor.next = .ok (some (.ok packet), later)) :
    collect done cursor = collect (packet :: done) later := by
  rw [collect]
  split <;> simp_all

/-- Reading on to the end gives what is left, behind what was read before. -/
theorem collect_eq (inRange : cursor.InRange) (going : cursor.failed = false) (done : List Packet) :
    collect done cursor = .ok (cursor.reading.behind done.reverse) := by
  -- The induction is on the bytes that are left, of which a packet takes its header at least.
  induction size : cursor.rest.length using Nat.strongRecOn generalizing cursor done with
  | _ length ih =>
    rcases next_cases inRange going with
      ⟨step, -, nothing⟩ | ⟨packet, rest, step, onward, shorter, first⟩ | ⟨damage, step, only⟩
    · rw [collect_of_end done step, nothing, Reading.behind, List.append_nil]
    · rw [collect_of_packet done step, ih rest.length (by omega) onward going (packet :: done) rfl, first]
      simp [Reading.behind]
    · rw [collect_of_damage done step, only, Reading.behind, List.append_nil]

theorem drain_start {data : Bytes} {base : Nat} (room : base + data.length < offsetLimit) :
    (start data base).drain = .ok (.of base data) := by
  have inRange : (start data base).InRange := room
  have whole : collect [] (start data base) = .ok ((start data base).reading.behind []) := collect_eq inRange rfl []
  rw [drain, whole]
  rfl

/-- While offsets stay in range, reading packet by packet never faults. However many calls are made, they give the
packets of the whole reading in order, then its damage once, then nothing; and the position is behind the packets that
were given. Bytes that are read without damage can be read first and what follows them on its own, and where they lie
counts for nothing but where damage is found. -/
theorem reads_in_pieces {front more : Bytes} {base : Nat}
    (room : base + front.length + more.length < 18446744073709551616) :
    ∃ reading, (start front base).drain = .ok reading ∧ Packet.parseAll base front = reading.complete none ∧
      (∀ count, (start front base).calls count =
        .ok ((List.range count).map fun i =>
          (reading.answers[i]?, ((reading.packets.take (i + 1)).map Packet.encodedLength).sum))) ∧
      (reading.damage = none → ∃ onward, (start more (base + front.length)).drain = .ok onward ∧
        (start (front ++ more) base).drain = .ok ⟨reading.packets ++ onward.packets, onward.damage⟩) ∧
      ∃ alone, (start front 0).drain = .ok alone ∧
        reading = ⟨alone.packets, alone.damage.map (.shift base)⟩ := by
  have frontRoom : base + front.length < offsetLimit := Nat.lt_of_le_of_lt (Nat.le_add_right _ _) room
  refine ⟨.of base front, drain_start frontRoom, rfl, ?_, ?_, ?_⟩
  · intro count
    have inRange : (start front base).InRange := frontRoom
    rw [calls_eq inRange rfl count]
    simp only [reading, start, Nat.add_zero, Nat.zero_add]
  · intro undamaged
    obtain ⟨whole, fits⟩ := Reading.joined_packets undamaged
    refine ⟨.of (base + front.length) more, drain_start room, ?_⟩
    have size : base + (front ++ more).length < offsetLimit := by
      rw [List.length_append, ← Nat.add_assoc]
      exact room
    have pieces := Reading.of_joined_append fits base more
    rw [← whole] at pieces
    rw [drain_start size, pieces]
  · refine ⟨.of 0 front, drain_start (by omega), ?_⟩
    exact Reading.of_shift base 0 front

/-- Up to the last offset that there is: a packet, and another one that lacks a byte. -/
theorem reads_in_pieces_edge :
    let front : Bytes := [0x40, 0, 0, 1, 7]
    let more : Bytes := [6, 0, 0, 2, 9]
    let base := 18446744073709551605
    base + front.length + more.length < 18446744073709551616 ∧
      (start front base).calls 2 = .ok [(some (.ok ⟨⟨0x40⟩, [7]⟩), 5), (none, 5)] ∧
      (start (front ++ more) base).drain =
        .ok ⟨[⟨⟨0x40⟩, [7]⟩], some (.shortPacket 18446744073709551614 2 1)⟩ := by
  intro front more base
  have room : base + front.length + more.length < 18446744073709551616 := by decide
  obtain ⟨found, drained, -, calls, onward, -⟩ := reads_in_pieces room
  have joined : front = Packet.joined [⟨⟨0x40⟩, [7]⟩] := rfl
  have single : Reading.of base front = ⟨[⟨⟨0x40⟩, [7]⟩], none⟩ := by
    rw [joined, Reading.of_joined (by decide)]
  have torn : Reading.of (base + 5) more = ⟨[], some (.shortPacket (base + 9) 2 1)⟩ :=
    Reading.of_torn (.content (by decide))
  rw [drain_start (by decide), single] at drained
  cases drained
  obtain ⟨behind, drainedMore, whole⟩ := onward rfl
  rw [drain_start (by decide)] at drainedMore
  obtain rfl : behind = ⟨[], some (.shortPacket (base + 9) 2 1)⟩ := (Except.ok.inj drainedMore).symm.trans torn
  exact ⟨room, calls 2, whole⟩

end Cursor

end Keyring

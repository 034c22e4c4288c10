import Keyring.Container.Building
import Keyring.Proofs.Container
import Mathlib.Data.List.Forall2

namespace Keyring

namespace Part

/-- The length of the content that a part is given. A header has none. -/
def contentLength : Part → Nat
  | .header _ => 0
  | .packet unit => unit.content.length
  | .active id => (ActiveRecord.content id).length
  | .entry record => 4 + record.key.length

/-- The packet that a part is written as, unless it is a header. -/
def packet? : Part → Option Packet
  | .header _ => none
  | .packet unit => some unit
  | .active id => some ⟨.active, ActiveRecord.content id⟩
  | .entry record => some ⟨.entry, record.content⟩

/-- What a part is read back as. A record under the id 0 is written like any other, but not read. -/
def ReadBack : Part → Packet → Prop
  | .header _, _ => False
  | .packet unit, found => found = unit
  | .active id, found => found.type = .active ∧
      ActiveRecord.parse found.content = if id = some 0 then .error .zeroId else .ok id
  | .entry record, found => found.type = .entry ∧
      Entry.parse found.content = if record.id = 0 then .error .zeroId else .ok record

variable {part : Part} {unit : Packet}

theorem contentLength_of_packet? (isPacket : part.packet? = some unit) : part.contentLength = unit.content.length := by
  cases part with
  | header opening => cases isPacket
  | packet other =>
    cases isPacket
    rfl
  | active id =>
    cases isPacket
    rfl
  | entry record =>
    cases isPacket
    simp only [contentLength, Entry.content, List.length_append, length_be32]

end Part

/-- The id 0 is written in four bytes like any other, and refused when they are read. -/
theorem Entry.parse_content_eq (entry : Entry) :
    parse entry.content = if entry.id = 0 then .error .zeroId else .ok entry := by
  simp only [content, be32, List.cons_append, List.nil_append, parse, ofBe32_be32]

theorem ActiveRecord.parse_content_eq (id : Option KeyId) :
    parse (content id) = if id = some 0 then .error .zeroId else .ok id := by
  cases id with
  | none => rfl
  | some id => simp only [content, be32, parse, ofBe32_be32, Option.some.injEq]

theorem Part.readBack_of_packet? {part : Part} {unit : Packet} (isPacket : part.packet? = some unit) :
    part.ReadBack unit := by
  cases part with
  | header opening => cases isPacket
  | packet other =>
    cases isPacket
    exact rfl
  | active id =>
    cases isPacket
    exact ⟨rfl, ActiveRecord.parse_content_eq id⟩
  | entry record =>
    cases isPacket
    exact ⟨rfl, Entry.parse_content_eq record⟩

namespace Building

/-- A packet is written whole, or nothing of it is. -/
theorem packet_eq (type : PacketType) (content built : Bytes) :
    packet type content built =
      if content.length ≤ max24 then .ok () (built ++ Packet.bytes ⟨type, content⟩)
      else .error (.packetTooBig content.length) built := by
  by_cases fits : content.length ≤ max24
  · have written : packet type content built =
        .ok () (((built ++ [type.code]) ++ be24 content.length) ++ content) := by
      unfold packet checkLength
      rw [if_pos fits]
      rfl
    rw [written, if_pos fits, Packet.bytes, List.append_assoc, List.append_assoc]
    rfl
  · unfold packet checkLength
    rw [if_neg fits, if_neg fits]
    rfl

/-- An entry is written piece by piece like the packet that has the pieces as its content. -/
theorem entry_eq_packet (id : KeyId) (key : Bytes) : entry id key = packet .entry (be32 id ++ key) := by
  funext built
  have size : (be32 id ++ key).length = 4 + key.length := by rw [List.length_append, length_be32]
  rw [packet_eq, size]
  by_cases fits : 4 + key.length ≤ max24
  · have written : entry id key built =
        .ok () ((((built ++ [PacketType.entry.code]) ++ be24 (4 + key.length)) ++ be32 id) ++ key) := by
      simp only [entry, checkLength, if_pos fits]
      rfl
    rw [written, if_pos fits, Packet.bytes, size]
    simp only [List.append_assoc]
    rfl
  · rw [if_neg fits]
    simp only [entry, checkLength, if_neg fits]
    rfl

theorem active_eq_packet (id : Option KeyId) : active id = packet .active (ActiveRecord.content id) := by
  cases id <;> rfl

theorem put_eq_packet {part : Part} {unit : Packet} (isPacket : part.packet? = some unit) :
    put part = packet unit.type unit.content := by
  cases part with
  | header opening => cases isPacket
  | packet other =>
    cases isPacket
    rfl
  | active id =>
    cases isPacket
    exact active_eq_packet id
  | entry record =>
    cases isPacket
    exact entry_eq_packet record.id record.key

theorem packet_eq_encode (unit : Packet) (built : Bytes) :
    packet unit.type unit.content built =
      match unit.encode with
      | .ok added => .ok () (built ++ added)
      | .error fault => .error fault built := by
  rw [packet_eq, Packet.encode]
  by_cases fits : unit.Fits
  · have short : unit.content.length ≤ max24 := fits
    rw [if_pos fits, if_pos short]
  · have long : ¬ unit.content.length ≤ max24 := fits
    rw [if_neg fits, if_neg long]

/-- A part writes what it is encoded to. -/
theorem put_eq_encode (part : Part) (built : Bytes) :
    put part built =
      match part.encode with
      | .ok added => .ok () (built ++ added)
      | .error fault => .error fault built := by
  cases part with
  | header opening => rfl
  | packet unit => exact packet_eq_encode unit built
  | active id =>
    rw [put, active_eq_packet]
    exact packet_eq_encode ⟨.active, ActiveRecord.content id⟩ built
  | entry record =>
    rw [put, entry_eq_packet]
    exact packet_eq_encode ⟨.entry, record.content⟩ built

/-- What a part does to the bytes that are there. -/
theorem put_eq {part : Part} {unit : Packet} (isPacket : part.packet? = some unit) (built : Bytes) :
    put part built =
      if part.contentLength ≤ max24 then .ok () (built ++ unit.bytes)
      else .error (.packetTooBig part.contentLength) built := by
  rw [put_eq_packet isPacket, packet_eq, Part.contentLength_of_packet? isPacket]

/-- The packets that fit are there in the end, behind what was there before. -/
theorem run_eq {parts : List Part} {packets : List Packet}
    (written : List.Forall₂ (fun part unit => part.packet? = some unit) parts packets) (built : Bytes) :
    run parts built =
      (parts.map fun part => if part.contentLength ≤ max24 then none else some (.packetTooBig part.contentLength),
        built ++ Packet.joined (packets.filter (·.content.length ≤ max24))) := by
  induction written generalizing built with
  | nil => simp [run]
  | @cons part unit parts packets isPacket _ ih =>
    have size := Part.contentLength_of_packet? isPacket
    have step := put_eq isPacket built
    by_cases fits : part.contentLength ≤ max24
    · have unitFits : unit.content.length ≤ max24 := by omega
      rw [if_pos fits] at step
      rw [run, step]
      simp only [ih, List.map_cons, if_pos fits, List.filter_cons, unitFits, decide_true, if_true,
        Packet.joined_cons, List.append_assoc]
    · -- The bytes are as they were, so the rest is put behind the same ones.
      have unitBig : ¬ unit.content.length ≤ max24 := by omega
      rw [if_neg fits] at step
      rw [run, step]
      simp only [ih, List.map_cons, if_neg fits, List.filter_cons, unitBig, decide_false, Bool.false_eq_true, if_false]

end Building

namespace Part

variable {parts : List Part} {packets : List Packet}

theorem exists_packet {part : Part} (headless : ∀ opening, part ≠ .header opening) :
    ∃ unit, part.packet? = some unit := by
  cases part with
  | header opening => exact absurd rfl (headless opening)
  | packet unit => exact ⟨unit, rfl⟩
  | active id => exact ⟨_, rfl⟩
  | entry record => exact ⟨_, rfl⟩

theorem exists_packets (headless : ∀ part ∈ parts, ∀ opening, part ≠ .header opening) :
    ∃ packets, List.Forall₂ (fun part unit => part.packet? = some unit) parts packets := by
  induction parts with
  | nil => exact ⟨[], .nil⟩
  | cons part rest ih =>
    obtain ⟨unit, isPacket⟩ := exists_packet (headless part List.mem_cons_self)
    obtain ⟨others, written⟩ := ih fun other member => headless other (List.mem_cons_of_mem _ member)
    exact ⟨unit :: others, .cons isPacket written⟩

/-- Of parts and their packets the same ones fit, and those are read back. -/
theorem readBack_filter (written : List.Forall₂ (fun part unit => part.packet? = some unit) parts packets) :
    List.Forall₂ ReadBack (parts.filter (·.contentLength ≤ max24)) (packets.filter (·.content.length ≤ max24)) := by
  have fitting := List.rel_filter (p := fun part : Part => decide (part.contentLength ≤ max24))
    (q := fun unit : Packet => decide (unit.content.length ≤ max24))
    (fun part unit (isPacket : part.packet? = some unit) => by
      simp only [contentLength_of_packet? isPacket]) written
  exact fitting.imp fun part unit => readBack_of_packet?

end Part

namespace Building

/-- Whatever packets are put one after the other, those and only those are stopped whose content is too long, and
nothing of them stays. What is there in the end is read as the others, in order, each with what was put into it. An
entry is written as the packet of its id and key, and what is read as a record is the content of that record. -/
theorem run_reads_back {parts : List Part} (headless : ∀ part ∈ parts, ∀ opening, part ≠ .header opening) :
    (∀ part ∈ parts, ∀ built,
      (part.contentLength ≤ 16777215 → ∃ added, put part built = .ok () (built ++ added)) ∧
      (16777215 < part.contentLength → put part built = .error (.packetTooBig part.contentLength) built)) ∧
    (∀ id key, entry id key = packet .entry (be32 id ++ key)) ∧
    (run parts []).1 =
      parts.map (fun part =>
        if part.contentLength ≤ 16777215 then none else some (.packetTooBig part.contentLength)) ∧
    (∃ packets, List.Forall₂ Part.ReadBack (parts.filter (·.contentLength ≤ 16777215)) packets ∧
      ∀ offset, Packet.parseAll offset (run parts []).2 = .ok packets) ∧
    (∀ data id, ActiveRecord.parse data = .ok id →
      data = ActiveRecord.content id ∧ active id = packet .active data) ∧
    (∀ data record, Entry.parse data = .ok record →
      data = be32 record.id ++ record.key ∧ entry record.id record.key = packet .entry data) ∧
    ∀ part built, put part built =
      match part.encode with
      | .ok added => .ok () (built ++ added)
      | .error fault => .error fault built := by
  obtain ⟨packets, written⟩ := Part.exists_packets headless
  have finished := run_eq written []
  rw [List.nil_append] at finished
  refine ⟨?_, entry_eq_packet, ?_, ?_, ?_, ?_, put_eq_encode⟩
  · intro part member built
    obtain ⟨unit, isPacket⟩ := Part.exists_packet (headless part member)
    have step := put_eq isPacket built
    refine ⟨fun fits => ⟨unit.bytes, step.trans (if_pos fits)⟩, fun big => step.trans (if_neg ?_)⟩
    exact Nat.not_le.mpr big
  · rw [finished]
    rfl
  · refine ⟨packets.filter (·.content.length ≤ max24), Part.readBack_filter written, fun offset => ?_⟩
    rw [finished]
    refine Packet.parseAll_eq_ok_iff.mpr ⟨rfl, fun unit member => ?_⟩
    have fits : unit.content.length ≤ max24 := by simpa using List.of_mem_filter member
    exact fits
  · intro data id parsed
    obtain ⟨rfl, -⟩ := ActiveRecord.eq_content_of_parse parsed
    exact ⟨rfl, active_eq_packet id⟩
  · intro data record parsed
    obtain ⟨rfl, -⟩ := Entry.eq_content_of_parse parsed
    exact ⟨rfl, entry_eq_packet record.id record.key⟩

/-- One byte more than a packet can hold. -/
def oversized : Packet :=
  ⟨⟨0x40⟩, List.replicate 16777216 0⟩

theorem length_oversized : oversized.content.length = 16777216 :=
  List.length_replicate

/-- A packet that is too big, between an entry and records of no key and of the id 0. -/
theorem run_reads_back_oversized :
    let parts : List Part := [.entry ⟨7, [1, 2]⟩, .packet oversized, .active none, .entry ⟨0, []⟩]
    (∀ part ∈ parts, ∀ opening, part ≠ .header opening) ∧
      (run parts []).1 = [none, some (.packetTooBig 16777216), none, none] ∧
      ∃ first second third, Packet.parseAll 0 (run parts []).2 = .ok [first, second, third] ∧
        Entry.parse first.content = .ok ⟨7, [1, 2]⟩ ∧ ActiveRecord.parse second.content = .ok none ∧
        Entry.parse third.content = .error .zeroId := by
  intro parts
  have headless : ∀ part ∈ parts, ∀ opening, part ≠ .header opening := by simp [parts]
  obtain ⟨-, -, faults, ⟨packets, readBack, parsed⟩, -⟩ := run_reads_back headless
  have fitting : parts.filter (·.contentLength ≤ 16777215) = [.entry ⟨7, [1, 2]⟩, .active none, .entry ⟨0, []⟩] := by
    simp [parts, Part.contentLength, length_oversized, ActiveRecord.content]
  rw [fitting] at readBack
  obtain ⟨first, afterFirst, ⟨-, firstRead⟩, readSecond, rfl⟩ := List.forall₂_cons_left_iff.mp readBack
  obtain ⟨second, afterSecond, ⟨-, secondRead⟩, readThird, rfl⟩ := List.forall₂_cons_left_iff.mp readSecond
  obtain ⟨third, afterThird, ⟨-, thirdRead⟩, nothingElse, rfl⟩ := List.forall₂_cons_left_iff.mp readThird
  obtain rfl := List.forall₂_nil_left_iff.mp nothingElse
  refine ⟨headless, ?_, first, second, third, parsed 0, firstRead, secondRead, thirdRead⟩
  rw [faults]
  simp [parts, Part.contentLength, length_oversized, ActiveRecord.content]

end Building

end Keyring

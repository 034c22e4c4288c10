import Keyring.Proofs.Interruption
import Keyring.Proofs.Steps

namespace Keyring

/-- Bytes that are left where no whole packet starts any more, and what is found wrong with them at an offset. -/
inductive Torn (offset : Nat) : Bytes → Malformed → Prop
  | header {rest : Bytes} : rest ≠ [] → rest.length < Packet.headerSize → Torn offset rest (.shortPacketHeader offset)
  | content {code high middle low : UInt8} {content : Bytes} : content.length < ofBe24 high middle low →
      Torn offset (code :: high :: middle :: low :: content)
        (.shortPacket (offset + Packet.headerSize) (ofBe24 high middle low) content.length)

/-- Where damage is found, if it is found at a place. -/
def Malformed.offset? : Malformed → Option Nat
  | shortPacketHeader offset | shortPacket offset _ _ => some offset
  | shortHeader _ | magic _ | shortEntry _ | zeroId | activeLength _ => none

namespace Front

/-- A packet header is missing where there are too few bytes for it, and nowhere else. -/
theorem of_eq_shortHeader_iff {data : Bytes} : of data = .shortHeader ↔ data.length < Packet.headerSize := by
  match data with
  | [] | [_] | [_, _] | [_, _, _] => simp [of, Packet.headerSize]
  | code :: high :: middle :: low :: content =>
    have long : ¬ (code :: high :: middle :: low :: content).length < Packet.headerSize := by
      simp [Packet.headerSize]
    simp only [long, iff_false]
    intro front
    simp only [of] at front
    split at front
    · cases front
    · split at front <;> cases front

theorem eq_of_shortContent {data : Bytes} {expected actual : Nat} (front : of data = .shortContent expected actual) :
    ∃ code high middle low content, data = code :: high :: middle :: low :: content ∧
      content.length < ofBe24 high middle low ∧ expected = ofBe24 high middle low ∧ actual = content.length := by
  unfold of at front
  split at front
  next code high middle low content =>
    dsimp only at front
    split at front
    · cases front
    next notLonger =>
      split at front
      · cases front
      next notEqual =>
        cases front
        have most : content.length ≤ ofBe24 high middle low := by simpa using notLonger
        exact ⟨code, high, middle, low, content, rfl, lt_of_le_of_ne most notEqual, rfl, rfl⟩
  · cases front

theorem of_short {high middle low : UInt8} {content : Bytes} (short : content.length < ofBe24 high middle low)
    (code : UInt8) :
    of (code :: high :: middle :: low :: content) = .shortContent (ofBe24 high middle low) content.length := by
  have nothingBehind : content.drop (ofBe24 high middle low) = [] := List.drop_of_length_le short.le
  simp [of, nothingBehind, short.ne]

end Front

namespace Torn

variable {offset : Nat} {rest : Bytes} {damage : Malformed}

theorem nonempty (torn : Torn offset rest damage) : rest ≠ [] := by
  cases torn with
  | header nonempty _ => exact nonempty
  | content _ => exact List.cons_ne_nil _ _

theorem isTruncation (torn : Torn offset rest damage) : damage.isTruncation = true := by
  cases torn <;> rfl

theorem damage_of_short (torn : Torn offset rest damage) (short : rest.length < Packet.headerSize) :
    damage = .shortPacketHeader offset := by
  cases torn with
  | header _ _ => rfl
  | content _ =>
    simp only [List.length_cons, Packet.headerSize] at short
    omega

theorem damage_of_long (torn : Torn offset rest damage) (long : Packet.headerSize ≤ rest.length) :
    ∃ code high middle low behind, rest = code :: high :: middle :: low :: behind ∧
      rest.length - Packet.headerSize < ofBe24 high middle low ∧
      damage = .shortPacket (offset + Packet.headerSize) (ofBe24 high middle low)
        (rest.length - Packet.headerSize) := by
  cases torn with
  | header _ short => exact absurd long (Nat.not_le.mpr short)
  | content short => exact ⟨_, _, _, _, _, rfl, short, rfl⟩

/-- A packet that is torn can be made whole. -/
theorem completes (torn : Torn offset rest damage) :
    ∃ more packet, Packet.Fits packet ∧ rest ++ more = packet.bytes := by
  -- How much content is missing is known once the packet's header is there, so that is filled up first.
  have filled : ∀ code high middle low (content : Bytes), content.length ≤ ofBe24 high middle low →
      ∃ more packet, Packet.Fits packet ∧ code :: high :: middle :: low :: (content ++ more) = packet.bytes := by
    intro code high middle low content few
    let gap := List.replicate (ofBe24 high middle low - content.length) (0 : UInt8)
    have size : (content ++ gap).length = ofBe24 high middle low := by
      simp only [gap, List.length_append, List.length_replicate]
      omega
    have bound := ofBe24_lt high middle low
    refine ⟨gap, ⟨⟨code⟩, content ++ gap⟩, ?_, ?_⟩
    · simp only [Packet.Fits, size, max24]
      omega
    · rw [Packet.bytes, size, be24_ofBe24]
      rfl
  cases torn with
  | header nonempty short =>
    rcases rest with _ | ⟨code, _ | ⟨high, _ | ⟨middle, _ | ⟨low, longer⟩⟩⟩⟩
    · exact absurd rfl nonempty
    · obtain ⟨more, whole⟩ := filled code 0 0 0 [] (Nat.zero_le _)
      exact ⟨0 :: 0 :: 0 :: more, whole⟩
    · obtain ⟨more, whole⟩ := filled code high 0 0 [] (Nat.zero_le _)
      exact ⟨0 :: 0 :: more, whole⟩
    · obtain ⟨more, whole⟩ := filled code high middle 0 [] (Nat.zero_le _)
      exact ⟨0 :: more, whole⟩
    · simp only [List.length_cons, Packet.headerSize] at short
      omega
  | content short => exact filled _ _ _ _ _ short.le

end Torn

namespace Reading

variable {offset : Nat} {data rest : Bytes} {damage : Malformed}

/-- Of torn bytes nothing is read. -/
theorem of_torn (torn : Torn offset rest damage) : of offset rest = ⟨[], some damage⟩ := by
  rw [of, collect, if_neg (by simpa using torn.nonempty)]
  cases torn with
  | header _ short =>
    have front := Front.of_eq_shortHeader_iff.mpr short
    split <;> simp_all
  | @content code _ _ _ _ short =>
    have front := Front.of_short short code
    split <;> simp_all

/-- A byte string is empty, starts with a whole packet, or is torn. -/
theorem front_cases (offset : Nat) (data : Bytes) :
    data = [] ∨ (∃ packet rest, Packet.Fits packet ∧ data = packet.bytes ++ rest) ∨
      ∃ damage, Torn offset data damage := by
  cases front : Front.of data with
  | packet packet rest =>
    obtain ⟨split, fits⟩ := Front.eq_bytes_append front
    exact .inr (.inl ⟨packet, rest, fits, split⟩)
  | shortHeader =>
    by_cases empty : data = []
    · exact .inl empty
    · exact .inr (.inr ⟨_, .header empty (Front.of_eq_shortHeader_iff.mp front)⟩)
  | shortContent expected actual =>
    obtain ⟨code, high, middle, low, content, rfl, short, -⟩ := Front.eq_of_shortContent front
    exact .inr (.inr ⟨_, .content short⟩)

/-- Damage is found behind the whole packets, where the bytes are torn. -/
theorem torn_of_damage (damaged : (of offset data).damage = some damage) :
    ∃ rest, data = Packet.joined (of offset data).packets ++ rest ∧
      (∀ packet ∈ (of offset data).packets, packet.Fits) ∧
      Torn (offset + (Packet.joined (of offset data).packets).length) rest damage := by
  induction size : data.length using Nat.strongRecOn generalizing offset data with
  | _ length ih =>
    rcases front_cases offset data with rfl | ⟨packet, rest, fits, rfl⟩ | ⟨found, torn⟩
    · rw [of_nil] at damaged
      cases damaged
    · rw [of_bytes_append fits] at damaged ⊢
      have shorter : rest.length < length := by
        simp only [← size, List.length_append, Packet.length_bytes, Packet.encodedLength, Packet.headerSize]
        omega
      obtain ⟨last, whole, othersFit, torn⟩ := ih rest.length shorter damaged rfl
      refine ⟨last, ?_, ?_, ?_⟩
      · rw [Packet.joined_cons, List.append_assoc, ← whole]
      · simp only [List.mem_cons, forall_eq_or_imp]
        exact ⟨fits, othersFit⟩
      · rwa [Packet.length_joined_cons, ← Nat.add_assoc]
    · rw [of_torn torn] at damaged ⊢
      cases damaged
      exact ⟨data, rfl, by simp, torn⟩

end Reading

/-- A header is not found in too few bytes, or where the first byte is another one. -/
theorem Header.parse_eq_error_iff {data : Bytes} {damage : Malformed} :
    parse data = .error damage ↔
      data.length < size ∧ damage = .shortHeader data.length ∨
      ∃ first rest, data = first :: rest ∧ 3 ≤ rest.length ∧ first ≠ magic ∧ damage = .magic first := by
  match data with
  | [] | [_] | [_, _] | [_, _, _] => simp [parse, size, eq_comm]
  | first :: version :: low :: high :: rest =>
    have long : ¬ (first :: version :: low :: high :: rest).length < size := by simp [size]
    simp only [long, false_and, false_or]
    by_cases opens : first = magic
    · simp [parse, opens]
    · simp [parse, opens, eq_comm]

/-- What begins like a header can be made one. -/
theorem Header.completes {data : Bytes} (begins : data = [] ∨ data.head? = some magic) (short : data.length < size) :
    ∃ more header, data ++ more = bytes header := by
  match data with
  | [] => exact ⟨_, current, rfl⟩
  | [first] =>
    obtain rfl : first = magic := by simpa using begins
    exact ⟨[0, 0, 0], ⟨0, 0, 0⟩, rfl⟩
  | [first, version] =>
    obtain rfl : first = magic := by simpa using begins
    exact ⟨[0, 0], ⟨version, 0, 0⟩, rfl⟩
  | [first, version, low] =>
    obtain rfl : first = magic := by simpa using begins
    exact ⟨[0], ⟨version, low, 0⟩, rfl⟩
  | _ :: _ :: _ :: _ :: longer =>
    simp only [List.length_cons, size] at short
    omega

namespace Container

/-- What there is of a container that is torn behind some of its packets. -/
structure Breaks (data : Bytes) (header : Header) (packets : List Packet) (left : Bytes) (damage : Malformed) :
    Prop where
  whole : data = header.bytes ++ (Packet.joined packets ++ left)
  fits : ∀ packet ∈ packets, packet.Fits
  torn : Torn (Header.size + (Packet.joined packets).length) left damage

theorem parse_bytes_append (header : Header) (rest : Bytes) :
    parse (header.bytes ++ rest) = ((Reading.of Header.size rest).complete (some header)).map (⟨header, ·⟩) := by
  rw [parse, Header.parse_bytes_append]
  rfl

theorem parse_of_header_error {data : Bytes} {damage : Malformed} (missing : Header.parse data = .error damage) :
    parse data = .error ⟨none, [], damage⟩ := by
  rw [parse, missing]

theorem breaks_of_parse {header : Header} {rest : Bytes} {stopped : Incomplete}
    (damaged : parse (header.bytes ++ rest) = .error stopped) :
    stopped.header = some header ∧
      ∃ left, Breaks (header.bytes ++ rest) header stopped.packets left stopped.damage := by
  rw [parse_bytes_append, Reading.complete] at damaged
  cases found : (Reading.of Header.size rest).damage with
  | none =>
    rw [found] at damaged
    cases damaged
  | some damage =>
    rw [found] at damaged
    cases damaged
    obtain ⟨left, whole, fits, torn⟩ := Reading.torn_of_damage found
    exact ⟨rfl, left, congrArg (header.bytes ++ ·) whole, fits, torn⟩

theorem parse_of_breaks {data left : Bytes} {header : Header} {packets : List Packet} {damage : Malformed}
    (breaks : Breaks data header packets left damage) : parse data = .error ⟨some header, packets, damage⟩ := by
  rw [breaks.whole, parse_bytes_append, Reading.of_joined_append breaks.fits, Reading.of_torn breaks.torn,
    List.append_nil]
  rfl

/-- A container is not read to its end if its header is not found, or if it is torn behind its header. -/
theorem parse_eq_error {data : Bytes} {stopped : Incomplete} (damaged : parse data = .error stopped) :
    (∃ damage, Header.parse data = .error damage ∧ stopped = ⟨none, [], damage⟩) ∨
      ∃ header left, stopped.header = some header ∧ Breaks data header stopped.packets left stopped.damage := by
  cases opening : Header.parse data with
  | error damage =>
    rw [parse_of_header_error opening] at damaged
    cases damaged
    exact .inl ⟨damage, rfl, rfl⟩
  | ok header =>
    obtain ⟨rest, rfl⟩ := Header.parse_eq_ok_iff.mp opening
    obtain ⟨named, left, breaks⟩ := breaks_of_parse damaged
    exact .inr ⟨header, left, named, breaks⟩

namespace Breaks

variable {data left : Bytes} {header : Header} {packets : List Packet} {damage : Malformed}

/-- No more whole packets could be read than were read. -/
theorem longest (breaks : Breaks data header packets left damage) {others : List Packet}
    (othersFit : ∀ packet ∈ others, packet.Fits) (front : header.bytes ++ Packet.joined others <+: data) :
    others <+: packets := by
  obtain ⟨behind, same⟩ := front
  rw [breaks.whole, List.append_assoc] at same
  have read := Reading.of_joined_append breaks.fits Header.size left
  rw [← List.append_cancel_left same, Reading.of_joined_append othersFit, Reading.of_torn breaks.torn,
    List.append_nil] at read
  exact ⟨_, (Reading.mk.inj read).1⟩

theorem offset_le (breaks : Breaks data header packets left damage) {offset : Nat}
    (placed : damage.offset? = some offset) : offset ≤ data.length := by
  have size : data.length = Header.size + (Packet.joined packets).length + left.length := by
    rw [breaks.whole, List.length_append, List.length_append, Header.length_bytes, Nat.add_assoc]
  cases breaks.torn with
  | header _ _ =>
    cases placed
    omega
  | content _ =>
    cases placed
    simp only [size, List.length_cons, Packet.headerSize]
    omega

/-- What is missing can be added. -/
theorem completes (breaks : Breaks data header packets left damage) :
    ∃ more container, parse (data ++ more) = .ok container := by
  obtain ⟨more, packet, fits, whole⟩ := breaks.torn.completes
  refine ⟨more, ⟨header, packets ++ [packet]⟩, parse_eq_ok_iff.mpr ⟨?_, ?_⟩⟩
  · rw [breaks.whole, bytes, Packet.joined_append, List.append_assoc, List.append_assoc, whole]
    simp [Packet.joined]
  · intro other member
    rcases List.mem_append.mp member with inFront | last
    · exact breaks.fits other inFront
    · rwa [List.mem_singleton.mp last]

/-- Whatever is added, the packets that were read stay the first ones. -/
theorem extends_packets (breaks : Breaks data header packets left damage) {more : Bytes} {container : Container}
    (parsed : parse (data ++ more) = .ok container) : container.header = header ∧ packets <+: container.packets := by
  rw [breaks.whole, List.append_assoc, List.append_assoc, parse_bytes_append,
    Reading.of_joined_append breaks.fits] at parsed
  obtain ⟨found, complete, rfl⟩ := Outcome.map_eq_ok.mp parsed
  refine ⟨rfl, ?_⟩
  unfold Reading.complete at complete
  split at complete
  · cases complete
    exact List.prefix_append _ _
  · cases complete

end Breaks

/-- A container is read off the front of another where that ends at the end of one of its packets. -/
theorem parse_take_eq_ok_iff {data : Bytes} {container : Container} (parsed : parse data = .ok container) {cut : Nat}
    (within : cut ≤ data.length) {found : Container} :
    parse (data.take cut) = .ok found ↔
      ∃ count ≤ container.packets.length,
        cut = Header.size + (Packet.joined (container.packets.take count)).length ∧
        found = ⟨container.header, container.packets.take count⟩ := by
  obtain ⟨rfl, fits⟩ := parse_eq_ok_iff.mp parsed
  constructor
  · intro parsedFront
    obtain ⟨whole, foundFits⟩ := parse_eq_ok_iff.mp parsedFront
    have front : found.bytes <+: container.bytes := whole ▸ List.take_prefix cut _
    obtain ⟨header, packets⟩ := prefix_of_bytes foundFits fits front
    have size := congrArg List.length whole
    rw [List.length_take, Nat.min_eq_left within, bytes, List.length_append, Header.length_bytes] at size
    have same := List.prefix_iff_eq_take.mp packets
    refine ⟨found.packets.length, packets.length_le, ?_, ?_⟩
    · rw [← same, size]
    · rw [← same, ← header]
  · rintro ⟨count, -, rfl, rfl⟩
    have split : container.bytes =
        bytes ⟨container.header, container.packets.take count⟩ ++ Packet.joined (container.packets.drop count) := by
      rw [bytes, bytes, List.append_assoc, ← Packet.joined_append, List.take_append_drop]
    have size : Header.size + (Packet.joined (container.packets.take count)).length =
        (bytes ⟨container.header, container.packets.take count⟩).length := by
      rw [bytes, List.length_append, Header.length_bytes]
    rw [split, size, List.take_left]
    exact parse_eq_ok_iff.mpr ⟨rfl, fun packet member => fits packet (List.mem_of_mem_take member)⟩

end Container

namespace Session

variable {path : String} {desk : Desk} {source : Source} {data : Bytes} {stopped : Incomplete}

theorem inspect_of_incomplete (found : desk.tree.source path = .ok source) (contents : source.contents = .ok data)
    (damaged : Container.parse data = .error stopped) (decrypt : Bool) :
    inspect path decrypt desk = .error (.error (.malformed stopped.damage)) desk := by
  have stops : (Action.ofExcept ((Container.parse data).mapError fun stopped => .malformed stopped.damage) :
      DeskAction Container) desk = .error (.error (.malformed stopped.damage)) desk := by
    rw [damaged]
    rfl
  unfold inspect
  rw [Action.bind_get, Action.bind_of_ok (Desk.ofFile_eq_ok.mpr ⟨found, rfl⟩),
    Action.bind_of_ok (Desk.ofFile_eq_ok.mpr ⟨contents, rfl⟩), Action.bind_of_error stops]

theorem openRing_of_incomplete {passphrase : String} (found : desk.tree.source path = .ok source)
    (contents : source.contents = .ok data) (damaged : Container.parse data = .error stopped)
    (answer : desk.passphrases.next.1 = .ok passphrase) :
    openRing path desk =
      .error (.error (.ring (.malformed stopped.damage))) (Desk.asked "Passphrase: " desk) := by
  have answered : Desk.askPassphrase "Passphrase: " desk = .ok passphrase (Desk.asked "Passphrase: " desk) := by
    rw [Desk.askPassphrase_eq, answer]
    rfl
  have fails : Desk.onRing (Ring.read source (.passphrase passphrase)) (Desk.asked "Passphrase: " desk) =
      .error (.error (.ring (.malformed stopped.damage))) (Desk.asked "Passphrase: " desk) := by
    refine Desk.onWorld_failed.mpr ⟨(Desk.asked "Passphrase: " desk).world, ?_, rfl⟩
    unfold Action.mapCause
    rw [Ring.read_of_incomplete contents damaged]
  unfold openRing
  rw [Action.bind_get, Action.bind_of_ok (Desk.ofFile_eq_ok.mpr ⟨found, rfl⟩), Action.bind_of_ok answered,
    Action.bind_of_error fails]

end Session

namespace Container

/-- Where and why a container is not read to its end. Without a header nothing is read. Behind the header all whole
packets are read, and the bytes that are left are too few for a packet header, or for the content that one announces.
The cause stays the same in every error that is made of it. -/
theorem parse_stops {data : Bytes} {stopped : Incomplete} (damaged : parse data = .error stopped) :
    (data.length < 4 → stopped = ⟨none, [], .shortHeader data.length⟩) ∧
    (∀ first rest, data = first :: rest → 3 ≤ rest.length → first ≠ 0xec → stopped = ⟨none, [], .magic first⟩) ∧
    (∀ version low high rest, data = 0xec :: version :: low :: high :: rest →
      stopped.header = some ⟨version, low, high⟩ ∧ (∀ packet ∈ stopped.packets, packet.Fits) ∧
      ∃ complete left, complete = [0xec, version, low, high] ++ Packet.joined stopped.packets ∧
        data = complete ++ left ∧ left ≠ [] ∧
        (left.length < 4 → stopped.damage = .shortPacketHeader complete.length) ∧
        (4 ≤ left.length → ∃ code upper middle lower content, left = code :: upper :: middle :: lower :: content ∧
          left.length - 4 < ofBe24 upper middle lower ∧
          stopped.damage = .shortPacket (complete.length + 4) (ofBe24 upper middle lower) (left.length - 4)) ∧
        ∀ others : List Packet, (∀ packet ∈ others, packet.Fits) →
          [0xec, version, low, high] ++ Packet.joined others <+: data → others <+: stopped.packets) ∧
    (∀ offset, stopped.damage.offset? = some offset → offset ≤ data.length) ∧
    (∀ source credential world, source.contents = .ok data →
      Ring.read source credential world = .error (.error (.malformed stopped.damage)) world) ∧
    (∀ (desk : Desk) path source, desk.tree.source path = .ok source → source.contents = .ok data →
      (∀ decrypt, Session.inspect path decrypt desk = .error (.error (.malformed stopped.damage)) desk) ∧
      ∀ passphrase, desk.passphrases.next.1 = .ok passphrase → ∃ later,
        Session.openRing path desk = .error (.error (.ring (.malformed stopped.damage))) later) ∧
    (RingError.malformed stopped.damage).message = stopped.damage.message ∧
    (CommandError.malformed stopped.damage).message = stopped.damage.message ∧
    (CommandError.ring (.malformed stopped.damage)).message = stopped.damage.message := by
  have headless : ∀ damage, Header.parse data = .error damage → stopped = ⟨none, [], damage⟩ :=
    fun damage missing => Except.error.inj (damaged.symm.trans (parse_of_header_error missing))
  refine ⟨?_, ?_, ?_, ?_, ?_, ?_, rfl, rfl, rfl⟩
  · exact fun short => headless _ (Header.parse_eq_error_iff.mpr (.inl ⟨short, rfl⟩))
  · intro first rest shape long other
    exact headless _ (Header.parse_eq_error_iff.mpr (.inr ⟨first, rest, shape, long, other, rfl⟩))
  · rintro version low high rest rfl
    have headed : parse (Header.bytes ⟨version, low, high⟩ ++ rest) = .error stopped := damaged
    obtain ⟨named, left, breaks⟩ := breaks_of_parse headed
    have size : ([0xec, version, low, high] ++ Packet.joined stopped.packets).length =
        Header.size + (Packet.joined stopped.packets).length := by
      rw [List.length_append]
      rfl
    refine ⟨named, breaks.fits, _, left, rfl, ?_, breaks.torn.nonempty, ?_, ?_, fun others => breaks.longest⟩
    · exact breaks.whole.trans (List.append_assoc _ _ _).symm
    · rw [size]
      exact breaks.torn.damage_of_short
    · rw [size]
      exact breaks.torn.damage_of_long
  · intro offset placed
    rcases parse_eq_error damaged with ⟨damage, missing, rfl⟩ | ⟨header, left, -, breaks⟩
    · rcases Header.parse_eq_error_iff.mp missing with ⟨-, rfl⟩ | ⟨_, _, -, -, -, rfl⟩ <;> cases placed
    · exact breaks.offset_le placed
  · exact fun source credential world contents => Ring.read_of_incomplete contents damaged credential world
  · intro desk path source found contents
    refine ⟨Session.inspect_of_incomplete found contents damaged, fun passphrase answer => ?_⟩
    exact ⟨_, Session.openRing_of_incomplete found contents damaged answer⟩

/-- Behind a packet without content, the content of the next one lacks its last byte. -/
theorem parse_stops_overrun :
    let data : Bytes := [0xec, 1, 0, 0, 0x40, 0, 0, 0, 6, 0, 0, 2, 9]
    let stopped : Incomplete := ⟨some .current, [⟨⟨0x40⟩, []⟩], .shortPacket 12 2 1⟩
    parse data = .error stopped ∧ (∀ offset, stopped.damage.offset? = some offset → offset ≤ data.length) ∧
      Ring.read (.ofBytes data) (.fixed ⟨[]⟩) (Ring.worldFrom []) =
        .error (.error (.malformed (.shortPacket 12 2 1))) (Ring.worldFrom []) := by
  have breaks : Breaks [0xec, 1, 0, 0, 0x40, 0, 0, 0, 6, 0, 0, 2, 9] .current [⟨⟨0x40⟩, []⟩] [6, 0, 0, 2, 9]
      (.shortPacket 12 2 1) := ⟨rfl, by decide, .content (by decide)⟩
  have damaged := parse_of_breaks breaks
  obtain ⟨-, -, -, within, reading, -⟩ := parse_stops damaged
  exact ⟨damaged, within, reading _ _ _ (Source.contents_ofBytes _)⟩

/-- What begins like a container and is none was cut short: it can be completed, and however that is done, what was
found of it stays in front. -/
theorem completed_of_begins {data : Bytes} {stopped : Incomplete} (begins : data = [] ∨ data.head? = some 0xec)
    (damaged : parse data = .error stopped) :
    stopped.damage.isTruncation = true ∧ (∃ more container, parse (data ++ more) = .ok container) ∧
      ∀ more container, parse (data ++ more) = .ok container →
        stopped.packets <+: container.packets ∧ ∀ header ∈ stopped.header, container.header = header := by
  rcases parse_eq_error damaged with ⟨damage, missing, rfl⟩ | ⟨header, left, named, breaks⟩
  · rcases Header.parse_eq_error_iff.mp missing with ⟨short, rfl⟩ | ⟨first, rest, rfl, -, other, -⟩
    · obtain ⟨more, header, whole⟩ := Header.completes begins short
      have empty : parse (data ++ more) = .ok ⟨header, []⟩ :=
        parse_eq_ok_iff.mpr ⟨by rw [whole, bytes, Packet.joined_nil, List.append_nil], by simp⟩
      exact ⟨rfl, ⟨more, _, empty⟩, fun _ _ _ => ⟨List.nil_prefix, by simp⟩⟩
    · exact absurd begins (by simpa [Header.magic] using other)
  · refine ⟨breaks.torn.isTruncation, breaks.completes, fun more container whole => ?_⟩
    obtain ⟨sameHeader, packets⟩ := breaks.extends_packets whole
    refine ⟨packets, fun other isHeader => ?_⟩
    cases named.symm.trans isHeader
    exact sameHeader

/-- What begins otherwise is no container, whatever follows. -/
theorem parse_of_foreign {data : Bytes} (long : 4 ≤ data.length) (other : data.head? ≠ some 0xec) (more : Bytes) :
    ∃ first, parse (data ++ more) = .error ⟨none, [], .magic first⟩ := by
  cases data with
  | nil => simp at long
  | cons first rest =>
    simp only [List.length_cons] at long
    have behind : 3 ≤ (rest ++ more).length := by
      rw [List.length_append]
      omega
    have apart : first ≠ Header.magic := by simpa [Header.magic] using other
    exact ⟨first, parse_of_header_error (Header.parse_eq_error_iff.mpr (.inr ⟨first, _, rfl, behind, apart, rfl⟩))⟩

/-- A cut is told from what never was a container. What begins like a container is one, or is found cut short, and then
it can be completed, and however it is completed its packets stay in front. What begins otherwise cannot. A container
that is cut is one still if the cut falls between two packets behind the header. -/
theorem tells_cut_short :
    (∀ data : Bytes, data = [] ∨ data.head? = some 0xec →
      (∃ container, parse data = .ok container) ∨
      ∃ stopped, parse data = .error stopped ∧ stopped.damage.isTruncation = true ∧
        (∃ more container, parse (data ++ more) = .ok container) ∧
        ∀ more container, parse (data ++ more) = .ok container →
          stopped.packets <+: container.packets ∧ ∀ header ∈ stopped.header, container.header = header) ∧
    (∀ data : Bytes, 4 ≤ data.length → data.head? ≠ some 0xec →
      (∃ stopped, parse data = .error stopped ∧ stopped.damage.isTruncation = false) ∧
      ∀ more, ∃ stopped, parse (data ++ more) = .error stopped) ∧
    ∀ data container, parse data = .ok container → ∀ cut ≤ data.length, ∀ found,
      parse (data.take cut) = .ok found ↔
        ∃ count ≤ container.packets.length,
          cut = 4 + (Packet.joined (container.packets.take count)).length ∧
          found = ⟨container.header, container.packets.take count⟩ := by
  refine ⟨?_, ?_, fun data container parsed cut within found => parse_take_eq_ok_iff parsed within⟩
  · intro data begins
    cases parsed : parse data with
    | ok container => exact .inl ⟨container, rfl⟩
    | error stopped => exact .inr ⟨stopped, rfl, completed_of_begins begins parsed⟩
  · intro data long other
    obtain ⟨first, found⟩ := parse_of_foreign long other []
    rw [List.append_nil] at found
    refine ⟨⟨_, found, rfl⟩, fun more => ?_⟩
    obtain ⟨_, foundToo⟩ := parse_of_foreign long other more
    exact ⟨_, foundToo⟩

end Container

end Keyring

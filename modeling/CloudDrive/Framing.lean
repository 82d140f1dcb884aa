import CloudDrive.Protocol

/-!
# Packets on the wire

`protocol_send_packet` and `protocol_recv_packet` of `protocol.c` over a stream
of bytes.  A schedule says what the calls of `send` and `recv` do, one after the
other: each may be interrupted, fail, or move some of the bytes it is asked to
move.  A call that waits for the end of its schedule has no result.
-/

namespace CloudDrive

def tlvMagic : UInt32 := 0x544C5632

def tlvVersion : UInt32 := 2

def wireHeaderSize : Nat := 36

/-- What a call of `send` or `recv` does. -/
inductive SocketEvent where
  /-- It returns -1 with `EINTR`. -/
  | interrupted
  /-- It returns -1 with another error. -/
  | failed
  /-- It moves one byte more than the number, as far as there are bytes. -/
  | moves (more : Nat)
deriving DecidableEq

/-- `send_n`: whether all bytes are sent, the schedule that is left and the
bytes on the stream. -/
def sendN : List SocketEvent → Bytes → Bytes →
    Option Bool × List SocketEvent × Bytes
  | events, [], stream => (some true, events, stream)
  | [], _ :: _, stream => (none, [], stream)
  | .interrupted :: events, byte :: bytes, stream =>
      sendN events (byte :: bytes) stream
  | .failed :: events, _ :: _, stream => (some false, events, stream)
  | .moves more :: events, byte :: bytes, stream =>
      sendN events (bytes.drop more) (stream ++ byte :: bytes.take more)

/-- `recv_n` of `count` bytes after those received already.  At the end of the
stream the peer has closed the connection. -/
def recvN : List SocketEvent → Nat → Bytes → Bytes →
    Option (Option Bytes) × List SocketEvent × Bytes
  | events, 0, received, stream => (some (some received), events, stream)
  | [], _ + 1, _, stream => (none, [], stream)
  | .interrupted :: events, count + 1, received, stream =>
      recvN events (count + 1) received stream
  | .failed :: events, _ + 1, _, stream => (some none, events, stream)
  | .moves _ :: events, _ + 1, _, [] => (some none, events, [])
  | .moves more :: events, count + 1, received, byte :: stream =>
      let chunk := stream.take (min more count)
      recvN events (count - chunk.length) (received ++ byte :: chunk)
        (stream.drop chunk.length)

/-- `htonl` and a copy of the four bytes. -/
def writeNetU32 (value : UInt32) : Bytes :=
  ([24, 16, 8, 0] : List UInt32).map fun shift => (value >>> shift).toUInt8

/-- `ntohl` of the first four bytes. -/
def readNetU32 (bytes : Bytes) : UInt32 :=
  (bytes.take 4).foldl (fun value byte => value * 256 + byte.toUInt32) 0

/-- A copy into a buffer from an offset on. -/
def writeAt (buffer : Bytes) (field : Nat × Bytes) : Bytes :=
  buffer.take field.1 ++ field.2 ++ buffer.drop (field.1 + field.2.length)

/-- `encode_wire_header`. -/
def encodeWireHeader (packet : Packet) : Bytes :=
  [(0, writeNetU32 tlvMagic), (4, writeNetU32 tlvVersion),
    (8, writeNetU32 packet.type), (12, writeNetU32 packet.status),
    (16, writeNetU32 (UInt32.ofNat packet.payload.length)),
    (20, packet.sessionId.bytes.toList)].foldl writeAt
      (List.replicate wireHeaderSize 0)

/-- The 16 bytes that are copied from the header. -/
def SessionId.read (bytes : Bytes) : SessionId :=
  ⟨Vector.ofFn fun index => bytes.getD index 0⟩

def protocolSendPacket (events : List SocketEvent) (packet : Packet)
    (stream : Bytes) : Option Bool × List SocketEvent × Bytes :=
  if maxPacketPayload < packet.payload.length then (some false, events, stream)
  else
    match sendN events (encodeWireHeader packet) stream with
    | (some true, events, stream) => sendN events packet.payload stream
    | stopped => stopped

/-- The packet that a header and a payload make. -/
def Packet.ofHeader (header payload : Bytes) : Packet where
  type := readNetU32 (header.drop 8)
  status := readNetU32 (header.drop 12)
  sessionId := SessionId.read (header.drop 20)
  payload := payload

/-- `protocol_recv_packet`, where the allocation succeeds. -/
def protocolRecvPacket (events : List SocketEvent) (stream : Bytes) :
    Option (Option Packet) × List SocketEvent × Bytes :=
  match recvN events wireHeaderSize [] stream with
  | (some (some header), events, stream) =>
      if readNetU32 header ≠ tlvMagic ∨
          readNetU32 (header.drop 4) ≠ tlvVersion then
        (some none, events, stream)
      else
        let payloadLen := (readNetU32 (header.drop 16)).toNat
        if maxPacketPayload < payloadLen then (some none, events, stream)
        else
          match recvN events payloadLen [] stream with
          | (some (some payload), events, stream) =>
              (some (some (Packet.ofHeader header payload)), events, stream)
          | (some none, events, stream) => (some none, events, stream)
          | (none, events, stream) => (none, events, stream)
  | (some none, events, stream) => (some none, events, stream)
  | (none, events, stream) => (none, events, stream)

/-- Packets sent one after the other. -/
def sendPackets : List SocketEvent → List Packet → Bytes →
    Option Bool × List SocketEvent × Bytes
  | events, [], stream => (some true, events, stream)
  | events, packet :: packets, stream =>
      match protocolSendPacket events packet stream with
      | (some true, events, stream) => sendPackets events packets stream
      | stopped => stopped

/-- Packets received one after the other. -/
def recvPackets : Nat → List SocketEvent → Bytes →
    Option (Option (List Packet)) × List SocketEvent × Bytes
  | 0, events, stream => (some (some []), events, stream)
  | count + 1, events, stream =>
      match protocolRecvPacket events stream with
      | (some (some packet), events, stream) =>
          match recvPackets count events stream with
          | (some (some packets), events, stream) =>
              (some (some (packet :: packets)), events, stream)
          | stopped => stopped
      | (some none, events, stream) => (some none, events, stream)
      | (none, events, stream) => (none, events, stream)

/-- The bytes of a packet. -/
def Packet.encode (packet : Packet) : Bytes :=
  encodeWireHeader packet ++ packet.payload

/-- A payload that fits a packet. -/
def Packet.Fits (packet : Packet) : Prop :=
  packet.payload.length ≤ maxPacketPayload

/-- The schedule has no failure, and at least `count` of its calls move
bytes. -/
def Flows (count : Nat) (events : List SocketEvent) : Prop :=
  .failed ∉ events ∧
    count ≤ events.countP fun event => event matches .moves _

section Numbers

theorem readNetU32_write (value : UInt32) (rest : Bytes) :
    readNetU32 (writeNetU32 value ++ rest) = value := by
  apply UInt32.toNat_inj.mp
  have bound := value.toNat_lt
  simp [readNetU32, writeNetU32, Nat.shiftRight_eq_div_pow]
  omega

theorem writeNetU32_read {bytes : Bytes} (length : bytes.length = 4) :
    writeNetU32 (readNetU32 bytes) = bytes := by
  obtain ⟨first, second, third, fourth, rfl⟩ :
      ∃ first second third fourth, bytes = [first, second, third, fourth] := by
    match bytes, length with
    | [first, second, third, fourth], _ => exact ⟨_, _, _, _, rfl⟩
  have := first.toNat_lt
  have := second.toNat_lt
  have := third.toNat_lt
  have := fourth.toNat_lt
  simp [readNetU32, writeNetU32, ← UInt8.toNat_inj, Nat.shiftRight_eq_div_pow]
  omega

end Numbers

section Headers

@[simp]
theorem length_writeNetU32 (value : UInt32) : (writeNetU32 value).length = 4 :=
  rfl

@[simp]
theorem drop_writeNetU32 (value : UInt32) (rest : Bytes) (offset : Nat) :
    (writeNetU32 value ++ rest).drop (offset + 4) = rest.drop offset := rfl

@[simp]
theorem SessionId.read_toList (sessionId : SessionId) :
    SessionId.read sessionId.bytes.toList = sessionId := by
  obtain ⟨bytes⟩ := sessionId
  rw [SessionId.read, SessionId.mk.injEq]
  ext index below
  simp

theorem SessionId.toList_read {bytes : Bytes} (length : bytes.length = 16) :
    (SessionId.read bytes).bytes.toList = bytes := by
  apply List.ext_getElem
  · simp [length]
  · intro index _ below
    simp [SessionId.read, List.getElem?_eq_getElem below]

/-- The fields of a header in the order of their offsets. -/
theorem encodeWireHeader_eq (packet : Packet) :
    encodeWireHeader packet =
      writeNetU32 tlvMagic ++ (writeNetU32 tlvVersion ++
        (writeNetU32 packet.type ++ (writeNetU32 packet.status ++
          (writeNetU32 (UInt32.ofNat packet.payload.length) ++
            packet.sessionId.bytes.toList)))) := by
  simp [encodeWireHeader, writeAt, wireHeaderSize, writeNetU32]

@[simp]
theorem length_encodeWireHeader (packet : Packet) :
    (encodeWireHeader packet).length = wireHeaderSize := by
  simp [encodeWireHeader_eq, wireHeaderSize]

end Headers

section Loops

variable {events : List SocketEvent} {count later : Nat}

theorem Flows.mono (flows : Flows count events) (fewer : later ≤ count) :
    Flows later events :=
  ⟨flows.1, fewer.trans flows.2⟩

theorem not_flows_failed : ¬Flows count (.failed :: events) :=
  fun flows => flows.1 List.mem_cons_self

theorem Flows.of_interrupted (flows : Flows count (.interrupted :: events)) :
    Flows count events :=
  ⟨fun failed => flows.1 (List.mem_cons_of_mem _ failed), by
    simpa using flows.2⟩

theorem Flows.of_moves {more : Nat}
    (flows : Flows (count + 1) (.moves more :: events)) : Flows count events :=
  ⟨fun failed => flows.1 (List.mem_cons_of_mem _ failed), by
    simpa using flows.2⟩

theorem sendN_flows {bytes : Bytes} (stream : Bytes)
    (flows : Flows (bytes.length + later) events) :
    ∃ after, Flows later after ∧
      sendN events bytes stream = (some true, after, stream ++ bytes) := by
  induction events generalizing bytes stream with
  | nil =>
      cases bytes with
      | nil => exact ⟨[], flows.mono (by simp), by simp [sendN]⟩
      | cons byte bytes => exact absurd flows.2 (by simp)
  | cons event events inductionHypothesis =>
      cases bytes with
      | nil => exact ⟨_, flows.mono (by simp), by simp [sendN]⟩
      | cons byte bytes =>
          rw [sendN.eq_def]
          cases event with
          | interrupted => exact inductionHypothesis stream flows.of_interrupted
          | failed => exact absurd flows not_flows_failed
          | moves more =>
              have remaining : Flows ((bytes.drop more).length + later) events :=
                Flows.of_moves (flows.mono (by
                  simp only [List.length_drop, List.length_cons]
                  omega))
              simpa using inductionHypothesis (stream ++ byte :: bytes.take more)
                remaining

/-- All bytes are received if the stream has them. -/
theorem recvN_flows (received stream : Bytes)
    (flows : Flows (count + later) events) :
    ∃ after, Flows later after ∧
      recvN events count received stream =
        if count ≤ stream.length then
          (some (some (received ++ stream.take count)), after, stream.drop count)
        else (some none, after, []) := by
  induction events generalizing count received stream with
  | nil =>
      cases count with
      | zero => exact ⟨[], flows.mono (by omega), by simp [recvN]⟩
      | succ count => exact absurd flows.2 (by simp)
  | cons event events inductionHypothesis =>
      cases count with
      | zero => exact ⟨_, flows.mono (by omega), by simp [recvN]⟩
      | succ count =>
          cases event with
          | interrupted =>
              rw [recvN]
              exact inductionHypothesis received stream flows.of_interrupted
          | failed => exact absurd flows not_flows_failed
          | moves more =>
              cases stream with
              | nil =>
                  exact ⟨events, Flows.of_moves (flows.mono (by omega)), by
                    simp [recvN]⟩
              | cons byte stream =>
                  rw [recvN, List.length_take]
                  generalize moved : min (min more count) stream.length = taken
                  have chunk : stream.take (min more count) =
                      stream.take taken := by
                    rw [← moved, ← List.take_eq_take_min]
                  have split : count = taken + (count - taken) := by omega
                  obtain ⟨after, flowsAfter, same⟩ :=
                    @inductionHypothesis (count - taken)
                      (received ++ byte :: stream.take taken) (stream.drop taken)
                      (Flows.of_moves (flows.mono (by omega)))
                  refine ⟨after, flowsAfter, ?_⟩
                  rw [chunk, same, List.length_drop, List.length_cons,
                    List.take_succ_cons, List.drop_succ_cons]
                  by_cases enough : count ≤ stream.length
                  · rw [if_pos (by omega), if_pos (by omega), List.drop_drop,
                      List.append_assoc, List.cons_append,
                      ← List.take_add, ← split]
                  · rw [if_neg (by omega), if_neg (by omega)]

theorem protocolSendPacket_flows {packet : Packet} (fits : packet.Fits)
    (stream : Bytes) (flows : Flows (packet.encode.length + later) events) :
    ∃ after, Flows later after ∧
      protocolSendPacket events packet stream =
        (some true, after, stream ++ packet.encode) := by
  rw [Packet.encode, List.length_append, Nat.add_assoc] at flows
  obtain ⟨middle, flowsMiddle, sentHeader⟩ := sendN_flows stream flows
  obtain ⟨after, flowsAfter, sent⟩ :=
    sendN_flows (stream ++ encodeWireHeader packet) flowsMiddle
  refine ⟨after, flowsAfter, ?_⟩
  rw [protocolSendPacket, if_neg (Nat.not_lt.mpr fits), sentHeader]
  dsimp only
  rw [sent, Packet.encode, List.append_assoc]

theorem sendPackets_flows {packets : List Packet}
    (fits : ∀ packet ∈ packets, packet.Fits) (stream : Bytes)
    (flows : Flows (packets.flatMap Packet.encode).length events) :
    ∃ after, sendPackets events packets stream =
      (some true, after, stream ++ packets.flatMap Packet.encode) := by
  induction packets generalizing events stream with
  | nil => exact ⟨events, by simp [sendPackets]⟩
  | cons packet packets inductionHypothesis =>
      rw [List.flatMap_cons, List.length_append] at flows
      obtain ⟨middle, flowsMiddle, sent⟩ := protocolSendPacket_flows
        (fits packet List.mem_cons_self) stream flows
      obtain ⟨after, sentRest⟩ := inductionHypothesis
        (fun other listed => fits other (List.mem_cons_of_mem _ listed))
        (stream ++ packet.encode) flowsMiddle
      exact ⟨after, by
        rw [sendPackets, sent, List.flatMap_cons, ← List.append_assoc]
        exact sentRest⟩

end Loops

section Decoding

variable {events : List SocketEvent} {later : Nat}

theorem toNat_length {packet : Packet} (fits : packet.Fits) :
    (UInt32.ofNat packet.payload.length).toNat = packet.payload.length := by
  rw [UInt32.toNat_ofNat']
  apply Nat.mod_eq_of_lt
  have : packet.payload.length ≤ 65536 := fits
  omega

theorem Packet.ofHeader_encode (packet : Packet) :
    Packet.ofHeader (encodeWireHeader packet) packet.payload = packet := by
  simp only [Packet.ofHeader, encodeWireHeader_eq, drop_writeNetU32,
    List.drop_zero, readNetU32_write, SessionId.read_toList]

/-- A header is the encoding of what is read from it. -/
theorem encodeWireHeader_ofHeader {header payload : Bytes}
    (length : header.length = wireHeaderSize)
    (isMagic : readNetU32 header = tlvMagic)
    (isVersion : readNetU32 (header.drop 4) = tlvVersion)
    (counts : (readNetU32 (header.drop 16)).toNat = payload.length) :
    encodeWireHeader (Packet.ofHeader header payload) = header := by
  have field : ∀ offset, offset + 4 ≤ 36 →
      writeNetU32 (readNetU32 (header.drop offset)) ++ header.drop (offset + 4) =
        header.drop offset := by
    intro offset inside
    have four : ((header.drop offset).take 4).length = 4 := by
      rw [List.length_take, List.length_drop, length, wireHeaderSize]
      omega
    have read : readNetU32 (header.drop offset) =
        readNetU32 ((header.drop offset).take 4) := by
      rw [readNetU32, readNetU32, List.take_take, min_self]
    rw [read, writeNetU32_read four, ← List.drop_drop, List.take_append_drop]
  have last : (SessionId.read (header.drop 20)).bytes.toList = header.drop 20 :=
    SessionId.toList_read (by rw [List.length_drop, length]; rfl)
  have written := field 0 (by omega)
  rw [List.drop_zero, isMagic] at written
  simp only [encodeWireHeader_eq, Packet.ofHeader, last, ← counts,
    UInt32.ofNat_toNat, ← isVersion, field 16 (by omega), field 12 (by omega),
    field 8 (by omega), field 4 (by omega), written]

theorem protocolRecvPacket_encode {packet : Packet} (fits : packet.Fits)
    (rest : Bytes) (flows : Flows (packet.encode.length + later) events) :
    ∃ after, Flows later after ∧
      protocolRecvPacket events (packet.encode ++ rest) =
        (some (some packet), after, rest) := by
  rw [Packet.encode, List.length_append, length_encodeWireHeader,
    Nat.add_assoc] at flows
  obtain ⟨middle, flowsMiddle, header⟩ :=
    recvN_flows [] (packet.encode ++ rest) flows
  obtain ⟨after, flowsAfter, payload⟩ :=
    recvN_flows [] (packet.payload ++ rest) flowsMiddle
  refine ⟨after, flowsAfter, ?_⟩
  rw [Packet.encode, List.append_assoc, if_pos (by simp), List.nil_append,
    List.take_left' (length_encodeWireHeader packet),
    List.drop_left' (length_encodeWireHeader packet)] at header
  rw [if_pos (by simp), List.nil_append, List.take_left, List.drop_left] at payload
  have magic : readNetU32 (encodeWireHeader packet) = tlvMagic := by
    rw [encodeWireHeader_eq, readNetU32_write]
  have version : readNetU32 ((encodeWireHeader packet).drop 4) = tlvVersion := by
    simp only [encodeWireHeader_eq, drop_writeNetU32, List.drop_zero,
      readNetU32_write]
  have counts : (readNetU32 ((encodeWireHeader packet).drop 16)).toNat =
      packet.payload.length := by
    simp only [encodeWireHeader_eq, drop_writeNetU32, List.drop_zero,
      readNetU32_write]
    exact toNat_length fits
  rw [Packet.encode, List.append_assoc, protocolRecvPacket, header]
  dsimp only
  rw [if_neg (by simp [magic, version]), counts, if_neg (Nat.not_lt.mpr fits),
    payload]
  dsimp only
  rw [Packet.ofHeader_encode]

theorem recvPackets_encode {packets : List Packet}
    (fits : ∀ packet ∈ packets, packet.Fits) (rest : Bytes)
    (flows : Flows (packets.flatMap Packet.encode).length events) :
    ∃ after, recvPackets packets.length events
        (packets.flatMap Packet.encode ++ rest) =
      (some (some packets), after, rest) := by
  induction packets generalizing events with
  | nil => exact ⟨events, rfl⟩
  | cons packet packets inductionHypothesis =>
      rw [List.flatMap_cons, List.length_append] at flows
      obtain ⟨middle, flowsMiddle, first⟩ := protocolRecvPacket_encode
        (fits packet List.mem_cons_self)
        (packets.flatMap Packet.encode ++ rest) flows
      obtain ⟨after, others⟩ := inductionHypothesis
        (fun other listed => fits other (List.mem_cons_of_mem _ listed))
        flowsMiddle
      refine ⟨after, ?_⟩
      rw [List.length_cons, recvPackets, List.flatMap_cons, List.append_assoc,
        first]
      dsimp only
      rw [others]

/-- Whatever the schedule, the bytes that are returned have left the stream. -/
theorem recvN_sound {events after : List SocketEvent} {count : Nat}
    {received bytes stream rest : Bytes}
    (returned : recvN events count received stream =
      (some (some bytes), after, rest)) :
    ∃ chunk, chunk.length = count ∧ bytes = received ++ chunk ∧
      stream = chunk ++ rest := by
  fun_induction recvN events count received stream with
  | case1 events received stream =>
      cases returned
      exact ⟨[], rfl, by simp, rfl⟩
  | case2 | case4 | case5 => cases returned
  | case3 events count received stream inductionHypothesis =>
      exact inductionHypothesis returned
  | case6 more events count received byte stream chunk inductionHypothesis =>
      obtain ⟨last, length, rfl, left⟩ := inductionHypothesis returned
      have split : chunk ++ stream.drop chunk.length = stream :=
        List.prefix_iff_eq_append.mp (List.take_prefix _ _)
      refine ⟨byte :: (chunk ++ last), ?_, by simp, ?_⟩
      · have shorter : chunk.length ≤ count := by
          simp only [chunk, List.length_take]
          omega
        simp only [List.length_cons, List.length_append, length]
        omega
      · rw [List.cons_append, List.append_assoc, ← left, split]

theorem protocolRecvPacket_sound {events after : List SocketEvent}
    {stream rest : Bytes} {packet : Packet}
    (returned : protocolRecvPacket events stream =
      (some (some packet), after, rest)) :
    packet.Fits ∧ stream = packet.encode ++ rest := by
  rw [protocolRecvPacket] at returned
  split at returned
  · rename_i header middle left receivedHeader
    split at returned
    · cases returned
    · rename_i magicAndVersion
      dsimp only at returned
      split at returned
      · cases returned
      · rename_i small
        split at returned
        · rename_i payload last remaining receivedPayload
          cases returned
          obtain ⟨_, lengthHeader, rfl, rfl⟩ := recvN_sound receivedHeader
          obtain ⟨_, lengthPayload, rfl, rfl⟩ := recvN_sound receivedPayload
          push Not at magicAndVersion
          refine ⟨(lengthPayload.trans_le (Nat.not_lt.mp small)), ?_⟩
          rw [Packet.encode, encodeWireHeader_ofHeader lengthHeader
            magicAndVersion.1 magicAndVersion.2 lengthPayload.symm,
            List.append_assoc]
          rfl
        · cases returned
        · cases returned
  · cases returned
  · cases returned

/-- With a working connection every call returns. -/
theorem protocolRecvPacket_returns (stream : Bytes)
    (flows : Flows (wireHeaderSize + maxPacketPayload) events) :
    (protocolRecvPacket events stream).1 ≠ none := by
  obtain ⟨middle, flowsMiddle, header⟩ := recvN_flows [] stream flows
  rw [protocolRecvPacket, header]
  by_cases enough : wireHeaderSize ≤ stream.length
  · rw [if_pos enough]
    dsimp only
    split_ifs with wrong large
    · simp
    · simp
    · obtain ⟨_, -, payload⟩ := @recvN_flows middle
        (readNetU32 ((stream.take wireHeaderSize).drop 16)).toNat 0 []
        (stream.drop wireHeaderSize) (flowsMiddle.mono (Nat.not_lt.mp large))
      rw [List.nil_append, payload]
      split_ifs <;> simp
  · rw [if_neg enough]
    simp

end Decoding

/-- What is sent is received, packet by packet, and what is received is the
encoding of a packet that fits. -/
theorem packets_framed :
    (∀ (packets : List Packet) (sending receiving : List SocketEvent)
        (rest : Bytes), (∀ packet ∈ packets, packet.Fits) →
      Flows (packets.flatMap Packet.encode).length sending →
      Flows (packets.flatMap Packet.encode).length receiving →
      ∃ wire sent received,
        sendPackets sending packets [] = (some true, sent, wire) ∧
        recvPackets packets.length receiving (wire ++ rest) =
          (some (some packets), received, rest)) ∧
    (∀ (events : List SocketEvent) (stream : Bytes),
      Flows (wireHeaderSize + maxPacketPayload) events →
      ((∃ packet after rest, protocolRecvPacket events stream =
          (some (some packet), after, rest)) ↔
        ∃ (packet : Packet) (rest : Bytes), packet.Fits ∧
          stream = packet.encode ++ rest) ∧
      (protocolRecvPacket events stream).1 ≠ none) ∧
    ∀ (events after : List SocketEvent) (stream rest : Bytes) (packet : Packet),
      protocolRecvPacket events stream = (some (some packet), after, rest) →
        stream = packet.encode ++ rest := by
  refine ⟨fun packets sending receiving rest fits flowsOut flowsIn => ?_,
    fun events stream flows => ⟨⟨?_, ?_⟩, protocolRecvPacket_returns stream flows⟩,
    fun events after stream rest packet returned =>
      (protocolRecvPacket_sound returned).2⟩
  · obtain ⟨sent, sends⟩ := sendPackets_flows fits [] flowsOut
    obtain ⟨received, receives⟩ := recvPackets_encode fits rest flowsIn
    rw [List.nil_append] at sends
    exact ⟨_, sent, received, sends, receives⟩
  · rintro ⟨packet, after, rest, returned⟩
    exact ⟨packet, rest, protocolRecvPacket_sound returned⟩
  · rintro ⟨packet, rest, fits, rfl⟩
    have length : packet.encode.length ≤ wireHeaderSize + maxPacketPayload := by
      rw [Packet.encode, List.length_append, length_encodeWireHeader]
      exact Nat.add_le_add_left fits _
    have enough : Flows (packet.encode.length + 0) events := flows.mono length
    obtain ⟨after, -, returned⟩ := protocolRecvPacket_encode fits rest enough
    exact ⟨packet, after, rest, returned⟩

/-- Two packets, sent byte by byte with interruptions and received in pieces. -/
theorem packets_framed_two :
    ∃ wire sent received,
      sendPackets ((List.replicate 75 [.interrupted, .moves 0]).flatten)
          [Packet.init .pwd .ok .empty [], Packet.init .ls .ok .empty [1, 2]] [] =
        (some true, sent, wire) ∧
      recvPackets 2 (List.replicate 75 (.moves 9)) (wire ++ [7]) =
        (some (some [Packet.init .pwd .ok .empty [],
          Packet.init .ls .ok .empty [1, 2]]), received, [7]) :=
  packets_framed.1
    [Packet.init .pwd .ok .empty [], Packet.init .ls .ok .empty [1, 2]] _ _ [7]
    (by unfold Packet.Fits; decide +kernel) (by unfold Flows; decide +kernel)
    (by unfold Flows; decide +kernel)

end CloudDrive

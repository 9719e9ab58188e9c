import Fexma.Library.ByteLayout
import Fexma.Matcher.Types
import Mathlib.Tactic.SplitIfs

/-! The payload codecs of the command and event logs (`codec.cpp`), in schema versions 1 and
2. A decoder parses, encodes what it has parsed and compares. -/
namespace Fexma

open ByteLayout

inductive PayloadCodecStatus where
  | ok
  | invalidSize
  | invalidType
  | invalidField
  | nonCanonicalBytes
  deriving DecidableEq, Repr

/-! ### Payloads as they lie in memory -/

/-- An enumeration of the source is a byte, in or out of its range. -/
structure RawNewLimitOrder where
  id : OrderId
  ownerId : OwnerId
  side : UInt8
  price : PriceTick
  quantity : Quantity
  deriving DecidableEq, Repr

/-- A command by tag and active member. -/
inductive RawCommand where
  | none
  | newLimit (order : RawNewLimitOrder)
  | saveSnapshot
  | loadSnapshot (command : LoadSnapshotCommand)
  | shutdown
  | startReplay
  | stopReplay
  | unknown (tag : UInt8) (outside : 6 < tag)
  deriving DecidableEq, Repr

namespace RawCommand

/-- `CommandType`. -/
def type : RawCommand → UInt8
  | none => 0
  | newLimit _ => 1
  | saveSnapshot => 2
  | loadSnapshot _ => 3
  | shutdown => 4
  | startReplay => 5
  | stopReplay => 6
  | unknown tag _ => tag

end RawCommand

structure RawCommandWalPayload where
  clientId : ClientId := 0
  message : RawCommand := .none
  deriving DecidableEq, Repr

structure RawOrderRested where
  id : OrderId
  ownerId : OwnerId
  side : UInt8
  price : PriceTick
  remaining : Quantity
  deriving DecidableEq, Repr

/-- An event by tag and active member. -/
inductive RawEvent where
  | none
  | accepted (id : OrderId)
  | rejected (id : OrderId) (reason : UInt8)
  | trade (trade : TradeEvent)
  | rested (order : RawOrderRested)
  | done (id : OrderId)
  | saveSnapshot
  | loadSnapshot (saveSnapshotCommandSequence : CommandSequence) (snapshotEpochId : EpochId)
  | shutdown
  | fatal (reason : UInt8) (offendingOrderId lastOrderId : OrderId)
  | startReplay
  | stopReplay
  | unknown (tag : UInt8) (outside : 11 < tag)
  deriving DecidableEq, Repr

/-- `EventType`. -/
def RawEvent.type : RawEvent → UInt8
  | none => 0
  | accepted _ => 1
  | rejected _ _ => 2
  | trade _ => 3
  | rested _ => 4
  | done _ => 5
  | saveSnapshot => 6
  | loadSnapshot _ _ => 7
  | shutdown => 8
  | fatal _ _ _ => 9
  | startReplay => 10
  | stopReplay => 11
  | unknown tag _ => tag

structure RawEventWalPayload where
  clientId : ClientId := 0
  causedByCommandSequence : CommandSequence := 0
  indexInCommand : EventIndex := 0
  isLastForCommand : Bool := false
  message : RawEvent := .none
  deriving DecidableEq, Repr

/-! ### Fields -/

def commandWalPayloadSize : ℕ := 48
def eventWalPayloadSize : ℕ := 64

def writeByte (bytes : List UInt8) (offset : ℕ) (value : UInt8) : List UInt8 :=
  put bytes offset 1 value.toNat

def writeU32 (bytes : List UInt8) (offset : ℕ) (value : UInt32) : List UInt8 :=
  put bytes offset 4 value.toNat

def writeU64 (bytes : List UInt8) (offset : ℕ) (value : UInt64) : List UInt8 :=
  put bytes offset 8 value.toNat

def readByte (bytes : List UInt8) (offset : ℕ) : UInt8 := .ofNat (get bytes offset 1)

def readU32 (bytes : List UInt8) (offset : ℕ) : UInt32 := .ofNat (get bytes offset 4)

def readU64 (bytes : List UInt8) (offset : ℕ) : UInt64 := .ofNat (get bytes offset 8)

def validSide (value : UInt8) : Bool := value ≤ 1

def validRejectReason (value : UInt8) : Bool := value ≤ 3

def validFatalReason (value : UInt8) : Bool := value ≤ 10

/-- An error of a parser names a failure. -/
def NamesFailure {π : Type} (parsed : Except PayloadCodecStatus π) : Prop :=
  ∀ status, parsed = .error status → status ≠ .ok

section NamesFailure
variable {π : Type} {parsed other : Except PayloadCodecStatus π} {status : PayloadCodecStatus}

theorem names_ok (value : π) : NamesFailure (.ok value) := nofun

theorem names_error (failure : status ≠ .ok) : NamesFailure (.error status : Except _ π) := by
  intro named same
  cases same
  exact failure

theorem names_ite {condition : Prop} [Decidable condition] (first : NamesFailure parsed)
    (second : NamesFailure other) : NamesFailure (if condition then parsed else other) := by
  split_ifs
  · exact first
  · exact second

end NamesFailure

/-- How every decoder ends: `decoded` is encoded again, and the output is set if that gives
the bytes back. -/
def acceptCanonical {π : Type} (encode : π → List UInt8 → PayloadCodecStatus × List UInt8)
    (bytes : List UInt8) (decoded output : π) : PayloadCodecStatus × π :=
  let encoded := encode decoded (List.replicate bytes.length 0)
  if encoded.1 ≠ .ok then (encoded.1, output)
  else if bytes ≠ encoded.2 then (.nonCanonicalBytes, output)
  else (.ok, decoded)

/-! ### Commands -/

/-- What both command encoders write first. -/
def commandHeader (payload : RawCommandWalPayload) (bytes : List UInt8) : List UInt8 :=
  let bytes := List.replicate bytes.length 0
  let bytes := writeU64 bytes 0 payload.clientId
  writeByte bytes 8 payload.message.type

def encodeCommandWalPayloadV1 (payload : RawCommandWalPayload) (bytes : List UInt8) :
    PayloadCodecStatus × List UInt8 :=
  if bytes.length ≠ commandWalPayloadSize then (.invalidSize, bytes)
  else
    let bytes := commandHeader payload bytes
    match payload.message with
    | .newLimit command =>
      if !validSide command.side then (.invalidField, bytes)
      else
        let bytes := writeU64 bytes 16 command.id
        let bytes := writeU64 bytes 24 command.ownerId
        let bytes := writeByte bytes 32 command.side
        let bytes := writeU32 bytes 36 command.price
        let bytes := writeU32 bytes 40 command.quantity
        (.ok, bytes)
    | .saveSnapshot => (.ok, bytes)
    | .loadSnapshot command =>
      let bytes := writeU64 bytes 16 command.saveSnapshotCommandSequence
      let bytes := writeU64 bytes 24 command.snapshotEpochId
      (.ok, bytes)
    | .shutdown => (.ok, bytes)
    | .startReplay | .stopReplay | .none => (.invalidType, bytes)
    | .unknown _ _ => (.invalidType, bytes)

/-- The switch of the command decoder. -/
def parseCommandV1 (bytes : List UInt8) : Except PayloadCodecStatus RawCommandWalPayload :=
  let type := readByte bytes 8
  let decoded (message : RawCommand) : Except PayloadCodecStatus RawCommandWalPayload :=
    .ok { clientId := readU64 bytes 0, message }
  if type = 1 then
    let side := readByte bytes 32
    if !validSide side then .error .invalidField
    else decoded (.newLimit
      { id := readU64 bytes 16, ownerId := readU64 bytes 24, side, price := readU32 bytes 36
        quantity := readU32 bytes 40 })
  else if type = 2 then decoded .saveSnapshot
  else if type = 3 then decoded (.loadSnapshot ⟨readU64 bytes 16, readU64 bytes 24⟩)
  else if type = 4 then decoded .shutdown
  else .error .invalidType

def decodeCommandWalPayloadV1 (bytes : List UInt8) (payload : RawCommandWalPayload) :
    PayloadCodecStatus × RawCommandWalPayload :=
  if bytes.length ≠ commandWalPayloadSize then (.invalidSize, payload)
  else match parseCommandV1 bytes with
    | .error status => (status, payload)
    | .ok decoded => acceptCanonical encodeCommandWalPayloadV1 bytes decoded payload

def encodeCommandWalPayloadV2 (payload : RawCommandWalPayload) (bytes : List UInt8) :
    PayloadCodecStatus × List UInt8 :=
  if bytes.length ≠ commandWalPayloadSize then (.invalidSize, bytes)
  else if payload.message.type ≠ 5 ∧ payload.message.type ≠ 6 then
    encodeCommandWalPayloadV1 payload bytes
  else (.ok, commandHeader payload bytes)

def decodeCommandWalPayloadV2 (bytes : List UInt8) (payload : RawCommandWalPayload) :
    PayloadCodecStatus × RawCommandWalPayload :=
  if bytes.length ≠ commandWalPayloadSize then (.invalidSize, payload)
  else
    let type := readByte bytes 8
    if type ≠ 5 ∧ type ≠ 6 then decodeCommandWalPayloadV1 bytes payload
    else
      let decoded : RawCommandWalPayload :=
        { clientId := readU64 bytes 0
          message := if type = 5 then .startReplay else .stopReplay }
      acceptCanonical encodeCommandWalPayloadV2 bytes decoded payload

/-! ### Events -/

/-- What both event encoders write first. -/
def eventHeader (payload : RawEventWalPayload) (bytes : List UInt8) : List UInt8 :=
  let bytes := List.replicate bytes.length 0
  let bytes := writeU64 bytes 0 payload.clientId
  let bytes := writeU64 bytes 8 payload.causedByCommandSequence
  let bytes := writeU32 bytes 16 payload.indexInCommand
  let bytes := writeByte bytes 20 (if payload.isLastForCommand then 1 else 0)
  writeByte bytes 21 payload.message.type

def encodeEventWalPayloadV1 (payload : RawEventWalPayload) (bytes : List UInt8) :
    PayloadCodecStatus × List UInt8 :=
  if bytes.length ≠ eventWalPayloadSize then (.invalidSize, bytes)
  else
    let bytes := eventHeader payload bytes
    match payload.message with
    | .accepted id => (.ok, writeU64 bytes 24 id)
    | .rejected id reason =>
      if !validRejectReason reason then (.invalidField, bytes)
      else
        let bytes := writeU64 bytes 24 id
        let bytes := writeByte bytes 32 reason
        (.ok, bytes)
    | .trade trade =>
      let bytes := writeU64 bytes 24 trade.takerOrderId
      let bytes := writeU64 bytes 32 trade.makerOrderId
      let bytes := writeU64 bytes 40 trade.takerOwnerId
      let bytes := writeU64 bytes 48 trade.makerOwnerId
      let bytes := writeU32 bytes 56 trade.price
      let bytes := writeU32 bytes 60 trade.quantity
      (.ok, bytes)
    | .rested order =>
      if !validSide order.side then (.invalidField, bytes)
      else
        let bytes := writeU64 bytes 24 order.id
        let bytes := writeU64 bytes 32 order.ownerId
        let bytes := writeByte bytes 40 order.side
        let bytes := writeU32 bytes 44 order.price
        let bytes := writeU32 bytes 48 order.remaining
        (.ok, bytes)
    | .done id => (.ok, writeU64 bytes 24 id)
    | .saveSnapshot => (.ok, bytes)
    | .loadSnapshot saveSnapshotCommandSequence snapshotEpochId =>
      let bytes := writeU64 bytes 24 saveSnapshotCommandSequence
      let bytes := writeU64 bytes 32 snapshotEpochId
      (.ok, bytes)
    | .shutdown => (.ok, bytes)
    | .fatal reason offendingOrderId lastOrderId =>
      if !validFatalReason reason then (.invalidField, bytes)
      else
        let bytes := writeByte bytes 24 reason
        let bytes := writeU64 bytes 32 offendingOrderId
        let bytes := writeU64 bytes 40 lastOrderId
        (.ok, bytes)
    | .startReplay | .stopReplay | .none => (.invalidType, bytes)
    | .unknown _ _ => (.invalidType, bytes)

/-- The fields all events share, as a decoder reads them. -/
def eventWith (bytes : List UInt8) (message : RawEvent) : RawEventWalPayload :=
  { clientId := readU64 bytes 0
    causedByCommandSequence := readU64 bytes 8
    indexInCommand := readU32 bytes 16
    isLastForCommand := readByte bytes 20 ≠ 0
    message }

/-- The event decoder up to the end of its switch. -/
def parseEventV1 (bytes : List UInt8) : Except PayloadCodecStatus RawEventWalPayload :=
  if readByte bytes 20 > 1 then .error .invalidField
  else
    let type := readByte bytes 21
    let decoded (message : RawEvent) : Except PayloadCodecStatus RawEventWalPayload :=
      .ok (eventWith bytes message)
    if type = 1 then decoded (.accepted (readU64 bytes 24))
    else if type = 2 then
      let reason := readByte bytes 32
      if !validRejectReason reason then .error .invalidField
      else decoded (.rejected (readU64 bytes 24) reason)
    else if type = 3 then decoded (.trade
      { takerOrderId := readU64 bytes 24, makerOrderId := readU64 bytes 32
        takerOwnerId := readU64 bytes 40, makerOwnerId := readU64 bytes 48
        price := readU32 bytes 56, quantity := readU32 bytes 60 })
    else if type = 4 then
      let side := readByte bytes 40
      if !validSide side then .error .invalidField
      else decoded (.rested
        { id := readU64 bytes 24, ownerId := readU64 bytes 32, side, price := readU32 bytes 44
          remaining := readU32 bytes 48 })
    else if type = 5 then decoded (.done (readU64 bytes 24))
    else if type = 6 then decoded .saveSnapshot
    else if type = 7 then decoded (.loadSnapshot (readU64 bytes 24) (readU64 bytes 32))
    else if type = 8 then decoded .shutdown
    else if type = 9 then
      let reason := readByte bytes 24
      if !validFatalReason reason then .error .invalidField
      else decoded (.fatal reason (readU64 bytes 32) (readU64 bytes 40))
    else .error .invalidType

def decodeEventWalPayloadV1 (bytes : List UInt8) (payload : RawEventWalPayload) :
    PayloadCodecStatus × RawEventWalPayload :=
  if bytes.length ≠ eventWalPayloadSize then (.invalidSize, payload)
  else match parseEventV1 bytes with
    | .error status => (status, payload)
    | .ok decoded => acceptCanonical encodeEventWalPayloadV1 bytes decoded payload

def encodeEventWalPayloadV2 (payload : RawEventWalPayload) (bytes : List UInt8) :
    PayloadCodecStatus × List UInt8 :=
  if bytes.length ≠ eventWalPayloadSize then (.invalidSize, bytes)
  else if payload.message.type ≠ 10 ∧ payload.message.type ≠ 11 then
    encodeEventWalPayloadV1 payload bytes
  else (.ok, eventHeader payload bytes)

def decodeEventWalPayloadV2 (bytes : List UInt8) (payload : RawEventWalPayload) :
    PayloadCodecStatus × RawEventWalPayload :=
  if bytes.length ≠ eventWalPayloadSize then (.invalidSize, payload)
  else if readByte bytes 20 > 1 then (.invalidField, payload)
  else
    let type := readByte bytes 21
    if type ≠ 10 ∧ type ≠ 11 then decodeEventWalPayloadV1 bytes payload
    else
      let decoded := eventWith bytes (if type = 10 then .startReplay else .stopReplay)
      acceptCanonical encodeEventWalPayloadV2 bytes decoded payload

/-! ### Reading what was written -/

section Fields
variable {bytes : List UInt8} {offset start count : ℕ}

@[simp] theorem length_writeByte (value : UInt8) :
    (writeByte bytes offset value).length = bytes.length := length_put

@[simp] theorem length_writeU32 (value : UInt32) :
    (writeU32 bytes offset value).length = bytes.length := length_put

@[simp] theorem length_writeU64 (value : UInt64) :
    (writeU64 bytes offset value).length = bytes.length := length_put

theorem get_writeByte (value : UInt8) (inside : offset + 1 ≤ bytes.length) :
    get (writeByte bytes offset value) offset 1 = value.toNat := get_put inside value.toNat_lt

theorem get_writeU32 (value : UInt32) (inside : offset + 4 ≤ bytes.length) :
    get (writeU32 bytes offset value) offset 4 = value.toNat := get_put inside value.toNat_lt

theorem get_writeU64 (value : UInt64) (inside : offset + 8 ≤ bytes.length) :
    get (writeU64 bytes offset value) offset 8 = value.toNat := get_put inside value.toNat_lt

theorem get_writeByte_apart (value : UInt8) (inside : offset + 1 ≤ bytes.length)
    (apart : start + count ≤ offset ∨ offset + 1 ≤ start) :
    get (writeByte bytes offset value) start count = get bytes start count :=
  get_put_apart inside apart

theorem get_writeU32_apart (value : UInt32) (inside : offset + 4 ≤ bytes.length)
    (apart : start + count ≤ offset ∨ offset + 4 ≤ start) :
    get (writeU32 bytes offset value) start count = get bytes start count :=
  get_put_apart inside apart

theorem get_writeU64_apart (value : UInt64) (inside : offset + 8 ≤ bytes.length)
    (apart : start + count ≤ offset ∨ offset + 8 ≤ start) :
    get (writeU64 bytes offset value) start count = get bytes start count :=
  get_put_apart inside apart

end Fields

/-! ### Layouts -/

/-- The body of a command, field by field: widths and numbers. -/
def RawCommand.body : RawCommand → List (ℕ × ℕ)
  | newLimit order =>
    [(8, order.id.toNat), (8, order.ownerId.toNat), (1, order.side.toNat), (3, 0),
      (4, order.price.toNat), (4, order.quantity.toNat), (4, 0)]
  | loadSnapshot command =>
    [(8, command.saveSnapshotCommandSequence.toNat), (8, command.snapshotEpochId.toNat), (16, 0)]
  | _ => [(32, 0)]

def RawCommandWalPayload.table (payload : RawCommandWalPayload) : List (ℕ × ℕ) :=
  (8, payload.clientId.toNat) :: (1, payload.message.type.toNat) :: (7, 0) :: payload.message.body

/-- The commands that are persisted, with what their enumerations may hold. -/
def RawCommand.persisted : RawCommand → Bool
  | newLimit order => validSide order.side
  | saveSnapshot | loadSnapshot _ | shutdown => true
  | none | startReplay | stopReplay | unknown _ _ => false

def RawCommand.persistedV2 (command : RawCommand) : Bool :=
  command.persisted || command.type = 5 || command.type = 6

def RawEvent.body : RawEvent → List (ℕ × ℕ)
  | accepted id | done id => [(8, id.toNat), (32, 0)]
  | rejected id reason => [(8, id.toNat), (1, reason.toNat), (31, 0)]
  | trade executed =>
    [(8, executed.takerOrderId.toNat), (8, executed.makerOrderId.toNat),
      (8, executed.takerOwnerId.toNat), (8, executed.makerOwnerId.toNat), (4, executed.price.toNat),
      (4, executed.quantity.toNat)]
  | rested order =>
    [(8, order.id.toNat), (8, order.ownerId.toNat), (1, order.side.toNat), (3, 0),
      (4, order.price.toNat), (4, order.remaining.toNat), (12, 0)]
  | loadSnapshot saveSnapshotCommandSequence snapshotEpochId =>
    [(8, saveSnapshotCommandSequence.toNat), (8, snapshotEpochId.toNat), (24, 0)]
  | fatal reason offendingOrderId lastOrderId =>
    [(1, reason.toNat), (7, 0), (8, offendingOrderId.toNat), (8, lastOrderId.toNat), (16, 0)]
  | _ => [(40, 0)]

def RawEventWalPayload.table (payload : RawEventWalPayload) : List (ℕ × ℕ) :=
  (8, payload.clientId.toNat) :: (8, payload.causedByCommandSequence.toNat) ::
    (4, payload.indexInCommand.toNat) :: (1, payload.isLastForCommand.toNat) ::
    (1, payload.message.type.toNat) :: (2, 0) :: payload.message.body

/-- The events that are persisted, with what their enumerations may hold. -/
def RawEvent.persisted : RawEvent → Bool
  | rejected _ reason => validRejectReason reason
  | rested order => validSide order.side
  | fatal reason _ _ => validFatalReason reason
  | accepted _ | trade _ | done _ | saveSnapshot | loadSnapshot _ _ | shutdown => true
  | none | startReplay | stopReplay | unknown _ _ => false

def RawEvent.persistedV2 (event : RawEvent) : Bool :=
  event.persisted || event.type = 10 || event.type = 11

/-- The bytes hold the fields of a table and nothing else. -/
structure Holds (table : List (ℕ × ℕ)) (size : ℕ) (bytes : List UInt8) : Prop where
  length : bytes.length = size
  fields : fields bytes 0 (table.map Prod.fst) = table.map Prod.snd

/-- One table is held by one byte string. -/
theorem Holds.unique {table : List (ℕ × ℕ)} {size : ℕ} {bytes other : List UInt8}
    (holds : Holds table size bytes) (holds' : Holds table size other)
    (full : (table.map Prod.fst).sum = size) : bytes = other :=
  eq_of_fields (full.trans holds.length.symm) (full.trans holds'.length.symm)
    (holds.fields.trans holds'.fields.symm)

/-! ### Codecs -/

section Codec
variable {π : Type} {encode : π → List UInt8 → PayloadCodecStatus × List UInt8}
variable {decode : List UInt8 → π → PayloadCodecStatus × π}
variable {table : π → List (ℕ × ℕ)} {persisted : π → Bool} {size : ℕ}
variable {payload decoded output : π} {bytes buffer : List UInt8}

/-- An encoder that writes the table of every payload that is persisted. -/
structure Encodes (encode : π → List UInt8 → PayloadCodecStatus × List UInt8)
    (table : π → List (ℕ × ℕ)) (persisted : π → Bool) (size : ℕ) : Prop where
  full : ∀ payload, ((table payload).map Prod.fst).sum = size
  writes : ∀ payload buffer, buffer.length = size →
    if persisted payload then
      ∃ encoded, encode payload buffer = (.ok, encoded) ∧ Holds (table payload) size encoded
    else (encode payload buffer).1 ≠ .ok

theorem Encodes.iff (encodes : Encodes encode table persisted size) (fits : buffer.length = size) :
    encode payload buffer = (.ok, bytes) ↔
      persisted payload ∧ Holds (table payload) size bytes := by
  have writes := encodes.writes payload buffer fits
  split_ifs at writes with kept
  · obtain ⟨encoded, result, holds⟩ := writes
    rw [result]
    constructor
    · intro same
      obtain rfl : encoded = bytes := congrArg Prod.snd same
      exact ⟨kept, holds⟩
    · rintro ⟨-, holds'⟩
      rw [holds.unique holds' (encodes.full payload)]
  · exact ⟨fun same => absurd (congrArg Prod.fst same) writes, fun ⟨kept', _⟩ => absurd kept' kept⟩

/-- A decoder ends well on exactly the table of what it has parsed. -/
theorem Encodes.acceptCanonical_iff (encodes : Encodes encode table persisted size)
    (sized : bytes.length = size) :
    acceptCanonical encode bytes decoded output = (.ok, payload) ↔
      decoded = payload ∧ persisted payload ∧ Holds (table payload) size bytes := by
  have fits : (List.replicate bytes.length (0 : UInt8)).length = size :=
    List.length_replicate.trans sized
  have encoded := @Encodes.iff π encode table persisted size decoded bytes _ encodes fits
  unfold acceptCanonical
  dsimp only
  split_ifs with refused different
  · refine ⟨fun same => absurd (congrArg Prod.fst same) refused, ?_⟩
    rintro ⟨rfl, good⟩
    exact absurd (congrArg Prod.fst (encoded.mpr good)) refused
  · refine ⟨fun same => (by cases congrArg Prod.fst same), ?_⟩
    rintro ⟨rfl, good⟩
    exact absurd (congrArg Prod.snd (encoded.mpr good)).symm different
  · have written : encode decoded (List.replicate bytes.length 0) = (.ok, bytes) :=
      Prod.ext (not_not.mp refused) (not_not.mp different).symm
    constructor
    · intro same
      obtain rfl : decoded = payload := congrArg Prod.snd same
      exact ⟨rfl, encoded.mp written⟩
    · rintro ⟨rfl, -⟩
      rfl

theorem acceptCanonical_unchanged (bytes : List UInt8) (decoded output : π)
    (failed : (acceptCanonical encode bytes decoded output).1 ≠ .ok) :
    (acceptCanonical encode bytes decoded output).2 = output := by
  unfold acceptCanonical at failed ⊢
  dsimp only at failed ⊢
  split_ifs at failed ⊢
  · rfl
  · rfl
  · exact absurd rfl failed

/-- Encoding and decoding undo each other; what is not the encoding of a persisted payload is
rejected, and a rejection leaves the output alone. -/
structure CanonicalCodec (encode : π → List UInt8 → PayloadCodecStatus × List UInt8)
    (decode : List UInt8 → π → PayloadCodecStatus × π) (persisted : π → Bool) (size : ℕ) :
    Prop where
  decode_iff : ∀ bytes payload output buffer, bytes.length = size → buffer.length = size →
    (decode bytes output = (.ok, payload) ↔ encode payload buffer = (.ok, bytes))
  encode_ok_iff : ∀ payload buffer, buffer.length = size →
    ((encode payload buffer).1 = .ok ↔ persisted payload)
  decode_inj : ∀ bytes other payload output output', bytes.length = size → other.length = size →
    decode bytes output = (.ok, payload) → decode other output' = (.ok, payload) → bytes = other
  rejects : ∀ bytes output buffer, bytes.length = size → buffer.length = size →
    (∀ payload, encode payload buffer ≠ (.ok, bytes)) → (decode bytes output).1 ≠ .ok
  unchanged : ∀ bytes output, (decode bytes output).1 ≠ .ok → (decode bytes output).2 = output

/-- A decoder that accepts exactly the tables goes with their encoder. -/
theorem Encodes.canonical (encodes : Encodes encode table persisted size)
    (accepts : ∀ bytes payload output, bytes.length = size →
      (decode bytes output = (.ok, payload) ↔ persisted payload ∧ Holds (table payload) size bytes))
    (unchanged : ∀ bytes output, (decode bytes output).1 ≠ .ok → (decode bytes output).2 = output) :
    CanonicalCodec encode decode persisted size where
  decode_iff bytes payload output buffer sized fits :=
    (accepts bytes payload output sized).trans (encodes.iff fits).symm
  encode_ok_iff payload buffer fits := by
    have writes := encodes.writes payload buffer fits
    split_ifs at writes with kept
    · obtain ⟨encoded, result, -⟩ := writes
      rw [result]
      exact ⟨fun _ => kept, fun _ => rfl⟩
    · exact ⟨fun ok => absurd ok writes, fun kept' => absurd kept' kept⟩
  decode_inj bytes other payload output output' sized sized' accepted accepted' := by
    obtain ⟨-, holds⟩ := (accepts bytes payload output sized).mp accepted
    obtain ⟨-, holds'⟩ := (accepts other payload output' sized').mp accepted'
    exact holds.unique holds' (encodes.full payload)
  rejects bytes output buffer sized fits foreign ok := by
    have accepted : decode bytes output = (.ok, (decode bytes output).2) := Prod.ext ok rfl
    have good := (accepts bytes _ output sized).mp accepted
    exact foreign _ ((encodes.iff fits).mpr good)
  unchanged := unchanged

end Codec

section Commands
variable {payload : RawCommandWalPayload} {bytes buffer : List UInt8}

theorem RawCommandWalPayload.table_sum (payload : RawCommandWalPayload) :
    (payload.table.map Prod.fst).sum = 48 := by
  obtain ⟨clientId, message⟩ := payload
  cases message <;> rfl

/-- The header of a command, in front of zeros. -/
theorem commandHeader_spec (payload : RawCommandWalPayload) (fits : buffer.length = 48) :
    (commandHeader payload buffer).length = 48 ∧
      get (commandHeader payload buffer) 0 8 = payload.clientId.toNat ∧
      get (commandHeader payload buffer) 8 1 = payload.message.type.toNat ∧
      ∀ start count, 9 ≤ start → get (commandHeader payload buffer) start count = 0 := by
  have length : (List.replicate buffer.length (0 : UInt8)).length = 48 :=
    List.length_replicate.trans fits
  unfold commandHeader
  have client : get (writeU64 (List.replicate buffer.length 0) 0 payload.clientId) 0 8 =
      payload.clientId.toNat := get_writeU64 _ (by omega)
  refine ⟨by simp [fits], ?_, ?_, fun start count behind => ?_⟩
  · rw [get_writeByte_apart _ (by simp [fits]) (by omega), client]
  · exact get_writeByte _ (by simp [fits])
  · rw [get_writeByte_apart _ (by simp [fits]) (by omega),
      get_writeU64_apart _ (by omega) (by omega), get_zeros]

/-- A persisted command is encoded as its table, any other is refused. -/
theorem encodeCommandV1_cases (fits : buffer.length = 48) :
    if payload.message.persisted then
      ∃ encoded, encodeCommandWalPayloadV1 payload buffer = (.ok, encoded) ∧
        Holds payload.table 48 encoded
    else (encodeCommandWalPayloadV1 payload buffer).1 ≠ .ok := by
  have sized : ¬ buffer.length ≠ commandWalPayloadSize := not_not.mpr fits
  obtain ⟨length, client, type, rest⟩ := commandHeader_spec payload fits
  rw [encodeCommandWalPayloadV1, if_neg sized]
  obtain ⟨clientId, message⟩ := payload
  generalize commandHeader ⟨clientId, message⟩ buffer = header at *
  cases message with
  | newLimit order =>
    by_cases valid : validSide order.side
    · simp only [RawCommand.persisted, valid, if_true, Bool.not_true, Bool.false_eq_true, if_false]
      refine ⟨_, rfl, by simp [length], ?_⟩
      simp [fields, RawCommandWalPayload.table, RawCommand.body, length, client, type, rest,
        get_writeByte, get_writeU32, get_writeU64, get_writeByte_apart, get_writeU32_apart,
        get_writeU64_apart]
    · simp [RawCommand.persisted, valid]
  | loadSnapshot command =>
    refine ⟨_, rfl, by simp [length], ?_⟩
    simp [fields, RawCommandWalPayload.table, RawCommand.body, length, client, type, rest,
      get_writeU64, get_writeU64_apart]
  | saveSnapshot | shutdown =>
    exact ⟨_, rfl, length, by
      simp [fields, RawCommandWalPayload.table, RawCommand.body, client, type, rest]⟩
  | none | startReplay | stopReplay | unknown => exact PayloadCodecStatus.noConfusion

/-- What bytes hold of a command, its decoder reads. -/
theorem parseCommandV1_of_holds (persisted : payload.message.persisted)
    (holds : Holds payload.table 48 bytes) : parseCommandV1 bytes = .ok payload := by
  obtain ⟨-, fields⟩ := holds
  obtain ⟨clientId, message⟩ := payload
  cases message with
  | newLimit order =>
    simp only [RawCommandWalPayload.table, RawCommand.body, RawCommand.type, List.map_cons, List.map_nil,
      ByteLayout.fields, List.cons.injEq] at fields
    have valid : validSide order.side = true := persisted
    simp [parseCommandV1, readByte, readU32, readU64, fields, valid]
  | loadSnapshot command =>
    simp only [RawCommandWalPayload.table, RawCommand.body, RawCommand.type, List.map_cons, List.map_nil,
      ByteLayout.fields, List.cons.injEq] at fields
    simp [parseCommandV1, readByte, readU64, fields]
  | saveSnapshot | shutdown =>
    simp only [RawCommandWalPayload.table, RawCommand.body, RawCommand.type, List.map_cons, List.map_nil,
      ByteLayout.fields, List.cons.injEq] at fields
    simp [parseCommandV1, readByte, readU64, fields]
  | none | startReplay | stopReplay | unknown => cases persisted

theorem RawCommand.type_eq_five {command : RawCommand} (five : command.type = 5) :
    command = .startReplay := by
  cases command with
  | startReplay => rfl
  | unknown tag outside =>
    have same : tag = 5 := five
    subst same
    exact absurd outside (by decide)
  | _ => cases five

theorem RawCommand.type_eq_six {command : RawCommand} (six : command.type = 6) :
    command = .stopReplay := by
  cases command with
  | stopReplay => rfl
  | unknown tag outside =>
    have same : tag = 6 := six
    subst same
    exact absurd outside (by decide)
  | _ => cases six

theorem commandV1_encodes : Encodes encodeCommandWalPayloadV1 RawCommandWalPayload.table
    (fun payload => payload.message.persisted) 48 :=
  ⟨RawCommandWalPayload.table_sum, fun _ _ fits => encodeCommandV1_cases fits⟩

/-- The fields in front of the body. -/
theorem Holds.commandHeader (holds : Holds payload.table 48 bytes) :
    readU64 bytes 0 = payload.clientId ∧ readByte bytes 8 = payload.message.type := by
  have fields := holds.fields
  simp only [RawCommandWalPayload.table, List.map_cons, ByteLayout.fields, List.cons.injEq] at fields
  simp [readByte, readU64, fields]

theorem parseCommandV1_names (bytes : List UInt8) : NamesFailure (parseCommandV1 bytes) := by
  have field : NamesFailure (.error .invalidField : Except _ RawCommandWalPayload) := names_error nofun
  have type : NamesFailure (.error .invalidType : Except _ RawCommandWalPayload) := names_error nofun
  unfold parseCommandV1
  apply names_ite (names_ite field (names_ok _))
  apply names_ite (names_ok _)
  apply names_ite (names_ok _)
  exact names_ite (names_ok _) type

theorem decodeCommandV1_iff {output : RawCommandWalPayload} (sized : bytes.length = 48) :
    decodeCommandWalPayloadV1 bytes output = (.ok, payload) ↔
      payload.message.persisted ∧ Holds payload.table 48 bytes := by
  have whole : ¬ bytes.length ≠ commandWalPayloadSize := not_not.mpr sized
  rw [decodeCommandWalPayloadV1, if_neg whole]
  constructor
  · intro accepted
    split at accepted
    · rename_i status failed
      exact absurd (congrArg Prod.fst accepted) (parseCommandV1_names bytes status failed)
    · exact ((commandV1_encodes.acceptCanonical_iff sized).mp accepted).2
  · rintro ⟨persisted, holds⟩
    rw [parseCommandV1_of_holds persisted holds]
    exact (commandV1_encodes.acceptCanonical_iff sized).mpr ⟨rfl, persisted, holds⟩

theorem commandV2_encodes : Encodes encodeCommandWalPayloadV2 RawCommandWalPayload.table
    (fun payload => payload.message.persistedV2) 48 := by
  refine ⟨RawCommandWalPayload.table_sum, fun payload buffer fits => ?_⟩
  have whole : ¬ buffer.length ≠ commandWalPayloadSize := not_not.mpr fits
  rw [encodeCommandWalPayloadV2, if_neg whole]
  by_cases old : payload.message.type ≠ 5 ∧ payload.message.type ≠ 6
  · have same : payload.message.persistedV2 = payload.message.persisted := by
      simp [RawCommand.persistedV2, old]
    rw [if_pos old, same]
    exact encodeCommandV1_cases fits
  · have kept : payload.message.persistedV2 = true := by
      simp only [RawCommand.persistedV2, Bool.or_eq_true, decide_eq_true_eq]
      rw [not_and_or, not_not, not_not] at old
      exact old.elim (fun five => .inl (.inr five)) .inr
    rw [if_neg old, if_pos kept]
    obtain ⟨length, client, type, rest⟩ := commandHeader_spec payload fits
    have body : payload.message.body = [(32, 0)] := by
      rw [not_and_or, not_not, not_not] at old
      rcases old with five | six
      · rw [RawCommand.type_eq_five five]
        rfl
      · rw [RawCommand.type_eq_six six]
        rfl
    refine ⟨_, rfl, length, ?_⟩
    simp [fields, RawCommandWalPayload.table, body, client, type, rest]

theorem decodeCommandV2_iff {output : RawCommandWalPayload} (sized : bytes.length = 48) :
    decodeCommandWalPayloadV2 bytes output = (.ok, payload) ↔
      payload.message.persistedV2 ∧ Holds payload.table 48 bytes := by
  have whole : ¬ bytes.length ≠ commandWalPayloadSize := not_not.mpr sized
  rw [decodeCommandWalPayloadV2, if_neg whole]
  dsimp only
  by_cases old : readByte bytes 8 ≠ 5 ∧ readByte bytes 8 ≠ 6
  · rw [if_pos old, decodeCommandV1_iff sized]
    refine and_congr_left fun holds => ?_
    rw [holds.commandHeader.2] at old
    simp [RawCommand.persistedV2, old]
  · rw [if_neg old, commandV2_encodes.acceptCanonical_iff sized]
    refine ⟨And.right, fun ⟨persisted, holds⟩ => ⟨?_, persisted, holds⟩⟩
    obtain ⟨client, type⟩ := holds.commandHeader
    rw [client, type]
    rw [type, not_and_or, not_not, not_not] at old
    obtain ⟨clientId, message⟩ := payload
    rcases old with five | six
    · obtain rfl := RawCommand.type_eq_five five
      rfl
    · obtain rfl := RawCommand.type_eq_six six
      rfl

theorem decodeCommandV1_unchanged (bytes : List UInt8) (output : RawCommandWalPayload)
    (failed : (decodeCommandWalPayloadV1 bytes output).1 ≠ .ok) :
    (decodeCommandWalPayloadV1 bytes output).2 = output := by
  unfold decodeCommandWalPayloadV1 at failed ⊢
  split_ifs at failed ⊢
  · rfl
  · split at failed
    · rfl
    · exact acceptCanonical_unchanged _ _ _ failed

theorem decodeCommandV2_unchanged (bytes : List UInt8) (output : RawCommandWalPayload)
    (failed : (decodeCommandWalPayloadV2 bytes output).1 ≠ .ok) :
    (decodeCommandWalPayloadV2 bytes output).2 = output := by
  unfold decodeCommandWalPayloadV2 at failed ⊢
  dsimp only at failed ⊢
  split_ifs at failed ⊢
  · rfl
  · exact decodeCommandV1_unchanged _ _ failed
  · exact acceptCanonical_unchanged _ _ _ failed
  · exact acceptCanonical_unchanged _ _ _ failed

end Commands

section Events
variable {payload : RawEventWalPayload} {bytes buffer : List UInt8}

theorem RawEventWalPayload.table_sum (payload : RawEventWalPayload) :
    (payload.table.map Prod.fst).sum = 64 := by
  obtain ⟨clientId, causedByCommandSequence, indexInCommand, isLastForCommand, message⟩ := payload
  cases message <;> rfl

/-- The header of an event, in front of zeros. -/
theorem eventHeader_spec (payload : RawEventWalPayload) (fits : buffer.length = 64) :
    (eventHeader payload buffer).length = 64 ∧
      get (eventHeader payload buffer) 0 8 = payload.clientId.toNat ∧
      get (eventHeader payload buffer) 8 8 = payload.causedByCommandSequence.toNat ∧
      get (eventHeader payload buffer) 16 4 = payload.indexInCommand.toNat ∧
      get (eventHeader payload buffer) 20 1 = payload.isLastForCommand.toNat ∧
      get (eventHeader payload buffer) 21 1 = payload.message.type.toNat ∧
      ∀ start count, 22 ≤ start → get (eventHeader payload buffer) start count = 0 := by
  have length : (List.replicate buffer.length (0 : UInt8)).length = 64 :=
    List.length_replicate.trans fits
  have zeros (start count : ℕ) : get (List.replicate buffer.length 0) start count = 0 := get_zeros
  have flag : (if payload.isLastForCommand = true then (1 : UInt8) else 0).toNat =
      payload.isLastForCommand.toNat := by
    cases payload.isLastForCommand <;> rfl
  unfold eventHeader
  generalize List.replicate buffer.length (0 : UInt8) = blank at *
  refine ⟨by simp [length], ?_, ?_, ?_, ?_, ?_, fun start count behind => ?_⟩
  · simp [length, get_writeByte_apart, get_writeU32_apart, get_writeU64_apart, get_writeU64]
  · simp [length, get_writeByte_apart, get_writeU32_apart, get_writeU64]
  · simp [length, get_writeByte_apart, get_writeU32]
  · rw [get_writeByte_apart _ (by simp [length]) (by omega), get_writeByte _ (by simp [length]), flag]
  · simp [length, get_writeByte]
  · rw [get_writeByte_apart _ (by simp [length]) (by omega),
      get_writeByte_apart _ (by simp [length]) (by omega),
      get_writeU32_apart _ (by simp [length]) (by omega),
      get_writeU64_apart _ (by simp [length]) (by omega),
      get_writeU64_apart _ (by simp [length]) (by omega), zeros]

/-- A persisted event is encoded as its table, any other is refused. -/
theorem encodeEventV1_cases (fits : buffer.length = 64) :
    if payload.message.persisted then
      ∃ encoded, encodeEventWalPayloadV1 payload buffer = (.ok, encoded) ∧
        Holds payload.table 64 encoded
    else (encodeEventWalPayloadV1 payload buffer).1 ≠ .ok := by
  have sized : ¬ buffer.length ≠ eventWalPayloadSize := not_not.mpr fits
  obtain ⟨length, client, caused, index, last, type, rest⟩ := eventHeader_spec payload fits
  rw [encodeEventWalPayloadV1, if_neg sized]
  obtain ⟨clientId, causedByCommandSequence, indexInCommand, isLastForCommand, message⟩ := payload
  generalize eventHeader ⟨clientId, causedByCommandSequence, indexInCommand, isLastForCommand,
    message⟩ buffer = header at *
  cases message with
  | accepted id | done id =>
    refine ⟨_, rfl, by simp [length], ?_⟩
    simp [fields, RawEventWalPayload.table, RawEvent.body, length, client, caused, index, last, type,
      rest, get_writeU64, get_writeU64_apart]
  | rejected id reason =>
    by_cases valid : validRejectReason reason
    · simp only [RawEvent.persisted, valid, if_true, Bool.not_true, Bool.false_eq_true, if_false]
      refine ⟨_, rfl, by simp [length], ?_⟩
      simp [fields, RawEventWalPayload.table, RawEvent.body, length, client, caused, index, last,
        type, rest, get_writeByte, get_writeU64, get_writeByte_apart, get_writeU64_apart]
    · simp [RawEvent.persisted, valid]
  | trade executed =>
    refine ⟨_, rfl, by simp [length], ?_⟩
    simp [fields, RawEventWalPayload.table, RawEvent.body, length, client, caused, index, last, type,
      rest, get_writeU32, get_writeU64, get_writeU32_apart, get_writeU64_apart]
  | rested order =>
    by_cases valid : validSide order.side
    · simp only [RawEvent.persisted, valid, if_true, Bool.not_true, Bool.false_eq_true, if_false]
      refine ⟨_, rfl, by simp [length], ?_⟩
      simp [fields, RawEventWalPayload.table, RawEvent.body, length, client, caused, index, last,
        type, rest, get_writeByte, get_writeU32, get_writeU64, get_writeByte_apart,
        get_writeU32_apart, get_writeU64_apart]
    · simp [RawEvent.persisted, valid]
  | loadSnapshot saveSnapshotCommandSequence snapshotEpochId =>
    refine ⟨_, rfl, by simp [length], ?_⟩
    simp [fields, RawEventWalPayload.table, RawEvent.body, length, client, caused, index, last, type,
      rest, get_writeU64, get_writeU64_apart]
  | fatal reason offendingOrderId lastOrderId =>
    by_cases valid : validFatalReason reason
    · simp only [RawEvent.persisted, valid, if_true, Bool.not_true, Bool.false_eq_true, if_false]
      refine ⟨_, rfl, by simp [length], ?_⟩
      simp [fields, RawEventWalPayload.table, RawEvent.body, length, client, caused, index, last,
        type, rest, get_writeByte, get_writeU64, get_writeByte_apart, get_writeU64_apart]
    · simp [RawEvent.persisted, valid]
  | saveSnapshot | shutdown =>
    exact ⟨_, rfl, length, by
      simp [fields, RawEventWalPayload.table, RawEvent.body, client, caused, index, last, type, rest]⟩
  | none | startReplay | stopReplay | unknown => exact PayloadCodecStatus.noConfusion

/-- The fields in front of the body. -/
theorem Holds.eventHeader (holds : Holds payload.table 64 bytes) (message : RawEvent) :
    eventWith bytes message = { payload with message } ∧ readByte bytes 21 = payload.message.type ∧
      ¬ readByte bytes 20 > 1 := by
  have fields := holds.fields
  simp only [RawEventWalPayload.table, List.map_cons, ByteLayout.fields, List.cons.injEq] at fields
  obtain ⟨clientId, causedByCommandSequence, indexInCommand, isLastForCommand, held⟩ := payload
  cases isLastForCommand with
  | false => simp [eventWith, readByte, readU32, readU64, fields]
  | true => simp [eventWith, readByte, readU32, readU64, fields]

/-- What bytes hold of an event, its decoder reads. -/
theorem parseEventV1_of_holds (persisted : payload.message.persisted)
    (holds : Holds payload.table 64 bytes) : parseEventV1 bytes = .ok payload := by
  have header (message : RawEvent) := (holds.eventHeader message).1
  obtain ⟨-, type, flag⟩ := holds.eventHeader .none
  have fields := holds.fields
  obtain ⟨clientId, causedByCommandSequence, indexInCommand, isLastForCommand, message⟩ := payload
  rw [parseEventV1, if_neg flag]
  simp only [type, header]
  cases message with
  | accepted id | done id | trade executed | loadSnapshot =>
    simp only [RawEventWalPayload.table, RawEvent.body, List.map_cons, List.map_nil,
      ByteLayout.fields, List.cons.injEq] at fields
    simp [RawEvent.type, readU32, readU64, fields]
  | rejected id reason =>
    simp only [RawEventWalPayload.table, RawEvent.body, List.map_cons, List.map_nil,
      ByteLayout.fields, List.cons.injEq] at fields
    have valid : validRejectReason reason = true := persisted
    simp [RawEvent.type, readByte, readU64, fields, valid]
  | rested order =>
    simp only [RawEventWalPayload.table, RawEvent.body, List.map_cons, List.map_nil,
      ByteLayout.fields, List.cons.injEq] at fields
    have valid : validSide order.side = true := persisted
    simp [RawEvent.type, readByte, readU32, readU64, fields, valid]
  | fatal reason offendingOrderId lastOrderId =>
    simp only [RawEventWalPayload.table, RawEvent.body, List.map_cons, List.map_nil,
      ByteLayout.fields, List.cons.injEq] at fields
    have valid : validFatalReason reason = true := persisted
    simp [RawEvent.type, readByte, readU64, fields, valid]
  | saveSnapshot | shutdown => simp [RawEvent.type]
  | none | startReplay | stopReplay | unknown => cases persisted

theorem RawEvent.type_eq_ten {event : RawEvent} (ten : event.type = 10) : event = .startReplay := by
  cases event with
  | startReplay => rfl
  | unknown tag outside =>
    have same : tag = 10 := ten
    subst same
    exact absurd outside (by decide)
  | _ => cases ten

theorem RawEvent.type_eq_eleven {event : RawEvent} (eleven : event.type = 11) :
    event = .stopReplay := by
  cases event with
  | stopReplay => rfl
  | unknown tag outside =>
    have same : tag = 11 := eleven
    subst same
    exact absurd outside (by decide)
  | _ => cases eleven

theorem eventV1_encodes : Encodes encodeEventWalPayloadV1 RawEventWalPayload.table
    (fun payload => payload.message.persisted) 64 :=
  ⟨RawEventWalPayload.table_sum, fun _ _ fits => encodeEventV1_cases fits⟩

theorem parseEventV1_names (bytes : List UInt8) : NamesFailure (parseEventV1 bytes) := by
  have field : NamesFailure (.error .invalidField : Except _ RawEventWalPayload) := names_error nofun
  have type : NamesFailure (.error .invalidType : Except _ RawEventWalPayload) := names_error nofun
  unfold parseEventV1
  apply names_ite field
  apply names_ite (names_ok _)
  apply names_ite (names_ite field (names_ok _))
  apply names_ite (names_ok _)
  apply names_ite (names_ite field (names_ok _))
  apply names_ite (names_ok _)
  apply names_ite (names_ok _)
  apply names_ite (names_ok _)
  apply names_ite (names_ok _)
  exact names_ite (names_ite field (names_ok _)) type

theorem decodeEventV1_iff {output : RawEventWalPayload} (sized : bytes.length = 64) :
    decodeEventWalPayloadV1 bytes output = (.ok, payload) ↔
      payload.message.persisted ∧ Holds payload.table 64 bytes := by
  have whole : ¬ bytes.length ≠ eventWalPayloadSize := not_not.mpr sized
  rw [decodeEventWalPayloadV1, if_neg whole]
  constructor
  · intro accepted
    split at accepted
    · rename_i status failed
      exact absurd (congrArg Prod.fst accepted) (parseEventV1_names bytes status failed)
    · exact ((eventV1_encodes.acceptCanonical_iff sized).mp accepted).2
  · rintro ⟨persisted, holds⟩
    rw [parseEventV1_of_holds persisted holds]
    exact (eventV1_encodes.acceptCanonical_iff sized).mpr ⟨rfl, persisted, holds⟩

theorem eventV2_encodes : Encodes encodeEventWalPayloadV2 RawEventWalPayload.table
    (fun payload => payload.message.persistedV2) 64 := by
  refine ⟨RawEventWalPayload.table_sum, fun payload buffer fits => ?_⟩
  have whole : ¬ buffer.length ≠ eventWalPayloadSize := not_not.mpr fits
  rw [encodeEventWalPayloadV2, if_neg whole]
  by_cases old : payload.message.type ≠ 10 ∧ payload.message.type ≠ 11
  · have same : payload.message.persistedV2 = payload.message.persisted := by
      simp [RawEvent.persistedV2, old]
    rw [if_pos old, same]
    exact encodeEventV1_cases fits
  · have added : payload.message.type = 10 ∨ payload.message.type = 11 := by
      rwa [not_and_or, not_not, not_not] at old
    have kept : payload.message.persistedV2 = true := by
      simp only [RawEvent.persistedV2, Bool.or_eq_true, decide_eq_true_eq]
      exact added.elim (fun ten => .inl (.inr ten)) .inr
    have body : payload.message.body = [(40, 0)] := by
      rcases added with ten | eleven
      · rw [RawEvent.type_eq_ten ten]
        rfl
      · rw [RawEvent.type_eq_eleven eleven]
        rfl
    obtain ⟨length, client, caused, index, last, type, rest⟩ := eventHeader_spec payload fits
    rw [if_neg old, if_pos kept]
    refine ⟨_, rfl, length, ?_⟩
    simp [fields, RawEventWalPayload.table, body, client, caused, index, last, type, rest]

theorem decodeEventV2_iff {output : RawEventWalPayload} (sized : bytes.length = 64) :
    decodeEventWalPayloadV2 bytes output = (.ok, payload) ↔
      payload.message.persistedV2 ∧ Holds payload.table 64 bytes := by
  have whole : ¬ bytes.length ≠ eventWalPayloadSize := not_not.mpr sized
  rw [decodeEventWalPayloadV2, if_neg whole]
  by_cases flag : readByte bytes 20 > 1
  · rw [if_pos flag]
    refine ⟨fun same => (by cases congrArg Prod.fst same), fun ⟨_, holds⟩ => ?_⟩
    exact absurd flag (holds.eventHeader .none).2.2
  rw [if_neg flag]
  dsimp only
  by_cases old : readByte bytes 21 ≠ 10 ∧ readByte bytes 21 ≠ 11
  · rw [if_pos old, decodeEventV1_iff sized]
    refine and_congr_left fun holds => ?_
    rw [(holds.eventHeader .none).2.1] at old
    simp [RawEvent.persistedV2, old]
  · rw [if_neg old, eventV2_encodes.acceptCanonical_iff sized]
    refine ⟨And.right, fun ⟨persisted, holds⟩ => ⟨?_, persisted, holds⟩⟩
    obtain ⟨header, type, -⟩ := holds.eventHeader
      (if readByte bytes 21 = 10 then .startReplay else .stopReplay)
    rw [header, type]
    rw [type, not_and_or, not_not, not_not] at old
    obtain ⟨clientId, causedByCommandSequence, indexInCommand, isLastForCommand, message⟩ := payload
    rcases old with ten | eleven
    · obtain rfl := RawEvent.type_eq_ten ten
      rfl
    · obtain rfl := RawEvent.type_eq_eleven eleven
      rfl

theorem decodeEventV1_unchanged (bytes : List UInt8) (output : RawEventWalPayload)
    (failed : (decodeEventWalPayloadV1 bytes output).1 ≠ .ok) :
    (decodeEventWalPayloadV1 bytes output).2 = output := by
  unfold decodeEventWalPayloadV1 at failed ⊢
  split_ifs at failed ⊢
  · rfl
  · split at failed
    · rfl
    · exact acceptCanonical_unchanged _ _ _ failed

theorem decodeEventV2_unchanged (bytes : List UInt8) (output : RawEventWalPayload)
    (failed : (decodeEventWalPayloadV2 bytes output).1 ≠ .ok) :
    (decodeEventWalPayloadV2 bytes output).2 = output := by
  unfold decodeEventWalPayloadV2 at failed ⊢
  dsimp only at failed ⊢
  split_ifs at failed ⊢
  · rfl
  · rfl
  · exact decodeEventV1_unchanged _ _ failed
  · exact acceptCanonical_unchanged _ _ _ failed
  · exact acceptCanonical_unchanged _ _ _ failed

end Events

/-- All four codecs are canonical. -/
theorem codecs_canonical :
    CanonicalCodec encodeCommandWalPayloadV1 decodeCommandWalPayloadV1
      (fun payload => payload.message.persisted) commandWalPayloadSize ∧
    CanonicalCodec encodeCommandWalPayloadV2 decodeCommandWalPayloadV2
      (fun payload => payload.message.persistedV2) commandWalPayloadSize ∧
    CanonicalCodec encodeEventWalPayloadV1 decodeEventWalPayloadV1
      (fun payload => payload.message.persisted) eventWalPayloadSize ∧
    CanonicalCodec encodeEventWalPayloadV2 decodeEventWalPayloadV2
      (fun payload => payload.message.persistedV2) eventWalPayloadSize := by
  refine ⟨?_, ?_, ?_, ?_⟩
  · exact commandV1_encodes.canonical (fun _ _ _ sized => decodeCommandV1_iff sized)
      decodeCommandV1_unchanged
  · exact commandV2_encodes.canonical (fun _ _ _ sized => decodeCommandV2_iff sized)
      decodeCommandV2_unchanged
  · exact eventV1_encodes.canonical (fun _ _ _ sized => decodeEventV1_iff sized)
      decodeEventV1_unchanged
  · exact eventV2_encodes.canonical (fun _ _ _ sized => decodeEventV2_iff sized)
      decodeEventV2_unchanged

end Fexma

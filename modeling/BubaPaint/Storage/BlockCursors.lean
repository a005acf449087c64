import BubaPaint.Library.Cursors
import BubaPaint.Library.Traversals
import BubaPaint.Storage.ClobReplayBlocks

/-!
# Reading replay blocks at an offset

The decoder of a replay block keeps an offset into the payload and slices the payload at each read.
Every one of its reads follows the reader of the same name, which takes bytes off the front; so a
payload decodes as a whole or not at all.

Main results:

- Theorem `payload_decodes_whole`: a payload decodes as a whole or not at all.
-/

namespace BubaPaint

open Bytes

abbrev PayloadCursor := Cursor String

namespace PayloadCursor

section Reads

variable (bytes : List UInt8)

def readBytes (count : ℕ) : PayloadCursor (List UInt8) :=
  readSlice bytes "CLOB replay block offset overflow" truncatedPayload count

def readArray (width : ℕ) : PayloadCursor ℕ := do
  let word ← readBytes bytes width
  return ofLeBytes word

def readU8 : PayloadCursor ℕ :=
  readArray bytes 1

def readU32 : PayloadCursor ℕ :=
  readArray bytes 4

def readU64 : PayloadCursor UInt64 := do
  let value ← readArray bytes 8
  return UInt64.ofNat value

def readOptionalU64 : PayloadCursor (Option UInt64) := do
  let value ← readU64 bytes
  return if value = noneU64 then none else some value

def readString : PayloadCursor String := do
  let length ← readU32 bytes
  let read ← readBytes bytes length
  match String.fromUTF8? ⟨read.toArray⟩ with
  | some value => return value
  | none => report "reading UTF-8 dictionary value"

def readDictionary : PayloadCursor (List String) := do
  let count ← readU32 bytes
  readTimes count (readString bytes)

def readFrom : PayloadCursor Dictionaries := do
  let sourceTopics ← readDictionary bytes
  let connectionIds ← readDictionary bytes
  let sequenceKeys ← readDictionary bytes
  let marketIds ← readDictionary bytes
  let assetIds ← readDictionary bytes
  return { sourceTopics, connectionIds, sequenceKeys, marketIds, assetIds }

def readDictionaryValue (dictionary : List String) : PayloadCursor (Option String) := do
  let code ← readU32 bytes
  if code = noneU32 then return none
  else
    match dictionary[code]? with
    | some value => return some value
    | none => report s!"dictionary code out of range: {code}"

def expectMagic : PayloadCursor Unit := do
  let read ← readBytes bytes clobReplayBlockMagic.length
  if read = clobReplayBlockMagic then return ()
  else report "invalid CLOB replay block magic"

variable {F : Type} [Bits64 F]

def readF64 : PayloadCursor F := do
  let value ← readU64 bytes
  return Bits64.ofBits value

def readOptionalF64 : PayloadCursor (Option F) := do
  let flag ← readU8 bytes
  if flag = 0 then return none
  else if flag = 1 then
    let value ← readF64 bytes
    return some value
  else report s!"invalid optional f64 presence flag: {flag}"

/-- Read one CLOB event from a payload. -/
def readEvent (dictionaries : Dictionaries) : PayloadCursor (DecodedClobReplayEvent F) := do
  let receivedAtMs ← readU64 bytes
  let eventAtMs ← readU64 bytes
  let receivedAtUs ← readOptionalU64 bytes
  let eventAtUs ← readOptionalU64 bytes
  let source ← reportError (sourceFromSideCode (← readU8 bytes))
  let eventType ← reportError (eventTypeFromCode (← readU8 bytes))
  let sourceTopic ← readDictionaryValue bytes dictionaries.sourceTopics
  let connectionId ← readDictionaryValue bytes dictionaries.connectionIds
  let sequenceKey ← readDictionaryValue bytes dictionaries.sequenceKeys
  let marketId ← readDictionaryValue bytes dictionaries.marketIds
  let assetId ← readDictionaryValue bytes dictionaries.assetIds
  let bestBid ← readF64 bytes
  let bestAsk ← readF64 bytes
  let bidSize ← readF64 bytes
  let askSize ← readF64 bytes
  let microprice ← readOptionalF64 bytes
  let fidelity ← reportError (fidelityFromCode (← readU8 bytes))
  return {
    receivedAtMs, eventAtMs, receivedAtUs, eventAtUs, source, eventType, sourceTopic, connectionId,
    sequenceKey, marketId, assetId, bestBid, bestAsk, bidSize, askSize, microprice, fidelity }

def readPayload : PayloadCursor (List (DecodedClobReplayEvent F)) := do
  expectMagic bytes
  let schemaVersion ← readU32 bytes
  if schemaVersion = clobReplayBlockSchemaVersion then
    let dictionaries ← readFrom bytes
    let rowCount ← readU32 bytes
    readTimes rowCount (readEvent bytes dictionaries)
  else report s!"unsupported CLOB replay block schema version: {schemaVersion}"

/-- Decode the payload of one block, after decompression; the offset is where reading stopped. -/
def decodeRows : Except (Fault String) (List (DecodedClobReplayEvent F) × ℕ) :=
  (readWhole bytes "CLOB replay block has trailing bytes" (readPayload bytes)).run 0

end Reads

def decodePayload {F : Type} [Bits64 F] (decompress : List UInt8 → Except String (List UInt8))
    (crc32 : List UInt8 → UInt32) (compressedPayload : List UInt8) (expectedChecksum : String) :
    Except (Fault String) (List (DecodedClobReplayEvent F)) := do
  let payload ← (decompress compressedPayload).mapError .reported
  let actualChecksum := checksumText (crc32 payload)
  if actualChecksum = expectedChecksum then
    let (rows, _) ← decodeRows payload
    return rows
  else throw (.reported (s!"CLOB replay block checksum mismatch: expected {expectedChecksum}, " ++
    s!"got {actualChecksum}"))

end PayloadCursor

/-! ## The decoder follows the readers -/

section Follows

variable {bytes : List UInt8}

theorem follows_readArray (width : ℕ) :
    Follows bytes (PayloadCursor.readArray bytes width) (readLe truncatedPayload width) :=
  (follows_readSlice _ _ _).bind fun word => follows_pure (ofLeBytes word)

theorem follows_readU8 : Follows bytes (PayloadCursor.readU8 bytes) readU8 :=
  follows_readArray 1

theorem follows_readU32 : Follows bytes (PayloadCursor.readU32 bytes) readU32 :=
  follows_readArray 4

theorem follows_readU64 : Follows bytes (PayloadCursor.readU64 bytes) readU64 :=
  (follows_readArray 8).bind fun value => follows_pure (UInt64.ofNat value)

theorem follows_readOptionalU64 :
    Follows bytes (PayloadCursor.readOptionalU64 bytes) readOptionalU64 :=
  follows_readU64.bind fun value => follows_pure (if value = noneU64 then none else some value)

theorem follows_readString : Follows bytes (PayloadCursor.readString bytes) readString := by
  refine follows_readU32.bind fun length => ?_
  refine (follows_readSlice _ _ length).bind fun read => ?_
  cases String.fromUTF8? ⟨read.toArray⟩ with
  | some value => exact follows_pure value
  | none => exact follows_report _

theorem follows_readDictionary :
    Follows bytes (PayloadCursor.readDictionary bytes) readDictionary :=
  follows_readU32.bind fun count => follows_readTimes follows_readString count

theorem follows_readFrom : Follows bytes (PayloadCursor.readFrom bytes) Dictionaries.readFrom := by
  refine follows_readDictionary.bind fun sourceTopics => ?_
  refine follows_readDictionary.bind fun connectionIds => ?_
  refine follows_readDictionary.bind fun sequenceKeys => ?_
  refine follows_readDictionary.bind fun marketIds => ?_
  refine follows_readDictionary.bind fun assetIds => ?_
  exact follows_pure _

theorem follows_readDictionaryValue (dictionary : List String) :
    Follows bytes (PayloadCursor.readDictionaryValue bytes dictionary)
      (readDictionaryValue dictionary) := by
  refine follows_readU32.bind fun code => ?_
  apply Follows.ite
  · exact follows_pure none
  · cases dictionary[code]? with
    | some value => exact follows_pure (some value)
    | none => exact follows_report _

theorem follows_expectMagic : Follows bytes (PayloadCursor.expectMagic bytes) expectMagic := by
  refine (follows_readSlice _ _ _).bind fun read => ?_
  apply Follows.ite
  · exact follows_pure ()
  · exact follows_report _

variable {F : Type} [Bits64 F]

theorem follows_readF64 : Follows bytes (PayloadCursor.readF64 bytes : PayloadCursor F) readF64 :=
  follows_readU64.bind fun value => follows_pure (Bits64.ofBits value)

theorem follows_readOptionalF64 :
    Follows bytes (PayloadCursor.readOptionalF64 bytes : PayloadCursor (Option F))
      readOptionalF64 := by
  refine follows_readU8.bind fun flag => ?_
  apply Follows.ite
  · exact follows_pure none
  · apply Follows.ite
    · exact follows_readF64.bind fun value => follows_pure (some value)
    · exact follows_report _

theorem follows_readEvent (dictionaries : Dictionaries) :
    Follows bytes (PayloadCursor.readEvent bytes dictionaries)
      (readEvent (F := F) dictionaries) := by
  refine follows_readU64.bind fun receivedAtMs => ?_
  refine follows_readU64.bind fun eventAtMs => ?_
  refine follows_readOptionalU64.bind fun receivedAtUs => ?_
  refine follows_readOptionalU64.bind fun eventAtUs => ?_
  refine follows_readU8.bind fun side => ?_
  refine (follows_reportError (sourceFromSideCode side)).bind fun source => ?_
  refine follows_readU8.bind fun type => ?_
  refine (follows_reportError (eventTypeFromCode type)).bind fun eventType => ?_
  refine (follows_readDictionaryValue dictionaries.sourceTopics).bind fun sourceTopic => ?_
  refine (follows_readDictionaryValue dictionaries.connectionIds).bind fun connectionId => ?_
  refine (follows_readDictionaryValue dictionaries.sequenceKeys).bind fun sequenceKey => ?_
  refine (follows_readDictionaryValue dictionaries.marketIds).bind fun marketId => ?_
  refine (follows_readDictionaryValue dictionaries.assetIds).bind fun assetId => ?_
  refine follows_readF64.bind fun bestBid => ?_
  refine follows_readF64.bind fun bestAsk => ?_
  refine follows_readF64.bind fun bidSize => ?_
  refine follows_readF64.bind fun askSize => ?_
  refine follows_readOptionalF64.bind fun microprice => ?_
  refine follows_readU8.bind fun code => ?_
  refine (follows_reportError (fidelityFromCode code)).bind fun fidelity => ?_
  exact follows_pure _

/-- The decoder reads what the reader of payloads reads. -/
theorem follows_readPayload :
    Follows bytes (PayloadCursor.readPayload bytes)
      (readPayload : PayloadReader (List (DecodedClobReplayEvent F))) := by
  refine follows_expectMagic.bind fun _ => ?_
  refine follows_readU32.bind fun schemaVersion => ?_
  apply Follows.ite
  · refine follows_readFrom.bind fun dictionaries => ?_
    refine follows_readU32.bind fun rowCount => ?_
    exact follows_readTimes (follows_readEvent dictionaries) rowCount
  · exact follows_report _

end Follows

section Whole

variable {F : Type} [Bits64 F]

theorem decodeRows_cases (bytes : List UInt8) :
    (∃ rows, PayloadCursor.decodeRows (F := F) bytes = .ok (rows, bytes.length)) ∨
      ∃ error, PayloadCursor.decodeRows (F := F) bytes = .error (.reported error) :=
  follows_readPayload.run_readWhole_cases _

theorem eq_of_decodeRows_eq_ok {events : List (FeedEvent F)} {payload altered : List UInt8}
    (hencode : encodePayload events = .ok payload)
    (haltered : altered <+: payload ∨ payload <+: altered)
    {rows : List (DecodedClobReplayEvent F)} {stop : ℕ}
    (hdecode : PayloadCursor.decodeRows altered = .ok (rows, stop)) : altered = payload := by
  rcases reads_readPayload hencode with ⟨own, -, hreads⟩
  exact follows_readPayload.eq_of_reads hreads haltered hdecode

theorem decodePayload_eq_error {decompress : List UInt8 → Except String (List UInt8)}
    {crc32 : List UInt8 → UInt32} {stored payload : List UInt8} {error : String}
    (hstored : decompress stored = .ok payload)
    (hrows : PayloadCursor.decodeRows (F := F) payload = .error (.reported error)) :
    PayloadCursor.decodePayload (F := F) decompress crc32 stored (checksumText (crc32 payload)) =
      .error (.reported error) := by
  unfold PayloadCursor.decodePayload
  rw [hstored]
  simp [Except.mapError, bind, Except.bind, hrows]

end Whole

end BubaPaint

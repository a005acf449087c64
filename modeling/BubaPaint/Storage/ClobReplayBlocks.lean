import BubaPaint.Feeds.Events
import BubaPaint.Library.Bytes
import BubaPaint.Library.Program
import Mathlib.Data.List.Sort
import Mathlib.Data.String.Basic

/-!
# CLOB replay blocks

The binary format of compressed CLOB rows: a magic, a schema version, five dictionaries of strings,
a row count and the rows. Optional timestamps and dictionary codes reserve the largest word for an
absent value; an optional number has a presence flag.

Main results:

- Definitions `encodeEvents`, `decodePayload`: the codec
- Theorem `reads_event`: a written row is read back
- Theorem `replay_block_round_trips`: a written payload is read back
- Theorem `decodePayload_encodeEvents_asStored`: the same through compression and checksum
-/

namespace BubaPaint

open Bytes
open Effects (ok_of_bind)

/-- A number type with an exact image in 64 bits. -/
class Bits64 (F : Type) where
  toBits : F → UInt64
  ofBits : UInt64 → F
  ofBits_toBits : ∀ x, ofBits (toBits x) = x

instance : Bits64 UInt64 where
  toBits := id
  ofBits := id
  ofBits_toBits := fun _ => rfl

/-- One decoded CLOB replay row from a compressed block. -/
structure DecodedClobReplayEvent (F : Type) where
  receivedAtMs : UInt64
  eventAtMs : UInt64
  receivedAtUs : Option UInt64
  eventAtUs : Option UInt64
  source : String
  eventType : String
  sourceTopic : Option String
  connectionId : Option String
  sequenceKey : Option String
  marketId : Option String
  assetId : Option String
  bestBid : F
  bestAsk : F
  bidSize : F
  askSize : F
  microprice : Option F
  fidelity : ReplayFidelity
  deriving DecidableEq

/-- The dictionaries of one block. -/
structure Dictionaries where
  sourceTopics : List String
  connectionIds : List String
  sequenceKeys : List String
  marketIds : List String
  assetIds : List String
  deriving DecidableEq

def collectDictionary (values : List String) : List String :=
  values.dedup.insertionSort fun a b => a ≤ b

def Dictionaries.fromEvents {F : Type} (events : List (FeedEvent F)) : Dictionaries where
  sourceTopics := collectDictionary (events.filterMap FeedEvent.sourceTopic)
  connectionIds := collectDictionary (events.filterMap FeedEvent.connectionId)
  sequenceKeys := collectDictionary (events.filterMap FeedEvent.sequenceKey)
  marketIds := collectDictionary (events.filterMap FeedEvent.marketId)
  assetIds := collectDictionary (events.filterMap FeedEvent.assetId)

def clobReplayBlockSchemaVersion : ℕ := 1

/-- The first bytes of a payload. -/
def clobReplayBlockMagic : List UInt8 :=
  [66, 67, 82, 66, 48, 48, 48, 49]

/-- The code of an absent dictionary value. -/
def noneU32 : ℕ := 2 ^ 32 - 1

/-- The word of an absent timestamp. -/
def noneU64 : UInt64 := 18446744073709551615

def sideCode (source : String) : Except String ℕ :=
  if source = "clob_up" then .ok 1
  else if source = "clob_down" then .ok 2
  else .error s!"unsupported CLOB source for block storage: {source}"

def sourceFromSideCode (code : ℕ) : Except String String :=
  if code = 1 then .ok "clob_up"
  else if code = 2 then .ok "clob_down"
  else .error s!"unsupported CLOB side code: {code}"

def eventTypeCode (eventType : String) : Except String ℕ :=
  if eventType = "book" then .ok 1
  else if eventType = "price_change" then .ok 2
  else if eventType = "best_bid_ask" then .ok 3
  else .error s!"unsupported CLOB event type for block storage: {eventType}"

def eventTypeFromCode (code : ℕ) : Except String String :=
  if code = 1 then .ok "book"
  else if code = 2 then .ok "price_change"
  else if code = 3 then .ok "best_bid_ask"
  else .error s!"unsupported CLOB event type code: {code}"

def fidelityCode : ReplayFidelity → ℕ
  | .rawEvent => 1
  | .legacySnapshot => 2

def fidelityFromCode (code : ℕ) : Except String ReplayFidelity :=
  if code = 1 then .ok .rawEvent
  else if code = 2 then .ok .legacySnapshot
  else .error s!"unsupported replay fidelity code: {code}"

theorem sourceFromSideCode_of_sideCode {source : String} {code : ℕ}
    (h : sideCode source = .ok code) : code < 256 ^ 1 ∧ sourceFromSideCode code = .ok source := by
  unfold sideCode at h
  split at h
  · rename_i hup
    simp only [Except.ok.injEq] at h
    subst h hup
    decide
  · split at h
    · rename_i hdown
      simp only [Except.ok.injEq] at h
      subst h hdown
      decide
    · contradiction

theorem eventTypeFromCode_of_eventTypeCode {eventType : String} {code : ℕ}
    (h : eventTypeCode eventType = .ok code) :
    code < 256 ^ 1 ∧ eventTypeFromCode code = .ok eventType := by
  unfold eventTypeCode at h
  split at h
  · rename_i hbook
    simp only [Except.ok.injEq] at h
    subst h hbook
    decide
  · split at h
    · rename_i hchange
      simp only [Except.ok.injEq] at h
      subst h hchange
      decide
    · split at h
      · rename_i hquote
        simp only [Except.ok.injEq] at h
        subst h hquote
        decide
      · contradiction

theorem fidelityFromCode_fidelityCode (fidelity : ReplayFidelity) :
    fidelityCode fidelity < 256 ^ 1 ∧ fidelityFromCode (fidelityCode fidelity) = .ok fidelity := by
  cases fidelity <;> decide

/-! ## Writing -/

def u32Len (len : ℕ) (label : String) : Except String ℕ :=
  if len < 2 ^ 32 then .ok len else .error s!"{label} does not fit in u32"

def writeU8 (value : ℕ) : List UInt8 :=
  leBytes 1 value

def writeU32 (value : ℕ) : List UInt8 :=
  leBytes 4 value

def writeU64 (value : UInt64) : List UInt8 :=
  leBytes 8 value.toNat

def writeOptionalU64 (value : Option UInt64) : List UInt8 :=
  writeU64 (value.getD noneU64)

def stringBytes (value : String) : List UInt8 :=
  value.toUTF8.data.toList

def writeString (value : String) : Except String (List UInt8) := do
  let bytes := stringBytes value
  let length ← u32Len bytes.length "string length"
  return writeU32 length ++ bytes

def writeDictionary (values : List String) : Except String (List UInt8) := do
  let length ← u32Len values.length "dictionary length"
  let bytes ← writeAll writeString values
  return writeU32 length ++ bytes

def writeDictionaries (dictionaries : Dictionaries) : Except String (List UInt8) := do
  let sourceTopics ← writeDictionary dictionaries.sourceTopics
  let connectionIds ← writeDictionary dictionaries.connectionIds
  let sequenceKeys ← writeDictionary dictionaries.sequenceKeys
  let marketIds ← writeDictionary dictionaries.marketIds
  let assetIds ← writeDictionary dictionaries.assetIds
  return sourceTopics ++ (connectionIds ++ (sequenceKeys ++ (marketIds ++ assetIds)))

/-- Build one dictionary lookup. Of equal values the last code counts. -/
def dictionaryLookup (dictionary : List String) : List (String × ℕ) :=
  (dictionary.zipIdx.filter fun entry => decide (entry.2 < 2 ^ 32)).reverse

def writeDictionaryCode (dictionary : List String) (value : Option String) :
    Except String (List UInt8) :=
  match value with
  | none => .ok (writeU32 noneU32)
  | some value =>
    match (dictionaryLookup dictionary).lookup value with
    | none => .error s!"dictionary value was not collected: {value}"
    | some code => .ok (writeU32 code)

section Numbers

variable {F : Type} [Bits64 F]

def requiredF64 (value : Option F) (field : String) : Except String F :=
  match value with
  | some value => .ok value
  | none => .error s!"blockable CLOB event missing {field}"

def writeF64 (value : F) : List UInt8 :=
  writeU64 (Bits64.toBits value)

def writeOptionalF64 (value : Option F) : List UInt8 :=
  match value with
  | some value => writeU8 1 ++ writeF64 value
  | none => writeU8 0

/-- Write one CLOB event to a payload. -/
def writeEvent (dictionaries : Dictionaries) (event : FeedEvent F) :
    Except String (List UInt8) := do
  let side ← sideCode event.source
  let bestBid ← requiredF64 event.bestBid "best_bid"
  let bestAsk ← requiredF64 event.bestAsk "best_ask"
  let bidSize ← requiredF64 event.bidSize "bid_size"
  let askSize ← requiredF64 event.askSize "ask_size"
  let eventType ← eventTypeCode event.eventType
  let sourceTopic ← writeDictionaryCode dictionaries.sourceTopics event.sourceTopic
  let connectionId ← writeDictionaryCode dictionaries.connectionIds event.connectionId
  let sequenceKey ← writeDictionaryCode dictionaries.sequenceKeys event.sequenceKey
  let marketId ← writeDictionaryCode dictionaries.marketIds event.marketId
  let assetId ← writeDictionaryCode dictionaries.assetIds event.assetId
  return writeU64 event.receivedAtMs ++ (writeU64 event.eventAtMs ++
    (writeOptionalU64 event.receivedAtUs ++ (writeOptionalU64 event.eventAtUs ++
    (writeU8 side ++ (writeU8 eventType ++
    (sourceTopic ++ (connectionId ++ (sequenceKey ++ (marketId ++ (assetId ++
    (writeF64 bestBid ++ (writeF64 bestAsk ++ (writeF64 bidSize ++ (writeF64 askSize ++
    (writeOptionalF64 event.microprice ++ writeU8 (fidelityCode event.fidelity))))))))))))))))

def encodePayload (events : List (FeedEvent F)) : Except String (List UInt8) :=
  if events.isEmpty then .error "cannot encode empty CLOB replay block"
  else do
    let dictionaries := Dictionaries.fromEvents events
    let header ← writeDictionaries dictionaries
    let rowCount ← u32Len events.length "row count"
    let rows ← writeAll (writeEvent dictionaries) events
    return clobReplayBlockMagic ++ (writeU32 clobReplayBlockSchemaVersion ++ (header ++
      (writeU32 rowCount ++ rows)))

/-! ## Reading -/

abbrev PayloadReader := Reader String

/-- The error of a read past the end. -/
def truncatedPayload : String := "truncated CLOB replay block payload"

def readU8 : PayloadReader ℕ :=
  readLe truncatedPayload 1

def readU32 : PayloadReader ℕ :=
  readLe truncatedPayload 4

def readU64 : PayloadReader UInt64 := do
  let value ← readLe truncatedPayload 8
  return UInt64.ofNat value

def readOptionalU64 : PayloadReader (Option UInt64) := do
  let value ← readU64
  return if value = noneU64 then none else some value

def readF64 : PayloadReader F := do
  let value ← readU64
  return Bits64.ofBits value

def readOptionalF64 : PayloadReader (Option F) := do
  let flag ← readU8
  if flag = 0 then return none
  else if flag = 1 then
    let value ← readF64
    return some value
  else throw s!"invalid optional f64 presence flag: {flag}"

def readString : PayloadReader String := do
  let length ← readU32
  let bytes ← readBytes truncatedPayload length
  match String.fromUTF8? ⟨bytes.toArray⟩ with
  | some value => return value
  | none => throw "reading UTF-8 dictionary value"

def readDictionary : PayloadReader (List String) := do
  let count ← readU32
  readMany count readString

def Dictionaries.readFrom : PayloadReader Dictionaries := do
  let sourceTopics ← readDictionary
  let connectionIds ← readDictionary
  let sequenceKeys ← readDictionary
  let marketIds ← readDictionary
  let assetIds ← readDictionary
  return { sourceTopics, connectionIds, sequenceKeys, marketIds, assetIds }

def readDictionaryValue (dictionary : List String) : PayloadReader (Option String) := do
  let code ← readU32
  if code = noneU32 then return none
  else
    match dictionary[code]? with
    | some value => return some value
    | none => throw s!"dictionary code out of range: {code}"

/-- Read one CLOB event from a payload. -/
def readEvent (dictionaries : Dictionaries) : PayloadReader (DecodedClobReplayEvent F) := do
  let receivedAtMs ← readU64
  let eventAtMs ← readU64
  let receivedAtUs ← readOptionalU64
  let eventAtUs ← readOptionalU64
  let source ← liftM (sourceFromSideCode (← readU8))
  let eventType ← liftM (eventTypeFromCode (← readU8))
  let sourceTopic ← readDictionaryValue dictionaries.sourceTopics
  let connectionId ← readDictionaryValue dictionaries.connectionIds
  let sequenceKey ← readDictionaryValue dictionaries.sequenceKeys
  let marketId ← readDictionaryValue dictionaries.marketIds
  let assetId ← readDictionaryValue dictionaries.assetIds
  let bestBid ← readF64
  let bestAsk ← readF64
  let bidSize ← readF64
  let askSize ← readF64
  let microprice ← readOptionalF64
  let fidelity ← liftM (fidelityFromCode (← readU8))
  return {
    receivedAtMs, eventAtMs, receivedAtUs, eventAtUs, source, eventType, sourceTopic, connectionId,
    sequenceKey, marketId, assetId, bestBid, bestAsk, bidSize, askSize, microprice, fidelity }

def expectMagic : PayloadReader Unit := do
  let bytes ← readBytes truncatedPayload clobReplayBlockMagic.length
  if bytes = clobReplayBlockMagic then return ()
  else throw "invalid CLOB replay block magic"

def readPayload : PayloadReader (List (DecodedClobReplayEvent F)) := do
  expectMagic
  let schemaVersion ← readU32
  if schemaVersion = clobReplayBlockSchemaVersion then
    let dictionaries ← Dictionaries.readFrom
    let rowCount ← readU32
    readMany rowCount (readEvent dictionaries)
  else throw s!"unsupported CLOB replay block schema version: {schemaVersion}"

def decodeRows (payload : List UInt8) : Except String (List (DecodedClobReplayEvent F)) :=
  (do
    let rows ← readPayload
    finish "CLOB replay block has trailing bytes"
    return rows : PayloadReader _).run' payload

/-! ## What was written is read back -/

variable {value : ℕ} {bytes payload : List UInt8} {dictionary : List String}
variable {dictionaries : Dictionaries} {event : FeedEvent F} {events : List (FeedEvent F)}

theorem u32Len_eq_ok {len : ℕ} {label : String} (h : u32Len len label = .ok value) :
    len < 2 ^ 32 ∧ value = len := by
  unfold u32Len at h
  split at h
  · rename_i hfits
    simp only [Except.ok.injEq] at h
    exact ⟨hfits, h.symm⟩
  · contradiction

theorem fromUTF8?_stringBytes (value : String) :
    String.fromUTF8? ⟨(stringBytes value).toArray⟩ = some value := by
  have hbytes : (⟨(stringBytes value).toArray⟩ : ByteArray) = value.toUTF8 := by
    simp [stringBytes]
  rw [hbytes]
  have hvalid : value.toUTF8.IsValidUTF8 := value.isValidUTF8
  rw [String.fromUTF8?, dif_pos hvalid]
  rfl

theorem reads_liftM {α : Type} {outcome : Except String α} {value : α} (h : outcome = .ok value) :
    Reads (liftM outcome : PayloadReader α) [] value := by
  subst h
  intro rest
  rfl

theorem reads_readU8 (h : value < 256 ^ 1) : Reads readU8 (writeU8 value) value :=
  reads_readLe truncatedPayload h

theorem reads_readU32 (h : value < 2 ^ 32) : Reads readU32 (writeU32 value) value :=
  reads_readLe truncatedPayload (by norm_num; exact h)

theorem reads_readU64 (value : UInt64) : Reads readU64 (writeU64 value) value := by
  have hfits : value.toNat < 256 ^ 8 := by
    have hlt := value.toNat_lt
    norm_num
    exact hlt
  have hread := (reads_readLe truncatedPayload hfits).map UInt64.ofNat
  rw [UInt64.ofNat_toNat] at hread
  exact hread

/-- What comes back of an optional word: the reserved word stands for none. -/
def storedWord (value : Option UInt64) : Option UInt64 :=
  if value = some noneU64 then none else value

theorem storedWord_eq_self {value : Option UInt64} (h : value ≠ some noneU64) :
    storedWord value = value :=
  if_neg h

theorem reads_readOptionalU64 (value : Option UInt64) :
    Reads readOptionalU64 (writeOptionalU64 value) (storedWord value) := by
  have hread := (reads_readU64 (value.getD noneU64)).map
    fun word => if word = noneU64 then none else some word
  have hword : (if value.getD noneU64 = noneU64 then none else some (value.getD noneU64)) =
      storedWord value := by
    cases value with
    | none => rfl
    | some word => by_cases hreserved : word = noneU64 <;> simp [storedWord, hreserved]
  rw [hword] at hread
  exact hread

theorem reads_readF64 (value : F) : Reads readF64 (writeF64 value) value := by
  have hread := (reads_readU64 (Bits64.toBits value)).map (fun word => (Bits64.ofBits word : F))
  rw [Bits64.ofBits_toBits] at hread
  exact hread

theorem reads_readOptionalF64 (value : Option F) :
    Reads readOptionalF64 (writeOptionalF64 value) value := by
  cases value with
  | none =>
    have hflag : (0 : ℕ) < 256 ^ 1 := by decide
    apply (reads_readU8 hflag).followed
    rw [if_pos rfl]
    exact reads_pure none
  | some value =>
    have hflag : (1 : ℕ) < 256 ^ 1 := by decide
    apply (reads_readU8 hflag).bind
    rw [if_neg (by decide), if_pos rfl]
    exact (reads_readF64 value).map some

theorem reads_readString {value : String} (h : writeString value = .ok bytes) :
    Reads readString bytes value := by
  obtain ⟨length, hlength, hbytes⟩ := ok_of_bind h
  obtain ⟨hfits, hlen⟩ := u32Len_eq_ok hlength
  subst hlen
  have hbytes := Except.ok.inj hbytes
  subst hbytes
  apply (reads_readU32 hfits).bind
  apply (reads_readBytes truncatedPayload (stringBytes value)).followed
  rw [fromUTF8?_stringBytes]
  exact reads_pure value

theorem reads_readDictionary {values : List String} (h : writeDictionary values = .ok bytes) :
    values.length < 2 ^ 32 ∧ Reads readDictionary bytes values := by
  obtain ⟨length, hlength, h⟩ := ok_of_bind h
  obtain ⟨strings, hstrings, hbytes⟩ := ok_of_bind h
  obtain ⟨hfits, hlen⟩ := u32Len_eq_ok hlength
  subst hlen
  have hbytes := Except.ok.inj hbytes
  subst hbytes
  refine ⟨hfits, ?_⟩
  have hread : ∀ value ∈ values, ∀ own, writeString value = .ok own →
      ∃ result, value = result ∧ Reads readString own result := by
    intro value _ own hown
    exact ⟨value, rfl, reads_readString hown⟩
  obtain ⟨results, hsame, hresults⟩ := reads_readMany hstrings hread
  have hresult : values = results := by
    rwa [List.forall₂_eq_eq_eq] at hsame
  subst hresult
  exact (reads_readU32 hfits).bind hresults

theorem getElem?_of_lookup {value : String} {code : ℕ}
    (h : (dictionaryLookup dictionary).lookup value = some code) :
    dictionary[code]? = some value := by
  obtain ⟨before, after, hsplit, -⟩ := List.lookup_eq_some_iff.mp h
  have hmem : (value, code) ∈ dictionaryLookup dictionary := by
    rw [hsplit]
    simp
  simp only [dictionaryLookup, List.mem_reverse, List.mem_filter] at hmem
  exact List.mk_mem_zipIdx_iff_getElem?.mp hmem.1

theorem reads_readDictionaryValue {value : Option String} (hlength : dictionary.length < 2 ^ 32)
    (h : writeDictionaryCode dictionary value = .ok bytes) :
    Reads (readDictionaryValue dictionary) bytes value := by
  cases value with
  | none =>
    simp only [writeDictionaryCode, Except.ok.injEq] at h
    subst h
    have hfits : noneU32 < 2 ^ 32 := by decide
    apply (reads_readU32 hfits).followed
    rw [if_pos rfl]
    exact reads_pure none
  | some value =>
    simp only [writeDictionaryCode] at h
    cases hlookup : (dictionaryLookup dictionary).lookup value with
    | none => simp [hlookup] at h
    | some code =>
      rw [hlookup, Except.ok.injEq] at h
      subst h
      have hget := getElem?_of_lookup hlookup
      -- A dictionary has fewer than 2^32 entries, so that no code is the reserved one.
      have hlt : code < dictionary.length := (List.getElem?_eq_some_iff.mp hget).1
      have hfits : code < 2 ^ 32 := by omega
      have hne : code ≠ noneU32 := by
        unfold noneU32
        omega
      apply (reads_readU32 hfits).followed
      rw [if_neg hne, hget]
      exact reads_pure (some value)

theorem reads_dictionaries (h : writeDictionaries dictionaries = .ok bytes) :
    (dictionaries.sourceTopics.length < 2 ^ 32 ∧ dictionaries.connectionIds.length < 2 ^ 32 ∧
      dictionaries.sequenceKeys.length < 2 ^ 32 ∧ dictionaries.marketIds.length < 2 ^ 32 ∧
      dictionaries.assetIds.length < 2 ^ 32) ∧
    Reads Dictionaries.readFrom bytes dictionaries := by
  obtain ⟨sourceTopics, hsource, h⟩ := ok_of_bind h
  obtain ⟨connectionIds, hconnection, h⟩ := ok_of_bind h
  obtain ⟨sequenceKeys, hsequence, h⟩ := ok_of_bind h
  obtain ⟨marketIds, hmarket, h⟩ := ok_of_bind h
  obtain ⟨assetIds, hasset, h⟩ := ok_of_bind h
  have hbytes := Except.ok.inj h
  subst hbytes
  obtain ⟨hsourceFits, hsource⟩ := reads_readDictionary hsource
  obtain ⟨hconnectionFits, hconnection⟩ := reads_readDictionary hconnection
  obtain ⟨hsequenceFits, hsequence⟩ := reads_readDictionary hsequence
  obtain ⟨hmarketFits, hmarket⟩ := reads_readDictionary hmarket
  obtain ⟨hassetFits, hasset⟩ := reads_readDictionary hasset
  refine ⟨⟨hsourceFits, hconnectionFits, hsequenceFits, hmarketFits, hassetFits⟩, ?_⟩
  apply hsource.bind
  apply hconnection.bind
  apply hsequence.bind
  apply hmarket.bind
  apply hasset.followed
  exact reads_pure dictionaries

/-- A captured row with the optional times that come back. -/
def FeedEvent.asStored (event : FeedEvent F) : FeedEvent F :=
  { event with
    receivedAtUs := storedWord event.receivedAtUs
    eventAtUs := storedWord event.eventAtUs }

/-- A decoded row carries what the captured row carried. -/
structure DecodedFrom (event : FeedEvent F) (row : DecodedClobReplayEvent F) : Prop where
  receivedAtMs : row.receivedAtMs = event.receivedAtMs
  eventAtMs : row.eventAtMs = event.eventAtMs
  receivedAtUs : row.receivedAtUs = event.receivedAtUs
  eventAtUs : row.eventAtUs = event.eventAtUs
  source : row.source = event.source
  eventType : row.eventType = event.eventType
  sourceTopic : row.sourceTopic = event.sourceTopic
  connectionId : row.connectionId = event.connectionId
  sequenceKey : row.sequenceKey = event.sequenceKey
  marketId : row.marketId = event.marketId
  assetId : row.assetId = event.assetId
  bestBid : event.bestBid = some row.bestBid
  bestAsk : event.bestAsk = some row.bestAsk
  bidSize : event.bidSize = some row.bidSize
  askSize : event.askSize = some row.askSize
  microprice : row.microprice = event.microprice
  fidelity : row.fidelity = event.fidelity

omit [Bits64 F] in
theorem requiredF64_eq_ok {value : Option F} {field : String} {number : F}
    (h : requiredF64 value field = .ok number) : value = some number := by
  cases value with
  | none => contradiction
  | some value => exact congrArg some (Except.ok.inj h)

omit [Bits64 F] in
theorem asStored_eq_self (hreceived : event.receivedAtUs ≠ some noneU64)
    (hoccurred : event.eventAtUs ≠ some noneU64) : event.asStored = event := by
  unfold FeedEvent.asStored
  rw [storedWord_eq_self hreceived, storedWord_eq_self hoccurred]

omit [Bits64 F] in
theorem map_asStored_eq_self
    (htimes : ∀ event ∈ events,
      event.receivedAtUs ≠ some noneU64 ∧ event.eventAtUs ≠ some noneU64) :
    events.map FeedEvent.asStored = events := by
  have hsame := List.map_congr_left fun event hmem =>
    asStored_eq_self (htimes event hmem).1 (htimes event hmem).2
  rw [hsame, List.map_id']

/-- A row is read back. -/
theorem reads_event
    (hfits : dictionaries.sourceTopics.length < 2 ^ 32 ∧
      dictionaries.connectionIds.length < 2 ^ 32 ∧ dictionaries.sequenceKeys.length < 2 ^ 32 ∧
      dictionaries.marketIds.length < 2 ^ 32 ∧ dictionaries.assetIds.length < 2 ^ 32)
    (h : writeEvent dictionaries event = .ok bytes) :
    ∃ row, DecodedFrom event.asStored row ∧ Reads (readEvent dictionaries) bytes row := by
  obtain ⟨hsourceFits, hconnectionFits, hsequenceFits, hmarketFits, hassetFits⟩ := hfits
  obtain ⟨side, hside, h⟩ := ok_of_bind h
  obtain ⟨bestBid, hbestBid, h⟩ := ok_of_bind h
  obtain ⟨bestAsk, hbestAsk, h⟩ := ok_of_bind h
  obtain ⟨bidSize, hbidSize, h⟩ := ok_of_bind h
  obtain ⟨askSize, haskSize, h⟩ := ok_of_bind h
  obtain ⟨eventType, heventType, h⟩ := ok_of_bind h
  obtain ⟨sourceTopic, hsourceTopic, h⟩ := ok_of_bind h
  obtain ⟨connectionId, hconnectionId, h⟩ := ok_of_bind h
  obtain ⟨sequenceKey, hsequenceKey, h⟩ := ok_of_bind h
  obtain ⟨marketId, hmarketId, h⟩ := ok_of_bind h
  obtain ⟨assetId, hassetId, h⟩ := ok_of_bind h
  have hbytes := Except.ok.inj h
  subst hbytes
  obtain ⟨hsideFits, hsource⟩ := sourceFromSideCode_of_sideCode hside
  obtain ⟨htypeFits, htype⟩ := eventTypeFromCode_of_eventTypeCode heventType
  obtain ⟨hfidelityFits, hfidelity⟩ := fidelityFromCode_fidelityCode event.fidelity
  let row : DecodedClobReplayEvent F := {
    receivedAtMs := event.receivedAtMs
    eventAtMs := event.eventAtMs
    receivedAtUs := storedWord event.receivedAtUs
    eventAtUs := storedWord event.eventAtUs
    source := event.source
    eventType := event.eventType
    sourceTopic := event.sourceTopic
    connectionId := event.connectionId
    sequenceKey := event.sequenceKey
    marketId := event.marketId
    assetId := event.assetId
    bestBid, bestAsk, bidSize, askSize
    microprice := event.microprice
    fidelity := event.fidelity }
  have hrow : DecodedFrom event.asStored row :=
    { receivedAtMs := rfl, eventAtMs := rfl, receivedAtUs := rfl, eventAtUs := rfl, source := rfl,
      eventType := rfl, sourceTopic := rfl, connectionId := rfl, sequenceKey := rfl,
      marketId := rfl, assetId := rfl, microprice := rfl, fidelity := rfl
      bestBid := requiredF64_eq_ok hbestBid
      bestAsk := requiredF64_eq_ok hbestAsk
      bidSize := requiredF64_eq_ok hbidSize
      askSize := requiredF64_eq_ok haskSize }
  refine ⟨row, hrow, ?_⟩
  -- The reader follows the writer field by field.
  apply (reads_readU64 event.receivedAtMs).bind
  apply (reads_readU64 event.eventAtMs).bind
  apply (reads_readOptionalU64 event.receivedAtUs).bind
  apply (reads_readOptionalU64 event.eventAtUs).bind
  apply (reads_readU8 hsideFits).bind
  apply (reads_liftM hsource).bind
  apply (reads_readU8 htypeFits).bind
  apply (reads_liftM htype).bind
  apply (reads_readDictionaryValue hsourceFits hsourceTopic).bind
  apply (reads_readDictionaryValue hconnectionFits hconnectionId).bind
  apply (reads_readDictionaryValue hsequenceFits hsequenceKey).bind
  apply (reads_readDictionaryValue hmarketFits hmarketId).bind
  apply (reads_readDictionaryValue hassetFits hassetId).bind
  apply (reads_readF64 bestBid).bind
  apply (reads_readF64 bestAsk).bind
  apply (reads_readF64 bidSize).bind
  apply (reads_readF64 askSize).bind
  apply (reads_readOptionalF64 event.microprice).bind
  apply (reads_readU8 hfidelityFits).followed
  apply (reads_liftM hfidelity).followed
  exact reads_pure row

theorem reads_expectMagic : Reads expectMagic clobReplayBlockMagic () := by
  apply (reads_readBytes truncatedPayload clobReplayBlockMagic).followed
  rw [if_pos rfl]
  exact reads_pure ()

theorem reads_readPayload (hencode : encodePayload events = .ok payload) :
    ∃ rows, List.Forall₂ (fun event row => DecodedFrom event.asStored row) events rows ∧
      Reads readPayload payload rows := by
  unfold encodePayload at hencode
  split at hencode
  next => contradiction
  next =>
    obtain ⟨header, hheader, h⟩ := ok_of_bind hencode
    obtain ⟨rowCount, hcount, h⟩ := ok_of_bind h
    obtain ⟨bytes, hrows, h⟩ := ok_of_bind h
    have hpayload := Except.ok.inj h
    subst hpayload
    obtain ⟨hcountFits, hcountEq⟩ := u32Len_eq_ok hcount
    subst hcountEq
    obtain ⟨hfits, hdictionaries⟩ := reads_dictionaries hheader
    have hread : ∀ event ∈ events, ∀ own,
        writeEvent (Dictionaries.fromEvents events) event = .ok own →
        ∃ row, DecodedFrom event.asStored row ∧
          Reads (readEvent (Dictionaries.fromEvents events)) own row :=
      fun _ _ _ hown => reads_event hfits hown
    obtain ⟨rows, hsame, hresult⟩ := reads_readMany hrows hread
    refine ⟨rows, hsame, ?_⟩
    have hversion : clobReplayBlockSchemaVersion < 2 ^ 32 := by decide
    apply reads_expectMagic.bind
    apply (reads_readU32 hversion).bind
    rw [if_pos rfl]
    apply hdictionaries.bind
    apply (reads_readU32 hcountFits).bind
    exact hresult

theorem decodeRows_of_reads {rows : List (DecodedClobReplayEvent F)}
    (h : Reads readPayload payload rows) : decodeRows payload = .ok rows := by
  unfold decodeRows
  rw [StateT.run'_eq, h.run_finish "CLOB replay block has trailing bytes"]
  rfl

/-- A written payload is read back: every row comes back in its place with all that it carried. -/
theorem replay_block_round_trips {events : List (FeedEvent F)} {payload : List UInt8}
    (hencode : encodePayload events = .ok payload)
    (htimes : ∀ event ∈ events,
      event.receivedAtUs ≠ some noneU64 ∧ event.eventAtUs ≠ some noneU64) :
    ∃ rows, decodeRows payload = .ok rows ∧ List.Forall₂ DecodedFrom events rows := by
  obtain ⟨rows, hsame, hresult⟩ := reads_readPayload hencode
  rw [← List.forall₂_map_left_iff, map_asStored_eq_self htimes] at hsame
  exact ⟨rows, decodeRows_of_reads hresult, hsame⟩

/-! ## Compression and checksum -/

/-- Encoded block ready for persistence. -/
structure EncodedClobReplayBlock where
  minReceivedAtMs : UInt64
  maxReceivedAtMs : UInt64
  minReceivedAtUs : Option UInt64
  maxReceivedAtUs : Option UInt64
  rowCount : ℕ
  upRows : ℕ
  downRows : ℕ
  schemaVersion : ℕ
  compressedBytes : ℕ
  uncompressedBytes : ℕ
  checksum : String
  payload : List UInt8

def minOption (current candidate : Option UInt64) : Option UInt64 :=
  match current, candidate with
  | some current, some candidate => some (min current candidate)
  | some current, none => some current
  | none, candidate => candidate

def maxOption (current candidate : Option UInt64) : Option UInt64 :=
  match current, candidate with
  | some current, some candidate => some (max current candidate)
  | some current, none => some current
  | none, candidate => candidate

def checksumText (checksum : UInt32) : String :=
  let digits := Nat.toDigits 16 checksum.toNat
  String.ofList (List.replicate (8 - digits.length) '0' ++ digits)

section Compression

-- The compression library and the checksum library.
variable (compress : List UInt8 → ℤ → Except String (List UInt8))
variable (decompress : List UInt8 → Except String (List UInt8)) (crc32 : List UInt8 → UInt32)

/-- Encode one CLOB block with local dictionaries and compression. -/
def encodeEvents (events : List (FeedEvent F)) (level : ℤ) :
    Except String EncodedClobReplayBlock := do
  let payload ← encodePayload events
  let compressed ← compress payload level
  let upRows := (events.filter fun event => event.source == "clob_up").length
  return {
    minReceivedAtMs := events.foldl (fun floor event => min floor event.receivedAtMs) noneU64
    maxReceivedAtMs := events.foldl (fun ceiling event => max ceiling event.receivedAtMs) 0
    minReceivedAtUs := events.foldl (fun floor event => minOption floor event.receivedAtUs) none
    maxReceivedAtUs := events.foldl (fun ceiling event => maxOption ceiling event.receivedAtUs) none
    rowCount := events.length
    upRows
    downRows := events.length - upRows
    schemaVersion := clobReplayBlockSchemaVersion
    compressedBytes := compressed.length
    uncompressedBytes := payload.length
    checksum := checksumText (crc32 payload)
    payload := compressed }

def decodePayload (compressedPayload : List UInt8) (expectedChecksum : String) :
    Except String (List (DecodedClobReplayEvent F)) := do
  let payload ← decompress compressedPayload
  let actualChecksum := checksumText (crc32 payload)
  if actualChecksum = expectedChecksum then decodeRows payload
  else throw (s!"CLOB replay block checksum mismatch: expected {expectedChecksum}, " ++
    s!"got {actualChecksum}")

variable {compress decompress}

/-- An encoded block decodes to what was stored of its rows, when decompression undoes
compression. -/
theorem decodePayload_encodeEvents_asStored {events : List (FeedEvent F)} {level : ℤ}
    {block : EncodedClobReplayBlock}
    (hcompress : ∀ bytes compressed, compress bytes level = .ok compressed →
      decompress compressed = .ok bytes)
    (hencode : encodeEvents compress crc32 events level = .ok block) :
    ∃ rows, decodePayload decompress crc32 block.payload block.checksum = .ok rows ∧
      List.Forall₂ (fun event row => DecodedFrom event.asStored row) events rows := by
  obtain ⟨payload, hpayload, h⟩ := ok_of_bind hencode
  obtain ⟨compressed, hcompressed, h⟩ := ok_of_bind h
  have hblock := Except.ok.inj h
  subst hblock
  obtain ⟨rows, hsame, hreads⟩ := reads_readPayload hpayload
  refine ⟨rows, ?_, hsame⟩
  unfold decodePayload
  rw [hcompress payload compressed hcompressed]
  simpa [bind, Except.bind] using decodeRows_of_reads hreads

end Compression

end Numbers

def sampleBlockRow (source eventType sequenceKey : String) (bidSize : UInt64) :
    FeedEvent UInt64 where
  receivedAtMs := 1001
  eventAtMs := 901
  receivedAtUs := some 1001007
  source
  eventType
  sourceTopic := some "btc-up"
  connectionId := some "conn-1"
  sequenceKey := some sequenceKey
  marketId := some "market-1"
  bestBid := some 4601552919265804288
  bestAsk := some 4603129179135383962
  bidSize := some bidSize
  askSize := some 4626322717216342016
  fidelity := .rawEvent

/-- A block with a row of each side. -/
theorem replay_block_round_trips_sample :
    ∃ payload rows, encodePayload
        [sampleBlockRow "clob_up" "price_change" "seq-1" 4621819117588971520,
          sampleBlockRow "clob_down" "book" "seq-2" 9221120237041090560] = .ok payload ∧
      decodeRows payload = .ok rows ∧ List.Forall₂ DecodedFrom
        [sampleBlockRow "clob_up" "price_change" "seq-1" 4621819117588971520,
          sampleBlockRow "clob_down" "book" "seq-2" 9221120237041090560] rows := by
  have haccepted : (encodePayload
      [sampleBlockRow "clob_up" "price_change" "seq-1" 4621819117588971520,
        sampleBlockRow "clob_down" "book" "seq-2" 9221120237041090560]).isOk = true := by
    decide +kernel
  cases hencode : encodePayload
      [sampleBlockRow "clob_up" "price_change" "seq-1" 4621819117588971520,
        sampleBlockRow "clob_down" "book" "seq-2" 9221120237041090560] with
  | error error => simp [hencode, Except.isOk, Except.toBool] at haccepted
  | ok payload =>
    have htimes : ∀ event ∈ [sampleBlockRow "clob_up" "price_change" "seq-1" 4621819117588971520,
        sampleBlockRow "clob_down" "book" "seq-2" 9221120237041090560],
        event.receivedAtUs ≠ some noneU64 ∧ event.eventAtUs ≠ some noneU64 := by
      intro event hmem
      simp only [List.mem_cons, List.not_mem_nil, or_false] at hmem
      rcases hmem with rfl | rfl <;> decide
    obtain ⟨rows, hrows, hsame⟩ := replay_block_round_trips hencode htimes
    exact ⟨payload, rows, rfl, hrows, hsame⟩

end BubaPaint

import Stars.AdResolver.DescriptorBytes
import Stars.AdResolver.RawEntry
import Stars.AdResolver.Trusts
import Stars.Bytes.Decoder

namespace Stars
namespace AdResolver

open Bytes Collections

/-!
# Forest trust information

The value of a forest trust lists the names and the domains of the trusted forest
as nested records with stated lengths.  The parser reads it with every read in the
open.  It accepts exactly the encoded values and returns their domain records in
order; since each part is decoded in one way only, no value is a part of another
one.
-/

def maxRecords : Nat := 10000

def maxNameLen : Nat := 255

/-- A SID with fifteen sub-authorities. -/
def maxSidLen : Nat := 68

abbrev Reader := Cursor UInt8

def fromUtf8 (bytes : List UInt8) : Option String := String.fromUTF8? ⟨bytes.toArray⟩

/-- Control characters in the sense of the Unicode category. -/
def isControl (letter : Char) : Bool :=
  letter.toNat < 0x20 || (0x7F ≤ letter.toNat && letter.toNat < 0xA0)

/-- The difference of two places. -/
def subOffset {Reason : Type} (left right : Nat) : Checked Reason Nat :=
  if right ≤ left then pure (left - right) else stopped .overflow

namespace Reader

/-- The next bytes.  A sum that overflows lies behind the end as well. -/
def take (reader : Reader) (length : Nat) (what : String) :
    Checked String (List UInt8 × Reader) := do
  let stop := reader.pos + length
  if stop ≤ reader.data.length then
    let bytes ← range reader.data reader.pos stop
    pure (bytes, reader.advance length)
  else throw s!"truncated at byte {reader.pos} ({what})"

def u32 (reader : Reader) (what : String) : Checked String (Nat × Reader) := do
  let (bytes, reader) ← reader.take 4 what
  let first ← index bytes 0
  let second ← index bytes 1
  let third ← index bytes 2
  let fourth ← index bytes 3
  pure (littleEndian [first, second, third, fourth], reader)

def u8 (reader : Reader) (what : String) : Checked String (UInt8 × Reader) := do
  let (bytes, reader) ← reader.take 1 what
  let byte ← index bytes 0
  pure (byte, reader)

def name (reader : Reader) (what : String) : Checked String (String × Reader) := do
  let (length, reader) ← reader.u32 what
  if length = 0 ∨ length > maxNameLen then
    throw s!"{what}: length {length} outside 1–{maxNameLen}"
  else
    let (bytes, reader) ← reader.take length what
    match fromUtf8 bytes with
    | none => throw s!"{what}: not valid UTF-8"
    | some text =>
        if text.toList.any isControl then throw s!"{what}: contains control characters"
        else pure (text, reader)

end Reader

/-- The names of a domain, after its SID. -/
def parseDomainNames (reader : Reader) (sid : Sid) (flags : BitVec 32) :
    Checked String (Option ForestTrustDomain × Reader) := do
  let (dnsName, reader) ← reader.name "DNS name"
  let (netbiosName, reader) ← reader.name "NetBIOS name"
  pure (some { dnsName := dnsName, netbiosName := netbiosName, sid := sid, flags := flags }, reader)

/-- The data of a domain record. -/
def parseDomainRecord (reader : Reader) (number flags : Nat) :
    Checked String (Option ForestTrustDomain × Reader) := do
  let (sidLen, reader) ← reader.u32 "SID length"
  if sidLen < 8 ∨ sidLen > maxSidLen then
    throw s!"record {number}: SID length {sidLen} outside 8–{maxSidLen}"
  else
    let (sidBytes, reader) ← reader.take sidLen "SID"
    let count ← index sidBytes 1
    let numbers ← mulOffset usizeBound count.toNat 4
    let length ← addOffset usizeBound 8 numbers
    if length ≠ sidBytes.length then
      throw s!"record {number}: SID length {sidLen} does not match its sub-authority count"
    else
      let sid ← ExceptT.adapt (fun reason => s!"record {number}: {CoreError.display reason}")
        (checkedBytesToSidStr sidBytes)
      parseDomainNames reader ⟨sid⟩ (BitVec.ofNat 32 flags)

/-- The data of a record of unknown type, which only a stated length can skip. -/
def skipUnknownRecord (reader : Reader) (number start recordLen : Nat) (recordType : UInt8) :
    Checked String (Option ForestTrustDomain × Reader) := do
  if recordLen = 0 then
    throw s!"record {number}: unknown record type {recordType.toNat} without a record length"
  else
    let read ← subOffset reader.pos start
    if recordLen < read then
      throw s!"record {number}: record length {recordLen} shorter than its header"
    else
      let (_, reader) ← reader.take (recordLen - read) "unknown record"
      pure (none, reader)

/-- The data of a record by its type. -/
def parseRecordData (reader : Reader) (number start recordLen flags : Nat) (recordType : UInt8) :
    Checked String (Option ForestTrustDomain × Reader) :=
  if recordType = 0 ∨ recordType = 1 then do
    let (_, reader) ← reader.name "top-level name"
    pure (none, reader)
  else if recordType = 2 then parseDomainRecord reader number flags
  else skipUnknownRecord reader number start recordLen recordType

/-- The data of a record, and the check of its stated length. -/
def parseCountedData (reader : Reader) (number start recordLen flags : Nat) (recordType : UInt8) :
    Checked String (Option ForestTrustDomain × Reader) := do
  let (domain, reader) ← parseRecordData reader number start recordLen flags recordType
  let read ← subOffset reader.pos start
  if recordLen ≠ 0 ∧ recordLen ≠ read then
    throw s!"record {number}: record length {recordLen} but {read} bytes of record data"
  else pure (domain, reader)

def parseRecord (reader : Reader) (number : Nat) :
    Checked String (Option ForestTrustDomain × Reader) := do
  let (recordLen, reader) ← reader.u32 "record length"
  let start := reader.pos
  let (flags, reader) ← reader.u32 "flags"
  let (_, reader) ← reader.take 8 "timestamp"
  let (recordType, reader) ← reader.u8 "record type"
  parseCountedData reader number start recordLen flags recordType

/-- The records from a number on, `left` of them. -/
def parseRecords : (left number : Nat) → Reader → Checked String (List ForestTrustDomain × Reader)
  | 0, _, reader => pure ([], reader)
  | left + 1, number, reader => do
      let (domain, reader) ← parseRecord reader number
      let (rest, reader) ← parseRecords left (number + 1) reader
      pure (domain.toList ++ rest, reader)

/-- The version, the count and the records. -/
def parseRecordList (reader : Reader) :
    Checked String ((Nat × List ForestTrustDomain) × Reader) := do
  let (version, reader) ← reader.u32 "version"
  if version ≠ 1 then throw s!"unsupported version {version}"
  else
    let (count, reader) ← reader.u32 "record count"
    if count > maxRecords then throw s!"record count {count} above {maxRecords}"
    else
      let (domains, reader) ← parseRecords count 0 reader
      pure ((count, domains), reader)

/-- The domain records of a value, which has to be consumed as a whole. -/
def parseForestTrustInfo (data : List UInt8) : Checked String (List ForestTrustDomain) := do
  let ((count, domains), reader) ← parseRecordList { data := data, pos := 0 }
  if reader.pos ≠ data.length then
    let trailing ← subOffset data.length reader.pos
    throw s!"{trailing} trailing byte(s) after {count} record(s)"
  else pure domains

/-! ## Encoded values -/

/-- A name of the trusted forest. -/
structure TrustName where
  text : String
  nonempty : 0 < (utf8Bytes text).length
  short : (utf8Bytes text).length ≤ maxNameLen
  printable : text.toList.any isControl = false

def TrustName.encode (name : TrustName) : List UInt8 :=
  littleEndianBytes 4 (utf8Bytes name.text).length ++ utf8Bytes name.text

/-- The data of a record.  A name is listed or excluded; the data of an unknown
type is any sequence of bytes. -/
inductive RecordData where
  | topLevelName (excluded : Bool) (name : TrustName)
  | domain (sid : BinarySid) (short : sid.subAuthorities.length ≤ 15)
      (dnsName netbiosName : TrustName)
  | unknown (kind : UInt8) (other : 2 < kind) (bytes : List UInt8)

namespace RecordData

def recordType : RecordData → UInt8
  | topLevelName excluded _ => if excluded then 1 else 0
  | domain .. => 2
  | unknown kind _ _ => kind

def encode : RecordData → List UInt8
  | topLevelName _ name => name.encode
  | domain sid _ dnsName netbiosName =>
      littleEndianBytes 4 sid.encode.length ++
        (sid.encode ++ (dnsName.encode ++ netbiosName.encode))
  | unknown _ _ bytes => bytes

def known : RecordData → Bool
  | unknown .. => false
  | _ => true

/-- The domain of a domain record. -/
def domain? (flags : BitVec 32) : RecordData → Option ForestTrustDomain
  | domain sid _ dnsName netbiosName =>
      some { dnsName := dnsName.text, netbiosName := netbiosName.text, sid := ⟨sid.text⟩,
             flags := flags }
  | _ => none

end RecordData

/-- The part of a record that its length counts. -/
def recordContent (flags : BitVec 32) (timestamp : Vector UInt8 8) (data : RecordData) :
    List UInt8 :=
  littleEndianBytes 4 flags.toNat ++ (timestamp.toList ++ (data.recordType :: data.encode))

/-- A record.  Its length is exact, or zero where the type is known. -/
structure TrustRecord where
  recordLen : Nat
  flags : BitVec 32
  timestamp : Vector UInt8 8
  data : RecordData
  exact : recordLen = (recordContent flags timestamp data).length ∨ recordLen = 0 ∧ data.known
  fits : recordLen < 2 ^ 32

def TrustRecord.encode (record : TrustRecord) : List UInt8 :=
  littleEndianBytes 4 record.recordLen ++
    recordContent record.flags record.timestamp record.data

/-- A value of version 1. -/
structure TrustInfo where
  records : List TrustRecord
  few : records.length ≤ maxRecords

namespace TrustInfo

def encode (info : TrustInfo) : List UInt8 :=
  littleEndianBytes 4 1 ++
    (littleEndianBytes 4 info.records.length ++ info.records.flatMap TrustRecord.encode)

def domains (info : TrustInfo) : List ForestTrustDomain :=
  info.records.flatMap (fun record => (record.data.domain? record.flags).toList)

end TrustInfo

/-! ## The parts of a value -/

section Parts

variable (reader : Reader)

theorem decodes_take (length : Nat) (what : String) :
    Decodes (reader.take length what) reader
      (fun field bytes => field.length = length ∧ bytes = field) := by
  unfold Reader.take
  by_cases inside : reader.pos + length ≤ reader.data.length
  · rw [if_pos inside]
    refine ⟨_, (agrees_range (Nat.le_add_right _ _) inside).pass (agrees_pure _), ?_⟩
    intro value next
    rw [Nat.add_sub_cancel_left]
    constructor
    · intro same
      cases same
      have size : ((reader.data.drop reader.pos).take length).length = length := by
        rw [List.length_take, List.length_drop]
        omega
      refine ⟨_, ⟨size, rfl⟩, ⟨?_, ?_⟩, ?_⟩
      · rw [size]
        exact inside
      · rw [size]
      · rw [size]
    · rintro ⟨field, ⟨rfl, rfl⟩, has, rfl⟩
      rw [has.take_drop]
  · rw [if_neg inside]
    refine ⟨_, agrees_throw _, ?_⟩
    intro value next
    constructor
    · intro impossible
      cases impossible
    · rintro ⟨field, ⟨rfl, _⟩, has, _⟩
      exact absurd has.le inside

/-- Bytes of a known number are there to be read. -/
theorem agrees_index_of_lt {Reason : Type} {bytes : List UInt8} {place : Nat}
    (inside : place < bytes.length) :
    Agrees (index bytes place : Checked Reason UInt8) (.ok bytes[place]) :=
  agrees_index (List.getElem?_eq_getElem inside)

theorem decodes_u32 (what : String) : Decodes (reader.u32 what) reader
    (fun field value => value < 2 ^ 32 ∧ field = littleEndianBytes 4 value) := by
  apply (decodes_take reader 4 what).settle (fun _ bytes => .ok (littleEndian bytes))
  · rintro _ field ⟨length, rfl⟩ _
    match field, length with
    | [first, second, third, fourth], _ =>
        apply (agrees_index_of_lt (by simp)).pass
        apply (agrees_index_of_lt (by simp)).pass
        apply (agrees_index_of_lt (by simp)).pass
        apply (agrees_index_of_lt (by simp)).pass
        exact agrees_pure _
  · intro field value
    constructor
    · rintro ⟨below, rfl⟩
      exact ⟨_, ⟨length_littleEndianBytes 4 value, rfl⟩,
        congrArg _ (littleEndian_littleEndianBytes 4 value below)⟩
    · rintro ⟨field, ⟨length, rfl⟩, same⟩
      cases same
      have below := littleEndian_lt field
      have bytes := littleEndianBytes_littleEndian field
      rw [length] at below bytes
      exact ⟨below, bytes.symm⟩

theorem decodes_u8 (what : String) : Decodes (reader.u8 what) reader
    (fun field value => field = [value]) := by
  apply (decodes_take reader 1 what).settle (fun _ bytes => .ok (bytes.headD 0))
  · rintro _ field ⟨length, rfl⟩ _
    match field, length with
    | [byte], _ => exact (agrees_index_of_lt (by simp)).pass (agrees_pure _)
  · intro field value
    constructor
    · rintro rfl
      exact ⟨[value], ⟨rfl, rfl⟩, rfl⟩
    · rintro ⟨field, ⟨length, rfl⟩, same⟩
      match field, length with
      | [byte], _ =>
          cases same
          rfl

theorem fromUtf8_eq_some_iff {bytes : List UInt8} {text : String} :
    fromUtf8 bytes = some text ↔ utf8Bytes text = bytes := by
  unfold fromUtf8 String.fromUTF8? utf8Bytes
  constructor
  · intro decoded
    split at decoded
    · cases decoded
      rfl
    · cases decoded
  · rintro rfl
    have whole : (⟨text.toUTF8.data.toList.toArray⟩ : ByteArray) = text.toByteArray := by
      rw [Array.toArray_toList]
      rfl
    simp only [whole]
    rw [dif_pos text.isValidUTF8]
    rfl

/-- The text of the bytes of a name. -/
def nameText (what : String) (bytes : List UInt8) : Except String String :=
  match fromUtf8 bytes with
  | none => .error s!"{what}: not valid UTF-8"
  | some text =>
      if text.toList.any isControl then .error s!"{what}: contains control characters" else .ok text

theorem nameText_eq_ok_iff {what text : String} {bytes : List UInt8} :
    nameText what bytes = .ok text ↔
      utf8Bytes text = bytes ∧ text.toList.any isControl = false := by
  rw [← fromUtf8_eq_some_iff]
  unfold nameText
  cases fromUtf8 bytes with
  | none => simp
  | some decoded =>
      dsimp only
      rw [Option.some.injEq]
      split
      · rename_i control
        constructor
        · intro impossible
          cases impossible
        · rintro ⟨rfl, printable⟩
          rw [control] at printable
          cases printable
      · rename_i printable
        rw [Except.ok.injEq]
        constructor
        · rintro rfl
          exact ⟨rfl, Bool.eq_false_of_not_eq_true printable⟩
        · exact fun known => known.1

theorem decodes_name (what : String) : Decodes (reader.name what) reader
    (fun field text => ∃ name : TrustName, field = name.encode ∧ text = name.text) := by
  apply (decodes_u32 reader what).bind (fun _ length after text =>
    (0 < length ∧ length ≤ maxNameLen) ∧ after.length = length ∧ utf8Bytes text = after ∧
      text.toList.any isControl = false)
  · rintro field length ⟨below, rfl⟩ has
    dsimp only
    by_cases outside : length = 0 ∨ length > maxNameLen
    · rw [if_pos outside]
      apply decodes_throw
      rintro after text ⟨within, _⟩
      omega
    · rw [if_neg outside]
      apply (decodes_take _ length what).settle (fun _ bytes => nameText what bytes)
      · rintro _ bytes ⟨_, rfl⟩ _
        dsimp only
        unfold nameText
        cases fromUtf8 bytes with
        | none => exact agrees_throw _
        | some text =>
            dsimp only
            split
            · exact agrees_throw _
            · exact agrees_pure _
      · intro after text
        constructor
        · rintro ⟨_, same, bytes, printable⟩
          exact ⟨after, ⟨same, rfl⟩, nameText_eq_ok_iff.mpr ⟨bytes, printable⟩⟩
        · rintro ⟨bytes, ⟨same, rfl⟩, decoded⟩
          exact ⟨by omega, same, nameText_eq_ok_iff.mp decoded⟩
  · intro field text
    constructor
    · rintro ⟨name, rfl, rfl⟩
      have below : (utf8Bytes name.text).length < 2 ^ 32 :=
        Nat.lt_of_le_of_lt name.short (by decide)
      exact ⟨_, _, _, ⟨below, rfl⟩, ⟨⟨name.nonempty, name.short⟩, rfl, rfl, name.printable⟩, rfl⟩
    · rintro ⟨_, length, after, ⟨below, rfl⟩, ⟨⟨positive, few⟩, rfl, rfl, printable⟩, rfl⟩
      exact ⟨⟨text, positive, few, printable⟩, rfl, rfl⟩

/-- Bytes of the length that their count states are the fields of a SID. -/
theorem exists_encode_eq_of_length {bytes : List UInt8} {count : UInt8}
    (second : bytes[1]? = some count) (length : bytes.length = 8 + 4 * count.toNat) :
    ∃ sid : BinarySid, sid.encode = bytes ∧ bytesToSidStr bytes = .ok sid.text := by
  have read : byteAt bytes 1 = some count.toNat := by
    rw [byteAt, second]
    rfl
  have accepted : ∃ text, bytesToSidStr bytes = .ok text := by
    unfold bytesToSidStr
    rw [if_neg (by omega), read]
    simp only [Option.getD_some]
    rw [if_neg (by omega)]
    exact ⟨_, rfl⟩
  rcases accepted with ⟨text, accepted⟩
  rcases exists_of_bytesToSidStr accepted with ⟨sid, rest, rfl, rfl⟩
  have held : Holds (sid.encode ++ rest) 0 sid.encode := holds_append_left
  have known := byteAt_of_holds (BinarySid.holds_encode held).2.1
  rw [Nat.zero_add, read, sid.toNat_count, Option.some.injEq] at known
  rw [List.length_append, sid.length_encode, known] at length
  have nothing : rest = [] := List.length_eq_zero_iff.mp (by omega)
  refine ⟨sid, ?_, accepted⟩
  rw [nothing, List.append_nil]

/-- The count among the bytes of a SID. -/
theorem BinarySid.toNat_getElem_encode (sid : BinarySid) (inside : 1 < sid.encode.length) :
    sid.encode[1].toNat = sid.subAuthorities.length :=
  sid.toNat_count

theorem decodes_domainNames (sid : Sid) (flags : BitVec 32) :
    Decodes (parseDomainNames reader sid flags) reader (fun field domain =>
      ∃ dnsName netbiosName : TrustName, field = dnsName.encode ++ netbiosName.encode ∧
        domain = some { dnsName := dnsName.text, netbiosName := netbiosName.text, sid := sid,
                        flags := flags }) := by
  apply (decodes_name reader "DNS name").bind (fun _ dnsText after domain =>
    ∃ netbiosName : TrustName, after = netbiosName.encode ∧
      domain = some { dnsName := dnsText, netbiosName := netbiosName.text, sid := sid,
                      flags := flags })
  · rintro _ _ ⟨dnsName, rfl, rfl⟩ _
    apply (decodes_name _ "NetBIOS name").settle (fun _ netbiosText =>
      .ok (some { dnsName := dnsName.text, netbiosName := netbiosText, sid := sid,
                  flags := flags }))
    · exact fun _ _ _ _ => agrees_pure _
    · intro after domain
      constructor
      · rintro ⟨netbiosName, rfl, rfl⟩
        exact ⟨_, ⟨netbiosName, rfl, rfl⟩, rfl⟩
      · rintro ⟨_, ⟨netbiosName, rfl, rfl⟩, same⟩
        cases same
        exact ⟨netbiosName, rfl, rfl⟩
  · intro field domain
    constructor
    · rintro ⟨dnsName, netbiosName, rfl, rfl⟩
      exact ⟨_, _, _, ⟨dnsName, rfl, rfl⟩, ⟨netbiosName, rfl, rfl⟩, rfl⟩
    · rintro ⟨_, _, _, ⟨dnsName, rfl, rfl⟩, ⟨netbiosName, rfl, rfl⟩, rfl⟩
      exact ⟨dnsName, netbiosName, rfl, rfl⟩

/-- The bytes of a SID, whose count has to match their number, and the names. -/
theorem decodes_sidAndNames (number flags sidLen : Nat) {sidBytes : List UInt8}
    (long : 8 ≤ sidBytes.length) (fits : sidBytes.length ≤ maxSidLen) :
    Decodes
      (do let count ← index sidBytes 1
          let numbers ← mulOffset usizeBound count.toNat 4
          let length ← addOffset usizeBound 8 numbers
          if length ≠ sidBytes.length then
            throw s!"record {number}: SID length {sidLen} does not match its sub-authority count"
          else
            let sid ← ExceptT.adapt (fun reason => s!"record {number}: {CoreError.display reason}")
              (checkedBytesToSidStr sidBytes)
            parseDomainNames reader ⟨sid⟩ (BitVec.ofNat 32 flags))
      reader (fun field domain => ∃ sid short dnsName netbiosName, sid.encode = sidBytes ∧
        field = dnsName.encode ++ netbiosName.encode ∧
        domain = (RecordData.domain sid short dnsName netbiosName).domain?
          (BitVec.ofNat 32 flags)) := by
  have second := List.getElem?_eq_getElem (l := sidBytes) (i := 1) (by omega)
  have few := sidBytes[1].toNat_lt
  apply Decodes.pass (agrees_index second)
  apply Decodes.pass (agrees_mulOffset (by unfold usizeBound; omega))
  apply Decodes.pass (agrees_addOffset (by unfold usizeBound; omega))
  by_cases other : 8 + sidBytes[1].toNat * 4 ≠ sidBytes.length
  · rw [if_pos other]
    apply decodes_throw
    rintro field domain ⟨sid, _, _, _, rfl, _⟩
    rw [sid.toNat_getElem_encode, sid.length_encode] at other
    omega
  · rw [if_neg other]
    rcases exists_encode_eq_of_length second (by omega) with ⟨sid, encoded, decoded⟩
    have text := (agrees_checkedBytesToSidStr sidBytes).adapt
      (fun reason => s!"record {number}: {CoreError.display reason}")
    rw [decoded] at text
    apply Decodes.pass text
    apply (decodes_domainNames reader ⟨sid.text⟩ (BitVec.ofNat 32 flags)).congr
    intro field domain
    constructor
    · rintro ⟨dnsName, netbiosName, rfl, rfl⟩
      have short : sid.subAuthorities.length ≤ 15 := by
        have whole := sid.length_encode
        rw [encoded] at whole
        unfold maxSidLen at fits
        omega
      exact ⟨sid, short, dnsName, netbiosName, encoded, rfl, rfl⟩
    · rintro ⟨listed, short, dnsName, netbiosName, same, rfl, rfl⟩
      have sameText : listed.text = sid.text := by
        have texts := bytesToSidStr_of_holds (holds_self listed.encode)
        rw [same, decoded] at texts
        exact (Except.ok.inj texts).symm
      refine ⟨dnsName, netbiosName, rfl, ?_⟩
      rw [RecordData.domain?, sameText]

theorem decodes_domainRecord (number flags : Nat) :
    Decodes (parseDomainRecord reader number flags) reader (fun field domain =>
      ∃ sid short dnsName netbiosName,
        field = (RecordData.domain sid short dnsName netbiosName).encode ∧
        domain = (RecordData.domain sid short dnsName netbiosName).domain?
          (BitVec.ofNat 32 flags)) := by
  apply (decodes_u32 reader "SID length").bind (fun _ sidLen after domain =>
    ∃ sid short dnsName netbiosName, sid.encode.length = sidLen ∧
      after = sid.encode ++ (dnsName.encode ++ netbiosName.encode) ∧
      domain = (RecordData.domain sid short dnsName netbiosName).domain? (BitVec.ofNat 32 flags))
  · rintro _ sidLen ⟨_, rfl⟩ _
    dsimp only
    by_cases outside : sidLen < 8 ∨ sidLen > maxSidLen
    · rw [if_pos outside]
      apply decodes_throw
      rintro after domain ⟨sid, short, _, _, length, _⟩
      rw [sid.length_encode] at length
      unfold maxSidLen at outside
      omega
    · rw [if_neg outside]
      apply (decodes_take _ sidLen "SID").bind (fun _ sidBytes after domain =>
        ∃ sid short dnsName netbiosName, sid.encode = sidBytes ∧
          after = dnsName.encode ++ netbiosName.encode ∧
          domain = (RecordData.domain sid short dnsName netbiosName).domain?
            (BitVec.ofNat 32 flags))
      · rintro _ sidBytes ⟨length, rfl⟩ _
        have long : 8 ≤ sidBytes.length := by omega
        have fits : sidBytes.length ≤ maxSidLen := by omega
        exact decodes_sidAndNames _ number flags sidLen long fits
      · intro after domain
        constructor
        · rintro ⟨sid, short, dnsName, netbiosName, length, rfl, rfl⟩
          exact ⟨_, _, _, ⟨length, rfl⟩, ⟨sid, short, dnsName, netbiosName, rfl, rfl, rfl⟩, rfl⟩
        · rintro ⟨_, _, _, ⟨length, rfl⟩, ⟨sid, short, dnsName, netbiosName, rfl, rfl, rfl⟩, rfl⟩
          exact ⟨sid, short, dnsName, netbiosName, length, rfl, rfl⟩
  · intro field domain
    constructor
    · rintro ⟨sid, short, dnsName, netbiosName, rfl, rfl⟩
      have below : sid.encode.length < 2 ^ 32 := by
        rw [sid.length_encode]
        omega
      exact ⟨_, _, _, ⟨below, rfl⟩, ⟨sid, short, dnsName, netbiosName, rfl, rfl, rfl⟩, rfl⟩
    · rintro ⟨_, _, _, ⟨_, rfl⟩, ⟨sid, short, dnsName, netbiosName, rfl, rfl, rfl⟩, rfl⟩
      exact ⟨sid, short, dnsName, netbiosName, rfl, rfl⟩

theorem agrees_subOffset {Reason : Type} {left right : Nat} (ordered : right ≤ left) :
    Agrees (subOffset left right : Checked Reason Nat) (.ok (left - right)) := by
  unfold subOffset
  rw [if_pos ordered]
  exact agrees_pure _

theorem decodes_unknownRecord (number recordLen : Nat) (recordType : UInt8) {start : Nat}
    (begun : start ≤ reader.pos) :
    Decodes (skipUnknownRecord reader number start recordLen recordType) reader
      (fun field domain => recordLen ≠ 0 ∧ recordLen = reader.pos - start + field.length ∧
        domain = none) := by
  unfold skipUnknownRecord
  by_cases zero : recordLen = 0
  · rw [if_pos zero]
    exact decodes_throw _ (fun _ _ known => known.1 zero)
  · rw [if_neg zero]
    apply Decodes.pass (agrees_subOffset begun)
    by_cases shorter : recordLen < reader.pos - start
    · rw [if_pos shorter]
      apply decodes_throw
      rintro field domain ⟨_, length, _⟩
      omega
    · rw [if_neg shorter]
      apply (decodes_take reader _ "unknown record").settle (fun _ _ => .ok none)
      · exact fun _ _ _ _ => agrees_pure _
      · intro field domain
        constructor
        · rintro ⟨_, length, rfl⟩
          exact ⟨field, ⟨by omega, rfl⟩, rfl⟩
        · rintro ⟨_, ⟨length, rfl⟩, same⟩
          cases same
          exact ⟨zero, by omega, rfl⟩

/-- The types 0 and 1 are those of names. -/
theorem RecordData.exists_topLevelName {data : RecordData}
    (type : data.recordType = 0 ∨ data.recordType = 1) :
    ∃ excluded name, data = .topLevelName excluded name := by
  cases data with
  | topLevelName excluded name => exact ⟨excluded, name, rfl⟩
  | domain =>
      rcases type with same | same
      · cases same
      · cases same
  | unknown kind other _ =>
      rcases type with same | same
      · rw [show kind = 0 from same] at other
        exact absurd other (by decide)
      · rw [show kind = 1 from same] at other
        exact absurd other (by decide)

theorem RecordData.exists_domain {data : RecordData} (type : data.recordType = 2) :
    ∃ sid short dnsName netbiosName, data = .domain sid short dnsName netbiosName := by
  cases data with
  | topLevelName excluded name => cases excluded <;> cases type
  | domain sid short dnsName netbiosName => exact ⟨sid, short, dnsName, netbiosName, rfl⟩
  | unknown kind other _ =>
      rw [show kind = 2 from type] at other
      exact absurd other (by decide)

theorem RecordData.exists_unknown {data : RecordData}
    (noName : ¬ (data.recordType = 0 ∨ data.recordType = 1)) (noDomain : data.recordType ≠ 2) :
    ∃ kind other bytes, data = .unknown kind other bytes := by
  cases data with
  | topLevelName excluded name =>
      cases excluded
      · exact absurd (Or.inl rfl) noName
      · exact absurd (Or.inr rfl) noName
  | domain => exact absurd rfl noDomain
  | unknown kind other bytes => exact ⟨kind, other, bytes, rfl⟩

/-- The remaining types are those of unknown records. -/
theorem two_lt_of_unknown {recordType : UInt8} (noName : ¬ (recordType = 0 ∨ recordType = 1))
    (noDomain : recordType ≠ 2) : 2 < recordType := by
  have zero : recordType.toNat ≠ 0 := fun same => noName (Or.inl (UInt8.toNat_inj.mp same))
  have one : recordType.toNat ≠ 1 := fun same => noName (Or.inr (UInt8.toNat_inj.mp same))
  have two : recordType.toNat ≠ 2 := fun same => noDomain (UInt8.toNat_inj.mp same)
  rw [UInt8.lt_iff_toNat_lt]
  change 2 < recordType.toNat
  omega

/-- The data of a record, of which an unknown type has an exact length. -/
theorem decodes_recordData (number recordLen flags : Nat) (recordType : UInt8) {start : Nat}
    (begun : start ≤ reader.pos) :
    Decodes (parseRecordData reader number start recordLen flags recordType) reader
      (fun field domain => ∃ data : RecordData, data.recordType = recordType ∧
        (data.known ∨ recordLen ≠ 0 ∧ recordLen = reader.pos - start + field.length) ∧
        field = data.encode ∧ domain = data.domain? (BitVec.ofNat 32 flags)) := by
  unfold parseRecordData
  by_cases topLevel : recordType = 0 ∨ recordType = 1
  · rw [if_pos topLevel]
    apply (decodes_name reader "top-level name").settle (fun _ _ => .ok none)
    · exact fun _ _ _ _ => agrees_pure _
    · intro field domain
      constructor
      · rintro ⟨data, rfl, _, rfl, rfl⟩
        rcases RecordData.exists_topLevelName topLevel with ⟨excluded, name, rfl⟩
        exact ⟨name.text, ⟨name, rfl, rfl⟩, rfl⟩
      · rintro ⟨_, ⟨name, rfl, rfl⟩, same⟩
        cases same
        rcases topLevel with rfl | rfl
        · exact ⟨.topLevelName false name, rfl, Or.inl rfl, rfl, rfl⟩
        · exact ⟨.topLevelName true name, rfl, Or.inl rfl, rfl, rfl⟩
  · rw [if_neg topLevel]
    by_cases domainInfo : recordType = 2
    · rw [if_pos domainInfo]
      apply (decodes_domainRecord reader number flags).congr
      intro field domain
      constructor
      · rintro ⟨sid, short, dnsName, netbiosName, rfl, rfl⟩
        exact ⟨.domain sid short dnsName netbiosName, domainInfo.symm, Or.inl rfl, rfl, rfl⟩
      · rintro ⟨data, rfl, _, rfl, rfl⟩
        rcases RecordData.exists_domain domainInfo with ⟨sid, short, dnsName, netbiosName, rfl⟩
        exact ⟨sid, short, dnsName, netbiosName, rfl, rfl⟩
    · rw [if_neg domainInfo]
      apply (decodes_unknownRecord reader number recordLen recordType begun).congr
      intro field domain
      constructor
      · rintro ⟨nonzero, length, rfl⟩
        exact ⟨.unknown recordType (two_lt_of_unknown topLevel domainInfo) field, rfl,
          Or.inr ⟨nonzero, length⟩, rfl, rfl⟩
      · rintro ⟨data, rfl, length, rfl, rfl⟩
        rcases RecordData.exists_unknown topLevel domainInfo with ⟨kind, other, bytes, rfl⟩
        rcases length with known | ⟨nonzero, counted⟩
        · cases known
        · exact ⟨nonzero, counted, rfl⟩

theorem exists_vector {bytes : List UInt8} {length : Nat} (same : bytes.length = length) :
    ∃ vector : Vector UInt8 length, vector.toList = bytes :=
  ⟨⟨bytes.toArray, same⟩, rfl⟩

/-- The length of a record is exact, or zero where the type is known. -/
def Counted (recordLen : Nat) (data : RecordData) (length : Nat) : Prop :=
  recordLen = length ∨ recordLen = 0 ∧ data.known

/-- The data of a record whose length counts what was read before as well. -/
theorem decodes_countedData (number recordLen flags : Nat) (recordType : UInt8) {start : Nat}
    (begun : start < reader.pos) :
    Decodes (parseCountedData reader number start recordLen flags recordType) reader
      (fun field domain => ∃ data : RecordData, data.recordType = recordType ∧
        field = data.encode ∧ Counted recordLen data (reader.pos - start + field.length) ∧
        domain = data.domain? (BitVec.ofNat 32 flags)) := by
  apply (decodes_recordData reader number recordLen flags recordType (Nat.le_of_lt begun)).settle
    (fun field domain =>
      let read := reader.pos + field.length - start
      if recordLen ≠ 0 ∧ recordLen ≠ read then
        .error s!"record {number}: record length {recordLen} but {read} bytes of record data"
      else .ok domain)
  · rintro field domain _ _
    apply (agrees_subOffset (by rw [Cursor.pos_advance]; omega)).pass
    dsimp only [Cursor.pos_advance]
    split
    · exact agrees_throw _
    · exact agrees_pure _
  · intro field domain
    have read : reader.pos + field.length - start = reader.pos - start + field.length := by omega
    rw [read]
    constructor
    · rintro ⟨data, type, rfl, counted, rfl⟩
      refine ⟨_, ⟨data, type, ?_, rfl, rfl⟩, if_neg ?_⟩
      · rcases counted with stated | ⟨_, known⟩
        · exact Or.inr ⟨by omega, stated⟩
        · exact Or.inl known
      · rintro ⟨nonzero, other⟩
        rcases counted with stated | ⟨zero, _⟩
        · exact other stated
        · exact nonzero zero
    · rintro ⟨_, ⟨data, type, counted, rfl, rfl⟩, checked⟩
      by_cases wrong : recordLen ≠ 0 ∧ recordLen ≠ reader.pos - start + data.encode.length
      · rw [if_pos wrong] at checked
        cases checked
      · rw [if_neg wrong] at checked
        cases checked
        refine ⟨data, type, rfl, ?_, rfl⟩
        rcases counted with known | ⟨_, stated⟩
        · by_cases zero : recordLen = 0
          · exact Or.inr ⟨zero, known⟩
          · exact Or.inl (by omega)
        · exact Or.inl stated

/-- The type of a record and its data. -/
theorem decodes_typedData (number recordLen flags : Nat) {start : Nat}
    (begun : start ≤ reader.pos) :
    Decodes
      (do let (recordType, reader) ← reader.u8 "record type"
          parseCountedData reader number start recordLen flags recordType)
      reader (fun field domain => ∃ data : RecordData, field = data.recordType :: data.encode ∧
        Counted recordLen data (reader.pos - start + field.length) ∧
        domain = data.domain? (BitVec.ofNat 32 flags)) := by
  apply (decodes_u8 reader "record type").bind (fun _ recordType after domain =>
    ∃ data : RecordData, data.recordType = recordType ∧ after = data.encode ∧
      Counted recordLen data (reader.pos + 1 - start + after.length) ∧
      domain = data.domain? (BitVec.ofNat 32 flags))
  · rintro _ recordType rfl _
    exact decodes_countedData _ number recordLen flags recordType (Nat.lt_succ_of_le begun)
  · have length (data : RecordData) : reader.pos + 1 - start + data.encode.length =
        reader.pos - start + (data.recordType :: data.encode).length := by
      rw [List.length_cons]
      omega
    intro field domain
    constructor
    · rintro ⟨data, rfl, counted, rfl⟩
      exact ⟨_, _, _, rfl, ⟨data, rfl, rfl, length data ▸ counted, rfl⟩, rfl⟩
    · rintro ⟨_, _, _, rfl, ⟨data, rfl, rfl, counted, rfl⟩, rfl⟩
      exact ⟨data, rfl, length data ▸ counted, rfl⟩

/-- The timestamp of a record, its type and its data. -/
theorem decodes_stampedData (number recordLen flags : Nat) {start : Nat}
    (begun : start ≤ reader.pos) :
    Decodes
      (do let (_, reader) ← reader.take 8 "timestamp"
          let (recordType, reader) ← reader.u8 "record type"
          parseCountedData reader number start recordLen flags recordType)
      reader (fun field domain => ∃ (timestamp : Vector UInt8 8) (data : RecordData),
        field = timestamp.toList ++ (data.recordType :: data.encode) ∧
        Counted recordLen data (reader.pos - start + field.length) ∧
        domain = data.domain? (BitVec.ofNat 32 flags)) := by
  apply (decodes_take reader 8 "timestamp").bind (fun _ _ after domain => ∃ data : RecordData,
    after = data.recordType :: data.encode ∧
    Counted recordLen data (reader.pos + 8 - start + after.length) ∧
    domain = data.domain? (BitVec.ofNat 32 flags))
  · rintro _ timestamp ⟨eight, rfl⟩ _
    have data := decodes_typedData (reader.advance 8) number recordLen flags
      (Nat.le_add_right_of_le begun)
    rw [eight]
    exact data
  · have length (timestamp : Vector UInt8 8) (rest : List UInt8) :
        reader.pos + 8 - start + rest.length =
          reader.pos - start + (timestamp.toList ++ rest).length := by
      rw [List.length_append, timestamp.length_toList]
      omega
    intro field domain
    constructor
    · rintro ⟨timestamp, data, rfl, counted, rfl⟩
      exact ⟨_, _, _, ⟨timestamp.length_toList, rfl⟩,
        ⟨data, rfl, length timestamp _ ▸ counted, rfl⟩, rfl⟩
    · rintro ⟨_, _, _, ⟨eight, rfl⟩, ⟨data, rfl, counted, rfl⟩, rfl⟩
      rcases exists_vector eight with ⟨timestamp, rfl⟩
      exact ⟨timestamp, data, rfl, length timestamp _ ▸ counted, rfl⟩

/-- A record, with its length before it. -/
theorem decodes_record (number : Nat) : Decodes (parseRecord reader number) reader
    (fun field domain => ∃ record : TrustRecord, field = record.encode ∧
      domain = record.data.domain? record.flags) := by
  apply (decodes_u32 reader "record length").bind (fun _ recordLen after domain =>
    ∃ flags timestamp data, after = recordContent flags timestamp data ∧
      Counted recordLen data after.length ∧ domain = data.domain? flags)
  · rintro _ recordLen ⟨_, rfl⟩ _
    apply (decodes_u32 _ "flags").bind (fun _ flags after domain =>
      ∃ (timestamp : Vector UInt8 8) (data : RecordData),
        after = timestamp.toList ++ (data.recordType :: data.encode) ∧
        Counted recordLen data (4 + after.length) ∧
        domain = data.domain? (BitVec.ofNat 32 flags))
    · rintro _ flags ⟨_, rfl⟩ _
      have data := decodes_stampedData ((reader.advance 4).advance 4) number recordLen flags
        (Nat.le_add_right (reader.advance 4).pos 4)
      rw [Cursor.pos_advance (reader.advance 4), Nat.add_sub_cancel_left] at data
      exact data
    · intro after domain
      constructor
      · rintro ⟨flags, timestamp, data, rfl, counted, rfl⟩
        have length : (recordContent flags timestamp data).length =
            4 + (timestamp.toList ++ (data.recordType :: data.encode)).length := by
          rw [recordContent, List.length_append, length_littleEndianBytes]
        refine ⟨_, _, _, ⟨flags.isLt, rfl⟩, ⟨timestamp, data, rfl, length ▸ counted, ?_⟩, rfl⟩
        rw [BitVec.ofNat_toNat, BitVec.setWidth_eq]
      · rintro ⟨_, flags, _, ⟨fits, rfl⟩, ⟨timestamp, data, rfl, counted, rfl⟩, rfl⟩
        have same : (BitVec.ofNat 32 flags).toNat = flags := by
          rw [BitVec.toNat_ofNat]
          exact Nat.mod_eq_of_lt fits
        refine ⟨BitVec.ofNat 32 flags, timestamp, data, ?_, ?_, rfl⟩
        · rw [recordContent, same]
        · rw [List.length_append, length_littleEndianBytes]
          exact counted
  · intro field domain
    constructor
    · rintro ⟨⟨recordLen, flags, timestamp, data, counted, fits⟩, rfl, rfl⟩
      exact ⟨_, _, _, ⟨fits, rfl⟩, ⟨flags, timestamp, data, rfl, counted, rfl⟩, rfl⟩
    · rintro ⟨_, recordLen, _, ⟨fits, rfl⟩, ⟨flags, timestamp, data, rfl, counted, rfl⟩, rfl⟩
      exact ⟨⟨recordLen, flags, timestamp, data, counted, fits⟩, rfl, rfl⟩

theorem decodes_records (left : Nat) : ∀ (number : Nat) (reader : Reader),
    reader.pos ≤ reader.data.length →
    Decodes (parseRecords left number reader) reader (fun field domains =>
      ∃ records : List TrustRecord, records.length = left ∧
        field = records.flatMap TrustRecord.encode ∧
        domains = records.flatMap (fun record => (record.data.domain? record.flags).toList)) := by
  induction left with
  | zero =>
      intro number reader inside
      apply (decodes_pure [] inside).congr
      intro field domains
      constructor
      · rintro ⟨rfl, rfl⟩
        exact ⟨[], rfl, rfl, rfl⟩
      · rintro ⟨records, none, rfl, rfl⟩
        rw [List.length_eq_zero_iff.mp none]
        exact ⟨rfl, rfl⟩
  | succ left ih =>
      intro number reader inside
      apply (decodes_record reader number).bind (fun _ domain after domains =>
        ∃ records : List TrustRecord, records.length = left ∧
          after = records.flatMap TrustRecord.encode ∧ domains = domain.toList ++
            records.flatMap (fun record => (record.data.domain? record.flags).toList))
      · rintro field domain _ has
        apply (ih (number + 1) (reader.advance field.length) has.le).settle
          (fun _ rest => .ok (domain.toList ++ rest))
        · exact fun _ _ _ _ => agrees_pure _
        · intro after domains
          constructor
          · rintro ⟨records, counted, rfl, rfl⟩
            exact ⟨_, ⟨records, counted, rfl, rfl⟩, rfl⟩
          · rintro ⟨_, ⟨records, counted, rfl, rfl⟩, same⟩
            cases same
            exact ⟨records, counted, rfl, rfl⟩
      · intro field domains
        constructor
        · rintro ⟨records, counted, rfl, rfl⟩
          cases records with
          | nil => cases counted
          | cons record records =>
              exact ⟨_, _, _, ⟨record, rfl, rfl⟩, ⟨records, Nat.succ.inj counted, rfl, rfl⟩, rfl⟩
        · rintro ⟨_, _, _, ⟨record, rfl, rfl⟩, ⟨records, counted, rfl, rfl⟩, rfl⟩
          exact ⟨record :: records, congrArg _ counted, rfl, rfl⟩

theorem decodes_recordList : Decodes (parseRecordList reader) reader
    (fun field listed => ∃ info : TrustInfo, field = info.encode ∧
      listed = (info.records.length, info.domains)) := by
  apply (decodes_u32 reader "version").bind (fun _ version after listed =>
    version = 1 ∧ ∃ info : TrustInfo, after = littleEndianBytes 4 info.records.length ++
      info.records.flatMap TrustRecord.encode ∧ listed = (info.records.length, info.domains))
  · rintro _ version ⟨_, rfl⟩ _
    dsimp only
    by_cases other : version ≠ 1
    · rw [if_pos other]
      exact decodes_throw _ (fun _ _ known => other known.1)
    · rw [if_neg other]
      apply (decodes_u32 _ "record count").bind (fun _ count after listed =>
        ∃ info : TrustInfo, info.records.length = count ∧
          after = info.records.flatMap TrustRecord.encode ∧ listed = (count, info.domains))
      · rintro _ count ⟨_, rfl⟩ hasCount
        dsimp only
        by_cases many : count > maxRecords
        · rw [if_pos many]
          apply decodes_throw
          rintro after listed ⟨info, rfl, _⟩
          exact absurd info.few (Nat.not_le.mpr many)
        · rw [if_neg many]
          apply (decodes_records count 0 _ hasCount.le).settle
            (fun _ domains => .ok (count, domains))
          · exact fun _ _ _ _ => agrees_pure _
          · intro after listed
            constructor
            · rintro ⟨info, rfl, rfl, rfl⟩
              exact ⟨_, ⟨info.records, rfl, rfl, rfl⟩, rfl⟩
            · rintro ⟨_, ⟨records, rfl, rfl, rfl⟩, same⟩
              cases same
              exact ⟨⟨records, Nat.le_of_not_lt many⟩, rfl, rfl, rfl⟩
      · intro after listed
        constructor
        · rintro ⟨_, info, rfl, rfl⟩
          have fits : info.records.length < 2 ^ 32 := Nat.lt_of_le_of_lt info.few (by decide)
          exact ⟨_, _, _, ⟨fits, rfl⟩, ⟨info, rfl, rfl, rfl⟩, rfl⟩
        · rintro ⟨_, _, _, ⟨_, rfl⟩, ⟨info, rfl, rfl, rfl⟩, rfl⟩
          exact ⟨not_not.mp other, info, rfl, rfl⟩
  · intro field listed
    constructor
    · rintro ⟨info, rfl, rfl⟩
      exact ⟨_, 1, _, ⟨by decide, rfl⟩, ⟨rfl, info, rfl, rfl⟩, rfl⟩
    · rintro ⟨_, _, _, ⟨_, rfl⟩, ⟨rfl, info, rfl, rfl⟩, rfl⟩
      exact ⟨info, rfl, rfl⟩

end Parts

/-! ## Accepted values -/

/-- Values that begin in the same way are equal. -/
theorem TrustInfo.encode_unique {info other : TrustInfo} {data : List UInt8}
    (has : Holds data 0 info.encode) (otherHas : Holds data 0 other.encode) :
    info.encode = other.encode ∧ info.domains = other.domains := by
  rcases (decodes_recordList { data := data, pos := 0 }).unique ⟨info, rfl, rfl⟩ has
    ⟨other, rfl, rfl⟩ otherHas with ⟨same, sameListed⟩
  exact ⟨same, (Prod.mk.inj sameListed).2⟩

/-- The parser is not stopped, and it accepts exactly the encoded values. -/
theorem parseForestTrustInfo_spec (data : List UInt8) :
    ∃ result, (parseForestTrustInfo data).run = .ok result ∧
      ∀ domains, result = .ok domains ↔
        ∃ info : TrustInfo, info.encode = data ∧ info.domains = domains := by
  rcases decodes_recordList { data := data, pos := 0 } with ⟨result, agrees, iff⟩
  cases result with
  | error reason =>
      refine ⟨.error reason, agrees.fail _, ?_⟩
      intro domains
      constructor
      · intro impossible
        cases impossible
      · rintro ⟨info, rfl, rfl⟩
        have impossible := (iff _ _).mpr ⟨_, ⟨info, rfl, rfl⟩, holds_self info.encode, rfl⟩
        cases impossible
  | ok listed =>
      rcases listed with ⟨⟨count, listed⟩, reader⟩
      rcases (iff _ _).mp rfl with ⟨_, ⟨info, rfl, same⟩, has, rfl⟩
      cases same
      by_cases trailing : 0 + info.encode.length ≠ data.length
      · have stops : ∃ reason, Agrees (parseForestTrustInfo data) (.error reason) := by
          apply Exists.intro
          apply agrees.pass
          change Agrees (if 0 + info.encode.length ≠ data.length then _ else _) _
          rw [if_pos trailing]
          exact (agrees_subOffset has.le).pass (agrees_throw _)
        rcases stops with ⟨reason, stops⟩
        refine ⟨.error reason, stops, ?_⟩
        intro domains
        constructor
        · intro impossible
          cases impossible
        · rintro ⟨other, rfl, _⟩
          rw [(TrustInfo.encode_unique has (holds_self other.encode)).1] at trailing
          exact absurd (Nat.zero_add _) trailing
      · rw [not_not, Nat.zero_add] at trailing
        have whole := has.eq_of_length trailing
        refine ⟨.ok info.domains, agrees.pass ?_, ?_⟩
        · change Agrees (if 0 + info.encode.length ≠ data.length then _ else _) _
          rw [if_neg (by omega)]
          exact agrees_pure _
        · intro domains
          constructor
          · intro same
            exact ⟨info, whole, Except.ok.inj same⟩
          · rintro ⟨other, same, rfl⟩
            rw [← same] at has
            rw [(TrustInfo.encode_unique has (holds_self other.encode)).2]

/-- The parser is never stopped, it accepts exactly the encoded values and returns
their domains in order, and no accepted value is a proper part of another one. -/
theorem forestTrustInfo_grammar :
    (∀ data, ∃ result, (parseForestTrustInfo data).run = .ok result ∧
      ∀ domains, result = .ok domains ↔
        ∃ info : TrustInfo, info.encode = data ∧ info.domains = domains) ∧
    (∀ data longer domains others, (parseForestTrustInfo data).run = .ok (.ok domains) →
      (parseForestTrustInfo longer).run = .ok (.ok others) → data <+: longer → data = longer) := by
  refine ⟨parseForestTrustInfo_spec, ?_⟩
  rintro data longer domains others accepted otherAccepted ⟨more, rfl⟩
  have encoded : ∀ {value listed}, (parseForestTrustInfo value).run = .ok (.ok listed) →
      ∃ info : TrustInfo, info.encode = value := by
    intro value listed known
    rcases parseForestTrustInfo_spec value with ⟨result, run, iff⟩
    rw [run] at known
    rcases (iff listed).mp (Except.ok.inj known) with ⟨info, same, _⟩
    exact ⟨info, same⟩
  rcases encoded accepted with ⟨info, rfl⟩
  rcases encoded otherAccepted with ⟨other, same⟩
  rw [← same]
  apply (TrustInfo.encode_unique _ (holds_self other.encode)).1
  rw [same]
  exact holds_append_left

/-- A record of unknown type is skipped by its length. -/
example : (parseForestTrustInfo ([1, 0, 0, 0, 1, 0, 0, 0, 16, 0, 0, 0] ++
    List.replicate 12 0 ++ [9, 7, 7, 7])).run = .ok (.ok []) := by rfl

end AdResolver
end Stars

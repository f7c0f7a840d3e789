import Stars.Collections.CheckedMemo
import Stars.FsScanner.Acl

namespace Stars
namespace FsScanner

open Collections

/-!
# Reading through a descriptor cache

A scan parses every descriptor once: the parse is kept under a hash of the raw
descriptor bytes and reused for a descriptor with the same bytes.  The hash is a
parameter of the cached read, so that nothing below depends on `fnv1a64` telling
descriptors apart.
-/

/-- The raw bytes of a self-relative descriptor; empty without a descriptor. -/
abbrev SdBytes := List (BitVec 8)

/-- A parsed descriptor with the bytes it was parsed from. -/
abbrev ParsedSecurity := Kept SdBytes ParsedFields

/-- The parsed descriptors of one scan, each under the hash of its bytes. -/
abbrev SdCache := CheckedMemo (BitVec 64) SdBytes ParsedFields

def fnv1a64 (bytes : SdBytes) : BitVec 64 :=
  bytes.foldl (fun hash byte => (hash ^^^ byte.setWidth 64) * 0x00000100000001b3#64)
    0xcbf29ce484222325#64

/-- What the calls for one path return, with the bytes of the descriptor. -/
structure ObjectReading extends PathReading where
  sdBytes : SdBytes

/-- The object made of the attributes, the parsed descriptor and the link. -/
def fileSystemObject (path : String) (attributes : BitVec 32) (parsed : ParsedFields)
    (linkTarget : Option LinkInfo) : FileSystemObject :=
  let isReparsePoint := attributes &&& fileAttributeReparsePoint ≠ 0#32
  { path := Validation.stripLongPathPrefix path
    isDirectory := attributes &&& fileAttributeDirectory ≠ 0#32
    ownerSid := parsed.ownerSid
    dacl := parsed.dacl
    inheritanceDisabled := parsed.inheritanceDisabled
    isReparsePoint := isReparsePoint
    unsupportedAces := parsed.unsupportedAces
    nullDacl := parsed.nullDacl
    link := if isReparsePoint then linkTarget else none }

/-- Attributes, owner and access list of one path through a shared cache.  Both
failures come before the cache is asked. -/
def readFileSystemObjectCached (hash : SdBytes → BitVec 64) (path : String)
    (reading : ObjectReading) (cache : SdCache) : Except CoreError FileSystemObject × SdCache :=
  match reading.attributes with
  | .error code => (.error (attributesError path code), cache)
  | .ok attributes =>
      match reading.security with
      | .error code => (.error (securityError path code), cache)
      | .ok (descriptor, calls) =>
          let (parsed, cache) := cache.ask (hash reading.sdBytes) reading.sdBytes
            (parseSecurity calls descriptor)
          (.ok (fileSystemObject path attributes parsed reading.linkTarget), cache)

/-- The reads of a scan, one after the other through one cache. -/
def readObjectsCached (hash : SdBytes → BitVec 64) (cache : SdCache) :
    List (String × ObjectReading) → List (Except CoreError FileSystemObject)
  | [] => []
  | (path, reading) :: rest =>
      let (object, cache) := readFileSystemObjectCached hash path reading cache
      object :: readObjectsCached hash cache rest

/-- The parse of what is read depends on the descriptor bytes only. -/
def ParsedFromBytes (parse : SdBytes → ParsedFields) (reading : ObjectReading) : Prop :=
  ∀ descriptor calls, reading.security = .ok (descriptor, calls) →
    parseSecurity calls descriptor = parse reading.sdBytes

/-- A read with nothing in the cache is the plain read. -/
theorem readFileSystemObjectCached_nil (hash : SdBytes → BitVec 64) (path : String)
    (reading : ObjectReading) :
    (readFileSystemObjectCached hash path reading []).1 =
      readFileSystemObject path reading.toPathReading := by
  unfold readFileSystemObjectCached readFileSystemObject
  cases reading.attributes with
  | error code => rfl
  | ok attributes =>
      cases reading.security with
      | error code => rfl
      | ok opened => rfl

section Cached

variable {hash : SdBytes → BitVec 64} {parse : SdBytes → ParsedFields} {cache : SdCache}
  (faithful : cache.Faithful parse) {path : String} {reading : ObjectReading}
  (determined : ParsedFromBytes parse reading)

include faithful determined

/-- One read through a faithful cache gives what a read with an empty cache
gives. -/
theorem readFileSystemObjectCached_object :
    (readFileSystemObjectCached hash path reading cache).1 =
      (readFileSystemObjectCached hash path reading []).1 := by
  unfold readFileSystemObjectCached
  cases reading.attributes with
  | error code => rfl
  | ok attributes =>
      cases opened : reading.security with
      | error code => rfl
      | ok pair =>
          have parsed := determined pair.1 pair.2 opened
          have shared := CheckedMemo.ask_result faithful (hash reading.sdBytes) reading.sdBytes
          have empty : CheckedMemo.Faithful parse ([] : SdCache) := CheckedMemo.faithful_nil
          have alone := CheckedMemo.ask_result empty (hash reading.sdBytes) reading.sdBytes
          simp only [parsed, shared, alone]

theorem faithful_readFileSystemObjectCached :
    (readFileSystemObjectCached hash path reading cache).2.Faithful parse := by
  unfold readFileSystemObjectCached
  cases reading.attributes with
  | error code => exact faithful
  | ok attributes =>
      cases opened : reading.security with
      | error code => exact faithful
      | ok pair =>
          have parsed := determined pair.1 pair.2 opened
          simp only [parsed]
          exact CheckedMemo.faithful_ask faithful _ _

end Cached

theorem readObjectsCached_eq_map {hash : SdBytes → BitVec 64} {parse : SdBytes → ParsedFields}
    {reads : List (String × ObjectReading)}
    (determined : ∀ read ∈ reads, ParsedFromBytes parse read.2) {cache : SdCache}
    (faithful : cache.Faithful parse) :
    readObjectsCached hash cache reads =
      reads.map (fun read => (readFileSystemObjectCached hash read.1 read.2 []).1) := by
  induction reads generalizing cache with
  | nil => rfl
  | cons read rest ih =>
      have here := determined read (.head _)
      have later : ∀ other ∈ rest, ParsedFromBytes parse other.2 :=
        fun other member => determined other (.tail _ member)
      have kept : (readFileSystemObjectCached hash read.1 read.2 cache).2.Faithful parse :=
        faithful_readFileSystemObjectCached faithful here
      change (readFileSystemObjectCached hash read.1 read.2 cache).1 ::
        readObjectsCached hash (readFileSystemObjectCached hash read.1 read.2 cache).2 rest = _
      rw [List.map_cons, readFileSystemObjectCached_object faithful here, ih later kept]

/-- Whatever the hash, the objects read through one shared cache are the objects
read with an empty cache each, and these are the plain reads. -/
theorem sharedCache_transparent (hash : SdBytes → BitVec 64) (parse : SdBytes → ParsedFields)
    (reads : List (String × ObjectReading))
    (determined : ∀ read ∈ reads, ParsedFromBytes parse read.2) :
    readObjectsCached hash [] reads =
        reads.map (fun read => (readFileSystemObjectCached hash read.1 read.2 []).1) ∧
      readObjectsCached hash [] reads =
        reads.map (fun read => readFileSystemObject read.1 read.2.toPathReading) := by
  have shared : readObjectsCached hash [] reads =
      reads.map (fun read => (readFileSystemObjectCached hash read.1 read.2 []).1) :=
    readObjectsCached_eq_map determined CheckedMemo.faithful_nil
  refine ⟨shared, shared.trans ?_⟩
  apply List.map_congr_left
  intro read _
  exact readFileSystemObjectCached_nil hash read.1 read.2

/-! ## Two descriptors under one hash -/

def everythingRead : Win32Calls where
  ownerConverted := true
  aclInformation := true
  ace := fun _ => true
  trusteeConverted := fun _ => true
  descriptorControl := true

/-- An object whose descriptor bytes are one byte, and whose list is empty or
missing according to it. -/
def smallReading (byte : BitVec 8) : ObjectReading where
  attributes := .ok fileAttributeDirectory
  security := .ok (⟨none, if byte = 0#8 then none else some [], 0#16⟩, everythingRead)
  linkTarget := none
  sdBytes := [byte]

def smallParse (bytes : SdBytes) : ParsedFields where
  ownerSid := none
  dacl := []
  unsupportedAces := []
  nullDacl := bytes = [0#8]
  inheritanceDisabled := false

theorem parsedFromBytes_smallReading (byte : BitVec 8) :
    ParsedFromBytes smallParse (smallReading byte) := by
  intro descriptor calls opened
  cases opened
  by_cases missing : byte = 0#8
  · subst missing
    decide
  · unfold parseSecurity smallParse smallReading
    simp [missing, parseDacl, everythingRead]

/-- With every descriptor under the same hash, a NULL DACL and an empty one are
still told apart. -/
theorem sharedCache_transparent_collision :
    readObjectsCached (fun _ => 0#64) []
        [("C:\\a", smallReading 0#8), ("C:\\b", smallReading 1#8), ("C:\\a", smallReading 0#8)] =
      [readFileSystemObject "C:\\a" (smallReading 0#8).toPathReading,
        readFileSystemObject "C:\\b" (smallReading 1#8).toPathReading,
        readFileSystemObject "C:\\a" (smallReading 0#8).toPathReading] := by
  refine (sharedCache_transparent (fun _ => 0#64) smallParse _ ?_).2
  intro read member
  simp only [List.mem_cons, List.not_mem_nil, or_false] at member
  rcases member with rfl | rfl | rfl
  · exact parsedFromBytes_smallReading 0#8
  · exact parsedFromBytes_smallReading 1#8
  · exact parsedFromBytes_smallReading 0#8

end FsScanner
end Stars

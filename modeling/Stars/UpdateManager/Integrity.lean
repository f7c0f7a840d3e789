import Stars.Json.Writing
import Stars.UpdateManager.ManifestPath
import Stars.UpdateManager.Verifier

namespace Stars
namespace UpdateManager

open Collections
open Json

/-!
# Integrity of an update

A manifest is accepted when it passes its schema, when the verifier accepts its
signature and when each of its files was supplied with the stated size and hash.  The
signed bytes determine the whole manifest apart from the signature.  A file is looked
up by its exact path, and the first content supplied for it is checked.
-/

structure ManifestFile where
  path : String
  sha256 : String
  sizeBytes : UInt64
deriving DecidableEq

/-- The whole manifest.  The release decision reads its first part only. -/
structure SignedManifest extends UpdateManifest where
  manifestVersion : UInt32
  files : List ManifestFile
  signature : String
deriving DecidableEq

def isHexDigit (letter : Char) : Bool :=
  letter.isDigit || ('a' ≤ letter && letter ≤ 'f') || ('A' ≤ letter && letter ≤ 'F')

def checkManifestFile (file : ManifestFile) : Except CoreError Unit := do
  let path := file.path
  validateManifestRelativePath path
  if file.sha256.utf8ByteSize ≠ 64 || !file.sha256.toList.all isHexDigit then
    .error (.validation s!"file '{path}' has invalid sha256 (must be 64 hex chars)")
  else if file.sizeBytes = 0 then .error (.validation s!"file '{path}' size_bytes must be > 0")
  else .ok ()

def isBlank (text : String) : Bool := (Text.trim text.toList).isEmpty

def validateSchema (manifest : SignedManifest) : Except CoreError Unit :=
  if manifest.manifestVersion = 0 then .error (.validation "manifest_version must be >= 1")
  else if isBlank manifest.appVersion then .error (.validation "app_version must not be empty")
  else do
    let _ ← (AppVersion.parse manifest.appVersion).mapError (fun reason =>
      .validation s!"app_version is not a valid version: {reason.display}")
    if isBlank manifest.issuedAt then .error (.validation "issued_at must not be empty")
    else if isBlank manifest.signature then
      .error (.validation "signature must not be empty — unsigned manifests are rejected")
    else if manifest.files.isEmpty then
      .error (.validation "files must contain at least one entry")
    else manifest.files.forM checkManifestFile

/-- The name of a platform in a manifest. -/
def TargetPlatform.serialized : TargetPlatform → String
  | windowsX8664 => "windows-x86_64"
  | windowsAarch64 => "windows-aarch64"

def writeFile (file : ManifestFile) : List Char :=
  '{' :: member "path" (writeText file.path)
    (',' :: member "sha256" (writeText file.sha256)
      (',' :: member "size_bytes" (writeNumber file.sizeBytes.toNat) ['}']))

def writeManifest (manifest : SignedManifest) : List Char :=
  '{' :: member "manifest_version" (writeNumber manifest.manifestVersion.toNat)
    (',' :: member "app_version" (writeText manifest.appVersion)
      (',' :: member "channel" (writeText manifest.channel.debug)
        (',' :: member "platform" (writeText manifest.platform.serialized)
          (',' :: member "issued_at" (writeText manifest.issuedAt)
            (',' :: member "files" (writeArray writeFile manifest.files)
              (',' :: member "signature" (writeText manifest.signature) ['}']))))))

/-- The manifest without its signature.  Writing texts and numbers does not fail. -/
def signableBytes (manifest : SignedManifest) : List UInt8 :=
  AdResolver.utf8Bytes (String.ofList (writeManifest { manifest with signature := "" }))

abbrev Content := List UInt8

section Check

-- The signature backend and the hash function.
variable (verify : List UInt8 → String → Except CoreError Unit) (sha256Hex : Content → String)

def verifyFileBytes (entry : ManifestFile) (content : Content) : Except CoreError Unit :=
  let path := entry.path
  let size := entry.sizeBytes
  let length := content.length
  let expected := entry.sha256
  let actual := sha256Hex content
  if content.length ≠ entry.sizeBytes.toNat then
    .error (.validation s!"file '{path}': size mismatch (expected {size}, got {length})")
  else if actual ≠ Text.toAsciiLowercase entry.sha256 then
    .error (.validation s!"file '{path}': sha256 mismatch (expected {expected}, got {actual})")
  else .ok ()

/-- The first content supplied for exactly this path. -/
def lookup (supplied : List (String × Content)) (path : String) : Option Content :=
  (supplied.find? (fun pair => pair.1 = path)).map Prod.snd

def verifySupplied (supplied : List (String × Content)) (entry : ManifestFile) :
    Except CoreError Unit :=
  match lookup supplied entry.path with
  | some content => verifyFileBytes sha256Hex entry content
  | none =>
      let path := entry.path
      .error (.validation s!"file '{path}' listed in manifest but not provided to verifier")

def verifyManifestIntegrity (manifest : SignedManifest) (supplied : List (String × Content)) :
    Except CoreError Unit := do
  validateSchema manifest
  verify (signableBytes manifest) manifest.signature
  manifest.files.forM (verifySupplied sha256Hex supplied)

end Check

theorem writeFile_append (file : ManifestFile) (rest : List Char) :
    writeFile file ++ rest = '{' :: member "path" (writeText file.path)
      (',' :: member "sha256" (writeText file.sha256)
        (',' :: member "size_bytes" (writeNumber file.sizeBytes.toNat) ('}' :: rest))) := by
  rw [writeFile, List.cons_append, member_append, List.cons_append, member_append,
    List.cons_append, member_append, List.singleton_append]

theorem unambiguous_writeFile : Unambiguous writeFile := by
  intro first second rest other same
  rw [writeFile_append, writeFile_append] at same
  rcases member_cancel unambiguous_writeText (List.tail_eq_of_cons_eq same) with ⟨path, same⟩
  rcases member_cancel unambiguous_writeText (List.tail_eq_of_cons_eq same) with ⟨hash, same⟩
  rcases writeNumber_cancel (endsNumber_cons rfl) (endsNumber_cons rfl)
    (member_value (List.tail_eq_of_cons_eq same)) with ⟨size, same⟩
  refine ⟨?_, List.tail_eq_of_cons_eq same⟩
  cases first
  cases second
  rw [ManifestFile.mk.injEq]
  exact ⟨path, hash, UInt64.toNat_inj.mp size⟩

theorem channel_debug_inj {first second : UpdateChannel} (same : first.debug = second.debug) :
    first = second := by
  cases first <;> cases second <;> first | rfl | exact absurd same (by decide)

theorem platform_serialized_inj {first second : TargetPlatform}
    (same : first.serialized = second.serialized) : first = second := by
  cases first <;> cases second <;> first | rfl | exact absurd same (by decide)

theorem writeManifest_injective {first second : SignedManifest}
    (same : writeManifest first = writeManifest second) : first = second := by
  rw [writeManifest, writeManifest] at same
  rcases writeNumber_cancel (endsNumber_cons rfl) (endsNumber_cons rfl)
    (member_value (List.tail_eq_of_cons_eq same)) with ⟨version, same⟩
  rcases member_cancel unambiguous_writeText (List.tail_eq_of_cons_eq same) with ⟨app, same⟩
  rcases member_cancel unambiguous_writeText (List.tail_eq_of_cons_eq same) with ⟨channel, same⟩
  rcases member_cancel unambiguous_writeText (List.tail_eq_of_cons_eq same) with ⟨platform, same⟩
  rcases member_cancel unambiguous_writeText (List.tail_eq_of_cons_eq same) with ⟨issued, same⟩
  have records := unambiguous_writeArray unambiguous_writeFile (fun _ => rfl)
  rcases member_cancel records (List.tail_eq_of_cons_eq same) with ⟨files, same⟩
  rcases member_cancel unambiguous_writeText (List.tail_eq_of_cons_eq same) with ⟨signature, _⟩
  rcases first with ⟨⟨_, _, _, _⟩, _, _, _⟩
  rcases second with ⟨⟨_, _, _, _⟩, _, _, _⟩
  simp only [SignedManifest.mk.injEq, UpdateManifest.mk.injEq]
  exact ⟨⟨app, channel_debug_inj channel, platform_serialized_inj platform, issued⟩,
    UInt32.toNat_inj.mp version, files, signature⟩

theorem utf8Bytes_injective {first second : String}
    (same : AdResolver.utf8Bytes first = AdResolver.utf8Bytes second) : first = second := by
  apply String.toByteArray_inj.mp
  apply ByteArray.ext
  exact Array.toList_inj.mp same

/-- Manifests with the same signed bytes differ at most in the signature. -/
theorem signableBytes_eq {first second : SignedManifest}
    (same : signableBytes first = signableBytes second) :
    { first with signature := second.signature } = second := by
  have texts := String.ofList_inj.mp (utf8Bytes_injective same)
  have unsigned := writeManifest_injective texts
  rcases first with ⟨_, _, _, _⟩
  rcases second with ⟨_, _, _, _⟩
  simp only [SignedManifest.mk.injEq] at unsigned ⊢
  exact ⟨unsigned.1, unsigned.2.1, unsigned.2.2.1, trivial⟩

/-- Paths of one file: they differ in letter case and in the direction of slashes only. -/
def SameFile (fold : Char → Char) (path target : String) : Prop :=
  let normal := fun letter => fold (if letter = '\\' then '/' else letter)
  path.toList.map normal = target.toList.map normal

instance (fold : Char → Char) (path target : String) : Decidable (SameFile fold path target) :=
  inferInstanceAs (Decidable (_ = _))

def Matches (sha256Hex : Content → String) (entry : ManifestFile) (content : Content) : Prop :=
  content.length = entry.sizeBytes.toNat ∧
    sha256Hex content = Text.toAsciiLowercase entry.sha256

/-- Entries that state the same size and the same hash. -/
def StateSame (first second : ManifestFile) : Prop :=
  first.sizeBytes = second.sizeBytes ∧
    Text.toAsciiLowercase first.sha256 = Text.toAsciiLowercase second.sha256

section Bound

variable (fold : Char → Char) (verify : List UInt8 → String → Except CoreError Unit)
variable (sha256Hex : Content → String)

/-- Every content supplied for a listed file is the stated one, and no file is listed
with two contents. -/
def AllBound (manifest : SignedManifest) (supplied : List (String × Content)) : Prop :=
  (∀ entry ∈ manifest.files, ∀ pair ∈ supplied, SameFile fold pair.1 entry.path →
    Matches sha256Hex entry pair.2) ∧
  ∀ first ∈ manifest.files, ∀ second ∈ manifest.files, SameFile fold first.path second.path →
    StateSame first second

/-- The contents supplied for one listed file agree in length and hash. -/
def SuppliedAgree (manifest : SignedManifest) (supplied : List (String × Content)) : Prop :=
  ∀ entry ∈ manifest.files, ∀ pair ∈ supplied, ∀ other ∈ supplied,
    SameFile fold pair.1 entry.path → SameFile fold other.1 entry.path →
      pair.2.length = other.2.length ∧ sha256Hex pair.2 = sha256Hex other.2

theorem mem_of_lookup {supplied : List (String × Content)} {path : String} {content : Content}
    (found : lookup supplied path = some content) : (path, content) ∈ supplied := by
  rcases Option.map_eq_some_iff.mp found with ⟨pair, first, same⟩
  have named := List.find?_some first
  rw [← of_decide_eq_true named, ← same]
  exact List.mem_of_find?_eq_some first

theorem verifyFileBytes_eq_ok_iff {entry : ManifestFile} {content : Content} :
    verifyFileBytes sha256Hex entry content = .ok () ↔ Matches sha256Hex entry content := by
  rw [verifyFileBytes, ite_error_eq_ok_iff, ite_error_eq_ok_iff, Matches, not_not, not_not]
  exact and_congr_right (fun _ => and_iff_left rfl)

theorem verifySupplied_eq_ok_iff {supplied : List (String × Content)} {entry : ManifestFile} :
    verifySupplied sha256Hex supplied entry = .ok () ↔
      ∃ content, lookup supplied entry.path = some content ∧ Matches sha256Hex entry content := by
  rw [verifySupplied]
  cases lookup supplied entry.path with
  | none => simp
  | some content => simp [verifyFileBytes_eq_ok_iff]

theorem verifyManifestIntegrity_eq_ok_iff {manifest : SignedManifest}
    {supplied : List (String × Content)} :
    verifyManifestIntegrity verify sha256Hex manifest supplied = .ok () ↔
      validateSchema manifest = .ok () ∧
      verify (signableBytes manifest) manifest.signature = .ok () ∧
      ∀ entry ∈ manifest.files, ∃ content, lookup supplied entry.path = some content ∧
        Matches sha256Hex entry content := by
  rw [verifyManifestIntegrity]
  simp only [bind_eq_ok_iff, forM_eq_ok_iff, verifySupplied_eq_ok_iff, Unique.exists_iff,
    PUnit.default_eq_unit]

theorem allBound_iff {manifest : SignedManifest} {supplied : List (String × Content)}
    (listed : ∀ entry ∈ manifest.files, ∃ content, lookup supplied entry.path = some content ∧
      Matches sha256Hex entry content) :
    AllBound fold sha256Hex manifest supplied ↔ SuppliedAgree fold sha256Hex manifest supplied := by
  constructor
  · intro bound entry inFiles pair inSupplied other otherSupplied same otherSame
    have matched := bound.1 entry inFiles pair inSupplied same
    have otherMatched := bound.1 entry inFiles other otherSupplied otherSame
    exact ⟨matched.1.trans otherMatched.1.symm, matched.2.trans otherMatched.2.symm⟩
  · intro agree
    have bound : ∀ entry ∈ manifest.files, ∀ pair ∈ supplied, SameFile fold pair.1 entry.path →
        Matches sha256Hex entry pair.2 := by
      intro entry inFiles pair inSupplied same
      rcases listed entry inFiles with ⟨content, found, matched⟩
      have equal := agree entry inFiles pair inSupplied _ (mem_of_lookup found) same rfl
      exact ⟨equal.1.trans matched.1, equal.2.trans matched.2⟩
    refine ⟨bound, fun first inFiles second secondInFiles same => ?_⟩
    -- the content found for the first path is one of the second path, too
    rcases listed first inFiles with ⟨content, found, matched⟩
    have other := bound second secondInFiles _ (mem_of_lookup found) same
    exact ⟨UInt64.toNat_inj.mp (matched.1.symm.trans other.1), matched.2.symm.trans other.2⟩

/-- An accepted manifest is the one whose bytes the verifier accepted, and the content
found for each listed path is the stated one.  Everything supplied for a listed file is
bound exactly when what is supplied for one file agrees. -/
theorem verifyManifestIntegrity_binds {manifest : SignedManifest}
    {supplied : List (String × Content)}
    (accepted : verifyManifestIntegrity verify sha256Hex manifest supplied = .ok ()) :
    verify (signableBytes manifest) manifest.signature = .ok () ∧
    (∀ other, signableBytes other = signableBytes manifest →
      { other with signature := manifest.signature } = manifest) ∧
    (∀ entry ∈ manifest.files, ∃ content, lookup supplied entry.path = some content ∧
      Matches sha256Hex entry content) ∧
    (AllBound fold sha256Hex manifest supplied ↔
      SuppliedAgree fold sha256Hex manifest supplied) := by
  rcases (verifyManifestIntegrity_eq_ok_iff verify sha256Hex).mp accepted with
    ⟨_, verified, listed⟩
  exact ⟨verified, fun _ same => signableBytes_eq same, listed,
    allBound_iff fold sha256Hex listed⟩

end Bound

/-! ## A program supplied twice -/

def programBytes : Content := [0x61, 0x62, 0x63]

def otherBytes : Content := [0x61, 0x62, 0x63, 0x64]

/-- The hashes of the two programs. -/
def programHash (content : Content) : String :=
  if content = programBytes then
    "ba7816bf8f01cfea414140de5dae2223b00361a396177a9cb410ff61f20015ad"
  else "88d4266fd4e6338d13b845fcf289579d209c897823b9217da3e161936f031589"

def programEntry (path : String) (content : Content) : ManifestFile where
  path := path
  sha256 := programHash content
  sizeBytes := content.length.toUInt64

def programManifest (files : List ManifestFile) : SignedManifest where
  appVersion := "0.3.0"
  channel := .stable
  platform := .windowsX8664
  issuedAt := "2026-05-25T12:00:00Z"
  manifestVersion := 1
  files := files
  signature := "fake-signature"

def bothPrograms : List ManifestFile :=
  [programEntry "stars.exe" programBytes, programEntry "stars-gui.exe" otherBytes]

/-- Both programs, the first one twice more. -/
def suppliedPrograms : List (String × Content) :=
  [("stars.exe", programBytes), ("stars-gui.exe", otherBytes), ("stars.exe", programBytes),
    ("STARS.EXE", programBytes)]

theorem verifyManifestIntegrity_binds_program :
    verifyManifestIntegrity (fun _ _ => .ok ()) programHash (programManifest bothPrograms)
      suppliedPrograms = .ok () ∧
    AllBound Char.toLower programHash (programManifest bothPrograms) suppliedPrograms := by
  have accepted : verifyManifestIntegrity (fun _ _ => .ok ()) programHash
      (programManifest bothPrograms) suppliedPrograms = .ok () := by
    rfl
  have bound := verifyManifestIntegrity_binds Char.toLower (fun _ _ => .ok ()) programHash accepted
  refine ⟨accepted, bound.2.2.2.mpr ?_⟩
  unfold SuppliedAgree
  decide

def twiceListed : List ManifestFile :=
  [programEntry "stars.exe" programBytes, programEntry "STARS.EXE" otherBytes]

def twiceSupplied : List (String × Content) :=
  [("stars.exe", programBytes), ("STARS.EXE", otherBytes)]

/-- Two entries of one file with two contents are accepted. -/
theorem accepted_twice :
    verifyManifestIntegrity (fun _ _ => .ok ()) programHash (programManifest twiceListed)
      twiceSupplied = .ok () ∧
    ¬ AllBound Char.toLower programHash (programManifest twiceListed) twiceSupplied := by
  have schema : validateSchema (programManifest twiceListed) = .ok () := by
    decide
  have listed : ∀ entry ∈ twiceListed, ∃ content, lookup twiceSupplied entry.path = some content ∧
      Matches programHash entry content := by
    intro entry inFiles
    rcases List.mem_pair.mp inFiles with first | second
    · exact ⟨programBytes, by rw [first]; rfl, by rw [first]; exact ⟨rfl, rfl⟩⟩
    · exact ⟨otherBytes, by rw [second]; rfl, by rw [second]; exact ⟨rfl, rfl⟩⟩
  have accepted := (verifyManifestIntegrity_eq_ok_iff (fun _ _ => .ok ()) programHash).mpr
    ⟨schema, rfl, listed⟩
  refine ⟨accepted, fun bound => ?_⟩
  have first : programEntry "stars.exe" programBytes ∈ twiceListed := List.mem_cons_self
  have other : ("STARS.EXE", otherBytes) ∈ twiceSupplied :=
    List.mem_cons_of_mem _ List.mem_cons_self
  have same : SameFile Char.toLower "STARS.EXE" "stars.exe" := by decide
  have matched := bound.1 _ first _ other same
  exact absurd matched.1 (by decide)

end UpdateManager
end Stars

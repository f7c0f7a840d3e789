import Stars.Validation.PathChecks

namespace Stars
namespace UpdateManager

open AdResolver (isControl)
open Collections
open Validation (longPrefix isSeparator stemOf)
open Windows (Segment deviceOf kept resolve stepOf)

/-!
# Paths of a manifest

A file of a manifest is named relative to the installation directory.  Each segment
of its path passes the checks of the schema.  The path stays below the directory
exactly when no segment is rewritten to a device or to nothing.
-/

def forbiddenPathChars : List Char := ['<', '>', '"', '|', '?', '*']

def reservedDeviceNames : List String :=
  ["CON", "PRN", "AUX", "NUL", "COM0", "COM1", "COM2", "COM3", "COM4", "COM5", "COM6", "COM7",
    "COM8", "COM9", "LPT0", "LPT1", "LPT2", "LPT3", "LPT4", "LPT5", "LPT6", "LPT7", "LPT8", "LPT9"]

def checkManifestSegment (fullPath : String) (segment : Segment) : Except CoreError Unit :=
  let shown := String.ofList segment
  if segment.isEmpty then
    .error (.validation
      s!"file path '{fullPath}' contains an empty segment (consecutive separators)")
  else if segment = ['.'] ∨ segment = ['.', '.'] then
    .error (.validation
      s!"file path '{fullPath}' contains a '{shown}' segment — traversal not allowed")
  else
    match segment.find? isControl with
    | some letter =>
        let code := Text.hexPadded 4 letter.toNat
        .error (.validation (s!"file path '{fullPath}' segment '{shown}' contains a control " ++
          s!"character (U+{code})"))
    | none =>
        match segment.find? forbiddenPathChars.contains with
        | some bad =>
            .error (.validation (s!"file path '{fullPath}' segment '{shown}' contains a " ++
              s!"forbidden character '{bad}'"))
        | none =>
            if segment.contains ':' then
              .error (.validation
                s!"file path '{fullPath}' segment '{shown}' must not contain ':'")
            else
              let stem := String.ofList (stemOf segment)
              if reservedDeviceNames.any (fun name => Text.eqIgnoreAsciiCase name stem) then
                .error (.validation (s!"file path '{fullPath}' segment '{shown}' uses reserved " ++
                  s!"Windows device name '{stem}'"))
              else .ok ()

def validateManifestRelativePath (path : String) : Except CoreError Unit :=
  if path.isEmpty then .error (.validation "file.path must not be empty")
  else if path.toList.contains '\x00' then
    .error (.validation s!"file path '{path}' must not contain null bytes")
  else if Text.startsWith longPrefix path || Text.startsWith "//?/" path then
    .error (.validation
      s!"file path '{path}' must be relative (Windows long-path prefix not allowed)")
  else if Text.startsWith "\\\\" path || Text.startsWith "//" path then
    .error (.validation s!"file path '{path}' must be relative (UNC prefix not allowed)")
  else if Text.startsWith "\\" path || Text.startsWith "/" path then
    .error (.validation s!"file path '{path}' must be relative (leading separator not allowed)")
  else (path.toList.splitOnP isSeparator).forM (checkManifestSegment path)

/-- Joined to a directory, the path leads to an entry strictly below it, and each of its
segments names an entry: no device, no stream, not the directory itself and not its
parent. -/
def StaysInside (devices : List String) (directory : List Segment) (path : String) : Prop :=
  (∃ inner, inner ≠ [] ∧
    resolve devices directory (path.toList.splitOnP isSeparator) = .entry (directory ++ inner)) ∧
  ∀ segment ∈ path.toList.splitOnP isSeparator, ∃ text, stepOf devices segment = .name text

section Inside

variable {devices : List String} {directory : List Segment} {path : String} {segment : Segment}

theorem segment_of_checked (checked : checkManifestSegment path segment = .ok ()) :
    segment ≠ [] ∧ ':' ∉ segment := by
  simp only [checkManifestSegment, ite_error_eq_ok_iff] at checked
  rcases checked with ⟨something, _, remaining⟩
  refine ⟨fun nothing => something (List.isEmpty_iff.mpr nothing), ?_⟩
  split at remaining
  · cases remaining
  · split at remaining
    · cases remaining
    · intro listed
      exact (ite_error_eq_ok_iff.mp remaining).1 (List.contains_iff_mem.mpr listed)

/-- Every segment of an accepted path passes its checks. -/
theorem segments_of_validated (validated : validateManifestRelativePath path = .ok ()) :
    ∀ segment ∈ path.toList.splitOnP isSeparator, segment ≠ [] ∧ ':' ∉ segment := by
  simp only [validateManifestRelativePath, ite_error_eq_ok_iff] at validated
  intro segment listed
  exact segment_of_checked (forM_eq_ok_iff.mp validated.2.2.2.2.2 segment listed)

/-- An accepted path stays below every directory exactly when no segment consists of
dots and blanks only and none names a device once the blanks before its extension are
dropped. -/
theorem staysInside_iff (devices : List String) (directory : List Segment)
    (validated : validateManifestRelativePath path = .ok ()) :
    StaysInside devices directory path ↔ ∀ segment ∈ path.toList.splitOnP isSeparator,
      kept segment ≠ [] ∧ deviceOf devices segment = none := by
  have known := segments_of_validated validated
  have named : (∀ segment ∈ path.toList.splitOnP isSeparator,
      ∃ text, stepOf devices segment = .name text) ↔
      ∀ segment ∈ path.toList.splitOnP isSeparator,
        kept segment ≠ [] ∧ deviceOf devices segment = none := by
    apply forall₂_congr
    intro segment listed
    simp only [Windows.stepOf_eq_name_iff]
    constructor
    · intro ⟨_, noDevice, _, something, _⟩
      exact ⟨something, noDevice⟩
    · intro ⟨something, noDevice⟩
      exact ⟨_, noDevice, (known segment listed).2, something, rfl⟩
  rw [StaysInside, named]
  constructor
  · exact fun inside => inside.2
  · intro plain
    have all : Windows.written (path.toList.splitOnP isSeparator) =
        path.toList.splitOnP isSeparator := by
      apply List.filter_eq_self.mpr
      intro segment listed
      rw [Bool.not_eq_true', List.isEmpty_eq_false_iff]
      exact (known segment listed).1
    have steps : ∀ segment ∈ path.toList.splitOnP isSeparator,
        stepOf devices segment = .name (kept segment) := by
      intro segment listed
      rcases plain segment listed with ⟨something, noDevice⟩
      exact Windows.stepOf_eq_name_iff.mpr
        ⟨noDevice, (known segment listed).2, something, rfl⟩
    refine ⟨⟨(path.toList.splitOnP isSeparator).map kept, ?_, ?_⟩, plain⟩
    · rw [ne_eq, List.map_eq_nil_iff]
      exact List.splitOnP_ne_nil _ _
    · rw [resolve, all, Windows.foldl_of_names steps]

theorem staysInside_iff_program :
    StaysInside reservedDeviceNames ["Stars".toList] "bin/stars.exe" := by
  have validated : validateManifestRelativePath "bin/stars.exe" = .ok () := by decide
  exact (staysInside_iff _ _ validated).mpr (by decide)

/-- A blank before the extension hides the name of a device from the check. -/
theorem accepted_device : validateManifestRelativePath "bin/CON .txt" = .ok () ∧
    ¬ StaysInside reservedDeviceNames ["Stars".toList] "bin/CON .txt" := by
  refine ⟨by decide, ?_⟩
  intro inside
  have named : ∀ segment ∈ [['b', 'i', 'n'], "CON .txt".toList],
      ∃ text, stepOf reservedDeviceNames segment = .name text := inside.2
  rcases named "CON .txt".toList (by decide) with ⟨text, impossible⟩
  have device : stepOf reservedDeviceNames "CON .txt".toList = .device "CON" := by decide
  rw [device] at impossible
  cases impossible

end Inside

end UpdateManager
end Stars

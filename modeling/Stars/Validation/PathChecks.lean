import Stars.Validation.Net
import Stars.Validation.Path
import Stars.Windows.Paths

namespace Stars
namespace Validation

open AdResolver (isControl)
open Collections

/-!
# Validated paths

The validation of a path trims it, removes a long-path prefix and checks server,
share and segments.  `Accepted` is the form of its results.
-/

def maxPathLen : Nat := 32767

def forbiddenPathChars : List Char := ['<', '>', '"', '|', '?', '*']

def reservedDeviceNames : List String :=
  ["CON", "PRN", "AUX", "NUL", "COM0", "COM1", "COM2", "COM3", "COM4", "COM5", "COM6", "COM7",
    "COM8", "COM9", "LPT0", "LPT1", "LPT2", "LPT3", "LPT4", "LPT5", "LPT6", "LPT7", "LPT8", "LPT9"]

/-- The part of a segment before its first dot. -/
def stemOf (segment : List Char) : List Char := segment.takeWhile (· != '.')

def isReserved (stem : List Char) : Bool :=
  reservedDeviceNames.any (fun name => Text.eqIgnoreAsciiCase name (String.ofList stem))

def checkPathSegment (segment : List Char) (fullPath : String) : Except CoreError Unit :=
  let shown := String.ofList segment
  if segment.isEmpty then
    .error (.validation s!"Path contains an empty segment (consecutive separators): {fullPath}")
  else
    match segment.find? isControl with
    | some letter =>
        let code := Text.hexPadded 4 letter.toNat
        .error (.validation
          s!"Path segment '{shown}' contains a control character (U+{code}): {fullPath}")
    | none =>
        match segment.find? forbiddenPathChars.contains with
        | some bad =>
            .error (.validation
              s!"Path segment '{shown}' contains a forbidden character '{bad}': {fullPath}")
        | none =>
            if segment.contains ':' then
              .error (.validation
                s!"Path segment '{shown}' must not contain ':' (drive separator): {fullPath}")
            else
              let stem := String.ofList (stemOf segment)
              if isReserved (stemOf segment) then
                .error (.validation (s!"Path segment '{shown}' uses the reserved Windows device " ++
                  s!"name '{stem}': {fullPath}"))
              else .ok ()

/-- The checks of the segments in order.  The last one may be empty. -/
def checkSegments (fullPath : String) : List (List Char) → Except CoreError Unit
  | [] => .ok ()
  | [last] => if last.isEmpty then .ok () else checkPathSegment last fullPath
  | segment :: rest => do
      checkPathSegment segment fullPath
      checkSegments fullPath rest

def checkPathSegments (rest : List Char) (fullPath : String) : Except CoreError Unit :=
  checkSegments fullPath (Text.split '\\' rest)

/-- The part before the first backslash and the part behind it. -/
def cutAtBackslash (text : List Char) : List Char × List Char :=
  (Text.splitOnce '\\' text).getD (text, [])

def validateUncPath (input : String) : Except CoreError String :=
  let trimmed := Text.trim input.toList
  let path := String.ofList trimmed
  if trimmed.isEmpty then .error (.validation "UNC path must not be empty")
  else if trimmed.contains '\x00' then
    .error (.validation "UNC path must not contain null bytes")
  else if maxPathLen < path.utf8ByteSize then
    .error (.validation s!"UNC path must not exceed {maxPathLen} characters")
  else
    match Text.stripPrefix "\\\\" trimmed with
    | none => .error (.validation s!"UNC path must start with '\\\\': {path}")
    | some withoutPrefix =>
        let (server, afterServer) := cutAtBackslash withoutPrefix
        let (share, rest) := cutAtBackslash afterServer
        if server.isEmpty || share.isEmpty then
          .error (.validation s!"UNC path must contain at least \\\\server\\share: {path}")
        else do
          let serverText := String.ofList server
          let shareText := String.ofList share
          let _ ← (validateSmbServer serverText).mapError (fun reason =>
            .validation s!"UNC server component '{serverText}' invalid: {reason.display}")
          let _ ← (validateShareName shareText).mapError (fun reason =>
            .validation s!"UNC share component '{shareText}' invalid: {reason.display}")
          if rest.isEmpty then pure path
          else
            checkPathSegments rest path
            pure path

/-- The text behind the drive of an absolute path. -/
def afterDrive : List Char → Option (List Char)
  | drive :: ':' :: '\\' :: rest => if drive.isAlpha then some rest else none
  | _ => none

def validateLocalPath (input : String) : Except CoreError String :=
  let trimmed := Text.trim input.toList
  let path := String.ofList trimmed
  if trimmed.isEmpty then .error (.validation "Local path must not be empty")
  else if trimmed.contains '\x00' then
    .error (.validation "Local path must not contain null bytes")
  else if maxPathLen < path.utf8ByteSize then
    .error (.validation s!"Local path must not exceed {maxPathLen} characters")
  else
    match afterDrive trimmed with
    | none =>
        .error (.validation
          s!"Local path must be an absolute Windows path (e.g. C:\\folder): {path}")
    | some rest =>
        if rest.isEmpty then .ok path
        else do
          checkPathSegments rest path
          pure path

/-- The display form of a path. -/
def validatePath (input : String) : Except CoreError String :=
  let trimmed := Text.trim input.toList
  match Text.stripPrefix longUncPrefix trimmed with
  | some rest => validateUncPath (String.ofList ('\\' :: '\\' :: rest))
  | none =>
      match Text.stripPrefix longPrefix trimmed with
      | some rest => validateLocalPath (String.ofList rest)
      | none =>
          let path := String.ofList trimmed
          if Text.startsWith "\\\\" path then validateUncPath path else validateLocalPath path

/-! ## Accepted paths -/

def isSegmentLetter (letter : Char) : Bool :=
  !isControl letter && !forbiddenPathChars.contains letter && letter != ':'

/-- A segment that passes its checks. -/
structure IsSegment (segment : List Char) : Prop where
  nonempty : segment ≠ []
  letters : ∀ letter ∈ segment, isSegmentLetter letter = true
  free : isReserved (stemOf segment) = false

/-- The segments behind the root of a path pass their checks. -/
def HasSegments (rest : List Char) : Prop :=
  ∀ segment ∈ Windows.written (rest.splitOn '\\'), IsSegment segment

structure IsLocal (path : List Char) (drive : Char) (rest : List Char) : Prop where
  whole : path = drive :: ':' :: '\\' :: rest
  alpha : drive.isAlpha = true
  segments : HasSegments rest

/-- A server and a share, with or without more behind them.  Both are well formed
once they are trimmed. -/
structure IsUnc (path server share afterServer rest : List Char) : Prop where
  whole : path = '\\' :: '\\' :: (server ++ '\\' :: afterServer)
  ends : (afterServer = share ∧ rest = []) ∨ afterServer = share ++ '\\' :: rest
  serverWhole : '\\' ∉ server
  shareWhole : '\\' ∉ share
  serverName : IsHostname (Text.trim server)
  shareName : IsShareName (Text.trim share)
  segments : HasSegments rest

section Accepted

variable {segment rest text server share afterServer : List Char} {fullPath input path : String}

theorem isSegment_of_checked (checked : checkPathSegment segment fullPath = .ok ()) :
    IsSegment segment := by
  simp only [checkPathSegment, ite_error_eq_ok_iff] at checked
  rcases checked with ⟨something, checked⟩
  split at checked
  · cases checked
  · rename_i noControl
    split at checked
    · cases checked
    · rename_i noForbidden
      rcases ite_error_eq_ok_iff.mp checked with ⟨noColon, remaining⟩
      rcases ite_error_eq_ok_iff.mp remaining with ⟨free, _⟩
      refine ⟨fun nothing => something (List.isEmpty_iff.mpr nothing), ?_,
        Bool.eq_false_of_not_eq_true free⟩
      intro letter listed
      have plain := List.find?_eq_none.mp noControl letter listed
      have allowed := List.find?_eq_none.mp noForbidden letter listed
      have other : letter ≠ ':' := by
        intro same
        rw [same] at listed
        exact noColon (List.contains_iff_mem.mpr listed)
      rw [isSegmentLetter, Bool.eq_false_of_not_eq_true plain,
        Bool.eq_false_of_not_eq_true allowed, bne_iff_ne.mpr other]
      rfl

theorem isSegment_of_checkedSegments (segments : List (List Char)) :
    checkSegments fullPath segments = .ok () →
      ∀ segment ∈ Windows.written segments, IsSegment segment := by
  have single (segment : List Char) (nonempty : segment ≠ [])
      (checked : (if segment.isEmpty then .ok () else checkPathSegment segment fullPath) =
        .ok ()) : IsSegment segment := by
    rw [if_neg (fun nothing => nonempty (List.isEmpty_iff.mp nothing))] at checked
    exact isSegment_of_checked checked
  induction segments with
  | nil => exact fun _ _ listed => absurd listed List.not_mem_nil
  | cons first rest ih =>
      intro checked segment listed
      rcases List.mem_filter.mp listed with ⟨own, nonempty⟩
      cases rest with
      | nil =>
          rw [List.mem_singleton.mp own] at nonempty ⊢
          apply single first _ checked
          intro nothing
          rw [nothing] at nonempty
          cases nonempty
      | cons second others =>
          rcases bind_eq_ok_iff.mp checked with ⟨_, head, later⟩
          rcases List.mem_cons.mp own with rfl | other
          · exact isSegment_of_checked head
          · exact ih later segment (List.mem_filter.mpr ⟨other, nonempty⟩)

theorem hasSegments_of_checked (checked : checkPathSegments rest fullPath = .ok ()) :
    HasSegments rest :=
  isSegment_of_checkedSegments _ checked

theorem hasSegments_nil : HasSegments [] := by
  intro segment listed
  cases listed

/-- The parts before and behind the first backslash, when there is something behind it. -/
theorem cutAtBackslash_eq {before after : List Char} (cut : cutAtBackslash text = (before, after)) :
    '\\' ∉ before ∧ ((text = before ∧ after = []) ∨ text = before ++ '\\' :: after) := by
  rw [cutAtBackslash] at cut
  cases found : Text.splitOnce '\\' text with
  | none =>
      rw [found] at cut
      cases cut
      exact ⟨Text.splitOnce_eq_none found, Or.inl ⟨rfl, rfl⟩⟩
  | some pieces =>
      rw [found, Option.getD_some] at cut
      rw [cut] at found
      exact ⟨(Text.splitOnce_eq_some found).2, Or.inr (Text.splitOnce_eq_some found).1⟩

theorem afterDrive_eq_some {path : List Char} (found : afterDrive path = some rest) :
    ∃ drive : Char, drive.isAlpha = true ∧ path = drive :: ':' :: '\\' :: rest := by
  unfold afterDrive at found
  split at found
  · rename_i drive behind
    rcases Option.ite_none_right_eq_some.mp found with ⟨alpha, same⟩
    exact ⟨drive, alpha, by rw [Option.some.inj same]⟩
  · cases found

/-- The local paths that are accepted. -/
theorem isLocal_of_validated (validated : validateLocalPath input = .ok path) :
    path = String.ofList (Text.trim input.toList) ∧ ∃ drive rest, IsLocal path.toList drive rest := by
  simp only [validateLocalPath, ite_error_eq_ok_iff] at validated
  rcases validated with ⟨_, _, _, last⟩
  cases found : afterDrive (Text.trim input.toList) with
  | none =>
      rw [found] at last
      cases last
  | some rest =>
      rw [found] at last
      dsimp only at last
      have known : path = String.ofList (Text.trim input.toList) ∧ HasSegments rest := by
        split at last
        · rename_i nothing
          rw [List.isEmpty_iff.mp nothing]
          exact ⟨(Except.ok.inj last).symm, hasSegments_nil⟩
        · rcases bind_eq_ok_iff.mp last with ⟨_, checked, same⟩
          exact ⟨(Except.ok.inj same).symm, hasSegments_of_checked checked⟩
      rcases afterDrive_eq_some found with ⟨drive, alpha, whole⟩
      rw [known.1, String.toList_ofList]
      exact ⟨rfl, drive, rest, whole, alpha, known.2⟩

theorem ok_of_mapError {Value : Type} {result : Except CoreError Value} {value : Value}
    {change : CoreError → CoreError} (succeeded : result.mapError change = .ok value) :
    result = .ok value := by
  cases result with
  | error reason => cases succeeded
  | ok known =>
      cases succeeded
      rfl

/-- The UNC paths that are accepted. -/
theorem isUnc_of_validated (validated : validateUncPath input = .ok path) :
    path = String.ofList (Text.trim input.toList) ∧
      ∃ server share afterServer rest, IsUnc path.toList server share afterServer rest := by
  simp only [validateUncPath, ite_error_eq_ok_iff] at validated
  rcases validated with ⟨_, _, _, last⟩
  cases found : Text.stripPrefix "\\\\" (Text.trim input.toList) with
  | none =>
      rw [found] at last
      cases last
  | some withoutPrefix =>
      rw [found] at last
      dsimp only at last
      cases first : cutAtBackslash withoutPrefix with
      | mk server afterServer =>
          cases second : cutAtBackslash afterServer with
          | mk share rest =>
              rw [first] at last
              dsimp only at last
              rw [second] at last
              dsimp only at last
              rcases ite_error_eq_ok_iff.mp last with ⟨named, remaining⟩
              rcases bind_eq_ok_iff.mp remaining with ⟨_, serverChecked, remaining⟩
              rcases bind_eq_ok_iff.mp remaining with ⟨_, shareChecked, remaining⟩
              have serverName := validateSmbServer_eq_ok_iff.mp (ok_of_mapError serverChecked)
              have shareName := validateShareName_eq_ok_iff.mp (ok_of_mapError shareChecked)
              rw [String.toList_ofList] at serverName shareName
              have known : path = String.ofList (Text.trim input.toList) ∧ HasSegments rest := by
                split at remaining
                · rename_i nothing
                  rw [List.isEmpty_iff.mp nothing]
                  exact ⟨(Except.ok.inj remaining).symm, hasSegments_nil⟩
                · rcases bind_eq_ok_iff.mp remaining with ⟨_, checked, same⟩
                  exact ⟨(Except.ok.inj same).symm, hasSegments_of_checked checked⟩
              have whole := Text.stripPrefix_eq_some_iff.mp found
              rcases cutAtBackslash_eq first with ⟨serverWhole, serverEnds⟩
              rcases cutAtBackslash_eq second with ⟨shareWhole, shareEnds⟩
              rw [known.1, String.toList_ofList]
              refine ⟨rfl, server, share, afterServer, rest, ?_, shareEnds, serverWhole,
                shareWhole, serverName.1, shareName.1, known.2⟩
              rcases serverEnds with ⟨_, nothing⟩ | cut
              · -- Without a share the path is refused.
                rcases shareEnds with ⟨same, _⟩ | impossible
                · rw [← same, nothing] at named
                  simp at named
                · rw [nothing] at impossible
                  simp at impossible
              · rw [whole, cut]
                rfl

theorem validateLocalPath_trim (input : String) :
    validateLocalPath (String.ofList (Text.trim input.toList)) = validateLocalPath input := by
  simp only [validateLocalPath, String.toList_ofList, Text.trim_trim]

theorem validateUncPath_trim (input : String) :
    validateUncPath (String.ofList (Text.trim input.toList)) = validateUncPath input := by
  simp only [validateUncPath, String.toList_ofList, Text.trim_trim]

theorem trim_of_eq (same : path = String.ofList (Text.trim input.toList)) :
    Text.trim path.toList = path.toList := by
  rw [same, String.toList_ofList, Text.trim_trim]

/-- An accepted path is trimmed, and the validation of its own kind accepts it again. -/
theorem validatePath_eq_ok (validated : validatePath input = .ok path) :
    Text.trim path.toList = path.toList ∧
      (validateLocalPath path = .ok path ∨ validateUncPath path = .ok path) := by
  have asLocal (part : String) (accepted : validateLocalPath part = .ok path) :
      Text.trim path.toList = path.toList ∧ validateLocalPath path = .ok path := by
    have same := (isLocal_of_validated accepted).1
    rw [← validateLocalPath_trim, ← same] at accepted
    exact ⟨trim_of_eq same, accepted⟩
  have asUnc (part : String) (accepted : validateUncPath part = .ok path) :
      Text.trim path.toList = path.toList ∧ validateUncPath path = .ok path := by
    have same := (isUnc_of_validated accepted).1
    rw [← validateUncPath_trim, ← same] at accepted
    exact ⟨trim_of_eq same, accepted⟩
  simp only [validatePath] at validated
  split at validated
  · exact ⟨(asUnc _ validated).1, Or.inr (asUnc _ validated).2⟩
  · split at validated
    · exact ⟨(asLocal _ validated).1, Or.inl (asLocal _ validated).2⟩
    · split at validated
      · exact ⟨(asUnc _ validated).1, Or.inr (asUnc _ validated).2⟩
      · exact ⟨(asLocal _ validated).1, Or.inl (asLocal _ validated).2⟩

end Accepted

end Validation
end Stars

import Stars.Validation.NormalForm

namespace Stars
namespace Validation

open Windows (Literal written deviceOf kept resolve opened)

/-!
# The path that is opened

The long-path form switches off the rewriting of segments.  For an accepted path it
opens the object that the path itself names exactly when no part of the path would be
rewritten.
-/

/-- Server and share as they are written. -/
def rootNames (path : String) : Option (List Char × List Char) :=
  match path.toList.splitOn '\\' with
  | [] :: [] :: server :: share :: _ => some (server, share)
  | _ => none

/-- The segments behind the drive or the share. -/
def segmentsBehindRoot (path : String) : List (List Char) :=
  match path.toList.splitOn '\\' with
  | [] :: [] :: _ :: _ :: segments => written segments
  | _ :: segments => written segments
  | [] => []

/-- No part of a path is rewritten: a segment has no slash and no dot or blank at its
end, and it names no device; a server is not the device namespace, and server and
share have no white space around them. -/
structure KeepsMeaning (devices : List String) (path : String) : Prop where
  segments : ∀ segment ∈ segmentsBehindRoot path,
    '/' ∉ segment ∧ deviceOf devices segment = none ∧ kept segment = segment
  root : ∀ server share, rootNames path = some (server, share) →
    server ≠ ['.'] ∧ Text.trim server = server ∧ Text.trim share = share

section Opened

variable {devices : List String} {path : String} {segment rest server share afterServer : List Char}
  {drive : Char}

theorem IsSegment.literal_iff (known : IsSegment segment) : Literal devices segment ↔
    '/' ∉ segment ∧ deviceOf devices segment = none ∧ kept segment = segment := by
  have noStream : ':' ∉ segment := by
    intro listed
    have allowed := known.letters ':' listed
    revert allowed
    decide
  rw [Windows.literal_iff]
  constructor
  · intro ⟨noSlash, _, _, noDevice, same⟩
    exact ⟨noSlash, noDevice, same⟩
  · intro ⟨noSlash, noDevice, same⟩
    exact ⟨noSlash, known.nonempty, noStream, noDevice, same⟩

/-- Behind the root both readings agree exactly on segments that are not rewritten. -/
theorem HasSegments.resolve_iff (known : HasSegments rest) :
    resolve devices [] (rest.splitOnP Windows.isSeparator) =
        .entry (written (rest.splitOn '\\')) ↔
      ∀ segment ∈ written (rest.splitOn '\\'),
        '/' ∉ segment ∧ deviceOf devices segment = none ∧ kept segment = segment := by
  rw [Windows.resolve_eq_written_iff]
  constructor
  · intro literal segment listed
    exact (known segment listed).literal_iff.mp (literal segment listed)
  · intro plain segment listed
    exact (known segment listed).literal_iff.mpr (plain segment listed)

namespace IsLocal

theorem splitOn_eq (known : IsLocal path.toList drive rest) :
    path.toList.splitOn '\\' = [drive, ':'] :: rest.splitOn '\\' := by
  have whole : '\\' ∉ [drive, ':'] := by
    intro listed
    rcases List.mem_pair.mp listed with same | same
    · exact known.drive_ne (by decide) same.symm
    · revert same
      decide
  rw [known.whole]
  exact List.splitOn_append_cons_self_of_not_mem whole rest

theorem splitOnP_eq (known : IsLocal path.toList drive rest) :
    path.toList.splitOnP Windows.isSeparator =
      [drive, ':'] :: rest.splitOnP Windows.isSeparator := by
  have whole : ∀ letter ∈ [drive, ':'], Windows.isSeparator letter = false := by
    intro letter listed
    rcases List.mem_pair.mp listed with same | same
    · rw [same, Windows.isSeparator, beq_false_of_ne (known.drive_ne (by decide)),
        beq_false_of_ne (known.drive_ne (by decide))]
      rfl
    · rw [same]
      rfl
  rw [known.whole]
  exact List.splitOnP_append_cons_of_forall_mem whole '\\' rfl rest

theorem opened_eq (known : IsLocal path.toList drive rest) : opened devices path =
    some ⟨.drive drive.toUpper, resolve devices [] (rest.splitOnP Windows.isSeparator)⟩ := by
  have noLong : Text.stripPrefix "\\\\?\\" path.toList = none := known.strip_none rfl
  rw [opened, noLong, Windows.ordinaryPlace, known.splitOnP_eq]
  rfl

theorem opened_api (known : IsLocal path.toList drive rest) :
    opened devices (toWindowsApiPath path) =
      some ⟨.drive drive.toUpper, .entry (written (rest.splitOn '\\'))⟩ := by
  have long : Text.stripPrefix "\\\\?\\" (longPrefix ++ path).toList = some path.toList := by
    rw [String.toList_append]
    exact stripPrefix_append longPrefix path.toList
  have drives : Text.eqIgnoreAsciiCase (String.ofList [drive, ':']) "UNC" = false := by
    rw [Text.eqIgnoreAsciiCase, Text.toAsciiLowercase, Text.toAsciiLowercase,
      beq_eq_false_iff_ne, ne_eq, String.ofList_inj, String.toList_ofList]
    intro same
    have lengths := congrArg List.length same
    revert lengths
    simp
  rw [known.toWindowsApiPath_eq, opened, long]
  dsimp only
  rw [Windows.verbatimPlace, known.splitOn_eq]
  dsimp only
  rw [drives]
  rfl

/-- A local path is opened as it reads when its segments are not rewritten. -/
theorem opened_iff (known : IsLocal path.toList drive rest) :
    opened devices (toWindowsApiPath path) = opened devices path ↔ KeepsMeaning devices path := by
  have behind : segmentsBehindRoot path = written (rest.splitOn '\\') := by
    rw [segmentsBehindRoot, known.splitOn_eq]
  have noNames : rootNames path = none := by
    rw [rootNames, known.splitOn_eq]
  rw [known.opened_api, known.opened_eq, Option.some_inj, Windows.Place.mk.injEq,
    eq_self_iff_true, true_and, eq_comm, known.segments.resolve_iff]
  constructor
  · intro plain
    rw [← behind] at plain
    refine ⟨plain, ?_⟩
    intro server share impossible
    rw [noNames] at impossible
    cases impossible
  · intro kept
    rw [← behind]
    exact kept.segments

end IsLocal

namespace IsUnc

/-- The segments behind the share, in either reading. -/
theorem split_afterServer (devices : List String)
    (known : IsUnc path.toList server share afterServer rest) :
    ∃ ordinary literal, afterServer.splitOnP Windows.isSeparator = share :: ordinary ∧
      afterServer.splitOn '\\' = share :: literal ∧
      written literal = written (rest.splitOn '\\') ∧
      resolve devices [] ordinary = resolve devices [] (rest.splitOnP Windows.isSeparator) := by
  have plain : ∀ letter ∈ share, Windows.isSeparator letter = false :=
    fun _ listed => known.share_plain listed
  rcases known.ends with ⟨same, nothing⟩ | longer
  · refine ⟨[], [], ?_, ?_, ?_, ?_⟩
    · rw [same]
      exact List.splitOnP_eq_singleton plain
    · rw [same]
      exact List.splitOn_eq_singleton known.shareWhole
    · rw [nothing]
      rfl
    · rw [nothing]
      rfl
  · refine ⟨rest.splitOnP Windows.isSeparator, rest.splitOn '\\', ?_, ?_, rfl, rfl⟩
    · rw [longer]
      exact List.splitOnP_append_cons_of_forall_mem plain '\\' rfl rest
    · rw [longer]
      exact List.splitOn_append_cons_self_of_not_mem known.shareWhole rest

theorem splitOn_server (known : IsUnc path.toList server share afterServer rest) :
    (server ++ '\\' :: afterServer).splitOn '\\' = server :: afterServer.splitOn '\\' :=
  List.splitOn_append_cons_self_of_not_mem known.serverWhole afterServer

theorem splitOn_eq (known : IsUnc path.toList server share afterServer rest) :
    path.toList.splitOn '\\' = [] :: [] :: server :: afterServer.splitOn '\\' := by
  rw [known.whole, ← known.splitOn_server]
  rfl

theorem splitOnP_eq (known : IsUnc path.toList server share afterServer rest) :
    path.toList.splitOnP Windows.isSeparator =
      [] :: [] :: server :: afterServer.splitOnP Windows.isSeparator := by
  have plain : ∀ letter ∈ server, Windows.isSeparator letter = false :=
    fun _ listed => known.server_plain listed
  rw [known.whole, ← List.splitOnP_append_cons_of_forall_mem plain '\\' rfl afterServer]
  rfl

theorem opened_eq (known : IsUnc path.toList server share afterServer rest) :
    opened devices path =
      if server = ['.'] then
        some ⟨.deviceNamespace, resolve devices [] (afterServer.splitOnP Windows.isSeparator)⟩
      else
        some ⟨.share server share, resolve devices [] (rest.splitOnP Windows.isSeparator)⟩ := by
  have noLong : Text.stripPrefix "\\\\?\\" path.toList = none := known.strip_longPrefix
  have other : server ≠ ['?'] := by
    intro same
    exact (known.serverLetter (by rw [same]; exact List.mem_singleton_self _)).2 rfl
  rcases known.split_afterServer devices with ⟨ordinary, literal, split, _, _, same⟩
  rw [opened, noLong]
  dsimp only
  rw [Windows.ordinaryPlace, known.splitOnP_eq]
  dsimp only
  by_cases dot : server = ['.']
  · rw [if_pos (Or.inl dot), if_pos dot]
  · rw [if_neg (not_or.mpr ⟨dot, other⟩), if_neg dot, split, ← same]

theorem opened_api (known : IsUnc path.toList server share afterServer rest) :
    opened devices (toWindowsApiPath path) =
      some ⟨.share server share, .entry (written (rest.splitOn '\\'))⟩ := by
  rcases known.split_afterServer devices with ⟨ordinary, literal, _, split, same, _⟩
  have long : Text.stripPrefix "\\\\?\\" (toWindowsApiPath path).toList =
      some ('U' :: 'N' :: 'C' :: '\\' :: (server ++ '\\' :: afterServer)) := by
    rw [known.toWindowsApiPath_eq, String.toList_append, String.toList_ofList]
    rfl
  have pieces : ('U' :: 'N' :: 'C' :: '\\' :: (server ++ '\\' :: afterServer)).splitOn '\\' =
      ['U', 'N', 'C'] :: server :: share :: literal := by
    rw [← split, ← known.splitOn_server]
    rfl
  rw [opened, long]
  dsimp only
  rw [Windows.verbatimPlace, pieces, ← same]
  rfl

/-- A path to a share is opened as it reads when its server is not the device
namespace and its segments are not rewritten. -/
theorem opened_iff (known : IsUnc path.toList server share afterServer rest) :
    opened devices (toWindowsApiPath path) = opened devices path ↔ server ≠ ['.'] ∧
      ∀ segment ∈ segmentsBehindRoot path,
        '/' ∉ segment ∧ deviceOf devices segment = none ∧ kept segment = segment := by
  rcases known.split_afterServer devices with ⟨ordinary, literal, _, split, same, _⟩
  have behind : segmentsBehindRoot path = written (rest.splitOn '\\') := by
    rw [segmentsBehindRoot, known.splitOn_eq, split, ← same]
  rw [known.opened_api, known.opened_eq, behind, ← known.segments.resolve_iff]
  by_cases dot : server = ['.']
  · rw [if_pos dot, Option.some_inj, Windows.Place.mk.injEq]
    constructor
    · intro places
      cases places.1
    · exact fun other => absurd dot other.1
  · rw [if_neg dot, Option.some_inj, Windows.Place.mk.injEq, eq_self_iff_true, true_and, eq_comm]
    exact (and_iff_right dot).symm

/-- The names of a path pass their validations as they are when they are trimmed. -/
theorem names_iff (known : IsUnc path.toList server share afterServer rest) :
    (∀ serverName shareName, parseUncComponents path = some (serverName, shareName) →
      validateSmbServer serverName = .ok serverName ∧
        validateShareName shareName = .ok shareName) ↔
      Text.trim server = server ∧ Text.trim share = share := by
  have accepted : (validateSmbServer (String.ofList server) = .ok (String.ofList server) ↔
        Text.trim server = server) ∧
      (validateShareName (String.ofList share) = .ok (String.ofList share) ↔
        Text.trim share = share) := by
    rw [validateSmbServer_eq_ok_iff, validateShareName_eq_ok_iff, String.toList_ofList,
      String.toList_ofList, String.ofList_inj, String.ofList_inj, and_iff_right known.serverName,
      and_iff_right known.shareName]
    exact ⟨eq_comm, eq_comm⟩
  rw [known.parseUncComponents_eq, ← accepted.1, ← accepted.2]
  constructor
  · exact fun unchanged => unchanged _ _ rfl
  · intro unchanged serverName shareName same
    cases same
    exact unchanged

theorem rootNames_eq (known : IsUnc path.toList server share afterServer rest) :
    rootNames path = some (server, share) := by
  rcases known.split_afterServer [] with ⟨ordinary, literal, _, split, _⟩
  rw [rootNames, known.splitOn_eq, split]

end IsUnc

/-- The long-path form of a validated path opens what the path names, and its server
and share pass their validations unchanged, exactly when no part of the path would be
rewritten. -/
theorem openedPath_iff (devices : List String) {input : String}
    (validated : validatePath input = .ok path) :
    (opened devices (toWindowsApiPath path) = opened devices path ∧
      ∀ server share, parseUncComponents path = some (server, share) →
        validateSmbServer server = .ok server ∧ validateShareName share = .ok share) ↔
      KeepsMeaning devices path := by
  rcases (validatePath_eq_ok validated).2 with accepted | accepted
  · rcases (isLocal_of_validated accepted).2 with ⟨drive, rest, known⟩
    rw [known.opened_iff, known.parseUncComponents_eq]
    constructor
    · exact fun both => both.1
    · intro kept
      refine ⟨kept, ?_⟩
      intro server share impossible
      cases impossible
  · rcases (isUnc_of_validated accepted).2 with ⟨server, share, afterServer, rest, known⟩
    rw [known.opened_iff, known.names_iff]
    constructor
    · intro ⟨⟨noDevices, plain⟩, serverTrimmed, shareTrimmed⟩
      refine ⟨plain, ?_⟩
      intro name other same
      rw [known.rootNames_eq] at same
      cases same
      exact ⟨noDevices, serverTrimmed, shareTrimmed⟩
    · intro kept
      rcases kept.root server share known.rootNames_eq with
        ⟨noDevices, serverTrimmed, shareTrimmed⟩
      exact ⟨⟨noDevices, kept.segments⟩, serverTrimmed, shareTrimmed⟩

theorem openedPath_iff_plain :
    opened reservedDeviceNames (toWindowsApiPath "C:\\data") =
      opened reservedDeviceNames "C:\\data" := by
  have validated : validatePath "C:\\data" = .ok "C:\\data" := by decide
  apply ((openedPath_iff reservedDeviceNames validated).mpr ?_).1
  refine ⟨by decide, ?_⟩
  intro server share impossible
  have noNames : rootNames "C:\\data" = none := by decide
  rw [noNames] at impossible
  cases impossible

/-- A dot at the end is accepted and opened literally, though the path names the
folder without it. -/
theorem openedPath_dot : validatePath "C:\\data." = .ok "C:\\data." ∧
    opened reservedDeviceNames (toWindowsApiPath "C:\\data.") ≠
      opened reservedDeviceNames "C:\\data." := by
  decide

end Opened

end Validation
end Stars

import Stars.AdResolver.SidText
import Stars.Collections.Marked
import Stars.Core.Explanation
import Stars.Json.Writing
import Stars.PermissionEngine.Rights
import Stars.Validation.PathChecks

namespace Stars
namespace Exporter

open Collections
open Json
open PermissionEngine

/-!
# Results as CSV

A spreadsheet takes a cell for a formula when it begins with one of six letters.  The
cells with free text are marked by an apostrophe where they do; the other cells begin
with a letter that is known from their shape.  A marked text cannot be told from a text
that has the apostrophe itself.
-/

def headers : List String :=
  ["path", "user_sid", "user_name", "user_domain", "identity_kind", "disabled", "ntfs_mask_hex",
    "ntfs_rights", "share_mask_hex", "share_rights", "effective_mask_hex", "effective_rights",
    "explanation", "unsupported_aces", "share_status", "local_group_status", "local_group_error",
    "matched_aces_json", "contributing_sids_json", "diagnostics_json", "determinable",
    "not_determinable_reasons"]

def formulaTriggers : List Char := ['=', '+', '-', '@', '\t', '\r']

/-- The text begins with a letter that starts a formula. -/
def startsFormula (text : String) : Bool := text.toList.head?.any formulaTriggers.contains

def neutralizeSpreadsheetFormula (value : String) : String :=
  if startsFormula value then "'" ++ value else value

def hexMask (mask : AccessMask) : String := "0x" ++ Text.hex8 mask

/-- The name of a kind in messages. -/
def kindDebug : IdentityKind → String
  | .user => "User"
  | .group => "Group"
  | .computer => "Computer"
  | .wellKnown => "WellKnown"
  | .foreignSecurityPrincipal => "ForeignSecurityPrincipal"
  | .orphaned => "Orphaned"
  | .unknown => "Unknown"

def shareStatusLabel : ShareEvalStatus → String
  | .notApplicable => "not_applicable"
  | .applied => "applied"
  | .unrestricted => "unrestricted"
  | .readFailed reason => s!"read_failed:{reason}"

/-- The status and, in a column of its own, the error text. -/
def localGroupStatusFields : LocalGroupEvalStatus → String × String
  | .notQueried => ("not_queried", "")
  | .applied => ("applied", "")
  | .notAvailable reason => ("not_available", reason)

def writeBool (value : Bool) : List Char := if value then "true".toList else "false".toList

def aceKindName : AceKind → String
  | .allow => "Allow"
  | .deny => "Deny"

def writeMatchedAce (ace : AceEntry) : List Char :=
  '{' :: member "sid" (writeText ace.sid.value)
    (',' :: member "kind" (writeText (aceKindName ace.kind))
      (',' :: member "mask" (writeText (hexMask ace.mask))
        (',' :: member "inherited" (writeBool ace.inherited) ['}'])))

def matchedAcesToJson (aces : List AceEntry) : String := String.ofList (writeArray writeMatchedAce aces)

def writeContribution (contribution : ContributingAce) : List Char :=
  '{' :: member "sid" (writeText contribution.sid.value)
    (',' :: member "mask" (writeText (hexMask contribution.mask)) ['}'])

def contributingSidsToJson (contributions : List ContributingAce) : String :=
  String.ofList (writeArray writeContribution contributions)

def joinTexts (texts : List String) : String := Text.join " | " texts

section Row

-- The derived serialization of one marker.
variable (writeDiagnostic : PermissionDiagnostic → List Char)

def diagnosticsToJson (diagnostics : List PermissionDiagnostic) : String :=
  String.ofList (writeArray writeDiagnostic diagnostics)

def recordFor (p : ExplainedPermission) : List String :=
  let uncertainty := p.uncertainty
  let ntfsLabel := rightsLabelCompact p.ntfsMask p.ntfsDeterminable
  let (shareHex, shareLabel) :=
    match p.shareMask with
    | some mask => (hexMask mask, rightsLabelCompact mask p.shareDeterminable)
    | none => ("(none)", "(none)")
  let effLabel := rightsLabelCompact p.effectiveMask uncertainty.isEmpty
  let determinable := if uncertainty.isEmpty then "yes" else "no"
  let reasons := uncertainty.map Uncertainty.reason
  let explanation := joinTexts p.pathExplanation
  let (lgStatus, lgError) := localGroupStatusFields p.localGroupStatus
  [ p.path,
    p.identity.sid.value,
    neutralizeSpreadsheetFormula (p.identity.name.getD ""),
    neutralizeSpreadsheetFormula (p.identity.domain.getD ""),
    kindDebug p.identity.kind,
    (AccountStatus.of p.identity p.diagnostics).csvValue,
    hexMask p.ntfsMask,
    ntfsLabel,
    shareHex,
    shareLabel,
    hexMask p.effectiveMask,
    effLabel,
    neutralizeSpreadsheetFormula explanation,
    toString p.unsupportedAceCount,
    shareStatusLabel p.shareStatus,
    lgStatus,
    neutralizeSpreadsheetFormula lgError,
    matchedAcesToJson p.matchedAces,
    contributingSidsToJson p.contributingSids,
    diagnosticsToJson writeDiagnostic p.diagnostics,
    determinable,
    neutralizeSpreadsheetFormula (joinTexts reasons) ]

/-- The cell of a row under a header. -/
def cell (name : String) (p : ExplainedPermission) : Option String :=
  (recordFor writeDiagnostic p)[headers.idxOf name]?

end Row

/-- A column whose texts are neutralised. -/
structure NeutralizedColumn where
  name : String
  text : ExplainedPermission → String

def neutralizedColumns : List NeutralizedColumn :=
  [⟨"user_name", fun p => p.identity.name.getD ""⟩,
    ⟨"user_domain", fun p => p.identity.domain.getD ""⟩,
    ⟨"explanation", fun p => joinTexts p.pathExplanation⟩,
    ⟨"local_group_error", fun p => (localGroupStatusFields p.localGroupStatus).2⟩,
    ⟨"not_determinable_reasons", fun p => joinTexts (p.uncertainty.map Uncertainty.reason)⟩]

theorem startsFormula_of_letters {text : String} {letter : Char} {rest : List Char}
    (letters : text.toList = letter :: rest) (plain : letter ∉ formulaTriggers) :
    startsFormula text = false := by
  rw [startsFormula, letters]
  exact Bool.eq_false_iff.mpr (fun trigger => plain (List.contains_iff_mem.mp trigger))

/-- No letter of a kind without triggers starts a formula. -/
theorem not_trigger_of_kind {kind : Char → Bool} {letter : Char}
    (others : formulaTriggers.all (fun trigger => !kind trigger) = true)
    (known : kind letter = true) : letter ∉ formulaTriggers := by
  intro trigger
  have other := List.all_eq_true.mp others letter trigger
  rw [known] at other
  cases other

/-- The text begins with a letter, and this letter starts no formula. -/
def beginsPlain (text : String) : Bool :=
  text.toList.head?.any (fun letter => !formulaTriggers.contains letter)

theorem startsFormula_append {front : String} (plain : beginsPlain front = true) (rest : String) :
    startsFormula (front ++ rest) = false := by
  rw [startsFormula, String.toList_append]
  rw [beginsPlain] at plain
  cases letters : front.toList with
  | nil =>
      rw [letters] at plain
      cases plain
  | cons letter others =>
      rw [letters] at plain
      exact Bool.not_eq_true' _ |>.mp plain

theorem startsFormula_marked (text : String) : startsFormula ("'" ++ text) = false :=
  startsFormula_append (by decide) text

theorem startsFormula_neutralized (value : String) :
    startsFormula (neutralizeSpreadsheetFormula value) = false :=
  not_needs_markWhere startsFormula_marked value

theorem startsFormula_hexMask (mask : AccessMask) : startsFormula (hexMask mask) = false :=
  startsFormula_append (by decide) _

theorem startsFormula_levelName (level : StandardLevel) (rest : String) :
    startsFormula (level.name ++ rest) = false := by
  apply startsFormula_append
  cases level <;> decide

theorem startsFormula_displayName (mask : AccessMask) : startsFormula (displayName mask) = false := by
  rw [displayName]
  split
  · decide
  · dsimp only
    split
    · rename_i level _
      split
      · rw [← String.append_empty (s := level.name)]
        exact startsFormula_levelName level ""
      · simp only [toString, String.append_assoc]
        exact startsFormula_levelName level _
    · exact startsFormula_append (by decide : beginsPlain "Special: " = true) _

theorem startsFormula_rightsLabelCompact (mask : AccessMask) (determinable : Bool) :
    startsFormula (rightsLabelCompact mask determinable) = false := by
  cases determinable with
  | true => exact startsFormula_displayName mask
  | false =>
      simp only [rightsLabelCompact, Bool.false_eq_true, if_false, toString, String.append_assoc]
      exact startsFormula_append (by decide : beginsPlain notDeterminable = true) _

theorem startsFormula_count (count : Nat) : startsFormula (toString count) = false := by
  cases letters : (toString count).toList with
  | nil => rw [startsFormula, letters, List.head?_nil, Option.any_none]
  | cons digit rest =>
      have member : digit ∈ (toString count).toList := by
        rw [letters]
        exact List.mem_cons_self
      have numeric := Text.isDigit_of_mem_toString member
      exact startsFormula_of_letters letters (not_trigger_of_kind (by decide) numeric)

theorem startsFormula_writeArray {Item : Type} (write : Item → List Char) (items : List Item) :
    startsFormula (String.ofList (writeArray write items)) = false := by
  cases items with
  | nil => exact startsFormula_of_letters String.toList_ofList (by decide)
  | cons item rest => exact startsFormula_of_letters String.toList_ofList (by decide)

theorem startsFormula_path {input path : String}
    (validated : Validation.validatePath input = .ok path) : startsFormula path = false := by
  rcases (Validation.validatePath_eq_ok validated).2 with accepted | accepted
  · rcases (Validation.isLocal_of_validated accepted).2 with ⟨drive, rest, known⟩
    exact startsFormula_of_letters known.whole (not_trigger_of_kind (by decide) known.alpha)
  · rcases (Validation.isUnc_of_validated accepted).2 with ⟨_, _, _, _, known⟩
    exact startsFormula_of_letters known.whole (by decide)

theorem startsFormula_sid {input : String} {sid : Sid} (accepted : Sid.tryNew input = .ok sid) :
    startsFormula sid.value = false := by
  rcases (AdResolver.tryNew_spec accepted).2.1 with ⟨rest, letters⟩
  exact startsFormula_of_letters letters.symm (by decide)

section Row

variable (writeDiagnostic : PermissionDiagnostic → List Char)

/-- A row with a validated path and a checked SID holds no formula. -/
theorem startsFormula_recordFor {p : ExplainedPermission}
    (path : startsFormula p.path = false) (sid : startsFormula p.identity.sid.value = false) :
    ∀ value ∈ recordFor writeDiagnostic p, startsFormula value = false := by
  have kind : startsFormula (kindDebug p.identity.kind) = false := by
    cases p.identity.kind <;> decide
  have account : startsFormula (AccountStatus.of p.identity p.diagnostics).csvValue = false := by
    cases AccountStatus.of p.identity p.diagnostics <;> decide
  have share : startsFormula (shareStatusLabel p.shareStatus) = false := by
    cases p.shareStatus with
    | readFailed reason => exact startsFormula_append (by decide : beginsPlain "read_failed:" = true) _
    | _ => decide
  have groups : startsFormula (localGroupStatusFields p.localGroupStatus).1 = false := by
    cases p.localGroupStatus with
    | notAvailable reason => exact (by decide : startsFormula "not_available" = false)
    | _ => decide
  have answer : startsFormula (if p.uncertainty.isEmpty then "yes" else "no") = false := by
    split <;> decide
  have label := startsFormula_rightsLabelCompact
  have marked := startsFormula_neutralized
  have hex := startsFormula_hexMask
  have list := @startsFormula_writeArray
  have absent : startsFormula "(none)" = false := by decide
  unfold recordFor
  cases p.shareMask with
  | none =>
      simp only [List.forall_mem_cons]
      exact ⟨path, sid, marked _, marked _, kind, account, hex _, label _ _, absent, absent, hex _,
        label _ _, marked _, startsFormula_count _, share, groups, marked _, list _ _, list _ _,
        list _ _, answer, marked _, List.forall_mem_nil _⟩
  | some mask =>
      simp only [List.forall_mem_cons]
      exact ⟨path, sid, marked _, marked _, kind, account, hex _, label _ _, hex _, label _ _, hex _,
        label _ _, marked _, startsFormula_count _, share, groups, marked _, list _ _, list _ _,
        list _ _, answer, marked _, List.forall_mem_nil _⟩

/-- Each neutralised column holds the marked text. -/
theorem cell_of_neutralized {column : NeutralizedColumn} (listed : column ∈ neutralizedColumns)
    (p : ExplainedPermission) :
    cell writeDiagnostic column.name p =
      some (neutralizeSpreadsheetFormula (column.text p)) := by
  have places : headers.idxOf "user_name" = 2 ∧ headers.idxOf "user_domain" = 3 ∧
      headers.idxOf "explanation" = 12 ∧ headers.idxOf "local_group_error" = 16 ∧
      headers.idxOf "not_determinable_reasons" = 21 := by
    decide
  simp only [neutralizedColumns, List.mem_cons, List.not_mem_nil, or_false] at listed
  rcases listed with same | same | same | same | same
  · rw [same, cell, places.1]
    rfl
  · rw [same, cell, places.2.1]
    rfl
  · rw [same, cell, places.2.2.1]
    rfl
  · rw [same, cell, places.2.2.2.1]
    rfl
  · rw [same, cell, places.2.2.2.2]
    rfl

end Row

/-- The texts of two rows are told apart by their cells. -/
def TellsApart (writeDiagnostic : PermissionDiagnostic → List Char) (rows : List ExplainedPermission) :
    Prop :=
  ∀ column ∈ neutralizedColumns, ∀ first ∈ rows, ∀ second ∈ rows,
    cell writeDiagnostic column.name first = cell writeDiagnostic column.name second →
      column.text first = column.text second

/-- No cell of a row begins with a letter that starts a formula. -/
def FormulaSafe (writeDiagnostic : PermissionDiagnostic → List Char)
    (rows : List ExplainedPermission) : Prop :=
  ∀ row ∈ rows, ∀ value ∈ recordFor writeDiagnostic row, startsFormula value = false

/-- No row has the text of another one behind an apostrophe where this one is marked. -/
def Unmarked (rows : List ExplainedPermission) : Prop :=
  ∀ column ∈ neutralizedColumns, ∀ first ∈ rows, ∀ second ∈ rows,
    startsFormula (column.text first) = true → column.text second ≠ "'" ++ column.text first

theorem tellsApart_iff (writeDiagnostic : PermissionDiagnostic → List Char)
    (rows : List ExplainedPermission) : TellsApart writeDiagnostic rows ↔ Unmarked rows := by
  have injective : Function.Injective (fun text : String => "'" ++ text) := by
    intro first second same
    exact (String.append_right_inj "'").mp same
  refine forall_congr' fun column => forall_congr' fun listed => ?_
  have exactly := markWhere_injOn_iff injective startsFormula_marked
    (column.text '' {row | row ∈ rows})
  constructor
  · intro apart first firstListed second secondListed needed same
    refine exactly.mp ?_ _ ⟨first, firstListed, rfl⟩ needed ⟨second, secondListed, same⟩
    intro text held other otherHeld equal
    rcases held with ⟨row, inRows, own⟩
    rcases otherHeld with ⟨otherRow, otherInRows, otherOwn⟩
    cases own
    cases otherOwn
    apply apart row inRows otherRow otherInRows
    rw [cell_of_neutralized writeDiagnostic listed, cell_of_neutralized writeDiagnostic listed]
    exact congrArg some equal
  · intro unmarked first firstListed second secondListed same
    rw [cell_of_neutralized writeDiagnostic listed, cell_of_neutralized writeDiagnostic listed,
      Option.some_inj] at same
    refine exactly.mpr ?_ ⟨first, firstListed, rfl⟩ ⟨second, secondListed, rfl⟩ same
    intro text held needed marked
    rcases held with ⟨row, inRows, own⟩
    rcases marked with ⟨otherRow, otherInRows, otherOwn⟩
    cases own
    exact unmarked row inRows otherRow otherInRows needed otherOwn

/-- An export is free of formulas, and it loses no text exactly when no neutralised
column holds a text that needs the mark and the same text behind an apostrophe. -/
theorem csvExport_iff (writeDiagnostic : PermissionDiagnostic → List Char)
    {rows : List ExplainedPermission}
    (paths : ∀ row ∈ rows, ∃ input, Validation.validatePath input = .ok row.path)
    (sids : ∀ row ∈ rows, ∃ input, Sid.tryNew input = .ok row.identity.sid) :
    FormulaSafe writeDiagnostic rows ∧ (TellsApart writeDiagnostic rows ↔ Unmarked rows) := by
  refine ⟨?_, tellsApart_iff writeDiagnostic rows⟩
  intro row inRows
  rcases paths row inRows with ⟨path, validated⟩
  rcases sids row inRows with ⟨sid, accepted⟩
  exact startsFormula_recordFor writeDiagnostic (startsFormula_path validated)
    (startsFormula_sid accepted)

/-! ## Two accounts with one cell -/

def accountRow (name sid : String) : ExplainedPermission where
  identity := { sid := ⟨sid⟩, name := some name }
  path := "C:\\data"
  ntfsMask := 0x2#32
  shareMask := none
  effectiveMask := 0x2#32

def similarAccounts : List ExplainedPermission :=
  [accountRow "-admin" "S-1-5-21-1-2-3-1001", accountRow "'-admin" "S-1-5-21-1-2-3-1002"]

theorem csvExport_iff_similar :
    FormulaSafe (fun _ => []) similarAccounts ∧
      (TellsApart (fun _ => []) similarAccounts ↔ Unmarked similarAccounts) := by
  apply csvExport_iff
  · intro row inRows
    rcases List.mem_pair.mp inRows with first | second
    · exact ⟨"C:\\data", by rw [first]; decide⟩
    · exact ⟨"C:\\data", by rw [second]; decide⟩
  · intro row inRows
    rcases List.mem_pair.mp inRows with first | second
    · exact ⟨"S-1-5-21-1-2-3-1001", by rw [first]; decide⟩
    · exact ⟨"S-1-5-21-1-2-3-1002", by rw [second]; decide⟩

/-- A marked name and a name with an apostrophe of its own. -/
theorem similarAccounts_one_cell : ¬ TellsApart (fun _ => []) similarAccounts := by
  intro apart
  have unmarked := (tellsApart_iff _ _).mp apart _ List.mem_cons_self
    _ List.mem_cons_self _ (List.mem_cons_of_mem _ List.mem_cons_self)
  exact unmarked (by decide) (by decide)

end Exporter
end Stars

import Stars.Exporter.Csv
import Stars.PermissionEngine.Explanation
import Stars.Text.Records

namespace Stars

open Exporter PermissionEngine

/-!
# Membership lists as CSV

The groups of an identity and the members of a group as comma-separated records of
six fields.  The texts of the directory are neutralised as spreadsheet cells and
quoted where they have to be; the columns with a fixed vocabulary are written as
they are.  The output is read back record by record as the neutralised values.
-/

/-- Well-known privileged role of a group, by its own SID or by the last part of a
domain SID. -/
def privilegedGroupRole (sid : Sid) : Option String :=
  if sid.value = "S-1-5-32-544" then some "Administrators"
  else if sid.value = "S-1-5-32-548" then some "Account Operators"
  else if sid.value = "S-1-5-32-549" then some "Server Operators"
  else if sid.value = "S-1-5-32-550" then some "Print Operators"
  else if sid.value = "S-1-5-32-551" then some "Backup Operators"
  else
    match Text.stripPrefix "S-1-5-21-" sid.value.toList with
    | none => none
    | some rest =>
        let rid := match Text.rsplitOnce '-' rest with
          | some (_, last) => String.ofList last
          | none => String.ofList rest
        if rid = "512" then some "Domain Admins"
        else if rid = "519" then some "Enterprise Admins"
        else if rid = "518" then some "Schema Admins"
        else if rid = "520" then some "Group Policy Creator Owners"
        else if rid = "526" then some "Key Admins"
        else if rid = "527" then some "Enterprise Key Admins"
        else none

/-- How a membership arose, without further routes. -/
def GroupMembership.originLabelBase (membership : GroupMembership) : String :=
  match membership.path.map MembershipPath.source with
  | some .primaryGroup => "primary group"
  | some .localGroup => "local group"
  | some .accountType => "added by Windows for every local account"
  | some .trustedDomainLogon => "added by Windows for an account of a trusted domain"
  | _ =>
      if membership.direct then "direct"
      else
        match membership.path with
        | none => "nested"
        | some path =>
            let arrow := Text.join " → " (path.nodes.zipIdx.map (fun node =>
              (path.names[node.2]?.join).getD node.1.value))
            if path.complete then s!"via {arrow}"
            else s!"via {arrow} (chain not fully reconstructed)"

/-- How a membership arose, with the further routes into the group. -/
def GroupMembership.originLabel (membership : GroupMembership) : String :=
  let base := membership.originLabelBase
  match membership.path.bind (fun path => formatAlsoVia path.alsoVia) with
  | some also => s!"{base}; also a member through {also}"
  | none => base

/-- The groups of an identity; the export reads the memberships only. -/
structure MembershipReport where
  memberships : List GroupMembership

/-- How a member is in a group. -/
inductive MemberVia where
  | direct
  | primaryGroup
deriving DecidableEq

def MemberVia.label : MemberVia → String
  | .direct => "direct"
  | .primaryGroup => "via primaryGroupID"

structure MemberNode where
  identity : Identity
  via : MemberVia

/-- The members of a group; the export reads the members only. -/
structure GroupMembersReport where
  members : List MemberNode

namespace Cli

/-- A cell: neutralised, and quoted where a comma, a quote or a line break makes
it necessary. -/
def csvField (value : String) : String :=
  let value := neutralizeSpreadsheetFormula value
  if value.toList.any (fun letter => letter ∈ [',', '"', '\n', '\r']) then
    "\"" ++ String.ofList (Text.doubleQuotes value.toList) ++ "\""
  else value

def membershipRow (m : GroupMembership) : String :=
  let source := (m.path.map (fun path => path.source.label)).getD ""
  let role := (privilegedGroupRole m.groupSid).getD ""
  csvField (m.groupName.getD "") ++ "," ++ csvField m.groupSid.value ++ "," ++ toString m.direct ++
    "," ++ csvField source ++ "," ++ csvField role ++ "," ++ csvField m.originLabel ++ "\n"

def membershipCsv (report : MembershipReport) : String :=
  report.memberships.foldl (fun s m => s ++ membershipRow m)
    "group_name,group_sid,direct,source,privileged_role,origin\n"

def groupMembersRow (m : MemberNode) : String :=
  let role := (privilegedGroupRole m.identity.sid).getD ""
  csvField (m.identity.name.getD "") ++ "," ++ csvField m.identity.sid.value ++ "," ++
    kindDebug m.identity.kind ++ "," ++ csvField m.via.label ++ "," ++
    toString m.identity.disabled ++ "," ++ csvField role ++ "\n"

def groupMembersCsv (report : GroupMembersReport) : String :=
  report.members.foldl (fun s m => s ++ groupMembersRow m)
    "member_name,member_sid,kind,via,disabled,privileged_role\n"

def membershipHeader : List String :=
  ["group_name", "group_sid", "direct", "source", "privileged_role", "origin"]

def groupMembersHeader : List String :=
  ["member_name", "member_sid", "kind", "via", "disabled", "privileged_role"]

/-- The six values of a membership, as they are known. -/
def membershipValues (m : GroupMembership) : List String :=
  [m.groupName.getD "", m.groupSid.value, toString m.direct,
    (m.path.map (fun path => path.source.label)).getD "",
    (privilegedGroupRole m.groupSid).getD "", m.originLabel]

/-- The six values of a member, as they are known. -/
def groupMembersValues (m : MemberNode) : List String :=
  [m.identity.name.getD "", m.identity.sid.value, kindDebug m.identity.kind, m.via.label,
    toString m.identity.disabled, (privilegedGroupRole m.identity.sid).getD ""]

/-- The records of a text, as strings. -/
def readCsv (text : String) : Option (List (List String)) :=
  (Text.readRecords text.toList).map (fun records =>
    records.map (fun record => record.map String.ofList))

/-- A cell is the written form of its neutralised value. -/
theorem csvField_eq (value : String) :
    (csvField value).toList = Text.writeField (neutralizeSpreadsheetFormula value).toList := by
  unfold csvField Text.writeField Text.needsQuotes
  dsimp only
  split
  · have quote : "\"".toList = ['"'] := by decide
    rw [String.toList_append, String.toList_append, quote, String.toList_ofList]
    rfl
  · rfl

/-- A value of a fixed vocabulary is its own cell. -/
def PlainValue (value : String) : Prop :=
  Text.needsQuotes value.toList = false ∧ startsFormula value = false

instance (value : String) : Decidable (PlainValue value) := inferInstanceAs (Decidable (_ ∧ _))

theorem writeField_of_plainValue {value : String} (plain : PlainValue value) :
    Text.writeField (neutralizeSpreadsheetFormula value).toList = value.toList := by
  rw [neutralizeSpreadsheetFormula, plain.2, if_neg Bool.false_ne_true, Text.writeField, plain.1,
    if_neg Bool.false_ne_true]

theorem plainValue_bool (value : Bool) : PlainValue (toString value) := by
  cases value <;> decide

theorem plainValue_kindDebug (kind : IdentityKind) : PlainValue (kindDebug kind) := by
  cases kind <;> decide

/-- A row of six cells is the record of their values. -/
theorem row_eq {c1 c2 c3 c4 c5 c6 : String} {v1 v2 v3 v4 v5 v6 : List Char}
    (first : c1.toList = Text.writeField v1) (second : c2.toList = Text.writeField v2)
    (third : c3.toList = Text.writeField v3) (fourth : c4.toList = Text.writeField v4)
    (fifth : c5.toList = Text.writeField v5) (sixth : c6.toList = Text.writeField v6) :
    (c1 ++ "," ++ c2 ++ "," ++ c3 ++ "," ++ c4 ++ "," ++ c5 ++ "," ++ c6 ++ "\n").toList =
      Text.writeRecord [v1, v2, v3, v4, v5, v6] := by
  have comma : ",".toList = [','] := by decide
  have newline : "\n".toList = ['\n'] := by decide
  simp only [String.toList_append, first, second, third, fourth, fifth, sixth, comma, newline,
    Text.writeRecord, List.append_assoc, List.cons_append, List.nil_append]

/-- The neutralised values of a record as it is written. -/
def writtenRecord (values : List String) : List (List Char) :=
  values.map (fun value => (neutralizeSpreadsheetFormula value).toList)

theorem membershipRow_eq (m : GroupMembership) :
    (membershipRow m).toList = Text.writeRecord (writtenRecord (membershipValues m)) :=
  row_eq (csvField_eq _) (csvField_eq _)
    (writeField_of_plainValue (plainValue_bool m.direct)).symm (csvField_eq _) (csvField_eq _)
    (csvField_eq _)

theorem groupMembersRow_eq (m : MemberNode) :
    (groupMembersRow m).toList = Text.writeRecord (writtenRecord (groupMembersValues m)) :=
  row_eq (csvField_eq _) (csvField_eq _)
    (writeField_of_plainValue (plainValue_kindDebug m.identity.kind)).symm (csvField_eq _)
    (writeField_of_plainValue (plainValue_bool m.identity.disabled)).symm (csvField_eq _)

/-! ## The whole export -/

/-- A header and rows that are written records are read as these records. -/
theorem readCsv_rows {Item : Type} {row : Item → String} {values : Item → List String}
    {header : String} {names : List String}
    (headerEq : header.toList = Text.writeRecord (writtenRecord names)) (named : names ≠ [])
    (rowEq : ∀ item, (row item).toList = Text.writeRecord (writtenRecord (values item)))
    (valued : ∀ item, values item ≠ []) (items : List Item) :
    readCsv (items.foldl (fun s item => s ++ row item) header) =
      some ((names :: items.map values).map (fun record =>
        record.map neutralizeSpreadsheetFormula)) := by
  have written : (items.foldl (fun s item => s ++ row item) header).toList =
      header.toList ++ (items.map (fun item => writtenRecord (values item))).flatMap
        Text.writeRecord := by
    clear headerEq
    induction items generalizing header with
    | nil => exact (List.append_nil _).symm
    | cons item rest ih =>
        rw [List.foldl_cons, ih, String.toList_append, rowEq, List.map_cons, List.flatMap_cons,
          List.append_assoc]
  have whole : (items.foldl (fun s item => s ++ row item) header).toList =
      ((names :: items.map values).map writtenRecord).flatMap Text.writeRecord := by
    rw [written, headerEq, List.map_cons, List.map_map, List.flatMap_cons]
    rfl
  have nonempty : ∀ record ∈ (names :: items.map values).map writtenRecord, record ≠ [] := by
    intro record listed
    rcases List.mem_map.mp listed with ⟨source, known, same⟩
    rw [← same]
    apply List.map_eq_nil_iff.not.mpr
    rcases List.mem_cons.mp known with rfl | member
    · exact named
    · rcases List.mem_map.mp member with ⟨item, _, same⟩
      exact same ▸ valued item
  rw [readCsv, whole, Text.readRecords_writeRecord _ nonempty, Option.map_some, List.map_map]
  congr 1
  apply List.map_congr_left
  intro record _
  simp only [Function.comp_apply, writtenRecord, List.map_map]
  apply List.map_congr_left
  intro value _
  exact String.ofList_toList

/-- A text is read as a header and one record of six neutralised values for each
entry, in order, and no value starts a formula. -/
structure ReadBack (text : String) (header : List String) (entries : List (List String)) :
    Prop where
  read : readCsv text =
    some (header :: entries.map (fun record => record.map neutralizeSpreadsheetFormula))
  six : ∀ record ∈ header :: entries, record.length = 6
  plain : ∀ record ∈ header :: entries.map (fun record =>
    record.map neutralizeSpreadsheetFormula), ∀ value ∈ record, startsFormula value = false

/-- The names of a header are plain values. -/
private theorem readBack_of_rows {text : String} {header : List String}
    {entries : List (List String)} (plainHeader : ∀ name ∈ header, startsFormula name = false)
    (sixNames : header.length = 6) (sixValues : ∀ record ∈ entries, record.length = 6)
    (read : readCsv text = some ((header :: entries).map (fun record =>
      record.map neutralizeSpreadsheetFormula))) : ReadBack text header entries where
  read := by
    have unchanged : header.map neutralizeSpreadsheetFormula = header := by
      refine (List.map_congr_left ?_).trans (List.map_id header)
      intro name listed
      rw [neutralizeSpreadsheetFormula, plainHeader name listed, if_neg Bool.false_ne_true]
      rfl
    rw [read, List.map_cons, unchanged]
  six := List.forall_mem_cons.mpr ⟨sixNames, sixValues⟩
  plain := by
    refine List.forall_mem_cons.mpr ⟨plainHeader, ?_⟩
    intro record listed value inside
    rcases List.mem_map.mp listed with ⟨source, _, same⟩
    rw [← same] at inside
    rcases List.mem_map.mp inside with ⟨original, _, neutral⟩
    exact neutral ▸ startsFormula_neutralized original

theorem membershipCsv_readBack (report : MembershipReport) :
    ReadBack (membershipCsv report) membershipHeader
      (report.memberships.map membershipValues) := by
  have header : "group_name,group_sid,direct,source,privileged_role,origin\n".toList =
      Text.writeRecord (writtenRecord membershipHeader) := by decide
  apply readBack_of_rows
  · decide
  · rfl
  · intro record listed
    rcases List.mem_map.mp listed with ⟨m, _, same⟩
    rw [← same]
    rfl
  · exact readCsv_rows header (List.cons_ne_nil _ _) membershipRow_eq
      (fun _ => List.cons_ne_nil _ _) report.memberships

theorem groupMembersCsv_readBack (report : GroupMembersReport) :
    ReadBack (groupMembersCsv report) groupMembersHeader
      (report.members.map groupMembersValues) := by
  have header : "member_name,member_sid,kind,via,disabled,privileged_role\n".toList =
      Text.writeRecord (writtenRecord groupMembersHeader) := by decide
  apply readBack_of_rows
  · decide
  · rfl
  · intro record listed
    rcases List.mem_map.mp listed with ⟨m, _, same⟩
    rw [← same]
    rfl
  · exact readCsv_rows header (List.cons_ne_nil _ _) groupMembersRow_eq
      (fun _ => List.cons_ne_nil _ _) report.members

/-- Both membership exports are read back, whatever their names, SIDs and
routes are. -/
theorem membershipExports_readBack :
    (∀ report : MembershipReport, ReadBack (membershipCsv report) membershipHeader
      (report.memberships.map membershipValues)) ∧
    ∀ report : GroupMembersReport, ReadBack (groupMembersCsv report) groupMembersHeader
      (report.members.map groupMembersValues) :=
  ⟨membershipCsv_readBack, groupMembersCsv_readBack⟩

end Cli
end Stars

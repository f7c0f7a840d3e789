import Stars.ShareScanner.ShareRead

namespace Stars
namespace Exporter

open FsScanner ShareScanner

/-!
# Who is on the access lists of a path

The trustee list of a report is read off the access lists alone, without an identity.
It names the entries of the object's list and those of the share, and where a list
could not be read, or restricts nobody, or has no entries, it says so in a hint.

A file list with a lost entry always carries a hint.  The share side hints at a list it
could not read, but not at an entry it lost.
-/

inductive TrusteeCategory where
  | ntfs
  | share
deriving DecidableEq

/-- One access entry with its raw data. -/
structure PathTrustee where
  sid : Sid
  displayName : Option String
  kind : AceKind
  mask : AccessMask
  inherited : Bool
  inheritanceFlags : BitVec 32
  propagationFlags : BitVec 32
  category : TrusteeCategory
deriving DecidableEq

inductive PathTrusteeEntry where
  | ace (trustee : PathTrustee)
  | diagnostic (category : TrusteeCategory) (message : String)
deriving DecidableEq

/-- The share side, read once for all paths of a scan. -/
structure ShareTrusteeOverlay where
  trustees : List PathTrusteeEntry := []

/-- The row of a share permission. -/
def shareTrustee (permission : SharePermission) : PathTrustee where
  sid := permission.sid
  displayName := none
  kind := permission.kind
  mask := permission.mask
  inherited := false
  inheritanceFlags := 0
  propagationFlags := 0
  category := .share

def readShareOverlay (scan : Except CoreError ShareDaclScan) : ShareTrusteeOverlay where
  trustees :=
    match scan with
    | .error reason => [.diagnostic .share ("share DACL not readable: " ++ reason.display)]
    | .ok read =>
        match read.dacl with
        | .nullDacl => [.diagnostic .share
            "Share NULL DACL — no SMB restriction (effective: Everyone full access)"]
        | .noSecurityDescriptor => [.diagnostic .share
            ("Share permissions not determinable: " ++ noSecurityDescriptorReason)]
        | .acl permissions => permissions.map (fun permission => .ace (shareTrustee permission))

/-- The trustees whose names are asked for.  The owner is not among them. -/
def collectAceSidsForResolution (object : FileSystemObject)
    (shareOverlay : Option ShareTrusteeOverlay) : List Sid :=
  let own := if object.nullDacl then [] else object.dacl.map AceEntry.sid
  let shared := (shareOverlay.getD {}).trustees.filterMap (fun entry =>
    match entry with
    | .ace trustee => some trustee.sid
    | .diagnostic _ _ => none)
  (own ++ shared).filter (fun sid => sid.value ≠ "")

/-- The row of an entry of the object's list. -/
def ntfsTrustee (ace : AceEntry) : PathTrustee where
  sid := ace.sid
  displayName := none
  kind := ace.kind
  mask := ace.mask
  inherited := ace.inherited
  inheritanceFlags := ace.inheritanceFlags
  propagationFlags := ace.propagationFlags
  category := .ntfs

/-- What is said behind the entries of an object that has a list. -/
def ntfsHints (object : FileSystemObject) : List PathTrusteeEntry :=
  if object.unsupportedAces.any (fun lost => lost.aceType = aceTypeAclUnreadable) then
    [.diagnostic .ntfs "NTFS ACL could not be read — who has access to this path is UNKNOWN"]
  else if !object.unsupportedAces.isEmpty then
    [.diagnostic .ntfs (s!"{object.unsupportedAces.length} NTFS ACE(s) could not be evaluated " ++
      "(unsupported type or unreadable entry) — this trustee list is incomplete")]
  else if object.dacl.isEmpty then
    [.diagnostic .ntfs "NTFS empty DACL — no access for anyone"]
  else []

def ntfsTrustees (object : FileSystemObject) : List PathTrusteeEntry :=
  if object.nullDacl then
    [.diagnostic .ntfs "NTFS NULL DACL — no access restriction (effective: Everyone full access)"]
  else object.dacl.map (fun ace => .ace (ntfsTrustee ace)) ++ ntfsHints object

/-- A hint carries its own reason and takes no name. -/
def withName (sidNames : List (Sid × String)) : PathTrusteeEntry → PathTrusteeEntry
  | .ace trustee =>
      .ace { trustee with displayName := trustee.displayName.or (sidNames.lookup trustee.sid) }
  | .diagnostic category message => .diagnostic category message

def buildPathTrusteesWithShareAndNames (object : FileSystemObject)
    (shareOverlay : Option ShareTrusteeOverlay) (sidNames : List (Sid × String)) :
    List PathTrusteeEntry :=
  (ntfsTrustees object ++ (shareOverlay.getD {}).trustees).map (withName sidNames)

/-- A hint about one side. -/
def HasHint (category : TrusteeCategory) (list : List PathTrusteeEntry) : Prop :=
  ∃ message, .diagnostic category message ∈ list

def PathTrusteeEntry.rowOf (category : TrusteeCategory) : PathTrusteeEntry → Option PathTrustee
  | .ace trustee => if trustee.category = category then some trustee else none
  | .diagnostic _ _ => none

/-- The rows of one side, in the order of the list. -/
def rowsOf (category : TrusteeCategory) (list : List PathTrusteeEntry) : List PathTrustee :=
  list.filterMap (PathTrusteeEntry.rowOf category)

/-- A row that says what an entry of an access list says, and under which name. -/
structure ShowsAce (sidNames : List (Sid × String)) (ace : RawAce) (row : PathTrustee) : Prop where
  kind : match row.kind with
    | .allow => ace.aceType = accessAllowedAceType
    | .deny => ace.aceType = accessDeniedAceType
  trustee : row.sid = ace.trustee
  mask : row.mask = ace.mask
  name : row.displayName = sidNames.lookup ace.trustee

/-- A row that also says how the entry is inherited. -/
structure ShowsNtfsAce (sidNames : List (Sid × String)) (ace : RawAce) (row : PathTrustee) : Prop
    extends ShowsAce sidNames ace row where
  flags : row.inheritanceFlags ||| row.propagationFlags |||
    (if row.inherited then 0x10#32 else 0#32) = (ace.flags &&& 0x1F#8).setWidth 32

/-- Each row shows an entry of the list, in the order of the list. -/
def ShowsPart {Ace Row : Type} (shown : Ace → Row → Prop) (aces : List Ace) (rows : List Row) :
    Prop :=
  ∃ kept, kept.Sublist aces ∧ List.Forall₂ shown kept rows

/-- What a list says about the object. -/
structure NtfsSide (descriptor : SecurityDescriptor) (calls : Win32Calls)
    (sidNames : List (Sid × String)) (list : List PathTrusteeEntry) : Prop where
  /-- A hint stands for a list that is absent, empty, or read with a loss. -/
  hint : HasHint .ntfs list ↔ descriptor.dacl.getD [] = [] ∨
    ∃ aces, descriptor.dacl = some aces ∧ RecordsLoss calls aces
  complete : ¬HasHint .ntfs list →
    List.Forall₂ (ShowsNtfsAce sidNames) (descriptor.dacl.getD []) (rowsOf .ntfs list)
  sound : ShowsPart (ShowsNtfsAce sidNames) (descriptor.dacl.getD []) (rowsOf .ntfs list)

/-- What a list says about the share. -/
structure ShareSide (reading : ShareReading) (sidNames : List (Sid × String))
    (list : List PathTrusteeEntry) : Prop where
  /-- A hint stands for a share without an access list that could be read. -/
  hint : HasHint .share list ↔ ¬∃ aces, ListRead reading aces
  /-- The rows are complete unless an entry is lost, and nothing hints at the loss. -/
  complete : ∀ aces, ListRead reading aces →
    (List.Forall₂ (ShowsAce sidNames) aces (rowsOf .share list) ↔
      ∀ place ∈ aces.zipIdx, ¬reading.Lost place)
  sound : ∀ aces, ListRead reading aces → ShowsPart (ShowsAce sidNames) aces (rowsOf .share list)

section Sides

variable {sidNames : List (Sid × String)} {category : TrusteeCategory}

theorem hasHint_append {first second : List PathTrusteeEntry} :
    HasHint category (first ++ second) ↔ HasHint category first ∨ HasHint category second := by
  simp only [HasHint, List.mem_append, exists_or]

theorem hasHint_withName {list : List PathTrusteeEntry} :
    HasHint category (list.map (withName sidNames)) ↔ HasHint category list := by
  refine exists_congr (fun message => ?_)
  rw [List.mem_map]
  constructor
  · intro shown
    rcases shown with ⟨entry, listed, same⟩
    cases entry with
    | ace trustee => cases same
    | diagnostic other text =>
        cases same
        exact listed
  · exact fun listed => ⟨_, listed, rfl⟩

theorem rowOf_withName (entry : PathTrusteeEntry) :
    (withName sidNames entry).rowOf category =
      (entry.rowOf category).map (fun row =>
        { row with displayName := row.displayName.or (sidNames.lookup row.sid) }) := by
  cases entry with
  | ace trustee =>
      simp only [withName, PathTrusteeEntry.rowOf]
      split_ifs
      · rfl
      · rfl
  | diagnostic other text => rfl

theorem rowsOf_withName (list : List PathTrusteeEntry) :
    rowsOf category (list.map (withName sidNames)) =
      (rowsOf category list).map (fun row =>
        { row with displayName := row.displayName.or (sidNames.lookup row.sid) }) := by
  rw [rowsOf, rowsOf, List.filterMap_map, List.map_filterMap]
  exact congrArg (fun row => list.filterMap row) (funext rowOf_withName)

/-- The entries of a list belong to one side. -/
def OneSided (side : TrusteeCategory) (list : List PathTrusteeEntry) : Prop :=
  ∀ category, category ≠ side → rowsOf category list = [] ∧ ¬HasHint category list

theorem oneSided_aces {Ace : Type} {row : Ace → PathTrustee} {side : TrusteeCategory}
    (own : ∀ ace, (row ace).category = side) (aces : List Ace) :
    OneSided side (aces.map (fun ace => .ace (row ace))) ∧
      rowsOf side (aces.map (fun ace => .ace (row ace))) = aces.map row ∧
      ¬HasHint side (aces.map (fun ace => .ace (row ace))) := by
  have noHint : ∀ category, ¬HasHint category
      (aces.map (fun ace => PathTrusteeEntry.ace (row ace))) := by
    intro category hinted
    rcases hinted with ⟨message, listed⟩
    rcases List.mem_map.mp listed with ⟨ace, _, same⟩
    cases same
  refine ⟨fun category other => ⟨?_, noHint category⟩, ?_, noHint side⟩
  · rw [rowsOf, List.filterMap_map, List.filterMap_eq_nil_iff]
    intro ace _
    exact if_neg (fun same => other (same.symm.trans (own ace)))
  · rw [rowsOf, List.filterMap_map, ← List.filterMap_eq_map]
    refine List.filterMap_congr (fun ace _ => ?_)
    exact if_pos (own ace)

theorem oneSided_hint (side : TrusteeCategory) (message : String) :
    OneSided side [.diagnostic side message] ∧ rowsOf side [.diagnostic side message] = [] ∧
      HasHint side [.diagnostic side message] := by
  refine ⟨fun category other => ⟨rfl, fun hinted => ?_⟩, rfl, message, List.mem_singleton_self _⟩
  rcases hinted with ⟨text, listed⟩
  cases List.mem_singleton.mp listed
  exact other rfl

theorem OneSided.append {side : TrusteeCategory} {first second : List PathTrusteeEntry}
    (head : OneSided side first) (last : OneSided side second) : OneSided side (first ++ second) := by
  intro category other
  refine ⟨?_, fun hinted => ?_⟩
  · rw [rowsOf, List.filterMap_append]
    exact List.append_eq_nil_iff.mpr ⟨(head category other).1, (last category other).1⟩
  · rcases hasHint_append.mp hinted with earlier | later
    · exact (head category other).2 earlier
    · exact (last category other).2 later

end Sides

section Object

variable {object : FileSystemObject} {calls : Win32Calls} {sidNames : List (Sid × String)}

theorem ntfsHints_spec : OneSided .ntfs (ntfsHints object) ∧ rowsOf .ntfs (ntfsHints object) = [] ∧
    (HasHint .ntfs (ntfsHints object) ↔ object.unsupportedAces ≠ [] ∨ object.dacl = []) := by
  unfold ntfsHints
  split_ifs with unreadable lost noEntry
  · have hint := fun message => oneSided_hint .ntfs message
    refine ⟨(hint _).1, (hint _).2.1, iff_of_true (hint _).2.2 (Or.inl ?_)⟩
    intro nothing
    rw [nothing] at unreadable
    cases unreadable
  · have hint := fun message => oneSided_hint .ntfs message
    refine ⟨(hint _).1, (hint _).2.1, iff_of_true (hint _).2.2 (Or.inl ?_)⟩
    intro nothing
    rw [nothing] at lost
    cases lost
  · have hint := fun message => oneSided_hint .ntfs message
    exact ⟨(hint _).1, (hint _).2.1, iff_of_true (hint _).2.2 (Or.inr (List.isEmpty_iff.mp noEntry))⟩
  · refine ⟨fun category _ => ⟨rfl, ?_⟩, rfl, iff_of_false ?_ ?_⟩
    · exact fun hinted => List.not_mem_nil hinted.choose_spec
    · exact fun hinted => List.not_mem_nil hinted.choose_spec
    · rintro (something | absent)
      · exact lost (by simp [something])
      · exact noEntry (List.isEmpty_iff.mpr absent)

theorem ntfsTrustees_spec : OneSided .ntfs (ntfsTrustees object) ∧
    rowsOf .ntfs (ntfsTrustees object) =
      (if object.nullDacl then [] else object.dacl.map ntfsTrustee) ∧
    (HasHint .ntfs (ntfsTrustees object) ↔
      object.nullDacl = true ∨ object.unsupportedAces ≠ [] ∨ object.dacl = []) := by
  unfold ntfsTrustees
  cases object.nullDacl with
  | true =>
      have hint := oneSided_hint .ntfs
        "NTFS NULL DACL — no access restriction (effective: Everyone full access)"
      exact ⟨hint.1, hint.2.1, iff_of_true hint.2.2 (Or.inl rfl)⟩
  | false =>
      have rows := @oneSided_aces _ ntfsTrustee .ntfs (fun _ => rfl) object.dacl
      have hints := @ntfsHints_spec object
      simp only [Bool.false_eq_true, if_false, false_or]
      refine ⟨rows.1.append hints.1, ?_, ?_⟩
      · rw [rowsOf, List.filterMap_append]
        change rowsOf .ntfs _ ++ rowsOf .ntfs _ = _
        rw [rows.2.1, hints.2.1, List.append_nil]
      · rw [hasHint_append, hints.2.2, or_iff_right rows.2.2]

/-- An entry is left only by an index that holds it. -/
theorem entryAt_same {indexed : RawAce × Nat} {entry : AceEntry}
    (found : entryAt calls indexed = some entry) : SaysSame indexed.1 entry := by
  by_cases lost : Lost calls indexed
  · rw [entryAt, readAce] at found
    cases retrieved : calls.ace indexed.2 with
    | false =>
        rw [retrieved] at found
        cases found
    | true =>
        rw [retrieved, if_pos rfl] at found
        have other := lost.resolve_left
          (fun missing => Bool.noConfusion (missing.symm.trans retrieved))
        rcases parseAce_of_lost other with ⟨loss, unsupported | unreadable⟩
        · rw [unsupported] at found
          cases found
        · rw [unreadable] at found
          cases found
  · rcases (entryAt_of_kept lost).1 with ⟨kept, left, same⟩
    rw [left] at found
    cases found
    exact same

theorem showsPart_filterMap {Ace Row : Type} {shown : Ace → Row → Prop}
    {rowAt : Ace × Nat → Option Row}
    (same : ∀ place row, rowAt place = some row → shown place.1 row)
    (indexed : List (Ace × Nat)) :
    ShowsPart shown (indexed.map Prod.fst) (indexed.filterMap rowAt) := by
  induction indexed with
  | nil => exact ⟨[], .slnil, .nil⟩
  | cons first rest known =>
      rcases known with ⟨kept, inside, rows⟩
      cases found : rowAt first with
      | none =>
          rw [List.filterMap_cons_none found]
          exact ⟨kept, inside.cons _, rows⟩
      | some row =>
          rw [List.filterMap_cons_some found]
          exact ⟨first.1 :: kept, inside.cons_cons _, .cons (same first row found) rows⟩

theorem ShowsPart.map {Ace Row Other : Type} {shown : Ace → Row → Prop}
    {after : Ace → Other → Prop} {change : Row → Other}
    (step : ∀ ace row, shown ace row → after ace (change row)) {aces : List Ace} {rows : List Row}
    (part : ShowsPart shown aces rows) : ShowsPart after aces (rows.map change) := by
  rcases part with ⟨kept, inside, pairs⟩
  exact ⟨kept, inside, List.forall₂_map_right_iff.mpr (pairs.imp step)⟩

theorem parseDacl_part (dacl : List RawAce) : ShowsPart SaysSame dacl (parseDacl calls dacl).1 := by
  rw [parseDacl]
  split_ifs
  · have part := showsPart_filterMap (fun place row => @entryAt_same calls place row) dacl.zipIdx
    rw [List.zipIdx_map_fst] at part
    rwa [foldl_readAce]
  · exact ⟨[], List.nil_sublist _, .nil⟩

theorem showsNtfsAce_of_same {ace : RawAce} {entry : AceEntry} (same : SaysSame ace entry) :
    ShowsNtfsAce sidNames ace
      { ntfsTrustee entry with
        displayName := (ntfsTrustee entry).displayName.or (sidNames.lookup entry.sid) } where
  kind := same.kind
  trustee := same.trustee
  mask := same.mask
  name := congrArg (fun sid => sidNames.lookup sid) same.trustee
  flags := same.flags

/-- What the list of an object that was read says about it, whatever the share side. -/
theorem ntfsSide_of_read (descriptor : SecurityDescriptor) {overlay : List PathTrusteeEntry}
    (shared : OneSided .share overlay)
    (dacl : object.dacl = (parseSecurity calls descriptor).dacl)
    (nullDacl : object.nullDacl = (parseSecurity calls descriptor).nullDacl)
    (unsupported : object.unsupportedAces = (parseSecurity calls descriptor).unsupportedAces) :
    NtfsSide descriptor calls sidNames
      ((ntfsTrustees object ++ overlay).map (withName sidNames)) := by
  have own := @ntfsTrustees_spec object
  have other := shared .ntfs (by decide)
  have hinted : HasHint .ntfs ((ntfsTrustees object ++ overlay).map (withName sidNames)) ↔
      object.nullDacl = true ∨ object.unsupportedAces ≠ [] ∨ object.dacl = [] := by
    rw [hasHint_withName, hasHint_append, or_iff_left other.2, own.2.2]
  have rows : rowsOf .ntfs ((ntfsTrustees object ++ overlay).map (withName sidNames)) =
      (if object.nullDacl then [] else object.dacl.map ntfsTrustee).map (fun row =>
        { row with displayName := row.displayName.or (sidNames.lookup row.sid) }) := by
    rw [rowsOf_withName, rowsOf, List.filterMap_append]
    change (rowsOf .ntfs _ ++ rowsOf .ntfs _).map _ = _
    rw [own.2.1, other.1, List.append_nil]
  have losses : object.unsupportedAces ≠ [] ↔
      ∃ aces, descriptor.dacl = some aces ∧ RecordsLoss calls aces := by
    rw [unsupported]
    exact parseSecurity_unsupported descriptor
  cases present : descriptor.dacl with
  | none =>
      have null : object.nullDacl = true := by
        rw [nullDacl, parseSecurity, present]
      rw [null, if_pos rfl, List.map_nil] at rows
      refine ⟨iff_of_true (hinted.mpr (Or.inl null)) (Or.inl (by rw [present]; rfl)), ?_, ?_⟩
      · exact fun silent => absurd (hinted.mpr (Or.inl null)) silent
      · rw [rows]
        exact ⟨[], List.nil_sublist _, .nil⟩
  | some aces =>
      have something : object.nullDacl = false := by
        rw [nullDacl, parseSecurity, present]
      have list : object.dacl = (parseDacl calls aces).1 := by
        rw [dacl, parseSecurity, present]
      rw [something, if_neg Bool.false_ne_true, list, List.map_map] at rows
      rw [something, list, losses] at hinted
      have part := (@parseDacl_part calls aces).map
        (fun ace entry same => @showsNtfsAce_of_same sidNames ace entry same)
      have empty : ¬RecordsLoss calls aces → ((parseDacl calls aces).1 = [] ↔ aces = []) := by
        intro kept
        rw [← List.length_eq_zero_iff, ← (parseDacl_entries kept).length_eq,
          List.length_eq_zero_iff]
      have recorded : (∃ read, descriptor.dacl = some read ∧ RecordsLoss calls read) ↔
          RecordsLoss calls aces := by
        rw [present]
        simp
      rw [recorded] at hinted
      refine ⟨?_, fun silent => ?_, ?_⟩
      · rw [recorded, hinted, present, Option.getD_some]
        by_cases loss : RecordsLoss calls aces
        · exact iff_of_true (Or.inr (Or.inl loss)) (Or.inr loss)
        · have same := empty loss
          simp [loss, same]
      · have kept : ¬RecordsLoss calls aces := fun loss =>
          silent (hinted.mpr (Or.inr (Or.inl loss)))
        rw [rows, present]
        exact List.forall₂_map_right_iff.mpr
          ((parseDacl_entries kept).imp (fun ace entry => @showsNtfsAce_of_same sidNames ace entry))
      · rw [rows, present]
        exact part

end Object

/-! ## The share's side -/

section Share

variable {reading : ShareReading} {server shareName : String} {sidNames : List (Sid × String)}

theorem showsAce_of_same {ace : RawAce} {permission : SharePermission}
    (same : ShareReading.SaysSame ace permission) :
    ShowsAce sidNames ace
      { shareTrustee permission with
        displayName := (shareTrustee permission).displayName.or
          (sidNames.lookup permission.sid) } where
  kind := same.kind
  trustee := same.trustee
  mask := same.mask
  name := congrArg (fun sid => sidNames.lookup sid) same.trustee

/-- A share whose list is not read gives a hint. -/
theorem readShareOverlay_unread {scan : Except CoreError ShareDaclScan}
    (unread : ∀ permissions unsupported, scan ≠ .ok ⟨.acl permissions, unsupported⟩) :
    OneSided .share (readShareOverlay scan).trustees ∧
      HasHint .share (readShareOverlay scan).trustees := by
  have hint := fun message => oneSided_hint .share message
  cases scan with
  | error reason => exact ⟨(hint _).1, (hint _).2.2⟩
  | ok read =>
      rcases read with ⟨dacl, count⟩
      cases dacl with
      | nullDacl => exact ⟨(hint _).1, (hint _).2.2⟩
      | noSecurityDescriptor => exact ⟨(hint _).1, (hint _).2.2⟩
      | acl permissions => exact absurd rfl (unread permissions count)

theorem readShareOverlay_acl (permissions : List SharePermission) (unsupported : Nat) :
    OneSided .share (readShareOverlay (.ok ⟨.acl permissions, unsupported⟩)).trustees ∧
      rowsOf .share (readShareOverlay (.ok ⟨.acl permissions, unsupported⟩)).trustees =
        permissions.map shareTrustee ∧
      ¬HasHint .share (readShareOverlay (.ok ⟨.acl permissions, unsupported⟩)).trustees :=
  @oneSided_aces _ shareTrustee .share (fun _ => rfl) permissions

theorem readShareOverlay_oneSided (scan : Except CoreError ShareDaclScan) :
    OneSided .share (readShareOverlay scan).trustees := by
  by_cases read : ∃ permissions unsupported, scan = .ok ⟨.acl permissions, unsupported⟩
  · rcases read with ⟨permissions, unsupported, same⟩
    rw [same]
    exact (readShareOverlay_acl permissions unsupported).1
  · push Not at read
    exact (readShareOverlay_unread read).1

/-- What the list of an object says about the share, whatever the object's side. -/
theorem shareSide_of_read {own : List PathTrusteeEntry} (object : OneSided .ntfs own) :
    ShareSide reading sidNames
      ((own ++ (readShareOverlay (reading.getShareDacl shareName server)).trustees).map
        (withName sidNames)) := by
  have other := object .share (by decide)
  have hint : HasHint .share ((own ++
        (readShareOverlay (reading.getShareDacl shareName server)).trustees).map
          (withName sidNames)) ↔
      HasHint .share (readShareOverlay (reading.getShareDacl shareName server)).trustees := by
    rw [hasHint_withName, hasHint_append, or_iff_right other.2]
  have rows : rowsOf .share ((own ++
        (readShareOverlay (reading.getShareDacl shareName server)).trustees).map
          (withName sidNames)) =
      (rowsOf .share (readShareOverlay (reading.getShareDacl shareName server)).trustees).map
        (fun row => { row with displayName := row.displayName.or (sidNames.lookup row.sid) }) := by
    rw [rowsOf_withName, rowsOf, List.filterMap_append]
    change (rowsOf .share _ ++ rowsOf .share _).map _ = _
    rw [other.1, List.nil_append]
  have listed : ∀ aces, ListRead reading aces →
      (¬HasHint .share (readShareOverlay (reading.getShareDacl shareName server)).trustees) ∧
      rowsOf .share (readShareOverlay (reading.getShareDacl shareName server)).trustees =
        (aces.zipIdx.filterMap (reading.permissionAt shareName)).map shareTrustee := by
    intro aces read
    have acl := readShareOverlay_acl
      (aces.zipIdx.filterMap (reading.permissionAt shareName))
      (aces.zipIdx.countP (fun place => reading.Lost place))
    rw [getShareDacl_of_listRead read]
    exact ⟨acl.2.2, acl.2.1⟩
  refine ⟨?_, fun aces read => ?_, fun aces read => ?_⟩
  · rw [hint]
    constructor
    · intro hinted found
      rcases found with ⟨aces, read⟩
      exact (listed aces read).1 hinted
    · intro unlisted
      exact (readShareOverlay_unread (fun permissions unsupported found =>
        unlisted (listRead_of_getShareDacl found))).2
  · rw [rows, (listed aces read).2, List.map_map, List.forall₂_map_right_iff]
    constructor
    · intro shown
      have lengths := shown.length_eq
      apply (@ShareReading.permissions_length_iff reading shareName aces.zipIdx).mp
      rw [← lengths, List.length_zipIdx]
    · intro kept
      have pairs := @ShareReading.permissions_of_kept reading shareName _ kept
      rw [List.zipIdx_map_fst] at pairs
      exact pairs.imp (fun ace permission => @showsAce_of_same sidNames ace permission)
  · rw [rows, (listed aces read).2, List.map_map]
    have part := showsPart_filterMap
      (fun place permission => @ShareReading.permissionAt_same reading shareName place permission)
      aces.zipIdx
    rw [List.zipIdx_map_fst] at part
    exact part.map (fun ace permission => @showsAce_of_same sidNames ace permission)

end Share

/-! ## Whose names a list shows -/

/-- The trustee of a row was collected, unless its SID is empty. -/
theorem trustee_collected {object : FileSystemObject} {overlay : Option ShareTrusteeOverlay}
    {trustee : PathTrustee}
    (listed : .ace trustee ∈ ntfsTrustees object ++ (overlay.getD {}).trustees) :
    trustee.sid.value = "" ∨ trustee.sid ∈ collectAceSidsForResolution object overlay := by
  by_cases empty : trustee.sid.value = ""
  · exact Or.inl empty
  refine Or.inr (List.mem_filter.mpr ⟨List.mem_append.mpr ?_, decide_eq_true empty⟩)
  rcases List.mem_append.mp listed with own | shared
  · left
    have row : trustee ∈ rowsOf .ntfs (ntfsTrustees object) ∨ trustee.category ≠ .ntfs := by
      by_cases ntfs : trustee.category = .ntfs
      · exact Or.inl (List.mem_filterMap.mpr ⟨_, own, if_pos ntfs⟩)
      · exact Or.inr ntfs
    have spec := @ntfsTrustees_spec object
    rcases row with row | foreign
    · rw [spec.2.1] at row
      split_ifs at row with null
      · exact absurd row List.not_mem_nil
      · rcases List.mem_map.mp row with ⟨ace, inside, same⟩
        rw [if_neg null, ← same]
        exact List.mem_map_of_mem inside
    · have elsewhere := (spec.1 trustee.category foreign).1
      have here : trustee ∈ rowsOf trustee.category (ntfsTrustees object) :=
        List.mem_filterMap.mpr ⟨_, own, if_pos rfl⟩
      rw [elsewhere] at here
      exact absurd here List.not_mem_nil
  · exact Or.inr (List.mem_filterMap.mpr ⟨_, shared, rfl⟩)

theorem pathTrustees_congr {object : FileSystemObject} {overlay : Option ShareTrusteeOverlay}
    {first second : List (Sid × String)}
    (agree : ∀ sid, sid.value = "" ∨ sid ∈ collectAceSidsForResolution object overlay →
      first.lookup sid = second.lookup sid) :
    buildPathTrusteesWithShareAndNames object overlay first =
      buildPathTrusteesWithShareAndNames object overlay second := by
  refine List.map_congr_left (fun entry listed => ?_)
  cases entry with
  | diagnostic category message => rfl
  | ace trustee => rw [withName, withName, agree _ (trustee_collected listed)]

/-- For every descriptor and every share, and whatever the calls return: a trustee list
without a hint about the object shows its access list entry by entry, and otherwise a
part of it; a hint stands for a list that is absent, empty, or read with a loss.  The share
side has a hint exactly where no list was read, and shows a list that was read completely
exactly when no entry was lost. -/
theorem pathTrustees_sides (path : String) (attributes : BitVec 32) (linkTarget : Option LinkInfo)
    (descriptor : SecurityDescriptor) (calls : Win32Calls) (server shareName : String)
    (reading : ShareReading) (sidNames : List (Sid × String)) :
    ∃ object, objectRead path attributes linkTarget descriptor calls = .ok object ∧
      NtfsSide descriptor calls sidNames (buildPathTrusteesWithShareAndNames object
        (some (readShareOverlay (reading.getShareDacl shareName server))) sidNames) ∧
      ShareSide reading sidNames (buildPathTrusteesWithShareAndNames object
        (some (readShareOverlay (reading.getShareDacl shareName server))) sidNames) := by
  refine ⟨_, rfl, ?_, ?_⟩
  · exact ntfsSide_of_read descriptor (readShareOverlay_oneSided _) rfl rfl rfl
  · exact shareSide_of_read ntfsTrustees_spec.1

end Exporter
end Stars

import Stars.Collections.Fallible
import Stars.Core.Diagnostics

namespace Stars

open Collections

/-!
# Historical SIDs over a set of entries

The markers of the groups' historical SIDs count the first entry of each group
and pass over the others.  Where the entries of one group carry different
histories, the order in which the sources delivered them decides what is counted
and whether a marker is set at all.
-/

/-- The historical SIDs of an entry that were parsed; an entry that counts none
carries none. -/
def GroupMembership.evaluatedHistory (membership : GroupMembership) : Nat :=
  if membership.groupSidHistoryCount = 0 then 0 else membership.groupSidHistory.length

/-- The historical SIDs of an entry that were not parsed. -/
def GroupMembership.unevaluatedHistory (membership : GroupMembership) : Nat :=
  membership.groupSidHistoryCount - membership.groupSidHistory.length

/-- A group is counted when historical SIDs of it were parsed. -/
def GroupMembership.historyGroups (membership : GroupMembership) : Nat :=
  if membership.evaluatedHistory > 0 then 1 else 0

/-- The markers of entries that each stand for a group of their own. -/
def historyMarkers (entries : List GroupMembership) : List PermissionDiagnostic :=
  let groups := (entries.map GroupMembership.historyGroups).sum
  let evaluated := (entries.map GroupMembership.evaluatedHistory).sum
  let unevaluated := (entries.map GroupMembership.unevaluatedHistory).sum
  (if evaluated > 0 then [.groupSidHistoryEvaluated groups evaluated] else []) ++
    (if unevaluated > 0 then [.groupSidHistoryPresent unevaluated] else [])

/-- The markers of a list of entries are those of the set of its entries. -/
structure SetDetermined (memberships : List GroupMembership) : Prop where
  present : (∃ membership ∈ memberships,
      membership.groupSidHistory.length < membership.groupSidHistoryCount) →
    ∃ count, .groupSidHistoryPresent count ∈ groupSidHistoryDiagnostics memberships
  evaluated : (∃ membership ∈ memberships, membership.groupSidHistory ≠ []) →
    ∃ groups count, .groupSidHistoryEvaluated groups count ∈
      groupSidHistoryDiagnostics memberships
  counted_once : ∃ chosen, chosen.Sublist memberships ∧
    (chosen.map GroupMembership.groupSid).Nodup ∧
    (∀ membership ∈ memberships, membership.groupSid ∈ chosen.map GroupMembership.groupSid) ∧
    groupSidHistoryDiagnostics memberships = historyMarkers chosen
  any_order : ∀ arranged, memberships.Perm arranged →
    groupSidHistoryDiagnostics arranged = groupSidHistoryDiagnostics memberships

/-- The entries of one group say the same of its history, and where an entry
carries a historical SID, some entry counts one that it carries. -/
structure HistoriesAgree (memberships : List GroupMembership) : Prop where
  same : ∀ left ∈ memberships, ∀ right ∈ memberships, left.groupSid = right.groupSid →
    left.evaluatedHistory = right.evaluatedHistory ∧
      left.unevaluatedHistory = right.unevaluatedHistory
  counted : (∃ membership ∈ memberships, membership.groupSidHistory ≠ []) →
    ∃ membership ∈ memberships, 0 < membership.evaluatedHistory

theorem GroupSidHistoryTotals.add_of_seen {totals : GroupSidHistoryTotals}
    {membership : GroupMembership} (met : membership.groupSid ∈ totals.seen) :
    totals.add membership = totals := by
  rw [add, if_pos met]

theorem GroupSidHistoryTotals.add_of_fresh {totals : GroupSidHistoryTotals}
    {membership : GroupMembership} (fresh : membership.groupSid ∉ totals.seen) :
    totals.add membership =
      { seen := membership.groupSid :: totals.seen
        groups := totals.groups + membership.historyGroups
        evaluated := totals.evaluated + membership.evaluatedHistory
        unevaluated := totals.unevaluated + membership.unevaluatedHistory } := by
  rw [add, if_neg fresh, GroupMembership.historyGroups, GroupMembership.evaluatedHistory,
    GroupMembership.unevaluatedHistory]
  by_cases none : membership.groupSidHistoryCount = 0
  · simp [none]
  · by_cases parsed : membership.groupSidHistory.length > 0
    · simp [none, parsed]
    · simp [none, parsed]

/-- The totals count the first entry of every group that was not met before. -/
theorem foldl_totals (memberships : List GroupMembership) (totals : GroupSidHistoryTotals) :
    let first := distinctBy GroupMembership.groupSid totals.seen memberships
    let final := memberships.foldl GroupSidHistoryTotals.add totals
    final.groups = totals.groups + (first.map GroupMembership.historyGroups).sum ∧
      final.evaluated = totals.evaluated + (first.map GroupMembership.evaluatedHistory).sum ∧
      final.unevaluated =
        totals.unevaluated + (first.map GroupMembership.unevaluatedHistory).sum := by
  induction memberships generalizing totals with
  | nil => exact ⟨rfl, rfl, rfl⟩
  | cons membership rest ih =>
      rw [List.foldl_cons, distinctBy]
      by_cases met : membership.groupSid ∈ totals.seen
      · rw [if_pos met, GroupSidHistoryTotals.add_of_seen met]
        exact ih totals
      · rw [if_neg met, GroupSidHistoryTotals.add_of_fresh met]
        have known := ih
          { seen := membership.groupSid :: totals.seen
            groups := totals.groups + membership.historyGroups
            evaluated := totals.evaluated + membership.evaluatedHistory
            unevaluated := totals.unevaluated + membership.unevaluatedHistory }
        simp only [List.map_cons, List.sum_cons, ← Nat.add_assoc]
        exact known

theorem groupSidHistoryDiagnostics_eq (memberships : List GroupMembership) :
    groupSidHistoryDiagnostics memberships =
      historyMarkers (distinctBy GroupMembership.groupSid [] memberships) := by
  rcases foldl_totals memberships {} with ⟨groups, evaluated, unevaluated⟩
  rw [Nat.zero_add] at groups evaluated unevaluated
  rw [groupSidHistoryDiagnostics, historyMarkers, groups, evaluated, unevaluated]

theorem sum_pos_iff (value : GroupMembership → Nat) (entries : List GroupMembership) :
    0 < (entries.map value).sum ↔ ∃ entry ∈ entries, 0 < value entry := by
  induction entries with
  | nil => simp
  | cons entry rest ih =>
      simp only [List.map_cons, List.sum_cons, List.mem_cons, exists_eq_or_imp, ← ih]
      omega

theorem exists_present_iff {entries : List GroupMembership} :
    (∃ count, .groupSidHistoryPresent count ∈ historyMarkers entries) ↔
      ∃ entry ∈ entries, 0 < entry.unevaluatedHistory := by
  rw [← sum_pos_iff, historyMarkers]
  split <;> split <;> simp [*]

theorem exists_evaluated_iff {entries : List GroupMembership} :
    (∃ groups count, .groupSidHistoryEvaluated groups count ∈ historyMarkers entries) ↔
      ∃ entry ∈ entries, 0 < entry.evaluatedHistory := by
  rw [← sum_pos_iff, historyMarkers]
  split <;> split <;> simp [*]

/-- Equal markers count the same values. -/
theorem sums_of_historyMarkers {left right : List GroupMembership}
    (same : historyMarkers left = historyMarkers right) :
    (left.map GroupMembership.evaluatedHistory).sum =
        (right.map GroupMembership.evaluatedHistory).sum ∧
      (left.map GroupMembership.unevaluatedHistory).sum =
        (right.map GroupMembership.unevaluatedHistory).sum := by
  rw [historyMarkers, historyMarkers] at same
  generalize (left.map GroupMembership.evaluatedHistory).sum = leftRead at same ⊢
  generalize (right.map GroupMembership.evaluatedHistory).sum = rightRead at same ⊢
  generalize (left.map GroupMembership.unevaluatedHistory).sum = leftUnread at same ⊢
  generalize (right.map GroupMembership.unevaluatedHistory).sum = rightUnread at same ⊢
  split at same <;> split at same <;> split at same <;> split at same <;>
    simp at same <;> omega

variable {memberships : List GroupMembership}

/-- Agreeing entries give the same markers in every order. -/
theorem diagnostics_perm (agree : HistoriesAgree memberships)
    {arranged : List GroupMembership} (perm : memberships.Perm arranged) :
    groupSidHistoryDiagnostics arranged = groupSidHistoryDiagnostics memberships := by
  have sums : ∀ value : GroupMembership → Nat,
      (∀ left ∈ memberships, ∀ right ∈ memberships, left.groupSid = right.groupSid →
        value left = value right) →
      ((distinctBy GroupMembership.groupSid [] arranged).map value).sum =
        ((distinctBy GroupMembership.groupSid [] memberships).map value).sum :=
    fun _ same => (map_distinctBy_perm same perm).sum_nat.symm
  have groups : ∀ left ∈ memberships, ∀ right ∈ memberships, left.groupSid = right.groupSid →
      left.historyGroups = right.historyGroups := by
    intro left leftMem right rightMem group
    rw [GroupMembership.historyGroups, (agree.same left leftMem right rightMem group).1]
    rfl
  rw [groupSidHistoryDiagnostics_eq, groupSidHistoryDiagnostics_eq, historyMarkers, historyMarkers,
    sums _ groups,
    sums _ (fun left leftMem right rightMem group =>
      (agree.same left leftMem right rightMem group).1),
    sums _ (fun left leftMem right rightMem group =>
      (agree.same left leftMem right rightMem group).2)]

/-- An entry of a group can be brought to the front; the markers are then its own
together with those of the other groups. -/
theorem exists_diagnostics_first {entry : GroupMembership} (member : entry ∈ memberships) :
    ∃ arranged, memberships.Perm arranged ∧
      groupSidHistoryDiagnostics arranged = historyMarkers (entry ::
        distinctBy GroupMembership.groupSid [entry.groupSid]
          (memberships.filter (fun other => ¬other.groupSid = entry.groupSid))) := by
  have own : entry ∈ memberships.filter (fun other => other.groupSid = entry.groupSid) :=
    List.mem_filter.mpr ⟨member, decide_eq_true rfl⟩
  have divided := List.filter_append_perm (fun other => decide (other.groupSid = entry.groupSid))
    memberships
  refine ⟨_, divided.symm.trans ((List.perm_cons_erase own).append_right _), ?_⟩
  rw [groupSidHistoryDiagnostics_eq, List.cons_append, distinctBy, if_neg List.not_mem_nil,
    distinctBy_append_of_seen]
  · simp
  · intro other inside
    rw [List.mem_singleton]
    simpa using (List.mem_filter.mp (List.mem_of_mem_erase inside)).2

/-- The markers depend on the set of entries alone, and say that a historical SID
was evaluated or left unread wherever an entry carries one, exactly when the
entries of each group agree. -/
theorem setDetermined_iff (memberships : List GroupMembership) :
    SetDetermined memberships ↔ HistoriesAgree memberships := by
  have listed : ∀ entry, entry ∈ distinctBy GroupMembership.groupSid [] memberships →
      entry ∈ memberships :=
    fun entry kept => (distinctBy_sublist GroupMembership.groupSid memberships []).subset kept
  constructor
  · intro spec
    constructor
    · intro left leftMem right rightMem group
      rcases exists_diagnostics_first leftMem with ⟨leftFirst, leftPerm, leftMarkers⟩
      rcases exists_diagnostics_first rightMem with ⟨rightFirst, rightPerm, rightMarkers⟩
      rw [spec.any_order leftFirst leftPerm, group] at leftMarkers
      rw [spec.any_order rightFirst rightPerm] at rightMarkers
      have sums := sums_of_historyMarkers (leftMarkers.symm.trans rightMarkers)
      simp only [List.map_cons, List.sum_cons, Nat.add_right_cancel_iff] at sums
      exact sums
    · intro carries
      have shown := spec.evaluated carries
      rw [groupSidHistoryDiagnostics_eq, exists_evaluated_iff] at shown
      rcases shown with ⟨entry, kept, counted⟩
      exact ⟨entry, listed entry kept, counted⟩
  · intro agree
    have represented : ∀ entry ∈ memberships,
        ∃ kept ∈ distinctBy GroupMembership.groupSid [] memberships,
          kept.evaluatedHistory = entry.evaluatedHistory ∧
            kept.unevaluatedHistory = entry.unevaluatedHistory := by
      intro entry member
      rcases exists_key_of_mem GroupMembership.groupSid memberships [] member List.not_mem_nil with
        ⟨kept, inside, group⟩
      exact ⟨kept, inside, agree.same kept (listed kept inside) entry member group⟩
    constructor
    · rintro ⟨entry, member, unread⟩
      rcases represented entry member with ⟨kept, inside, _, same⟩
      rw [groupSidHistoryDiagnostics_eq, exists_present_iff]
      refine ⟨kept, inside, ?_⟩
      rw [same, GroupMembership.unevaluatedHistory]
      omega
    · intro carries
      rcases agree.counted carries with ⟨entry, member, read⟩
      rcases represented entry member with ⟨kept, inside, same, _⟩
      rw [groupSidHistoryDiagnostics_eq, exists_evaluated_iff]
      exact ⟨kept, inside, same ▸ read⟩
    · exact ⟨_, distinctBy_sublist _ memberships [], nodup_distinctBy _ memberships [],
        fun entry member => (mem_keys_distinctBy _ memberships _).mpr (List.mem_map_of_mem member),
        groupSidHistoryDiagnostics_eq memberships⟩
    · exact fun arranged perm => diagnostics_perm agree perm

/-! ## One group from two sources -/

/-- A group as the local lookup lists it, without a history. -/
def localEntry : GroupMembership where
  memberSid := ⟨"S-1-5-21-1-2-3-1105"⟩
  groupSid := ⟨"S-1-5-21-1-2-3-1200"⟩
  direct := true

/-- The group as the directory lists it, with a historical SID that was not
parsed. -/
def directoryEntry : GroupMembership where
  memberSid := ⟨"S-1-5-21-1-2-3-1105"⟩
  groupSid := ⟨"S-1-5-21-1-2-3-1200"⟩
  direct := true
  groupSidHistoryCount := 1

/-- With the local entry first the incompleteness trigger is lost. -/
theorem localEntry_first_loses_marker :
    groupSidHistoryDiagnostics [directoryEntry, localEntry] = [.groupSidHistoryPresent 1] ∧
      groupSidHistoryDiagnostics [localEntry, directoryEntry] = [] ∧
      ¬SetDetermined [localEntry, directoryEntry] := by
  have directoryFirst : groupSidHistoryDiagnostics [directoryEntry, localEntry] =
      [.groupSidHistoryPresent 1] := by
    decide
  have localFirst : groupSidHistoryDiagnostics [localEntry, directoryEntry] = [] := by decide
  refine ⟨directoryFirst, localFirst, ?_⟩
  intro spec
  rcases spec.present ⟨directoryEntry, by decide, by decide⟩ with ⟨count, marker⟩
  rw [localFirst] at marker
  cases marker

end Stars

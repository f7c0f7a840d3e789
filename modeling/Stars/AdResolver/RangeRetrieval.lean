import Stars.AdResolver.Trusts
import Stars.Collections.Fallible
import Stars.Collections.KeyedList
import Stars.Core.Error

namespace Stars
namespace AdResolver

open Collections

/-!
# Range retrieval

An attribute with more values than the server returns at once arrives under a key
that says which range it holds, and the rest is asked for range by range.  The
loop checks that each range starts where the one before it ended.  It does not
check how many values a range brings, it reads the textual values alone, and the
first range has already left the entry when an answer turns out to be unusable.

The answers of the server are a function of the round and of the request.
-/

/-- The range in a key such as `memberOf;range=0-1499`; the last range ends in
`*`. -/
def parseRangeSuffix (key attr : String) : Option (Nat × Option Nat) :=
  let start := attr ++ ";range="
  let head := key.toList.take start.length
  if Text.eqIgnoreAsciiCase (String.ofList head) start then
    (Text.splitOnce '-' (key.toList.drop start.length)).bind (fun (first, last) =>
      (Text.parseUnsigned (2 ^ 32) first).bind (fun first =>
        if last = ['*'] then some (first, none)
        else (Text.parseUnsigned (2 ^ 32) last).bind (fun last =>
          if last < first then none else some (first, some last))))
  else none

/-- The first key of an entry that holds a range of an attribute. -/
def rangedKey (entry : RawEntry) (attr : String) : Option (String × Nat × Option Nat) :=
  entry.attrs.findSome? (fun (key, _) =>
    (parseRangeSuffix key attr).map (fun (first, last) => (key, first, last)))

/-- What the server answers to one request. -/
inductive RangeAnswer where
  | searchFailed (reason : String)
  | resultFailed (reason : String)
  | entries (found : List RawEntry)

/-- The answer to a request in a round. -/
abbrev RangeServer := Nat → String → RangeAnswer

def maxRangeRounds : Nat := 1000

def rangeRequest (attr : String) (next : Nat) : String := s!"{attr};range={next}-*"

/-- The entry of an answer, with its range: it has to start where the last one
ended. -/
def rangeChunk (answer : RangeAnswer) (attr dn : String) (next : Nat) :
    Except CoreError (List String × Option Nat) :=
  match answer with
  | .searchFailed reason => .error (.ldapQuery s!"range retrieval failed: {reason}")
  | .resultFailed reason => .error (.ldapQuery s!"range retrieval result error: {reason}")
  | .entries [] => .error (.ldapQuery s!"range retrieval of {attr} on {dn}: entry vanished")
  | .entries (chunk :: _) =>
      match rangedKey chunk attr with
      | none =>
          .error (.ldapQuery s!"range retrieval of {attr} on {dn}: no values for range {next}-*")
      | some (key, first, last) =>
          if first ≠ next then
            .error (.ldapQuery (s!"range retrieval of {attr} on {dn}: expected range starting " ++
              s!"at {next}, got {first}"))
          else .ok (chunk.allAttr key, last)

/-- Ask for the ranges after the last one, up to the final one. -/
def retrieveRanges (server : RangeServer) (attr dn : String) :
    Nat → Nat → List String → Option Nat → Except CoreError (List String)
  | _, _, values, none => .ok values
  | 0, _, _, some _ =>
      .error (.ldapQuery (s!"range retrieval of {attr} on {dn} did not finish after " ++
        s!"{maxRangeRounds} rounds"))
  | left + 1, round, values, some last =>
      if last + 1 < 2 ^ 32 then do
        let next := last + 1
        let (chunk, stop) ← rangeChunk (server round (rangeRequest attr next)) attr dn next
        retrieveRanges server attr dn left (round + 1) (values ++ chunk) stop
      else .error (.ldapQuery s!"range retrieval of {attr}: range end overflow")

def RawEntry.removeAttr (entry : RawEntry) (key : String) : RawEntry :=
  { entry with attrs := entry.attrs.filter (fun attr => attr.1 ≠ key) }

def RawEntry.insertAttr (entry : RawEntry) (key : String) (values : List String) : RawEntry :=
  { entry with attrs := entry.attrs.filter (fun attr => attr.1 ≠ key) ++ [(key, values)] }

/-- Complete an attribute of which the entry holds the first range.  The range is
taken out of the entry before the others are asked for. -/
def completeRangedAttribute (server : RangeServer) (entry : RawEntry) (attr : String) :
    Except CoreError Bool × RawEntry :=
  match rangedKey entry attr with
  | none => (.ok false, entry)
  | some (key, first, last) =>
      let dn := entry.dn
      if first ≠ 0 then
        (.error (.ldapQuery (s!"range retrieval of {attr} on {dn}: first chunk starts at " ++
          s!"{first}, not 0")), entry)
      else
        let taken := entry.removeAttr key
        match retrieveRanges server attr dn maxRangeRounds 0 (entry.allAttr key) last with
        | .error reason => (.error reason, taken)
        | .ok values => (.ok true, taken.insertAttr attr values)

/-- A range the server sent: where it starts, where it ends, and its values,
textual ones before binary ones. -/
structure RangeChunk where
  first : Nat
  last : Option Nat
  texts : List String
  values : List (List UInt8)

/-- The range of an entry under a key. -/
def RawEntry.chunk (entry : RawEntry) (key : String) (first : Nat) (last : Option Nat) :
    RangeChunk where
  first := first
  last := last
  texts := entry.allAttr key
  values := entry.allValues key

/-- Every range starts where the one before it ended, and the final one ends in
`*`. -/
inductive Contiguous : Nat → List RangeChunk → Prop where
  | final {first : Nat} {chunk : RangeChunk} (starts : chunk.first = first)
      (ends : chunk.last = none) : Contiguous first [chunk]
  | next {first last : Nat} {chunk : RangeChunk} {rest : List RangeChunk}
      (starts : chunk.first = first) (ends : chunk.last = some last)
      (later : Contiguous (last + 1) rest) : Contiguous first (chunk :: rest)

/-- A range brings as many values as it declares. -/
def RangeChunk.Full (chunk : RangeChunk) : Prop :=
  ∀ last, chunk.last = some last → chunk.values.length = last + 1 - chunk.first

/-- The ranges that the server sends for the requests from a round on, each in
the first entry of its answer. -/
inductive Sends (server : RangeServer) (attr : String) :
    Nat → Nat → Option Nat → List RangeChunk → Prop where
  | done (left round : Nat) : Sends server attr left round none []
  | more {left round last : Nat} {chunk : RawEntry} {others : List RawEntry} {key : String}
      {stop : Option Nat} {rest : List RangeChunk} (fits : last + 1 < 2 ^ 32)
      (answer : server round (rangeRequest attr (last + 1)) = .entries (chunk :: others))
      (ranged : rangedKey chunk attr = some (key, last + 1, stop))
      (later : Sends server attr left (round + 1) stop rest) :
      Sends server attr (left + 1) round (some last) (chunk.chunk key (last + 1) stop :: rest)

/-- The retrieval is all or nothing: a completed attribute holds all values of
ranges without a gap, of which the first was in the entry and the others were
sent; only the answers of the allowed rounds are read; and an error leaves the
entry as it was. -/
structure AllOrNothing (server : RangeServer) (entry : RawEntry) (attr : String) : Prop where
  complete : (completeRangedAttribute server entry attr).1 = .ok true →
    ∃ key last rest stored, rangedKey entry attr = some (key, 0, last) ∧
      Sends server attr maxRangeRounds 0 last rest ∧
      Contiguous 0 (entry.chunk key 0 last :: rest) ∧
      (∀ chunk ∈ entry.chunk key 0 last :: rest, chunk.Full) ∧
      (completeRangedAttribute server entry attr).2.attrs.lookup attr = some stored ∧
      stored.map utf8Bytes = (entry.chunk key 0 last :: rest).flatMap RangeChunk.values
  bounded : ∀ other : RangeServer, (∀ round, round < maxRangeRounds → other round = server round) →
    completeRangedAttribute other entry attr = completeRangedAttribute server entry attr
  unchanged : ∀ reason, (completeRangedAttribute server entry attr).1 = .error reason →
    (completeRangedAttribute server entry attr).2 = entry

/-- The server sends full ranges of textual values up to the final one. -/
structure SendsAll (server : RangeServer) (entry : RawEntry) (attr key : String)
    (last : Option Nat) (rest : List RangeChunk) : Prop where
  sends : Sends server attr maxRangeRounds 0 last rest
  full : ∀ chunk ∈ entry.chunk key 0 last :: rest, chunk.Full
  textual : ∀ chunk ∈ entry.chunk key 0 last :: rest, chunk.values.length = chunk.texts.length

/-- The attribute is not ranged, or its first range is refused at once, or the
server sends everything. -/
def RetrievalUndisturbed (server : RangeServer) (entry : RawEntry) (attr : String) : Prop :=
  ∀ key first last, rangedKey entry attr = some (key, first, last) →
    first ≠ 0 ∨ ∃ rest, SendsAll server entry attr key last rest

section Loop

variable {server : RangeServer} {attr dn : String}

theorem rangeChunk_eq_ok_iff {answer : RangeAnswer} {next : Nat} {texts : List String}
    {stop : Option Nat} :
    rangeChunk answer attr dn next = .ok (texts, stop) ↔
      ∃ chunk others key, answer = .entries (chunk :: others) ∧
        rangedKey chunk attr = some (key, next, stop) ∧ chunk.allAttr key = texts := by
  constructor
  · intro done
    match answer with
    | .searchFailed _ => cases done
    | .resultFailed _ => cases done
    | .entries [] => cases done
    | .entries (chunk :: others) =>
        rw [rangeChunk] at done
        cases ranged : rangedKey chunk attr with
        | none =>
            rw [ranged] at done
            cases done
        | some range =>
            rcases range with ⟨key, first, last⟩
            rw [ranged] at done
            dsimp only at done
            split at done
            · cases done
            · rename_i same
              cases done
              rw [not_not] at same
              exact ⟨chunk, others, key, rfl, same ▸ ranged, rfl⟩
  · rintro ⟨chunk, others, key, rfl, ranged, rfl⟩
    rw [rangeChunk, ranged]
    exact if_neg (not_not.mpr rfl)

/-- After the final range there is nothing to ask for. -/
theorem retrieveRanges_none_eq_ok_iff {left round : Nat} {values result : List String} :
    retrieveRanges server attr dn left round values none = .ok result ↔
      ∃ rest, Sends server attr left round none rest ∧
        result = values ++ rest.flatMap RangeChunk.texts := by
  have finished : retrieveRanges server attr dn left round values none = .ok values := by
    cases left <;> rfl
  rw [finished, Except.ok.injEq]
  constructor
  · rintro rfl
    exact ⟨[], .done left round, (List.append_nil values).symm⟩
  · rintro ⟨rest, sends, rfl⟩
    cases sends
    exact (List.append_nil values).symm

/-- The loop returns the textual values of the ranges that the server sends. -/
theorem retrieveRanges_eq_ok_iff {result : List String} (left : Nat) :
    ∀ (round : Nat) (values : List String) (last : Option Nat),
      retrieveRanges server attr dn left round values last = .ok result ↔
        ∃ rest, Sends server attr left round last rest ∧
          result = values ++ rest.flatMap RangeChunk.texts := by
  induction left with
  | zero =>
      intro round values last
      cases last with
      | none => exact retrieveRanges_none_eq_ok_iff
      | some last =>
          constructor
          · intro impossible
            cases impossible
          · rintro ⟨rest, sends, _⟩
            cases sends
  | succ left ih =>
      intro round values last
      cases last with
      | none => exact retrieveRanges_none_eq_ok_iff
      | some last =>
          rw [retrieveRanges]
          split
          · rename_i fits
            rw [bind_eq_ok_iff]
            constructor
            · rintro ⟨⟨texts, stop⟩, answered, later⟩
              rcases rangeChunk_eq_ok_iff.mp answered with ⟨chunk, others, key, answer, ranged, rfl⟩
              rcases (ih _ _ _).mp later with ⟨rest, sends, rfl⟩
              refine ⟨_, .more fits answer ranged sends, ?_⟩
              rw [List.flatMap_cons, List.append_assoc]
              rfl
            · rintro ⟨rest, sends, rfl⟩
              cases sends with
              | more _ answer ranged later =>
                  refine ⟨(_, _), rangeChunk_eq_ok_iff.mpr ⟨_, _, _, answer, ranged, rfl⟩,
                    (ih _ _ _).mpr ⟨_, later, ?_⟩⟩
                  rw [List.flatMap_cons, List.append_assoc]
                  rfl
          · rename_i overflows
            constructor
            · intro impossible
              cases impossible
            · rintro ⟨rest, sends, _⟩
              cases sends with
              | more fits _ _ _ => exact absurd fits overflows

/-- Only the answers of the rounds left are read. -/
theorem retrieveRanges_congr {other : RangeServer} (left : Nat) :
    ∀ (round : Nat) (values : List String) (last : Option Nat),
      (∀ here, here < round + left → other here = server here) →
        retrieveRanges other attr dn left round values last =
          retrieveRanges server attr dn left round values last := by
  induction left with
  | zero =>
      intro round values last _
      cases last <;> rfl
  | succ left ih =>
      intro round values last same
      cases last with
      | none => rfl
      | some last =>
          rw [retrieveRanges, retrieveRanges, same round (by omega)]
          split
          · refine congrArg _ ?_
            funext answered
            apply ih
            intro here inside
            exact same here (by omega)
          · rfl

/-- The ranges follow one another without a gap. -/
theorem Sends.contiguous {left round : Nat} {last : Option Nat} {rest : List RangeChunk}
    (sends : Sends server attr left round last rest) :
    ∀ chunk : RangeChunk, chunk.last = last → Contiguous chunk.first (chunk :: rest) := by
  induction sends with
  | done => exact fun chunk ends => .final rfl ends
  | @more left round last entry others key stop rest _ _ _ _ ih =>
      exact fun chunk ends => .next rfl ends (ih (entry.chunk key (last + 1) stop) rfl)

/-- Every range comes from an entry. -/
theorem Sends.exists_entry {left round : Nat} {last : Option Nat} {rest : List RangeChunk}
    (sends : Sends server attr left round last rest) :
    ∀ chunk ∈ rest, ∃ entry : RawEntry, ∃ key first stop, chunk = entry.chunk key first stop := by
  induction sends with
  | done => exact fun chunk member => absurd member List.not_mem_nil
  | more _ _ _ _ ih =>
      intro chunk member
      rcases List.mem_cons.mp member with rfl | later
      · exact ⟨_, _, _, _, rfl⟩
      · exact ih chunk later

end Loop

/-- The values of a range begin with the textual ones. -/
theorem values_chunk (entry : RawEntry) (key : String) (first : Nat) (last : Option Nat) :
    (entry.chunk key first last).values = (entry.chunk key first last).texts.map utf8Bytes ++
      (entry.binAttrs.lookup key).getD [] := rfl

/-- There are no more textual values than values. -/
theorem length_texts_le {chunks : List RangeChunk}
    (textual : ∀ chunk ∈ chunks, ∃ binaries, chunk.values = chunk.texts.map utf8Bytes ++ binaries) :
    (chunks.flatMap RangeChunk.texts).length ≤ (chunks.flatMap RangeChunk.values).length := by
  induction chunks with
  | nil => exact Nat.le_refl 0
  | cons chunk rest ih =>
      rcases textual chunk List.mem_cons_self with ⟨binaries, values⟩
      have fewer := ih (fun other member => textual other (List.mem_cons_of_mem chunk member))
      rw [List.flatMap_cons, List.flatMap_cons, List.length_append, List.length_append, values,
        List.length_append, List.length_map]
      omega

/-- Textual values alone make up all values of some ranges exactly when none of
them has a binary value. -/
theorem texts_eq_values_iff {chunks : List RangeChunk}
    (textual : ∀ chunk ∈ chunks, ∃ binaries, chunk.values = chunk.texts.map utf8Bytes ++ binaries) :
    (chunks.flatMap RangeChunk.texts).map utf8Bytes = chunks.flatMap RangeChunk.values ↔
      ∀ chunk ∈ chunks, chunk.values.length = chunk.texts.length := by
  induction chunks with
  | nil => simp
  | cons chunk rest ih =>
      rcases textual chunk List.mem_cons_self with ⟨binaries, values⟩
      have others : ∀ other ∈ rest, ∃ binaries, other.values =
          other.texts.map utf8Bytes ++ binaries :=
        fun other member => textual other (List.mem_cons_of_mem chunk member)
      have counted : chunk.values.length = chunk.texts.length ↔ binaries = [] := by
        rw [values, List.length_append, List.length_map, ← List.length_eq_zero_iff]
        omega
      rw [List.flatMap_cons, List.flatMap_cons, List.map_append, values, List.append_assoc,
        List.append_cancel_left_eq, List.forall_mem_cons, counted]
      constructor
      · intro same
        have lengths := congrArg List.length same
        rw [List.length_map, List.length_append] at lengths
        have none : binaries = [] := by
          rw [← List.length_eq_zero_iff]
          have bound := length_texts_le others
          omega
        rw [none, List.nil_append] at same
        exact ⟨none, (ih others).mp same⟩
      · rintro ⟨none, each⟩
        rw [none, List.nil_append]
        exact (ih others).mpr each

/-! ## All or nothing -/

section Retrieval

variable {server : RangeServer} {entry : RawEntry} {attr key : String} {last : Option Nat}

theorem completeRangedAttribute_of_first (server : RangeServer)
    (ranged : rangedKey entry attr = some (key, 0, last)) :
    completeRangedAttribute server entry attr =
      match retrieveRanges server attr entry.dn maxRangeRounds 0 (entry.allAttr key) last with
      | .error reason => (.error reason, entry.removeAttr key)
      | .ok values => (.ok true, (entry.removeAttr key).insertAttr attr values) := by
  rw [completeRangedAttribute, ranged]
  rfl

theorem completeRangedAttribute_of_later (server : RangeServer) {first : Nat}
    (ranged : rangedKey entry attr = some (key, first, last)) (late : first ≠ 0) :
    completeRangedAttribute server entry attr =
      (.error (.ldapQuery (s!"range retrieval of {attr} on {entry.dn}: first chunk starts at " ++
        s!"{first}, not 0")), entry) := by
  rw [completeRangedAttribute, ranged]
  exact if_pos late

theorem lookup_insertAttr (entry : RawEntry) (values : List String) :
    (entry.insertAttr attr values).attrs.lookup attr = some values := by
  have absent : (entry.attrs.filter (fun stored => stored.1 ≠ attr)).lookup attr = none := by
    rw [lookup_filter_ne, if_pos rfl]
  rw [RawEntry.insertAttr, List.lookup_append, absent]
  simp

/-- A range that is taken out is missing. -/
theorem removeAttr_ne {first : Nat} (ranged : rangedKey entry attr = some (key, first, last)) :
    entry.removeAttr key ≠ entry := by
  intro same
  rcases List.exists_of_findSome?_eq_some ranged with ⟨⟨stored, values⟩, member, hit⟩
  rcases Option.map_eq_some_iff.mp hit with ⟨_, _, found⟩
  cases found
  rw [← same] at member
  exact of_decide_eq_true (List.mem_filter.mp member).2 rfl

/-- The ranges of a retrieval consist of textual and then of binary values. -/
theorem textual_first {rest : List RangeChunk}
    (sends : Sends server attr maxRangeRounds 0 last rest) :
    ∀ chunk ∈ entry.chunk key 0 last :: rest, ∃ binaries,
      chunk.values = chunk.texts.map utf8Bytes ++ binaries := by
  intro chunk member
  rcases List.mem_cons.mp member with rfl | later
  · exact ⟨_, values_chunk entry key 0 last⟩
  · rcases sends.exists_entry chunk later with ⟨other, otherKey, first, stop, rfl⟩
    exact ⟨_, values_chunk other otherKey first stop⟩

theorem sendsAll_of_allOrNothing (spec : AllOrNothing server entry attr)
    (ranged : rangedKey entry attr = some (key, 0, last)) :
    ∃ rest, SendsAll server entry attr key last rest := by
  have outcome := completeRangedAttribute_of_first server ranged
  cases returned :
      retrieveRanges server attr entry.dn maxRangeRounds 0 (entry.allAttr key) last with
  | error reason =>
      rw [returned] at outcome
      have same := spec.unchanged reason (by rw [outcome])
      rw [outcome] at same
      exact absurd same (removeAttr_ne ranged)
  | ok values =>
      rw [returned] at outcome
      rcases spec.complete (by rw [outcome]) with
        ⟨sameKey, sameLast, rest, stored, again, sends, _, full, found, all⟩
      rw [ranged] at again
      cases again
      rw [outcome, lookup_insertAttr] at found
      have same : values = stored := Option.some.inj found
      have listed : retrieveRanges server attr entry.dn maxRangeRounds 0 (entry.allAttr key) last =
          .ok (entry.allAttr key ++ rest.flatMap RangeChunk.texts) :=
        (retrieveRanges_eq_ok_iff _ _ _ _).mpr ⟨rest, sends, rfl⟩
      rw [returned] at listed
      rw [← same, Except.ok.inj listed] at all
      exact ⟨rest, sends, full, (texts_eq_values_iff (textual_first sends)).mp all⟩

theorem allOrNothing_bounded : ∀ other : RangeServer,
    (∀ round, round < maxRangeRounds → other round = server round) →
      completeRangedAttribute other entry attr = completeRangedAttribute server entry attr := by
  intro other same
  have congr : ∀ dn values last, retrieveRanges other attr dn maxRangeRounds 0 values last =
      retrieveRanges server attr dn maxRangeRounds 0 values last := by
    intro dn values last
    apply retrieveRanges_congr
    intro here inside
    exact same here (by omega)
  simp only [completeRangedAttribute, congr]

/-- A retrieval of everything ends, and with all values. -/
theorem allOrNothing_of_sendsAll {rest : List RangeChunk}
    (ranged : rangedKey entry attr = some (key, 0, last))
    (all : SendsAll server entry attr key last rest) : AllOrNothing server entry attr := by
  have outcome := completeRangedAttribute_of_first server ranged
  have returned : retrieveRanges server attr entry.dn maxRangeRounds 0 (entry.allAttr key) last =
      .ok (entry.allAttr key ++ rest.flatMap RangeChunk.texts) :=
    (retrieveRanges_eq_ok_iff _ _ _ _).mpr ⟨rest, all.sends, rfl⟩
  rw [returned] at outcome
  refine ⟨?_, allOrNothing_bounded, ?_⟩
  · intro _
    refine ⟨key, last, rest, entry.allAttr key ++ rest.flatMap RangeChunk.texts, ranged, all.sends,
      all.sends.contiguous (entry.chunk key 0 last) rfl, all.full, ?_, ?_⟩
    · rw [outcome]
      exact lookup_insertAttr _ _
    · exact (texts_eq_values_iff (textual_first all.sends)).mpr all.textual
  · intro reason impossible
    rw [outcome] at impossible
    cases impossible

end Retrieval

theorem retrieval_allOrNothing_iff (server : RangeServer) (entry : RawEntry) (attr : String) :
    AllOrNothing server entry attr ↔ RetrievalUndisturbed server entry attr := by
  constructor
  · intro spec key first last ranged
    by_cases begins : first = 0
    · rw [begins] at ranged
      exact Or.inr (sendsAll_of_allOrNothing spec ranged)
    · exact Or.inl begins
  · intro undisturbed
    cases ranged : rangedKey entry attr with
    | none =>
        have outcome : completeRangedAttribute server entry attr = (.ok false, entry) := by
          rw [completeRangedAttribute, ranged]
        refine ⟨?_, allOrNothing_bounded, ?_⟩
        · intro impossible
          rw [outcome] at impossible
          cases impossible
        · intro reason impossible
          rw [outcome] at impossible
          cases impossible
    | some range =>
        rcases range with ⟨key, first, last⟩
        by_cases begins : first = 0
        · rw [begins] at ranged
          rcases undisturbed key 0 last ranged with late | ⟨rest, all⟩
          · exact absurd rfl late
          · exact allOrNothing_of_sendsAll ranged all
        · have outcome := completeRangedAttribute_of_later server ranged begins
          refine ⟨?_, allOrNothing_bounded, ?_⟩
          · intro impossible
            rw [outcome] at impossible
            cases impossible
          · intro reason _
            rw [outcome]

/-! ## A shortened list -/

/-- An account with the first range of its groups: it declares two of them and
brings one. -/
def shortRange : RawEntry where
  dn := "CN=Anna,DC=corp"
  attrs := [("memberOf;range=0-1", ["CN=Sales,DC=corp"])]

/-- The server answers with the final range. -/
def finalRange : RangeServer := fun _ _ =>
  .entries [{ dn := "CN=Anna,DC=corp",
              attrs := [("memberOf;range=2-*", ["CN=Staff,DC=corp"])] }]

theorem rangedKey_shortRange :
    rangedKey shortRange "memberOf" = some ("memberOf;range=0-1", 0, some 1) := by
  decide

/-- The list of three groups is completed with two of them. -/
theorem shortRange_completes :
    completeRangedAttribute finalRange shortRange "memberOf" =
        (.ok true, { dn := "CN=Anna,DC=corp",
                     attrs := [("memberOf", ["CN=Sales,DC=corp", "CN=Staff,DC=corp"])] }) ∧
      ¬ AllOrNothing finalRange shortRange "memberOf" := by
  constructor
  · decide
  · intro spec
    rcases spec.complete (by decide) with ⟨key, last, rest, _, ranged, _, _, full, _⟩
    rw [rangedKey_shortRange] at ranged
    cases ranged
    have two := full _ List.mem_cons_self 1 rfl
    have one : (shortRange.allValues "memberOf;range=0-1").length = 1 := by decide
    rw [RawEntry.chunk, one] at two
    exact absurd two (by decide)

end AdResolver
end Stars

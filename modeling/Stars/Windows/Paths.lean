import Stars.Text.Pieces

namespace Stars
namespace Windows

/-!
# Paths as Windows resolves them

In an ordinary path either slash separates, `.` and `..` are resolved, dots and
blanks at the end of a segment are dropped, and a device name stands for the device
whatever its extension.  After a long-path prefix the segments are taken literally.
The devices are a parameter.  Both readings name the same entry exactly when every
segment stands for itself.
-/

abbrev Segment := List Char

def isSeparator (letter : Char) : Bool := letter == '\\' || letter == '/'

/-- Dots and blanks at the end of a segment do not count. -/
def isDropped (letter : Char) : Bool := letter == '.' || letter == ' '

def kept (segment : Segment) : Segment := segment.rdropWhile isDropped

/-- The part of a segment that can name a device: before the extension and the stream,
without blanks at its end. -/
def deviceStem (segment : Segment) : Segment :=
  (segment.takeWhile (fun letter => !(letter == '.' || letter == ':'))).rdropWhile (· == ' ')

/-- What a segment asks for. -/
inductive Step where
  | current
  | parent
  | stream
  | device (name : String)
  | name (text : Segment)
deriving DecidableEq

/-- What a path leads to, below its root. -/
inductive Target where
  | stream
  | device (name : String)
  | entry (names : List Segment)
deriving DecidableEq

/-- The root of a path.  Server and share are taken as they are written. -/
inductive Root where
  | drive (letter : Char)
  | share (server name : Segment)
  | deviceNamespace
deriving DecidableEq

structure Place where
  root : Root
  target : Target
deriving DecidableEq

section Devices

variable (devices : List String)

def deviceOf (segment : Segment) : Option String :=
  devices.find? (fun device => Text.eqIgnoreAsciiCase device (String.ofList (deviceStem segment)))

def stepOf (segment : Segment) : Step :=
  match deviceOf devices segment with
  | some device => .device device
  | none =>
      if ':' ∈ segment then .stream
      else if segment.rdropWhile (· == ' ') = ['.', '.'] then .parent
      else if kept segment = [] then .current
      else .name (kept segment)

/-- One segment further.  A device or a stream has nothing below it. -/
def Target.step (target : Target) (segment : Segment) : Target :=
  match target with
  | entry names =>
      match stepOf devices segment with
      | .current => entry names
      | .parent => entry names.dropLast
      | .stream => stream
      | .device name => device name
      | .name text => entry (names ++ [text])
  | stream => stream
  | device name => device name

/-- The segments that are there.  Two separators in a row count as one. -/
def written (segments : List Segment) : List Segment :=
  segments.filter (fun segment => !segment.isEmpty)

/-- The target of segments below a base. -/
def resolve (base segments : List Segment) : Target :=
  (written segments).foldl (Target.step devices) (.entry base)

/-- The place of a path behind the long-path prefix. -/
def verbatimPlace (path : List Char) : Option Place :=
  match path.splitOn '\\' with
  | first :: rest =>
      if Text.eqIgnoreAsciiCase (String.ofList first) "UNC" then
        match rest with
        | server :: share :: segments => some ⟨.share server share, .entry (written segments)⟩
        | _ => none
      else
        match first with
        | [drive, ':'] => some ⟨.drive drive.toUpper, .entry (written rest)⟩
        | _ => none
  | [] => none

/-- The place of any other path. -/
def ordinaryPlace (path : List Char) : Option Place :=
  match path.splitOnP isSeparator with
  | [] :: [] :: server :: rest =>
      if server = ['.'] ∨ server = ['?'] then some ⟨.deviceNamespace, resolve devices [] rest⟩
      else
        match rest with
        | share :: segments => some ⟨.share server share, resolve devices [] segments⟩
        | [] => none
  | [drive, ':'] :: segments => some ⟨.drive drive.toUpper, resolve devices [] segments⟩
  | _ => none

/-- The place that Windows opens for a path; none without a root. -/
def opened (path : String) : Option Place :=
  match Text.stripPrefix "\\\\?\\" path.toList with
  | some rest => verbatimPlace rest
  | none => ordinaryPlace devices path.toList

/-! ## Segments that stand for themselves -/

variable {devices} {base names : List Segment} {segments : List Segment} {segment : Segment}

theorem mem_rdropWhile_or {dropped : Char → Bool} {letter : Char} (inside : letter ∈ segment) :
    letter ∈ segment.rdropWhile dropped ∨ dropped letter = true := by
  have whole := List.takeWhile_append_dropWhile (p := dropped) (l := segment.reverse)
  rw [← List.mem_reverse, ← whole, List.mem_append] at inside
  rcases inside with taken | left
  · exact Or.inr (List.mem_takeWhile_imp taken)
  · exact Or.inl (List.mem_reverse.mpr left)

theorem kept_subset {letter : Char} (inside : letter ∈ kept segment) : letter ∈ segment :=
  (List.rdropWhile_prefix isDropped segment).subset inside

/-- Two dots with blanks behind them leave nothing. -/
theorem kept_eq_nil_of_parent (parent : segment.rdropWhile (· == ' ') = ['.', '.']) :
    kept segment = [] := by
  rw [kept, List.rdropWhile_eq_nil_iff]
  intro letter inside
  rcases mem_rdropWhile_or inside with dot | blank
  · rw [parent] at dot
    rcases List.mem_pair.mp dot with rfl | rfl <;> rfl
  · rw [eq_of_beq blank]
    rfl

theorem stepOf_eq_name_iff {text : Segment} : stepOf devices segment = .name text ↔
    deviceOf devices segment = none ∧ ':' ∉ segment ∧ kept segment ≠ [] ∧ kept segment = text := by
  rw [stepOf]
  cases deviceOf devices segment with
  | some device => simp
  | none =>
      by_cases stream : ':' ∈ segment
      · simp [stream]
      · by_cases parent : segment.rdropWhile (· == ' ') = ['.', '.']
        · simp [stream, parent, kept_eq_nil_of_parent parent]
        · by_cases nothing : kept segment = []
          · simp [stream, parent, nothing]
          · simp [stream, parent, nothing]

/-- Below a device or a stream there is no entry. -/
theorem foldl_ne_entry {target : Target} (other : ∀ entries, target ≠ .entry entries) :
    segments.foldl (Target.step devices) target ≠ .entry names := by
  induction segments generalizing target with
  | nil => exact other names
  | cons segment rest ih =>
      rw [List.foldl_cons]
      apply ih
      cases target with
      | entry entries => exact absurd rfl (other entries)
      | stream => exact other
      | device name => exact other

/-- A segment appends a name to an entry, or it leaves a part of it. -/
theorem step_entry (devices : List String) (base : List Segment) (segment : Segment) :
    (∃ text, stepOf devices segment = .name text ∧
      Target.step devices (.entry base) segment = .entry (base ++ [text])) ∨
    (∃ entries, entries <+: base ∧
      Target.step devices (.entry base) segment = .entry entries) ∨
    ∀ entries, Target.step devices (.entry base) segment ≠ .entry entries := by
  rw [Target.step]
  cases stepOf devices segment with
  | current => exact Or.inr (Or.inl ⟨base, List.prefix_refl base, rfl⟩)
  | parent => exact Or.inr (Or.inl ⟨_, List.dropLast_prefix base, rfl⟩)
  | stream => exact Or.inr (Or.inr (by simp))
  | device name => exact Or.inr (Or.inr (by simp))
  | name text => exact Or.inl ⟨text, rfl, rfl⟩

/-- Names alone are appended. -/
theorem foldl_of_names (named : ∀ segment ∈ segments, stepOf devices segment =
    .name (kept segment)) : segments.foldl (Target.step devices) (.entry base) =
      .entry (base ++ segments.map kept) := by
  induction segments generalizing base with
  | nil => rw [List.foldl_nil, List.map_nil, List.append_nil]
  | cons segment rest ih =>
      rcases List.forall_mem_cons.mp named with ⟨first, later⟩
      rw [List.foldl_cons, Target.step, first]
      dsimp only
      rw [ih later, List.map_cons, List.append_assoc, List.singleton_append]

/-- No segment adds more than one name, and only a name adds one. -/
theorem foldl_eq_entry (reached : segments.foldl (Target.step devices) (.entry base) =
    .entry names) : names.length ≤ base.length + segments.length ∧
      (names.length = base.length + segments.length →
        ∀ segment ∈ segments, stepOf devices segment = .name (kept segment)) := by
  induction segments generalizing base with
  | nil =>
      rw [← Target.entry.inj reached]
      exact ⟨Nat.le_refl _, fun _ _ listed => absurd listed List.not_mem_nil⟩
  | cons segment rest ih =>
      rw [List.foldl_cons] at reached
      rw [List.length_cons]
      rcases step_entry devices base segment with
        ⟨text, step, next⟩ | ⟨entries, part, next⟩ | other
      · rw [next] at reached
        rcases ih reached with ⟨bound, equal⟩
        rw [List.length_append, List.length_singleton] at bound equal
        refine ⟨by omega, ?_⟩
        intro same other listed
        rcases List.mem_cons.mp listed with rfl | later
        · rw [step, (stepOf_eq_name_iff.mp step).2.2.2]
        · exact equal (by omega) other later
      · rw [next] at reached
        have bound := (ih reached).1
        have shorter := part.length_le
        exact ⟨by omega, fun same => by omega⟩
      · exact absurd reached (foldl_ne_entry other)

/-- The names of an entry are made of the letters of its segments. -/
theorem letter_of_entry {name : Segment} {letter : Char}
    (reached : segments.foldl (Target.step devices) (.entry base) = .entry names)
    (listed : name ∈ names) (inside : letter ∈ name) :
    ∃ segment ∈ base ++ segments, letter ∈ segment := by
  induction segments generalizing base with
  | nil =>
      rw [← Target.entry.inj reached] at listed
      exact ⟨name, List.mem_append_left _ listed, inside⟩
  | cons segment rest ih =>
      rw [List.foldl_cons] at reached
      rcases step_entry devices base segment with
        ⟨text, step, next⟩ | ⟨entries, part, next⟩ | other
      · rw [next] at reached
        rcases ih reached with ⟨piece, own, within⟩
        rw [List.append_assoc, List.mem_append, List.singleton_append, List.mem_cons] at own
        rcases own with known | same | later
        · exact ⟨piece, List.mem_append_left _ known, within⟩
        · rw [same, ← (stepOf_eq_name_iff.mp step).2.2.2] at within
          exact ⟨segment, List.mem_append_right _ List.mem_cons_self, kept_subset within⟩
        · exact ⟨piece, List.mem_append_right _ (List.mem_cons_of_mem _ later), within⟩
      · rw [next] at reached
        rcases ih reached with ⟨piece, own, within⟩
        rcases List.mem_append.mp own with known | later
        · exact ⟨piece, List.mem_append_left _ (part.subset known), within⟩
        · exact ⟨piece, List.mem_append_right _ (List.mem_cons_of_mem _ later), within⟩
      · exact absurd reached (foldl_ne_entry other)

/-- A segment that is the same in both readings. -/
structure Literal (devices : List String) (segment : Segment) : Prop where
  slash : '/' ∉ segment
  named : stepOf devices segment = .name segment

theorem literal_iff : Literal devices segment ↔ '/' ∉ segment ∧ segment ≠ [] ∧
    ':' ∉ segment ∧ deviceOf devices segment = none ∧ kept segment = segment := by
  constructor
  · intro literal
    rcases stepOf_eq_name_iff.mp literal.named with ⟨noDevice, noStream, something, same⟩
    rw [same] at something
    exact ⟨literal.slash, something, noStream, noDevice, same⟩
  · intro ⟨noSlash, something, noStream, noDevice, same⟩
    refine ⟨noSlash, stepOf_eq_name_iff.mpr ⟨noDevice, noStream, ?_, same⟩⟩
    rwa [same]

/-- Segments that all stand for themselves are reached as they are written. -/
theorem resolve_of_literal (literal : ∀ segment ∈ written segments, Literal devices segment) :
    resolve devices [] segments = .entry (written segments) := by
  have names : (written segments).map kept = (written segments).map id := by
    apply List.map_inj_left.mpr
    intro segment listed
    exact (literal_iff.mp (literal segment listed)).2.2.2.2
  have named : ∀ segment ∈ written segments, stepOf devices segment = .name (kept segment) := by
    intro segment listed
    have known := literal segment listed
    rw [(literal_iff.mp known).2.2.2.2]
    exact known.named
  rw [resolve, foldl_of_names named, names, List.map_id, List.nil_append]

/-- The ordinary reading of a path is the literal one exactly when every segment
stands for itself. -/
theorem resolve_eq_written_iff (path : List Char) :
    resolve devices [] (path.splitOnP isSeparator) = .entry (written (path.splitOn '\\')) ↔
      ∀ segment ∈ written (path.splitOn '\\'), Literal devices segment := by
  -- Without a slash both readings split the path at the same places.
  have split (noSlash : ∀ segment ∈ written (path.splitOn '\\'), '/' ∉ segment) :
      path.splitOnP isSeparator = path.splitOn '\\' := by
    apply Text.splitOnP_congr
    intro letter inside
    by_cases back : letter = '\\'
    · rw [back]
      rfl
    · have whole : (letter == '\\') = false := beq_false_of_ne back
      have stands : ∃ piece ∈ path.splitOn '\\', letter ∈ piece := by
        rw [List.splitOn_eq_splitOnP]
        exact Text.exists_piece inside whole
      rcases stands with ⟨piece, listed, within⟩
      have there : piece ∈ written (path.splitOn '\\') := by
        apply List.mem_filter.mpr
        refine ⟨listed, ?_⟩
        rw [Bool.not_eq_true', List.isEmpty_eq_false_iff]
        exact List.ne_nil_of_mem within
      have other : letter ≠ '/' := by
        intro slash
        rw [slash] at within
        exact noSlash piece there within
      rw [isSeparator, whole, beq_false_of_ne other]
      rfl
  constructor
  · intro reached
    have noSlash : ∀ segment ∈ written (path.splitOn '\\'), '/' ∉ segment := by
      intro segment listed inside
      rcases letter_of_entry reached listed inside with ⟨piece, own, within⟩
      have separator := (Text.letter_of_piece (List.mem_of_mem_filter own) within).2
      cases separator
    rw [split noSlash] at reached
    have named := (foldl_eq_entry reached).2 (by simp)
    rw [resolve, foldl_of_names named, List.nil_append] at reached
    have same := (Target.entry.inj reached).trans (List.map_id _).symm
    intro segment listed
    refine ⟨noSlash segment listed, ?_⟩
    rw [named segment listed, List.map_inj_left.mp same segment listed, id]
  · intro literal
    rw [split (fun segment listed => (literal segment listed).slash)]
    exact resolve_of_literal literal

end Devices

end Windows
end Stars

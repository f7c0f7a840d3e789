import Stars.Core.Identity
import Stars.Validation.Net

namespace Stars

/-!
# The policies of a target

Remote User Account Control is decided by values in the registry of the target.  A value
can be absent, which is the default of Windows, or unreadable at any step on the way: the
name of the server, the connection, the key, the value and its type.  What is decided is
decided from values that were read.
-/

/-- A number in the registry. -/
inductive PolicyDword where
  | value (number : Nat)
  | absent
  | unreadable (reason : String)
deriving DecidableEq

namespace PolicyDword

/-- The switch a value is, where it is one. -/
def flag (default : Bool) : PolicyDword → Option Bool
  | value 0 => some false
  | value 1 => some true
  | absent => some default
  | value _ => none
  | unreadable _ => none

def shown : PolicyDword → String
  | value number => toString number
  | absent => "0 (not set, default)"
  | unreadable reason => s!"unreadable ({reason})"

end PolicyDword

namespace PermissionEngine

/-- Remote User Account Control for the network logon of a local account. -/
def remoteUacFiltering (builtinAdministrator : Bool)
    (enableLua localAccountTokenFilterPolicy filterAdministratorToken : PolicyDword) :
    RemoteUacFiltering :=
  match enableLua.flag true, localAccountTokenFilterPolicy.flag false,
      filterAdministratorToken.flag false with
  | some lua, some latfp, some fat =>
      -- Without User Account Control nothing is decided.
      if !lua then .unknown
      else
        let values := "read from the target: LocalAccountTokenFilterPolicy = " ++
          localAccountTokenFilterPolicy.shown ++ ", FilterAdministratorToken = " ++
          filterAdministratorToken.shown
        if latfp then
          .notFiltered (values ++
            " — remote User Account Control does not filter local accounts")
        else if builtinAdministrator && !fat then
          .notFiltered (values ++
            " — the built-in Administrator keeps its full network token")
        else
          .filtered (values ++
            " — remote User Account Control filters this local account's network token")
  | _, _, _ => .unknown

/-- The interactive token of the built-in Administrator on the target itself. -/
def localUacFiltering (builtinAdministrator : Bool)
    (enableLua filterAdministratorToken : PolicyDword) : RemoteUacFiltering :=
  if !builtinAdministrator then .unknown
  else
    match enableLua.flag true, filterAdministratorToken.flag false with
    | some true, some false =>
        .notFiltered ("read from the target: FilterAdministratorToken = 0 — the built-in " ++
          "Administrator's interactive token is not split (full token, measured)")
    | _, _ => .unknown

def anonymousEveryone (value : PolicyDword) : Option Bool := value.flag false

/-- What is decided: whether the groups are filtered. -/
def decision : RemoteUacFiltering → Option Bool
  | .unknown => none
  | .filtered _ => some true
  | .notFiltered _ => some false

/-- The rule of Windows for the network token of a local account. -/
def filtersNetworkToken (builtinAdministrator localAccountTokenFilterPolicy
    filterAdministratorToken : Bool) : Bool :=
  !localAccountTokenFilterPolicy && (!builtinAdministrator || filterAdministratorToken)

section Decisions

variable {builtinAdministrator filtered : Bool}
  {enableLua localAccountTokenFilterPolicy filterAdministratorToken : PolicyDword}

theorem decision_remoteUacFiltering_iff :
    decision (remoteUacFiltering builtinAdministrator enableLua localAccountTokenFilterPolicy
        filterAdministratorToken) = some filtered ↔
      enableLua.flag true = some true ∧ ∃ latfp fat,
        localAccountTokenFilterPolicy.flag false = some latfp ∧
          filterAdministratorToken.flag false = some fat ∧
            filtered = filtersNetworkToken builtinAdministrator latfp fat := by
  unfold remoteUacFiltering
  cases enableLua.flag true with
  | none => simp [decision]
  | some lua =>
      cases localAccountTokenFilterPolicy.flag false with
      | none => simp [decision]
      | some latfp =>
          cases filterAdministratorToken.flag false with
          | none => simp [decision]
          | some fat =>
              cases lua <;> cases latfp <;> cases fat <;> cases builtinAdministrator <;>
                simp [decision, filtersNetworkToken, eq_comm]

theorem decision_localUacFiltering_iff :
    decision (localUacFiltering builtinAdministrator enableLua filterAdministratorToken) =
        some filtered ↔
      builtinAdministrator = true ∧ enableLua.flag true = some true ∧
        filterAdministratorToken.flag false = some false ∧ filtered = false := by
  unfold localUacFiltering
  cases builtinAdministrator with
  | false => simp [decision]
  | true =>
      cases enableLua.flag true with
      | none => simp [decision]
      | some lua =>
          cases filterAdministratorToken.flag false with
          | none => simp [decision]
          | some fat =>
              cases lua <;> cases fat <;> simp [decision, eq_comm]

end Decisions

end PermissionEngine

namespace AdResolver

/-- The answer to the query of one value. -/
structure ValueAnswer where
  code : Nat
  kind : Nat
  size : Nat
  data : Nat

/-- What the registry of a machine answers. -/
structure Registry where
  connect : Nat
  openKey : String → Nat
  query : String → String → ValueAnswer

def errorSuccess : Nat := 0

def errorFileNotFound : Nat := 2

def regDword : Nat := 4

def policiesSystem : String := "SOFTWARE\\Microsoft\\Windows\\CurrentVersion\\Policies\\System"

def lsaKey : String := "SYSTEM\\CurrentControlSet\\Control\\Lsa"

/-- A value of another type or size is unreadable. -/
def queryDword (registry : Registry) (key name : String) : PolicyDword :=
  let answer := registry.query key name
  if answer.code = errorSuccess then
    if answer.kind = regDword ∧ answer.size = 4 then .value answer.data
    else .unreadable s!"{name} has an unexpected type"
  else if answer.code = errorFileNotFound then .absent
  else .unreadable s!"{name} not readable (error {answer.code})"

/-- The machine of a validated server name; none is this machine. -/
def machineOf : Option String → Except CoreError (Option String)
  | some server => (Validation.validateSmbServer server).map (fun name => some ("\\\\" ++ name))
  | none => .ok none

structure TargetUacPolicy where
  enableLua : PolicyDword
  localAccountTokenFilterPolicy : PolicyDword
  filterAdministratorToken : PolicyDword
deriving DecidableEq

def TargetUacPolicy.unreadable (reason : String) : TargetUacPolicy where
  enableLua := .unreadable reason
  localAccountTokenFilterPolicy := .unreadable reason
  filterAdministratorToken := .unreadable reason

section Reading

variable (registryOf : Option String → Registry) (server : Option String)

def readTargetUacPolicy : TargetUacPolicy :=
  match machineOf server with
  | .error _ => .unreadable "invalid server name"
  | .ok machine =>
      let registry := registryOf machine
      if registry.connect ≠ errorSuccess then
        .unreadable s!"remote registry not reachable (error {registry.connect})"
      else
        let code := registry.openKey policiesSystem
        if code = errorFileNotFound then ⟨.absent, .absent, .absent⟩
        else if code ≠ errorSuccess then
          .unreadable s!"policy key not readable (error {code})"
        else
          { enableLua := queryDword registry policiesSystem "EnableLUA"
            localAccountTokenFilterPolicy :=
              queryDword registry policiesSystem "LocalAccountTokenFilterPolicy"
            filterAdministratorToken :=
              queryDword registry policiesSystem "FilterAdministratorToken" }

/-- A missing key is unreadable here, other than for the policies above. -/
def readEveryoneIncludesAnonymous : PolicyDword :=
  match machineOf server with
  | .error _ => .unreadable "invalid server name"
  | .ok machine =>
      let registry := registryOf machine
      if registry.connect ≠ errorSuccess then
        .unreadable s!"remote registry not reachable (error {registry.connect})"
      else
        let code := registry.openKey lsaKey
        if code ≠ errorSuccess then .unreadable s!"Lsa key not readable (error {code})"
        else queryDword registry lsaKey "everyoneincludesanonymous"

/-! ## What the target holds -/

/-- The registry holds a switch under a name: a number of the right type, or nothing where
the switch is the default. -/
def Registry.Holds (registry : Registry) (key name : String) (default flag : Bool) : Prop :=
  ((registry.query key name).code = errorFileNotFound ∧ flag = default) ∨
    (registry.query key name).code = errorSuccess ∧ (registry.query key name).kind = regDword ∧
      (registry.query key name).size = 4 ∧ (registry.query key name).data = flag.toNat

/-- The policy of the target is this: its registry can be reached, and the key is not there
or holds the switch. -/
def TargetHolds (name : String) (default flag : Bool) : Prop :=
  ∃ machine, machineOf server = .ok machine ∧ (registryOf machine).connect = errorSuccess ∧
    (((registryOf machine).openKey policiesSystem = errorFileNotFound ∧ flag = default) ∨
      (registryOf machine).openKey policiesSystem = errorSuccess ∧
        (registryOf machine).Holds policiesSystem name default flag)

end Reading

theorem flag_queryDword {registry : Registry} {key name : String} {default flag : Bool} :
    (queryDword registry key name).flag default = some flag ↔
      registry.Holds key name default flag := by
  unfold queryDword Registry.Holds
  generalize registry.query key name = answer
  rcases answer with ⟨code, kind, size, data⟩
  dsimp only
  by_cases success : code = errorSuccess
  · rw [if_pos success]
    have there : code ≠ errorFileNotFound := by
      rw [success]
      decide
    by_cases typed : kind = regDword ∧ size = 4
    · rw [if_pos typed]
      have value : (PolicyDword.value data).flag default = some flag ↔ data = flag.toNat := by
        match data with
        | 0 => cases flag <;> simp [PolicyDword.flag]
        | 1 => cases flag <;> simp [PolicyDword.flag]
        | more + 2 => cases flag <;> simp [PolicyDword.flag]
      rw [value]
      constructor
      · intro same
        exact Or.inr ⟨success, typed.1, typed.2, same⟩
      · intro holds
        rcases holds with ⟨missing, _⟩ | ⟨_, _, _, same⟩
        · exact absurd missing there
        · exact same
    · rw [if_neg typed]
      refine iff_of_false (fun impossible => by cases impossible) ?_
      intro holds
      rcases holds with ⟨missing, _⟩ | ⟨_, typeRight, sized, _⟩
      · exact there missing
      · exact typed ⟨typeRight, sized⟩
  · rw [if_neg success]
    by_cases missing : code = errorFileNotFound
    · rw [if_pos missing]
      constructor
      · intro same
        cases same
        exact Or.inl ⟨missing, rfl⟩
      · intro holds
        rcases holds with ⟨_, same⟩ | ⟨done, _⟩
        · rw [same]
          rfl
        · exact absurd done success
    · rw [if_neg missing]
      refine iff_of_false (fun impossible => by cases impossible) ?_
      intro holds
      rcases holds with ⟨found, _⟩ | ⟨done, _⟩
      · exact missing found
      · exact success done

section Policies

variable (registryOf : Option String → Registry) (server : Option String)

/-- One of the values as it is read. -/
def policyValue (name : String) : PolicyDword :=
  match machineOf server with
  | .error _ => .unreadable "invalid server name"
  | .ok machine =>
      let registry := registryOf machine
      if registry.connect ≠ errorSuccess then
        .unreadable s!"remote registry not reachable (error {registry.connect})"
      else
        let code := registry.openKey policiesSystem
        if code = errorFileNotFound then .absent
        else if code ≠ errorSuccess then .unreadable s!"policy key not readable (error {code})"
        else queryDword registry policiesSystem name

theorem readTargetUacPolicy_eq :
    readTargetUacPolicy registryOf server =
      { enableLua := policyValue registryOf server "EnableLUA"
        localAccountTokenFilterPolicy :=
          policyValue registryOf server "LocalAccountTokenFilterPolicy"
        filterAdministratorToken := policyValue registryOf server "FilterAdministratorToken" } := by
  unfold readTargetUacPolicy policyValue
  cases machineOf server with
  | error reason => rfl
  | ok machine =>
      dsimp only
      split_ifs
      · rfl
      · rfl
      · rfl
      · rfl

variable {registryOf server}

/-- A value is read as a switch exactly when the target holds this switch. -/
theorem flag_policyValue {name : String} {default flag : Bool} :
    (policyValue registryOf server name).flag default = some flag ↔
      TargetHolds registryOf server name default flag := by
  unfold policyValue TargetHolds
  cases machineOf server with
  | error reason =>
      refine iff_of_false (fun impossible => by cases impossible) ?_
      intro holds
      rcases holds with ⟨_, impossible, _⟩
      cases impossible
  | ok machine =>
      dsimp only
      have only : (∃ other, (Except.ok machine : Except CoreError _) = .ok other ∧
          (registryOf other).connect = errorSuccess ∧
            (((registryOf other).openKey policiesSystem = errorFileNotFound ∧ flag = default) ∨
              (registryOf other).openKey policiesSystem = errorSuccess ∧
                (registryOf other).Holds policiesSystem name default flag)) ↔
          (registryOf machine).connect = errorSuccess ∧
            (((registryOf machine).openKey policiesSystem = errorFileNotFound ∧ flag = default) ∨
              (registryOf machine).openKey policiesSystem = errorSuccess ∧
                (registryOf machine).Holds policiesSystem name default flag) := by
        constructor
        · intro found
          rcases found with ⟨other, same, holds⟩
          cases same
          exact holds
        · exact fun holds => ⟨machine, rfl, holds⟩
      rw [only]
      generalize registryOf machine = registry
      by_cases reached : registry.connect = errorSuccess
      · rw [if_neg (not_not.mpr reached)]
        by_cases missing : registry.openKey policiesSystem = errorFileNotFound
        · rw [if_pos missing]
          have other : registry.openKey policiesSystem ≠ errorSuccess := by
            rw [missing]
            decide
          constructor
          · intro same
            cases same
            exact ⟨reached, Or.inl ⟨missing, rfl⟩⟩
          · intro holds
            rcases holds with ⟨_, ⟨_, same⟩ | ⟨opened, _⟩⟩
            · rw [same]
              rfl
            · exact absurd opened other
        · rw [if_neg missing]
          by_cases opened : registry.openKey policiesSystem = errorSuccess
          · rw [if_neg (not_not.mpr opened), flag_queryDword]
            constructor
            · exact fun holds => ⟨reached, Or.inr ⟨opened, holds⟩⟩
            · intro holds
              rcases holds with ⟨_, ⟨found, _⟩ | ⟨_, holds⟩⟩
              · exact absurd found missing
              · exact holds
          · rw [if_pos opened]
            refine iff_of_false (fun impossible => by cases impossible) ?_
            intro holds
            rcases holds with ⟨_, ⟨found, _⟩ | ⟨found, _⟩⟩
            · exact missing found
            · exact opened found
      · rw [if_pos reached]
        refine iff_of_false (fun impossible => by cases impossible) ?_
        exact fun holds => reached holds.1

end Policies

end AdResolver
end Stars

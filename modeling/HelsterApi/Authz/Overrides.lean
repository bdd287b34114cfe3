import Mathlib.Data.Finset.Insert

/-! Permissions of users. A user's overrides are stored as what differs from the baseline of the
managed role, and win over the user's roles.
-/

namespace HelsterApi.Authz

open List

/-- `UserSubject` and `RoleSubject`, whose texts differ. -/
inductive Subject where
  | user (userID : ℤ)
  | role (roleKey : String)
  deriving DecidableEq

structure Permission where
  (resource action : String)

/-- The effects of the tuples stored for a subject and a permission; a missing effect is empty. -/
abbrev Policies := Subject → Permission → Finset String

def registry : List (String × List String) :=
  [("channel", ["read", "operate", "write", "sensitive_write", "secret_view"])]

def isKnownResource (resource : String) : Bool := registry.any (·.1 = resource)

def catalogActions (resource : String) : List String :=
  ((registry.find? (·.1 = resource)).map Prod.snd).getD []

def isKnownPermission (permission : Permission) : Bool :=
  registry.any fun known => known.1 = permission.resource && known.2.contains permission.action

def managedRoleKey : String := "admin"

def resolveSubjectRoles (systemRole : ℤ) : List String :=
  if systemRole ≥ 100 then ["root"] else if systemRole ≥ 10 then [managedRoleKey] else []

/-- Whether the subject is allowed explicitly; a denial wins. -/
def explicitSubjectEffect (policies : Policies) (subject : Subject) (permission : Permission)
    : Option Bool :=
  let effects := policies subject permission
  if "deny" ∈ effects then some false
  else if "allow" ∈ effects ∨ "" ∈ effects then some true
  else none

def roleBaselineAllows (policies : Policies) (permission : Permission) (roleKey : String) : Bool :=
  explicitSubjectEffect policies (.role roleKey) permission = some true

def can (policies : Policies) (userID systemRole : ℤ) (permission : Permission) : Bool :=
  let roles := resolveSubjectRoles systemRole
  if roles.isEmpty then false
  else if roles.contains "root" then true
  else if !isKnownPermission permission then false
  else (explicitSubjectEffect policies (.user userID) permission).getD
    (roles.any (roleBaselineAllows policies permission))

/-- The effect stored for an action of the resource, if any. -/
def userOverridePolicies (policies : Policies) (resource : String) (actions : String → Option Bool)
    (action : String)
    : Finset String :=
  if action ∈ catalogActions resource then
    match actions action with
    | none => ∅
    | some desired =>
      if desired = roleBaselineAllows policies ⟨resource, action⟩ managedRoleKey then ∅
      else {if desired then "allow" else "deny"}
  else ∅

/-- The tuples of the user and each known resource are replaced; a map lists each resource once. -/
def setUserPermissions (userID : ℤ) (policies : Policies)
    : List (String × (String → Option Bool)) → Policies
  | [] => policies
  | (resource, actions) :: rest =>
    setUserPermissions userID
      (fun subject permission =>
        if isKnownResource resource ∧ subject = .user userID ∧ permission.resource = resource then
          userOverridePolicies policies resource actions permission.action
        else policies subject permission)
      rest

variable {policies : Policies} {userID systemRole : ℤ} {resource action : String}
  {actions : String → Option Bool} {permissions : List (String × (String → Option Bool))}
  {subject : Subject} {permission : Permission}

theorem setUserPermissions_frame
    (elsewhere : subject ≠ .user userID ∨ permission.resource ∉ permissions.map Prod.fst
      ∨ isKnownResource permission.resource = false)
    : setUserPermissions userID policies permissions subject permission
      = policies subject permission := by
  induction permissions generalizing policies with
  | nil => rfl
  | cons requested rest ih =>
      have later := elsewhere.imp_right (Or.imp_left (mt (mem_cons_of_mem _)))
      rw [setUserPermissions, ih later, if_neg]
      rintro ⟨known, user, same⟩
      rcases elsewhere with other | absent | unknown
      · exact other user
      · exact absent (same ▸ mem_cons_self)
      · rw [same, known] at unknown
        exact Bool.noConfusion unknown

theorem roleBaselineAllows_set
    : roleBaselineAllows (setUserPermissions userID policies permissions)
      = roleBaselineAllows policies := by
  funext permission roleKey
  unfold roleBaselineAllows explicitSubjectEffect
  rw [setUserPermissions_frame (.inl Subject.noConfusion)]

theorem userOverridePolicies_set
    : userOverridePolicies (setUserPermissions userID policies permissions)
      = userOverridePolicies policies := by
  unfold userOverridePolicies
  rw [roleBaselineAllows_set]

/-- A known resource of the map has its overrides, and nothing else. -/
theorem setUserPermissions_mem (distinct : (permissions.map Prod.fst).Nodup)
    (member : (permission.resource, actions) ∈ permissions)
    (known : isKnownResource permission.resource = true)
    : setUserPermissions userID policies permissions (.user userID) permission
      = userOverridePolicies policies permission.resource actions permission.action := by
  induction permissions generalizing policies with
  | nil => exact absurd member not_mem_nil
  | cons requested rest ih =>
      rw [map_cons, nodup_cons] at distinct
      rcases mem_cons.mp member with rfl | later
      · rw [setUserPermissions, setUserPermissions_frame (.inr (.inl distinct.1)),
          if_pos ⟨known, rfl, rfl⟩]
      · have first : userOverridePolicies (setUserPermissions userID policies [requested])
            = userOverridePolicies policies := userOverridePolicies_set
        exact (ih distinct.2 later).trans (congrFun (congrFun (congrFun first _) _) _)

theorem setUserPermissions_again (distinct : (permissions.map Prod.fst).Nodup)
    {again} (order : again.Perm permissions)
    : setUserPermissions userID (setUserPermissions userID policies permissions) again
      = setUserPermissions userID policies permissions := by
  funext subject permission
  by_cases elsewhere : subject ≠ .user userID ∨ permission.resource ∉ again.map Prod.fst
      ∨ isKnownResource permission.resource = false
  · exact setUserPermissions_frame elsewhere
  · simp only [not_or, not_not, Bool.not_eq_false, mem_map] at elsewhere
    obtain ⟨rfl, ⟨⟨_, actions⟩, member, rfl⟩, known⟩ := elsewhere
    rw [setUserPermissions_mem ((order.map _).nodup_iff.mpr distinct) member known,
      userOverridePolicies_set, setUserPermissions_mem distinct (order.mem_iff.mp member) known]

theorem can_override (admin : resolveSubjectRoles systemRole = [managedRoleKey])
    (listed : permission.action ∈ catalogActions permission.resource)
    (stored : policies (.user userID) permission
      = userOverridePolicies policies permission.resource actions permission.action)
    : can policies userID systemRole permission
      = (actions permission.action).getD
        (roleBaselineAllows policies permission managedRoleKey) := by
  have known : isKnownPermission permission = true := by
    by_cases same : "channel" = permission.resource
    · simpa [isKnownPermission, registry, catalogActions, same] using listed
    · simp [catalogActions, registry, same] at listed
  have any : [managedRoleKey].any (roleBaselineAllows policies permission)
      = roleBaselineAllows policies permission managedRoleKey := by
    simp
  simp only [can, explicitSubjectEffect, admin, known, stored, userOverridePolicies, listed, any]
  generalize roleBaselineAllows policies permission managedRoleKey = baseline
  cases actions permission.action with
  | none => rfl
  | some desired => cases desired <;> cases baseline <;> rfl

/-- After permissions were set, an administrator may do what was requested, and the baseline of the
role otherwise; setting them again, in any order, changes no decision.
-/
theorem permissions_decide (admin : resolveSubjectRoles systemRole = [managedRoleKey])
    (distinct : (permissions.map Prod.fst).Nodup)
    : let changed := setUserPermissions userID policies permissions
      (∀ resource actions, (resource, actions) ∈ permissions → isKnownResource resource = true
        → ∀ action ∈ catalogActions resource, can changed userID systemRole ⟨resource, action⟩
          = (actions action).getD (roleBaselineAllows policies ⟨resource, action⟩ managedRoleKey))
      ∧ (∀ again, again.Perm permissions → ∀ other role permission,
        can (setUserPermissions userID changed again) other role permission
          = can changed other role permission)
      ∧ ∀ other role permission, other ≠ userID ∨ permission.resource ∉ permissions.map Prod.fst
        → can changed other role permission = can policies other role permission := by
  refine ⟨fun resource actions member known action listed => ?_,
    fun again order other role permission => ?_, fun other role permission elsewhere => ?_⟩
  · rw [can_override admin listed, roleBaselineAllows_set]
    rw [userOverridePolicies_set, setUserPermissions_mem distinct member known]
  · rw [setUserPermissions_again distinct order]
  · unfold can explicitSubjectEffect
    rw [roleBaselineAllows_set, setUserPermissions_frame]
    exact elsewhere.imp (mt Subject.user.inj) .inl

theorem write_granted
    : can (setUserPermissions 1 (fun _ _ => ∅)
        [("channel", fun action => if action = "write" then some true else none)]) 1 10
        ⟨"channel", "write"⟩ = true :=
  (permissions_decide (by decide) (by decide)).1 "channel" _ (mem_singleton_self _) rfl "write"
    (by decide)

end HelsterApi.Authz

import Mathlib.Data.List.DropRight
import HelsterApi.Subscriptions.Writes

/-! The group of a user over a run of purchases and ends. A purchase that elevates the user
remembers the group before it; as long as the subscription that remembers ends last, the user is
back in that group once no upgraded one is active.
-/

namespace HelsterApi.Subscriptions

open List Option Relational Store Keyed
open Transition
open Billing (trimSpace)

theorem dropWhile_rdropWhile_dropWhile {α : Type} (p : α → Bool) (l : List α)
    : ((l.dropWhile p).rdropWhile p).dropWhile p = (l.dropWhile p).rdropWhile p := by
  obtain ⟨dropped, split⟩ := rdropWhile_prefix p (l.dropWhile p)
  cases kept : (l.dropWhile p).rdropWhile p with
  | nil => rfl
  | cons first rest =>
    have front := dropWhile_idempotent p l
    rw [← split, kept, cons_append, dropWhile_eq_self_iff] at front
    rw [dropWhile_eq_self_iff]
    intro _
    exact front (by simp)

theorem trimSpace_trimSpace (text) : trimSpace (trimSpace text) = trimSpace text := by
  have front := dropWhile_rdropWhile_dropWhile Text.isSpace text.toList
  have back := rdropWhile_idempotent Text.isSpace (text.toList.dropWhile Text.isSpace)
  unfold rdropWhile at front back
  unfold trimSpace Text.trimSpace
  rw [String.toList_ofList, front, back]

variable {a b : UserSubscription}

instance : Std.Total fun a b : UserSubscription => b.EndsBefore a :=
  ⟨fun a b => by unfold UserSubscription.EndsBefore; omega⟩

instance : IsTrans UserSubscription fun a b => b.EndsBefore a :=
  ⟨fun a b c first second => by unfold UserSubscription.EndsBefore at *; omega⟩

structure UserSubscription.GroupExpired (sub : UserSubscription) (userId : ℤ) : Prop where
  owner : sub.userId = userId
  status : sub.status = .expired
  change : sub.downgradeGroup ≠ "" ∨ sub.upgradeGroup ≠ ""

variable {s : Store} {userId : ℤ} {last : UserSubscription}

theorem Store.lastExpired_eq (member : last ∈ s.subs.rows) (expired : last.GroupExpired userId)
    (latest : ∀ other ∈ s.subs.rows, other.GroupExpired userId → other.EndsBefore last)
    : s.lastExpired userId = some last := by
  unfold lastExpired
  set selected := s.subs.rows.filter fun sub => decide (sub.userId = userId
    ∧ sub.status = .expired ∧ (sub.downgradeGroup ≠ "" ∨ sub.upgradeGroup ≠ ""))
    with selection
  have sorted := pairwise_insertionSort (fun a b => b.EndsBefore a) selected
  have ofSorted : ∀ sub ∈ selected.insertionSort (fun a b => b.EndsBefore a),
      sub ∈ s.subs.rows ∧ sub.GroupExpired userId := by
    intro sub memberSorted
    rw [mem_insertionSort, selection, mem_filter, decide_eq_true_eq] at memberSorted
    exact ⟨memberSorted.1, memberSorted.2.1, memberSorted.2.2.1, memberSorted.2.2.2⟩
  have found : last ∈ selected.insertionSort (fun a b => b.EndsBefore a) := by
    rw [mem_insertionSort, selection, mem_filter, decide_eq_true_eq]
    exact ⟨member, expired.owner, expired.status, expired.change⟩
  cases rows : selected.insertionSort (fun a b => b.EndsBefore a) with
  | nil =>
    rw [rows] at found
    exact absurd found not_mem_nil
  | cons first rest =>
    rw [rows] at sorted ofSorted found
    rcases mem_cons.mp found with same | later
    · rw [same, head?_cons]
    · have ⟨firstMember, firstExpired⟩ := ofSorted first (by simp)
      have left := latest first firstMember firstExpired
      have right := (pairwise_cons.mp sorted).1 last later
      have sameId : first.id = last.id := by
        unfold UserSubscription.EndsBefore at left right
        omega
      rw [head?_cons, eq_of_key firstMember member sameId]

theorem Store.lastExpired_spec (found : s.lastExpired userId = some last)
    : last ∈ s.subs.rows ∧ last.GroupExpired userId := by
  have member := mem_of_head? found
  rw [mem_insertionSort, mem_filter, decide_eq_true_eq] at member
  exact ⟨member.1, member.2.1, member.2.2.1, member.2.2.2⟩

/-- A subscription leads nowhere else than to `group`. -/
structure UserSubscription.WayBack (sub : UserSubscription) (group : String) : Prop where
  trimmed : trimSpace sub.upgradeGroup = sub.upgradeGroup
  implicit : sub.downgradeGroup = ""
  previous : sub.prevUserGroup = "" ∨ (sub.prevUserGroup = group ∧ trimSpace group = group)

variable {sub : UserSubscription} {group : String}

theorem UserSubscription.WayBack.groupAfter (wayBack : sub.WayBack group) (current)
    : sub.groupAfter current
      = if current = sub.upgradeGroup ∧ sub.prevUserGroup ≠ current then sub.prevUserGroup
        else "" := by
  have blank : trimSpace "" = "" := by decide
  have previous : trimSpace sub.prevUserGroup = sub.prevUserGroup := by
    rcases wayBack.previous with empty | ⟨same, trimmed⟩
    · rw [empty, blank]
    · rw [same, trimmed]
  simp only [UserSubscription.groupAfter, wayBack.implicit, wayBack.trimmed, previous, blank,
    ne_eq, not_true_eq_false, if_false]
  by_cases elevated : current = sub.upgradeGroup
  · by_cases same : sub.prevUserGroup = current
    · simp [elevated.symm, same]
    · simp [elevated.symm, same]
  · simp [elevated]

theorem Store.moveUser_known (known : (s.groups userId).isSome)
    : ((s.moveUser sub).groups userId).isSome := by
  by_cases same : userId = sub.userId
  · subst same
    dsimp only [moveUser]
    split
    · exact known
    · simpa [setUserGroup] using known
  · rwa [moveUser_groups_of_ne same]

theorem UserSubscription.WayBack.moveUser_userGroup (wayBack : sub.WayBack group)
    (known : (s.groups sub.userId).isSome)
    : (s.moveUser sub).userGroup sub.userId
      = if s.userGroup sub.userId = sub.upgradeGroup ∧ sub.prevUserGroup ≠ "" then sub.prevUserGroup
        else s.userGroup sub.userId := by
  obtain ⟨current, found⟩ := isSome_iff_exists.mp known
  have currentGroup : s.userGroup sub.userId = current := by simp [userGroup, found]
  dsimp only [moveUser]
  rw [wayBack.groupAfter, currentGroup]
  by_cases elevated : current = sub.upgradeGroup
  · by_cases there : sub.prevUserGroup = current
    · simp [there, currentGroup]
    · by_cases empty : sub.prevUserGroup = ""
      · simp [empty, currentGroup]
      · have target : (if current = sub.upgradeGroup ∧ sub.prevUserGroup ≠ current then
            sub.prevUserGroup else "") = sub.prevUserGroup := if_pos ⟨elevated, there⟩
        rw [target, if_neg empty, if_pos ⟨elevated, empty⟩]
        simp [setUserGroup, userGroup, found]
  · simp [elevated, currentGroup]

theorem UserSubscription.WayBack.moveUser (wayBack : sub.WayBack group)
    (known : (s.groups sub.userId).isSome)
    : (s.moveUser sub).userGroup sub.userId = s.userGroup sub.userId
      ∨ (s.moveUser sub).userGroup sub.userId = group := by
  rw [wayBack.moveUser_userGroup known]
  split
  next back => exact .inr (wayBack.previous.resolve_left back.2).1
  · exact .inl rfl

theorem UserSubscription.WayBack.moveUser_back (wayBack : sub.WayBack group)
    (known : (s.groups sub.userId).isSome) (elevated : sub.upgradeGroup = s.userGroup sub.userId)
    (remembers : sub.prevUserGroup ≠ "")
    : (s.moveUser sub).userGroup sub.userId = group := by
  rw [wayBack.moveUser_userGroup known, if_pos ⟨elevated.symm, remembers⟩]
  exact (wayBack.previous.resolve_left remembers).1

/-- An active subscription elevated the user to `group` and remembers the group before. -/
def UserSubscription.Holds (sub : UserSubscription) (userId : ℤ) (group : String) : Prop :=
  sub.userId = userId ∧ sub.status = .active ∧ sub.upgradeGroup = group
    ∧ sub.upgradeGroup ≠ "" ∧ sub.prevUserGroup ≠ ""
  deriving Decidable

/-- A subscription that defines a change of the user's group is expired or due. -/
def UserSubscription.Ending (sub : UserSubscription) (userId now : ℤ) : Prop :=
  sub.userId = userId ∧ (sub.status = .expired ∨ sub.due userId now)
    ∧ (sub.downgradeGroup ≠ "" ∨ sub.upgradeGroup ≠ "")
  deriving Decidable

/-- A subscription that holds the user's group is ended by hand only while another one holds it, or
the user has no other upgraded one.
-/
def Store.Releases (s : Store) (userId : ℤ) (w : EndReads) (id now : ℤ) : Prop :=
  ∀ sub ∈ s.subs.get? id, sub.Holds userId (s.userGroup userId)
    → (∃ other ∈ s.subs.rows, other.id ≠ id ∧ other.Holds userId (s.userGroup userId))
      ∨ (w.activeRead → ∀ other ∈ s.subs.rows, ¬other.upgrades userId now (some id))
  deriving Decidable

/-- If an expiry leaves no subscription that holds the user's group, then no other upgraded one
is active, and the last expired one, which is read, elevated the user to that group and
remembers the one before.
-/
def Store.Expires (s : Store) (userId : ℤ) (w : EndReads) (now : ℤ) : Prop :=
  (∃ sub ∈ s.subs.rows, sub.due userId now ∧ sub.Holds userId (s.userGroup userId))
    → (∃ other ∈ s.subs.rows, ¬other.due userId now
        ∧ other.Holds userId (s.userGroup userId))
      ∨ (w.activeRead → ∀ other ∈ s.subs.rows, ¬other.upgrades userId now none)
        ∧ w.expiredRead
        ∧ ∃ last ∈ s.subs.rows, last.Ending userId now
          ∧ last.upgradeGroup = s.userGroup userId ∧ last.prevUserGroup ≠ ""
          ∧ ∀ other ∈ s.subs.rows, other.Ending userId now → other.EndsBefore last
  deriving Decidable

def ImplicitDowngrade : Action → Prop
  | .create _ _ _ plan _ => trimSpace plan.downgradeGroup = ""
  | _ => True

instance : DecidablePred ImplicitDowngrade := fun a => by
  cases a <;> dsimp only [ImplicitDowngrade] <;> infer_instance

/-- The user is elevated out of `group` only, which is not blank, and a subscription that holds the
group they were elevated to ends last.
-/
def KeepsWayBack (group : String) (userId : ℤ) (s : Store) : Action → Prop
  | .create _ _ buyer plan _ =>
    buyer = userId → trimSpace plan.upgradeGroup ≠ ""
      → s.userGroup userId ≠ trimSpace plan.upgradeGroup
      → s.userGroup userId = group ∧ group ≠ "" ∧ trimSpace group = group
  | .invalidate w id now => s.Releases userId w id now
  | .delete w id now => s.Releases userId w id now
  | .expireUser w user now => user = userId → s.Expires userId w now
  | _ => True

instance (group : String) (userId : ℤ) (s : Store) : DecidablePred (KeepsWayBack group userId s) :=
  fun a => by cases a <;> dsimp only [KeepsWayBack] <;> infer_instance

/-- The user is in `group`, or an active subscription holds the group they were elevated to, and
each of their subscriptions leads back.
-/
structure Restorable (group : String) (userId : ℤ) (s : Store) : Prop where
  known : (s.groups userId).isSome
  wayBack : ∀ sub ∈ s.subs.rows, sub.userId = userId → sub.WayBack group
  held : s.userGroup userId = group
    ∨ ∃ sub ∈ s.subs.rows, sub.Holds userId (s.userGroup userId)

structure UserSubscription.SameTerms (a b : UserSubscription) : Prop where
  id : b.id = a.id
  userId : b.userId = a.userId
  status : b.status = a.status
  upgradeGroup : b.upgradeGroup = a.upgradeGroup
  prevUserGroup : b.prevUserGroup = a.prevUserGroup
  downgradeGroup : b.downgradeGroup = a.downgradeGroup

theorem UserSubscription.SameTerms.wayBack (same : a.SameTerms b) (wayBack : a.WayBack group)
    : b.WayBack group where
  trimmed := by rw [same.upgradeGroup, wayBack.trimmed]
  implicit := by rw [same.downgradeGroup, wayBack.implicit]
  previous := by
    rw [same.prevUserGroup]
    exact wayBack.previous

theorem UserSubscription.SameTerms.holds (same : a.SameTerms b) (holds : a.Holds userId group)
    : b.Holds userId group := by
  unfold Holds
  rwa [same.userId, same.status, same.upgradeGroup, same.prevUserGroup]

theorem sameTerms_writeRule (cal) : WriteRule cal UserSubscription.SameTerms where
  keepsId same := same.id
  refl _ := ⟨rfl, rfl, rfl, rfl, rfl, rfl⟩
  reset := by
    intro iterations plan now a b reset
    rcases maybeReset_ok reset with rfl | ⟨base, next, rfl | rfl⟩
    · exact ⟨rfl, rfl, rfl, rfl, rfl, rfl⟩
    · exact ⟨rfl, rfl, rfl, rfl, rfl, rfl⟩
    · exact ⟨rfl, rfl, rfl, rfl, rfl, rfl⟩
  renew plan now advanceResetTime a := by
    cases advanceResetTime <;> exact ⟨rfl, rfl, rfl, rfl, rfl, rfl⟩
  adjust _ := ⟨rfl, rfl, rfl, rfl, rfl, rfl⟩

theorem sameTerms_preConsume (cal : Calendar) (w : PreConsumeReads) (call : PreConsumeCall)
    (s : Store)
    : s.Rewrites UserSubscription.SameTerms (step cal s (.preConsume w call)) := by
  have rule := sameTerms_writeRule cal
  refine committed_of (.refl rule.refl rfl rfl) fun s' done => ?_
  obtain ⟨_, done⟩ := map_snd_eq_ok.mp done
  refine preConsumeSubscription_rewrites rule.toRowRule
    (fun _ _ => PreConsumeReads.resetRow_related rule) ?_ done
  intro _ _ row _ sub reset _
  have same := PreConsumeReads.resetRow_related rule reset
  exact ⟨same.id, same.userId, same.status, same.upgradeGroup, same.prevUserGroup,
    same.downgradeGroup⟩

section

variable {group : String} {userId : ℤ} {s s' : Store}

variable (restorable : Restorable group userId s)

include restorable

theorem Restorable.rewrites (rewritten : s.Rewrites UserSubscription.SameTerms s')
    : Restorable group userId s' where
  known := by rw [rewritten.groups]; exact restorable.known
  wayBack := by
    intro b member owner
    obtain ⟨a, memberA, same⟩ := rewritten.origin member
    exact same.wayBack (restorable.wayBack a memberA (same.userId ▸ owner))
  held := by
    unfold userGroup
    rw [rewritten.groups]
    refine restorable.held.imp_right ?_
    rintro ⟨a, member, holds⟩
    obtain ⟨b, memberB, same⟩ := rewritten.image member
    exact ⟨b, memberB, same.holds holds⟩

theorem Restorable.elsewhere (groups : s'.groups userId = s.groups userId)
    (rows : ∀ sub : UserSubscription, sub.userId = userId
      → (sub ∈ s'.subs.rows ↔ sub ∈ s.subs.rows))
    : Restorable group userId s' where
  known := by rw [groups]; exact restorable.known
  wayBack sub member owner := restorable.wayBack sub ((rows sub owner).mp member) owner
  held := by
    unfold userGroup
    rw [groups]
    refine restorable.held.imp_right ?_
    rintro ⟨sub, member, holds⟩
    exact ⟨sub, (rows sub holds.1).mpr member, holds⟩

/-- Subscriptions may end if that takes the user back or leaves one that holds the group. -/
theorem Restorable.ends (known : (s'.groups userId).isSome)
    (wayBack : ∀ sub ∈ s'.subs.rows, sub.userId = userId → sub.WayBack group)
    (stays : s'.userGroup userId = s.userGroup userId ∨ s'.userGroup userId = group)
    (held : (∃ sub ∈ s.subs.rows, sub.Holds userId (s.userGroup userId))
      → (∃ sub ∈ s'.subs.rows, sub.Holds userId (s.userGroup userId))
        ∨ s'.userGroup userId = group)
    : Restorable group userId s' := by
  refine ⟨known, wayBack, ?_⟩
  rcases stays with same | back
  · rw [same]
    rcases restorable.held with home | elevated
    · exact .inl home
    · rcases held elevated with still | back
      · exact .inr still
      · exact .inl (same ▸ back)
  · exact .inl back

end

section

variable {group : String} {userId : ℤ} {s s' : Store} {id now : ℤ}

variable {cal : Calendar} {buyer : ℤ} {plan : SubscriptionPlan}

theorem Restorable.create {fault} (restorable : Restorable group userId s)
    (implicit : ImplicitDowngrade (.create fault id buyer plan now))
    (open_ : KeepsWayBack group userId s (.create fault id buyer plan now))
    (done : createUserSubscriptionFromPlanTx cal fault id buyer plan now s = .ok s')
    : Restorable group userId s' := by
  obtain ⟨_, endTime, _, rows, groups⟩ := createFromPlan_ok done
  set bought := newSubscription cal id buyer plan now endTime (s.userGroup buyer)
  by_cases own : buyer = userId
  · subst own
    have oldMember {sub : UserSubscription} (member : sub ∈ s.subs.rows) : sub ∈ s'.subs.rows := by
      rw [rows]
      exact mem_append_left _ member
    have boughtWayBack : bought.WayBack group := by
      refine ⟨trimSpace_trimSpace plan.upgradeGroup, implicit, ?_⟩
      dsimp only [bought, newSubscription]
      split
      next elevates =>
        obtain ⟨home, _, trimmed⟩ := open_ rfl elevates.1 elevates.2
        exact .inr ⟨home, trimmed⟩
      · exact .inl rfl
    have wayBack : ∀ sub ∈ s'.subs.rows, sub.userId = buyer → sub.WayBack group := by
      intro sub member owner
      rw [rows, mem_append, mem_singleton] at member
      rcases member with old | rfl
      · exact restorable.wayBack sub old owner
      · exact boughtWayBack
    by_cases elevates : trimSpace plan.upgradeGroup ≠ ""
        ∧ s.userGroup buyer ≠ trimSpace plan.upgradeGroup
    · rw [if_pos elevates] at groups
      obtain ⟨home, named, _⟩ := open_ rfl elevates.1 elevates.2
      have known : (s'.groups buyer).isSome := by
        rw [groups]
        simpa [setUserGroup] using restorable.known
      have elevated : s'.userGroup buyer = trimSpace plan.upgradeGroup := by
        obtain ⟨current, found⟩ := isSome_iff_exists.mp restorable.known
        simp [userGroup, groups, setUserGroup, found]
      refine ⟨known, wayBack, .inr ⟨bought, by simp [rows], ?_⟩⟩
      rw [elevated]
      refine ⟨rfl, rfl, rfl, elevates.1, ?_⟩
      dsimp only [bought, newSubscription]
      rwa [if_pos elevates, home]
    · rw [if_neg elevates] at groups
      refine ⟨by rw [groups]; exact restorable.known, wayBack, ?_⟩
      unfold userGroup
      rw [groups]
      refine restorable.held.imp_right ?_
      rintro ⟨sub, member, holds⟩
      exact ⟨sub, oldMember member, holds⟩
  · refine restorable.elsewhere ?_ fun sub owner => ?_
    · rw [groups]
      split
      · exact Function.update_of_ne (Ne.symm own) ..
      · rfl
    · have apart : sub ≠ bought := by
        rintro rfl
        exact own owner
      rw [rows, mem_append, mem_singleton]
      exact or_iff_left apart

variable {sub : UserSubscription} {activeRead : Bool}

theorem Restorable.downgrade_stays (known : (s.groups userId).isSome) (owner : sub.userId = userId)
    (wayBack : sub.WayBack group)
    (done : downgradeUserGroupForSubscriptionTx activeRead sub now s = .ok s')
    : (s'.groups userId).isSome
      ∧ (s'.userGroup userId = s.userGroup userId ∨ s'.userGroup userId = group) := by
  subst owner
  rcases downgradeUserGroup_ok done with ⟨same, _⟩ | moved
  · rw [same]
    exact ⟨known, .inl rfl⟩
  · rw [moved]
    exact ⟨moveUser_known known, wayBack.moveUser known⟩

theorem Restorable.downgrade_back (known : (s.groups userId).isSome) (owner : sub.userId = userId)
    (wayBack : sub.WayBack group) (elevated : sub.upgradeGroup = s.userGroup userId)
    (upgraded : sub.upgradeGroup ≠ "") (remembers : sub.prevUserGroup ≠ "")
    (alone : activeRead → ∀ other ∈ s.subs.rows, ¬other.upgrades userId now (some sub.id))
    (done : downgradeUserGroupForSubscriptionTx activeRead sub now s = .ok s')
    : s'.userGroup userId = group := by
  subst owner
  rcases downgradeUserGroup_ok done with
    ⟨_, ⟨_, blank⟩ | ⟨read, affected⟩⟩ | moved
  · exact absurd (wayBack.trimmed ▸ blank) upgraded
  · obtain ⟨other, member, upgrades⟩ := any_eq_true.mp affected
    exact absurd upgrades (alone read other member)
  · rw [moved]
    exact wayBack.moveUser_back known elevated remembers

variable {w : EndReads}

theorem Store.Releases.held (releases : s.Releases userId w id now)
    (found : s.subs.get? id = some sub)
    (survives : ∀ other ∈ s.subs.rows, other.id ≠ id → other ∈ s'.subs.rows)
    (back : sub.Holds userId (s.userGroup userId)
      → (w.activeRead → ∀ other ∈ s.subs.rows, ¬other.upgrades userId now (some id))
      → s'.userGroup userId = group)
    (elevated : ∃ holder ∈ s.subs.rows, holder.Holds userId (s.userGroup userId))
    : (∃ holder ∈ s'.subs.rows, holder.Holds userId (s.userGroup userId))
      ∨ s'.userGroup userId = group := by
  obtain ⟨holder, holderMember, holds⟩ := elevated
  obtain ⟨member, sameId⟩ := get?_eq_some.mp found
  by_cases ended : holder.id = id
  · have same := eq_of_key holderMember member (ended.trans sameId.symm)
    subst same
    rcases releases holder found holds with ⟨other, otherMember, different, others⟩ | alone
    · exact .inl ⟨other, survives other otherMember different, others⟩
    · exact .inr (back holds alone)
  · exact .inl ⟨holder, survives holder holderMember ended, holds⟩

theorem Restorable.invalidate (restorable : Restorable group userId s)
    (releases : s.Releases userId w id now)
    (done : adminInvalidateUserSubscription w id now s = .ok s')
    : Restorable group userId s' := by
  obtain ⟨sub, found, done⟩ := adminInvalidate_ok done
  obtain ⟨member, sameId⟩ := get?_eq_some.mp found
  have rows : s'.subs.rows = (s.subs.save (sub.cancelled now)).rows := by
    rw [downgradeUserGroup_subs done]
    rfl
  by_cases own : sub.userId = userId
  · have wayBack := restorable.wayBack sub member own
    have cancelledWayBack : (sub.cancelled now).WayBack group :=
      ⟨wayBack.trimmed, wayBack.implicit, wayBack.previous⟩
    have ownCancelled : (sub.cancelled now).userId = userId := own
    obtain ⟨known, stays⟩ :=
      downgrade_stays (s := s.saveSub (sub.cancelled now)) restorable.known
        ownCancelled cancelledWayBack done
    refine restorable.ends known ?_ stays ?_
    · rw [rows]
      exact forall_mem_save restorable.wayBack fun _ => cancelledWayBack
    · refine releases.held found ?_ ?_
      · intro other otherMember different
        rw [rows]
        exact mem_save.mpr (.inr ⟨otherMember, sameId.symm ▸ different⟩)
      · intro holds alone
        refine downgrade_back (s := s.saveSub (sub.cancelled now))
          restorable.known ownCancelled cancelledWayBack holds.2.2.1 holds.2.2.2.1
          holds.2.2.2.2 ?_ done
        intro read other otherMember upgrades
        rcases mem_save.mp otherMember with ⟨rfl, _⟩ | ⟨old, _⟩
        · simp [UserSubscription.upgrades, UserSubscription.cancelled] at upgrades
        · refine alone read other old ?_
          rwa [← sameId]
  · refine restorable.elsewhere ?_ fun other owner => ?_
    · have other := Ne.symm own
      rw [downgradeUserGroup_groups_of_ne other done]
      rfl
    · have apart : other ≠ sub.cancelled now := by
        rintro rfl
        exact own owner
      have different (otherMember : other ∈ s.subs.rows) : other.id ≠ (sub.cancelled now).id := by
        intro same
        exact own (eq_of_key otherMember member same ▸ owner)
      rw [rows, mem_save]
      constructor
      · rintro (⟨same, _⟩ | ⟨old, _⟩)
        · exact absurd same apart
        · exact old
      · intro old
        exact .inr ⟨old, different old⟩

theorem Restorable.delete (restorable : Restorable group userId s)
    (releases : s.Releases userId w id now) (done : adminDeleteUserSubscription w id now s = .ok s')
    : Restorable group userId s' := by
  obtain ⟨sub, moved, found, downgraded, done⟩ := adminDelete_ok done
  obtain ⟨member, sameId⟩ := get?_eq_some.mp found
  have groups : s'.groups = moved.groups := by rw [done]
  have sameGroup : s'.userGroup userId = moved.userGroup userId := by
    unfold userGroup
    rw [groups]
  have rows {other : UserSubscription}
      : other ∈ s'.subs.rows ↔ other ∈ s.subs.rows ∧ other.id ≠ id := by
    rw [done, ← downgradeUserGroup_subs downgraded]
    exact mem_erase
  by_cases own : sub.userId = userId
  · have wayBack := restorable.wayBack sub member own
    obtain ⟨known, stays⟩ := downgrade_stays restorable.known own wayBack downgraded
    refine restorable.ends (groups ▸ known) ?_ (sameGroup ▸ stays) ?_
    · intro other otherMember owner
      exact restorable.wayBack other (rows.mp otherMember).1 owner
    · refine releases.held found ?_ ?_
      · intro other otherMember different
        exact rows.mpr ⟨otherMember, different⟩
      · intro holds alone
        rw [sameGroup]
        exact downgrade_back restorable.known own wayBack holds.2.2.1
          holds.2.2.2.1 holds.2.2.2.2 (sameId ▸ alone) downgraded
  · refine restorable.elsewhere ?_ fun other owner => ?_
    · rw [groups]
      exact downgradeUserGroup_groups_of_ne (Ne.symm own) downgraded
    · refine rows.trans (and_iff_left_of_imp fun otherMember sameOther => ?_)
      have same := eq_of_key otherMember member (sameOther.trans sameId.symm)
      exact own (same ▸ owner)

variable {last : UserSubscription}

theorem Store.expire_lastExpired (member : last ∈ s.subs.rows) (ending : last.Ending userId now)
    (latest : ∀ other ∈ s.subs.rows, other.Ending userId now → other.EndsBefore last)
    : (s.expire userId now).lastExpired userId
      = some (if last.due userId now then last.expired else last) := by
  have marked {sub : UserSubscription}
      : (if sub.due userId now then sub.expired else sub).GroupExpired userId
        ↔ sub.Ending userId now := by
    by_cases due : sub.due userId now
    · rw [if_pos due]
      constructor
      · rintro ⟨owner, _, change⟩
        exact ⟨owner, .inr due, change⟩
      · rintro ⟨owner, _, change⟩
        exact ⟨owner, rfl, change⟩
    · rw [if_neg due]
      constructor
      · rintro ⟨owner, status, change⟩
        exact ⟨owner, .inl status, change⟩
      · rintro ⟨owner, expired, change⟩
        exact ⟨owner, expired.resolve_right due, change⟩
  have sameEnd {a b : UserSubscription} (before : a.EndsBefore b)
      : (if a.due userId now then a.expired else a).EndsBefore
          (if b.due userId now then b.expired else b) := by
    split <;> split <;> exact before
  refine lastExpired_eq (mem_expire.mpr ⟨last, member, rfl⟩)
    (marked.mpr ending) fun other otherMember expired => ?_
  obtain ⟨a, memberA, rfl⟩ := mem_expire.mp otherMember
  exact sameEnd (latest a memberA (marked.mp expired))

theorem UserSubscription.WayBack.expire (wayBack : sub.WayBack group) (now)
    : (if sub.due userId now then sub.expired else sub).WayBack group := by
  split
  · exact ⟨wayBack.trimmed, wayBack.implicit, wayBack.previous⟩
  · exact wayBack

variable (restorable : Restorable group userId s)

include restorable

theorem Restorable.expire_back (upgraded : s.userGroup userId ≠ "")
    (alone : w.activeRead → ∀ other ∈ s.subs.rows, ¬other.upgrades userId now none)
    (read : w.expiredRead) (member : last ∈ s.subs.rows) (ending : last.Ending userId now)
    (elevated : last.upgradeGroup = s.userGroup userId) (remembers : last.prevUserGroup ≠ "")
    (latest : ∀ other ∈ s.subs.rows, other.Ending userId now → other.EndsBefore last)
    (done : expireUserSubscriptions w userId now s = .ok s')
    : s'.userGroup userId = group := by
  have found := expire_lastExpired member ending latest
  set marked := if last.due userId now then last.expired else last with markedEq
  have sameOwner : marked.userId = userId := by
    rw [markedEq]
    split <;> exact ending.1
  have sameUpgrade : marked.upgradeGroup = last.upgradeGroup := by
    rw [markedEq]
    split <;> rfl
  have samePrevious : marked.prevUserGroup = last.prevUserGroup := by
    rw [markedEq]
    split <;> rfl
  have wayBack : marked.WayBack group := (restorable.wayBack last member ending.1).expire now
  rcases expireSubscriptions_ok done with ⟨_, reason⟩ | ⟨other, otherFound, moved⟩
  · exfalso
    rcases reason with ⟨activeRead, affected⟩ | unread | none_ | ⟨other, otherFound, blank⟩
    · obtain ⟨b, memberB, upgrades⟩ := any_eq_true.mp affected
      obtain ⟨a, memberA, rfl⟩ := mem_expire.mp memberB
      split at upgrades
      · simp [UserSubscription.upgrades, UserSubscription.expired] at upgrades
      · exact alone activeRead a memberA upgrades
    · simp [read] at unread
    · simp [found] at none_
    · have same : marked = other := some.inj (found.symm.trans otherFound)
      subst same
      rcases blank with noUpgrade | noPrevious
      · rw [wayBack.trimmed, sameUpgrade, elevated] at noUpgrade
        exact upgraded noUpgrade
      · have remembered := wayBack.previous.resolve_left (samePrevious ▸ remembers)
        rw [remembered.1, remembered.2, ← remembered.1, samePrevious] at noPrevious
        exact remembers noPrevious
  · have same : marked = other := some.inj (found.symm.trans otherFound)
    subst same
    rw [moved, ← sameOwner]
    refine wayBack.moveUser_back ?_ ?_ (samePrevious ▸ remembers)
    · rw [sameOwner]
      exact restorable.known
    · rw [sameUpgrade, elevated, sameOwner]
      rfl

theorem Restorable.expire_wayBack (now)
    : ∀ sub ∈ (s.expire userId now).subs.rows, sub.userId = userId → sub.WayBack group := by
  intro sub member owner
  obtain ⟨a, memberA, rfl⟩ := mem_expire.mp member
  have ownerA : a.userId = userId := by split at owner <;> exact owner
  exact (restorable.wayBack a memberA ownerA).expire now

theorem Restorable.expire_stays (done : expireUserSubscriptions w userId now s = .ok s')
    : (s'.groups userId).isSome
      ∧ (s'.userGroup userId = s.userGroup userId ∨ s'.userGroup userId = group) := by
  rcases expireSubscriptions_ok done with ⟨same, _⟩ | ⟨last, found, moved⟩
  · rw [same]
    exact ⟨restorable.known, .inl rfl⟩
  · obtain ⟨member, expired⟩ := lastExpired_spec found
    have wayBack := restorable.expire_wayBack now last member expired.owner
    have known : ((s.expire userId now).groups last.userId).isSome := by
      rw [expired.owner]
      exact restorable.known
    have stays := wayBack.moveUser known
    rw [expired.owner] at stays
    rw [moved]
    exact ⟨moveUser_known restorable.known, stays⟩

variable {user : ℤ}

theorem Restorable.expire_elsewhere (other : user ≠ userId)
    (done : expireUserSubscriptions w user now s = .ok s')
    : Restorable group userId s' := by
  refine restorable.elsewhere ?_ fun sub owner => ?_
  · rcases expireSubscriptions_ok done with ⟨same, _⟩ | ⟨last, found, moved⟩
    · rw [same]
      rfl
    · have expired := (lastExpired_spec found).2
      rw [moved, moveUser_groups_of_ne (expired.owner ▸ Ne.symm other)]
      rfl
  · have notDue : ∀ a : UserSubscription, a.userId = userId → ¬a.due user now := by
      intro a ownerA due
      have ownerDue := (of_decide_eq_true due).1
      exact other (ownerDue.symm.trans ownerA)
    rw [expireSubscriptions_subs done, mem_expire]
    constructor
    · rintro ⟨a, memberA, rfl⟩
      split at owner
      next due => exact absurd due (notDue a owner)
      next undue => rwa [if_neg undue]
    · intro member
      exact ⟨sub, member, if_neg (notDue sub owner)⟩

theorem Restorable.expireUser (expires : user = userId → s.Expires userId w now)
    (done : expireUserSubscriptions w user now s = .ok s')
    : Restorable group userId s' := by
  by_cases own : user = userId
  · subst own
    have rows := expireSubscriptions_subs done
    have survives {other : UserSubscription} (otherMember : other ∈ s.subs.rows)
        (notDue : ¬other.due user now) : other ∈ s'.subs.rows := by
      rw [rows]
      exact mem_expire.mpr ⟨other, otherMember, if_neg notDue⟩
    obtain ⟨known, stays⟩ := restorable.expire_stays done
    refine restorable.ends known (by rw [rows]; exact restorable.expire_wayBack now) stays ?_
    rintro ⟨holder, holderMember, holds⟩
    by_cases due : holder.due user now
    · rcases expires rfl ⟨holder, holderMember, due, holds⟩ with
        ⟨other, otherMember, notDue, others⟩
        | ⟨alone, read, last, member, ending, elevated, remembers, latest⟩
      · exact .inl ⟨other, survives otherMember notDue, others⟩
      · have upgraded := holds.2.2.1 ▸ holds.2.2.2.1
        exact .inr (restorable.expire_back upgraded alone read member ending elevated
          remembers latest done)
    · exact .inl ⟨holder, survives holderMember due, holds⟩
  · exact restorable.expire_elsewhere own done

end

theorem Restorable.step {cal a} (restorable : Restorable group userId s)
    (implicit : ImplicitDowngrade a) (open_ : KeepsWayBack group userId s a)
    : Restorable group userId (step cal s a) := by
  have rule := sameTerms_writeRule cal
  cases a with
  | create fault id buyer plan now =>
    exact committed_of restorable fun _ done => restorable.create implicit open_ done
  | invalidate w id now =>
    exact committed_of restorable fun _ done => restorable.invalidate open_ done
  | delete w id now =>
    exact committed_of restorable fun _ done => restorable.delete open_ done
  | expireUser w user now =>
    exact committed_of restorable fun _ done => restorable.expireUser open_ done
  | preConsume w call => exact restorable.rewrites (sameTerms_preConsume cal w call s)
  | refund | postConsume | resetDue | adminResetUser | adminResetPlan =>
    exact restorable.rewrites (step_rewrites rule (by trivial) s)

/-- In every run from a user in `group` without subscriptions, of plans without an explicit
downgrade group and of steps that keep the way back open, the user is in `group` whenever no
upgraded subscription of theirs is active.
-/
theorem wayBack_userGroup_restored (cal : Calendar) {group userId groups s}
    (start : groups userId = some group)
    (led : (machine cal).Leads
      (fun s a => ImplicitDowngrade a ∧ KeepsWayBack group userId s a) (.fresh groups) s)
    (none_ : ∀ sub ∈ s.subs.rows, sub.userId = userId → sub.status = .active
      → sub.upgradeGroup = "")
    : s.groups userId = some group := by
  have restorable : Restorable group userId s := by
    clear none_
    induction led with
    | refl =>
      refine ⟨by simp [fresh, start], fun sub member => ?_, .inl ?_⟩
      · exact absurd member not_mem_nil
      · simp [userGroup, fresh, start]
    | step _ allowed moved ih =>
      rw [← some.inj moved]
      exact ih.step allowed.1 allowed.2
  obtain ⟨current, found⟩ := isSome_iff_exists.mp restorable.known
  have currentGroup : s.userGroup userId = current := by simp [userGroup, found]
  rcases restorable.held with home | ⟨sub, member, holds⟩
  · rw [found, ← currentGroup, home]
  · exact absurd (none_ sub member holds.1 holds.2.1) holds.2.2.2.1

def vipHour : SubscriptionPlan :=
  { id := 1, durationUnit := "hour", upgradeGroup := "vip" }

/-- A user who buys once and lets the subscription expire is back in the first group. -/
theorem vipHour_once_restored
    : ((machine plainCalendar).play (.fresh fun _ => some "default")
        [.create none 1 1 vipHour 1000]).groups 1 = some "vip"
      ∧ ((machine plainCalendar).play (.fresh fun _ => some "default")
        [.create none 1 1 vipHour 1000, .expireUser ⟨true, true, none⟩ 1 5000]).groups 1
          = some "default" :=
  ⟨by decide, wayBack_userGroup_restored plainCalendar rfl
    (Machine.leads_play (by decide)) (by decide)⟩

/-- A user who renews before the first subscription ends stays in the plan's group after both: the
second purchase remembers nothing.
-/
theorem vipHour_renewed_not_restored
    : ∃ s, (machine plainCalendar).Leads (fun _ a => ImplicitDowngrade a)
        (.fresh fun _ => some "default") s
      ∧ (∀ sub ∈ s.subs.rows, sub.status = .expired) ∧ s.groups 1 = some "vip" := by
  have led : (machine plainCalendar).Leads (fun _ a => ImplicitDowngrade a)
      (.fresh fun _ => some "default")
      ((machine plainCalendar).play (.fresh fun _ => some "default")
        [.create none 1 1 vipHour 1000, .create none 2 1 vipHour 2000,
          .expireUser ⟨true, true, none⟩ 1 5000, .expireUser ⟨true, true, none⟩ 1 6000]) :=
    Machine.leads_play (by decide)
  exact ⟨_, led, by decide, by decide⟩

end HelsterApi.Subscriptions

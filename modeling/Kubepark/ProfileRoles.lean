import Kubepark.RbacExact

/-!
# The Roles of a profile after a pass

`syncRoles` merges the rules of all grants by namespace, applies one Role after the other in the
order in which the map is ranged over, and collects the Roles of the profile elsewhere by their
label. In a run of passes of the controller what stands under the name of a profile's Role carries
its label, and the other way round (`RolesOwned`).

`profile_roles_exact` : whatever Roles earlier passes have left, an error-free `syncRoles` leaves
one in exactly the grant namespaces that exist, each authorises what the grants that list its
namespace do, and the missing namespaces are returned in order.
-/

namespace Kubepark

open ApiServer Client AccessProfileReconciler Routine

/-! ## What a Role authorises -/

/-- A request for a resource. -/
structure ResourceRequest where
  verb : String
  apiGroup : String := ""
  resource : String
  subresource : String := ""
  name : String := ""

/-- The resource as rules name it. -/
def ResourceRequest.combined (req : ResourceRequest) : String :=
  if req.subresource = "" then req.resource else req.resource ++ "/" ++ req.subresource

/-- Whether a rule matches a request, by the rules of the API server's RBAC authorizer. -/
def PolicyRule.allows (rule : PolicyRule) (req : ResourceRequest) : Bool :=
  rule.verbs.any (fun v => v = "*" || v = req.verb) &&
    rule.apiGroups.any (fun g => g = "*" || g = req.apiGroup) &&
    rule.resources.any (fun res => res = "*" || res = req.combined ||
      (req.subresource ≠ "" && res = "*/" ++ req.subresource)) &&
    (rule.resourceNames.isEmpty || rule.resourceNames.contains req.name)

/-- A Role authorises what one of its rules matches. -/
def Role.authorises (role : Role) (req : ResourceRequest) : Bool :=
  role.spec.rules.any (·.allows req)

theorem mem_rulesByNS {profile : AccessProfile} {ns : String} {rule : PolicyRule} :
    rule ∈ rulesByNS profile ns ↔
      ∃ grant ∈ profile.spec.grants, ns ∈ grant.namespaces ∧ rule ∈ grant.rules := by
  simp only [rulesByNS, List.mem_flatMap, List.mem_filter, decide_eq_true_eq]
  constructor
  · rintro ⟨grant, hgrant, n, ⟨hn, rfl⟩, hrule⟩
    exact ⟨grant, hgrant, hn, hrule⟩
  · rintro ⟨grant, hgrant, hns, hrule⟩
    exact ⟨grant, hgrant, ns, ⟨hns, rfl⟩, hrule⟩

/-! ## Runs -/

/-- The profile a Role is labelled with. -/
def Role.createdFor (role : Role) : Option String :=
  role.metadata.labels.lookup labelProfile

/-- The call leaves the Roles of profiles alone and makes none that looks like them. -/
structure LeavesRoles (op : Call) : Prop where
  names : ∀ ns n, op.target ≠ some (.role, ⟨ns, profileRoleName n⟩)
  labels : ∀ role : Role, op = .create .role role ∨ op = .update .role role →
    Role.createdFor role = none

/-- One step of a run : a pass over a profile, in any order of its map and cut short anywhere, or
a call of anyone else. -/
inductive ProfileStep : Cluster → Cluster → Prop
  | pass {p : AccessProfileReconciler} {name : String} {c c' : Cluster} {t : List (Call × Cluster)}
    (h : (p.reconcile name {}).Visits Step c t c') : ProfileStep c c'
  | other {op : Call} {c : Cluster} (h : LeavesRoles op) : ProfileStep c (handle op c).2

/-- A run from one state to another. -/
def ProfileRun : Cluster → Cluster → Prop :=
  Relation.ReflTransGen ProfileStep

/-- A Role with the name or the label of a profile's has both, and goes at once when it is
deleted. -/
def RolesOwned (c : Cluster) : Prop :=
  ∀ key role, c.find? .role key = some role →
    Role.createdFor role ≠ none ∨ (∃ n, key.name = profileRoleName n) →
    ∃ n, key.name = profileRoleName n ∧ Role.createdFor role = some n ∧ ¬Held role

/-- The calls of a pass, as far as Roles are concerned. -/
inductive RoleCall : Call → Cluster → Prop
  | aside {op : Call} {c : Cluster} (h : ∀ key, op.target ≠ some (.role, key)) : RoleCall op c
  | create {c : Cluster} (profile : AccessProfile) (ns : String) (rules : List PolicyRule) :
    RoleCall (.create .role (buildRole profile ns rules)) c
  | update {c : Cluster} (existing : Role) (profile : AccessProfile) (ns : String)
    (rules : List PolicyRule) (hkey : existing.key = roleKey profile ns)
    (hstored : c.find? .role existing.key = some existing) :
    RoleCall (.update .role
      { existing with
        spec.rules := rules
        metadata.labels :=
          if existing.metadata.labels = [] then (buildRole profile ns rules).metadata.labels
          else existing.metadata.labels }) c
  | delete {c : Cluster} (key : ObjectKey) (site : String) : RoleCall (.delete .role key site) c

theorem roleCall_of_within {op : Call} {ks : List Kind} {c : Cluster} (h : op.Within ks)
    (hks : Kind.role ∉ ks) : RoleCall op c :=
  .aside fun _ ht => hks (h _ ht)

section Steps

variable {op : Call} {c c' : Cluster} {a : Resp Spec Status op}

theorem RolesOwned.aside (hc : RolesOwned c) (hs : Step op c a c') (h : LeavesRoles op) :
    RolesOwned c' := by
  intro key role hrole hfor
  have hkept : c.find? .role key = some role := by
    refine hs.kept_of_marked (fun key labels => labels.lookup labelProfile ≠ none ∨
      ∃ n, key.name = profileRoleName n) (fun key => ∃ n, key.name = profileRoleName n)
      ?_ ?_ ?_ hrole hfor
    · rintro ⟨ns, _⟩ ⟨n, rfl⟩
      exact h.names ns n
    · exact fun role hop hfor => hfor.resolve_left fun hne => hne (h.labels role hop)
    · intro key role hrole hfor
      obtain ⟨n, hname, -⟩ := hc key role hrole hfor
      exact ⟨n, hname⟩
  exact hc key role hkept hfor

theorem RoleCall.rolesOwned (h : RoleCall op c) (hs : Step op c a c') (hc : RolesOwned c) :
    RolesOwned c' := by
  cases h with
  | aside h =>
    refine hc.aside hs ⟨fun ns n => h _, ?_⟩
    rintro role (rfl | rfl)
    · exact absurd rfl (h role.key)
    · exact absurd rfl (h role.key)
  | create profile ns rules =>
    intro key role hrole hfor
    cases hs.written hrole with
    | kept hkept => exact hc key role hkept hfor
    | created o hop hkey _ hnew =>
      cases hop
      subst hkey hnew
      refine ⟨profile.metadata.name, rfl, rfl, ?_⟩
      rintro (h | h)
      · cases h
      · exact h rfl
    | updated _ _ hop | statusUpdated _ _ hop | patched _ _ hop | statusPatched _ _ hop
    | terminated _ _ hop => cases hop
  | update existing profile ns rules hkey hstored =>
    intro key role hrole hfor
    cases hs.written hrole with
    | kept hkept => exact hc key role hkept hfor
    | updated old o hop hkey' hold hnew =>
      cases hop
      subst hkey' hnew
      obtain rfl : existing = old := Option.some.inj (hstored.symm.trans hold)
      have hname : existing.key.name = profileRoleName profile.metadata.name := by rw [hkey]; rfl
      obtain ⟨n, hn, hlabel, hfree⟩ := hc _ existing hold (Or.inr ⟨_, hname⟩)
      refine ⟨n, hn, ?_, hfree⟩
      have hlabels : existing.metadata.labels ≠ [] := by
        intro hnil
        simp [Role.createdFor, hnil] at hlabel
      simpa [Role.createdFor, versioned, updated, hlabels] using hlabel
    | created _ hop | statusUpdated _ _ hop | patched _ _ hop | statusPatched _ _ hop
    | terminated _ _ hop => cases hop
  | delete key' site =>
    intro key role hrole hfor
    cases hs.written hrole with
    | kept hkept => exact hc key role hkept hfor
    | terminated old _ _ hold _ hstays hnew =>
      subst hnew
      have hheld : old.metadata.finalizers ≠ [] := by simpa [KindInfo.graceful] using hstays
      obtain ⟨n, hn, hlabel, hfree⟩ := hc key old hold hfor
      exact absurd (Or.inr hheld) hfree
    | created _ hop | updated _ _ hop | statusUpdated _ _ hop | patched _ _ hop
    | statusPatched _ _ hop => cases hop

end Steps

/-! ## Passes -/

section Passes

variable {profile : AccessProfile} {c : Cluster} {st : Synced}

theorem applyRole_calls (profile : AccessProfile) (ns : String) (rules : List PolicyRule) :
    (applyRole profile ns rules).Always Step RoleCall st c := by
  refine wp_bind.mpr (wp_getOptional.mpr ⟨.aside (by simp [Op.target]), ?_⟩)
  cases hrole : c.find? .role (buildRole profile ns rules).key with
  | none => exact always_createIfAbsent (.create profile ns rules)
  | some role =>
    have hkey : role.key = roleKey profile ns := key_of_find? hrole
    refine wp_ite (fun _ => ?_) fun _ => trivial
    refine (always_update (.update role profile ns rules hkey ?_)).bind fun _ _ _ => trivial
    rw [hkey]
    exact hrole

theorem syncRoles_calls (p : AccessProfileReconciler) (profile : AccessProfile) :
    (p.syncRoles profile).Always Step RoleCall st c := by
  refine (Routine.Always.forEach _ fun ns _ st c => ?_).bind fun _ st c => ?_
  · have hexists : (namespaceExists ns).Always Step RoleCall st c :=
      (always_getOptional (.aside (by simp [Op.target]))).bind fun _ _ _ => trivial
    refine hexists.bind fun b st c => wp_ite (fun _ => ?_) fun _ => trivial
    exact (applyRole_calls profile ns _).bind fun _ _ _ => trivial
  refine (always_list (.aside (by simp [Op.target]))).bind fun roles st c => ?_
  refine Routine.Always.bind (x := Routine.record) trivial fun st _ c => ?_
  refine (Routine.Always.forEach _ fun role _ _ c => ?_).bind fun _ _ _ => trivial
  exact wp_ite (fun _ => trivial) fun _ => always_deleteIfPresent (.delete _ _)

theorem requeueSandboxes_calls (name : String) :
    (requeueSandboxes name).Always Step RoleCall st c :=
  wp_mono (requeueSandboxes_within name) (fun _ _ h => roleCall_of_within h (by simp))
    fun _ _ _ h => h

theorem reconcile_roleCalls (p : AccessProfileReconciler) (name : String) :
    (p.reconcile name).Always Step RoleCall st c := by
  refine (always_getOptional (.aside (by simp [Op.target]))).bind fun profile st c => ?_
  cases profile with
  | none => trivial
  | some profile =>
    have hupdate : ∀ o : AccessProfile, RoleCall (.update .accessProfile o) c :=
      fun o => .aside (by simp [Op.target])
    refine wp_ite (fun _ => ?_) fun _ => ?_
    · refine wp_ite (fun _ => trivial) fun _ => ?_
      refine (always_list (.aside (by simp [Op.target]))).bind fun roles st c => ?_
      refine (Routine.Always.forEach _ fun role _ st c => always_deleteIfPresent (.delete _ _)).bind
        fun _ st c => (requeueSandboxes_calls _).bind fun _ st c => ?_
      exact (always_update (.aside (by simp [Op.target]))).bind fun _ _ _ => trivial
    · refine Routine.Always.bind (wp_ite (fun _ => trivial) fun _ =>
        always_update (hupdate _)) fun profile st c => ?_
      refine (syncRoles_calls p profile).bind fun missing st c => ?_
      refine (requeueSandboxes_calls _).bind fun _ st c => ?_
      exact (always_updateStatusIfPresent (.aside (by simp [Op.target]))).bind fun _ _ _ => trivial

end Passes

/-- In every state of a run Roles have the name and the label of their profile. -/
theorem ProfileRun.rolesOwned {c₀ c : Cluster} (hrun : ProfileRun c₀ c) (h : RolesOwned c₀) :
    RolesOwned c := by
  induction hrun with
  | refl => exact h
  | tail _ hstep ih =>
    cases hstep with
    | @pass p name _ _ t hpass =>
      have hcalls : ∀ e ∈ t, RoleCall e.1 e.2 := hpass.wp (reconcile_roleCalls p name)
      exact hpass.preserves hcalls (fun _ _ _ _ hop hs => hop.rolesOwned hs) ih
    | other hop => exact ih.aside (step_handle _ _) hop

/-! ## One pass -/

section Sync

variable {profile : AccessProfile} {c : Cluster} {st : Synced}

/-- The Role of the profile stands in `ns`, labelled, with the rules granted there. -/
def RoleApplied (profile : AccessProfile) (ns : String) (c : Cluster) : Prop :=
  ∃ role, c.find? .role (roleKey profile ns) = some role ∧
    Role.createdFor role = some profile.metadata.name ∧ role.spec.rules = rulesByNS profile ns

/-- Once the Role in `ns` is applied without error, it is in line; nothing else is touched. -/
theorem ends_applyRole {ns : String} (hown : ∀ role, c.find? .role (roleKey profile ns) = some role →
      Role.createdFor role = some profile.metadata.name ∧ ¬Held role) :
    (applyRole profile ns (rulesByNS profile ns)).Ends Step (fun _ st' c' => st' = st ∧
      RoleApplied profile ns c' ∧ ∀ k key, (⟨k, key⟩ : Kind × ObjectKey) ≠ (.role, roleKey profile ns) →
        c'.find? k key = c.find? k key) st c := by
  refine wp_bind.mpr (wp_getOptional.mpr ⟨trivial, ?_⟩)
  cases hrole : c.find? .role (buildRole profile ns (rulesByNS profile ns)).key with
  | none =>
    refine wp_createIfAbsent.mpr ⟨trivial, fun _ => ⟨rfl, ?_, fun k key hne => ?_⟩⟩
    · exact ⟨_, find?_ensured_of_none hrole, rfl, rfl⟩
    · exact find?_ensured_ne hne
  | some role =>
    have hkey : role.key = roleKey profile ns := key_of_find? hrole
    obtain ⟨hlabel, hfree⟩ := hown role hrole
    have hlabels : role.metadata.labels ≠ [] := by
      intro hnil
      simp [Role.createdFor, hnil] at hlabel
    refine wp_ite (fun _ => ?_) fun hsame => ?_
    · refine wp_bind.mpr (wp_update.mpr ⟨trivial, fun old hold _ => ?_⟩)
      obtain rfl := Option.some.inj (hrole.symm.trans ((congrArg _ hkey.symm).trans hold))
      refine ⟨rfl, ?_, fun k key hne => find?_settle_ne (hkey ▸ hne)⟩
      rw [RoleApplied, ← hkey]
      refine ⟨_, find?_settle_self fun h => absurd (Or.inl h) hfree, ?_, rfl⟩
      simpa [Role.createdFor, versioned, updated, hlabels] using hlabel
    · exact ⟨rfl, ⟨role, hrole, hlabel, not_not.mp hsame⟩, fun _ _ _ => rfl⟩

/-- The state of `syncRoles` that started in `c` over the namespaces `all`, when `todo` is left to
do. -/
structure Resyncing (profile : AccessProfile) (c : Cluster) (all todo : List String) (st : Synced)
    (c' : Cluster) : Prop extends Syncing profile c all todo st c' where
  distinct : st.missing.Nodup
  labelled : ∀ ns ∈ st.applied, RoleApplied profile ns c'
  elsewhere : ∀ key, (∀ ns ∈ st.applied, key ≠ roleKey profile ns) →
    c'.find? .role key = c.find? .role key

theorem roleKey_inj {ns ns' : String} : roleKey profile ns = roleKey profile ns' ↔ ns = ns' := by
  simp [roleKey]

theorem ends_syncRole {all todo : List String} {ns : String} {c' : Cluster} (hown : RolesOwned c)
    (h : Resyncing profile c all (ns :: todo) st c') :
    (syncRole profile ns).Ends Step (fun _ st' c'' => Resyncing profile c all todo st' c'') st c' := by
  obtain ⟨hnew, -⟩ := List.nodup_cons.mp h.nodup
  refine wp_bind.mpr (wp_bind.mpr
    (wp_getOptional.mpr ⟨trivial, ?_⟩))
  rw [h.namespaces]
  refine wp_ite (fun hns => ?_) fun hns => ?_
  · have hown' : ∀ role, c'.find? .role (roleKey profile ns) = some role →
        Role.createdFor role = some profile.metadata.name ∧ ¬Held role := by
      intro role hrole
      rw [h.untouched ns List.mem_cons_self] at hrole
      obtain ⟨n, hn, hlabel, hfree⟩ := hown _ role hrole (Or.inr ⟨_, rfl⟩)
      exact ⟨profileRoleName_inj.mp hn ▸ hlabel, hfree⟩
    refine wp_bind.mpr (wp_post (ends_applyRole hown') ?_)
    rintro _ st' c'' ⟨rfl, happlied, hrest⟩
    have hother : ∀ key, key ≠ roleKey profile ns → c''.find? .role key = c'.find? .role key :=
      fun key hne => hrest _ _ fun he => hne (Prod.mk.inj he).2
    refine wp_modify.mpr ⟨h.toSyncing.apply hns ?_ hrest, h.distinct, ?_, ?_⟩
    · obtain ⟨role, hrole, -, hrules⟩ := happlied
      exact ⟨role, hrole, hrules⟩
    · intro ns' hns'
      by_cases he : ns' = ns
      · exact he ▸ happlied
      · rw [RoleApplied, hother _ fun h' => he (roleKey_inj.mp h')]
        exact h.labelled ns' ((List.mem_append.mp hns').resolve_right (by simpa using he))
    · intro key hkey
      rw [hother key (hkey ns (by simp))]
      exact h.elsewhere key fun ns' hns' => hkey ns' (List.mem_append_left _ hns')
  · refine wp_modify.mpr ⟨h.toSyncing.miss hns, ?_, h.labelled, h.elsewhere⟩
    refine List.nodup_append.mpr ⟨h.distinct, by simp, ?_⟩
    rintro ns₁ hns₁ ns₂ hns₂ rfl
    rw [List.mem_singleton] at hns₂
    exact ((h.missing ns₁).mp hns₁).1.2 (hns₂ ▸ List.mem_cons_self)

/-- What an error-free `syncRoles` from `c` to `c'` comes to, with the namespaces it returns as
missing. -/
structure RolesExact (profile : AccessProfile) (c c' : Cluster) (missing : List String) : Prop where
  /-- A Role for the profile stands in exactly the grant namespaces that exist. -/
  roles : ∀ ns, (∃ role, c'.find? .role (roleKey profile ns) = some role) ↔
    (∃ grant ∈ profile.spec.grants, ns ∈ grant.namespaces) ∧ HasNamespace c ns
  /-- No other Role is labelled with the profile. -/
  labelled : ∀ role ∈ c'.objs .role, Role.createdFor role = some profile.metadata.name →
    ∃ ns, role.key = roleKey profile ns
  /-- It authorises what some grant that lists the namespace does. -/
  authorises : ∀ ns role, c'.find? .role (roleKey profile ns) = some role → ∀ req,
    Role.authorises role req = true ↔ ∃ grant ∈ profile.spec.grants, ns ∈ grant.namespaces ∧
      ∃ rule ∈ grant.rules, rule.allows req = true
  sorted : missing.Pairwise (· ≤ ·)
  nodup : missing.Nodup
  missing : ∀ ns, ns ∈ missing ↔
    (∃ grant ∈ profile.spec.grants, ns ∈ grant.namespaces) ∧ ¬HasNamespace c ns

theorem authorises_of_rules {role : Role} {ns : String} (h : role.spec.rules = rulesByNS profile ns)
    (req : ResourceRequest) : Role.authorises role req = true ↔
      ∃ grant ∈ profile.spec.grants, ns ∈ grant.namespaces ∧
        ∃ rule ∈ grant.rules, rule.allows req = true := by
  rw [Role.authorises, h, List.any_eq_true]
  constructor
  · rintro ⟨rule, hrule, hallows⟩
    obtain ⟨grant, hgrant, hns, hrule⟩ := mem_rulesByNS.mp hrule
    exact ⟨grant, hgrant, hns, rule, hrule, hallows⟩
  · rintro ⟨grant, hgrant, hns, rule, hrule, hallows⟩
    exact ⟨rule, mem_rulesByNS.mpr ⟨grant, hgrant, hns, hrule⟩, hallows⟩

section Collection

variable {all : List String} {c₁ c' : Cluster}

/-- In a namespace with a Role of the profile nothing is collected. -/
theorem role_stays_of_applied (hswept : ∀ key, Swept (matchingLabel labelProfile profile.metadata.name)
      (fun role : Role => role.metadata.namespaceName ∈ st.applied) "syncRoles" c₁ key c')
    {key : ObjectKey} (hns : key.namespaceName ∈ st.applied) :
    c'.find? .role key = c₁.find? .role key := by
  refine (hswept key).kept fun role hrole _ => ?_
  rw [show role.metadata.namespaceName = key.namespaceName from
    congrArg ObjectKey.namespaceName (key_of_find? hrole)]
  exact hns

/-- A labelled Role in another namespace is collected. -/
theorem Resyncing.collected (hown : RolesOwned c) (h : Resyncing profile c all [] st c₁)
    (hswept : ∀ key, Swept (matchingLabel labelProfile profile.metadata.name)
      (fun role : Role => role.metadata.namespaceName ∈ st.applied) "syncRoles" c₁ key c')
    {key : ObjectKey} {old : Role} (hns : key.namespaceName ∉ st.applied)
    (hold : c₁.find? .role key = some old)
    (hlabel : Role.createdFor old = some profile.metadata.name) : c'.find? .role key = none := by
  have hstored : c.find? .role key = some old := by
    rw [← h.elsewhere key fun ns hns' he => hns (he ▸ hns')]
    exact hold
  obtain ⟨n, -, -, hfree⟩ := hown key old hstored (Or.inl (by simp [hlabel]))
  obtain ⟨hlive, hfinalizers⟩ := not_or.mp hfree
  refine (hswept key).free hold (decide_eq_true hlabel) (fun hkeep => hns ?_)
    (by simpa using hlive) (by simpa using hfinalizers) rfl
  rw [← show old.metadata.namespaceName = key.namespaceName from
    congrArg ObjectKey.namespaceName (key_of_find? hold)]
  exact hkeep

/-- What has the name or the label of the profile at the end is in a namespace that was applied. -/
theorem Resyncing.applied_of_stored (hown : RolesOwned c) (h : Resyncing profile c all [] st c₁)
    (hswept : ∀ key, Swept (matchingLabel labelProfile profile.metadata.name)
      (fun role : Role => role.metadata.namespaceName ∈ st.applied) "syncRoles" c₁ key c')
    {key : ObjectKey} {role : Role} (hrole : c'.find? .role key = some role)
    (hfor : Role.createdFor role = some profile.metadata.name ∨ ∃ ns, key = roleKey profile ns) :
    key.namespaceName ∈ st.applied := by
  by_contra hns
  have hunlabelled : ∀ old, c₁.find? .role key = some old →
      Role.createdFor old ≠ some profile.metadata.name := by
    intro old hold hlabel
    exact nomatch (h.collected hown hswept hns hold hlabel).symm.trans hrole
  have hkept := (hswept key).kept fun old hold hl =>
    absurd (of_decide_eq_true hl) (hunlabelled old hold)
  have hold := hkept.symm.trans hrole
  have hsame : c₁.find? .role key = c.find? .role key :=
    h.elsewhere key fun ns hns' he => hns (he ▸ hns')
  refine hunlabelled role hold ?_
  rcases hfor with hlabel | ⟨ns, rfl⟩
  · exact hlabel
  · obtain ⟨n, hn, hlabel, -⟩ := hown _ role (hsame.symm.trans hold) (Or.inr ⟨_, rfl⟩)
    exact profileRoleName_inj.mp hn ▸ hlabel

/-- The collection after the loop. -/
theorem Resyncing.exact (hown : RolesOwned c)
    (hall : ∀ ns, ns ∈ all ↔ ns ∈ grantNamespaces profile)
    (h : Resyncing profile c all [] st c₁)
    (hswept : ∀ key, Swept (matchingLabel labelProfile profile.metadata.name)
      (fun role : Role => role.metadata.namespaceName ∈ st.applied) "syncRoles" c₁ key c') :
    RolesExact profile c c' (st.missing.insertionSort (· ≤ ·)) := by
  have happlied : ∀ ns, ns ∈ st.applied ↔
      (∃ grant ∈ profile.spec.grants, ns ∈ grant.namespaces) ∧ HasNamespace c ns := by
    intro ns
    rw [h.applied, hall, mem_grantNamespaces]
    simp
  have hmissing : ∀ ns, ns ∈ st.missing ↔
      (∃ grant ∈ profile.spec.grants, ns ∈ grant.namespaces) ∧ ¬HasNamespace c ns := by
    intro ns
    rw [h.missing, hall, mem_grantNamespaces]
    simp
  refine ⟨fun ns => ?_, fun role hrole hlabel => ?_, fun ns role hrole => ?_,
    List.pairwise_insertionSort _ _, ?_, fun ns => ?_⟩
  · rw [← happlied]
    constructor
    · rintro ⟨role, hrole⟩
      exact h.applied_of_stored hown hswept hrole (Or.inr ⟨ns, rfl⟩)
    · intro hns
      obtain ⟨role, hrole, -⟩ := h.labelled ns hns
      exact ⟨role, (role_stays_of_applied hswept hns).trans hrole⟩
  · have hstored := mem_objs_iff.mp hrole
    have hns := h.applied_of_stored hown hswept hstored (Or.inl hlabel)
    by_cases hkey : ∃ ns ∈ st.applied, role.key = roleKey profile ns
    · obtain ⟨ns, -, hkey⟩ := hkey
      exact ⟨ns, hkey⟩
    -- Not written in this pass, so it is one of an earlier one.
    rw [role_stays_of_applied hswept hns,
      h.elsewhere _ fun ns hns' he => hkey ⟨ns, hns', he⟩] at hstored
    obtain ⟨n, hname, hlabel', -⟩ := hown _ role hstored (Or.inl (by simp [hlabel]))
    obtain rfl := Option.some.inj (hlabel.symm.trans hlabel')
    refine ⟨role.key.namespaceName, ?_⟩
    rw [roleKey, ← hname]
  · have hns := h.applied_of_stored hown hswept hrole (Or.inr ⟨ns, rfl⟩)
    obtain ⟨role', hrole', -, hrules⟩ := h.labelled ns hns
    rw [role_stays_of_applied hswept hns, hrole'] at hrole
    obtain rfl := Option.some.inj hrole
    exact authorises_of_rules hrules
  · exact (List.perm_insertionSort _ _).nodup_iff.mpr h.distinct
  · rw [(List.perm_insertionSort _ _).mem_iff]
    exact hmissing ns

end Collection

/-- An error-free `syncRoles`. -/
theorem ends_syncRoles (p : AccessProfileReconciler) (hown : RolesOwned c) :
    (p.syncRoles profile).Ends Step (fun missing _ c' => RolesExact profile c c' missing) {} c := by
  have hperm := p.rangeOrder_perm (grantNamespaces profile)
  have hstart : Resyncing profile c (p.rangeOrder (grantNamespaces profile))
      (p.rangeOrder (grantNamespaces profile)) {} c :=
    ⟨⟨hperm.nodup_iff.mpr (nodup_grantNamespaces profile), fun _ h => h, fun _ => rfl,
      fun _ _ => rfl, by simp, by simp, by simp⟩, List.nodup_nil, by simp, fun _ _ => rfl⟩
  refine wp_bind.mpr (wp_post (wp_forEach
    (Resyncing profile c (p.rangeOrder (grantNamespaces profile)))
    (fun ns todo st c' h => ends_syncRole hown h) _ hstart) fun _ st c₁ hdone => ?_)
  refine wp_bind.mpr (wp_list.mpr ⟨trivial, ?_⟩)
  refine wp_bind.mpr (wp_record.mpr ?_)
  refine wp_bind.mpr (wp_post ends_sweep fun _ _ c' hswept => ?_)
  exact hdone.exact hown (fun ns => hperm.mem_iff) hswept

end Sync

/-- A pass of `syncRoles` over `profile` takes `c` to `c'` without error and returns `missing`. -/
def SyncPass (p : AccessProfileReconciler) (profile : AccessProfile) (c : Cluster)
    (missing : List String) (c' : Cluster) : Prop :=
  ∃ t st', (p.syncRoles profile {}).Exec Step c t (.ok missing, st') c'

/-- The Roles of a profile are exact after an error-free `syncRoles`, in every order in which its
map is ranged over and whatever Roles a run of earlier passes, over this and other profiles, under
other grants and cut short anywhere, has left. A run starts without Roles of profiles. -/
theorem profile_roles_exact (p : AccessProfileReconciler) (profile : AccessProfile)
    (c₀ c c' : Cluster) (missing : List String)
    (hroles : ∀ key role, c₀.find? .role key = some role →
      Role.createdFor role = none ∧ ∀ n, key.name ≠ profileRoleName n)
    (hrun : ProfileRun c₀ c) (hpass : SyncPass p profile c missing c') :
    RolesExact profile c c' missing := by
  have hown₀ : RolesOwned c₀ := by
    rintro key role hrole (hlabel | ⟨n, hname⟩)
    · exact absurd (hroles key role hrole).1 hlabel
    · exact absurd hname ((hroles key role hrole).2 n)
  obtain ⟨t, st', hexec⟩ := hpass
  exact (hexec.wp (ends_syncRoles p (hrun.rolesOwned hown₀))).2

namespace Tenants

/-- The profile of `granting` has its Roles; then its grants are edited : one namespace goes, one
that exists and two that do not come in, and two grants name the same namespace. -/
def rolesRegranted : Cluster :=
  (handle (.patch .accessProfile ⟨"", "editor"⟩ fun spec =>
    { spec with
      grants := [⟨["shared", "lab", "zoo"], [{ verbs := ["get"], apiGroups := [""], resources := ["pods"] }]⟩,
        ⟨["lab", "attic"], [{ verbs := ["list"], apiGroups := [""], resources := ["pods"] }]⟩] })
      (runProfile backwards "editor" granting).2).2

theorem profileRun_regranted : ProfileRun granting rolesRegranted := by
  have hpass : (backwards.reconcile "editor" {}).Visits Step granting _ _ :=
    (Prog.exec_run step_handle _ _).visits
  refine (Relation.ReflTransGen.single (.pass hpass)).tail (.other ⟨fun ns n => ?_, ?_⟩)
  · simp [Op.target]
  · rintro role (h | h) <;> cases h

/-- The result of `syncRoles` against the faithful server. -/
def syncRun (profile : AccessProfile) (c : Cluster) :
    (Except ApiError (List String) × Synced) × Cluster :=
  (backwards.syncRoles profile {}).run handle c

end Tenants

/-- After the edit the Roles are those of the new grants, and the missing namespaces are returned in
order. -/
theorem profile_roles_regranted : ∃ profile c',
    Tenants.rolesRegranted.find? .accessProfile ⟨"", "editor"⟩ = some profile ∧
    (Tenants.rolesRegranted.find? .role (roleKey profile "retired")).isSome = true ∧
    SyncPass Tenants.backwards profile Tenants.rolesRegranted ["attic", "zoo"] c' ∧
    RolesExact profile Tenants.rolesRegranted c' ["attic", "zoo"] := by
  have hprofile : (Tenants.rolesRegranted.find? .accessProfile ⟨"", "editor"⟩).any (fun profile =>
      (Tenants.rolesRegranted.find? .role (roleKey profile "retired")).isSome ∧
      (Tenants.syncRun profile Tenants.rolesRegranted).1.1.toOption = some ["attic", "zoo"]) = true := by
    decide +kernel
  obtain ⟨profile, hstored, h⟩ := (Option.any_eq_true _ _).mp hprofile
  obtain ⟨hbefore, hmissing⟩ := of_decide_eq_true h
  have hexec := Prog.exec_run step_handle (Tenants.backwards.syncRoles profile {})
    Tenants.rolesRegranted
  have hok : ((Tenants.backwards.syncRoles profile {}).run handle Tenants.rolesRegranted).1.1 =
      .ok ["attic", "zoo"] := by
    change (Tenants.syncRun profile Tenants.rolesRegranted).1.1 = _
    cases hr : (Tenants.syncRun profile Tenants.rolesRegranted).1.1 with
    | error e => simp [hr, Except.toOption] at hmissing
    | ok missing =>
      rw [hr] at hmissing
      rw [Option.some.inj hmissing]
  have hpass : SyncPass Tenants.backwards profile Tenants.rolesRegranted ["attic", "zoo"]
      (Tenants.syncRun profile Tenants.rolesRegranted).2 :=
    ⟨_, _, (Prod.ext hok rfl : _ = (Except.ok ["attic", "zoo"], _)) ▸ hexec⟩
  refine ⟨profile, _, hstored, hbefore, hpass, ?_⟩
  refine profile_roles_exact Tenants.backwards profile Tenants.granting _ _ _ (fun key role hrole => ?_)
    Tenants.profileRun_regranted hpass
  exact nomatch mem_of_find? hrole

end Kubepark

import Kubepark.AccessProfileController
import Kubepark.RbacTenants

/-!
# A profile whose grants can be applied in part

The AccessProfile controller skips the grant namespaces that do not exist and applies the other
grants. The sandbox controller does not : it creates a RoleBinding in every grant namespace, the
create in a missing one fails, and with it the whole of `reconcileRBAC`, before the collection of
bindings that are granted no more (`held_back_by_missing_namespace`). `grants_agree_iff` : the two
agree exactly when every grant namespace exists and nothing holds the bindings that have to go.
-/

namespace Kubepark

open ApiServer Client Routine

def bindingKey (sb : Sandbox) (ns : String) : ObjectKey :=
  ⟨ns, roleBindingName sb.metadata.name⟩

def profileRoleRef (profile : AccessProfile) : RoleRef :=
  ⟨"rbac.authorization.k8s.io", "Role", profileRoleName profile.metadata.name⟩

/-- The binding of `sb` in `ns` binds its ServiceAccount to the Role of the profile. -/
def Binds (profile : AccessProfile) (sb : Sandbox) (ns : String) (c : Cluster) : Prop :=
  ∃ rb, c.find? .roleBinding (bindingKey sb ns) = some rb ∧
    rb.spec.roleRef = profileRoleRef profile ∧ saSubject sb ∈ rb.spec.subjects

/-- A binding of `sb` in `ns` to another Role can be replaced. -/
def Replaceable (profile : AccessProfile) (sb : Sandbox) (ns : String) (c : Cluster) : Prop :=
  ∀ rb, c.find? .roleBinding (bindingKey sb ns) = some rb →
    rb.spec.roleRef ≠ profileRoleRef profile → ¬Held rb

/-! ## One binding -/

section Apply

variable {profile : AccessProfile} {sb : Sandbox} {ns : String} {c : Cluster} {st : SandboxStatus}

/-- Once the binding of `sb` in `ns` is applied without error, it binds, unless one to another Role
was held back; nothing else is touched. -/
theorem ends_applyRoleBinding
    (hplaced : ∀ rb, c.find? .roleBinding (bindingKey sb ns) = some rb → HasNamespace c ns)
    (hstays : ∀ rb, c.find? .roleBinding (bindingKey sb ns) = some rb → rb.deleting = true →
      rb.metadata.finalizers ≠ []) :
    (applyRoleBinding (buildRoleBinding sb profile ns)).Ends Step (fun _ _ c' =>
      HasNamespace c ns ∧ (Binds profile sb ns c' ↔ Replaceable profile sb ns c) ∧
      ∀ k key, (⟨k, key⟩ : Kind × ObjectKey) ≠ (.roleBinding, bindingKey sb ns) →
        c'.find? k key = c.find? k key) st c := by
  have hadmits : ∀ c' : Cluster, c'.admits .roleBinding (buildRoleBinding sb profile ns) = true →
      HasNamespace c' ns := fun c' h => (admits_iff rfl).mp h
  refine wp_bind.mpr (wp_getOptional.mpr ⟨trivial, ?_⟩)
  cases hrb : c.find? .roleBinding (buildRoleBinding sb profile ns).key with
  | none =>
    refine wp_createIfAbsent.mpr ⟨trivial, fun h => ⟨hadmits c h, ?_, fun k key hne => ?_⟩⟩
    · refine iff_of_true ⟨_, find?_ensured_of_none hrb, rfl, by simp [versioned, created,
        buildRoleBinding]⟩ fun rb h => ?_
      cases hrb.symm.trans h
    · exact find?_ensured_ne hne
  | some rb =>
    have hkey : rb.key = bindingKey sb ns := key_of_find? hrb
    have hreplace : rb.spec.roleRef = profileRoleRef profile → Replaceable profile sb ns c := by
      intro href rb' hrb' hne
      rw [Option.some.inj (hrb'.symm.trans hrb)] at hne
      exact absurd href hne
    refine wp_ite (fun href => ?_) fun href => wp_ite (fun hsubjects => ?_)
      fun hsubjects => ?_
    · refine wp_bind.mpr (wp_deleteIfPresent.mpr ⟨trivial, ?_⟩)
      rw [hkey]
      refine wp_createIfAbsent.mpr ⟨trivial, fun h => ?_⟩
      have hns := hadmits _ h
      rw [HasNamespace, find?_dropped_ne (by simp)] at hns
      refine ⟨hns, ?_, fun k key hne => (find?_ensured_ne hne).trans (find?_dropped_ne hne)⟩
      by_cases hheld : Held rb
      · refine iff_of_false ?_ fun hfree => hfree rb hrb href hheld
        rintro ⟨rb', hrb', href', -⟩
        obtain ⟨o, ho, -, hspec⟩ := find?_dropped_of_held "applyRoleBinding" hrb hheld
        obtain rfl := Option.some.inj ((find?_ensured_of_some ho).symm.trans hrb')
        exact href (hspec ▸ href')
      · obtain ⟨hlive, hfinalizers⟩ := not_or.mp hheld
        have hgone := find?_dropped_of_free "applyRoleBinding" hrb
          (by simpa using hlive) (by simpa using hfinalizers) rfl
        refine iff_of_true ⟨_, find?_ensured_of_none hgone, rfl, ?_⟩ fun rb' hrb' _ => ?_
        · exact List.mem_singleton_self _
        · exact (Option.some.inj (hrb.symm.trans hrb')) ▸ hheld
    · refine wp_bind.mpr (wp_update.mpr ⟨trivial, fun old hold _ => ?_⟩)
      obtain rfl := Option.some.inj (hrb.symm.trans ((congrArg _ hkey.symm).trans hold))
      refine ⟨hplaced rb hrb, iff_of_true ?_ (hreplace (not_not.mp href)),
        fun k key hne => find?_settle_ne (hkey ▸ hne)⟩
      rw [Binds, ← hkey]
      exact ⟨_, find?_settle_self (hstays rb hrb), not_not.mp href, List.mem_singleton_self _⟩
    · refine ⟨hplaced rb hrb, iff_of_true ⟨rb, hrb, not_not.mp href, ?_⟩ (hreplace (not_not.mp href)),
        fun _ _ _ => rfl⟩
      rw [not_not.mp hsubjects]
      exact List.mem_singleton_self _

/-- In a namespace that exists the binding is applied without error. -/
theorem succeeds_applyRoleBinding (hns : HasNamespace c ns) :
    (applyRoleBinding (buildRoleBinding sb profile ns)).Succeeds Faithful (fun _ _ _ => True) st c := by
  have hadmits : ∀ c' : Cluster, HasNamespace c' ns →
      c'.admits .roleBinding (buildRoleBinding sb profile ns) = true := fun c' h => (admits_iff rfl).mpr h
  refine Routine.Succeeds.bind (succeeds_getOptional (Q := fun o _ c' =>
    o = c.find? .roleBinding (bindingKey sb ns) ∧ c' = c) ⟨rfl, rfl⟩) ?_
  rintro _ st c ⟨rfl, rfl⟩
  cases hrb : c.find? .roleBinding (bindingKey sb ns) with
  | none => exact succeeds_createIfAbsent (hadmits c hns) trivial
  | some rb =>
    have hkey : rb.key = bindingKey sb ns := key_of_find? hrb
    refine succeeds_ite (fun _ => ?_) fun _ => succeeds_ite (fun _ => ?_)
      fun _ => succeeds_pure trivial
    · refine Routine.Succeeds.bind (succeeds_deleteIfPresent (Q := fun _ _ c' => HasNamespace c' ns)
        ?_) fun _ _ c' hns' => succeeds_createIfAbsent (hadmits c' hns') trivial
      rw [HasNamespace, find?_dropped_ne (by simp)]
      exact hns
    · refine Routine.Succeeds.bind (succeeds_update (o := rb) (Q := fun _ _ _ => True)
        ((congrArg _ hkey).trans hrb) rfl trivial) fun _ _ _ _ => succeeds_pure trivial

end Apply

/-! ## All of them -/

section Loop

variable {profile : AccessProfile} {sb : Sandbox} {c : Cluster} {st : SandboxStatus}

/-- A binding that is being deleted is there because of a finalizer, and a binding stands in a
namespace that exists. -/
structure BindingsStored (c : Cluster) : Prop where
  placed : ∀ key rb, c.find? .roleBinding key = some rb → HasNamespace c key.namespaceName
  stays : ∀ key rb, c.find? .roleBinding key = some rb → rb.deleting = true →
    rb.metadata.finalizers ≠ []

/-- The state of the loop over the namespaces `all` that started in `c`, when `todo` is left to
do. -/
structure Applying (profile : AccessProfile) (sb : Sandbox) (c : Cluster) (all todo : List String)
    (c' : Cluster) : Prop where
  nodup : todo.Nodup
  subset : ∀ ns ∈ todo, ns ∈ all
  namespaces : ∀ key, c'.find? .namespace key = c.find? .namespace key
  untouched : ∀ ns ∈ todo,
    c'.find? .roleBinding (bindingKey sb ns) = c.find? .roleBinding (bindingKey sb ns)
  applied : ∀ ns ∈ all, ns ∉ todo →
    HasNamespace c ns ∧ (Binds profile sb ns c' ↔ Replaceable profile sb ns c)
  outside : ∀ key, key.namespaceName ∉ all → c'.find? .roleBinding key = c.find? .roleBinding key

theorem ends_applyRoleBindings (hstored : BindingsStored c) :
    (Routine.forEach (grantNamespaces profile) fun ns =>
      applyRoleBinding (buildRoleBinding sb profile ns)).Ends Step
      (fun _ _ c' => Applying profile sb c (grantNamespaces profile) [] c') st c := by
  refine wp_forEach (fun todo _ c' => Applying profile sb c (grantNamespaces profile) todo c')
    ?_ _ ⟨nodup_grantNamespaces profile, fun _ h => h, fun _ => rfl, fun _ _ => rfl,
      fun ns h hn => absurd h hn, fun _ _ => rfl⟩
  intro ns todo st c' h
  obtain ⟨hnew, hnodup⟩ := List.nodup_cons.mp h.nodup
  obtain ⟨hall, hsubset⟩ := List.forall_mem_cons.mp h.subset
  have hrb := h.untouched ns (by simp)
  have hns : HasNamespace c' ns ↔ HasNamespace c ns := by rw [HasNamespace, h.namespaces, HasNamespace]
  have hne : ∀ key : ObjectKey, key.namespaceName ≠ ns →
      (⟨.roleBinding, key⟩ : Kind × ObjectKey) ≠ (.roleBinding, bindingKey sb ns) :=
    fun key hne he => hne (congrArg ObjectKey.namespaceName (Prod.mk.inj he).2)
  refine wp_post (ends_applyRoleBinding (fun rb h' => ?_) fun rb h' => ?_) ?_
  · rw [hrb] at h'
    exact hns.mpr (hstored.placed _ rb h')
  · rw [hrb] at h'
    exact hstored.stays _ rb h'
  rintro _ st c'' ⟨hexists, hbinds, hrest⟩
  refine ⟨hnodup, hsubset, fun key => (hrest _ _ (by simp)).trans (h.namespaces key), ?_, ?_, ?_⟩
  · intro ns' hns'
    rw [hrest _ _ (hne _ fun he => hnew (he ▸ hns'))]
    exact h.untouched ns' (List.mem_cons_of_mem _ hns')
  · intro ns' hall' hdone
    by_cases he : ns' = ns
    · subst he
      refine ⟨hns.mp hexists, hbinds.trans ?_⟩
      rw [Replaceable, hrb, Replaceable]
    · rw [Binds, hrest _ _ (hne _ he)]
      exact h.applied ns' hall' (by simp [he, hdone])
  · intro key hkey
    rw [hrest _ _ (hne key fun he => hkey (he ▸ hall))]
    exact h.outside key hkey

/-- When every grant namespace exists no binding fails. -/
theorem succeeds_applyRoleBindings (hexist : ∀ ns ∈ grantNamespaces profile, HasNamespace c ns) :
    (Routine.forEach (grantNamespaces profile) fun ns =>
      applyRoleBinding (buildRoleBinding sb profile ns)).Succeeds Faithful (fun _ _ _ => True) st c := by
  refine (succeeds_forEach (fun todo _ c' => ∀ ns ∈ todo, HasNamespace c' ns) ?_ _
    hexist).mono fun _ _ _ _ => trivial
  intro ns todo st c' h
  obtain ⟨hns, hrest⟩ := List.forall_mem_cons.mp h
  have hwithin : (applyRoleBinding (buildRoleBinding sb profile ns)).Always Step
      (fun op _ => op.Within [.serviceAccount, .roleBinding]) st c' :=
    wp_mono (applyRoleBinding_calls sb profile (List.mem_singleton_self ns))
      (fun _ _ h => h.within) fun _ _ _ => id
  refine (succeeds_sameOutside (succeeds_applyRoleBinding hns) hwithin).mono fun _ _ c'' h => ?_
  intro ns' hns'
  rw [HasNamespace, h.2.find? (by decide)]
  exact hrest ns' hns'

end Loop

/-! ## The collection -/

section Collect

variable {sb : Sandbox} {keep : List String} {c : Cluster} {st : SandboxStatus}

/-- What has become of the binding under `key` once those outside the namespaces `keep` are
collected. -/
structure CollectedAt (sb : Sandbox) (keep : List String) (c : Cluster) (key : ObjectKey)
    (c' : Cluster) : Prop where
  free : ∀ rb, c.find? .roleBinding key = some rb → key.namespaceName ∉ keep →
    RoleBinding.createdFor rb = some sb.metadata.uid → ¬Held rb → c'.find? .roleBinding key = none
  held : ∀ rb, c.find? .roleBinding key = some rb → key.namespaceName ∉ keep →
    RoleBinding.createdFor rb = some sb.metadata.uid → Held rb →
      ∃ rb', c'.find? .roleBinding key = some rb' ∧
        RoleBinding.createdFor rb' = some sb.metadata.uid
  same : (∀ rb, c.find? .roleBinding key = some rb → key.namespaceName ∈ keep ∨
    RoleBinding.createdFor rb ≠ some sb.metadata.uid) →
      c'.find? .roleBinding key = c.find? .roleBinding key

theorem CollectedAt.congr {key : ObjectKey} {c' c'' : Cluster} (h : CollectedAt sb keep c key c')
    (hsame : c''.find? .roleBinding key = c'.find? .roleBinding key) :
    CollectedAt sb keep c key c'' := by
  refine ⟨?_, ?_, ?_⟩ <;> rw [hsame]
  exacts [h.free, h.held, h.same]

theorem ends_gcRBAC_keep :
    (gcRBAC sb (some keep)).Ends Step (fun _ _ c' => ∀ key, CollectedAt sb keep c key c') st c := by
  refine wp_bind.mpr (wp_list.mpr ⟨trivial, ?_⟩)
  refine wp_post ends_sweep fun _ _ c' hswept key => ?_
  have hdrop : ∀ rb, c.find? .roleBinding key = some rb → key.namespaceName ∉ keep →
      ¬((some keep).getD []).contains rb.metadata.namespaceName = true := by
    intro rb hrb hns
    have hkey : rb.metadata.namespaceName = key.namespaceName :=
      congrArg ObjectKey.namespaceName (key_of_find? hrb)
    simpa [hkey] using hns
  refine ⟨fun rb hrb hns hlabel hfree => ?_, fun rb hrb hns hlabel hheld => ?_, fun hsame => ?_⟩
  · obtain ⟨hlive, hfinalizers⟩ := not_or.mp hfree
    exact (hswept key).free hrb (matchingLabel_iff.mpr hlabel) (hdrop rb hrb hns)
      (by simpa using hlive) (by simpa using hfinalizers) rfl
  · obtain ⟨rb', hrb', hlabels, -⟩ := (hswept key).held hrb (matchingLabel_iff.mpr hlabel)
      (hdrop rb hrb hns) hheld
    refine ⟨rb', hrb', ?_⟩
    rw [RoleBinding.createdFor, hlabels]
    exact hlabel
  · refine (hswept key).kept fun rb hrb hlabel => ?_
    rcases hsame rb hrb with hns | hother
    · have hkey : rb.metadata.namespaceName = key.namespaceName :=
        congrArg ObjectKey.namespaceName (key_of_find? hrb)
      simpa [hkey] using hns
    · exact absurd (matchingLabel_iff.mp hlabel) hother

theorem CollectedAt.of_start {key : ObjectKey} {c₁ c' : Cluster} (h : CollectedAt sb keep c₁ key c')
    (hsame : c₁.find? .roleBinding key = c.find? .roleBinding key) : CollectedAt sb keep c key c' := by
  obtain ⟨hfree, hheld, hsame'⟩ := h
  rw [hsame] at hfree hheld hsame'
  exact ⟨hfree, hheld, hsame'⟩

end Collect

/-! ## The sandbox controller -/

section Rbac

variable {profile : AccessProfile} {sb : Sandbox} {c : Cluster} {st : SandboxStatus}

/-- What `reconcileRBAC` for a sandbox under a profile that permits it has made of the bindings in
`c`, in `c'`. -/
structure Rebinding (profile : AccessProfile) (sb : Sandbox) (c c' : Cluster) : Prop where
  applied : ∀ ns ∈ grantNamespaces profile,
    HasNamespace c ns ∧ (Binds profile sb ns c' ↔ Replaceable profile sb ns c)
  collected : ∀ key, key.namespaceName ∉ grantNamespaces profile →
    CollectedAt sb (grantNamespaces profile) c key c'

/-- A sandbox that may be provisioned under its profile. -/
def credentials (sb : Sandbox) : RBACResult :=
  { serviceAccount := saName sb.metadata.name, ready := true }

/-- The sandbox names a profile that exists, is not being deleted and permits its namespace. -/
structure Permitted (c : Cluster) (sb : Sandbox) (profile : AccessProfile) : Prop where
  named : sb.spec.accessProfile ≠ ""
  stored : c.find? .accessProfile ⟨"", sb.spec.accessProfile⟩ = some profile
  live : profile.deleting = false
  allowed : sb.metadata.namespaceName ∈ profile.spec.allowedNamespaces

theorem Permitted.of_unchanged {c' : Cluster} {profile' : AccessProfile}
    (h : Permitted c sb profile)
    (hstored : c'.find? .accessProfile ⟨"", sb.spec.accessProfile⟩ = some profile')
    (hprofile : Unchanged profile profile') : Permitted c' sb profile' :=
  ⟨h.named, hstored, hprofile.deleting.trans h.live, hprofile.spec.symm ▸ h.allowed⟩

theorem ends_reconcileRBAC_permitted (hpermitted : Permitted c sb profile)
    (hstored : BindingsStored c) : (reconcileRBAC sb).Ends Step
      (fun rbac _ c' => rbac = credentials sb ∧ Rebinding profile sb c c') st c := by
  refine wp_ite (fun h => absurd h hpermitted.named) fun _ => ?_
  refine wp_bind.mpr (wp_getOptional.mpr ⟨trivial, ?_⟩)
  rw [hpermitted.stored]
  refine wp_ite (fun h => absurd hpermitted.allowed h) fun _ => ?_
  refine wp_bind.mpr (wp_createIfAbsent.mpr ⟨trivial, fun _ => ?_⟩)
  let sa := setControllerReference sb (buildServiceAccount sb profile)
  have hsame : ∀ k key, k ≠ .serviceAccount →
      (c.ensured .serviceAccount sa).find? k key = c.find? k key :=
    fun k key hk => find?_ensured_ne fun he => hk (Prod.mk.inj he).1
  have hns : ∀ ns, HasNamespace (c.ensured .serviceAccount sa) ns ↔ HasNamespace c ns := by
    intro ns
    rw [HasNamespace, hsame _ _ (by simp), HasNamespace]
  have hstored₁ : BindingsStored (c.ensured .serviceAccount sa) := by
    refine ⟨fun key rb hrb => ?_, fun key rb hrb => ?_⟩ <;> rw [hsame _ _ (by simp)] at hrb
    · exact (hns _).mpr (hstored.placed key rb hrb)
    · exact hstored.stays key rb hrb
  refine wp_bind.mpr (wp_post (ends_applyRoleBindings hstored₁) ?_)
  intro _ st c₂ happlied
  refine wp_bind.mpr (wp_post ends_gcRBAC_keep ?_)
  intro _ st c' hcollected
  refine ⟨rfl, fun ns hgrant => ?_, fun key hkey => ?_⟩
  · have hkept : c'.find? .roleBinding (bindingKey sb ns) = c₂.find? .roleBinding (bindingKey sb ns) :=
      (hcollected _).same fun _ _ => Or.inl hgrant
    obtain ⟨hexists, hbinds⟩ := happlied.applied ns hgrant List.not_mem_nil
    refine ⟨(hns ns).mp hexists, ?_⟩
    rw [Binds, hkept]
    refine hbinds.trans ?_
    rw [Replaceable, hsame _ _ (by simp), Replaceable]
  · exact (hcollected key).of_start ((happlied.outside key hkey).trans (hsame _ _ (by simp)))

/-- When every grant namespace exists, and that of the sandbox, `reconcileRBAC` does not fail. -/
theorem succeeds_reconcileRBAC (st : SandboxStatus) (hpermitted : Permitted c sb profile)
    (hown : HasNamespace c sb.metadata.namespaceName)
    (hexist : ∀ ns ∈ grantNamespaces profile, HasNamespace c ns) :
    (reconcileRBAC sb).Succeeds Faithful (fun _ _ _ => True) st c := by
  refine succeeds_ite (fun h => absurd h hpermitted.named) fun _ => ?_
  refine Routine.Succeeds.bind (succeeds_getOptional (Q := fun o _ c' => o = some profile ∧ c' = c)
    ⟨hpermitted.stored, rfl⟩) ?_
  rintro _ st c ⟨rfl, rfl⟩
  refine succeeds_ite (fun h => absurd hpermitted.allowed h) fun _ => ?_
  refine Routine.Succeeds.bind (succeeds_createIfAbsent (Q := fun _ _ c' =>
    ∀ ns ∈ grantNamespaces profile, HasNamespace c' ns) ((admits_iff rfl).mpr hown) ?_)
    fun _ st c' hexist' => ?_
  · intro ns hns
    rw [HasNamespace, find?_ensured_ne (by simp)]
    exact hexist ns hns
  refine (succeeds_applyRoleBindings hexist').bind fun _ st c' _ => ?_
  refine (succeeds_gcRBAC sb _).bind fun _ st c' _ => ?_
  refine Routine.Succeeds.bind (succeeds_modify (Q := fun _ _ _ => True) trivial)
    fun _ st c' _ => ?_
  refine Routine.Succeeds.bind (succeeds_modify (Q := fun _ _ _ => True) trivial)
    fun _ st c' _ => succeeds_pure trivial

end Rbac

/-! ## Both controllers -/

/-- Which of the two controllers runs first. -/
inductive RunOrder
  | profileFirst
  | sandboxFirst

/-- A pass of the AccessProfile controller over `name` in which no call fails. -/
def runProfile (p : AccessProfileReconciler) (name : String) (c : Cluster) :
    Except ApiError Result × Cluster :=
  (((p.reconcile name {}).run handle c).1.1, ((p.reconcile name {}).run handle c).2)

/-- `reconcileRBAC` for `sb` in a pass in which no call fails. -/
def runRBAC (sb : Sandbox) (st : SandboxStatus) (c : Cluster) :
    Except ApiError RBACResult × Cluster :=
  (((reconcileRBAC sb st).run handle c).1.1, ((reconcileRBAC sb st).run handle c).2)

/-- Both controllers have run; what `reconcileRBAC` returned. -/
def bothRun (p : AccessProfileReconciler) (sb : Sandbox) (st : SandboxStatus) (c : Cluster) :
    RunOrder → Except ApiError RBACResult × Cluster
  | .profileFirst => runRBAC sb st (runProfile p sb.spec.accessProfile c).2
  | .sandboxFirst =>
    ((runRBAC sb st c).1, (runProfile p sb.spec.accessProfile (runRBAC sb st c).2).2)

/-- The ServiceAccount of `sb` is bound to the Role of the profile in exactly the grant namespaces
that exist, and no binding of the sandbox is left elsewhere. -/
structure GrantsAgree (profile : AccessProfile) (sb : Sandbox) (c : Cluster) : Prop where
  bound : ∀ ns, Binds profile sb ns c ∧ RoleIn profile ns c ↔
    ns ∈ grantNamespaces profile ∧ HasNamespace c ns
  collected : ∀ key rb, c.find? .roleBinding key = some rb →
    RoleBinding.createdFor rb = some sb.metadata.uid ∨ saSubject sb ∈ rb.spec.subjects →
      key.namespaceName ∈ grantNamespaces profile

/-- Every grant namespace exists. A binding of `sb` to another Role can be replaced, and one in a
namespace that is not granted can be found by its label and goes at once when it is deleted. -/
structure Grantable (profile : AccessProfile) (sb : Sandbox) (c : Cluster) : Prop where
  exist : ∀ ns ∈ grantNamespaces profile, HasNamespace c ns
  replaceable : ∀ ns ∈ grantNamespaces profile, Replaceable profile sb ns c
  collectable : ∀ key rb, c.find? .roleBinding key = some rb →
    key.namespaceName ∉ grantNamespaces profile →
    RoleBinding.createdFor rb = some sb.metadata.uid ∨ saSubject sb ∈ rb.spec.subjects →
      RoleBinding.createdFor rb = some sb.metadata.uid ∧ ¬Held rb

section Both

variable {p : AccessProfileReconciler} {profile profile' : AccessProfile} {sb : Sandbox}
  {st : SandboxStatus} {c c₁ c' : Cluster}

theorem WellStored.bindings (h : WellStored c) : BindingsStored c :=
  ⟨fun key rb hrb => h.placed .roleBinding key rb hrb rfl,
    fun key rb hrb => h.stays .roleBinding key rb hrb rfl⟩

theorem BindingsStored.congr {ks : List Kind} (h : BindingsStored c) (hsame : SameOutside ks c c₁)
    (hbindings : Kind.roleBinding ∉ ks) (hnamespaces : Kind.namespace ∉ ks) : BindingsStored c₁ := by
  refine ⟨fun key rb hrb => ?_, fun key rb hrb => ?_⟩ <;> rw [hsame.find? hbindings] at hrb
  · rw [HasNamespace, hsame.find? hnamespaces]
    exact h.placed key rb hrb
  · exact h.stays key rb hrb

/-- What both controllers have made of the bindings and the Roles. -/
structure BothDone (profile : AccessProfile) (sb : Sandbox) (c c' : Cluster) : Prop extends
    Rebinding profile sb c c' where
  roles : ∀ ns ∈ grantNamespaces profile, HasNamespace c ns → RoleIn profile ns c'
  namespaces : ∀ ns, HasNamespace c' ns ↔ HasNamespace c ns

theorem Rebinding.collected_of_grantable (h : Rebinding profile sb c c')
    (hgrantable : Grantable profile sb c) (key : ObjectKey) (rb : RoleBinding)
    (hrb : c'.find? .roleBinding key = some rb)
    (howner : RoleBinding.createdFor rb = some sb.metadata.uid ∨ saSubject sb ∈ rb.spec.subjects) :
    key.namespaceName ∈ grantNamespaces profile := by
  by_contra hns
  have hcollected := h.collected key hns
  by_cases hlabel : ∃ old, c.find? .roleBinding key = some old ∧
      RoleBinding.createdFor old = some sb.metadata.uid
  · obtain ⟨old, hold, hlabel⟩ := hlabel
    have hfree := (hgrantable.collectable key old hold hns (Or.inl hlabel)).2
    exact nomatch (hcollected.free old hold hns hlabel hfree).symm.trans hrb
  · have hkept := hcollected.same fun old hold => Or.inr fun h => hlabel ⟨old, hold, h⟩
    have hold := hkept.symm.trans hrb
    exact hlabel ⟨rb, hold, (hgrantable.collectable key rb hold hns howner).1⟩

/-- From what they have done it follows when they agree. -/
theorem BothDone.grantsAgree_iff (h : BothDone profile sb c c') :
    GrantsAgree profile sb c' ↔ Grantable profile sb c := by
  refine ⟨fun hagree => ⟨fun ns hns => (h.applied ns hns).1, fun ns hns => ?_, ?_⟩,
    fun hgrantable => ⟨fun ns => ?_, ?_⟩⟩
  · obtain ⟨hexists, hbinds⟩ := h.applied ns hns
    exact hbinds.mp ((hagree.bound ns).mpr ⟨hns, (h.namespaces ns).mpr hexists⟩).1
  · intro key rb hrb hns howner
    have hcollected := h.collected key hns
    by_cases hlabel : RoleBinding.createdFor rb = some sb.metadata.uid
    · refine ⟨hlabel, fun hheld => ?_⟩
      obtain ⟨rb', hrb', hlabel'⟩ := hcollected.held rb hrb hns hlabel hheld
      exact hns (hagree.collected key rb' hrb' (Or.inl hlabel'))
    · have hkept := hcollected.same fun rb₁ hrb₁ =>
        Or.inr ((Option.some.inj (hrb.symm.trans hrb₁)) ▸ hlabel)
      exact absurd (hagree.collected key rb (hkept.trans hrb) howner) hns
  · refine ⟨?_, fun ⟨hns, _⟩ => ?_⟩
    · rintro ⟨⟨rb, hrb, -, hsubject⟩, -⟩
      have hns := h.collected_of_grantable hgrantable _ rb hrb (Or.inr hsubject)
      exact ⟨hns, (h.namespaces ns).mpr (hgrantable.exist ns hns)⟩
    · exact ⟨(h.applied ns hns).2.mpr (hgrantable.replaceable ns hns),
        h.roles ns hns (hgrantable.exist ns hns)⟩
  · exact h.collected_of_grantable hgrantable

/-- What the two depend on is the same in `c₁` as in `c`. -/
theorem Rebinding.of_start {ks : List Kind} (h : Rebinding profile' sb c₁ c')
    (hprofile : Unchanged profile profile') (hsame : SameOutside ks c c₁)
    (hbindings : Kind.roleBinding ∉ ks) (hnamespaces : Kind.namespace ∉ ks) :
    Rebinding profile sb c c' := by
  have hgrants := hprofile.grantNamespaces
  have hbinds : ∀ ns, Binds profile' sb ns c' ↔ Binds profile sb ns c' := by
    intro ns
    simp only [Binds, profileRoleRef, hprofile.name]
  have hreplace : ∀ ns, Replaceable profile' sb ns c₁ ↔ Replaceable profile sb ns c := by
    intro ns
    simp only [Replaceable, profileRoleRef, hprofile.name, hsame.find? hbindings]
  refine ⟨fun ns hns => ?_, fun key hkey => ?_⟩
  · obtain ⟨hexists, hiff⟩ := h.applied ns (hgrants ▸ hns)
    rw [HasNamespace, hsame.find? hnamespaces] at hexists
    exact ⟨hexists, (hbinds ns).symm.trans (hiff.trans (hreplace ns))⟩
  · have hcollected := h.collected key (hgrants ▸ hkey)
    rw [hgrants] at hcollected
    exact hcollected.of_start (hsame.find? hbindings key)

theorem Rebinding.of_end {ks : List Kind} (h : Rebinding profile sb c c₁)
    (hsame : SameOutside ks c₁ c') (hbindings : Kind.roleBinding ∉ ks) :
    Rebinding profile sb c c' := by
  refine ⟨fun ns hns => ?_, fun key hkey => (h.collected key hkey).congr (hsame.find? hbindings key)⟩
  rw [Binds, hsame.find? hbindings]
  exact h.applied ns hns

/-- `reconcileRBAC` writes ServiceAccounts and bindings only. -/
theorem runRBAC_sameOutside (sb : Sandbox) (st : SandboxStatus) (c : Cluster) :
    SameOutside [.serviceAccount, .roleBinding] c (runRBAC sb st c).2 := by
  have hexec := Prog.exec_run step_handle (reconcileRBAC sb st) c
  refine hexec.visits.preserves (I := fun c' => SameOutside [.serviceAccount, .roleBinding] c c')
    (hexec.visits.wp (reconcileRBAC_calls sb)) ?_ (SameOutside.refl _ c)
  exact fun op c₁ a c₂ hop hs h => h.trans (hs.sameOutside hop.within)

theorem runProfile_done (hstays : AccessProfileReconciler.RolesStay c)
    (hpermitted : Permitted c sb profile) :
    SameOutside AccessProfileReconciler.kinds c (runProfile p sb.spec.accessProfile c).2 ∧
      (∃ profile', (runProfile p sb.spec.accessProfile c).2.find? .accessProfile
        ⟨"", sb.spec.accessProfile⟩ = some profile' ∧ Unchanged profile profile') ∧
      ∀ ns ∈ grantNamespaces profile, HasNamespace c ns →
        RoleIn profile ns (runProfile p sb.spec.accessProfile c).2 := by
  obtain ⟨_, -, h⟩ := run_of_succeeds (AccessProfileReconciler.succeeds_reconcile p hstays
    hpermitted.stored hpermitted.live rfl)
  exact h

/-- When `reconcileRBAC` has not failed, both have done what they do. -/
theorem bothRun_done (order : RunOrder) (hstored : WellStored c) (hpermitted : Permitted c sb profile)
    {rbac : RBACResult} (hok : (bothRun p sb st c order).1 = .ok rbac) :
    rbac = credentials sb ∧ BothDone profile sb c (bothRun p sb st c order).2 := by
  have hstays : AccessProfileReconciler.RolesStay c :=
    fun key role hrole => hstored.stays .role key role hrole rfl
  cases order with
  | profileFirst =>
    obtain ⟨hsame, ⟨profile₁, hprofile₁, hunchanged⟩, hroles⟩ :=
      runProfile_done (p := p) hstays hpermitted
    have hrbac := runRBAC_sameOutside sb st (runProfile p sb.spec.accessProfile c).2
    obtain ⟨hresult, hrebinding⟩ := run_of_wp (ends_reconcileRBAC_permitted
      (hpermitted.of_unchanged hprofile₁ hunchanged)
      (hstored.bindings.congr hsame (by decide) (by decide))) hok
    refine ⟨hresult, hrebinding.of_start hunchanged hsame (by decide) (by decide), ?_, fun ns => ?_⟩
    · intro ns hgrant hns
      obtain ⟨role, hrole, hrules⟩ := hroles ns hgrant hns
      exact ⟨role, (hrbac.find? (by decide) _).trans hrole, hrules⟩
    · rw [HasNamespace, bothRun, hrbac.find? (by decide), hsame.find? (by decide), HasNamespace]
  | sandboxFirst =>
    have hrbac := runRBAC_sameOutside sb st c
    obtain ⟨hresult, hrebinding⟩ :=
      run_of_wp (ends_reconcileRBAC_permitted hpermitted hstored.bindings) hok
    have hpermitted₁ : Permitted (runRBAC sb st c).2 sb profile :=
      hpermitted.of_unchanged ((hrbac.find? (by decide) _).trans hpermitted.stored) ⟨rfl, rfl, rfl⟩
    have hstays₁ : AccessProfileReconciler.RolesStay (runRBAC sb st c).2 := by
      intro key role hrole
      rw [hrbac.find? (by decide)] at hrole
      exact hstays key role hrole
    obtain ⟨hsame, -, hroles⟩ := runProfile_done (p := p) hstays₁ hpermitted₁
    refine ⟨hresult, hrebinding.of_end hsame (by decide), fun ns hgrant hns => ?_, fun ns => ?_⟩
    · refine hroles ns hgrant ?_
      rw [HasNamespace, hrbac.find? (by decide)]
      exact hns
    · rw [HasNamespace, bothRun, hsame.find? (by decide), hrbac.find? (by decide), HasNamespace]

/-- When every grant namespace exists, `reconcileRBAC` does not fail. -/
theorem bothRun_ok (order : RunOrder) (st : SandboxStatus) (hstored : WellStored c)
    (hpermitted : Permitted c sb profile)
    (hown : HasNamespace c sb.metadata.namespaceName)
    (hexist : ∀ ns ∈ grantNamespaces profile, HasNamespace c ns) :
    ∃ rbac, (bothRun p sb st c order).1 = .ok rbac := by
  cases order with
  | profileFirst =>
    obtain ⟨hsame, ⟨profile₁, hprofile₁, hunchanged⟩, -⟩ := runProfile_done (p := p)
      (fun key role hrole => hstored.stays .role key role hrole rfl) hpermitted
    have hns : ∀ ns, HasNamespace c ns →
        HasNamespace (runProfile p sb.spec.accessProfile c).2 ns := by
      intro ns h
      rw [HasNamespace, hsame.find? (by decide)]
      exact h
    obtain ⟨rbac, hok, -⟩ := run_of_succeeds (succeeds_reconcileRBAC st
      (hpermitted.of_unchanged hprofile₁ hunchanged) (hns _ hown)
      fun ns hgrant => hns ns (hexist ns (hunchanged.grantNamespaces ▸ hgrant)))
    exact ⟨rbac, hok⟩
  | sandboxFirst =>
    obtain ⟨rbac, hok, -⟩ := run_of_succeeds (succeeds_reconcileRBAC st hpermitted hown hexist)
    exact ⟨rbac, hok⟩

end Both

/-- A profile permits a sandbox. Once both controllers have run, in either order and with no other
failure, the sandbox is not held back and bound in exactly the grant namespaces that exist, if and
only if every grant namespace exists and nothing holds the bindings that have to go. -/
theorem grants_agree_iff (p : AccessProfileReconciler) (order : RunOrder) (c : Cluster) (sb : Sandbox)
    (st : SandboxStatus) (profile : AccessProfile) (hstored : WellStored c)
    (hsb : c.find? .sandbox sb.key = some sb) (hpermitted : Permitted c sb profile) :
    ((bothRun p sb st c order).1 = .ok (credentials sb) ∧
      GrantsAgree profile sb (bothRun p sb st c order).2) ↔ Grantable profile sb c := by
  refine ⟨fun ⟨hok, hagree⟩ => ?_, fun hgrantable => ?_⟩
  · exact (bothRun_done order hstored hpermitted hok).2.grantsAgree_iff.mp hagree
  · have hown : HasNamespace c sb.metadata.namespaceName := hstored.placed .sandbox _ sb hsb rfl
    obtain ⟨rbac, hok⟩ := bothRun_ok (p := p) order st hstored hpermitted hown hgrantable.exist
    obtain ⟨rfl, hdone⟩ := bothRun_done order hstored hpermitted hok
    exact ⟨hok, hdone.grantsAgree_iff.mpr hgrantable⟩

theorem wellStored_of_all {c : Cluster} (h : ∀ k, (c.objs k).all (fun o =>
    (!KindInfo.namespaced k || (c.find? .namespace ⟨"", o.metadata.namespaceName⟩).isSome) &&
      (KindInfo.graceful k || !o.deleting || !o.metadata.finalizers.isEmpty)) = true) :
    WellStored c := by
  have hobj : ∀ (k : Kind) (key : ObjectKey) (o : Obj k), c.find? k key = some o → _ :=
    fun k key o ho => List.all_eq_true.mp (h k) o (mem_of_find? ho)
  refine ⟨fun k key o ho hk => ?_, fun k key o ho hk hdeleting => ?_⟩
  · have hchecked := hobj k key o ho
    simp only [hk, Bool.not_true, Bool.false_or, Bool.and_eq_true] at hchecked
    rw [← key_of_find? ho]
    exact hchecked.1
  · have hchecked := hobj k key o ho
    simp only [hk, hdeleting, Bool.not_true, Bool.false_or, Bool.and_eq_true] at hchecked
    simpa using hchecked.2

namespace Tenants

/-- A profile with grants in two namespaces. -/
def editor (first second : String) : AccessProfile :=
  ⟨{ name := "editor" },
    { grants := [⟨[first, second], [{ verbs := ["patch"], apiGroups := ["apps"] }]⟩]
      allowedNamespaces := ["team"] }, {}⟩

/-- The team's sandbox under that profile. -/
def editing : Sandbox :=
  ⟨{ name := "dev", namespaceName := "team", uid := "u1" },
    { template := "base", accessProfile := "editor", owner := { name := "alice" } }, {}⟩

/-- The profile once granted something in the namespace `retired`, and does not any more. -/
def edited (first second : String) : Cluster :=
  .ofObjects (fun
    | .namespace =>
      [⟨{ name := "team" }, (), ()⟩, ⟨{ name := "shared" }, (), ()⟩, ⟨{ name := "lab" }, (), ()⟩,
        ⟨{ name := "retired" }, (), ()⟩]
    | .accessProfile => [editor first second]
    | .sandbox => [editing]
    | .roleBinding => [buildRoleBinding editing (editor first second) "retired"]
    | _ => []) 0

/-- A controller that ranges over its maps backwards. -/
def backwards : AccessProfileReconciler where
  rangeOrder := List.reverse
  rangeOrder_perm := List.reverse_perm

theorem permitted_edited (first second : String) :
    Permitted (edited first second) editing (editor first second) :=
  ⟨by decide, rfl, rfl, by simp [editor, editing]⟩

end Tenants

/-- Both grant namespaces exist : the sandbox is bound in both and no longer in the third. -/
theorem grants_agree_in_both :
    (bothRun Tenants.backwards Tenants.editing {} (Tenants.edited "shared" "lab") .sandboxFirst).1 =
        .ok (credentials Tenants.editing) ∧
      GrantsAgree (Tenants.editor "shared" "lab") Tenants.editing
        (bothRun Tenants.backwards Tenants.editing {} (Tenants.edited "shared" "lab")
          .sandboxFirst).2 := by
  have hstored : WellStored (Tenants.edited "shared" "lab") :=
    wellStored_of_all fun k => by cases k <;> decide +kernel
  have hfresh : (grantNamespaces (Tenants.editor "shared" "lab")).all (fun ns =>
      ((Tenants.edited "shared" "lab").find? .roleBinding (bindingKey Tenants.editing ns)).isNone) =
      true := by decide +kernel
  refine (grants_agree_iff _ _ _ _ _ _ hstored rfl (Tenants.permitted_edited _ _)).mpr
    ⟨by decide +kernel, fun ns hns rb hrb => ?_, fun key rb hrb _ _ => ?_⟩
  · have hnone := Option.isNone_iff_eq_none.mp (List.all_eq_true.mp hfresh ns hns)
    exact nomatch hnone.symm.trans hrb
  · obtain rfl := List.mem_singleton.mp (mem_of_find? hrb)
    exact ⟨rfl, by simp [Held, Object.deleting, buildRoleBinding]⟩

/-- One of two grant namespaces is missing : the sandbox is held back, not bound in the one that
exists, and still bound in a namespace that is not granted. -/
theorem held_back_by_missing_namespace : ∃ (c : Cluster) (sb : Sandbox) (profile : AccessProfile),
    WellStored c ∧ c.find? .sandbox sb.key = some sb ∧ Permitted c sb profile ∧ ∀ order,
      (bothRun Tenants.backwards sb {} c order).1.isOk = false ∧
      (∃ ns ∈ grantNamespaces profile, HasNamespace c ns ∧
        ¬Binds profile sb ns (bothRun Tenants.backwards sb {} c order).2) ∧
      ∃ key rb, (bothRun Tenants.backwards sb {} c order).2.find? .roleBinding key = some rb ∧
        saSubject sb ∈ rb.spec.subjects ∧ key.namespaceName ∉ grantNamespaces profile := by
  refine ⟨Tenants.edited "missing" "lab", Tenants.editing, Tenants.editor "missing" "lab",
    wellStored_of_all fun k => by cases k <;> decide +kernel, rfl, Tenants.permitted_edited _ _, ?_⟩
  have hafter : ∀ order, (bothRun Tenants.backwards Tenants.editing {}
        (Tenants.edited "missing" "lab") order).1.isOk = false ∧
      ((bothRun Tenants.backwards Tenants.editing {} (Tenants.edited "missing" "lab") order).2.find?
        .roleBinding (bindingKey Tenants.editing "lab")).isNone = true ∧
      ((bothRun Tenants.backwards Tenants.editing {} (Tenants.edited "missing" "lab") order).2.find?
        .roleBinding (bindingKey Tenants.editing "retired")).any
          (fun rb => saSubject Tenants.editing ∈ rb.spec.subjects) = true := by
    rintro (_ | _) <;> decide +kernel
  intro order
  obtain ⟨hfails, hunbound, hleft⟩ := hafter order
  obtain ⟨rb, hrb, hsubject⟩ := (Option.any_eq_true _ _).mp hleft
  refine ⟨hfails, ⟨"lab", by decide, by decide +kernel, ?_⟩, _, rb, hrb, of_decide_eq_true hsubject,
    by decide⟩
  rintro ⟨rb', hrb', -⟩
  exact nomatch (Option.isNone_iff_eq_none.mp hunbound).symm.trans hrb'

end Kubepark

import Kubepark.ClusterRuns

/-!
# RoleBindings of different sandboxes

A sandbox's RoleBinding in a grant namespace has a name made of the sandbox's name only; its
owner is the UID in a label, and collection goes by that label. Two sandboxes of one name in
different namespaces that are granted something in the same namespace share the name : the
second takes the binding over and leaves the label, so that its own collection does not find
it any more (`binding_taken_over`). In every run in which a pass finds only its own bindings
under the name, passes leave the bindings of others alone, and a sandbox without grants has
no binding after an error-free pass (`rbac_isolated_run`).
-/

namespace Kubepark

open ApiServer Client SandboxReconciler Routine

/-- The UID of the sandbox a binding was created for. -/
def RoleBinding.createdFor (rb : RoleBinding) : Option String :=
  rb.metadata.labels.lookup labelSandboxUID

theorem matchingLabel_iff {rb : RoleBinding} {uid : String} :
    matchingLabel labelSandboxUID uid rb = true ↔ RoleBinding.createdFor rb = some uid :=
  decide_eq_true_iff

/-- In the namespaces `granted`, the bindings under the name of `sb` are its own. -/
def OwnIn (granted : List String) (sb : Sandbox) (c : Cluster) : Prop :=
  ∀ ns ∈ granted, ∀ rb, c.find? .roleBinding ⟨ns, roleBindingName sb.metadata.name⟩ = some rb →
    RoleBinding.createdFor rb = some sb.metadata.uid

/-- Under the name of its binding, in the namespaces it is granted something in, `sb` finds
only bindings of its own. -/
def BindingsOwn (c : Cluster) (sb : Sandbox) : Prop :=
  OwnIn (grantedNamespaces c sb) sb c

/-- No binding is labelled with the UID of `sb` or names its ServiceAccount. -/
def Unbound (c : Cluster) (sb : Sandbox) : Prop :=
  ∀ key rb, c.find? .roleBinding key = some rb →
    RoleBinding.createdFor rb ≠ some sb.metadata.uid ∧ saSubject sb ∉ rb.spec.subjects

/-- `sb` is the stored sandbox as it was read at some time : its spec may have been edited
since. -/
def Snapshot (c : Cluster) (sb : Sandbox) : Prop :=
  ∃ stored, c.find? .sandbox sb.key = some stored ∧ stored.metadata.uid = sb.metadata.uid

/-! ## Runs of RBAC passes and edits -/

/-- A pass of `reconcileRBAC` for `sb` from `c`, cut short after the calls `t`, leaves `c'`. -/
def PartialRbacPass (sb : Sandbox) (c : Cluster) (t : List (Call × Cluster)) (c' : Cluster) : Prop :=
  ∃ st, (reconcileRBAC sb st).Visits Step c t c'

/-- A pass of `reconcileRBAC` for `sb` takes `c` to `c'` without error. -/
def RbacPass (sb : Sandbox) (c c' : Cluster) : Prop :=
  ∃ st t rbac st', (reconcileRBAC sb st).Exec Step c t (.ok rbac, st') c'

/-- One step of a run : a pass for a sandbox that `Allowed` admits, or a call of anyone else. RoleBindings
are the controller's, and a new sandbox comes without any. -/
inductive RbacStep (Allowed : Cluster → Sandbox → Prop) : Cluster → Cluster → Prop
  | pass {sb : Sandbox} {c c' : Cluster} {t : List (Call × Cluster)}
    (hsb : Snapshot c sb) (hallowed : Allowed c sb)
    (h : PartialRbacPass sb c t c') : RbacStep Allowed c c'
  | edit {op : Call} {c : Cluster} (hop : ∀ key, op.target ≠ some (.roleBinding, key))
    (hnew : ∀ sb : Sandbox, op = .create .sandbox sb → Unbound c sb) :
    RbacStep Allowed c (handle op c).2

/-- A run from one state to another. -/
def RbacRun (Allowed : Cluster → Sandbox → Prop) : Cluster → Cluster → Prop :=
  Relation.ReflTransGen (RbacStep Allowed)

/-! ## The invariant -/

/-- Only bindings created for a sandbox name its ServiceAccount, and they go at once when they
are deleted. -/
structure Tenancy (c : Cluster) : Prop where
  named : ∀ key sb, c.find? .sandbox key = some sb → ∀ rbKey rb,
    c.find? .roleBinding rbKey = some rb → saSubject sb ∈ rb.spec.subjects →
      RoleBinding.createdFor rb = some sb.metadata.uid
  plain : ∀ key sb, c.find? .sandbox key = some sb → ∀ rbKey rb,
    c.find? .roleBinding rbKey = some rb → RoleBinding.createdFor rb = some sb.metadata.uid →
      rb.deleting = false ∧ rb.metadata.finalizers = []

/-- A ServiceAccount stands for the sandbox of its name and namespace. -/
theorem saSubject_eq_iff {sb sb' : Sandbox} : saSubject sb = saSubject sb' ↔ sb.key = sb'.key := by
  simp only [saSubject, Subject.mk.injEq, true_and, saName_inj, Object.key, ObjectKey.mk.injEq]
  exact And.comm

section Steps

variable {sb : Sandbox} {granted : List String} {op : Call} {c c' : Cluster}
  {a : Resp Spec Status op}

/-- What a pass for `sb` can make of the binding under `key`. -/
inductive Rebound (sb : Sandbox) (c : Cluster) (key : ObjectKey) (rb' : RoleBinding) : Prop
  | kept (h : c.find? .roleBinding key = some rb')
  | created (hown : RoleBinding.createdFor rb' = some sb.metadata.uid)
    (hsubjects : rb'.spec.subjects = [saSubject sb]) (hlive : rb'.deleting = false)
    (hfinalizers : rb'.metadata.finalizers = [])
  | updated (rb : RoleBinding) (h : c.find? .roleBinding key = some rb)
    (hown : RoleBinding.createdFor rb = some sb.metadata.uid)
    (hlabels : rb'.metadata.labels = rb.metadata.labels)
    (hsubjects : rb'.spec.subjects = [saSubject sb]) (hdeleting : rb'.deleting = rb.deleting)
    (hfinalizers : rb'.metadata.finalizers = rb.metadata.finalizers)
  | terminated (rb : RoleBinding) (h : c.find? .roleBinding key = some rb)
    (hown : RoleBinding.createdFor rb = some sb.metadata.uid)
    (hlabels : rb'.metadata.labels = rb.metadata.labels)
    (hsubjects : rb'.spec.subjects = rb.spec.subjects)
    (hstays : rb.metadata.finalizers ≠ [])

theorem rebound (h : RbacCall sb granted op c) (hs : Step op c a c') (hown : OwnIn granted sb c)
    {key : ObjectKey} {rb' : RoleBinding} (hrb' : c'.find? .roleBinding key = some rb') :
    Rebound sb c key rb' := by
  cases hs.written hrb' with
  | kept hold => exact .kept hold
  | created o hop hkey hnone hnew =>
    subst hop hnew
    cases h with
    | read h => cases h
    | create => exact .created rfl rfl rfl rfl
  | updated old o hop hkey hold hnew =>
    subst hop hnew
    cases h with
    | read h => cases h
    | update existing ns hns hkey' hstored =>
      have hsame : existing = old := Option.some.inj (hstored.symm.trans (hkey ▸ hold))
      subst hsame
      exact .updated existing hold (hown ns hns existing (hkey' ▸ hstored)) rfl rfl rfl rfl
  | statusUpdated old o hop | patched old o hop | statusPatched old o hop =>
    subst hop
    cases h with
    | read h => cases h
  | terminated old site hop hold hlive hstays hnew =>
    have hfinalizers : old.metadata.finalizers ≠ [] := by
      simpa [KindInfo.graceful] using hstays
    subst hop hnew
    refine .terminated old hold ?_ rfl rfl hfinalizers
    cases h with
    | read h => cases h
    | replace existing ns hns hkey hstored =>
      rw [← Option.some.inj (hstored.symm.trans hold)]
      exact hown ns hns existing (hkey ▸ hstored)
    | collect rb hlabel hstored =>
      rw [← Option.some.inj (hstored.symm.trans hold)]
      exact matchingLabel_iff.mp hlabel

theorem OwnIn.step (hown : OwnIn granted sb c) (h : RbacCall sb granted op c)
    (hs : Step op c a c') : OwnIn granted sb c' := by
  intro ns hns rb' hrb'
  cases rebound h hs hown hrb' with
  | kept h => exact hown ns hns rb' h
  | created hown' => exact hown'
  | updated rb _ hown' hlabels | terminated rb _ hown' hlabels =>
    unfold RoleBinding.createdFor
    rw [hlabels]
    exact hown'

/-- A pass for `sb` leaves the bindings of others as they are. -/
theorem others_step (h : RbacCall sb granted op c) (hs : Step op c a c')
    (hown : OwnIn granted sb c) {key : ObjectKey} {rb : RoleBinding}
    (hrb : c.find? .roleBinding key = some rb)
    (hother : RoleBinding.createdFor rb ≠ some sb.metadata.uid) :
    c'.find? .roleBinding key = some rb := by
  by_cases ht : op.target = some (.roleBinding, key)
  · cases h with
    | read h => exact nomatch h.symm.trans ht
    | serviceAccount => cases ht
    | create profile ns hns => exact hs.keeps (fun _ _ _ => ⟨_, rfl⟩) hrb
    | update existing ns hns hkey hstored | replace existing ns hns hkey hstored =>
      have hsame : existing.key = key := congrArg Prod.snd (Option.some.inj ht)
      obtain rfl := Option.some.inj (hstored.symm.trans (hsame ▸ hrb))
      exact absurd (hown ns hns existing (hkey ▸ hstored)) hother
    | collect rb' hlabel hstored =>
      have hsame : rb'.key = key := congrArg Prod.snd (Option.some.inj ht)
      obtain rfl := Option.some.inj (hstored.symm.trans (hsame ▸ hrb))
      exact absurd (matchingLabel_iff.mp hlabel) hother
  · exact (hs.find? ht).trans hrb

theorem Tenancy.step (hc : Tenancy c) (hsb : Snapshot c sb)
    (h : RbacCall sb granted op c) (hs : Step op c a c') (hown : OwnIn granted sb c) :
    Tenancy c' := by
  have hsandboxes := (hs.sameOutside h.within).find? (show Kind.sandbox ∉ _ by decide)
  have hself : ∀ key sb', c.find? .sandbox key = some sb' → saSubject sb' ∈ [saSubject sb] →
      sb'.metadata.uid = sb.metadata.uid := by
    intro key sb' hsb' hmem
    obtain ⟨stored, hstored, huid⟩ := hsb
    have hkeys := saSubject_eq_iff.mp (List.mem_singleton.mp hmem)
    rw [← key_of_find? hsb', hkeys] at hsb'
    rw [Option.some.inj (hsb'.symm.trans hstored), huid]
  refine ⟨fun key sb' hsb' rbKey rb' hrb' hmem => ?_, fun key sb' hsb' rbKey rb' hrb' hlabel => ?_⟩
  · rw [hsandboxes] at hsb'
    cases rebound h hs hown hrb' with
    | kept h => exact hc.named key sb' hsb' rbKey rb' h hmem
    | created hown' hsubjects =>
      rw [hself key sb' hsb' (hsubjects ▸ hmem)]
      exact hown'
    | updated rb _ hown' hlabels hsubjects =>
      rw [hself key sb' hsb' (hsubjects ▸ hmem), RoleBinding.createdFor, hlabels]
      exact hown'
    | terminated rb h _ hlabels hsubjects =>
      rw [RoleBinding.createdFor, hlabels]
      exact hc.named key sb' hsb' rbKey rb h (hsubjects ▸ hmem)
  · rw [hsandboxes] at hsb'
    cases rebound h hs hown hrb' with
    | kept h => exact hc.plain key sb' hsb' rbKey rb' h hlabel
    | created _ _ hlive hfinalizers => exact ⟨hlive, hfinalizers⟩
    | updated rb h _ hlabels _ hdeleting hfinalizers =>
      rw [RoleBinding.createdFor, hlabels] at hlabel
      rw [hdeleting, hfinalizers]
      exact hc.plain key sb' hsb' rbKey rb h hlabel
    | terminated rb h _ hlabels _ hstays =>
      rw [RoleBinding.createdFor, hlabels] at hlabel
      exact absurd (hc.plain key sb' hsb' rbKey rb h hlabel).2 hstays

/-- A call that writes no binding and creates no sandbox but one without bindings. -/
theorem Tenancy.edit (hc : Tenancy c) (hs : Step op c a c')
    (hop : ∀ key, op.target ≠ some (.roleBinding, key))
    (hnew : ∀ sb : Sandbox, op = .create .sandbox sb → Unbound c sb) : Tenancy c' := by
  have hbindings : ∀ key, c'.find? .roleBinding key = c.find? .roleBinding key :=
    fun key => hs.find? (hop key)
  refine ⟨fun key sb' hsb' rbKey rb hrb hmem => ?_, fun key sb' hsb' rbKey rb hrb hlabel => ?_⟩
  · rw [hbindings] at hrb
    rcases sandbox_origin hs hsb' with ⟨sb, hsb, huid⟩ | ⟨o, ho, hkey, huid⟩
    · rw [saSubject_eq_iff.mpr ((key_of_find? hsb').trans (key_of_find? hsb).symm)] at hmem
      rw [huid]
      exact hc.named key sb hsb rbKey rb hrb hmem
    · rw [saSubject_eq_iff.mpr ((key_of_find? hsb').trans hkey.symm)] at hmem
      exact absurd hmem (hnew o ho rbKey rb hrb).2
  · rw [hbindings] at hrb
    rcases sandbox_origin hs hsb' with ⟨sb, hsb, huid⟩ | ⟨o, ho, hkey, huid⟩
    · rw [huid] at hlabel
      exact hc.plain key sb hsb rbKey rb hrb hlabel
    · rw [huid] at hlabel
      exact absurd hlabel (hnew o ho rbKey rb hrb).1

end Steps

/-! ## Passes -/

section Passes

variable {sb : Sandbox} {c c' : Cluster} {t : List (Call × Cluster)}

theorem PartialRbacPass.calls (h : PartialRbacPass sb c t c') :
    ∀ e ∈ t, RbacCall sb (grantedNamespaces c sb) e.1 e.2 := by
  obtain ⟨st, h⟩ := h
  exact h.wp (reconcileRBAC_calls sb)

/-- A pass that finds only its own bindings leaves those of others as they are. -/
theorem PartialRbacPass.others (h : PartialRbacPass sb c t c') (hown : BindingsOwn c sb)
    {key : ObjectKey} {rb : RoleBinding} (hrb : c.find? .roleBinding key = some rb)
    (hother : RoleBinding.createdFor rb ≠ some sb.metadata.uid) :
    c'.find? .roleBinding key = some rb := by
  have hcalls := h.calls
  obtain ⟨st, h⟩ := h
  refine (h.preserves (I := fun c₁ => c₁.find? .roleBinding key = some rb ∧
    OwnIn (grantedNamespaces c sb) sb c₁) hcalls ?_ ⟨hrb, hown⟩).1
  rintro op c₁ a c₂ hcall hs ⟨hrb₁, hown₁⟩
  exact ⟨others_step hcall hs hown₁ hrb₁ hother, hown₁.step hcall hs⟩

theorem PartialRbacPass.tenancy (h : PartialRbacPass sb c t c') (hown : BindingsOwn c sb)
    (hsb : Snapshot c sb) (hc : Tenancy c) : Tenancy c' ∧ Snapshot c' sb := by
  have hcalls := h.calls
  obtain ⟨st, h⟩ := h
  refine (h.preserves (I := fun c₁ => (Tenancy c₁ ∧ Snapshot c₁ sb) ∧
    OwnIn (grantedNamespaces c sb) sb c₁) hcalls ?_ ⟨⟨hc, hsb⟩, hown⟩).1
  rintro op c₁ a c₂ hcall hs ⟨⟨hc₁, hsb₁⟩, hown₁⟩
  have hsandbox := (hs.sameOutside hcall.within).find? (show Kind.sandbox ∉ _ by decide) sb.key
  refine ⟨⟨hc₁.step hsb₁ hcall hs hown₁, ?_⟩, hown₁.step hcall hs⟩
  obtain ⟨stored, hstored, huid⟩ := hsb₁
  exact ⟨stored, hsandbox.trans hstored, huid⟩

/-- The bindings labelled with the UID of `sb` go at once when they are deleted. -/
def BindingsPlain (c : Cluster) (sb : Sandbox) : Prop :=
  ∀ key rb, c.find? .roleBinding key = some rb →
    RoleBinding.createdFor rb = some sb.metadata.uid →
      rb.deleting = false ∧ rb.metadata.finalizers = []

/-- No binding is labelled with the UID of `sb`. -/
def Collected (c : Cluster) (sb : Sandbox) : Prop :=
  ∀ key rb, c.find? .roleBinding key = some rb →
    RoleBinding.createdFor rb ≠ some sb.metadata.uid

/-- A collection that keeps nothing. -/
theorem ends_gcRBAC_collected {σ : Type} {st : σ} {keep : Option (List String)}
    (hkeep : keep.getD [] = []) (hplain : BindingsPlain c sb) :
    (gcRBAC sb keep).Ends Step (fun _ _ c' => Collected c' sb) st c := by
  refine wp_bind.mpr (wp_list.mpr ⟨trivial, ?_⟩)
  rw [hkeep]
  refine wp_post ends_sweep fun _ _ c' hswept key rb hrb hlabel => ?_
  by_cases hselected : ∃ old, c.find? .roleBinding key = some old ∧
      RoleBinding.createdFor old = some sb.metadata.uid
  · obtain ⟨old, hold, hselected⟩ := hselected
    obtain ⟨hlive, hfinalizers⟩ := hplain key old hold hselected
    have hgone := (hswept key).free hold (matchingLabel_iff.mpr hselected) (by simp) hlive
      hfinalizers rfl
    exact nomatch hgone.symm.trans hrb
  · have hkept := (hswept key).kept fun old hold h =>
      absurd ⟨old, hold, matchingLabel_iff.mp h⟩ hselected
    exact hselected ⟨rb, hkept.symm.trans hrb, hlabel⟩

/-- An error-free pass for a sandbox that is granted nothing leaves no binding with its UID. -/
theorem ends_reconcileRBAC_ungranted {st : SandboxStatus} (hgranted : grantedNamespaces c sb = [])
    (hplain : BindingsPlain c sb) :
    (reconcileRBAC sb).Ends Step (fun _ _ c' => Collected c' sb) st c := by
  have hwithout : ∀ status reason message ready,
      (withoutCredentials sb status reason message ready).Ends Step
        (fun _ _ c' => Collected c' sb) st c :=
    fun _ _ _ _ => wp_bind.mpr (ends_gcRBAC_collected rfl hplain)
  unfold grantedNamespaces at hgranted
  refine wp_ite (fun _ => hwithout _ _ _ _) fun hname => ?_
  rw [if_neg hname] at hgranted
  refine wp_bind.mpr (wp_getOptional.mpr ⟨trivial, ?_⟩)
  cases hprofile : c.find? Kind.accessProfile ⟨"", sb.spec.accessProfile⟩ with
  | none => exact hwithout _ _ _ _
  | some profile =>
    refine wp_ite (fun _ => hwithout _ _ _ _) fun hpermitted => ?_
    simp only [hprofile, hpermitted, ↓reduceIte] at hgranted
    refine wp_bind.mpr (wp_createIfAbsent.mpr ⟨trivial, fun _ => ?_⟩)
    rw [hgranted]
    refine wp_bind.mpr (wp_pure.mpr ?_)
    refine wp_bind.mpr (ends_gcRBAC_collected rfl fun key rb hrb => hplain key rb ?_)
    unfold ensured at hrb
    split at hrb
    · exact hrb
    · rwa [find?_write_ne _ _ _ (by simp)] at hrb

end Passes

/-- In every run in which a pass finds only its own bindings under the name of its sandbox, a
pass, wherever it is cut short, leaves the bindings created for others as they are, and after
an error-free pass for a sandbox whose profile is missing, empty or not permitted no binding
in any namespace names its ServiceAccount. A run starts without bindings. -/
theorem rbac_isolated_run (c₀ c : Cluster) (hbindings : ∀ key, c₀.find? .roleBinding key = none)
    (hrun : RbacRun BindingsOwn c₀ c) (sb : Sandbox) (hsb : Snapshot c sb)
    (hown : BindingsOwn c sb) :
    (∀ t c', PartialRbacPass sb c t c' → ∀ key rb, c.find? .roleBinding key = some rb →
      RoleBinding.createdFor rb ≠ some sb.metadata.uid → c'.find? .roleBinding key = some rb) ∧
    ∀ c', RbacPass sb c c' → grantedNamespaces c sb = [] →
      ∀ rb ∈ c'.objs .roleBinding, saSubject sb ∉ rb.spec.subjects := by
  have hc : Tenancy c := by
    clear hsb hown
    induction hrun with
    | refl =>
      refine ⟨fun _ _ _ key rb hrb => ?_, fun _ _ _ key rb hrb => ?_⟩
      · exact nomatch (hbindings key).symm.trans hrb
      · exact nomatch (hbindings key).symm.trans hrb
    | tail _ hstep ih =>
      cases hstep with
      | pass hsb hown h => exact (h.tenancy hown hsb ih).1
      | edit hop hnew => exact ih.edit (step_handle _ _) hop hnew
  refine ⟨fun t c' h key rb hrb hother => h.others hown hrb hother, ?_⟩
  rintro c' ⟨st, t, rbac, st', hexec⟩ hgranted rb hrb hmem
  obtain ⟨hc', stored', hstored', huid'⟩ := PartialRbacPass.tenancy ⟨st, hexec.visits⟩ hown hsb hc
  obtain ⟨stored, hstored, huid⟩ := hsb
  have hrb' := mem_objs_iff.mp hrb
  have hplain : BindingsPlain c sb := by
    intro key rb hrb hlabel
    exact hc.plain _ stored hstored key rb hrb (huid ▸ hlabel)
  have hcollected : Collected c' sb :=
    (hexec.wp (ends_reconcileRBAC_ungranted hgranted hplain)).2
  have hsubject : saSubject stored' = saSubject sb := saSubject_eq_iff.mpr (key_of_find? hstored')
  refine hcollected _ rb hrb' ?_
  rw [← huid']
  exact hc'.named _ stored' hstored' _ rb hrb' (hsubject ▸ hmem)

/-! ## Two tenants with a sandbox of the same name -/

namespace Tenants

/-- Lets the sandboxes of both tenants read pods in a shared namespace. -/
def reader : AccessProfile :=
  ⟨{ name := "reader" },
    { grants := [⟨["shared"], [{ verbs := ["get"], apiGroups := [""], resources := ["pods"] }]⟩]
      allowedNamespaces := ["team", "guests"] }, {}⟩

/-- The sandbox `dev` of a tenant. -/
def dev (ns uid : String) : Sandbox :=
  ⟨{ name := "dev", namespaceName := ns, uid := uid },
    { template := "base", accessProfile := "reader", owner := { name := ns } }, {}⟩

def cluster : Cluster :=
  .ofObjects (fun
    | .namespace =>
      [⟨{ name := "team" }, (), ()⟩, ⟨{ name := "guests" }, (), ()⟩, ⟨{ name := "shared" }, (), ()⟩]
    | .accessProfile => [reader]
    | .sandbox => [dev "team" "u1", dev "guests" "u2"]
    | _ => []) 0

/-- The result of `reconcileRBAC` against the faithful server. -/
def rbacRun (sb : Sandbox) (c : Cluster) : (Except ApiError RBACResult × SandboxStatus) × Cluster :=
  (reconcileRBAC sb {}).run handle c

/-- The pass for a sandbox. -/
def pass (sb : Sandbox) (c : Cluster) : Cluster :=
  (rbacRun sb c).2

/-- The profile is taken off a sandbox. -/
def revoked (key : ObjectKey) (c : Cluster) : Cluster :=
  (handle (.patch .sandbox key fun spec => { spec with accessProfile := "" }) c).2

theorem rbacPass_pass {sb : Sandbox} {c : Cluster} (h : (rbacRun sb c).1.1.isOk = true) :
    RbacPass sb c (pass sb c) := by
  have hexec := Prog.exec_run step_handle (reconcileRBAC sb {}) c
  cases hr : (rbacRun sb c).1.1 with
  | error e =>
    rw [hr] at h
    cases h
  | ok rbac =>
    have hresult : (rbacRun sb c).1 = (.ok rbac, (rbacRun sb c).1.2) := Prod.ext hr rfl
    refine ⟨{}, (reconcileRBAC sb {}).trace handle c, rbac, (rbacRun sb c).1.2, ?_⟩
    rw [← hresult]
    exact hexec

theorem rbacStep_pass {Allowed : Cluster → Sandbox → Prop} {sb : Sandbox} {c : Cluster}
    (hsb : c.find? .sandbox sb.key = some sb) (hallowed : Allowed c sb) :
    RbacStep Allowed c (pass sb c) :=
  .pass ⟨sb, hsb, rfl⟩ hallowed ⟨{}, (Prog.exec_run step_handle (reconcileRBAC sb {}) c).visits⟩

theorem rbacStep_revoked {Allowed : Cluster → Sandbox → Prop} (key : ObjectKey) (c : Cluster) :
    RbacStep Allowed c (revoked key c) :=
  .edit (fun key' => by simp [Op.target]) fun sb h => by cases h

/-- The state after the pass for the team's sandbox : it has its binding. -/
def bound : Cluster :=
  pass (dev "team" "u1") cluster

end Tenants

/-- The team's sandbox gets its binding, and loses it with its profile. -/
theorem rbac_isolated_after_revocation :
    (Tenants.bound.objs .roleBinding).any
      (fun rb => saSubject (Tenants.dev "team" "u1") ∈ rb.spec.subjects) = true ∧
    ∃ sb c', (Tenants.revoked ⟨"team", "dev"⟩ Tenants.bound).find? .sandbox ⟨"team", "dev"⟩ = some sb ∧
      RbacPass sb (Tenants.revoked ⟨"team", "dev"⟩ Tenants.bound) c' ∧
      ∀ rb ∈ c'.objs .roleBinding, saSubject sb ∉ rb.spec.subjects := by
  have hafter : ((Tenants.revoked ⟨"team", "dev"⟩ Tenants.bound).find? .sandbox ⟨"team", "dev"⟩).any
      (fun sb => sb.spec.accessProfile = "" ∧ (Tenants.rbacRun sb
        (Tenants.revoked ⟨"team", "dev"⟩ Tenants.bound)).1.1.isOk) = true := by decide +kernel
  obtain ⟨sb, hsb, h⟩ := (Option.any_eq_true _ _).mp hafter
  obtain ⟨hprofile, hok⟩ := of_decide_eq_true h
  have hpass := Tenants.rbacPass_pass hok
  have hgranted : grantedNamespaces (Tenants.revoked ⟨"team", "dev"⟩ Tenants.bound) sb = [] :=
    if_pos hprofile
  refine ⟨by decide +kernel, sb, _, hsb, hpass, ?_⟩
  refine (rbac_isolated_run Tenants.cluster _ (fun _ => rfl) ?_ sb ⟨sb, key_of_find? hsb ▸ hsb, rfl⟩ ?_).2
    _ hpass hgranted
  · refine (Relation.ReflTransGen.single (Tenants.rbacStep_pass rfl ?_)).tail
      (Tenants.rbacStep_revoked _ _)
    exact fun ns _ rb hrb => nomatch hrb
  · intro ns hns
    rw [hgranted] at hns
    cases hns

/-- The pass for the guests' sandbox after that. -/
def Tenants.takenOver : Cluster :=
  Tenants.pass (Tenants.dev "guests" "u2") Tenants.bound

/-- The guests' sandbox loses its profile. -/
def Tenants.guestsRevoked : Cluster :=
  Tenants.revoked ⟨"guests", "dev"⟩ Tenants.takenOver

/-- The guests' sandbox takes over the binding of the team's, which has the same name; when the
guests' profile is taken away their sandbox keeps the binding. -/
theorem binding_taken_over : ∃ c₀ c, (∀ key, c₀.find? .roleBinding key = none) ∧
    RbacRun (fun _ _ => True) c₀ c ∧
    (∃ sb c' key rb, c.find? .sandbox sb.key = some sb ∧ RbacPass sb c c' ∧
      c.find? .roleBinding key = some rb ∧ RoleBinding.createdFor rb ≠ some sb.metadata.uid ∧
      ∃ rb', c'.find? .roleBinding key = some rb' ∧ rb'.spec.subjects ≠ rb.spec.subjects) ∧
    ∃ d, RbacRun (fun _ _ => True) c₀ d ∧ ∃ sb d', d.find? .sandbox sb.key = some sb ∧
      RbacPass sb d d' ∧ grantedNamespaces d sb = [] ∧
      ∃ rb ∈ d'.objs .roleBinding, saSubject sb ∈ rb.spec.subjects := by
  have hdev : Tenants.bound.find? .sandbox (Tenants.dev "guests" "u2").key =
      some (Tenants.dev "guests" "u2") := rfl
  have hbefore : (Tenants.bound.find? .roleBinding ⟨"shared", "kubepark-sb-dev"⟩).any (fun rb =>
      RoleBinding.createdFor rb = some "u1" ∧
        rb.spec.subjects = [saSubject (Tenants.dev "team" "u1")]) = true := by decide +kernel
  have htaken : (Tenants.takenOver.find? .roleBinding ⟨"shared", "kubepark-sb-dev"⟩).any (fun rb =>
      rb.spec.subjects = [saSubject (Tenants.dev "guests" "u2")]) = true := by decide +kernel
  have hrevoked : (Tenants.guestsRevoked.find? .sandbox ⟨"guests", "dev"⟩).any (fun sb =>
      sb.spec.accessProfile = "" ∧ (Tenants.rbacRun sb Tenants.guestsRevoked).1.1.isOk ∧
        ((Tenants.pass sb Tenants.guestsRevoked).objs .roleBinding).any
          (fun rb => saSubject sb ∈ rb.spec.subjects)) = true := by decide +kernel
  obtain ⟨rb, hrb, h⟩ := (Option.any_eq_true _ _).mp hbefore
  obtain ⟨hlabel, hsubjects⟩ := of_decide_eq_true h
  obtain ⟨rb', hrb', hsubjects'⟩ := (Option.any_eq_true _ _).mp htaken
  obtain ⟨sb, hsb, h⟩ := (Option.any_eq_true _ _).mp hrevoked
  obtain ⟨hprofile, hok, hnamed⟩ := of_decide_eq_true h
  obtain ⟨left, hleft, hmem⟩ := List.any_eq_true.mp hnamed
  have hrun : RbacRun (fun _ _ => True) Tenants.cluster Tenants.bound :=
    .single (Tenants.rbacStep_pass rfl trivial)
  refine ⟨Tenants.cluster, Tenants.bound, fun _ => rfl, hrun,
    ⟨Tenants.dev "guests" "u2", Tenants.takenOver, _, rb, hdev,
      Tenants.rbacPass_pass (by decide +kernel), hrb, ?_, rb', hrb', ?_⟩,
    Tenants.guestsRevoked, ?_, sb, _, key_of_find? hsb ▸ hsb, Tenants.rbacPass_pass hok,
    if_pos hprofile, left, hleft, of_decide_eq_true hmem⟩
  · rw [hlabel]
    decide
  · rw [hsubjects, of_decide_eq_true hsubjects']
    decide
  · exact (hrun.tail (Tenants.rbacStep_pass hdev trivial)).tail (Tenants.rbacStep_revoked _ _)

end Kubepark

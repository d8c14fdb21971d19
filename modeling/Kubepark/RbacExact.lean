import Kubepark.HomeExclusive
import Kubepark.PartialGrants
import Kubepark.TeardownComplete

/-!
# The RoleBindings of a sandbox after a pass

`reconcileRBAC` applies one RoleBinding after the other under the name of the sandbox, and
collects the rest by the label with its UID. The two agree when what stands under the name carries
the label. They do as long as no other sandbox has the name : in a run of passes of the controller
every binding under such a name, or with such a label, belongs to a sandbox that is there with its
finalizer on (`Backed`), because a sandbox goes only after its bindings are collected.

`rbac_exact` : whatever bindings earlier passes have left, an error-free `reconcileRBAC` leaves
those of the current profile.
-/

namespace Kubepark

open ApiServer Client SandboxReconciler Routine

/-! ## Runs -/

/-- A binding of the controller : it is labelled with the UID of a sandbox, or it has the name of
one's binding. -/
def ForSandbox (key : ObjectKey) (rb : RoleBinding) : Prop :=
  RoleBinding.createdFor rb ≠ none ∨ ∃ n, key.name = roleBindingName n

/-- The call leaves the bindings of the controller alone and makes none that looks like them. -/
structure LeavesBindings (op : Call) : Prop where
  names : ∀ ns n, op.target ≠ some (.roleBinding, ⟨ns, roleBindingName n⟩)
  labels : ∀ rb : RoleBinding, op = .create .roleBinding rb ∨ op = .update .roleBinding rb →
    RoleBinding.createdFor rb = none

/-- One step of a run : a pass over a sandbox, cut short anywhere, or what the others do. -/
inductive GrantStep (r : SandboxReconciler) : Cluster → Cluster → Prop
  | pass {key : ObjectKey} {c c' : Cluster} {t : List (Call × Cluster)}
    (h : PartialPass r key c t c') : GrantStep r c c'
  | foreign {op : Call} {c : Cluster} (h : Foreign op c) (hbindings : LeavesBindings op) :
    GrantStep r c (handle op c).2
  | tick {c : Cluster} (t : Time) (h : c.clock ≤ t) : GrantStep r c { c with clock := t }
  | podGone {c : Cluster} (key : ObjectKey) : GrantStep r c (c.remove .pod key)

/-- A run from one state to another. -/
def GrantRun (r : SandboxReconciler) : Cluster → Cluster → Prop :=
  Relation.ReflTransGen (GrantStep r)

/-! ## Every binding has its sandbox -/

/-- The sandbox with this UID is stored under `key`, with its finalizer on. -/
def Anchored (c : Cluster) (key : ObjectKey) (uid : String) : Prop :=
  ∃ sb, c.find? .sandbox key = some sb ∧ sb.metadata.uid = uid ∧
    sandboxFinalizer ∈ sb.metadata.finalizers

/-- The binding under `key` was created for a sandbox of its name which is still there, and goes
at once when it is deleted. -/
structure BackedBy (c : Cluster) (key : ObjectKey) (rb : RoleBinding) (sbKey : ObjectKey)
    (uid : String) : Prop where
  label : RoleBinding.createdFor rb = some uid
  name : key.name = roleBindingName sbKey.name
  anchored : Anchored c sbKey uid
  live : rb.deleting = false
  finalizers : rb.metadata.finalizers = []

def Backed (c : Cluster) : Prop :=
  ∀ key rb, c.find? .roleBinding key = some rb → ForSandbox key rb →
    ∃ sbKey uid, BackedBy c key rb sbKey uid

/-- The calls of a pass over a sandbox, as far as RoleBindings are concerned. -/
inductive BindingCall : Call → Cluster → Prop
  | aside {op : Call} {c : Cluster} (hbindings : ∀ key, op.target ≠ some (.roleBinding, key))
    (hstays : ∀ o, op = .update .sandbox o → sandboxFinalizer ∈ o.metadata.finalizers) :
    BindingCall op c
  | rbac {op : Call} {c : Cluster} (sb : Sandbox) (granted : List String)
    (h : RbacCall sb granted op c)
    (hanchored : granted ≠ [] → Anchored c sb.key sb.metadata.uid) : BindingCall op c
  /-- The finalizer is taken off a sandbox whose bindings have been collected. -/
  | release {c : Cluster} (o : Sandbox) (stored : Sandbox) (start : Cluster)
    (hstored : c.find? .sandbox o.key = some stored) (hgone : BindingsGone start stored c) :
    BindingCall (.update .sandbox o) c

section Steps

variable {op : Call} {c c' : Cluster} {a : Resp Spec Status op}

/-- A sandbox with its finalizer on stays under calls that leave the finalizer on. -/
theorem Anchored.step {key : ObjectKey} {uid : String} (h : Anchored c key uid)
    (hs : Step op c a c') (hstays : ∀ o : Sandbox, op = .update .sandbox o → o.key = key →
      sandboxFinalizer ∈ o.metadata.finalizers) : Anchored c' key uid := by
  obtain ⟨sb, hsb, huid, hfinalizer⟩ := h
  obtain ⟨sb', hsb', huid', hfinalizer'⟩ := sandbox_stays hs hsb hfinalizer hstays
  exact ⟨sb', hsb', huid'.trans huid, hfinalizer'⟩

/-- A binding that looks the same is backed by the same sandbox. -/
theorem BackedBy.congr {key sbKey : ObjectKey} {uid : String} {rb rb' : RoleBinding}
    (h : BackedBy c key rb sbKey uid) (hanchored : Anchored c' sbKey uid)
    (hlabels : rb'.metadata.labels = rb.metadata.labels) (hlive : rb'.deleting = rb.deleting)
    (hfinalizers : rb'.metadata.finalizers = rb.metadata.finalizers) :
    BackedBy c' key rb' sbKey uid where
  label := by rw [RoleBinding.createdFor, hlabels]; exact h.label
  name := h.name
  anchored := hanchored
  live := hlive.trans h.live
  finalizers := hfinalizers.trans h.finalizers

/-- A call of `reconcileRBAC` or of the collection, for a sandbox that has its finalizer on if it
is granted anything. -/
theorem Backed.rbac {sb : Sandbox} {granted : List String} (hc : Backed c)
    (h : RbacCall sb granted op c) (hanchored : granted ≠ [] → Anchored c sb.key sb.metadata.uid)
    (hs : Step op c a c') : Backed c' := by
  have hsandboxes := (hs.sameOutside h.within).find? (show Kind.sandbox ∉ _ by decide)
  have hstill : ∀ key uid, Anchored c key uid → Anchored c' key uid := by
    rintro key uid ⟨sb, hsb, hrest⟩
    exact ⟨sb, (hsandboxes key).trans hsb, hrest⟩
  intro key rb' hrb' hfor
  cases hs.written hrb' with
  | kept hold =>
    obtain ⟨sbKey, uid, hback⟩ := hc key rb' hold hfor
    exact ⟨sbKey, uid, hback.congr (hstill _ _ hback.anchored) rfl rfl rfl⟩
  | created o hop hkey hnone hnew =>
    subst hop hnew
    cases h with
    | read h => cases h
    | create profile ns hns =>
      have hstays := hstill _ _ (hanchored (List.ne_nil_of_mem hns))
      exact ⟨sb.key, sb.metadata.uid, rfl, by rw [← hkey]; rfl, hstays, rfl, rfl⟩
  | updated old o hop hkey hold hnew =>
    subst hop hnew
    cases h with
    | read h => cases h
    | update existing ns hns hkey' hstored =>
      have hname : key.name = roleBindingName sb.metadata.name := by
        rw [← hkey]
        exact congrArg (·.name) hkey'
      obtain rfl : existing = old := Option.some.inj (hstored.symm.trans (hkey ▸ hold))
      obtain ⟨sbKey, uid, hback⟩ := hc key existing hold (Or.inr ⟨_, hname⟩)
      exact ⟨sbKey, uid, hback.congr (hstill _ _ hback.anchored) rfl rfl rfl⟩
  | statusUpdated old o hop | patched old o hop | statusPatched old o hop =>
    subst hop
    cases h with
    | read h => cases h
  | terminated old site hop hold hlive hstays hnew =>
    have hheld : old.metadata.finalizers ≠ [] := by simpa [KindInfo.graceful] using hstays
    have hfor' : ForSandbox key old := by
      rwa [hnew] at hfor
    obtain ⟨sbKey, uid, hback⟩ := hc key old hold hfor'
    exact absurd hback.finalizers hheld

/-- A call that leaves the bindings of the controller alone; the sandboxes they are for stay. -/
theorem Backed.aside (hc : Backed c) (hs : Step op c a c') (hbindings : LeavesBindings op)
    (hstill : ∀ key rb sbKey uid, c'.find? .roleBinding key = some rb →
      BackedBy c key rb sbKey uid → Anchored c' sbKey uid) : Backed c' := by
  intro key rb hrb hfor
  have hkept : c.find? .roleBinding key = some rb := by
    refine hs.kept_of_marked (fun key labels => labels.lookup labelSandboxUID ≠ none ∨
      ∃ n, key.name = roleBindingName n) (fun key => ∃ n, key.name = roleBindingName n)
      ?_ ?_ ?_ hrb hfor
    · rintro ⟨ns, _⟩ ⟨n, rfl⟩
      exact hbindings.names ns n
    · exact fun rb hop hfor => hfor.resolve_left fun hne => hne (hbindings.labels rb hop)
    · intro key rb hrb hfor
      obtain ⟨sbKey, uid, hback⟩ := hc key rb hrb hfor
      exact ⟨_, hback.name⟩
  obtain ⟨sbKey, uid, hback⟩ := hc key rb hkept hfor
  exact ⟨sbKey, uid, hback.congr (hstill key rb sbKey uid hrb hback) rfl rfl rfl⟩

/-- A call that has nothing to do with RoleBindings leaves those of the controller alone. -/
theorem leavesBindings_of_target (h : ∀ key, op.target ≠ some (.roleBinding, key)) :
    LeavesBindings op := by
  refine ⟨fun ns n => h _, ?_⟩
  rintro rb (rfl | rfl)
  · exact absurd rfl (h rb.key)
  · exact absurd rfl (h rb.key)

/-- When the finalizer is taken off a sandbox, no binding is left that was created for it. -/
theorem Backed.release {o stored : Sandbox} {start : Cluster}
    {a : Resp Spec Status (.update .sandbox o)} (hc : Backed c)
    (hs : Step (.update .sandbox o) c a c') (hstored : c.find? .sandbox o.key = some stored)
    (hgone : BindingsGone start stored c) : Backed c' := by
  have htarget : ∀ key, (Op.update Kind.sandbox o : Call).target ≠ some (.roleBinding, key) :=
    fun key => by simp [Op.target]
  refine hc.aside hs (leavesBindings_of_target htarget) ?_
  intro key rb sbKey uid hrb hback
  rw [hs.find? (htarget key)] at hrb
  refine hback.anchored.step hs ?_
  rintro o' ho' rfl
  cases ho'
  -- The binding would be one of those that have been collected.
  obtain ⟨sb, hsb, huid, -⟩ := hback.anchored
  obtain rfl := Option.some.inj (hstored.symm.trans hsb)
  have hlabel : matchingLabel labelSandboxUID stored.metadata.uid rb = true :=
    matchingLabel_iff.mpr (huid ▸ hback.label)
  cases hback.live.symm.trans (hgone key rb hrb hlabel).1

theorem BindingCall.backed (h : BindingCall op c) (hs : Step op c a c') (hc : Backed c) :
    Backed c' := by
  cases h with
  | aside hbindings hstays =>
    refine hc.aside hs (leavesBindings_of_target hbindings) fun _ _ _ _ _ hback => ?_
    exact hback.anchored.step hs fun o ho _ => hstays o ho
  | rbac sb granted h hanchored => exact hc.rbac h hanchored hs
  | release o stored start hstored hgone => exact hc.release hs hstored hgone

end Steps

/-! ## Passes -/

section Passes

variable {r : SandboxReconciler} {sb sb₁ : Sandbox} {c c₁ c' : Cluster} {key : ObjectKey}
  {t : List (Call × Cluster)}

/-- A call that writes other kinds than RoleBindings and sandboxes. -/
theorem bindingCall_of_within {op : Call} {ks : List Kind} (h : op.Within ks)
    (hbindings : Kind.roleBinding ∉ ks) (hsandboxes : Kind.sandbox ∉ ks) : BindingCall op c := by
  refine .aside (fun key ht => hbindings (h _ ht)) ?_
  rintro o rfl
  exact absurd (h _ rfl) hsandboxes

theorem bindingCall_of_read {op : Call} (h : op.target = none) : BindingCall op c :=
  have hwithin : op.Within [] := within_read h
  bindingCall_of_within hwithin List.not_mem_nil List.not_mem_nil

theorem GateCall.binding {g : Gate} {op : Call} (h : GateCall r sb g op c)
    (hanchored : Anchored c sb.key sb.metadata.uid) : BindingCall op c := by
  cases h with
  | read h => exact bindingCall_of_read h
  | rbac granted h => exact .rbac sb granted h fun _ => hanchored
  | claim | caSecret | hostKey | policyCreate | policyUpdate =>
    exact bindingCall_of_within (within_write rfl (List.mem_singleton_self _)) (by simp) (by simp)

/-- The calls of the pass between the finalizer and the status. -/
theorem reconcileSandbox_bindings {st : SandboxStatus} (hprep : Prepared c sb c₁ sb₁) :
    (r.reconcileSandbox sb).wp Step BindingCall
      (fun _ _ c' => SameOutside (.pod :: gateKinds) c₁ c') st c₁ := by
  have hanchored : ∀ c', SameOutside gateKinds c₁ c' → Anchored c' sb.key sb.metadata.uid := by
    intro c' hc'
    obtain ⟨finalizers, rv, hstored, hfinalizer⟩ := hprep.holdsFinalizer hc'
    exact ⟨_, hstored, rfl, hfinalizer⟩
  refine wp_reconcileSandbox r sb (fun _ _ _ _ _ => id)
    (fun g op c' h hc' => h.binding (hanchored c' hc')) ?_ ?_
  · intro _ _ st' c' _ _ hc'
    exact hc'.mono fun _ hk => List.mem_cons_of_mem _ hk
  · intro tpl _ serviceAccount st₂ c₂ _ hc₂ _
    refine wp_mono (driveState_outcome r sb tpl serviceAccount) ?_ ?_
    · rintro op c' (hread | ⟨hcall, rfl⟩)
      · exact bindingCall_of_read hread
      · exact bindingCall_of_within hcall.within (by simp) (by simp)
    · rintro _ st' c' ⟨-, hc'⟩
      exact (hc₂.mono fun _ hk => List.mem_cons_of_mem _ hk).trans (hc'.mono (by simp))

/-- The calls of a pass over a live sandbox. -/
theorem reconcileLive_bindings (hsb : c.find? .sandbox sb.key = some sb)
    (hlive : sb.deleting = false) : (r.reconcileLive sb).Always Step BindingCall () c := by
  refine wp_reconcileLive_of (R := fun c₁ _ out c₂ => Routine.okPost (fun _ _ c' =>
    SameOutside (Kind.pod :: gateKinds) c₁ c') out c₂) r (fun _ _ _ _ _ => id) hsb hlive ?_
    (fun c₁ sb₁ hprep => reconcileSandbox_bindings hprep) ?_ ?_ fun _ _ _ _ _ _ _ _ _ _ _ _ => trivial
  · refine .aside (fun key => by simp [Op.target]) fun o ho => ?_
    cases ho
    simp
  · exact fun c₁ sb₁ out c₂ _ _ => .aside (fun key => by simp [Op.target]) fun o ho => by cases ho
  · exact fun c₁ sb₁ result st' c₂ hprep hR => (hR.find? (by decide) _).trans hprep.stored

/-- The calls of a teardown. -/
theorem TeardownCall.binding {op : Call} (h : TeardownCall c sb op c') : BindingCall op c' := by
  obtain ⟨hcall, -, htorn⟩ := h
  cases hcall with
  | read h => exact bindingCall_of_read h
  | terminating => exact .aside (fun key => by simp [Op.target]) fun o ho => by cases ho
  | child k name h =>
    exact bindingCall_of_within (within_write rfl (kind_of_ownedChildren sb h)) (by decide) (by decide)
  | rbac h => exact .rbac sb [] h fun hne => absurd rfl hne
  | session h => exact bindingCall_of_within h.within (by decide) (by decide)
  | claim h => exact bindingCall_of_within h (by decide) (by decide)
  | finalizer sb₁ hstamp hstored =>
    have hgone := (htorn ⟨_, rfl⟩).bindings
    obtain ⟨status, rv, rfl⟩ := hstamp
    exact .release _ _ c hstored hgone

theorem reconcile_bindings (r : SandboxReconciler) (key : ObjectKey) (c : Cluster) :
    (r.reconcile key).Always Step BindingCall () c := by
  have hread : BindingCall (.get .sandbox key) c :=
    bindingCall_of_read rfl
  refine wp_bind.mpr (wp_getOptional.mpr ⟨hread, ?_⟩)
  cases hsb : c.find? .sandbox key with
  | none => trivial
  | some sb =>
    obtain rfl := key_of_find? hsb
    refine wp_ite (fun _ => ?_) fun hdeleting => ?_
    · exact wp_mono (wp_finalize sb hsb) (fun _ _ h => h.binding) fun _ _ _ _ => trivial
    · exact reconcileLive_bindings hsb (by simpa using hdeleting)

theorem PartialPass.backed (h : PartialPass r key c t c') (hc : Backed c) : Backed c' :=
  Prog.Visits.preserves h (h.wp (reconcile_bindings r key c)) (fun _ _ _ _ hop hs => hop.backed hs) hc

theorem PartialPass.wellNamed (h : PartialPass r key c t c') (hc : WellNamed c) : WellNamed c' :=
  Prog.Visits.preserves h h.calls (fun _ _ _ _ hop hs hc₁ =>
    hc₁.step hs fun o ho => absurd ho (hop.not_create_sandbox o)) hc

end Passes

/-- It is about sandboxes and RoleBindings only. -/
theorem Backed.congr {c c' : Cluster} (hc : Backed c)
    (hbindings : ∀ key, c'.find? .roleBinding key = c.find? .roleBinding key)
    (hsandboxes : ∀ key, c'.find? .sandbox key = c.find? .sandbox key) : Backed c' := by
  intro key rb hrb hfor
  rw [hbindings] at hrb
  obtain ⟨sbKey, uid, hback⟩ := hc key rb hrb hfor
  refine ⟨sbKey, uid, hback.congr ?_ rfl rfl rfl⟩
  obtain ⟨sb, hsb, hrest⟩ := hback.anchored
  exact ⟨sb, (hsandboxes _).trans hsb, hrest⟩

/-- Every binding of the controller has its sandbox, in every state of a run. -/
theorem GrantRun.backed {r : SandboxReconciler} {c₀ c : Cluster} (hrun : GrantRun r c₀ c)
    (hbacked : Backed c₀) (hnamed : WellNamed c₀) : Backed c ∧ WellNamed c := by
  induction hrun with
  | refl => exact ⟨hbacked, hnamed⟩
  | @tail c₁ c₂ _ hstep ih =>
    obtain ⟨hbacked, hnamed⟩ := ih
    cases hstep with
    | pass h => exact ⟨h.backed hbacked, h.wellNamed hnamed⟩
    | foreign h hbindings =>
      refine ⟨hbacked.aside (step_handle _ _) hbindings fun _ _ _ _ _ hback => ?_,
        hnamed.step (step_handle _ _) h.sandboxes⟩
      obtain ⟨sb, hsb, -, hfinalizer⟩ := id hback.anchored
      refine hback.anchored.step (step_handle _ _) ?_
      rintro o ho rfl
      exact h.finalizers o sb ho hsb hfinalizer
    | tick t _ => exact ⟨hbacked.congr (fun _ => rfl) fun _ => rfl, hnamed.name, hnamed.uid⟩
    | podGone key =>
      have hsame : ∀ k key', k ≠ .pod → (c₁.remove .pod key).find? k key' = c₁.find? k key' :=
        fun k key' hk => find?_remove_ne c₁ .pod key fun he => hk (Prod.mk.inj he).1
      have hsandboxes := fun key' => hsame .sandbox key' (by simp)
      refine ⟨hbacked.congr (fun key' => hsame _ key' (by simp)) hsandboxes, ?_, ?_⟩
      · simpa only [hsandboxes] using hnamed.name
      · simpa only [hsandboxes] using hnamed.uid

/-! ## The bindings of one sandbox -/

/-- What stands under the name of the bindings of `sb`, or carries the label with its UID, has both,
and goes at once when it is deleted. -/
def OwnBindings (sb : Sandbox) (c : Cluster) : Prop :=
  ∀ key rb, c.find? .roleBinding key = some rb →
    key.name = roleBindingName sb.metadata.name ∨ RoleBinding.createdFor rb = some sb.metadata.uid →
    key.name = roleBindingName sb.metadata.name ∧
      RoleBinding.createdFor rb = some sb.metadata.uid ∧ ¬Held rb

/-- No other sandbox has the name of `sb`. -/
def NameUnshared (c : Cluster) (sb : Sandbox) : Prop :=
  ∀ other ∈ c.objs .sandbox, other.metadata.name = sb.metadata.name → other.key = sb.key

theorem Backed.ownBindings {c : Cluster} {sb : Sandbox} (hc : Backed c) (hnamed : WellNamed c)
    (hsb : Snapshot c sb) (hunshared : NameUnshared c sb) : OwnBindings sb c := by
  intro key rb hrb hown
  obtain ⟨stored, hstored, huid⟩ := hsb
  have hfor : ForSandbox key rb := by
    rcases hown with hname | hlabel
    · exact Or.inr ⟨_, hname⟩
    · refine Or.inl ?_
      simp [hlabel]
  obtain ⟨sbKey, uid, hback⟩ := hc key rb hrb hfor
  obtain ⟨sb', hsb', huid', -⟩ := hback.anchored
  have hkey' := key_of_find? hsb'
  have hsame : sbKey = sb.key := by
    rcases hown with hname | hlabel
    · rw [← hkey']
      refine hunshared sb' (mem_of_find? hsb') ?_
      have hname' := roleBindingName_inj.mp (hback.name.symm.trans hname)
      rw [← hname', ← hkey']
      rfl
    · refine hnamed.uid _ _ sb' stored hsb' hstored ?_
      rw [huid', huid]
      exact Option.some.inj (hback.label.symm.trans hlabel)
  subst hsame
  obtain rfl := Option.some.inj (hstored.symm.trans hsb')
  have huids : uid = sb.metadata.uid := huid'.symm.trans huid
  refine ⟨hback.name, huids ▸ hback.label, ?_⟩
  rintro (hdeleting | hfinalizers)
  · exact nomatch hback.live.symm.trans hdeleting
  · exact hfinalizers hback.finalizers

/-- `rb` is the binding of `sb` to the Role of `profile`, with its ServiceAccount as the only
subject. -/
structure BindsOnly (profile : AccessProfile) (sb : Sandbox) (rb : RoleBinding) : Prop where
  label : RoleBinding.createdFor rb = some sb.metadata.uid
  roleRef : rb.spec.roleRef = profileRoleRef profile
  subjects : rb.spec.subjects = [saSubject sb]

section Apply

variable {profile : AccessProfile} {sb : Sandbox} {ns : String} {c : Cluster} {st : SandboxStatus}

/-- Once the binding in `ns` is applied without error it is as it should be, whatever stood in its
place; nothing else is touched. -/
theorem ends_applyRoleBinding_owned
    (hown : ∀ rb, c.find? .roleBinding (bindingKey sb ns) = some rb →
      RoleBinding.createdFor rb = some sb.metadata.uid ∧ ¬Held rb) :
    (applyRoleBinding (buildRoleBinding sb profile ns)).Ends Step (fun _ _ c' =>
      (∃ rb, c'.find? .roleBinding (bindingKey sb ns) = some rb ∧ BindsOnly profile sb rb) ∧
      ∀ k key, (⟨k, key⟩ : Kind × ObjectKey) ≠ (.roleBinding, bindingKey sb ns) →
        c'.find? k key = c.find? k key) st c := by
  refine wp_bind.mpr (wp_getOptional.mpr ⟨trivial, ?_⟩)
  cases hrb : c.find? .roleBinding (buildRoleBinding sb profile ns).key with
  | none =>
    refine wp_createIfAbsent.mpr ⟨trivial, fun _ => ⟨?_, fun k key hne => find?_ensured_ne hne⟩⟩
    exact ⟨_, find?_ensured_of_none hrb, rfl, rfl, rfl⟩
  | some rb =>
    have hkey : rb.key = bindingKey sb ns := key_of_find? hrb
    obtain ⟨hlabel, hfree⟩ := hown rb hrb
    obtain ⟨hlive, hfinalizers⟩ := not_or.mp hfree
    refine wp_ite (fun href => ?_) fun href => wp_ite (fun hsubjects => ?_)
      fun hsubjects => ?_
    · refine wp_bind.mpr (wp_deleteIfPresent.mpr ⟨trivial, ?_⟩)
      rw [hkey]
      have hgone := find?_dropped_of_free "applyRoleBinding" hrb (by simpa using hlive)
        (by simpa using hfinalizers) rfl
      refine wp_createIfAbsent.mpr ⟨trivial, fun _ => ⟨?_, fun k key hne => ?_⟩⟩
      · exact ⟨_, find?_ensured_of_none hgone, rfl, rfl, rfl⟩
      · exact (find?_ensured_ne hne).trans (find?_dropped_ne hne)
    · refine wp_bind.mpr (wp_update.mpr ⟨trivial, fun old hold _ => ?_⟩)
      obtain rfl := Option.some.inj (hrb.symm.trans ((congrArg _ hkey.symm).trans hold))
      refine ⟨?_, fun k key hne => find?_settle_ne (hkey ▸ hne)⟩
      rw [← hkey]
      exact ⟨_, find?_settle_self fun h => absurd h hlive, hlabel, not_not.mp href, rfl⟩
    · exact ⟨⟨rb, hrb, hlabel, not_not.mp href, not_not.mp hsubjects⟩, fun _ _ _ => rfl⟩

/-- The state of the loop over the grant namespaces `all` that started in `c`, when `todo` is left
to do. -/
structure Binding (profile : AccessProfile) (sb : Sandbox) (c : Cluster) (all todo : List String)
    (c' : Cluster) : Prop where
  nodup : todo.Nodup
  subset : ∀ ns ∈ todo, ns ∈ all
  untouched : ∀ key, (∀ ns ∈ all, ns ∉ todo → key ≠ bindingKey sb ns) →
    c'.find? .roleBinding key = c.find? .roleBinding key
  bound : ∀ ns ∈ all, ns ∉ todo →
    ∃ rb, c'.find? .roleBinding (bindingKey sb ns) = some rb ∧ BindsOnly profile sb rb

theorem bindingKey_inj {ns ns' : String} : bindingKey sb ns = bindingKey sb ns' ↔ ns = ns' := by
  simp [bindingKey]

theorem ends_applyRoleBindings_owned (hown : OwnBindings sb c) :
    (Routine.forEach (grantNamespaces profile) fun ns =>
      applyRoleBinding (buildRoleBinding sb profile ns)).Ends Step
      (fun _ _ c' => Binding profile sb c (grantNamespaces profile) [] c') st c := by
  refine wp_forEach (fun todo _ c' => Binding profile sb c (grantNamespaces profile) todo c')
    ?_ _ ⟨nodup_grantNamespaces profile, fun _ h => h, fun _ _ => rfl, fun ns h hn => absurd h hn⟩
  intro ns todo st c' h
  obtain ⟨hnew, hnodup⟩ := List.nodup_cons.mp h.nodup
  obtain ⟨hall, hsubset⟩ := List.forall_mem_cons.mp h.subset
  -- What stands in the place of this binding is what stood there when the loop began.
  have hrb : c'.find? .roleBinding (bindingKey sb ns) = c.find? .roleBinding (bindingKey sb ns) := by
    refine h.untouched _ fun ns' _ hdone he => hdone ?_
    rw [← bindingKey_inj.mp he]
    exact List.mem_cons_self
  refine wp_post (ends_applyRoleBinding_owned fun rb hrb' => ?_) ?_
  · exact (hown _ rb (hrb.symm.trans hrb') (Or.inl rfl)).2
  rintro _ _ c'' ⟨hbound, hrest⟩
  have hother : ∀ key, key ≠ bindingKey sb ns →
      c''.find? .roleBinding key = c'.find? .roleBinding key :=
    fun key hne => hrest _ _ fun he => hne (Prod.mk.inj he).2
  refine ⟨hnodup, hsubset, fun key hkey => ?_, fun ns' hall' hdone => ?_⟩
  · rw [hother key (hkey ns hall hnew)]
    refine h.untouched key fun ns' hall' hdone => hkey ns' hall' fun h' => ?_
    exact hdone (List.mem_cons_of_mem _ h')
  · by_cases he : ns' = ns
    · exact he ▸ hbound
    · rw [hother _ fun h' => he (bindingKey_inj.mp h')]
      exact h.bound ns' hall' (by simp [he, hdone])

end Apply

/-! ## One pass -/

/-- In each namespace that some grant lists there is exactly one binding labelled with the UID of
`sb`, and none elsewhere; each binds the ServiceAccount of `sb`, and nobody else, to the Role of
the profile. -/
structure ExactlyBound (profile : AccessProfile) (sb : Sandbox) (c : Cluster) : Prop where
  one : ∀ grant ∈ profile.spec.grants, ∀ ns ∈ grant.namespaces,
    ∃! rb, rb ∈ c.objs .roleBinding ∧ rb.metadata.namespaceName = ns ∧
      RoleBinding.createdFor rb = some sb.metadata.uid
  listed : ∀ rb ∈ c.objs .roleBinding, RoleBinding.createdFor rb = some sb.metadata.uid →
    ∃ grant ∈ profile.spec.grants, rb.metadata.namespaceName ∈ grant.namespaces
  binds : ∀ rb ∈ c.objs .roleBinding, RoleBinding.createdFor rb = some sb.metadata.uid →
    BindsOnly profile sb rb

section Pass

variable {profile : AccessProfile} {sb : Sandbox} {c : Cluster} {st : SandboxStatus}

/-- The bindings labelled with the UID of `sb` are those in the grant namespaces, and these are as
they should be. -/
structure Reconciled (profile : AccessProfile) (sb : Sandbox) (c' : Cluster) : Prop where
  bound : ∀ ns ∈ grantNamespaces profile,
    ∃ rb, c'.find? .roleBinding (bindingKey sb ns) = some rb ∧ BindsOnly profile sb rb
  only : ∀ key rb, c'.find? .roleBinding key = some rb →
    RoleBinding.createdFor rb = some sb.metadata.uid →
      ∃ ns ∈ grantNamespaces profile, key = bindingKey sb ns

/-- The collection after the loop. -/
theorem Binding.collected {c₁ c₂ c' : Cluster} (hown : OwnBindings sb c₁)
    (h : Binding profile sb c₁ (grantNamespaces profile) [] c₂)
    (hcollected : ∀ key, CollectedAt sb (grantNamespaces profile) c₂ key c') :
    Reconciled profile sb c' := by
  refine ⟨fun ns hns => ?_, fun key rb hrb hlabel => ?_⟩
  · rw [(hcollected _).same fun _ _ => Or.inl hns]
    exact h.bound ns hns List.not_mem_nil
  · by_cases hkey : ∃ ns ∈ grantNamespaces profile, key = bindingKey sb ns
    · exact hkey
    exfalso
    have hkept : c₂.find? .roleBinding key = c₁.find? .roleBinding key :=
      h.untouched key fun ns hns _ he => hkey ⟨ns, hns, he⟩
    -- A binding that was labelled before the loop stands under the name of `sb`.
    have hnamed : ∀ old, c₂.find? .roleBinding key = some old →
        RoleBinding.createdFor old = some sb.metadata.uid →
        key.namespaceName ∉ grantNamespaces profile ∧ ¬Held old := by
      intro old hold hlabel'
      obtain ⟨hname, -, hfree⟩ := hown key old (hkept.symm.trans hold) (Or.inr hlabel')
      refine ⟨fun hns => hkey ⟨key.namespaceName, hns, ?_⟩, hfree⟩
      rw [bindingKey, ← hname]
    by_cases hold : ∃ old, c₂.find? .roleBinding key = some old ∧
        RoleBinding.createdFor old = some sb.metadata.uid
    · obtain ⟨old, hold, hlabel'⟩ := hold
      obtain ⟨hns, hfree⟩ := hnamed old hold hlabel'
      exact nomatch ((hcollected key).free old hold hns hlabel' hfree).symm.trans hrb
    · rw [(hcollected key).same fun old hold' => Or.inr fun hl => hold ⟨old, hold', hl⟩] at hrb
      exact hold ⟨rb, hrb, hlabel⟩

/-- An error-free `reconcileRBAC` under a profile that permits the sandbox. -/
theorem ends_reconcileRBAC_owned (hgrants : Grants c sb profile) (hown : OwnBindings sb c) :
    (reconcileRBAC sb).Ends Step (fun _ _ c' => Reconciled profile sb c') st c := by
  refine wp_ite (fun h => absurd h hgrants.named) fun _ => ?_
  refine wp_bind.mpr (wp_getOptional.mpr ⟨trivial, ?_⟩)
  rw [hgrants.stored]
  refine wp_ite (fun h => absurd hgrants.allowed h) fun _ => ?_
  refine wp_bind.mpr (wp_createIfAbsent.mpr ⟨trivial, fun _ => ?_⟩)
  have hown₁ : OwnBindings sb (c.ensured .serviceAccount
      (setControllerReference sb (buildServiceAccount sb profile))) := by
    intro key rb hrb
    rw [find?_ensured_ne (by simp)] at hrb
    exact hown key rb hrb
  refine wp_bind.mpr (wp_post (ends_applyRoleBindings_owned hown₁) ?_)
  intro _ st c₂ hbinding
  refine wp_bind.mpr (wp_post ends_gcRBAC_keep ?_)
  exact fun _ _ _ hcollected => hbinding.collected hown₁ hcollected

theorem Reconciled.exactlyBound (h : Reconciled profile sb c) : ExactlyBound profile sb c := by
  have hlabelled : ∀ rb ∈ c.objs .roleBinding, RoleBinding.createdFor rb = some sb.metadata.uid →
      ∃ ns ∈ grantNamespaces profile, rb.key = bindingKey sb ns :=
    fun rb hrb hlabel => h.only rb.key rb (mem_objs_iff.mp hrb) hlabel
  refine ⟨fun grant hgrant ns hns => ?_, fun rb hrb hlabel => ?_, fun rb hrb hlabel => ?_⟩
  · obtain ⟨rb, hrb, hbinds⟩ := h.bound ns (mem_grantNamespaces.mpr ⟨grant, hgrant, hns⟩)
    have hkey := key_of_find? hrb
    refine ⟨rb, ⟨mem_of_find? hrb, congrArg (·.namespaceName) hkey, hbinds.label⟩, ?_⟩
    rintro rb' ⟨hrb', hns', hlabel'⟩
    obtain ⟨ns', -, hkey'⟩ := hlabelled rb' hrb' hlabel'
    have hsame : ns' = ns := (congrArg (·.namespaceName) hkey').symm.trans hns'
    have hstored := mem_objs_iff.mp hrb'
    rw [hkey', hsame, hrb] at hstored
    exact (Option.some.inj hstored).symm
  · obtain ⟨ns, hns, hkey⟩ := hlabelled rb hrb hlabel
    rw [show rb.metadata.namespaceName = ns from congrArg (·.namespaceName) hkey]
    exact mem_grantNamespaces.mp hns
  · obtain ⟨ns, hns, hkey⟩ := hlabelled rb hrb hlabel
    obtain ⟨rb', hrb', hbinds⟩ := h.bound ns hns
    rw [← hkey, mem_objs_iff.mp hrb] at hrb'
    exact (Option.some.inj hrb') ▸ hbinds

theorem OwnBindings.plain (h : OwnBindings sb c) : BindingsPlain c sb := by
  intro key rb hrb hlabel
  obtain ⟨hlive, hfinalizers⟩ := not_or.mp (h key rb hrb (Or.inr hlabel)).2.2
  exact ⟨by simpa using hlive, by simpa using hfinalizers⟩

theorem grantedNamespaces_of_not_grants (h : ∀ profile, ¬Grants c sb profile) :
    grantedNamespaces c sb = [] := by
  unfold grantedNamespaces
  by_cases hname : sb.spec.accessProfile = ""
  · rw [if_pos hname]
  rw [if_neg hname]
  cases hprofile : c.find? .accessProfile ⟨"", sb.spec.accessProfile⟩ with
  | none => rfl
  | some profile =>
    by_cases hallowed : sb.metadata.namespaceName ∈ profile.spec.allowedNamespaces
    · exact absurd ⟨hname, hprofile, hallowed⟩ (h profile)
    · simp [hallowed]

end Pass

/-- The bindings of a sandbox are exact after an error-free `reconcileRBAC`, whatever bindings a
run of earlier passes, over this and other sandboxes, under other profiles and grants and cut short
anywhere, has left : those of its profile when that exists and permits its namespace, and none
otherwise. No other sandbox in the cluster has its name. A run starts without bindings of the
controller. -/
theorem rbac_exact (r : SandboxReconciler) (c₀ c c' : Cluster) (sb : Sandbox)
    (hnamed : WellNamed c₀)
    (hbindings : ∀ key rb, c₀.find? .roleBinding key = some rb → ¬ForSandbox key rb)
    (hrun : GrantRun r c₀ c) (hsb : Snapshot c sb) (hunshared : NameUnshared c sb)
    (hpass : RbacPass sb c c') :
    (∀ profile, Grants c sb profile → ExactlyBound profile sb c') ∧
      ((∀ profile, ¬Grants c sb profile) → ∀ rb ∈ c'.objs .roleBinding,
        RoleBinding.createdFor rb ≠ some sb.metadata.uid) := by
  have hbacked₀ : Backed c₀ := fun key rb hrb hfor => absurd hfor (hbindings key rb hrb)
  obtain ⟨hbacked, hnamed'⟩ := hrun.backed hbacked₀ hnamed
  have hown := hbacked.ownBindings hnamed' hsb hunshared
  obtain ⟨st, t, rbac, st', hexec⟩ := hpass
  refine ⟨fun profile hgrants => ?_, fun hnone rb hrb => ?_⟩
  · exact (hexec.wp (ends_reconcileRBAC_owned hgrants hown)).2.exactlyBound
  · have hcollected := (hexec.wp (ends_reconcileRBAC_ungranted
      (grantedNamespaces_of_not_grants hnone) hown.plain)).2
    exact hcollected _ rb (mem_objs_iff.mp hrb)

namespace Tenants

/-- The team's sandbox under a profile with grants in `retired` and `lab`. -/
def granting : Cluster :=
  .ofObjects (fun
    | .namespace =>
      [⟨{ name := "team" }, (), ()⟩, ⟨{ name := "kubepark-system" }, (), ()⟩,
        ⟨{ name := "shared" }, (), ()⟩, ⟨{ name := "lab" }, (), ()⟩, ⟨{ name := "retired" }, (), ()⟩]
    | .sandboxTemplate => [Team.template]
    | .accessProfile => [editor "retired" "lab"]
    | .sandbox => [editing]
    | _ => []) 0

/-- The grants of the profile are edited after a pass over the sandbox : one namespace goes, another
comes in, listed twice. -/
def regranted : Cluster :=
  (handle (.patch .accessProfile ⟨"", "editor"⟩ fun spec =>
    { spec with grants := [⟨["shared", "shared"], []⟩, ⟨["lab"], []⟩] })
      (runPass Team.reconciler Team.key granting).2).2

theorem grantRun_regranted : GrantRun Team.reconciler granting regranted := by
  refine (Relation.ReflTransGen.single (.pass (partialPass_runPass _ _ _))).tail (.foreign ?_ ?_)
  · refine ⟨fun ns n => ?_, fun ns n => by simp [Op.target], fun sb hop => ?_, fun sb old hop => ?_⟩
    · rintro (⟨o, hop, -⟩ | ⟨o, hop, -⟩ | ⟨change, hop⟩) <;> cases hop
    · cases hop
    · cases hop
  · exact leavesBindings_of_target fun key => by simp [Op.target]

end Tenants

/-- The team's sandbox was bound in a namespace that its profile does not grant any more; after the
next pass it is bound in those that it does. -/
theorem rbac_exact_regranted : ∃ sb c', Tenants.regranted.find? .sandbox Team.key = some sb ∧
    (Tenants.regranted.find? .roleBinding (bindingKey sb "retired")).isSome = true ∧
    RbacPass sb Tenants.regranted c' ∧
    ∃ profile, Grants Tenants.regranted sb profile ∧ ExactlyBound profile sb c' := by
  have hsandbox : (Tenants.regranted.find? .sandbox Team.key).any (fun sb =>
      sb.metadata.namespaceName = "team" ∧ sb.spec.accessProfile = "editor" ∧
      (Tenants.regranted.find? .roleBinding (bindingKey sb "retired")).isSome ∧
      (Tenants.rbacRun sb Tenants.regranted).1.1.isOk) = true := by decide +kernel
  have hprofile : (Tenants.regranted.find? .accessProfile ⟨"", "editor"⟩).any (fun profile =>
      profile.spec.allowedNamespaces.contains "team") = true := by decide +kernel
  have hothers : (Tenants.regranted.objs .sandbox).all (fun sb => sb.key = Team.key) = true := by
    decide +kernel
  obtain ⟨sb, hsb, h⟩ := (Option.any_eq_true _ _).mp hsandbox
  obtain ⟨hns, hname, hbound, hok⟩ := of_decide_eq_true h
  obtain ⟨profile, hstored, hallowed⟩ := (Option.any_eq_true _ _).mp hprofile
  have hkey := key_of_find? hsb
  have hgrants : Grants Tenants.regranted sb profile :=
    ⟨by simp [hname], hname ▸ hstored, by simpa [hns] using hallowed⟩
  have hpass := Tenants.rbacPass_pass hok
  refine ⟨sb, _, hsb, hbound, hpass, profile, hgrants, ?_⟩
  refine (rbac_exact Team.reconciler Tenants.granting _ _ sb ⟨?_, ?_⟩ (fun key rb hrb => ?_)
    Tenants.grantRun_regranted ⟨sb, hkey ▸ hsb, rfl⟩ (fun other hother _ => ?_) hpass).1 profile hgrants
  · intro key sb' hsb'
    obtain rfl := List.mem_singleton.mp (mem_of_find? hsb')
    decide
  · intro key key' sb₁ sb₂ hsb₁ hsb₂ _
    rw [← key_of_find? hsb₁, ← key_of_find? hsb₂, List.mem_singleton.mp (mem_of_find? hsb₁),
      List.mem_singleton.mp (mem_of_find? hsb₂)]
  · exact nomatch mem_of_find? hrb
  · rw [hkey]
    exact of_decide_eq_true (List.all_eq_true.mp hothers other hother)

end Kubepark

import Kubepark.ClusterRuns

/-!
# Sandbox pods and their network policies

A pass creates the policy of a sandbox before its pod, and only then; while the sandbox lives
the policy is rewritten but not deleted. The teardown deletes the pod and right after it the
policy, although a deleted pod stays for its grace period : there the pod is without a
policy (`uncovered_after_finalize`). In every run in which no policy is deleted while the pod
is still there, every sandbox pod is covered (`covered_run`).
-/

namespace Kubepark

open ApiServer Client SandboxReconciler

/-- Some default-deny policy in its namespace selects the pod. -/
def Covered (c : Cluster) (pod : Pod) : Prop :=
  ∃ np ∈ c.objs .networkPolicy, np.metadata.namespaceName = pod.metadata.namespaceName ∧
    np.spec.defaultDeny = true ∧ np.spec.podSelector.selects pod.metadata.labels = true

/-- Every pod of a sandbox is covered. -/
def PodsCovered (c : Cluster) : Prop :=
  ∀ ns n pod, c.find? .pod ⟨ns, podName n⟩ = some pod → Covered c pod

/-- The policy of a sandbox is deleted only when its pod is gone. -/
def PolicyOutlivesPod (t : List (Call × Cluster)) : Prop :=
  ∀ e ∈ t, ∀ ns n site, e.1 = .delete .networkPolicy ⟨ns, netPolName n⟩ site →
    e.2.find? .pod ⟨ns, podName n⟩ = none

/-! ## The invariant -/

/-- The policy selects exactly the pods with the UID, and denies by default. -/
structure Selects (np : NetworkPolicy) (uid : String) : Prop where
  selector : np.spec.podSelector = ⟨[(labelSandboxUID, uid)]⟩
  deny : np.spec.defaultDeny = true

/-- A pod with these labels belongs to the sandbox `n` of `ns`, which holds the finalizer and
has a policy that selects the pod. -/
def Owned (c : Cluster) (ns n : String) (labels : List (String × String)) : Prop :=
  ∃ sb np, c.find? .sandbox ⟨ns, n⟩ = some sb ∧ sandboxFinalizer ∈ sb.metadata.finalizers ∧
    labels.lookup labelSandboxUID = some sb.metadata.uid ∧
    c.find? .networkPolicy ⟨ns, netPolName n⟩ = some np ∧ Selects np sb.metadata.uid

/-- Every sandbox pod is owned, and policies go at once when they are deleted. -/
structure Guarded (c : Cluster) : Prop where
  pods : ∀ ns n pod, c.find? .pod ⟨ns, podName n⟩ = some pod → Owned c ns n pod.metadata.labels
  policies : ∀ ns n np, c.find? .networkPolicy ⟨ns, netPolName n⟩ = some np →
    np.deleting = false ∧ np.metadata.finalizers = []

theorem Guarded.podsCovered {c : Cluster} (h : Guarded c) : PodsCovered c := by
  intro ns n pod hpod
  obtain ⟨sb, np, -, -, hlabel, hnp, hselects⟩ := h.pods ns n pod hpod
  have hns : np.metadata.namespaceName = ns := congrArg (·.namespaceName) (key_of_find? hnp)
  have hpodns : pod.metadata.namespaceName = ns := congrArg (·.namespaceName) (key_of_find? hpod)
  refine ⟨np, mem_of_find? hnp, hns.trans hpodns.symm, hselects.deny, ?_⟩
  simp [LabelSelector.selects, hselects.selector, hlabel]

/-- The pods stay as they are or go; sandboxes and policies stay as they are. -/
theorem Guarded.of_pods {c c' : Cluster} (h : Guarded c)
    (hpods : ∀ ns n pod', c'.find? .pod ⟨ns, podName n⟩ = some pod' →
      ∃ pod, c.find? .pod ⟨ns, podName n⟩ = some pod ∧ pod'.metadata.labels = pod.metadata.labels)
    (hsandboxes : ∀ key, c'.find? .sandbox key = c.find? .sandbox key)
    (hpolicies : ∀ ns n, c'.find? .networkPolicy ⟨ns, netPolName n⟩ =
      c.find? .networkPolicy ⟨ns, netPolName n⟩) : Guarded c' := by
  refine ⟨fun ns n pod' hpod' => ?_, fun ns n np hnp => ?_⟩
  · obtain ⟨pod, hpod, hlabels⟩ := hpods ns n pod' hpod'
    obtain ⟨sb, np, hsb, hrest⟩ := h.pods ns n pod hpod
    refine ⟨sb, np, (hsandboxes _).trans hsb, ?_⟩
    rw [hlabels, hpolicies]
    exact hrest
  · rw [hpolicies] at hnp
    exact h.policies ns n np hnp

section Steps

variable {op : Call} {c c' : Cluster} {a : Resp Spec Status op}

/-- A call on neither pods nor sandboxes nor policies. -/
theorem Guarded.of_within (h : Guarded c) (hs : Step op c a c') (ks : List Kind)
    (hop : op.Within ks) (hpod : .pod ∉ ks) (hsandbox : .sandbox ∉ ks)
    (hpolicy : .networkPolicy ∉ ks) : Guarded c' := by
  have hsame := hs.sameOutside hop
  refine h.of_pods (fun ns n pod' hpod' => ?_) (hsame.find? hsandbox) fun ns n =>
    hsame.find? hpolicy _
  exact ⟨pod', (hsame.find? hpod _).symm.trans hpod', rfl⟩

theorem Guarded.of_read (h : Guarded c) (hs : Step op c a c') (hop : op.target = none) :
    Guarded c' :=
  h.of_within hs [] (within_read hop) (by simp) (by simp) (by simp)

/-- A call on a pod that does not rewrite a sandbox pod. -/
theorem Guarded.of_pod_call (h : Guarded c) (hs : Step op c a c') (hop : op.Within [.pod])
    (hrewrites : ∀ ns n, ¬Rewrites .pod ⟨ns, podName n⟩ op) : Guarded c' := by
  have hsame := hs.sameOutside hop
  refine h.of_pods (fun ns n pod' hpod' => ?_) (hsame.find? (by decide)) fun ns n =>
    hsame.find? (by decide) _
  obtain ⟨pod, hpod, hlabels, -⟩ := pod_stays hs hpod' (hrewrites ns n)
  exact ⟨pod, hpod, hlabels⟩

/-- A call on a sandbox that leaves the finalizer on, or the sandbox has no pod. -/
theorem Guarded.of_sandbox_call (h : Guarded c) (hs : Step op c a c') (hop : op.Within [.sandbox])
    (hfinalizer : ∀ (o : Sandbox) ns n, op = .update .sandbox o → o.key = ⟨ns, n⟩ →
      c.find? .pod ⟨ns, podName n⟩ ≠ none → sandboxFinalizer ∈ o.metadata.finalizers) :
    Guarded c' := by
  have hsame := hs.sameOutside hop
  refine ⟨fun ns n pod hpod => ?_, fun ns n np hnp => ?_⟩
  · rw [hsame.find? (by decide)] at hpod
    obtain ⟨sb, np, hsb, hheld, hlabel, hnp, hselects⟩ := h.pods ns n pod hpod
    obtain ⟨sb', hsb', huid, hheld'⟩ := sandbox_stays hs hsb hheld fun o hop hkey =>
      hfinalizer o ns n hop hkey (by rw [hpod]; exact Option.some_ne_none pod)
    rw [← hsame.find? (show Kind.networkPolicy ∉ [Kind.sandbox] by decide)] at hnp
    exact ⟨sb', np, hsb', hheld', huid.symm ▸ hlabel, hnp, huid.symm ▸ hselects⟩
  · rw [hsame.find? (by decide)] at hnp
    exact h.policies ns n np hnp

/-- A policy is created where there was none. -/
theorem Guarded.of_policy_create {o : NetworkPolicy} {a : Resp Spec Status (.create .networkPolicy o)}
    (h : Guarded c) (hs : Step (.create .networkPolicy o) c a c')
    (hfinalizers : o.metadata.finalizers = []) : Guarded c' := by
  have hsame : SameOutside [.networkPolicy] c c' := hs.sameOutside (within_write rfl (by simp))
  refine ⟨fun ns n pod hpod => ?_, fun ns n np hnp => ?_⟩
  · rw [hsame.find? (by decide)] at hpod
    obtain ⟨sb, np, hsb, hheld, hlabel, hnp, hselects⟩ := h.pods ns n pod hpod
    rw [← hsame.find? (show Kind.sandbox ∉ [Kind.networkPolicy] by decide)] at hsb
    exact ⟨sb, np, hsb, hheld, hlabel, hs.keeps (fun _ _ _ => ⟨o, rfl⟩) hnp, hselects⟩
  · cases hs.written hnp with
    | kept hold => exact h.policies ns n np hold
    | created o' hop _ _ hnp' =>
      cases hop
      subst hnp'
      exact ⟨rfl, hfinalizers⟩
    | updated _ _ hop | statusUpdated _ _ hop | patched _ _ hop | statusPatched _ _ hop
    | terminated _ _ hop => cases hop

/-- A policy gets another spec, which still selects the pods of its sandbox. -/
theorem Guarded.of_policy_update {o : NetworkPolicy} {a : Resp Spec Status (.update .networkPolicy o)}
    (h : Guarded c) (hs : Step (.update .networkPolicy o) c a c')
    (hfinalizers : o.metadata.finalizers = [])
    (hselects : ∀ ns n sb, o.key = ⟨ns, netPolName n⟩ → c.find? .sandbox ⟨ns, n⟩ = some sb →
      Selects o sb.metadata.uid) : Guarded c' := by
  have hsame : SameOutside [.networkPolicy] c c' := hs.sameOutside (within_write rfl (by simp))
  have hwritten : ∀ ns n np', c'.find? .networkPolicy ⟨ns, netPolName n⟩ = some np' →
      ∃ np, c.find? .networkPolicy ⟨ns, netPolName n⟩ = some np ∧ np'.deleting = np.deleting ∧
        (np' = np ∨ o.key = ⟨ns, netPolName n⟩ ∧ np'.spec = o.spec ∧
          np'.metadata.finalizers = o.metadata.finalizers) := by
    intro ns n np' hnp'
    cases hs.written hnp' with
    | kept hold => exact ⟨np', hold, rfl, Or.inl rfl⟩
    | updated old o' hop hkey hold hnew =>
      cases hop
      subst hnew
      exact ⟨old, hold, rfl, Or.inr ⟨hkey, rfl, rfl⟩⟩
    | created _ hop | statusUpdated _ _ hop | patched _ _ hop | statusPatched _ _ hop
    | terminated _ _ hop => cases hop
  refine ⟨fun ns n pod hpod => ?_, fun ns n np' hnp' => ?_⟩
  · rw [hsame.find? (by decide)] at hpod
    obtain ⟨sb, np, hsb, hheld, hlabel, hnp, hselected⟩ := h.pods ns n pod hpod
    have hsb' := (hsame.find? (show Kind.sandbox ∉ [Kind.networkPolicy] by decide) _).trans hsb
    cases hnp' : c'.find? .networkPolicy ⟨ns, netPolName n⟩ with
    | none =>
      -- Only a policy that is being deleted goes with an update.
      cases hs.gone hnp hnp' with
      | deleted _ hop => cases hop
      | finalized _ _ _ hdeleting => exact nomatch (h.policies ns n np hnp).1.symm.trans hdeleting
    | some np' =>
      refine ⟨sb, np', hsb', hheld, hlabel, hnp', ?_⟩
      obtain ⟨np₀, hnp₀, -, rfl | ⟨hkey, hspec, -⟩⟩ := hwritten ns n np' hnp'
      · obtain rfl := Option.some.inj (hnp.symm.trans hnp₀)
        exact hselected
      · obtain ⟨hselector, hdeny⟩ := hselects ns n sb hkey hsb
        exact ⟨hspec ▸ hselector, hspec ▸ hdeny⟩
  · obtain ⟨np, hnp, hdeleting, rfl | ⟨-, -, hfin⟩⟩ := hwritten ns n np' hnp'
    · exact h.policies ns n np' hnp
    · exact ⟨hdeleting.trans (h.policies ns n np hnp).1, hfin.trans hfinalizers⟩

/-- The policy of a sandbox without pod is deleted. -/
theorem Guarded.of_policy_delete {ns n site : String}
    {a : Resp Spec Status (.delete .networkPolicy ⟨ns, netPolName n⟩ site)} (h : Guarded c)
    (hs : Step (.delete .networkPolicy ⟨ns, netPolName n⟩ site) c a c')
    (hpod : c.find? .pod ⟨ns, podName n⟩ = none) : Guarded c' := by
  have hsame : SameOutside [.networkPolicy] c c' := hs.sameOutside (within_write rfl (by simp))
  refine ⟨fun ns' n' pod hpod' => ?_, fun ns' n' np hnp => ?_⟩
  · rw [hsame.find? (by decide)] at hpod'
    obtain ⟨sb, np, hsb, hheld, hlabel, hnp, hselects⟩ := h.pods ns' n' pod hpod'
    rw [← hsame.find? (show Kind.sandbox ∉ [Kind.networkPolicy] by decide)] at hsb
    refine ⟨sb, np, hsb, hheld, hlabel, (hs.find? fun he => ?_).trans hnp, hselects⟩
    have hkeys : ns = ns' ∧ netPolName n = netPolName n' := by simpa [Op.target] using he
    rw [← hkeys.1, ← netPolName_inj.mp hkeys.2, hpod] at hpod'
    cases hpod'
  · cases hs.written hnp with
    | kept hold => exact h.policies ns' n' np hold
    | terminated old _ _ hold _ hstays =>
      rcases hstays with hgraceful | hfinalizers
      · simp [KindInfo.graceful] at hgraceful
      · exact absurd (h.policies ns' n' old hold).2 hfinalizers
    | created _ hop | updated _ _ hop | statusUpdated _ _ hop | patched _ _ hop
    | statusPatched _ _ hop => cases hop

/-- A pod is created for a sandbox that holds the finalizer and has its policy. -/
theorem Guarded.of_pod_create {pod : Pod} {ns n : String} {a : Resp Spec Status (.create .pod pod)}
    (h : Guarded c) (hs : Step (.create .pod pod) c a c') (hkey : pod.key = ⟨ns, podName n⟩)
    (howned : Owned c ns n pod.metadata.labels) : Guarded c' := by
  have hsame : SameOutside [.pod] c c' := hs.sameOutside (within_write rfl (by simp))
  have howned' : ∀ ns n labels, Owned c ns n labels → Owned c' ns n labels := by
    rintro ns n labels ⟨sb, np, hsb, hheld, hlabel, hnp, hselects⟩
    rw [← hsame.find? (show Kind.sandbox ∉ [Kind.pod] by decide)] at hsb
    rw [← hsame.find? (show Kind.networkPolicy ∉ [Kind.pod] by decide)] at hnp
    exact ⟨sb, np, hsb, hheld, hlabel, hnp, hselects⟩
  refine ⟨fun ns' n' pod' hpod' => howned' ns' n' _ ?_, fun ns' n' np hnp => ?_⟩
  · cases hs.written hpod' with
    | kept hold => exact h.pods ns' n' pod' hold
    | created o hop hkey' _ hnew =>
      cases hop
      subst hnew
      have hkeys : ns = ns' ∧ podName n = podName n' := by simpa using hkey.symm.trans hkey'
      obtain ⟨rfl, hn⟩ := hkeys
      rw [← podName_inj.mp hn]
      exact howned
    | updated _ _ hop | statusUpdated _ _ hop | patched _ _ hop | statusPatched _ _ hop
    | terminated _ _ hop => cases hop
  · rw [hsame.find? (by decide)] at hnp
    exact h.policies ns' n' np hnp

end Steps

/-! ## Passes -/

/-- Under `key` there is no sandbox with another UID. -/
def SameUID (key : ObjectKey) (uid : String) (c : Cluster) : Prop :=
  ∀ sb, c.find? .sandbox key = some sb → sb.metadata.uid = uid

theorem SameUID.step {op : Call} {c c' : Cluster} {a : Resp Spec Status op} {key : ObjectKey}
    {uid : String} (h : SameUID key uid c) (hs : Step op c a c')
    (hop : ∀ o, op ≠ .create .sandbox o) : SameUID key uid c' := by
  intro sb' hsb'
  obtain ⟨sb, hsb, huid⟩ := sandbox_was hs hsb' hop
  exact huid.trans (h sb hsb)

theorem selects_desired (r : SandboxReconciler) (sb : Sandbox) (tpl : SandboxTemplate)
    (endpoints : List APIServerEndpoint) {np : NetworkPolicy}
    (hspec : np.spec = (r.desiredNetworkPolicy sb tpl endpoints).spec) :
    Selects np sb.metadata.uid := by
  refine ⟨?_, ?_⟩
  · rw [hspec]
    rfl
  · rw [hspec]
    rfl

section Passes

variable {r : SandboxReconciler} {sb : Sandbox} {op : Call} {c c₁ c₂ : Cluster}
  {a : Resp Spec Status op}

/-- A pod is created when the policy is current and the finalizer on. -/
theorem owned_desiredPod {tpl : SandboxTemplate} (serviceAccount : String)
    (hpolicy : PolicyCurrent r c₁ sb tpl) (hfinalizer : HoldsFinalizer c₁ sb) :
    Owned c₁ sb.metadata.namespaceName sb.metadata.name
      (r.desiredPod sb tpl serviceAccount).metadata.labels := by
  obtain ⟨finalizers, rv, hsb, hheld⟩ := hfinalizer
  obtain ⟨endpoints, np, hnp, hspec⟩ := hpolicy
  exact ⟨_, np, hsb, hheld, rfl, hnp, selects_desired r sb tpl endpoints hspec⟩

theorem LiveCall.guarded (h : LiveCall r c sb op c₁) (hs : Step op c₁ a c₂) (hc : Guarded c)
    (hsame : SameUID sb.key sb.metadata.uid c₁) (hg : Guarded c₁) : Guarded c₂ := by
  cases h with
  | read h => exact hg.of_read hs h
  | finalizer =>
    refine hg.of_sandbox_call hs (within_write rfl (by simp)) fun o ns n hop _ _ => ?_
    cases hop
    simp
  | gate h hc' =>
    cases h with
    | policyCreate tpl endpoints => exact hg.of_policy_create hs rfl
    | policyUpdate existing tpl endpoints hkey hstored =>
      have hplain := hg.policies _ _ existing (hkey ▸ hstored)
      refine hg.of_policy_update hs hplain.2 fun ns n sb' hkey' hsb' => ?_
      have hkeys : sb.metadata.namespaceName = ns ∧ netPolName sb.metadata.name = netPolName n := by
        simpa using hkey.symm.trans hkey'
      obtain ⟨rfl, hn⟩ := hkeys
      rw [← netPolName_inj.mp hn] at hsb'
      rw [hsame sb' hsb']
      exact selects_desired r sb tpl endpoints rfl
    | read h => exact hg.of_read hs h
    | claim | caSecret | hostKey =>
      exact hg.of_within hs [.persistentVolumeClaim, .secret] (within_write rfl (by simp))
        (by simp) (by simp) (by simp)
    | rbac granted h => exact hg.of_within hs _ h.within (by simp) (by simp) (by simp)
  | pod tpl hopen h hc' hpolicy hfinalizer =>
    cases h with
    | create serviceAccount =>
      have hlive : PolicyLive c sb := fun np hnp => (hc.policies _ _ np hnp).1
      exact hg.of_pod_create hs rfl (owned_desiredPod serviceAccount (hpolicy hlive) hfinalizer)
    | suspend | recreate =>
      refine hg.of_pod_call hs (within_write rfl (by simp)) fun ns n => ?_
      rintro (⟨o, hop, -⟩ | ⟨o, hop, -⟩ | ⟨change, hop⟩) <;> cases hop
  | status =>
    refine hg.of_sandbox_call hs (within_write rfl (by simp)) fun o ns n hop _ _ => ?_
    cases hop

theorem FinalizeCall.guarded (h : FinalizeCall c sb op c₁) (hs : Step op c₁ a c₂) (hc : Guarded c)
    (hallowed : PolicyOutlivesPod [(op, c₁)]) (hg : Guarded c₁) : Guarded c₂ := by
  cases h with
  | read h => exact hg.of_read hs h
  | terminating =>
    refine hg.of_sandbox_call hs (within_write rfl (by simp)) fun o ns n hop _ _ => ?_
    cases hop
  | child k name h =>
    simp only [ownedChildren, List.mem_cons, Prod.mk.injEq, List.not_mem_nil, or_false] at h
    rcases h with ⟨rfl, rfl⟩ | ⟨rfl, rfl⟩ | ⟨rfl, rfl⟩ | ⟨rfl, rfl⟩
    · refine hg.of_pod_call hs (within_write rfl (by simp)) fun ns n => ?_
      rintro (⟨o, hop, -⟩ | ⟨o, hop, -⟩ | ⟨change, hop⟩) <;> cases hop
    · exact hg.of_within hs [.secret] (within_write rfl (by simp)) (by simp) (by simp)
        (by simp)
    · exact hg.of_policy_delete hs (hallowed _ List.mem_cons_self _ _ _ rfl)
    · exact hg.of_within hs [.serviceAccount] (within_write rfl (by simp)) (by simp)
        (by simp) (by simp)
  | rbac h => exact hg.of_within hs _ h.within (by simp) (by simp) (by simp)
  | session h => exact hg.of_within hs _ h.within (by simp) (by simp) (by simp)
  | claim h => exact hg.of_within hs _ h (by simp) (by simp) (by simp)
  | finalizer sb₁ hstamp hstored hpolicy =>
    have hnone := hpolicy fun np hnp => hc.policies _ _ np hnp
    refine hg.of_sandbox_call hs (within_write rfl (by simp)) fun o ns n hop hkey hpod => ?_
    -- A pod that is still there would have its policy.
    cases hop
    obtain ⟨status, rv, rfl⟩ := hstamp
    obtain ⟨pod, hpod⟩ := Option.ne_none_iff_exists'.mp hpod
    obtain ⟨-, np, -, -, -, hnp, -⟩ := hg.pods ns n pod hpod
    cases hkey
    cases hnone.symm.trans hnp

end Passes

/-- A pass that deletes no policy before its pod is gone keeps the pods guarded, wherever it is
cut short. -/
theorem PartialPass.guarded {r : SandboxReconciler} {key : ObjectKey} {c c' : Cluster}
    {t : List (Call × Cluster)} (h : PartialPass r key c t c') (hallowed : PolicyOutlivesPod t)
    (hc : Guarded c) : Guarded c' := by
  refine (h.preserves (P := fun op c₁ => PassCall r key c op c₁ ∧ PolicyOutlivesPod [(op, c₁)])
    (I := fun c₁ => Guarded c₁ ∧ ∀ sb, c.find? .sandbox key = some sb →
      SameUID key sb.metadata.uid c₁) (fun e he => ⟨h.calls e he, ?_⟩) ?_ ⟨hc, ?_⟩).1
  · intro e' he'
    obtain rfl := List.mem_singleton.mp he'
    exact hallowed e he
  · rintro op c₁ a c₂ ⟨hcall, houtlives⟩ hs ⟨hg, huid⟩
    refine ⟨?_, fun sb hsb => (huid sb hsb).step hs hcall.not_create_sandbox⟩
    cases hcall with
    | absent hread => exact hg.of_read hs hread
    | live sb hsb hlive hcall =>
      exact hcall.guarded hs hc (key_of_find? hsb ▸ huid sb hsb) hg
    | teardown sb hsb hdeleting hcall => exact hcall.guarded hs hc houtlives hg
  · intro sb hsb sb' hsb'
    rw [Option.some.inj (hsb.symm.trans hsb')]

theorem Foreign.guarded {op : Call} {c : Cluster} (h : Foreign op c) (hg : Guarded c) :
    Guarded (handle op c).2 := by
  have hs := step_handle op c
  cases ht : op.target with
  | none => exact hg.of_read hs ht
  | some target =>
    obtain ⟨k, key⟩ := target
    have hwithin : op.Within [k] := within_write ht (by simp)
    by_cases hpod : k = .pod
    · subst hpod
      exact hg.of_pod_call hs hwithin h.pods
    by_cases hsandbox : k = .sandbox
    · subst hsandbox
      refine hg.of_sandbox_call hs hwithin fun o ns n hop hkey hpod => ?_
      obtain ⟨pod, hpod⟩ := Option.ne_none_iff_exists'.mp hpod
      obtain ⟨sb, -, hsb, hheld, -⟩ := hg.pods ns n pod hpod
      exact h.finalizers o sb hop (hkey ▸ hsb) hheld
    have hsame := hs.sameOutside hwithin
    refine hg.of_pods (fun ns n pod' hpod' => ⟨pod', ?_, rfl⟩) (hsame.find? ?_) fun ns n => ?_
    · rwa [hsame.find? (by simpa using Ne.symm hpod)] at hpod'
    · simpa using Ne.symm hsandbox
    · exact hs.find? (h.policies ns n)

/-- In every run in which no network policy is deleted while the pod of its sandbox still exists,
every sandbox pod is covered by a default-deny policy in every state, the states in the middle
of passes included. A run starts without sandbox pods and policies. -/
theorem covered_run (r : SandboxReconciler) (c₀ c : Cluster)
    (hpods : ∀ ns n, c₀.find? .pod ⟨ns, podName n⟩ = none)
    (hpolicies : ∀ ns n, c₀.find? .networkPolicy ⟨ns, netPolName n⟩ = none)
    (hrun : Run r (fun _ _ t => PolicyOutlivesPod t) c₀ c) : PodsCovered c := by
  have hI : RunInvariant r (fun _ _ t => PolicyOutlivesPod t) Guarded :=
    { pass := fun key c t c' hpass hallowed hc => hpass.guarded hallowed hc
      foreign := fun op c hop hc => hop.guarded hc
      tick := fun c t hc => hc.of_pods (fun ns n pod hpod => ⟨pod, hpod, rfl⟩) (fun _ => rfl)
        fun _ _ => rfl
      podGone := fun c key hc => by
        refine hc.of_pods (fun ns n pod hpod => ?_) (fun _ => ?_) fun _ _ => ?_
        · exact ⟨pod, find?_of_remove c .pod key hpod, rfl⟩
        · exact find?_remove_ne c .pod key (by simp)
        · exact find?_remove_ne c .pod key (by simp) }
  refine (hI.run hrun ⟨fun ns n pod hpod => ?_, fun ns n np hnp => ?_⟩).podsCovered
  · exact nomatch (hpods ns n).symm.trans hpod
  · exact nomatch (hpolicies ns n).symm.trans hnp

/-- Alice's sandbox before its first pass. -/
def Team.fresh : Cluster :=
  Team.cluster [Team.template] (Team.sandbox .running {}) []

/-- The call deletes no network policy. -/
def deletesNoPolicy : Call → Bool
  | .delete .networkPolicy _ _ => false
  | _ => true

/-- The first pass creates the pod, and the pod is covered. -/
theorem covered_first_pass : (∃ pod, (Team.pass Team.fresh).find? .pod ⟨"team", podName "dev"⟩ =
    some pod) ∧ PodsCovered (Team.pass Team.fresh) := by
  have hpod : ((Team.pass Team.fresh).find? .pod ⟨"team", podName "dev"⟩).isSome = true := by
    decide +kernel
  have htrace : (passTrace Team.reconciler Team.key Team.fresh).all
      (fun e => deletesNoPolicy e.1) = true := by decide +kernel
  refine ⟨Option.isSome_iff_exists.mp hpod, covered_run Team.reconciler Team.fresh _
    (fun _ _ => rfl) (fun _ _ => rfl) (.single (.pass (partialPass_runPass _ Team.key _) ?_))⟩
  rintro ⟨op, c⟩ he ns n site rfl
  exact nomatch List.all_eq_true.mp htrace _ he

/-- The user deletes the sandbox. -/
def Team.sandboxDeleted (c : Cluster) : Cluster :=
  (handle (.delete .sandbox Team.key "user") c).2

/-- Alice's sandbox is brought up, deleted and torn down. -/
def Team.tornDown : Cluster :=
  Team.pass (Team.sandboxDeleted (Team.pass Team.fresh))

/-- After the teardown the pod is still there and no network policy is. -/
theorem uncovered_after_finalize : ∃ c₀ c, (∀ ns n, c₀.find? .pod ⟨ns, podName n⟩ = none) ∧
    (∀ ns n, c₀.find? .networkPolicy ⟨ns, netPolName n⟩ = none) ∧
    Run Team.reconciler (fun _ _ _ => True) c₀ c ∧ ¬PodsCovered c := by
  have hpod : (Team.tornDown.find? .pod ⟨"team", podName "dev"⟩).isSome = true := by decide +kernel
  have hpolicies : (Team.tornDown.objs .networkPolicy).isEmpty = true := by decide +kernel
  refine ⟨Team.fresh, Team.tornDown, fun _ _ => rfl, fun _ _ => rfl, ?_, fun hcovered => ?_⟩
  · refine ((Relation.ReflTransGen.single (.pass (partialPass_runPass _ Team.key _) trivial)).tail
      (.foreign (foreign_sandbox_delete Team.key "user" _))).tail ?_
    exact .pass (partialPass_runPass _ Team.key _) trivial
  · obtain ⟨pod, hpod⟩ := Option.isSome_iff_exists.mp hpod
    obtain ⟨np, hnp, -⟩ := hcovered "team" "dev" pod hpod
    rw [List.isEmpty_iff.mp hpolicies] at hnp
    cases hnp

end Kubepark

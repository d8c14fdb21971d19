import Kubepark.RbacExact

/-!
# A pod is created behind its guards

Between the start of a pass and the `Create` of the pod lie the finalizer, the home claim, the host
key, the network policy, the access profile and the desired state, each found in place, put in
place or a reason to stop. `Equipped` is what the gates have put in place when they hand over to
the desired-state machine; `pod_create_guarded` reads off it what holds at the moment of the
`Create`.
-/

namespace Kubepark

open ApiServer Client SandboxReconciler Routine

/-- The Secret a pod mounts as its host key. -/
def Pod.hostKeySecret (pod : Pod) : Option String :=
  (pod.spec.volumes.find? fun v => v.name = volumeHostKey).bind fun v =>
    match v.source with
    | .secret name _ => some name
    | _ => none

/-- What guards the creation of `pod` for the sandbox `sb` under the template `tpl`, in the state
`c` in which it is created. -/
structure PodGuards (r : SandboxReconciler) (c : Cluster) (sb : Sandbox) (tpl : SandboxTemplate)
    (pod : Pod) : Prop where
  finalizer : sandboxFinalizer ∈ sb.metadata.finalizers
  live : sb.deleting = false
  wanted : sb.spec.desiredState ≠ .stopped
  awake : ¬Idle c sb tpl sb.status.lastActivityTime
  template : c.find? .sandboxTemplate ⟨"", sb.spec.template⟩ = some tpl
  home : ∃ claim, Pod.homeClaim pod = some claim ∧
    (c.find? .persistentVolumeClaim ⟨pod.metadata.namespaceName, claim⟩).isSome = true
  hostKey : ∃ name, Pod.hostKeySecret pod = some name ∧
    (c.find? .secret ⟨pod.metadata.namespaceName, name⟩).isSome = true
  policy : ∃ np ∈ c.objs .networkPolicy,
    np.metadata.namespaceName = pod.metadata.namespaceName ∧
    np.spec.podSelector.selects pod.metadata.labels = true ∧
    np.spec = (buildNetworkPolicy sb tpl
      { gatewayNamespace := r.effectiveGatewayNamespace
        apiServerEndpoints := clusterEndpoints c }).spec
  account : pod.spec.serviceAccountName ≠ "" ↔ ∃ profile, Grants c sb profile
  token : pod.spec.automountServiceAccountToken = true ↔ ∃ profile, Grants c sb profile
  accountStored : (∃ profile, Grants c sb profile) → (c.find? .serviceAccount
    ⟨pod.metadata.namespaceName, pod.spec.serviceAccountName⟩).isSome = true

/-- If the call creates a pod, then behind its guards. -/
def CreatesGuarded (r : SandboxReconciler) (key : ObjectKey) (op : Call) (c : Cluster) : Prop :=
  ∀ pod, op = .create .pod pod →
    ∃ sb tpl, c.find? .sandbox key = some sb ∧ PodGuards r c sb tpl pod

section Body

variable {r : SandboxReconciler} {sb : Sandbox} {tpl : SandboxTemplate} {c : Cluster}

theorem AccountReady.granted_iff {serviceAccount : String} (h : AccountReady c sb serviceAccount) :
    serviceAccount ≠ "" ↔ ∃ profile, Grants c sb profile := by
  cases h with
  | none hnone => exact iff_of_false (by simp) fun ⟨profile, h⟩ => h.named hnone
  | granted profile hgrants =>
    refine iff_of_true (fun hempty => ?_) ⟨profile, hgrants⟩
    have hlength := congrArg String.length hempty
    simp [saName] at hlength

theorem AccountReady.stored {serviceAccount : String} (h : AccountReady c sb serviceAccount)
    (hgrants : ∃ profile, Grants c sb profile) : (c.find? .serviceAccount
      ⟨sb.metadata.namespaceName, serviceAccount⟩).isSome = true := by
  cases h with
  | none hnone =>
    obtain ⟨profile, hgrants⟩ := hgrants
    exact absurd hnone hgrants.named
  | granted _ _ hstored => exact hstored

/-- What the gates have put in place guards the pod that the machine creates. -/
theorem Equipped.podGuards {c₀ : Cluster} {serviceAccount : String}
    (h : Equipped r sb c₀ tpl serviceAccount c) (hstays : PolicyStays c₀ sb)
    (htpl : c.find? .sandboxTemplate ⟨"", sb.spec.template⟩ = some tpl)
    (hrun : ¬Suspends c sb tpl sb.status.lastActivityTime)
    (hfinalizer : sandboxFinalizer ∈ sb.metadata.finalizers) (hlive : sb.deleting = false) :
    PodGuards r c sb tpl (r.desiredPod sb tpl serviceAccount) where
  finalizer := hfinalizer
  live := hlive
  wanted hstopped := hrun (Or.inl hstopped)
  awake hidle := hrun (Or.inr hidle)
  template := htpl
  home := ⟨homeClaim sb, homeClaim_buildPod sb tpl _, h.home⟩
  hostKey := ⟨hostKeyName sb.metadata.name, by simp [Pod.hostKeySecret, desiredPod,
    setControllerReference, buildPod, volumeHome, volumeAgent, volumeHostKey], h.hostKey⟩
  policy := by
    obtain ⟨np, hnp, hspec⟩ := h.policy hstays
    refine ⟨np, mem_of_find? hnp, congrArg (·.namespaceName) (key_of_find? hnp), ?_, hspec⟩
    have hlabel : (labels sb).lookup labelSandboxUID = some sb.metadata.uid := rfl
    have hselector : np.spec.podSelector = ⟨[(labelSandboxUID, sb.metadata.uid)]⟩ :=
      congrArg (·.podSelector) hspec
    simp [LabelSelector.selects, hselector, desiredPod, setControllerReference, buildPod, hlabel]
  account := h.account.granted_iff
  token := decide_eq_true_iff.trans h.account.granted_iff
  accountStored := h.account.stored

/-- The pods that a pass creates between the finalizer and the status. -/
theorem reconcileSandbox_podGuards {c₀ c₁ : Cluster} {sb₁ : Sandbox} {st : SandboxStatus}
    (hprep : Prepared c₀ sb c₁ sb₁) (hlive : sb.deleting = false) (hstays : PolicyStays c₀ sb)
    (hactivity : st.lastActivityTime = sb.status.lastActivityTime) :
    (r.reconcileSandbox sb).wp Step (CreatesGuarded r sb.key)
      (fun _ _ c' => SameOutside (Kind.pod :: gateKinds) c₁ c') st c₁ := by
  obtain ⟨finalizers, rv, hstamp⟩ := id hprep.stamp
  have hlive₁ : sb₁.deleting = false := hstamp ▸ hlive
  have hstays₁ : PolicyStays c₁ sb₁ := by
    rw [policyStays_congr _ hprep.outside (by decide), hstamp]
    exact hstays
  have hactivity₁ : st.lastActivityTime = sb₁.status.lastActivityTime := by
    rw [hactivity, hstamp]
    rfl
  rw [← reconcileSandbox_stamped r sb finalizers rv, ← hstamp]
  refine wp_reconcileSandbox_equipped r sb₁ (fun _ _ _ _ _ => id) ?_ ?_ ?_
  · rintro g op c h - pod rfl
    exact absurd (Gate.kinds_subset _ _ (h.within _ rfl)) (by simp [gateKinds])
  · intro _ _ st' c' _ _ hc'
    exact hc'.mono fun _ hk => List.mem_cons_of_mem _ hk
  · intro tpl hopen serviceAccount st₂ c₂ hstanding hc₂ hequipped
    have hactivity₂ : st₂.lastActivityTime = sb₁.status.lastActivityTime :=
      (congrArg (fun p => p.1.2.2) hstanding).trans hactivity₁
    have hstored : c₂.find? .sandbox sb.key = some sb₁ :=
      (hc₂.find? (by decide) _).trans hprep.stored
    have htpl : c₂.find? .sandboxTemplate ⟨"", sb₁.spec.template⟩ = some tpl :=
      (hc₂.find? (by decide) _).trans hopen.template
    have hdrive := wp_driveState (P := fun op c => OnlyPod r sb₁ tpl serviceAccount op ∧
      (op.target = none ∨ PodCall r sb₁ tpl st₂.lastActivityTime op c ∧ c = c₂)) r sb₁ tpl
      serviceAccount ?_ fun op hcall honly => ⟨honly, Or.inr ⟨hcall, rfl⟩⟩
    · have hwithin : ∀ op c', OnlyPod r sb₁ tpl serviceAccount op ∧
          (op.target = none ∨ PodCall r sb₁ tpl st₂.lastActivityTime op c' ∧ c' = c₂) →
          op.Within [.pod] := by
        rintro op c' ⟨-, hread | ⟨hcall, -⟩⟩
        · exact within_read hread
        · exact hcall.within
      refine wp_mono (wp_sameOutside hwithin hdrive) ?_ ?_
      · rintro op c' ⟨⟨honly, hread | ⟨hcall, rfl⟩⟩, -⟩ pod rfl
        · cases hread
        obtain rfl : pod = r.desiredPod sb₁ tpl serviceAccount := honly
        rw [hactivity₂] at hcall
        cases hcall with
        | create _ hrun =>
          exact ⟨sb₁, tpl, hstored, hequipped.podGuards hstays₁ htpl hrun hprep.finalizer hlive₁⟩
      · rintro _ _ c' ⟨-, hc'⟩
        exact (hc₂.mono fun _ hk => List.mem_cons_of_mem _ hk).trans (hc'.mono (by simp))
    · intro op c' hread
      refine ⟨?_, Or.inl hread⟩
      unfold OnlyPod
      split
      · cases hread
      · trivial

/-- The pods that a pass creates. -/
theorem reconcile_podGuards (r : SandboxReconciler) (key : ObjectKey) (c : Cluster)
    (hstays : ∀ sb, c.find? .sandbox key = some sb → PolicyStays c sb) :
    (r.reconcile key).Always Step (CreatesGuarded r key) () c := by
  refine wp_bind.mpr (wp_getOptional.mpr ⟨?_, ?_⟩)
  · rintro pod ⟨⟩
  cases hsb : c.find? .sandbox key with
  | none => trivial
  | some sb =>
    obtain rfl := key_of_find? hsb
    refine wp_ite (fun _ => ?_) fun hdeleting => ?_
    · refine wp_mono (finalize_calls sb hsb) ?_ fun _ _ _ _ => trivial
      rintro op c' h pod rfl
      cases h with
      | read h => cases h
      | rbac h => exact absurd (h.within _ rfl) (by simp)
      | session h => exact absurd (h.within _ rfl) (by simp)
      | claim h => exact absurd (h _ rfl) (by simp)
    have hlive : sb.deleting = false := by simpa using hdeleting
    refine wp_reconcileLive_of (R := fun c₁ _ out c₂ => Routine.okPost (fun _ _ c' =>
      SameOutside (Kind.pod :: gateKinds) c₁ c') out c₂) r (fun _ _ _ _ _ => id) hsb hlive
      (fun pod hop => nomatch hop)
      (fun c₁ sb₁ hprep => reconcileSandbox_podGuards hprep hlive (hstays sb hsb) rfl)
      (fun _ _ _ _ _ _ pod hop => nomatch hop) ?_ fun _ _ _ _ _ _ _ _ _ _ _ _ => trivial
    exact fun c₁ sb₁ result st' c₂ hprep hR => (hR.find? (by decide) _).trans hprep.stored

end Body

/-- Whenever a pass creates a pod, wherever the pass is cut short later and whichever of its calls
fail, at that moment everything that guards the pod is in place. -/
theorem pod_create_guarded (r : SandboxReconciler) (key : ObjectKey) (c c' : Cluster)
    (t : List (Call × Cluster)) (hpass : PartialPass r key c t c')
    (hstays : ∀ sb, c.find? .sandbox key = some sb → PolicyStays c sb) (pod : Pod)
    (c₁ : Cluster) (hcreate : (Op.create .pod pod, c₁) ∈ t) :
    ∃ sb tpl, c₁.find? .sandbox key = some sb ∧ PodGuards r c₁ sb tpl pod := by
  have hcalls : ∀ e ∈ t, CreatesGuarded r key e.1 e.2 :=
    Prog.Visits.wp hpass (reconcile_podGuards r key c hstays)
  exact hcalls _ hcreate pod rfl

/-- The call creates a pod with credentials. -/
def CreatesWithAccount : Call → Bool
  | .create .pod pod => pod.spec.serviceAccountName ≠ ""
  | _ => false

/-- A pass over a new sandbox under a profile that permits it creates its pod, with credentials. -/
theorem pod_create_guarded_editing : ∃ pod c₁, (Op.create .pod pod, c₁) ∈
    passTrace Team.reconciler Team.key Tenants.granting ∧ pod.spec.serviceAccountName ≠ "" ∧
    ∃ sb tpl, c₁.find? .sandbox Team.key = some sb ∧ PodGuards Team.reconciler c₁ sb tpl pod := by
  have htrace : (passTrace Team.reconciler Team.key Tenants.granting).any
      (fun e => CreatesWithAccount e.1) = true := by decide +kernel
  obtain ⟨⟨op, c₁⟩, hmem, hcreate⟩ := List.any_eq_true.mp htrace
  unfold CreatesWithAccount at hcreate
  split at hcreate
  · rename_i pod hop
    subst hop
    refine ⟨pod, c₁, hmem, of_decide_eq_true hcreate, ?_⟩
    refine pod_create_guarded Team.reconciler Team.key Tenants.granting _ _
      (partialPass_runPass _ _ _) (fun sb _ np hnp => ?_) pod c₁ hmem
    exact nomatch mem_of_find? hnp
  · cases hcreate

end Kubepark

import Kubepark.ClusterRuns
import Kubepark.PartialGrants

/-!
# A pass in which no call fails

What a pass needs in order not to fail : the namespace of its sandbox, the namespace of the
operator with a host CA that can be read, if there is a CA at all, and every namespace that a
permitted profile grants (`Able`). Everything else that is missing, a template, a claim, a profile,
ends a pass early but without an error. `succeeds_pass` : over such a sandbox a pass fails only
because a call fails. The stages are taken one by one, each from what the stages before it leave
alone.
-/

namespace Kubepark

open ApiServer Client SandboxReconciler Routine

/-- The host CA in `ns`, if the Secret is there, can be read. -/
def HostCAReadable (c : Cluster) (ns : String) : Prop :=
  ∀ ca, c.find? .secret ⟨ns, caSecretName⟩ = some ca →
    ∃ key, parseSigner (Secret.entry ca keyHostCAPrivate) = .ok key

/-- Every namespace that a profile grants to `sb` is there. -/
def GrantsPlaced (c : Cluster) (sb : Sandbox) : Prop :=
  ∀ profile, Grants c sb profile → ∀ ns ∈ grantNamespaces profile, HasNamespace c ns

/-- What a pass over `sb` needs in order not to fail. -/
structure Able (r : SandboxReconciler) (c : Cluster) (sb : Sandbox) : Prop where
  own : HasNamespace c sb.metadata.namespaceName
  operator : HasNamespace c r.operatorNamespace
  hostCA : HostCAReadable c r.operatorNamespace
  granted : GrantsPlaced c sb

theorem HasNamespace.congr {ks : List Kind} {c c' : Cluster} {ns : String} (h : HasNamespace c ns)
    (hc : SameOutside ks c c') (hks : Kind.namespace ∉ ks) : HasNamespace c' ns := by
  rw [HasNamespace, hc.find? hks]
  exact h

theorem GrantsPlaced.congr {ks : List Kind} {c c' : Cluster} {sb : Sandbox}
    (h : GrantsPlaced c sb) (hc : SameOutside ks c c') (hnamespaces : Kind.namespace ∉ ks)
    (hprofiles : Kind.accessProfile ∉ ks) : GrantsPlaced c' sb := by
  intro profile hgrants ns hns
  refine (h profile ⟨hgrants.named, ?_, hgrants.allowed⟩ ns hns).congr hc hnamespaces
  exact (hc.find? hprofiles _).symm.trans hgrants.stored

theorem Able.congr {ks : List Kind} {r : SandboxReconciler} {c c' : Cluster} {sb : Sandbox}
    (h : Able r c sb) (hc : SameOutside ks c c') (hnamespaces : Kind.namespace ∉ ks)
    (hsecrets : Kind.secret ∉ ks) (hprofiles : Kind.accessProfile ∉ ks) : Able r c' sb where
  own := h.own.congr hc hnamespaces
  operator := h.operator.congr hc hnamespaces
  hostCA ca hca := h.hostCA ca ((hc.find? hsecrets _).symm.trans hca)
  granted := h.granted.congr hc hnamespaces hprofiles

/-! ## The gates -/

section Gates

variable {r : SandboxReconciler} {sb : Sandbox} {st : SandboxStatus} {c : Cluster}

theorem succeeds_claimConflict (claim : String) :
    (claimConflict sb claim).Succeeds Faithful (fun _ _ c' => c' = c) st c := by
  refine Routine.Succeeds.bind (succeeds_list (Q := fun _ _ c' => c' = c) rfl) ?_
  rintro others st c rfl
  refine Routine.Succeeds.bind (R := fun _ _ c' => c' = c) ?_ fun _ _ _ h =>
    succeeds_pure h
  unfold generatedClaimOwner
  cases ownerOfGeneratedClaim claim with
  | none => exact succeeds_pure rfl
  | some owner =>
    refine succeeds_ite (fun _ => ?_) fun _ => succeeds_pure rfl
    refine Routine.Succeeds.bind (succeeds_getOptional (Q := fun _ _ c' => c' = c) rfl) ?_
    exact fun _ _ _ h => succeeds_pure h

theorem succeeds_reconcileHome {tpl : SandboxTemplate}
    (htpl : c.find? .sandboxTemplate ⟨"", sb.spec.template⟩ = some tpl)
    (hown : HasNamespace c sb.metadata.namespaceName) :
    (reconcileHome sb).Succeeds Faithful (fun _ _ _ => True) st c := by
  have hready : ∀ claim st c, (homeReady sb claim).Succeeds Faithful (fun _ _ _ => True) st c :=
    fun claim st c => ⟨none, rfl, trivial⟩
  have hblocked : ∀ reason message result st c, (homeBlocked sb reason message result).Succeeds
      Faithful (fun _ _ _ => True) st c := fun _ _ result st c => ⟨some result, rfl, trivial⟩
  unfold reconcileHome
  cases existingClaim sb with
  | some claim =>
    refine (succeeds_claimConflict claim).bind fun conflict st c' _ => ?_
    refine succeeds_ite (fun _ => hblocked _ _ _ _ _) fun _ => ?_
    refine Routine.Succeeds.bind (succeeds_getOptional (Q := fun _ _ _ => True) trivial) ?_
    rintro pvc st c'' -
    cases pvc with
    | none => exact hblocked _ _ _ _ _
    | some pvc => exact hready _ _ _
  | none =>
    refine Routine.Succeeds.bind (succeeds_get (Q := fun _ _ c' => c' = c) htpl rfl) ?_
    rintro tpl st c rfl
    refine Routine.Succeeds.bind (succeeds_getOptional (Q := fun _ _ c' => c' = c) rfl) ?_
    rintro pvc st c rfl
    cases pvc with
    | none =>
      exact Routine.Succeeds.bind (succeeds_createIfAbsent (Q := fun _ _ _ => True)
        ((admits_iff rfl).mpr hown) trivial) fun _ st c _ => hready _ st c
    | some pvc => exact hready _ _ _

theorem succeeds_generateKeyPair {σ : Type} {st : σ} (comment : String) :
    (generateKeyPair comment : ClientM σ KeyPair).Succeeds Faithful (fun kp _ c' =>
      (∃ n, kp = ⟨.privatePEM n comment, .publicAuthorized n⟩) ∧
        ∃ n, c' = { c with entropy := n }) st c :=
  succeeds_call_bind (succeeds_pure ⟨⟨_, rfl⟩, _, rfl⟩)

theorem handle_create {k : Kind} {o : Obj k} (hadmits : c.admits k o = true)
    (hnone : c.find? k o.key = none) :
    handle (.create k o) c = (.ok (c.versioned (c.created o)), c.write k (c.created o)) := by
  simp only [handle, hadmits, hnone, ↓reduceIte]

/-- The CA is there or is made; either way its host CA can be read. -/
theorem succeeds_ensureCASecret {σ : Type} {st : σ} {ns : String} (hns : HasNamespace c ns)
    (hca : HostCAReadable c ns) :
    (ensureCASecret ns : ClientM σ Secret).Succeeds Faithful (fun ca _ _ =>
      ∃ key, parseSigner (Secret.entry ca keyHostCAPrivate) = .ok key) st c := by
  refine succeeds_call_bind ?_
  cases hfind : c.find? .secret ⟨ns, caSecretName⟩ with
  | some ca =>
    simp only [handle, hfind]
    exact succeeds_pure (hca ca hfind)
  | none =>
    simp only [handle, hfind]
    refine succeeds_ite (fun _ => ?_) fun h => absurd rfl h
    refine (succeeds_generateKeyPair _).bind ?_
    rintro userCA st _ ⟨-, n, rfl⟩
    refine (succeeds_generateKeyPair _).bind ?_
    rintro _ st _ ⟨⟨key, rfl⟩, n', rfl⟩
    refine Routine.Succeeds.bind (R := fun _ _ c' => ∃ n, c' = { c with entropy := n })
      (succeeds_call_bind (succeeds_pure ⟨_, rfl⟩)) ?_
    rintro hmacKey st _ ⟨n, rfl⟩
    -- drawing the keys has left the store as it was
    refine succeeds_call_bind ?_
    rw [handle_create ((admits_iff rfl).mpr hns) hfind]
    exact succeeds_pure ⟨key, rfl⟩

theorem succeeds_reconcileHostKey (hable : Able r c sb) :
    (r.reconcileHostKey sb).Succeeds Faithful (fun _ _ _ => True) st c := by
  refine Routine.Succeeds.bind (succeeds_getOptional (Q := fun _ _ c' => c' = c) rfl) ?_
  rintro existing st c rfl
  cases existing with
  | some existing => exact succeeds_pure trivial
  | none =>
    have hcalls : (ensureCASecret r.operatorNamespace).Always Step
        (fun op _ => op.Within Gate.hostKey.kinds) st c :=
      wp_mono (ensureCASecret_calls r sb) (fun _ _ h => h.within) fun _ _ _ h => h
    refine (succeeds_sameOutside (succeeds_ensureCASecret hable.operator hable.hostCA)
      hcalls).bind ?_
    rintro ca st c₁ ⟨⟨key, hkey⟩, hc₁⟩
    have hown := hable.own.congr hc₁ (by decide)
    rw [hkey]
    refine (succeeds_pure (Q := fun _ _ c' => c' = c₁) rfl).bind ?_
    rintro hostCA st c₁ rfl
    refine (succeeds_generateKeyPair _).bind ?_
    rintro _ st _ ⟨⟨key, rfl⟩, n, rfl⟩
    refine Routine.Succeeds.bind (succeeds_pure
      (Q := fun _ _ c' => HasNamespace c' sb.metadata.namespaceName) hown) ?_
    intro hostPub st c₂ hown₂
    refine Routine.Succeeds.bind (succeeds_now
      (Q := fun _ _ c' => HasNamespace c' sb.metadata.namespaceName) hown₂) ?_
    intro t st c₃ hown₃
    refine Routine.Succeeds.bind
      (R := fun _ _ c' => HasNamespace c' sb.metadata.namespaceName) ?_ ?_
    · exact succeeds_call_bind (succeeds_pure hown₃)
    · exact fun cert st c₄ hown₄ =>
        succeeds_createIfAbsent ((admits_iff rfl).mpr hown₄) trivial

theorem succeeds_reconcileNetworkPolicy (tpl : SandboxTemplate)
    (hown : HasNamespace c sb.metadata.namespaceName) :
    (r.reconcileNetworkPolicy sb tpl).Succeeds Faithful (fun _ _ _ => True) st c := by
  refine Routine.Succeeds.bind (R := fun _ _ c' => c' = c)
    (succeeds_call_bind (succeeds_pure rfl)) ?_
  rintro endpoints st c rfl
  refine Routine.Succeeds.bind (succeeds_getOptional (Q := fun o _ c' =>
    o = c.find? .networkPolicy (r.desiredNetworkPolicy sb tpl endpoints).key ∧ c' = c)
    ⟨rfl, rfl⟩) ?_
  rintro _ st c ⟨rfl, rfl⟩
  cases hold : c.find? .networkPolicy (r.desiredNetworkPolicy sb tpl endpoints).key with
  | none => exact succeeds_createIfAbsent ((admits_iff rfl).mpr hown) trivial
  | some existing =>
    refine succeeds_ite (fun _ => ?_) fun _ => succeeds_pure trivial
    have hkey := key_of_find? hold
    refine Routine.Succeeds.bind (succeeds_update (Q := fun _ _ _ => True) (o := existing)
      (hkey ▸ hold) rfl trivial) ?_
    exact fun _ _ _ _ => succeeds_pure trivial

theorem succeeds_withoutCredentials (status : ConditionStatus) (reason : ConditionReason)
    (message : String) (ready : Bool) :
    (withoutCredentials sb status reason message ready).Succeeds Faithful (fun _ _ _ => True)
      st c :=
  (succeeds_gcRBAC sb none).bind fun _ _ _ _ => ⟨{ ready := ready }, rfl, trivial⟩

theorem succeeds_reconcileRBAC_placed (hown : HasNamespace c sb.metadata.namespaceName)
    (hgranted : GrantsPlaced c sb) :
    (reconcileRBAC sb).Succeeds Faithful (fun _ _ _ => True) st c := by
  refine succeeds_ite (fun _ => succeeds_withoutCredentials _ _ _ _) fun hnamed => ?_
  refine Routine.Succeeds.bind (succeeds_getOptional (Q := fun o _ c' =>
    o = c.find? .accessProfile ⟨"", sb.spec.accessProfile⟩ ∧ c' = c) ⟨rfl, rfl⟩) ?_
  rintro _ st c ⟨rfl, rfl⟩
  cases hprofile : c.find? .accessProfile ⟨"", sb.spec.accessProfile⟩ with
  | none => exact succeeds_withoutCredentials _ _ _ _
  | some profile =>
    refine succeeds_ite (fun _ => succeeds_withoutCredentials _ _ _ _) fun hallowed => ?_
    have hexist := hgranted profile ⟨hnamed, hprofile, not_not.mp hallowed⟩
    refine Routine.Succeeds.bind (succeeds_createIfAbsent (Q := fun _ _ c' =>
      ∀ ns ∈ grantNamespaces profile, HasNamespace c' ns) ((admits_iff rfl).mpr hown) ?_) ?_
    · intro ns hns
      rw [HasNamespace, find?_ensured_ne (by simp)]
      exact hexist ns hns
    intro _ st c₁ hexist₁
    refine (succeeds_applyRoleBindings hexist₁).bind fun _ st c₂ _ => ?_
    exact (succeeds_gcRBAC sb _).bind fun _ _ _ _ => ⟨_, rfl, trivial⟩

end Gates

/-! ## The desired-state machine -/

section Machine

variable {r : SandboxReconciler} {sb : Sandbox} {st : SandboxStatus} {c : Cluster}

theorem succeeds_suspend : (suspend sb).Succeeds Faithful (fun _ _ _ => True) st c := by
  refine Routine.Succeeds.bind (succeeds_modify (Q := fun _ _ _ => True) trivial) ?_
  rintro _ st c -
  refine Routine.Succeeds.bind (succeeds_getOptional (Q := fun _ _ _ => True) trivial) ?_
  rintro pod st c -
  cases pod with
  | none => exact ⟨_, rfl, trivial⟩
  | some pod =>
    refine Routine.Succeeds.bind (succeeds_modify (Q := fun _ _ _ => True) trivial) ?_
    rintro _ st c -
    refine succeeds_ite (fun _ => succeeds_pure trivial) fun _ => ?_
    refine Routine.Succeeds.bind (succeeds_deleteIfPresent (Q := fun _ _ _ => True) trivial) ?_
    exact fun _ _ _ _ => succeeds_pure trivial

theorem succeeds_run (tpl : SandboxTemplate) (currentHash serviceAccount : String)
    (hown : HasNamespace c sb.metadata.namespaceName) :
    (r.run sb tpl currentHash serviceAccount).Succeeds Faithful (fun _ _ _ => True) st c := by
  have hdrift : ∀ st c, (reportDrift sb currentHash >>= fun _ => pure {} :
      SandboxM Result).Succeeds Faithful (fun _ _ _ => True) st c := by
    intro st c
    refine Routine.Succeeds.bind (R := fun _ _ _ => True) ?_ fun _ _ _ _ =>
      succeeds_pure trivial
    refine Routine.Succeeds.bind (succeeds_record (Q := fun _ _ _ => True) trivial) ?_
    exact fun _ _ _ _ => succeeds_ite (fun _ => ⟨_, rfl, trivial⟩) fun _ =>
      ⟨_, rfl, trivial⟩
  refine Routine.Succeeds.bind (succeeds_getOptional (Q := fun _ _ c' => c' = c) rfl) ?_
  rintro pod st c rfl
  cases pod with
  | none =>
    refine Routine.Succeeds.bind (succeeds_createIfAbsent (Q := fun _ _ _ => True)
      ((admits_iff rfl).mpr hown) trivial) ?_
    exact fun _ _ _ _ => ⟨_, rfl, trivial⟩
  | some pod =>
    refine Routine.Succeeds.bind (succeeds_modify (Q := fun _ _ _ => True) trivial) ?_
    rintro _ st c -
    refine succeeds_ite (fun _ => ?_) fun _ => ?_
    · refine succeeds_ite (fun _ => ⟨_, rfl, trivial⟩) fun _ => ?_
      refine Routine.Succeeds.bind (succeeds_deleteIfPresent (Q := fun _ _ _ => True) trivial) ?_
      exact fun _ _ _ _ => ⟨_, rfl, trivial⟩
    refine succeeds_ite (fun _ => ?_) fun _ => ?_
    · refine Routine.Succeeds.bind (R := fun _ _ _ => True) ?_ fun _ st c _ => hdrift st c
      refine Routine.Succeeds.bind (succeeds_now (Q := fun _ _ _ => True) trivial) ?_
      exact fun _ _ _ _ => ⟨_, rfl, trivial⟩
    · exact Routine.Succeeds.bind (R := fun _ _ _ => True) ⟨_, rfl, trivial⟩
        fun _ st c _ => hdrift st c

theorem succeeds_driveState (tpl : SandboxTemplate) (serviceAccount : String)
    (hown : HasNamespace c sb.metadata.namespaceName) :
    (r.driveState sb tpl serviceAccount).Succeeds Faithful (fun _ _ _ => True) st c := by
  refine succeeds_ite (fun _ => succeeds_suspend) fun _ => ?_
  refine Routine.Succeeds.bind (R := fun _ _ c' => c' = c) ?_ ?_
  · refine Routine.Succeeds.bind (succeeds_list (Q := fun _ _ c' => c' = c) rfl) ?_
    exact fun _ _ _ h => succeeds_pure h
  rintro active st c rfl
  refine Routine.Succeeds.bind (succeeds_modify (Q := fun _ _ c' => c' = c) rfl) ?_
  rintro _ st c rfl
  refine Routine.Succeeds.bind (succeeds_record (Q := fun _ _ c' => c' = c) rfl) ?_
  rintro st₁ st c rfl
  refine Routine.Succeeds.bind (succeeds_now (Q := fun _ _ c' => c' = c) rfl) ?_
  rintro t st c rfl
  refine succeeds_ite (fun _ => succeeds_suspend) fun _ => ?_
  refine (succeeds_run tpl _ serviceAccount hown).bind ?_
  rintro result st c' -
  refine Routine.Succeeds.bind (succeeds_record (Q := fun _ _ _ => True) trivial) ?_
  rintro st₂ st c' -
  refine Routine.Succeeds.bind (succeeds_now (Q := fun _ _ _ => True) trivial) ?_
  exact fun _ _ _ _ => succeeds_pure trivial

end Machine

/-! ## A whole pass -/

section Pass

variable {r : SandboxReconciler} {sb : Sandbox} {st : SandboxStatus} {c : Cluster}

/-- A gate that does not fail, with what it leaves alone. -/
theorem succeeds_gate {α : Type} {x : SandboxM α} {g : Gate}
    (hx : x.Succeeds Faithful (fun _ _ _ => True) st c)
    (hcalls : x.Always Step (GateCall r sb g) st c) :
    x.Succeeds Faithful (fun _ _ c' => SameOutside g.kinds c c') st c :=
  (succeeds_sameOutside hx (wp_mono hcalls (fun _ _ h => h.within)
    fun _ _ _ h => h)).mono fun _ _ _ h => h.2

theorem succeeds_reconcileSandbox (hable : Able r c sb) :
    (r.reconcileSandbox sb).Succeeds Faithful (fun _ _ _ => True) st c := by
  have hpending : ∀ reason message st c, (pendingWith sb reason message).Succeeds Faithful
      (fun _ _ _ => True) st c := fun _ _ _ _ => ⟨_, rfl, trivial⟩
  refine Routine.Succeeds.bind (succeeds_getOptional (Q := fun o _ c' =>
    o = c.find? .sandboxTemplate ⟨"", sb.spec.template⟩ ∧ c' = c) ⟨rfl, rfl⟩) ?_
  rintro _ st c ⟨rfl, rfl⟩
  cases htpl : c.find? .sandboxTemplate ⟨"", sb.spec.template⟩ with
  | none => exact hpending _ _ _ _
  | some tpl =>
    refine (succeeds_gate (succeeds_reconcileHome htpl hable.own)
      (reconcileHome_calls r sb)).bind ?_
    intro requeue st c₁ hc₁
    cases requeue with
    | some requeue => exact succeeds_pure trivial
    | none =>
      have hable₁ := hable.congr hc₁ (by decide) (by decide) (by decide)
      refine (succeeds_gate (succeeds_reconcileHostKey hable₁)
        (reconcileHostKey_calls r sb)).bind ?_
      intro _ st c₂ hc₂
      have hown₂ := hable₁.own.congr hc₂ (by decide)
      have hgranted₂ := hable₁.granted.congr hc₂ (by decide) (by decide)
      refine (succeeds_gate (succeeds_reconcileNetworkPolicy tpl hown₂)
        (reconcileNetworkPolicy_calls r sb tpl)).bind ?_
      intro _ st c₃ hc₃
      have hown₃ := hown₂.congr hc₃ (by decide)
      have hrbac : (reconcileRBAC sb).Always Step (GateCall r sb .rbac) st c₃ :=
        wp_mono (reconcileRBAC_calls sb) (fun _ _ h => .rbac _ h) fun _ _ _ h => h
      refine (succeeds_gate (succeeds_reconcileRBAC_placed hown₃
        (hgranted₂.congr hc₃ (by decide) (by decide))) hrbac).bind ?_
      intro rbac st c₄ hc₄
      refine succeeds_ite (fun _ => ?_) fun _ => hpending _ _ _ _
      exact succeeds_driveState tpl _ (hown₃.congr hc₄ (by decide))

theorem succeeds_ensureFinalizer_prepared (hsb : c.find? .sandbox sb.key = some sb)
    (hlive : sb.deleting = false) :
    (ensureFinalizer sb : ClientM Unit Sandbox).Succeeds Faithful
      (fun sb₁ _ c₁ => Prepared c sb c₁ sb₁) () c := by
  refine (Routine.Succeeds.and (P := fun _ _ => True) (Q := fun _ _ _ => True) ?_
    (wp_faithful (wp_ensureFinalizer hsb hlive trivial fun _ _ h => h))).mono fun _ _ _ h => h.2
  refine succeeds_ite (fun _ => succeeds_pure trivial) fun _ => ?_
  exact succeeds_update hsb rfl trivial

/-- Over a live sandbox that has what it needs, a pass fails only because a call fails. -/
theorem succeeds_pass {key : ObjectKey} (hsb : c.find? .sandbox key = some sb)
    (hlive : sb.deleting = false) (hable : Able r c sb) :
    (r.reconcile key).Succeeds Faithful (fun _ _ c' => ∃ sb', PassOutcome c sb c' sb') () c := by
  refine (Routine.Succeeds.and (Q := fun _ _ _ => True) ?_
    (wp_faithful (wp_reconcile_live r hsb hlive))).mono fun _ _ _ h => h.2
  obtain rfl := key_of_find? hsb
  refine Routine.Succeeds.bind (succeeds_getOptional (Q := fun o _ c' => o = some sb ∧ c' = c)
    ⟨hsb, rfl⟩) ?_
  rintro _ _ c ⟨rfl, rfl⟩
  refine succeeds_ite (fun h => absurd h (by simp [hlive])) fun _ => ?_
  refine (succeeds_ensureFinalizer_prepared hsb hlive).bind ?_
  rintro sb₁ _ c₁ hprep
  have hable₁ := hable.congr hprep.outside (by decide) (by decide) (by decide)
  have hstored := hprep.stored
  have hbody := (succeeds_reconcileSandbox hable₁).and
    (wp_faithful (wp_reconcileSandbox_prepared r hprep))
  obtain ⟨finalizers, rv, rfl⟩ := hprep.stamp
  refine succeeds_runFrom_bind hbody ?_
  rintro result st c₂ ⟨-, hc₂, -⟩
  have hstored₂ := (hc₂.find? (by decide) _).trans hstored
  refine succeeds_runFrom_bind (R := fun _ _ _ => True) ?_ ?_
  · refine succeeds_ite (fun _ => succeeds_pure trivial) fun _ => ?_
    refine Routine.Succeeds.bind (succeeds_updateStatusIfPresent (Q := fun _ _ _ => True)
      hstored₂ rfl trivial) ?_
    exact fun _ _ _ _ => succeeds_pure trivial
  · exact fun _ _ _ _ => ⟨_, rfl, trivial⟩

end Pass

end Kubepark

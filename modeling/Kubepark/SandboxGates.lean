import Kubepark.SandboxController

/-!
# The calls of the gates

What the gates of a pass may ask of the API server, said once. `GateCall` lists the calls
made before the desired-state machine is reached : reads, creates of the home claim, of
Secrets and of the ServiceAccount, and writes of the sandbox's network policy and of
RoleBindings. The `…_calls` theorems say that each routine makes no other call, whatever
the server answers.

No gate touches a kind outside its own (`GateCall.within`), so the desired-state machine sees
the sandboxes, templates, profiles, sessions and pods as they were.
-/

namespace Kubepark

open ApiServer Client Routine

/-- The gates of a pass that write. -/
inductive Gate
  | home
  | hostKey
  | networkPolicy
  | rbac

/-- The kinds a gate writes. -/
def Gate.kinds : Gate → List Kind
  | home => [.persistentVolumeClaim]
  | hostKey => [.secret]
  | networkPolicy => [.networkPolicy]
  | rbac => [.serviceAccount, .roleBinding]

/-- The kinds the gates write. -/
def gateKinds : List Kind :=
  [.persistentVolumeClaim, .secret, .networkPolicy, .serviceAccount, .roleBinding]

/-- The namespaces in which `sb` is granted something : those of its profile, if that exists and
permits the namespace of the sandbox. -/
def grantedNamespaces (c : Cluster) (sb : Sandbox) : List String :=
  if sb.spec.accessProfile = "" then []
  else
    match c.find? .accessProfile ⟨"", sb.spec.accessProfile⟩ with
    | none => []
    | some profile =>
      if sb.metadata.namespaceName ∉ profile.spec.allowedNamespaces then []
      else grantNamespaces profile

/-- The calls of `reconcileRBAC` for a sandbox that is granted the namespaces `granted`. -/
inductive RbacCall (sb : Sandbox) (granted : List String) : Call → Cluster → Prop
  | read {op : Call} {c : Cluster} (h : op.target = none) : RbacCall sb granted op c
  | serviceAccount {c : Cluster} (profile : AccessProfile) :
    RbacCall sb granted (.create Kind.serviceAccount
      (setControllerReference sb (buildServiceAccount sb profile))) c
  | create {c : Cluster} (profile : AccessProfile) (ns : String) (hns : ns ∈ granted) :
    RbacCall sb granted (.create Kind.roleBinding (buildRoleBinding sb profile ns)) c
  | update {c : Cluster} (existing : RoleBinding) (ns : String) (hns : ns ∈ granted)
    (hkey : existing.key = ⟨ns, roleBindingName sb.metadata.name⟩)
    (hstored : c.find? .roleBinding existing.key = some existing) :
    RbacCall sb granted
      (.update Kind.roleBinding { existing with spec.subjects := [saSubject sb] }) c
  | replace {c : Cluster} (existing : RoleBinding) (ns : String) (hns : ns ∈ granted)
    (hkey : existing.key = ⟨ns, roleBindingName sb.metadata.name⟩)
    (hstored : c.find? .roleBinding existing.key = some existing) :
    RbacCall sb granted (.delete Kind.roleBinding existing.key "applyRoleBinding") c
  | collect {c : Cluster} (rb : RoleBinding)
    (hlabel : matchingLabel labelSandboxUID sb.metadata.uid rb = true)
    (hstored : c.find? .roleBinding rb.key = some rb) :
    RbacCall sb granted (.delete Kind.roleBinding rb.key "gcRBAC") c

theorem RbacCall.within {sb : Sandbox} {granted : List String} {op : Call} {c : Cluster}
    (h : RbacCall sb granted op c) : op.Within [.serviceAccount, .roleBinding] := by
  cases h with
  | read h => exact within_read h
  | _ => exact within_write rfl (by simp)

/-- The calls of each gate. -/
inductive GateCall (r : SandboxReconciler) (sb : Sandbox) : Gate → Call → Cluster → Prop
  | read {g : Gate} {op : Call} {c : Cluster} (h : op.target = none) : GateCall r sb g op c
  | claim {c : Cluster} (tpl : SandboxTemplate) :
    GateCall r sb .home (.create Kind.persistentVolumeClaim (buildPVC sb tpl)) c
  | caSecret {c : Cluster} (userCA hostCA : KeyPair) (hmacKey : Blob) :
    GateCall r sb .hostKey
      (.create Kind.secret (buildCASecret r.operatorNamespace userCA hostCA hmacKey)) c
  | hostKey {c : Cluster} (key : KeyPair) (cert : Certificate) (userCAPub : Blob) :
    GateCall r sb .hostKey (.create Kind.secret (setControllerReference sb
      (SandboxReconciler.buildHostKeySecret sb key cert userCAPub))) c
  | policyCreate {c : Cluster} (tpl : SandboxTemplate) (endpoints : List APIServerEndpoint) :
    GateCall r sb .networkPolicy
      (.create Kind.networkPolicy (r.desiredNetworkPolicy sb tpl endpoints)) c
  | policyUpdate {c : Cluster} (existing : NetworkPolicy) (tpl : SandboxTemplate)
    (endpoints : List APIServerEndpoint)
    (hkey : existing.key = ⟨sb.metadata.namespaceName, netPolName sb.metadata.name⟩)
    (hstored : c.find? .networkPolicy existing.key = some existing) :
    GateCall r sb .networkPolicy (.update Kind.networkPolicy
      { existing with spec := (r.desiredNetworkPolicy sb tpl endpoints).spec }) c
  | rbac {op : Call} {c : Cluster} (granted : List String) (h : RbacCall sb granted op c) :
    GateCall r sb .rbac op c

theorem GateCall.within {r : SandboxReconciler} {sb : Sandbox} {g : Gate} {op : Call} {c : Cluster}
    (h : GateCall r sb g op c) : op.Within g.kinds := by
  cases h with
  | read h => exact within_read h
  | rbac granted h => exact h.within
  | _ => exact within_write rfl (by simp [Gate.kinds])

theorem Gate.kinds_subset (g : Gate) : ∀ k ∈ g.kinds, k ∈ gateKinds := by
  cases g <;> decide

section Calls

variable (r : SandboxReconciler) (sb : Sandbox) {st : SandboxStatus} {c : Cluster}

/-! ## The home volume -/

theorem claimConflict_calls (claim : String) :
    (claimConflict sb claim).Always Step (GateCall r sb .home) st c := by
  refine (always_list (.read rfl)).bind fun others st c => ?_
  refine Routine.Always.bind ?_ fun _ _ _ => trivial
  unfold generatedClaimOwner
  cases ownerOfGeneratedClaim claim with
  | none => trivial
  | some owner =>
    refine wp_ite (fun _ => ?_) fun _ => trivial
    exact (always_getOptional (.read rfl)).bind fun _ _ _ => trivial

theorem reconcileHome_calls :
    (reconcileHome sb).Always Step (GateCall r sb .home) st c := by
  unfold reconcileHome
  cases existingClaim sb with
  | some claim =>
    refine (claimConflict_calls r sb claim).bind fun conflict st c => ?_
    refine wp_ite (fun _ => trivial) fun _ => ?_
    refine (always_getOptional (.read rfl)).bind fun pvc st c => ?_
    cases pvc <;> trivial
  | none =>
    refine (always_get (.read rfl)).bind fun tpl st c => ?_
    refine (always_getOptional (.read rfl)).bind fun pvc st c => ?_
    cases pvc with
    | none => exact (always_createIfAbsent (.claim tpl)).bind fun _ _ _ => trivial
    | some pvc => trivial

/-! ## The host key and the network policy -/

theorem generateKeyPair_calls (comment : String) :
    (generateKeyPair comment).Always Step (GateCall r sb .hostKey) st c := by
  refine (always_call (.read rfl)).bind fun _ st c => ?_
  exact (always_ofExcept _ st c).bind fun _ _ _ => trivial

theorem ensureCASecret_calls :
    (ensureCASecret r.operatorNamespace).Always Step (GateCall r sb .hostKey) st c := by
  refine (always_call (.read rfl)).bind fun x st c => ?_
  cases x with
  | ok secret => trivial
  | error e =>
    refine wp_ite (fun _ => ?_) fun _ => trivial
    refine (generateKeyPair_calls r sb _).bind fun userCA st c => ?_
    refine (generateKeyPair_calls r sb _).bind fun hostCA st c => ?_
    refine Routine.Always.bind ?_ fun hmacKey st c => ?_
    · refine (always_call (.read rfl)).bind fun _ st c => ?_
      exact (always_ofExcept _ st c).bind fun _ _ _ => trivial
    refine (always_call (.caSecret userCA hostCA hmacKey)).bind fun x st c => ?_
    cases x with
    | ok secret => trivial
    | error e =>
      refine wp_ite (fun _ => ?_) fun _ => trivial
      exact (always_call (.read rfl)).bind fun _ st c => always_ofExcept _ st c

theorem reconcileHostKey_calls :
    (r.reconcileHostKey sb).Always Step (GateCall r sb .hostKey) st c := by
  refine (always_getOptional (.read rfl)).bind fun existing st c => ?_
  cases existing with
  | some existing => trivial
  | none =>
    refine (ensureCASecret_calls r sb).bind fun caSecret st c => ?_
    refine (always_ofExcept _ st c).bind fun hostCA st c => ?_
    refine (generateKeyPair_calls r sb _).bind fun key st c => ?_
    refine (always_ofExcept _ st c).bind fun hostPub st c => ?_
    refine (always_call (.read rfl)).bind fun t st c => ?_
    refine Routine.Always.bind ?_ fun cert st c => ?_
    · refine Routine.Always.bind ?_ fun _ _ _ => trivial
      refine (always_call (.read rfl)).bind fun _ st c => ?_
      exact (always_ofExcept _ st c).bind fun _ _ _ => trivial
    · exact always_createIfAbsent (.hostKey key cert _)

theorem reconcileNetworkPolicy_calls (tpl : SandboxTemplate) :
    (r.reconcileNetworkPolicy sb tpl).Always Step (GateCall r sb .networkPolicy) st c := by
  refine Routine.Always.bind ?_ fun endpoints st c => ?_
  · refine (always_call (.read rfl)).bind fun _ st c => ?_
    exact (always_ofExcept _ st c).bind fun _ _ _ => trivial
  · refine wp_bind.mpr (wp_getOptional.mpr ⟨.read rfl, ?_⟩)
    cases h : c.find? Kind.networkPolicy (r.desiredNetworkPolicy sb tpl endpoints).key with
    | none => exact always_createIfAbsent (.policyCreate tpl endpoints)
    | some existing =>
      refine wp_ite (fun _ => ?_) fun _ => trivial
      refine Routine.Always.bind ?_ fun _ _ _ => trivial
      have hkey := key_of_find? h
      exact always_update (.policyUpdate existing tpl endpoints hkey (hkey ▸ h))

/-! ## Access profiles -/

theorem applyRoleBinding_calls (profile : AccessProfile) {granted : List String} {ns : String}
    (hns : ns ∈ granted) :
    (applyRoleBinding (buildRoleBinding sb profile ns)).Always Step (RbacCall sb granted) st c := by
  refine wp_bind.mpr (wp_getOptional.mpr ⟨.read rfl, ?_⟩)
  cases h : c.find? Kind.roleBinding (buildRoleBinding sb profile ns).key with
  | none => exact always_createIfAbsent (.create profile ns hns)
  | some existing =>
    have hkey := key_of_find? h
    refine wp_ite (fun _ => ?_) fun _ => ?_
    · refine (always_deleteIfPresent (.replace existing ns hns hkey (hkey ▸ h))).bind fun _ st c => ?_
      exact always_createIfAbsent (.create profile ns hns)
    · refine wp_ite (fun _ => ?_) fun _ => trivial
      exact (always_update (.update existing ns hns hkey (hkey ▸ h))).bind fun _ _ _ => trivial

theorem gcRBAC_calls {σ : Type} {st : σ} (granted : List String) (keep : Option (List String)) :
    (gcRBAC sb keep).Always Step (RbacCall sb granted) st c := by
  refine wp_bind.mpr (wp_list.mpr ⟨.read rfl, ?_⟩)
  refine wp_post (wp_forEach (fun l _ c' => Listed .roleBinding l c' ∧
    ∀ rb ∈ l, matchingLabel labelSandboxUID sb.metadata.uid rb = true) ?_ _ ⟨?_, ?_⟩)
    fun _ _ _ _ => trivial
  · rintro rb l st c₁ ⟨hlisted, hlabel⟩
    obtain ⟨hrb, hl⟩ := List.forall_mem_cons.mp hlabel
    refine wp_ite (fun _ => ⟨hlisted.tail fun _ _ => rfl, hl⟩) fun _ => ?_
    refine wp_deleteIfPresent.mpr ⟨.collect rb hrb (hlisted.stored rb (by simp)), ?_, hl⟩
    exact hlisted.tail fun key hne => find?_dropped_ne fun he => hne (Prod.mk.inj he).2
  · exact listed_filter c _ _
  · exact fun rb hrb => List.of_mem_filter hrb

theorem withoutCredentials_calls (granted : List String) (status : ConditionStatus)
    (reason : ConditionReason) (message : String) (ready : Bool) :
    (withoutCredentials sb status reason message ready).Always Step (RbacCall sb granted) st c :=
  (gcRBAC_calls sb granted none).bind fun _ _ _ => trivial

theorem reconcileRBAC_calls :
    (reconcileRBAC sb).Always Step (RbacCall sb (grantedNamespaces c sb)) st c := by
  unfold grantedNamespaces
  refine wp_ite (fun _ => withoutCredentials_calls sb _ _ _ _ _) fun hname => ?_
  refine wp_bind.mpr (wp_getOptional.mpr ⟨.read rfl, ?_⟩)
  rw [if_neg hname]
  cases c.find? Kind.accessProfile ⟨"", sb.spec.accessProfile⟩ with
  | none => exact withoutCredentials_calls sb _ _ _ _ _
  | some profile =>
    refine wp_ite (fun _ => withoutCredentials_calls sb _ _ _ _ _) fun hpermitted => ?_
    simp only [hpermitted, ↓reduceIte]
    refine (always_createIfAbsent (.serviceAccount profile)).bind fun _ st c => ?_
    refine (Routine.Always.forEach _ fun ns hns st c => applyRoleBinding_calls sb profile hns).bind
      fun _ st c => ?_
    exact (gcRBAC_calls sb _ _).bind fun _ _ _ => trivial

end Calls

/-! ## What the gates look at -/

/-- The sandboxes the claim guard of `sb` looks at. -/
def claimCandidates (c : Cluster) (sb : Sandbox) (claim : String) : List Sandbox :=
  (c.objs .sandbox).filter (fun o =>
      inNamespace sb.metadata.namespaceName o && existingClaim o = some claim) ++
    match ownerOfGeneratedClaim claim with
    | some owner =>
      if owner ≠ sb.metadata.name then
        (c.find? .sandbox ⟨sb.metadata.namespaceName, owner⟩).toList
      else []
    | none => []

/-- The name the claim guard of `sb` reports, empty when the claim is free. -/
def conflictOf (c : Cluster) (sb : Sandbox) (claim : String) : String :=
  ((claimCandidates c sb claim).find? (blocks sb)).elim "" (·.metadata.name)

/-- The home gate lets `sb` through. -/
def homeOpen (c : Cluster) (sb : Sandbox) : Bool :=
  match existingClaim sb with
  | some claim => conflictOf c sb claim = "" ∧
      (c.find? .persistentVolumeClaim ⟨sb.metadata.namespaceName, claim⟩).isSome
  | none => true

/-- The access profile of `sb` lets it through. -/
def profilePermits (c : Cluster) (sb : Sandbox) : Bool :=
  if sb.spec.accessProfile = "" then true
  else
    match c.find? .accessProfile ⟨"", sb.spec.accessProfile⟩ with
    | none => false
    | some profile => sb.metadata.namespaceName ∈ profile.spec.allowedNamespaces

/-- Every gate lets `sb` through; `tpl` is its template. -/
structure GatesOpen (c : Cluster) (sb : Sandbox) (tpl : SandboxTemplate) : Prop where
  template : c.find? .sandboxTemplate ⟨"", sb.spec.template⟩ = some tpl
  home : homeOpen c sb = true
  profile : profilePermits c sb = true

/-! ## What the gates do -/

/-- The part of the status that drives the state machine. -/
def progress (st : SandboxStatus) : SandboxPhase × String × Option Time :=
  (st.phase, st.podIP, st.lastActivityTime)

section Outcome

variable (r : SandboxReconciler) (sb : Sandbox) {st : SandboxStatus} {c : Cluster}

theorem ends_claimConflict (claim : String) {Q : String → SandboxStatus → Cluster → Prop}
    (h : Q (conflictOf c sb claim) st c) : (claimConflict sb claim).Ends Step Q st c := by
  unfold claimConflict generatedClaimOwner
  unfold conflictOf claimCandidates at h
  cases ho : ownerOfGeneratedClaim claim with
  | none => simpa [ho] using h
  | some owner => by_cases hn : owner = sb.metadata.name <;> simpa [ho, hn] using h

/-- The home gate stops the pass with the sandbox pending, or lets it on. -/
theorem ends_reconcileHome :
    (reconcileHome sb).Ends Step (fun result st' _ =>
      (homeOpen c sb = false ∧ result.isSome ∧
        progress st' = (.pending, st.podIP, st.lastActivityTime) ∧ st'.pvcName = st.pvcName) ∨
      (homeOpen c sb = true ∧ result = none ∧ progress st' = progress st)) st c := by
  unfold reconcileHome homeOpen
  cases existingClaim sb with
  | some claim =>
    refine wp_bind.mpr (ends_claimConflict sb claim ?_)
    refine wp_ite (fun hne => ?_) fun heq => ?_
    · exact Or.inl ⟨by simp [hne], rfl, rfl, rfl⟩
    · refine wp_bind.mpr (wp_getOptional.mpr ⟨trivial, ?_⟩)
      have heq : conflictOf c sb claim = "" := not_not.mp heq
      cases hp : c.find? Kind.persistentVolumeClaim ⟨sb.metadata.namespaceName, claim⟩ with
      | none => exact Or.inl ⟨by simp [hp], rfl, rfl, rfl⟩
      | some pvc => exact Or.inr ⟨by simp [heq, hp], rfl, rfl⟩
  | none =>
    refine wp_bind.mpr (wp_get.mpr ⟨trivial, fun tpl _ => ?_⟩)
    refine wp_bind.mpr (wp_getOptional.mpr ⟨trivial, ?_⟩)
    cases c.find? Kind.persistentVolumeClaim
        ⟨sb.metadata.namespaceName, pvcName sb.metadata.name⟩ with
    | none =>
      refine wp_bind.mpr (wp_createIfAbsent.mpr ⟨trivial, fun _ => ?_⟩)
      exact Or.inr ⟨rfl, rfl, rfl⟩
    | some pvc => exact Or.inr ⟨rfl, rfl, rfl⟩

/-! ## Gates that leave the status alone -/

/-- A call as a gate makes it that writes the kinds `ks` only : it reads no pod. -/
structure GateOp (ks : List Kind) (op : Call) : Prop where
  within : op.Within ks
  noPod : op.reads ≠ some .pod

theorem gateOp_read {ks : List Kind} {op : Call} (h : op.target = none)
    (hreads : op.reads ≠ some .pod) : GateOp ks op :=
  ⟨within_read h, hreads⟩

theorem GateOp.mono {ks ks' : List Kind} {op : Call} (h : GateOp ks op) (hks : ∀ k ∈ ks, k ∈ ks') :
    GateOp ks' op :=
  ⟨fun t ht => hks _ (h.within t ht), h.noPod⟩

theorem gateOp_write {ks : List Kind} {op : Call} {t : Kind × ObjectKey} (h : op.target = some t)
    (ht : t.1 ∈ ks) : GateOp ks op := by
  refine ⟨within_write h ht, ?_⟩
  cases op with
  | get | list => cases h
  | _ => simp [Op.reads]

section Frame

variable {τ : Type} {f : SandboxStatus → τ}

theorem frame_claimConflict (claim : String) : (claimConflict sb claim).Frame (GateOp []) f := by
  refine (frame_list (gateOp_read rfl (by nofun))).bind fun others => ?_
  refine Routine.Frame.bind ?_ fun owner => frame_pure _
  unfold generatedClaimOwner
  cases ownerOfGeneratedClaim claim with
  | none => exact frame_pure _
  | some owner =>
    refine frame_ite ?_ (frame_pure _)
    exact (frame_getOptional (gateOp_read rfl (by nofun))).bind fun _ => frame_pure _

theorem frame_generateKeyPair {ks : List Kind} (comment : String) :
    (generateKeyPair comment : SandboxM KeyPair).Frame (GateOp ks) f :=
  (frame_call (gateOp_read rfl (by nofun))).bind fun _ =>
    (frame_ofExcept _).bind fun _ => frame_pure _

theorem frame_ensureCASecret (ns : String) :
    (ensureCASecret ns : SandboxM Secret).Frame (GateOp [.secret]) f := by
  refine (frame_call (gateOp_read rfl (by nofun))).bind fun x => ?_
  cases x with
  | ok secret => exact frame_pure _
  | error e =>
    refine frame_ite ?_ (frame_fail _)
    refine (frame_generateKeyPair _).bind fun userCA => ?_
    refine (frame_generateKeyPair _).bind fun hostCA => ?_
    refine Routine.Frame.bind ?_ fun hmacKey => ?_
    · exact (frame_call (gateOp_read rfl (by nofun))).bind fun _ =>
        (frame_ofExcept _).bind fun _ => frame_pure _
    refine (frame_call (gateOp_write rfl (by simp))).bind fun x => ?_
    cases x with
    | ok secret => exact frame_pure _
    | error e =>
      refine frame_ite ?_ (frame_fail _)
      exact (frame_call (gateOp_read rfl (by nofun))).bind fun _ => frame_ofExcept _

theorem frame_reconcileHostKey : (r.reconcileHostKey sb).Frame (GateOp Gate.hostKey.kinds) f := by
  refine (frame_getOptional (gateOp_read rfl (by nofun))).bind fun existing => ?_
  cases existing with
  | some existing => exact frame_pure _
  | none =>
    refine (frame_ensureCASecret _).bind fun caSecret => ?_
    refine (frame_ofExcept _).bind fun hostCA => ?_
    refine (frame_generateKeyPair _).bind fun key => ?_
    refine (frame_ofExcept _).bind fun hostPub => ?_
    refine (frame_call (gateOp_read rfl (by nofun))).bind fun t => ?_
    refine Routine.Frame.bind ?_ fun cert => frame_createIfAbsent (gateOp_write rfl (by simp))
    refine Routine.Frame.bind ?_ fun serial => frame_pure _
    exact (frame_call (gateOp_read rfl (by nofun))).bind fun _ =>
      (frame_ofExcept _).bind fun _ => frame_pure _

theorem frame_reconcileNetworkPolicy (tpl : SandboxTemplate) :
    (r.reconcileNetworkPolicy sb tpl).Frame (GateOp Gate.networkPolicy.kinds) f := by
  refine Routine.Frame.bind ?_ fun endpoints => ?_
  · exact (frame_call (gateOp_read rfl (by nofun))).bind fun _ =>
      (frame_ofExcept _).bind fun _ => frame_pure _
  refine (frame_getOptional (gateOp_read rfl (by nofun))).bind fun existing => ?_
  cases existing with
  | none => exact frame_createIfAbsent (gateOp_write rfl (by simp [Gate.kinds]))
  | some existing =>
    refine frame_ite ?_ (frame_pure _)
    exact (frame_update (gateOp_write rfl (by simp [Gate.kinds]))).bind fun _ => frame_pure _

theorem frame_gcRBAC {σ : Type} {f : σ → τ} (keep : Option (List String)) :
    (gcRBAC sb keep : ClientM σ Unit).Frame (GateOp Gate.rbac.kinds) f := by
  refine (frame_list (gateOp_read rfl (by nofun))).bind fun _ => frame_forEach (fun rb => ?_) _
  exact frame_ite (frame_pure _)
    (frame_deleteIfPresent (gateOp_write rfl (by simp [Gate.kinds])))

theorem frame_applyRoleBinding (desired : RoleBinding) :
    (applyRoleBinding desired).Frame (GateOp Gate.rbac.kinds) f := by
  have hcreate : (createIfAbsent Kind.roleBinding desired : SandboxM Unit).Frame
      (GateOp Gate.rbac.kinds) f := frame_createIfAbsent (gateOp_write rfl (by simp [Gate.kinds]))
  refine (frame_getOptional (gateOp_read rfl (by nofun))).bind fun existing => ?_
  cases existing with
  | none => exact hcreate
  | some existing =>
    refine frame_ite ?_ (frame_ite ?_ (frame_pure _))
    · exact (frame_deleteIfPresent (gateOp_write rfl (by simp [Gate.kinds]))).bind fun _ => hcreate
    · exact (frame_update (gateOp_write rfl (by simp [Gate.kinds]))).bind fun _ =>
        frame_pure _

end Frame

/-- The part `f` of the status is not about RBAC. -/
def IgnoresRBAC {τ : Type} (f : SandboxStatus → τ) : Prop :=
  ∀ st serviceAccount cond, cond.type = .rbacReady →
    f { st with
      serviceAccountName := serviceAccount
      conditions := setStatusCondition cond st.conditions } = f st

theorem ignoresRBAC_progress : IgnoresRBAC progress :=
  fun _ _ _ _ => rfl

section Rbac

variable {τ : Type} {f : SandboxStatus → τ} (hf : IgnoresRBAC f)

include hf

theorem frame_withoutCredentials (status : ConditionStatus) (reason : ConditionReason)
    (message : String) (ready : Bool) :
    (withoutCredentials sb status reason message ready).Frame (GateOp Gate.rbac.kinds) f :=
  (frame_gcRBAC sb none).bind fun _ => fun st => hf st "" _ rfl

theorem frame_reconcileRBAC : (reconcileRBAC sb).Frame (GateOp Gate.rbac.kinds) f := by
  refine frame_ite (frame_withoutCredentials sb hf _ _ _ _) ?_
  refine (frame_getOptional (gateOp_read rfl (by nofun))).bind fun profile => ?_
  cases profile with
  | none => exact frame_withoutCredentials sb hf _ _ _ _
  | some profile =>
    refine frame_ite (frame_withoutCredentials sb hf _ _ _ _) ?_
    refine (frame_createIfAbsent (gateOp_write rfl (by simp [Gate.kinds]))).bind fun _ => ?_
    refine (frame_forEach (fun ns => frame_applyRoleBinding _) _).bind fun _ => ?_
    exact (frame_gcRBAC sb _).bind fun _ => fun st => hf st _ _ rfl

end Rbac

/-- RBAC is ready when the profile permits the sandbox, and only then. -/
theorem ends_reconcileRBAC :
    (reconcileRBAC sb).Ends Step (fun rbac _ _ => rbac.ready = profilePermits c sb) st c := by
  unfold profilePermits
  refine wp_ite (fun h => ?_) fun h => ?_
  · rw [if_pos h]
    exact wp_bind.mpr (ends_of_forall fun _ _ _ => rfl)
  · rw [if_neg h]
    refine wp_bind.mpr (wp_getOptional.mpr ⟨trivial, ?_⟩)
    cases c.find? Kind.accessProfile ⟨"", sb.spec.accessProfile⟩ with
    | none => exact wp_bind.mpr (ends_of_forall fun _ _ _ => rfl)
    | some profile =>
      refine wp_ite (fun hns => ?_) fun hns => ?_
      · refine wp_bind.mpr (ends_of_forall fun _ _ _ => ?_)
        show false = decide _
        simp [hns]
      · refine wp_bind.mpr (ends_of_forall fun _ st c => ?_)
        refine wp_bind.mpr (ends_of_forall fun _ st c => ?_)
        refine wp_bind.mpr (ends_of_forall fun _ st c => ?_)
        show true = decide _
        simpa using (not_not.mp hns)

/-- The network policy of `sb` is the one rendered from `tpl`, for some API server
endpoints. -/
def PolicyCurrent (c : Cluster) (sb : Sandbox) (tpl : SandboxTemplate) : Prop :=
  ∃ endpoints np, c.find? .networkPolicy
    ⟨sb.metadata.namespaceName, netPolName sb.metadata.name⟩ = some np ∧
      np.spec = (r.desiredNetworkPolicy sb tpl endpoints).spec

/-- The endpoints of `kubernetes.default` as they are stored. -/
def clusterEndpoints (c : Cluster) : List APIServerEndpoint :=
  ((c.objs .endpointSlice).filter fun o => inNamespace "default" o &&
    matchingLabel "kubernetes.io/service-name" "kubernetes" o).flatMap
      SandboxReconciler.sliceEndpoints

theorem ends_apiServerEndpoints {Q : List APIServerEndpoint → SandboxStatus → Cluster → Prop}
    (h : Q (clusterEndpoints c) st c) : SandboxReconciler.apiServerEndpoints.Ends Step Q st c := by
  refine wp_bind.mpr (wp_lift.mpr ⟨trivial, ?_⟩)
  rintro listed c' (⟨rfl, rfl⟩ | ⟨e, -, rfl, -⟩)
  · refine wp_bind.mpr (wp_ofExcept.mpr fun slices hslices => ?_)
    cases hslices
    exact h
  · refine wp_bind.mpr (wp_ofExcept.mpr fun slices hslices => ?_)
    cases hslices

/-- The network policy of `sb`, if there is one, is not being deleted. -/
def PolicyLive (c : Cluster) (sb : Sandbox) : Prop :=
  ∀ np, c.find? .networkPolicy ⟨sb.metadata.namespaceName, netPolName sb.metadata.name⟩ = some np →
    np.deleting = false

/-- If the network policy of `sb` is being deleted, a finalizer holds it : the server removes
it otherwise. -/
def PolicyStays (c : Cluster) (sb : Sandbox) : Prop :=
  ∀ np, c.find? .networkPolicy ⟨sb.metadata.namespaceName, netPolName sb.metadata.name⟩ = some np →
    np.deleting = true → np.metadata.finalizers ≠ []

theorem PolicyLive.stays (h : PolicyLive c sb) : PolicyStays c sb :=
  fun np hnp hdeleting => nomatch (h np hnp).symm.trans hdeleting

/-- The network policy of `sb` is the one rendered from `tpl` and the endpoints of the API
server. -/
def PolicyRendered (c : Cluster) (sb : Sandbox) (tpl : SandboxTemplate) : Prop :=
  ∃ np, c.find? .networkPolicy ⟨sb.metadata.namespaceName, netPolName sb.metadata.name⟩ = some np ∧
    np.spec = (r.desiredNetworkPolicy sb tpl (clusterEndpoints c)).spec

theorem PolicyRendered.current {tpl : SandboxTemplate} (h : PolicyRendered r c sb tpl) :
    PolicyCurrent r c sb tpl :=
  ⟨_, h⟩

/-- After its gate the network policy is as rendered. -/
theorem ends_reconcileNetworkPolicy_rendered (tpl : SandboxTemplate) :
    (r.reconcileNetworkPolicy sb tpl).Ends Step
      (fun _ _ c' => PolicyStays c sb → PolicyRendered r c' sb tpl) st c := by
  refine wp_bind.mpr (ends_apiServerEndpoints ?_)
  have hendpoints : ∀ c', SameOutside [.networkPolicy] c c' →
      clusterEndpoints c' = clusterEndpoints c := by
    intro c' hc'
    rw [clusterEndpoints, hc'.objs (by decide), clusterEndpoints]
  refine wp_bind.mpr (wp_getOptional.mpr ⟨trivial, ?_⟩)
  cases h : c.find? Kind.networkPolicy
      (r.desiredNetworkPolicy sb tpl (clusterEndpoints c)).key with
  | none =>
    refine wp_createIfAbsent.mpr ⟨trivial, fun _ _ => ?_⟩
    rw [ensured, h]
    refine ⟨_, find?_write_self _ _ (c.created _), ?_⟩
    rw [hendpoints _ (.write (by simp) _)]
    rfl
  | some existing =>
    refine wp_ite (fun _ => ?_) fun heq _ => ⟨existing, h, not_not.mp heq⟩
    refine wp_bind.mpr
      (wp_update.mpr ⟨trivial, fun old hold _ hstays => ?_⟩)
    have hkey := key_of_find? h
    replace hold : c.find? Kind.networkPolicy existing.key = some old := hold
    obtain rfl : existing = old := Option.some.inj ((h.symm.trans (hkey ▸ rfl)).trans hold)
    refine ⟨_, (congrArg _ hkey.symm).trans (find?_settle_self (hstays existing h)), ?_⟩
    rw [hendpoints _ (.settle (by simp) _)]
    rfl

/-! ## What the gates leave behind -/

/-- The home claim of `sb` is there. -/
def HasHome (c : Cluster) (sb : Sandbox) : Prop :=
  (c.find? .persistentVolumeClaim ⟨sb.metadata.namespaceName, homeClaim sb⟩).isSome = true

/-- The host key of `sb` is there. -/
def HasHostKey (c : Cluster) (sb : Sandbox) : Prop :=
  (c.find? .secret ⟨sb.metadata.namespaceName, hostKeyName sb.metadata.name⟩).isSome = true

/-- The sandbox names a profile that exists and permits its namespace. -/
structure Grants (c : Cluster) (sb : Sandbox) (profile : AccessProfile) : Prop where
  named : sb.spec.accessProfile ≠ ""
  stored : c.find? .accessProfile ⟨"", sb.spec.accessProfile⟩ = some profile
  allowed : sb.metadata.namespaceName ∈ profile.spec.allowedNamespaces

theorem Grants.congr {ks : List Kind} {c' : Cluster} {profile : AccessProfile} {sb : Sandbox}
    (h : Grants c sb profile) (hc : SameOutside ks c c') (hks : Kind.accessProfile ∉ ks) :
    Grants c' sb profile :=
  ⟨h.named, (hc.find? hks _).trans h.stored, h.allowed⟩

/-- Accounts are only ever created. -/
theorem RbacCall.onlyCreates {granted : List String} {op : Call} {sb : Sandbox}
    (h : RbacCall sb granted op c) : op.OnlyCreates .serviceAccount := by
  rintro t ht hk
  cases h with
  | read h => exact nomatch h.symm.trans ht
  | serviceAccount profile => exact ⟨_, rfl⟩
  | create | update | replace | collect =>
    cases ht
    cases hk

/-- `serviceAccount` is the account of a pod of `sb` : none without a profile, and the one of the
sandbox, which is there, under a profile that permits it. -/
inductive AccountReady (c : Cluster) (sb : Sandbox) : String → Prop
  | none (hnone : sb.spec.accessProfile = "") : AccountReady c sb ""
  | granted (profile : AccessProfile) (hgrants : Grants c sb profile)
    (hstored : (c.find? .serviceAccount
      ⟨sb.metadata.namespaceName, saName sb.metadata.name⟩).isSome = true) :
    AccountReady c sb (saName sb.metadata.name)

/-- The claim a pod of `sb` mounts, in terms of `existingClaim`. -/
theorem homeClaim_eq (sb : Sandbox) :
    homeClaim sb = (existingClaim sb).getD (pvcName sb.metadata.name) := by
  unfold homeClaim existingClaim
  cases sb.spec.home with
  | none => rfl
  | some home =>
    show (if _ then _ else _) = Option.getD (if _ then _ else _) _
    split_ifs <;> rfl

/-- The home gate lets a sandbox on only when its home claim is there. -/
theorem ends_reconcileHome_claim :
    (reconcileHome sb).Ends Step (fun result _ c' => result = none → HasHome c' sb) st c := by
  unfold reconcileHome
  cases hclaim : existingClaim sb with
  | some claim =>
    refine wp_bind.mpr (ends_claimConflict sb claim ?_)
    refine wp_ite (fun hne => ?_) fun heq => ?_
    · exact fun h => nomatch h
    refine wp_bind.mpr (wp_getOptional.mpr ⟨trivial, ?_⟩)
    cases hpvc : c.find? Kind.persistentVolumeClaim ⟨sb.metadata.namespaceName, claim⟩ with
    | none => exact fun h => nomatch h
    | some pvc =>
      intro _
      rw [HasHome, homeClaim_eq, hclaim, Option.getD_some, hpvc]
      rfl
  | none =>
    have hgenerated : homeClaim sb = pvcName sb.metadata.name := by
      rw [homeClaim_eq, hclaim, Option.getD_none]
    unfold HasHome
    rw [hgenerated]
    refine wp_bind.mpr (wp_get.mpr ⟨trivial, fun tpl _ => ?_⟩)
    refine wp_bind.mpr (wp_getOptional.mpr ⟨trivial, ?_⟩)
    cases hpvc : c.find? Kind.persistentVolumeClaim
        ⟨sb.metadata.namespaceName, pvcName sb.metadata.name⟩ with
    | none =>
      refine wp_bind.mpr (wp_createIfAbsent.mpr ⟨trivial, fun _ _ => ?_⟩)
      exact isSome_find?_ensured c .persistentVolumeClaim (buildPVC sb tpl)
    | some pvc =>
      intro _
      rw [hpvc]
      rfl

/-- After its gate the host key is there. -/
theorem ends_reconcileHostKey :
    (r.reconcileHostKey sb).Ends Step (fun _ _ c' => HasHostKey c' sb) st c := by
  refine wp_bind.mpr (wp_getOptional.mpr ⟨trivial, ?_⟩)
  cases hkey : c.find? Kind.secret
      ⟨sb.metadata.namespaceName, hostKeyName sb.metadata.name⟩ with
  | some secret =>
    refine wp_pure.mpr ?_
    rw [HasHostKey, hkey]
    rfl
  | none =>
    refine wp_bind.mpr (ends_of_forall fun caSecret st c => ?_)
    refine wp_bind.mpr (ends_of_forall fun hostCA st c => ?_)
    refine wp_bind.mpr (ends_of_forall fun key st c => ?_)
    refine wp_bind.mpr (ends_of_forall fun hostPub st c => ?_)
    refine wp_bind.mpr (ends_of_forall fun t st c => ?_)
    refine wp_bind.mpr (ends_of_forall fun cert st c => ?_)
    exact wp_createIfAbsent.mpr ⟨trivial, fun _ => isSome_find?_ensured c .secret _⟩

/-- RBAC hands the pod the account it may have. -/
theorem ends_reconcileRBAC_account :
    (reconcileRBAC sb).Ends Step
      (fun rbac _ c' => rbac.ready = true → AccountReady c' sb rbac.serviceAccount) st c := by
  refine wp_ite (fun hnone => ?_) fun hnamed => ?_
  · refine wp_bind.mpr (ends_of_forall fun _ _ _ => ?_)
    exact fun _ => .none hnone
  refine wp_bind.mpr (wp_getOptional.mpr ⟨trivial, ?_⟩)
  cases hprofile : c.find? Kind.accessProfile ⟨"", sb.spec.accessProfile⟩ with
  | none =>
    exact wp_bind.mpr (ends_of_forall fun _ _ _ h => nomatch h)
  | some profile =>
    refine wp_ite (fun _ => ?_) fun hallowed => ?_
    · exact wp_bind.mpr (ends_of_forall fun _ _ _ h => nomatch h)
    refine wp_bind.mpr (wp_createIfAbsent.mpr ⟨trivial, fun _ => ?_⟩)
    have hgrants : Grants c sb profile := ⟨hnamed, hprofile, not_not.mp hallowed⟩
    -- The bindings come and go; the account and the profile stay.
    refine wp_mono (wp_preserves (I := fun c' => (c'.find? .serviceAccount
      ⟨sb.metadata.namespaceName, saName sb.metadata.name⟩).isSome = true ∧ Grants c' sb profile)
      (P := RbacCall sb (grantNamespaces profile)) (Q := fun rbac _ _ =>
        rbac.serviceAccount = saName sb.metadata.name) ?_ ?_ ⟨?_, ?_⟩) (fun _ _ _ => trivial) ?_
    · rintro op c₁ a c₂ hcall hs ⟨haccount, hgrants₁⟩
      obtain ⟨account, haccount⟩ := Option.isSome_iff_exists.mp haccount
      refine ⟨?_, hgrants₁.congr (hs.sameOutside hcall.within) (by decide)⟩
      rw [hs.keeps hcall.onlyCreates haccount]
      rfl
    · refine wp_bind.mpr (wp_post (Routine.Always.forEach _
        fun ns hns st c => applyRoleBinding_calls sb profile hns) fun _ st c _ => ?_)
      exact wp_bind.mpr (wp_post (gcRBAC_calls sb _ _)
        fun _ _ _ _ => rfl)
    · exact isSome_find?_ensured c .serviceAccount _
    · exact ⟨hnamed, (find?_ensured_ne (by simp)).trans hprofile, hgrants.allowed⟩
    · rintro rbac _ c' ⟨haccount, hstored, hgrants'⟩ _
      rw [haccount]
      exact .granted profile hgrants' hstored

end Outcome

end Kubepark

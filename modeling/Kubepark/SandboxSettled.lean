import Kubepark.ClusterRuns
import Kubepark.RbacExact
import Kubepark.Stutter

/-!
# Passes over a settled sandbox

The controller watches the sandboxes whose status it writes, so a pass that writes is followed by
another one. This comes to an end. `SandboxSettled` says of a stored sandbox that its children are
as the gates want them and that its status is the one a pass would work out. A pass over a settled
sandbox changes nothing, neither the cluster nor the status on the way, also where its calls fail
(`SandboxSettled.still`).

Each step of a pass has a predicate of its own, with one case for each way in which the step finds
nothing to do : `HomeSettled`, `RbacSettled`, `MachineSettled`, and `PassSettled` for the whole.
-/

namespace Kubepark

open ApiServer Client SandboxReconciler Routine

/-! ## Conditions that are set already -/

/-- The condition stands in the status as a pass over `sb` sets it. -/
def Noted (sb : Sandbox) (st : SandboxStatus) (type : ConditionType) (status : ConditionStatus)
    (reason : ConditionReason) (message : String) : Prop :=
  st.conditions.find? (fun c => c.type = type) =
    some ⟨type, status, reason, message, sb.metadata.generation⟩

theorem setStatusCondition_of_find? {cond : Condition} :
    ∀ {l : List Condition}, l.find? (fun c => c.type = cond.type) = some cond →
      setStatusCondition cond l = l
  | [], h => by cases h
  | c :: l, h => by
    rw [setStatusCondition]
    by_cases hsame : c.type = cond.type
    · rw [List.find?_cons_of_pos (by simpa using hsame)] at h
      rw [if_pos hsame, Option.some.inj h]
    · rw [List.find?_cons_of_neg (by simpa using hsame)] at h
      rw [if_neg hsame, setStatusCondition_of_find? h]

section Still

variable {sb : Sandbox} {st : SandboxStatus} {c : Cluster}

theorem still_setCondition {type : ConditionType} {status : ConditionStatus}
    {reason : ConditionReason} {message : String} (h : Noted sb st type status reason message) :
    (setCondition sb type status reason message).Still Step (fun _ => True) st c := by
  let cond : Condition := ⟨type, status, reason, message, sb.metadata.generation⟩
  have hset : setStatusCondition cond st.conditions = st.conditions :=
    setStatusCondition_of_find? h
  exact still_modify (congrArg (fun l => { st with conditions := l }) hset)

/-! ## The gates -/

/-- The home gate has nothing to do, and the status says how it stands. -/
inductive HomeSettled (c : Cluster) (sb : Sandbox) (st : SandboxStatus) : Prop
  | conflict (claim : String) (hclaim : existingClaim sb = some claim)
    (hconflict : conflictOf c sb claim ≠ "") (hphase : st.phase = .pending)
    (hnoted : Noted sb st .homeReady .false .claimInUse
      ("claim " ++ quote claim ++ " is in use by sandbox " ++ quote (conflictOf c sb claim)))
  | missing (claim : String) (hclaim : existingClaim sb = some claim)
    (hfree : conflictOf c sb claim = "")
    (habsent : c.find? .persistentVolumeClaim ⟨sb.metadata.namespaceName, claim⟩ = none)
    (hphase : st.phase = .pending)
    (hnoted : Noted sb st .homeReady .false .invalidRef
      ("existing claim " ++ quote claim ++ " not found"))
  | ready (hopen : homeOpen c sb = true) (hhome : HasHome c sb) (hclaim : st.pvcName = homeClaim sb)
    (hnoted : Noted sb st .homeReady .true .provisioning "home volume ready")

theorem still_claimConflict (claim : String) :
    (claimConflict sb claim).Still Step (· = conflictOf c sb claim) st c := by
  refine still_list.bind fun others hothers => ?_
  refine Still.bind (R := fun owner => conflictOf c sb claim =
    ((others ++ owner).find? (blocks sb)).elim "" (·.metadata.name)) ?_ fun owner howner => ?_
  · unfold generatedClaimOwner
    subst hothers
    cases hclaim : ownerOfGeneratedClaim claim with
    | none => exact still_pure (by simp only [conflictOf, claimCandidates, hclaim])
    | some owner =>
      refine still_ite (fun hne => ?_) fun hsame => still_pure ?_
      · refine still_getOptional.bind fun ownerSb howner => still_pure ?_
        subst howner
        simp only [conflictOf, claimCandidates, hclaim, if_pos hne]
      · simp only [conflictOf, claimCandidates, hclaim, if_neg hsame]
  · exact still_pure howner.symm

theorem still_homeReady {claim : String} (hclaim : st.pvcName = claim)
    (hnoted : Noted sb st .homeReady .true .provisioning "home volume ready") :
    (homeReady sb claim).Still Step (· = none) st c :=
  (still_modify (by rw [← hclaim])).bind fun _ _ =>
    (still_setCondition hnoted).bind fun _ _ => still_pure rfl

theorem still_homeBlocked {reason : ConditionReason} {message : String} (result : Result)
    (hphase : st.phase = .pending) (hnoted : Noted sb st .homeReady .false reason message) :
    (homeBlocked sb reason message result).Still Step (·.isSome = true) st c :=
  (still_modify (by rw [← hphase])).bind fun _ _ =>
    (still_setCondition hnoted).bind fun _ _ => still_pure rfl

/-- The home gate of a settled sandbox lets it on when it is open, and only then. -/
theorem HomeSettled.still (h : HomeSettled c sb st) : (reconcileHome sb).Still Step
    (fun result => result.isSome = !homeOpen c sb) st c := by
  unfold reconcileHome
  cases h with
  | conflict claim hclaim hconflict hphase hnoted =>
    have hclosed : homeOpen c sb = false := by simp [homeOpen, hclaim, hconflict]
    rw [hclaim, hclosed]
    refine (still_claimConflict claim).bind fun conflict hc => ?_
    subst hc
    exact still_ite (fun _ => still_homeBlocked _ hphase hnoted) fun h => absurd hconflict h
  | missing claim hclaim hfree habsent hphase hnoted =>
    have hclosed : homeOpen c sb = false := by simp [homeOpen, hclaim, habsent]
    rw [hclaim, hclosed]
    refine (still_claimConflict claim).bind fun conflict hc => ?_
    subst hc
    refine still_ite (fun h => absurd hfree h) fun _ => ?_
    refine still_getOptional.bind fun pvc hpvc => ?_
    rw [habsent] at hpvc
    subst hpvc
    exact still_homeBlocked _ hphase hnoted
  | ready hopen hhome hpvc hnoted =>
    rw [HasHome, homeClaim_eq] at hhome
    rw [homeClaim_eq] at hpvc
    rw [hopen]
    cases hclaim : existingClaim sb with
    | some claim =>
      simp only [hclaim, Option.getD_some] at hhome hpvc
      simp only [homeOpen, hclaim, Bool.decide_and, Bool.and_eq_true, decide_eq_true_eq] at hopen
      refine (still_claimConflict claim).bind fun conflict hc => ?_
      subst hc
      refine still_ite (fun h => absurd hopen.1 h) fun _ => ?_
      refine still_getOptional.bind fun pvc hstored => ?_
      subst hstored
      obtain ⟨pvc, hpvc'⟩ := Option.isSome_iff_exists.mp hhome
      rw [hpvc']
      exact (still_homeReady hpvc hnoted).mono fun _ h => by rw [h]; rfl
    | none =>
      simp only [hclaim, Option.getD_none] at hhome hpvc
      refine still_get.bind fun tpl _ => ?_
      refine still_getOptional.bind fun pvc hstored => ?_
      subst hstored
      obtain ⟨pvc, hpvc'⟩ := Option.isSome_iff_exists.mp hhome
      rw [hpvc']
      exact (still_homeReady hpvc hnoted).mono fun _ h => by rw [h]; rfl

theorem still_reconcileHostKey (r : SandboxReconciler) (h : HasHostKey c sb) :
    (r.reconcileHostKey sb).Still Step (fun _ => True) st c := by
  refine still_getOptional.bind fun existing hexisting => ?_
  subst hexisting
  obtain ⟨secret, hsecret⟩ := Option.isSome_iff_exists.mp h
  rw [hsecret]
  exact still_pure trivial

theorem still_apiServerEndpoints :
    apiServerEndpoints.Still Step (· = clusterEndpoints c) st c := by
  refine still_tryList.bind fun listed hlisted => ?_
  cases listed with
  | error e => exact still_fail _
  | ok slices =>
    obtain rfl := hlisted slices rfl
    exact still_pure rfl

theorem still_reconcileNetworkPolicy (r : SandboxReconciler) {tpl : SandboxTemplate}
    (h : PolicyRendered r c sb tpl) :
    (r.reconcileNetworkPolicy sb tpl).Still Step (fun _ => True) st c := by
  obtain ⟨np, hnp, hspec⟩ := h
  refine still_apiServerEndpoints.bind fun endpoints he => ?_
  subst he
  refine still_getOptional.bind fun existing hexisting => ?_
  subst hexisting
  have hstored : c.find? .networkPolicy (r.desiredNetworkPolicy sb tpl (clusterEndpoints c)).key =
    some np := hnp
  rw [hstored]
  exact still_ite (fun hne => absurd hspec hne) fun _ => still_pure trivial

/-- The bindings labelled with the UID of `sb` outside the namespaces `keep` are being deleted. -/
def BindingsCollected (c : Cluster) (sb : Sandbox) (keep : List String) : Prop :=
  ∀ rb ∈ c.objs .roleBinding, matchingLabel labelSandboxUID sb.metadata.uid rb = true →
    rb.metadata.namespaceName ∉ keep → rb.deleting = true

/-- The binding of `sb` in `ns` is as it should be, or it is to another Role, and its deletion is
held up. -/
def BindingSettled (c : Cluster) (sb : Sandbox) (profile : AccessProfile) (ns : String) : Prop :=
  ∃ rb, c.find? .roleBinding (bindingKey sb ns) = some rb ∧
    (rb.spec.roleRef = profileRoleRef profile ∧ rb.spec.subjects = [saSubject sb] ∨
      rb.spec.roleRef ≠ profileRoleRef profile ∧ rb.deleting = true)

/-- RBAC has nothing to do, and the status says how it stands. -/
inductive RbacSettled (c : Cluster) (sb : Sandbox) (st : SandboxStatus) : Prop
  | none (hnone : sb.spec.accessProfile = "") (hcollected : BindingsCollected c sb [])
    (haccount : st.serviceAccountName = "")
    (hnoted : Noted sb st .rbacReady .true .running
      "no access profile; sandbox has no cluster credentials")
  | deleted (hnamed : sb.spec.accessProfile ≠ "")
    (hprofile : c.find? .accessProfile ⟨"", sb.spec.accessProfile⟩ = Option.none)
    (hcollected : BindingsCollected c sb []) (haccount : st.serviceAccountName = "")
    (hnoted : Noted sb st .rbacReady .false .profileDeleted
      ("AccessProfile " ++ quote sb.spec.accessProfile ++ " not found"))
  | refused (profile : AccessProfile) (hnamed : sb.spec.accessProfile ≠ "")
    (hprofile : c.find? .accessProfile ⟨"", sb.spec.accessProfile⟩ = some profile)
    (hrefused : sb.metadata.namespaceName ∉ profile.spec.allowedNamespaces)
    (hcollected : BindingsCollected c sb []) (haccount : st.serviceAccountName = "")
    (hnoted : Noted sb st .rbacReady .false .profileNotPermitted
      ("namespace " ++ quote sb.metadata.namespaceName ++ " is not in AccessProfile " ++
        quote profile.metadata.name ++ " allowedNamespaces"))
  | granted (profile : AccessProfile) (hgrants : Grants c sb profile)
    (hstored : (c.find? .serviceAccount
      ⟨sb.metadata.namespaceName, saName sb.metadata.name⟩).isSome = true)
    (hbound : ∀ ns ∈ grantNamespaces profile, BindingSettled c sb profile ns)
    (hcollected : BindingsCollected c sb (grantNamespaces profile))
    (haccount : st.serviceAccountName = saName sb.metadata.name)
    (hnoted : Noted sb st .rbacReady .true .running
      ("bound to AccessProfile " ++ quote profile.metadata.name ++ " in " ++
        toString (grantNamespaces profile).length ++ " namespace(s)"))

theorem still_gcRBAC {σ : Type} {st : σ} (keep : Option (List String))
    (h : BindingsCollected c sb (keep.getD [])) :
    (gcRBAC sb keep : ClientM σ Unit).Still Step (fun _ => True) st c := by
  refine still_list.bind fun bindings hbindings => still_forEach fun rb hrb => ?_
  subst hbindings
  obtain ⟨hmem, hlabel⟩ := List.mem_filter.mp hrb
  refine still_ite (fun _ => still_pure trivial) fun hout =>
    still_deleteIfPresent fun rb' hrb' => ?_
  obtain rfl := Option.some.inj ((mem_objs_iff.mp hmem).symm.trans hrb')
  exact h rb hmem hlabel (by simpa using hout)

theorem still_withoutCredentials {status : ConditionStatus} {reason : ConditionReason}
    {message : String} (ready : Bool) (hcollected : BindingsCollected c sb [])
    (haccount : st.serviceAccountName = "")
    (hnoted : Noted sb st .rbacReady status reason message) :
    (withoutCredentials sb status reason message ready).Still Step (·.ready = ready) st c := by
  refine (still_gcRBAC none hcollected).bind fun _ _ => ?_
  refine (still_modify (by rw [← haccount])).bind fun _ _ => ?_
  exact (still_setCondition hnoted).bind fun _ _ => still_pure rfl

theorem still_applyRoleBinding {profile : AccessProfile} {ns : String}
    (h : BindingSettled c sb profile ns) :
    (applyRoleBinding (buildRoleBinding sb profile ns)).Still Step (fun _ => True) st c := by
  obtain ⟨rb, hrb, hright⟩ := h
  have hkey := key_of_find? hrb
  refine still_getOptional.bind fun existing hexisting => ?_
  have hstored : c.find? .roleBinding (buildRoleBinding sb profile ns).key = some rb := hrb
  rw [hstored] at hexisting
  subst hexisting
  refine still_ite (fun hother => ?_) fun hsame => ?_
  · rcases hright with ⟨href, -⟩ | ⟨-, hdeleting⟩
    · exact absurd href hother
    · refine (still_deleteIfPresent fun rb' hrb' => ?_).bind fun _ _ => ?_
      · rw [hkey, hrb] at hrb'
        exact Option.some.inj hrb' ▸ hdeleting
      · refine still_createIfAbsent ?_
        rw [hstored]
        rfl
  · rcases hright with ⟨-, hsubjects⟩ | ⟨href, -⟩
    · exact still_ite (fun hne => absurd hsubjects hne) fun _ => still_pure trivial
    · exact absurd href hsame

theorem RbacSettled.still (h : RbacSettled c sb st) : (reconcileRBAC sb).Still Step
    (fun rbac => rbac.ready = profilePermits c sb) st c := by
  unfold profilePermits
  cases h with
  | none hnone hcollected haccount hnoted =>
    rw [if_pos hnone]
    exact still_ite (fun _ => still_withoutCredentials true hcollected haccount hnoted)
      fun hne => absurd hnone hne
  | deleted hnamed hprofile hcollected haccount hnoted =>
    rw [if_neg hnamed, hprofile]
    refine still_ite (fun h => absurd h hnamed) fun _ => ?_
    refine still_getOptional.bind fun profile hread => ?_
    rw [hprofile] at hread
    subst hread
    exact still_withoutCredentials false hcollected haccount hnoted
  | refused profile hnamed hprofile hrefused hcollected haccount hnoted =>
    rw [if_neg hnamed, hprofile]
    refine still_ite (fun h => absurd h hnamed) fun _ => ?_
    refine still_getOptional.bind fun profile' hread => ?_
    rw [hprofile] at hread
    subst hread
    refine still_ite (fun _ => ?_) fun h => absurd hrefused h
    refine (still_withoutCredentials false hcollected haccount hnoted).mono fun rbac h => ?_
    simp [h, hrefused]
  | granted profile hgrants hstored hbound hcollected haccount hnoted =>
    rw [if_neg hgrants.named, hgrants.stored]
    refine still_ite (fun h => absurd h hgrants.named) fun _ => ?_
    refine still_getOptional.bind fun profile' hread => ?_
    rw [hgrants.stored] at hread
    subst hread
    refine still_ite (fun h => absurd hgrants.allowed h) fun _ => ?_
    refine (still_createIfAbsent hstored).bind fun _ _ => ?_
    refine (still_forEach fun ns hns => still_applyRoleBinding (hbound ns hns)).bind fun _ _ => ?_
    refine (still_gcRBAC _ hcollected).bind fun _ _ => ?_
    refine (still_modify (by rw [← haccount])).bind fun _ _ => ?_
    refine (still_setCondition hnoted).bind fun _ _ => still_pure ?_
    simp [hgrants.allowed]

/-! ## The desired-state machine -/

/-- The status says whether the template has changed since the pod was made. -/
def DriftNoted (r : SandboxReconciler) (sb : Sandbox) (tpl : SandboxTemplate) (st : SandboxStatus) :
    Prop :=
  if st.templateHash ≠ "" ∧ st.templateHash ≠ r.templateHash tpl.spec then
    Noted sb st .templateOutdated .true .outdated
      "template changed; the new template applies on the next suspend/resume cycle"
  else Noted sb st .templateOutdated .false .upToDate "pod matches the template"

/-- The machine has nothing to do, and the status says how the pod stands. -/
inductive MachineSettled (r : SandboxReconciler) (c : Cluster) (sb : Sandbox)
    (tpl : SandboxTemplate) (st : SandboxStatus) : Prop
  | suspended (hsuspends : Suspends c sb tpl st.lastActivityTime)
    (habsent : c.find? .pod (podKey sb) = none) (hphase : st.phase = .suspended)
    (hip : st.podIP = "") (hname : st.podName = "")
    (hpodReady : Noted sb st .podReady .false .suspended "sandbox is suspended")
    (hready : Noted sb st .ready .false .suspended "sandbox is suspended")
  | suspending (pod : Pod) (hsuspends : Suspends c sb tpl st.lastActivityTime)
    (hpod : c.find? .pod (podKey sb) = some pod) (hdeleting : pod.deleting = true)
    (hphase : st.phase = .suspending) (hip : st.podIP = "")
  | dead (pod : Pod) (hrun : ¬Suspends c sb tpl st.lastActivityTime)
    (hpod : c.find? .pod (podKey sb) = some pod) (hdeleting : pod.deleting = true)
    (hdead : podDead pod = true) (hphase : st.phase = .provisioning) (hip : st.podIP = "")
    (hname : st.podName = pod.metadata.name)
    (hpodReady : Noted sb st .podReady .false .provisioning
      ("pod " ++ pod.status.phase.text ++ ", recreating"))
  | ready (pod : Pod) (hrun : ¬Suspends c sb tpl st.lastActivityTime)
    (hpod : c.find? .pod (podKey sb) = some pod) (hready : podReady pod = true)
    (hphase : st.phase = .running) (hip : st.podIP = pod.status.podIP)
    (hname : st.podName = pod.metadata.name)
    (hpodReady : Noted sb st .podReady .true .running "sandbox pod is ready")
    (hnoted : Noted sb st .ready .true .running "sandbox is running")
    (hdrift : DriftNoted r sb tpl st)
  | pending (pod : Pod) (hrun : ¬Suspends c sb tpl st.lastActivityTime)
    (hpod : c.find? .pod (podKey sb) = some pod) (hdead : podDead pod = false)
    (hready : podReady pod = false)
    (hphase : st.phase = .resuming ∨ st.phase = .provisioning) (hip : st.podIP = "")
    (hname : st.podName = pod.metadata.name)
    (hpodReady : Noted sb st .podReady .false .provisioning (podPendingMessage pod))
    (hnoted : Noted sb st .ready .false .provisioning "waiting for sandbox pod")
    (hdrift : DriftNoted r sb tpl st)

section Machine

variable {r : SandboxReconciler} {tpl : SandboxTemplate}

theorem still_suspend_absent (habsent : c.find? .pod (podKey sb) = none)
    (hphase : st.phase = .suspended) (hip : st.podIP = "") (hname : st.podName = "")
    (hpodReady : Noted sb st .podReady .false .suspended "sandbox is suspended")
    (hready : Noted sb st .ready .false .suspended "sandbox is suspended") :
    (suspend sb).Still Step (fun _ => True) st c := by
  refine (still_modify (by rw [← hip])).bind fun _ _ => ?_
  refine still_getOptional.bind fun pod hpod => ?_
  rw [habsent] at hpod
  subst hpod
  refine (still_modify (by rw [← hphase, ← hname])).bind fun _ _ => ?_
  refine (still_setCondition hpodReady).bind fun _ _ => ?_
  exact (still_setCondition hready).bind fun _ _ => still_pure trivial

theorem still_suspend_deleting {pod : Pod} (hpod : c.find? .pod (podKey sb) = some pod)
    (hdeleting : pod.deleting = true) (hphase : st.phase = .suspending) (hip : st.podIP = "") :
    (suspend sb).Still Step (fun _ => True) st c := by
  refine (still_modify (by rw [← hip])).bind fun _ _ => ?_
  refine still_getOptional.bind fun pod' hpod' => ?_
  rw [hpod] at hpod'
  subst hpod'
  refine (still_modify (by rw [← hphase])).bind fun _ _ => ?_
  exact still_ite (fun _ => still_pure trivial) fun hlive => absurd hdeleting hlive

theorem still_reportDrift (h : DriftNoted r sb tpl st) :
    (reportDrift sb (r.templateHash tpl.spec)).Still Step (fun _ => True) st c := by
  refine still_record.bind fun st' hst' => ?_
  subst hst'
  unfold DriftNoted at h
  refine still_ite (fun hdrift => ?_) fun hdrift => ?_
  · rw [if_pos hdrift] at h
    exact still_setCondition h
  · rw [if_neg hdrift] at h
    exact still_setCondition h

/-- The run branch of a settled sandbox. -/
theorem MachineSettled.still_run (h : MachineSettled r c sb tpl st)
    (hrun : ¬Suspends c sb tpl st.lastActivityTime) (serviceAccount : String) :
    (r.run sb tpl (r.templateHash tpl.spec) serviceAccount).Still Step (fun _ => True) st c := by
  have hread : ∀ {pod : Pod} {f : Option Pod → SandboxM Result},
      c.find? .pod (podKey sb) = some pod → (f (some pod)).Still Step (fun _ => True) st c →
      (getOptional Kind.pod (podKey sb) >>= f).Still Step (fun _ => True) st c := by
    intro pod f hpod hf
    refine still_getOptional.bind fun read hread => ?_
    rw [hpod] at hread
    exact hread ▸ hf
  cases h with
  | suspended hsuspends | suspending _ hsuspends => exact absurd hsuspends hrun
  | dead pod _ hpod hdeleting hdead hphase hip hname hpodReady =>
    refine hread hpod ((still_modify (by rw [← hname])).bind fun _ _ => ?_)
    refine still_ite (fun _ => ?_) fun hlive => absurd hdead hlive
    refine still_ite (fun _ => ?_) fun hlive => absurd hdeleting hlive
    refine (still_modify (by rw [← hphase, ← hip])).bind fun _ _ => ?_
    exact (still_setCondition hpodReady).bind fun _ _ => still_pure trivial
  | ready pod _ hpod hready hphase hip hname hpodReady hnoted hdrift =>
    refine hread hpod ((still_modify (by rw [← hname])).bind fun _ _ => ?_)
    refine still_ite (fun hdead => ?_) fun _ => ?_
    · exact nomatch (podDead_of_podReady hready).symm.trans hdead
    refine still_ite (fun _ => ?_) fun hnot => absurd hready hnot
    refine Still.bind (R := fun _ => True) ?_ fun _ _ =>
      (still_reportDrift hdrift).bind fun _ _ => still_pure trivial
    refine still_now.bind fun t _ => (still_modify ?_).bind fun _ _ => ?_
    · rw [← hip, if_neg fun h => h.1 hphase, ← hphase]
    · exact (still_setCondition hpodReady).bind fun _ _ => still_setCondition hnoted
  | pending pod _ hpod hdead hready hphase hip hname hpodReady hnoted hdrift =>
    refine hread hpod ((still_modify (by rw [← hname])).bind fun _ _ => ?_)
    refine still_ite (fun h => nomatch hdead.symm.trans h) fun _ => ?_
    refine still_ite (fun h => nomatch hready.symm.trans h) fun _ => ?_
    refine Still.bind (R := fun _ => True) ?_ fun _ _ =>
      (still_reportDrift hdrift).bind fun _ _ => still_pure trivial
    refine (still_modify ?_).bind fun _ _ => ?_
    · have hkept : (if st.phase ≠ .resuming then SandboxPhase.provisioning else .resuming) =
          st.phase := by
        rcases hphase with h | h <;> rw [h] <;> rfl
      rw [hkept, ← hip]
    · exact (still_setCondition hpodReady).bind fun _ _ => still_setCondition hnoted

/-- The sessions are counted into the status, unless the sandbox is stopped. -/
def SessionsNoted (c : Cluster) (sb : Sandbox) (st : SandboxStatus) : Prop :=
  sb.spec.desiredState ≠ .stopped → st.activeSessions = activeSessions c sb

theorem MachineSettled.still_suspend (h : MachineSettled r c sb tpl st)
    (hs : Suspends c sb tpl st.lastActivityTime) :
    (suspend sb).Still Step (fun _ => True) st c := by
  cases h with
  | suspended _ habsent hphase hip hname hpodReady hready =>
    exact still_suspend_absent habsent hphase hip hname hpodReady hready
  | suspending pod _ hpod hdeleting hphase hip =>
    exact still_suspend_deleting hpod hdeleting hphase hip
  | dead _ hrun | ready _ hrun | pending _ hrun => exact absurd hs hrun

theorem MachineSettled.still (h : MachineSettled r c sb tpl st) (hsessions : SessionsNoted c sb st)
    (serviceAccount : String) :
    (r.driveState sb tpl serviceAccount).Still Step (fun _ => True) st c := by
  refine still_ite (fun hstop => h.still_suspend (Or.inl hstop)) fun hstop => ?_
  refine Still.bind (R := (· = activeSessions c sb)) ?_ fun active hactive => ?_
  · refine still_list.bind fun sessions hlisted => still_pure ?_
    rw [hlisted]
    rfl
  refine (still_modify ?_).bind fun _ _ => still_record.bind fun st' hst' => ?_
  · rw [hactive, ← hsessions hstop]
  subst hst' hactive
  refine still_now.bind fun t ht => ?_
  subst ht
  refine still_ite (fun hidle => h.still_suspend (Or.inr hidle)) fun hidle => ?_
  have hrun : ¬Suspends c sb tpl st'.lastActivityTime := fun hs => hs.elim hstop hidle
  refine (h.still_run hrun serviceAccount).bind fun result _ => ?_
  exact still_record.bind fun _ _ => still_now.bind fun _ _ => still_pure trivial

/-! ## A whole pass -/

/-- A pass has nothing to do, and the status `st` is the one it works out. -/
inductive PassSettled (r : SandboxReconciler) (c : Cluster) (sb : Sandbox) (st : SandboxStatus) :
    Prop
  | noTemplate (habsent : c.find? .sandboxTemplate ⟨"", sb.spec.template⟩ = none)
    (hphase : st.phase = .pending)
    (hnoted : Noted sb st .ready .false .invalidRef
      ("SandboxTemplate " ++ quote sb.spec.template ++ " not found"))
  | home (tpl : SandboxTemplate)
    (htpl : c.find? .sandboxTemplate ⟨"", sb.spec.template⟩ = some tpl)
    (hclosed : homeOpen c sb = false) (hhome : HomeSettled c sb st)
  | profile (tpl : SandboxTemplate)
    (htpl : c.find? .sandboxTemplate ⟨"", sb.spec.template⟩ = some tpl)
    (hopen : homeOpen c sb = true) (hhome : HomeSettled c sb st) (hkey : HasHostKey c sb)
    (hpolicy : PolicyRendered r c sb tpl) (hrbac : RbacSettled c sb st)
    (hclosed : profilePermits c sb = false) (hphase : st.phase = .pending)
    (hnoted : Noted sb st .ready .false .provisioning "waiting on access profile")
  | machine (tpl : SandboxTemplate) (hgates : GatesOpen c sb tpl) (hhome : HomeSettled c sb st)
    (hkey : HasHostKey c sb) (hpolicy : PolicyRendered r c sb tpl) (hrbac : RbacSettled c sb st)
    (hsessions : SessionsNoted c sb st) (hmachine : MachineSettled r c sb tpl st)

theorem still_pendingWith {reason : ConditionReason} {message : String}
    (hphase : st.phase = .pending) (hnoted : Noted sb st .ready .false reason message) :
    (pendingWith sb reason message).Still Step (fun _ => True) st c :=
  (still_modify (by rw [← hphase])).bind fun _ _ =>
    (still_setCondition hnoted).bind fun _ _ => still_pure trivial

/-- The gates of a settled sandbox that has a home. -/
theorem still_gates (hopen : homeOpen c sb = true)
    (htpl : c.find? .sandboxTemplate ⟨"", sb.spec.template⟩ = some tpl)
    (hhome : HomeSettled c sb st) (hkey : HasHostKey c sb) (hpolicy : PolicyRendered r c sb tpl)
    (hrbac : RbacSettled c sb st)
    (hrest : ∀ rbac : RBACResult, rbac.ready = profilePermits c sb →
      (if rbac.ready then r.driveState sb tpl rbac.serviceAccount
        else pendingWith sb .provisioning "waiting on access profile").Still Step
          (fun _ => True) st c) :
    (r.reconcileSandbox sb).Still Step (fun _ => True) st c := by
  refine still_getOptional.bind fun read hread => ?_
  rw [htpl] at hread
  subst hread
  refine hhome.still.bind fun result hresult => ?_
  rw [hopen] at hresult
  cases result with
  | some result => cases hresult
  | none =>
    refine (still_reconcileHostKey r hkey).bind fun _ _ => ?_
    refine (still_reconcileNetworkPolicy r hpolicy).bind fun _ _ => ?_
    exact hrbac.still.bind hrest

theorem PassSettled.still (h : PassSettled r c sb st) :
    (r.reconcileSandbox sb).Still Step (fun _ => True) st c := by
  cases h with
  | noTemplate habsent hphase hnoted =>
    refine still_getOptional.bind fun read hread => ?_
    rw [habsent] at hread
    subst hread
    exact still_pendingWith hphase hnoted
  | home tpl htpl hclosed hhome =>
    refine still_getOptional.bind fun read hread => ?_
    rw [htpl] at hread
    subst hread
    refine hhome.still.bind fun result hresult => ?_
    rw [hclosed] at hresult
    cases result with
    | some result => exact still_pure trivial
    | none => cases hresult
  | profile tpl htpl hopen hhome hkey hpolicy hrbac hclosed hphase hnoted =>
    refine still_gates hopen htpl hhome hkey hpolicy hrbac fun rbac hready => ?_
    rw [hclosed] at hready
    exact still_ite (fun h => nomatch hready.symm.trans h) fun _ => still_pendingWith hphase hnoted
  | machine tpl hgates hhome hkey hpolicy hrbac hsessions hmachine =>
    refine still_gates hgates.home hgates.template hhome hkey hpolicy hrbac fun rbac hready => ?_
    rw [hgates.profile] at hready
    exact still_ite (fun _ => hmachine.still hsessions _) fun h => absurd hready h

end Machine

end Still

/-! ## What a settled sandbox depends on -/

/-- What the home gate of `sb` looks at is as it was. -/
structure SameHome (c : Cluster) (sb : Sandbox) (c' : Cluster) : Prop where
  conflict : ∀ claim, conflictOf c' sb claim = conflictOf c sb claim
  claim : c'.find? .persistentVolumeClaim ⟨sb.metadata.namespaceName, homeClaim sb⟩ =
    c.find? .persistentVolumeClaim ⟨sb.metadata.namespaceName, homeClaim sb⟩

/-- What RBAC looks at for `sb` is as it was. -/
structure SameRbac (c : Cluster) (sb : Sandbox) (c' : Cluster) : Prop where
  profile : sb.spec.accessProfile ≠ "" → c'.find? .accessProfile ⟨"", sb.spec.accessProfile⟩ =
    c.find? .accessProfile ⟨"", sb.spec.accessProfile⟩
  account : c'.find? .serviceAccount ⟨sb.metadata.namespaceName, saName sb.metadata.name⟩ =
    c.find? .serviceAccount ⟨sb.metadata.namespaceName, saName sb.metadata.name⟩
  bindings : ∀ ns, c'.find? .roleBinding (bindingKey sb ns) =
    c.find? .roleBinding (bindingKey sb ns)
  labelled : ∀ rb : RoleBinding, matchingLabel labelSandboxUID sb.metadata.uid rb = true →
    c'.find? .roleBinding rb.key = some rb → c.find? .roleBinding rb.key = some rb

/-- What a pass over `sb` looks at is as it was. -/
structure SameView (c : Cluster) (sb : Sandbox) (c' : Cluster) : Prop where
  template : c'.find? .sandboxTemplate ⟨"", sb.spec.template⟩ =
    c.find? .sandboxTemplate ⟨"", sb.spec.template⟩
  home : SameHome c sb c'
  hostKey : c'.find? .secret ⟨sb.metadata.namespaceName, hostKeyName sb.metadata.name⟩ =
    c.find? .secret ⟨sb.metadata.namespaceName, hostKeyName sb.metadata.name⟩
  policy : c'.find? .networkPolicy ⟨sb.metadata.namespaceName, netPolName sb.metadata.name⟩ =
    c.find? .networkPolicy ⟨sb.metadata.namespaceName, netPolName sb.metadata.name⟩
  endpoints : clusterEndpoints c' = clusterEndpoints c
  rbac : SameRbac c sb c'
  sessions : activeSessions c' sb = activeSessions c sb
  pod : c'.find? .pod (podKey sb) = c.find? .pod (podKey sb)
  clock : c'.clock = c.clock

section Transport

variable {r : SandboxReconciler} {sb : Sandbox} {tpl : SandboxTemplate} {st st' : SandboxStatus}
  {c c' : Cluster} {ks : List Kind}

theorem conflictOf_congr (hc : SameOutside ks c c') (hks : Kind.sandbox ∉ ks) (claim : String) :
    conflictOf c' sb claim = conflictOf c sb claim := by
  unfold conflictOf claimCandidates
  rw [hc.objs hks]
  simp only [hc.find? hks]

theorem suspends_of_same (hc : SameOutside ks c c') (hks : Kind.sandboxSession ∉ ks)
    {lastActivity : Option Time} :
    Suspends c' sb tpl lastActivity ↔ Suspends c sb tpl lastActivity := by
  simp only [Suspends, Idle, activeSessions, hc.clock, hc.objs hks]

theorem sameHome_of_same (hc : SameOutside ks c c') (hsandboxes : Kind.sandbox ∉ ks)
    (hclaims : Kind.persistentVolumeClaim ∉ ks) : SameHome c sb c' :=
  ⟨conflictOf_congr hc hsandboxes, hc.find? hclaims _⟩

theorem sameRbac_of_same (hc : SameOutside ks c c') (hprofiles : Kind.accessProfile ∉ ks)
    (haccounts : Kind.serviceAccount ∉ ks) (hbindings : Kind.roleBinding ∉ ks) :
    SameRbac c sb c' where
  profile _ := hc.find? hprofiles _
  account := hc.find? haccounts _
  bindings _ := hc.find? hbindings _
  labelled _ _ hrb := (hc.find? hbindings _).symm.trans hrb

/-- A rewrite of sandboxes that the claim guard does not see. -/
theorem sameView_of_same (hc : SameOutside [.sandbox] c c')
    (hconflict : ∀ claim, conflictOf c' sb claim = conflictOf c sb claim) : SameView c sb c' where
  template := hc.find? (by decide) _
  home := ⟨hconflict, hc.find? (by decide) _⟩
  hostKey := hc.find? (by decide) _
  policy := hc.find? (by decide) _
  endpoints := by simp only [clusterEndpoints, hc.objs (show Kind.endpointSlice ∉ _ by decide)]
  rbac := sameRbac_of_same hc (by decide) (by decide) (by decide)
  sessions := by simp only [activeSessions, hc.objs (show Kind.sandboxSession ∉ _ by decide)]
  pod := hc.find? (by decide) _
  clock := hc.clock

theorem SameHome.homeOpen_eq (h : SameHome c sb c') : homeOpen c' sb = homeOpen c sb := by
  have hclaim := h.claim
  rw [homeClaim_eq] at hclaim
  unfold homeOpen
  cases hexisting : existingClaim sb with
  | none => rfl
  | some claim =>
    rw [hexisting, Option.getD_some] at hclaim
    simp only [h.conflict, hclaim]

theorem SameRbac.profilePermits_eq (h : SameRbac c sb c') :
    profilePermits c' sb = profilePermits c sb := by
  unfold profilePermits
  split_ifs with hnone
  · rfl
  · rw [h.profile hnone]

theorem HomeSettled.transport (h : HomeSettled c sb st) (hc : SameHome c sb c')
    (hclaim : st'.pvcName = st.pvcName)
    (hnoted : st'.conditions.find? (fun c => c.type = .homeReady) =
      st.conditions.find? fun c => c.type = .homeReady)
    (hphase : homeOpen c sb = true ∨ st'.phase = st.phase) : HomeSettled c' sb st' := by
  cases h with
  | conflict claim hexisting hne hpending hcond =>
    have hclosed : homeOpen c sb = false := by simp [homeOpen, hexisting, hne]
    rw [hclosed] at hphase
    refine .conflict claim hexisting (hc.conflict claim ▸ hne) ?_ ?_
    · exact (hphase.resolve_left (by decide)).trans hpending
    · rw [hc.conflict]
      exact hnoted.trans hcond
  | missing claim hexisting hfree habsent hpending hcond =>
    have hclosed : homeOpen c sb = false := by simp [homeOpen, hexisting, habsent]
    have hsame := hc.claim
    rw [homeClaim_eq, hexisting, Option.getD_some] at hsame
    rw [hclosed] at hphase
    refine .missing claim hexisting (hc.conflict claim ▸ hfree) (hsame.trans habsent) ?_
      (hnoted.trans hcond)
    exact (hphase.resolve_left (by decide)).trans hpending
  | ready hwas hhome hpvc hcond =>
    refine .ready (hc.homeOpen_eq.trans hwas) ?_ (hclaim.trans hpvc) (hnoted.trans hcond)
    rwa [HasHome, hc.claim]

theorem RbacSettled.transport (h : RbacSettled c sb st) (hc : SameRbac c sb c')
    (hname : st'.serviceAccountName = st.serviceAccountName)
    (hnoted : st'.conditions.find? (fun c => c.type = .rbacReady) =
      st.conditions.find? fun c => c.type = .rbacReady) : RbacSettled c' sb st' := by
  have hcollects : ∀ {keep}, BindingsCollected c sb keep → BindingsCollected c' sb keep :=
    fun hkeep rb hrb hlabel =>
      hkeep rb (mem_objs_iff.mpr (hc.labelled rb hlabel (mem_objs_iff.mp hrb))) hlabel
  cases h with
  | none hnone hcollected haccount hcond =>
    exact .none hnone (hcollects hcollected) (hname.trans haccount) (hnoted.trans hcond)
  | deleted hnamed hprofile hcollected haccount hcond =>
    exact .deleted hnamed ((hc.profile hnamed).trans hprofile) (hcollects hcollected)
      (hname.trans haccount) (hnoted.trans hcond)
  | refused profile hnamed hprofile hrefused hcollected haccount hcond =>
    exact .refused profile hnamed ((hc.profile hnamed).trans hprofile) hrefused
      (hcollects hcollected) (hname.trans haccount) (hnoted.trans hcond)
  | granted profile hgrants hstored hbound hcollected haccount hcond =>
    refine .granted profile ⟨hgrants.named, (hc.profile hgrants.named).trans hgrants.stored,
      hgrants.allowed⟩ ?_ (fun ns hns => ?_) (hcollects hcollected) (hname.trans haccount)
      (hnoted.trans hcond)
    · rwa [hc.account]
    · obtain ⟨rb, hrb, hright⟩ := hbound ns hns
      exact ⟨rb, (hc.bindings ns).trans hrb, hright⟩

/-- The machine looks at the pods, the sessions and the clock, and of the clock it only asks
whether to suspend. -/
theorem MachineSettled.transport (h : MachineSettled r c sb tpl st)
    (hsuspends : Suspends c' sb tpl st.lastActivityTime ↔ Suspends c sb tpl st.lastActivityTime)
    (hpods : c'.find? .pod (podKey sb) = c.find? .pod (podKey sb)) :
    MachineSettled r c' sb tpl st := by
  cases h with
  | suspended hs habsent hphase hip hname hpodReady hready =>
    exact .suspended (hsuspends.mpr hs) (hpods.trans habsent) hphase hip hname hpodReady hready
  | suspending pod hs hpod hdeleting hphase hip =>
    exact .suspending pod (hsuspends.mpr hs) (hpods.trans hpod) hdeleting hphase hip
  | dead pod hrun hpod hdeleting hdead hphase hip hname hpodReady =>
    exact .dead pod (mt hsuspends.mp hrun) (hpods.trans hpod) hdeleting hdead hphase hip hname
      hpodReady
  | ready pod hrun hpod hready hphase hip hname hpodReady hnoted hdrift =>
    exact .ready pod (mt hsuspends.mp hrun) (hpods.trans hpod) hready hphase hip hname hpodReady
      hnoted hdrift
  | pending pod hrun hpod hdead hready hphase hip hname hpodReady hnoted hdrift =>
    exact .pending pod (mt hsuspends.mp hrun) (hpods.trans hpod) hdead hready hphase hip hname
      hpodReady hnoted hdrift

theorem SameView.gatesOpen (h : SameView c sb c') (hgates : GatesOpen c sb tpl) :
    GatesOpen c' sb tpl :=
  ⟨h.template.trans hgates.template, h.home.homeOpen_eq.trans hgates.home,
    h.rbac.profilePermits_eq.trans hgates.profile⟩

theorem PassSettled.transport (h : PassSettled r c sb st) (hc : SameView c sb c') :
    PassSettled r c' sb st := by
  have hkey : HasHostKey c sb → HasHostKey c' sb := fun h => by rwa [HasHostKey, hc.hostKey]
  have hpolicy : ∀ tpl, PolicyRendered r c sb tpl → PolicyRendered r c' sb tpl := by
    rintro tpl ⟨np, hnp, hspec⟩
    exact ⟨np, hc.policy.trans hnp, hc.endpoints ▸ hspec⟩
  have hhome : HomeSettled c sb st → HomeSettled c' sb st :=
    fun h => h.transport hc.home rfl rfl (Or.inr rfl)
  have hrbac : RbacSettled c sb st → RbacSettled c' sb st := fun h => h.transport hc.rbac rfl rfl
  cases h with
  | noTemplate habsent hphase hnoted =>
    exact .noTemplate (hc.template.trans habsent) hphase hnoted
  | home tpl htpl hclosed h =>
    exact .home tpl (hc.template.trans htpl) (hc.home.homeOpen_eq.trans hclosed) (hhome h)
  | profile tpl htpl hopen h hk hp hr hclosed hphase hnoted =>
    exact .profile tpl (hc.template.trans htpl) (hc.home.homeOpen_eq.trans hopen) (hhome h)
      (hkey hk) (hpolicy tpl hp) (hrbac hr) (hc.rbac.profilePermits_eq.trans hclosed) hphase hnoted
  | machine tpl hgates h hk hp hr hsessions hmachine =>
    refine .machine tpl (hc.gatesOpen hgates) (hhome h) (hkey hk) (hpolicy tpl hp) (hrbac hr)
      (fun hrun => (hsessions hrun).trans hc.sessions.symm) (hmachine.transport ?_ hc.pod)
    simp only [Suspends, Idle, hc.sessions, hc.clock]

/-- A pass does not look at the finalizers, the resource version and the stored status, and at the
clock only to see whether to suspend. -/
theorem PassSettled.restamped (h : PassSettled r c sb st) (status : SandboxStatus)
    (finalizers : List String) (rv : Nat) {t : Time}
    (hclock : ∀ tpl, GatesOpen c sb tpl →
      (Suspends { c with clock := t } sb tpl st.lastActivityTime ↔
        Suspends c sb tpl st.lastActivityTime)) :
    PassSettled r { c with clock := t } (stamped { sb with status := status } finalizers rv)
      st := by
  have hhome : HomeSettled c sb st → HomeSettled { c with clock := t }
      (stamped { sb with status := status } finalizers rv) st := by
    intro h
    cases h with
    | conflict claim h₁ h₂ h₃ h₄ => exact .conflict claim h₁ h₂ h₃ h₄
    | missing claim h₁ h₂ h₃ h₄ h₅ => exact .missing claim h₁ h₂ h₃ h₄ h₅
    | ready h₁ h₂ h₃ h₄ => exact .ready h₁ h₂ h₃ h₄
  have hrbac : RbacSettled c sb st → RbacSettled { c with clock := t }
      (stamped { sb with status := status } finalizers rv) st := by
    intro h
    cases h with
    | none h₁ h₂ h₃ h₄ => exact .none h₁ h₂ h₃ h₄
    | deleted h₁ h₂ h₃ h₄ h₅ => exact .deleted h₁ h₂ h₃ h₄ h₅
    | refused profile h₁ h₂ h₃ h₄ h₅ h₆ => exact .refused profile h₁ h₂ h₃ h₄ h₅ h₆
    | granted profile h₁ h₂ h₃ h₄ h₅ h₆ =>
      exact .granted profile ⟨h₁.named, h₁.stored, h₁.allowed⟩ h₂ h₃ h₄ h₅ h₆
  have hmachine : ∀ tpl, MachineSettled r { c with clock := t } sb tpl st →
      MachineSettled r { c with clock := t } (stamped { sb with status := status } finalizers rv)
        tpl st := by
    intro tpl h
    cases h with
    | suspended h₁ h₂ h₃ h₄ h₅ h₆ h₇ => exact .suspended h₁ h₂ h₃ h₄ h₅ h₆ h₇
    | suspending pod h₁ h₂ h₃ h₄ h₅ => exact .suspending pod h₁ h₂ h₃ h₄ h₅
    | dead pod h₁ h₂ h₃ h₄ h₅ h₆ h₇ h₈ => exact .dead pod h₁ h₂ h₃ h₄ h₅ h₆ h₇ h₈
    | ready pod h₁ h₂ h₃ h₄ h₅ h₆ h₇ h₈ h₉ => exact .ready pod h₁ h₂ h₃ h₄ h₅ h₆ h₇ h₈ h₉
    | pending pod h₁ h₂ h₃ h₄ h₅ h₆ h₇ h₈ h₉ h₀ =>
      exact .pending pod h₁ h₂ h₃ h₄ h₅ h₆ h₇ h₈ h₉ h₀
  cases h with
  | noTemplate h₁ h₂ h₃ => exact .noTemplate h₁ h₂ h₃
  | home tpl h₁ h₂ h₃ => exact .home tpl h₁ h₂ (hhome h₃)
  | profile tpl h₁ h₂ h₃ h₄ h₅ h₆ h₇ h₈ h₉ =>
    exact .profile tpl h₁ h₂ (hhome h₃) h₄ h₅ (hrbac h₆) h₇ h₈ h₉
  | machine tpl h₁ h₂ h₃ h₄ h₅ h₆ h₇ =>
    exact .machine tpl ⟨h₁.template, h₁.home, h₁.profile⟩ (hhome h₂) h₃ h₄ (hrbac h₅) h₆
      (hmachine tpl (h₇.transport (hclock tpl h₁) rfl))

end Transport

/-- The sandbox `sb` is stored and settled : its children are as the gates want them, its finalizer
is on, and its status is the one a pass works out. -/
structure SandboxSettled (r : SandboxReconciler) (c : Cluster) (sb : Sandbox) : Prop where
  stored : c.find? .sandbox sb.key = some sb
  live : sb.deleting = false
  finalizer : sandboxFinalizer ∈ sb.metadata.finalizers
  generation : sb.status.observedGeneration = sb.metadata.generation
  pass : PassSettled r c sb sb.status

/-- A pass over a settled sandbox changes nothing, whatever its calls are answered. -/
theorem SandboxSettled.still {r : SandboxReconciler} {c : Cluster} {sb : Sandbox}
    (h : SandboxSettled r c sb) : (r.reconcile sb.key).Still Step (fun _ => True) () c := by
  refine still_getOptional.bind fun read hread => ?_
  rw [h.stored] at hread
  subst hread
  refine still_ite (fun hdeleting => nomatch h.live.symm.trans hdeleting) fun _ => ?_
  refine Still.bind (R := (· = sb)) ?_ fun sb' hsb' => ?_
  · refine still_ite (fun _ => still_pure rfl) fun hnot => ?_
    exact absurd (by simpa using h.finalizer) hnot
  subst hsb'
  have hstatus : { sb'.status with observedGeneration := sb'.metadata.generation } =
      sb'.status := by
    rw [← h.generation]
  rw [hstatus]
  refine h.pass.still.runFrom.bind fun out hout => ?_
  obtain ⟨result, status⟩ := out
  obtain ⟨rfl, -⟩ := hout
  refine Still.bind (R := fun _ => True) ?_ fun out _ => ?_
  · have hpatch : (patchStatus sb' sb'.status : ClientM Unit Unit).Still Step (fun _ => True) ()
        c :=
      still_ite (fun _ => still_pure trivial) fun hne => absurd rfl hne
    exact hpatch.runFrom.mono fun _ _ => trivial
  refine Still.bind (R := fun _ => True) (still_ofExcept fun _ _ => trivial) fun a _ => ?_
  exact Still.bind (R := fun _ => True) (still_ofExcept fun _ _ => trivial) fun _ _ =>
    still_pure trivial

end Kubepark

import Kubepark.IdleDeadline
import Kubepark.SandboxSettled

/-!
# Passes settle a sandbox

What the gates and the desired-state machine leave behind, as far as the next pass looks at it.
Each gate leaves its children as it wants them (`ends_reconcileHome_settled`,
`ends_reconcileRBAC_settled`), the later parts of the pass leave them alone, and the machine leaves
a status that it works out again, unless it has just created the pod (`ends_driveState_settled`).
So a pass without error settles the sandbox or creates its pod (`Pass.settles`).

`controller_converges` : three passes without error settle a sandbox, whatever its children and its
status were. From then on no pass changes anything, until somebody else does or the idle window
elapses. Three, because a pod that a pass deletes may be gone before the next one (`Swept`), which
then creates another; as long as a deleted pod is there, two do (`Pass.settles_again`).
-/

namespace Kubepark

open ApiServer Client SandboxReconciler Routine

/-! ## The gates -/

section Gates

variable {sb : Sandbox} {st : SandboxStatus} {c : Cluster}

theorem noted_setStatusCondition {st : SandboxStatus} {type : ConditionType}
    {status : ConditionStatus} {reason : ConditionReason} {message : String} :
    (setStatusCondition ⟨type, status, reason, message, sb.metadata.generation⟩
      st.conditions).find? (fun c => c.type = type) =
        some ⟨type, status, reason, message, sb.metadata.generation⟩ := by
  rw [find?_setStatusCondition, if_pos rfl]

theorem ends_reconcileHome_settled :
    (reconcileHome sb).Ends Step (fun result st' c' => HomeSettled c' sb st' ∧
      result.isSome = !homeOpen c' sb) st c := by
  unfold reconcileHome
  cases hclaim : existingClaim sb with
  | some claim =>
    refine wp_bind.mpr (ends_claimConflict sb claim ?_)
    refine wp_ite (fun hne => ?_) fun heq => ?_
    · refine ⟨.conflict claim hclaim hne rfl noted_setStatusCondition, ?_⟩
      simp [homeOpen, hclaim, hne]
    refine wp_bind.mpr (wp_getOptional.mpr ⟨trivial, ?_⟩)
    have hfree : conflictOf c sb claim = "" := not_not.mp heq
    cases hpvc : c.find? Kind.persistentVolumeClaim ⟨sb.metadata.namespaceName, claim⟩ with
    | none =>
      refine ⟨.missing claim hclaim hfree hpvc rfl noted_setStatusCondition, ?_⟩
      simp [homeOpen, hclaim, hpvc]
    | some pvc =>
      have hopen : homeOpen c sb = true := by simp [homeOpen, hclaim, hfree, hpvc]
      refine ⟨.ready hopen ?_ ?_ noted_setStatusCondition, by simp [hopen]⟩
      · rw [HasHome, homeClaim_eq, hclaim, Option.getD_some, hpvc]
        rfl
      · rw [homeClaim_eq, hclaim]
        rfl
  | none =>
    have hopen : ∀ c', homeOpen c' sb = true := fun c' => by simp [homeOpen, hclaim]
    have hname : homeClaim sb = pvcName sb.metadata.name := by
      rw [homeClaim_eq, hclaim, Option.getD_none]
    refine wp_bind.mpr (wp_get.mpr ⟨trivial, fun tpl _ => ?_⟩)
    refine wp_bind.mpr (wp_getOptional.mpr ⟨trivial, ?_⟩)
    cases hpvc : c.find? Kind.persistentVolumeClaim
        ⟨sb.metadata.namespaceName, pvcName sb.metadata.name⟩ with
    | none =>
      refine wp_bind.mpr (wp_createIfAbsent.mpr ⟨trivial, fun _ => ?_⟩)
      refine ⟨.ready (hopen _) ?_ hname.symm noted_setStatusCondition, by simp [hopen]⟩
      rw [HasHome, hname]
      exact isSome_find?_ensured c .persistentVolumeClaim (buildPVC sb tpl)
    | some pvc =>
      refine ⟨.ready (hopen _) ?_ hname.symm noted_setStatusCondition, by simp [hopen]⟩
      rw [HasHome, hname, hpvc]
      rfl

/-- The collection leaves nothing behind that is not being deleted, and nothing else is touched. -/
theorem ends_gcRBAC_settled {σ : Type} {st : σ} (keep : Option (List String)) :
    (gcRBAC sb keep : ClientM σ Unit).Ends Step (fun _ _ c' =>
      BindingsCollected c' sb (keep.getD []) ∧
      ∀ key, key.namespaceName ∈ keep.getD [] →
        c'.find? .roleBinding key = c.find? .roleBinding key) st c := by
  refine wp_bind.mpr (wp_list.mpr ⟨trivial, ?_⟩)
  refine wp_post ends_sweep fun _ _ c' hswept => ⟨fun rb hrb hlabel hout => ?_, ?_⟩
  · have hstored := mem_objs_iff.mp hrb
    by_cases hsel : ∃ old, c.find? .roleBinding rb.key = some old ∧
        matchingLabel labelSandboxUID sb.metadata.uid old = true
    · obtain ⟨old, hold, hsel⟩ := hsel
      have hns : old.metadata.namespaceName = rb.metadata.namespaceName :=
        congrArg ObjectKey.namespaceName (key_of_find? hold)
      exact ((hswept rb.key).left hold hsel (by simpa [hns] using hout) hstored).1
    · have hsame := (hswept rb.key).kept fun old hold hsel' => absurd ⟨old, hold, hsel'⟩ hsel
      exact absurd ⟨rb, hsame.symm.trans hstored, hlabel⟩ hsel
  · intro key hkey
    refine (hswept key).kept fun old hold _ => ?_
    have hns : old.metadata.namespaceName = key.namespaceName :=
      congrArg ObjectKey.namespaceName (key_of_find? hold)
    simpa [hns] using hkey

/-- Once the binding in `ns` is applied it is as it should be, or its deletion is held up; nothing
else is touched. -/
theorem ends_applyRoleBinding_settled {profile : AccessProfile} {ns : String}
    (hstays : ∀ rb, c.find? .roleBinding (bindingKey sb ns) = some rb → rb.deleting = true →
      rb.metadata.finalizers ≠ []) :
    (applyRoleBinding (buildRoleBinding sb profile ns)).Ends Step (fun _ _ c' =>
      BindingSettled c' sb profile ns ∧
      ∀ key, key ≠ bindingKey sb ns →
        c'.find? .roleBinding key = c.find? .roleBinding key) st c := by
  have hne : ∀ {key : ObjectKey}, key ≠ bindingKey sb ns →
      (⟨.roleBinding, key⟩ : Kind × ObjectKey) ≠ (.roleBinding, bindingKey sb ns) :=
    fun hne he => hne (Prod.mk.inj he).2
  refine wp_bind.mpr (wp_getOptional.mpr ⟨trivial, ?_⟩)
  cases hrb : c.find? .roleBinding (buildRoleBinding sb profile ns).key with
  | none =>
    refine wp_createIfAbsent.mpr ⟨trivial, fun _ => ⟨?_, fun key hkey => ?_⟩⟩
    · exact ⟨_, find?_ensured_of_none hrb, Or.inl ⟨rfl, rfl⟩⟩
    · exact find?_ensured_ne (hne hkey)
  | some rb =>
    have hkey : rb.key = bindingKey sb ns := key_of_find? hrb
    refine wp_ite (fun href => ?_) fun href => wp_ite (fun hsubjects => ?_)
      fun hsubjects => ?_
    · refine wp_bind.mpr (wp_deleteIfPresent.mpr ⟨trivial, ?_⟩)
      rw [hkey]
      refine wp_createIfAbsent.mpr ⟨trivial, fun _ => ⟨?_, fun key hkey => ?_⟩⟩
      · cases hleft : (c.dropped .roleBinding (bindingKey sb ns) "applyRoleBinding").find?
            .roleBinding (bindingKey sb ns) with
        | none => exact ⟨_, find?_ensured_of_none hleft, Or.inl ⟨rfl, rfl⟩⟩
        | some left =>
          obtain ⟨hdeleting, old, hold, hheld⟩ := of_find?_dropped hleft
          obtain rfl := Option.some.inj (hrb.symm.trans hold)
          have hheld' : rb.deleting = true ∨ rb.metadata.finalizers ≠ [] := by
            simpa [KindInfo.graceful] using hheld
          obtain ⟨left', hleft', -, hspec⟩ :=
            find?_dropped_of_held "applyRoleBinding" hrb hheld'
          obtain rfl := Option.some.inj (hleft.symm.trans hleft')
          exact ⟨left, find?_ensured_of_some hleft, Or.inr ⟨hspec ▸ href, hdeleting⟩⟩
      · exact (find?_ensured_ne (hne hkey)).trans (find?_dropped_ne (hne hkey))
    · refine wp_bind.mpr (wp_update.mpr ⟨trivial, fun old hold _ => ?_⟩)
      obtain rfl := Option.some.inj (hrb.symm.trans ((congrArg _ hkey.symm).trans hold))
      refine ⟨?_, fun key hkey' => find?_settle_ne (hkey ▸ hne hkey')⟩
      rw [BindingSettled, ← hkey]
      exact ⟨_, find?_settle_self (hstays rb hrb), Or.inl ⟨not_not.mp href, rfl⟩⟩
    · exact ⟨⟨rb, hrb, Or.inl ⟨not_not.mp href, not_not.mp hsubjects⟩⟩, fun _ _ => rfl⟩

theorem ends_applyRoleBindings_settled {profile : AccessProfile} (hheld : c.DeletionsHeld) :
    (Routine.forEach (grantNamespaces profile) fun ns =>
      applyRoleBinding (buildRoleBinding sb profile ns)).Ends Step
      (fun _ _ c' => ∀ ns ∈ grantNamespaces profile, BindingSettled c' sb profile ns) st c := by
  -- What is still to do is as it was, and what is done is settled.
  refine wp_post (wp_forEach (fun todo _ c' => todo.Nodup ∧
    (∀ ns ∈ todo, c'.find? .roleBinding (bindingKey sb ns) =
      c.find? .roleBinding (bindingKey sb ns)) ∧
    ∀ ns ∈ grantNamespaces profile, ns ∈ todo ∨ BindingSettled c' sb profile ns) ?_ _
    ⟨nodup_grantNamespaces profile, fun _ _ => rfl, fun _ => Or.inl⟩) ?_
  · rintro ns todo st c' ⟨hnodup, huntouched, hdone⟩
    obtain ⟨hnew, hnodup⟩ := List.nodup_cons.mp hnodup
    refine wp_post (ends_applyRoleBinding_settled fun rb hrb hdeleting => ?_) ?_
    · rw [huntouched ns List.mem_cons_self] at hrb
      simpa [KindInfo.graceful] using hheld _ _ rb hrb hdeleting
    rintro _ _ c'' ⟨hsettled, hrest⟩
    have hother : ∀ ns', ns' ≠ ns → c''.find? .roleBinding (bindingKey sb ns') =
        c'.find? .roleBinding (bindingKey sb ns') :=
      fun ns' hne => hrest _ fun he => hne (bindingKey_inj.mp he)
    refine ⟨hnodup, fun ns' hns' => ?_, fun ns' hns' => ?_⟩
    · rw [hother ns' fun he => hnew (he ▸ hns')]
      exact huntouched ns' (List.mem_cons_of_mem _ hns')
    · by_cases he : ns' = ns
      · exact Or.inr (he ▸ hsettled)
      · rcases hdone ns' hns' with hmem | hdone
        · exact Or.inl ((List.mem_cons.mp hmem).resolve_left he)
        · rw [BindingSettled, ← hother ns' he] at hdone
          exact Or.inr hdone
  · rintro _ _ c' ⟨-, -, hdone⟩ ns hns
    exact (hdone ns hns).resolve_left List.not_mem_nil

theorem ends_withoutCredentials_settled {status : ConditionStatus} {reason : ConditionReason}
    {message : String} {ready : Bool} :
    (withoutCredentials sb status reason message ready).Ends Step (fun _ st' c' =>
      BindingsCollected c' sb [] ∧ st'.serviceAccountName = "" ∧
        Noted sb st' .rbacReady status reason message ∧ SameOutside Gate.rbac.kinds c c') st c := by
  have hcalls : (gcRBAC sb none : SandboxM Unit).wp Step (RbacCall sb [])
      (fun _ _ c' => BindingsCollected c' sb []) st c :=
    (gcRBAC_calls sb [] none).ends (wp_post (ends_gcRBAC_settled none) fun _ _ _ h => h.1)
  refine wp_bind.mpr (wp_mono
    (wp_sameOutside (fun _ _ h => h.within) hcalls) (fun _ _ _ => trivial) ?_)
  rintro _ st' c' ⟨hcollected, hsame⟩
  exact ⟨hcollected, rfl, noted_setStatusCondition, hsame⟩

/-- RBAC under a profile that permits the sandbox. -/
theorem ends_reconcileRBAC_granted {profile : AccessProfile} (hheld : c.DeletionsHeld)
    (hgrants : Grants c sb profile) :
    (reconcileRBAC sb).Ends Step (fun _ st' c' =>
      (∀ ns ∈ grantNamespaces profile, BindingSettled c' sb profile ns) ∧
      BindingsCollected c' sb (grantNamespaces profile) ∧
      st'.serviceAccountName = saName sb.metadata.name ∧
      Noted sb st' .rbacReady .true .running
        ("bound to AccessProfile " ++ quote profile.metadata.name ++ " in " ++
          toString (grantNamespaces profile).length ++ " namespace(s)")) st c := by
  refine wp_ite (fun h => absurd h hgrants.named) fun _ => ?_
  refine wp_bind.mpr (wp_getOptional.mpr ⟨trivial, ?_⟩)
  rw [hgrants.stored]
  refine wp_ite (fun h => absurd hgrants.allowed h) fun _ => ?_
  refine wp_bind.mpr (wp_createIfAbsent.mpr ⟨trivial, fun _ => ?_⟩)
  refine wp_bind.mpr (wp_post
    (ends_applyRoleBindings_settled (hheld.ensured _)) fun _ _ c₂ hbound => ?_)
  refine wp_bind.mpr (wp_post (ends_gcRBAC_settled _) ?_)
  rintro _ _ c' ⟨hcollected, hkept⟩
  refine ⟨fun ns hns => ?_, hcollected, rfl, noted_setStatusCondition⟩
  obtain ⟨rb, hrb, hright⟩ := hbound ns hns
  exact ⟨rb, (hkept _ hns).trans hrb, hright⟩

/-- RBAC leaves its children as it wants them. -/
theorem ends_reconcileRBAC_settled (hheld : c.DeletionsHeld) :
    (reconcileRBAC sb).Ends Step (fun _ st' c' => RbacSettled c' sb st') st c := by
  have hprofiles : Kind.accessProfile ∉ Gate.rbac.kinds := by simp [Gate.kinds]
  by_cases hgrants : ∃ profile, Grants c sb profile
  · obtain ⟨profile, hgrants⟩ := hgrants
    have hpermits : profilePermits c sb = true := by
      simp [profilePermits, hgrants.named, hgrants.stored, hgrants.allowed]
    refine wp_mono (wp_sameOutside (fun _ _ h => h.within) ((reconcileRBAC_calls sb).ends
      (ends_and (ends_reconcileRBAC_granted hheld hgrants)
        (ends_and (ends_reconcileRBAC sb) (ends_reconcileRBAC_account sb)))))
      (fun _ _ _ => trivial) ?_
    rintro rbac st' c' ⟨⟨⟨hbound, hcollected, haccount, hnoted⟩, hready, hstored⟩, hsame⟩
    generalize rbac.serviceAccount = serviceAccount at hstored
    cases hstored (hready.trans hpermits) with
    | none hnone => exact absurd hnone hgrants.named
    | granted _ _ hpresent =>
      exact .granted profile (hgrants.congr hsame (by decide)) hpresent hbound hcollected haccount
        hnoted
  · refine wp_ite (fun hnone => ?_) fun hnamed => ?_
    · refine wp_post ends_withoutCredentials_settled ?_
      rintro _ st' c' ⟨hcollected, haccount, hnoted, -⟩
      exact .none hnone hcollected haccount hnoted
    refine wp_bind.mpr (wp_getOptional.mpr ⟨trivial, ?_⟩)
    cases hprofile : c.find? Kind.accessProfile ⟨"", sb.spec.accessProfile⟩ with
    | none =>
      refine wp_post ends_withoutCredentials_settled ?_
      rintro _ st' c' ⟨hcollected, haccount, hnoted, hsame⟩
      exact .deleted hnamed ((hsame.find? hprofiles _).trans hprofile) hcollected haccount hnoted
    | some profile =>
      refine wp_ite (fun hrefused => ?_) fun hallowed => ?_
      · refine wp_post ends_withoutCredentials_settled ?_
        rintro _ st' c' ⟨hcollected, haccount, hnoted, hsame⟩
        exact .refused profile hnamed ((hsame.find? hprofiles _).trans hprofile) hrefused hcollected
          haccount hnoted
      · exact absurd ⟨profile, hnamed, hprofile, not_not.mp hallowed⟩ hgrants

end Gates

/-! ## The desired-state machine -/

section Machine

variable {r : SandboxReconciler} {sb : Sandbox} {tpl : SandboxTemplate} {st : SandboxStatus}
  {c : Cluster}

/-- The parts of the status that the machine leaves alone. -/
def gateView (st : SandboxStatus) :
    String × String × Nat × Option Condition × Option Condition :=
  (st.pvcName, st.serviceAccountName, st.observedGeneration,
    st.conditions.find? (fun c => c.type = .homeReady),
    st.conditions.find? (fun c => c.type = .rbacReady))

theorem frame_machineCondition {type : ConditionType} {status : ConditionStatus}
    {reason : ConditionReason} {message : String} (hhome : type ≠ .homeReady)
    (hrbac : type ≠ .rbacReady) :
    (setCondition sb type status reason message).Frame (fun _ => True) gateView := by
  refine frame_modify fun st => ?_
  simp only [gateView, find?_setStatusCondition, if_neg hhome, if_neg hrbac]

theorem frame_machineFields {α : Type} {g : SandboxStatus → SandboxStatus} {f : Unit → SandboxM α}
    (hf : (f ()).Frame (fun _ => True) gateView) (hg : ∀ st, gateView (g st) = gateView st) :
    (Routine.modify g >>= f).Frame (fun _ => True) gateView :=
  (frame_modify hg).bind fun _ => hf

theorem frame_suspend_gates : (suspend sb).Frame (fun _ => True) gateView := by
  refine frame_machineFields ((frame_getOptional trivial).bind fun pod => ?_) fun _ => rfl
  cases pod with
  | none =>
    refine frame_machineFields ?_ fun _ => rfl
    refine (frame_machineCondition (by decide) (by decide)).bind fun _ => ?_
    exact (frame_machineCondition (by decide) (by decide)).bind fun _ => frame_pure _
  | some pod =>
    refine frame_machineFields (frame_ite (frame_pure _) ?_) fun _ => rfl
    exact (frame_deleteIfPresent trivial).bind fun _ => frame_pure _

theorem frame_runDead_gates (pod : Pod) : (runDead sb pod).Frame (fun _ => True) gateView := by
  refine frame_ite ?_ ((frame_deleteIfPresent trivial).bind fun _ => ?_)
  all_goals
    refine frame_machineFields ?_ fun _ => rfl
    exact (frame_machineCondition (by decide) (by decide)).bind fun _ => frame_pure _

theorem frame_reportDrift_gates (currentHash : String) :
    (reportDrift sb currentHash).Frame (fun _ => True) gateView :=
  Routine.Frame.bind (fun _ => rfl) fun _ =>
    frame_ite (frame_machineCondition (by decide) (by decide))
      (frame_machineCondition (by decide) (by decide))

theorem frame_run_gates (currentHash serviceAccount : String) :
    (r.run sb tpl currentHash serviceAccount).Frame (fun _ => True) gateView := by
  refine (frame_getOptional trivial).bind fun pod => ?_
  cases pod with
  | none =>
    refine (frame_createIfAbsent trivial).bind fun _ => frame_machineFields ?_ fun _ => rfl
    refine (frame_machineCondition (by decide) (by decide)).bind fun _ => ?_
    exact (frame_machineCondition (by decide) (by decide)).bind fun _ => frame_pure _
  | some pod =>
    refine frame_machineFields (frame_ite (frame_runDead_gates pod) ?_) fun _ => rfl
    refine frame_ite (Routine.Frame.bind ?_ fun _ => ?_) (Routine.Frame.bind ?_ fun _ => ?_)
    · refine (frame_call trivial).bind fun t => frame_machineFields ?_ fun _ => rfl
      refine (frame_machineCondition (by decide) (by decide)).bind fun _ => ?_
      exact frame_machineCondition (by decide) (by decide)
    · exact (frame_reportDrift_gates currentHash).bind fun _ => frame_pure _
    · refine frame_machineFields ?_ fun _ => rfl
      refine (frame_machineCondition (by decide) (by decide)).bind fun _ => ?_
      exact frame_machineCondition (by decide) (by decide)
    · exact (frame_reportDrift_gates currentHash).bind fun _ => frame_pure _

theorem frame_driveState_gates (serviceAccount : String) :
    (r.driveState sb tpl serviceAccount).Frame (fun _ => True) gateView := by
  refine frame_ite frame_suspend_gates ?_
  refine Routine.Frame.bind ((frame_list trivial).bind fun _ => frame_pure _)
    fun active => ?_
  refine frame_machineFields (Routine.Frame.bind (fun _ => rfl) fun st => ?_) fun _ => rfl
  refine (frame_call trivial).bind fun t => frame_ite frame_suspend_gates ?_
  refine (frame_run_gates _ _).bind fun result => ?_
  refine Routine.Frame.bind (fun _ => rfl) fun st => ?_
  exact (frame_call trivial).bind fun t => frame_pure _

theorem sameOutside_dropped {k : Kind} (c : Cluster) (key : ObjectKey) (site : String) :
    SameOutside [k] c (c.dropped k key site) := by
  unfold dropped
  split
  · exact .refl _ _
  · unfold deleted
    split_ifs
    · exact .refl _ _
    · exact .write (List.mem_singleton_self k) _
    · exact ⟨rfl, fun k' hk' => store_remove_ne c key (by simpa using hk')⟩

theorem noted_setStatusCondition_ne {conditions : List Condition} {cond : Condition}
    {type : ConditionType} (hne : cond.type ≠ type) :
    (setStatusCondition cond conditions).find? (fun c => c.type = type) =
      conditions.find? fun c => c.type = type := by
  rw [find?_setStatusCondition, if_neg hne]

theorem ends_suspend_settled (hs : Suspends c sb tpl st.lastActivityTime) :
    (suspend sb).Ends Step (fun _ st' c' => MachineSettled r c' sb tpl st' ∧
      st'.activeSessions = st.activeSessions) st c := by
  refine wp_bind.mpr (wp_modify.mpr ?_)
  refine wp_bind.mpr (wp_getOptional.mpr ⟨trivial, ?_⟩)
  cases hpod : c.find? .pod (podKey sb) with
  | none =>
    refine ⟨.suspended hs hpod rfl rfl rfl ?_ noted_setStatusCondition, rfl⟩
    exact (noted_setStatusCondition_ne (by simp)).trans noted_setStatusCondition
  | some pod =>
    refine wp_bind.mpr (wp_modify.mpr ?_)
    refine wp_ite (fun hdeleting => ?_) fun _ => ?_
    · exact ⟨.suspending pod hs hpod hdeleting rfl rfl, rfl⟩
    refine wp_bind.mpr (wp_deleteIfPresent.mpr ⟨trivial, ?_⟩)
    obtain ⟨pod', hpod', hdeleting⟩ := deleting_dropped "suspend" hpod
    have hs' : Suspends (c.dropped .pod (podKey sb) "suspend") sb tpl st.lastActivityTime :=
      (suspends_of_same (sameOutside_dropped c _ _) (by decide)).mpr hs
    exact ⟨.suspending pod' hs' hpod' hdeleting rfl rfl, rfl⟩

/-- What the machine reports of drift, it would report again. -/
theorem ends_reportDrift_settled {Q : Unit → SandboxStatus → Cluster → Prop}
    (h : ∀ conditions, DriftNoted r sb tpl { st with conditions := conditions } →
      (∀ type, type ≠ .templateOutdated → conditions.find? (fun c => c.type = type) =
        st.conditions.find? fun c => c.type = type) →
      Q () { st with conditions := conditions } c) :
    (reportDrift sb (r.templateHash tpl.spec)).Ends Step Q st c := by
  refine wp_bind.mpr (wp_record.mpr ?_)
  refine wp_ite (fun hdrift => h _ ?_ fun type hne => ?_)
    fun hdrift => h _ ?_ fun type hne => ?_
  · rw [DriftNoted, if_pos hdrift]
    exact noted_setStatusCondition
  · exact noted_setStatusCondition_ne hne.symm
  · rw [DriftNoted, if_neg hdrift]
    exact noted_setStatusCondition
  · exact noted_setStatusCondition_ne hne.symm

/-- A pod that is deleted stays, being deleted, with the name and the status it had. -/
theorem pod_dropped {key : ObjectKey} {pod : Pod} (site : String)
    (hpod : c.find? .pod key = some pod) :
    ∃ pod', (c.dropped .pod key site).find? .pod key = some pod' ∧ pod'.deleting = true ∧
      pod'.metadata.name = pod.metadata.name ∧ pod'.status = pod.status := by
  have hkey := key_of_find? hpod
  simp only [dropped, hpod, deleted]
  split_ifs with hdeleting hstays
  · exact ⟨pod, hpod, hdeleting, rfl, rfl⟩
  · exact ⟨_, (congrArg _ hkey.symm).trans (find?_write_self c .pod (c.terminated site pod)), rfl,
      rfl, rfl⟩
  · simp [KindInfo.graceful] at hstays

/-- An idle window that starts now has not elapsed. -/
theorem not_suspends_started {p : Prop} [Decidable p] {lastActivity : Option Time}
    (hrun : ¬Suspends c sb tpl lastActivity) :
    ¬Suspends c sb tpl (if p then some c.clock else lastActivity) := by
  split_ifs with hp
  · rintro (hstop | ⟨-, hidle⟩)
    · exact hrun (Or.inl hstop)
    · obtain ⟨last, hlast, hpositive, hexceeded⟩ := idleExpired_iff.mp hidle
      obtain rfl := Option.some.inj hlast
      exact absurd hexceeded (by simpa using hpositive.le)
  · exact hrun

/-- The run branch over a pod that is there. -/
theorem ends_run_settled {pod : Pod} (hrun : ¬Suspends c sb tpl st.lastActivityTime)
    (hpod : c.find? .pod (podKey sb) = some pod) (serviceAccount : String) :
    (r.run sb tpl (r.templateHash tpl.spec) serviceAccount).Ends Step (fun _ st' c' =>
      MachineSettled r c' sb tpl st' ∧ st'.activeSessions = st.activeSessions) st c := by
  refine wp_bind.mpr (wp_getOptional.mpr ⟨trivial, ?_⟩)
  rw [hpod]
  refine wp_bind.mpr (wp_modify.mpr ?_)
  refine wp_ite (fun hdead => ?_) fun hdead => ?_
  · refine wp_ite (fun hdeleting => ?_) fun hlive => ?_
    · exact ⟨.dead pod hrun hpod hdeleting hdead rfl rfl rfl noted_setStatusCondition, rfl⟩
    refine wp_bind.mpr (wp_deleteIfPresent.mpr ⟨trivial, ?_⟩)
    have hrun' : ¬Suspends (c.dropped .pod (podKey sb) "run") sb tpl st.lastActivityTime := by
      rwa [suspends_of_same (sameOutside_dropped c _ _) (by decide)]
    obtain ⟨pod', hpod', hdeleting, hname, hstatus⟩ := pod_dropped "run" hpod
    refine ⟨.dead pod' hrun' hpod' hdeleting ?_ rfl rfl hname.symm ?_, rfl⟩
    · rwa [podDead, hstatus]
    · rw [hstatus]
      exact noted_setStatusCondition
  refine wp_ite (fun hready => ?_) fun hready => ?_
  · refine wp_bind.mpr ?_
    refine wp_bind.mpr (wp_now.mpr ⟨trivial, ?_⟩)
    refine wp_bind.mpr (wp_modify.mpr ?_)
    refine wp_bind.mpr (wp_modify.mpr ?_)
    refine wp_modify.mpr (wp_bind.mpr ?_)
    refine ends_reportDrift_settled fun conditions hdrift hkept => ?_
    refine ⟨.ready pod (not_suspends_started hrun) hpod hready rfl rfl rfl
      ((hkept _ (by simp)).trans ?_) ((hkept _ (by simp)).trans noted_setStatusCondition) hdrift,
      rfl⟩
    exact (noted_setStatusCondition_ne (by simp)).trans noted_setStatusCondition
  · refine wp_bind.mpr ?_
    refine wp_bind.mpr (wp_modify.mpr ?_)
    refine wp_bind.mpr (wp_modify.mpr ?_)
    refine wp_modify.mpr (wp_bind.mpr ?_)
    refine ends_reportDrift_settled fun conditions hdrift hkept => ?_
    refine ⟨.pending pod hrun hpod (by simpa using hdead) (by simpa using hready) ?_ rfl rfl
      ((hkept _ (by simp)).trans ?_) ((hkept _ (by simp)).trans noted_setStatusCondition) hdrift,
      rfl⟩
    · show (if st.phase ≠ .resuming then SandboxPhase.provisioning else .resuming) = _ ∨
        (if st.phase ≠ .resuming then SandboxPhase.provisioning else .resuming) = _
      split_ifs
      · exact Or.inr rfl
      · exact Or.inl rfl
    · exact (noted_setStatusCondition_ne (by simp)).trans noted_setStatusCondition

/-- The pod was not there, and now there is one that `sb` owns and that has not died. -/
structure PodCreated (c : Cluster) (sb : Sandbox) (c' : Cluster) : Prop where
  absent : c.find? .pod (podKey sb) = none
  created : ∃ pod, c'.find? .pod (podKey sb) = some pod ∧ podDead pod = false ∧
    sb.metadata.uid ∈ pod.metadata.ownerReferences

/-- The run branch without a pod. -/
theorem ends_run_created (habsent : c.find? .pod (podKey sb) = none) (serviceAccount : String) :
    (r.run sb tpl (r.templateHash tpl.spec) serviceAccount).Ends Step
      (fun _ _ c' => PodCreated c sb c') st c := by
  refine wp_bind.mpr (wp_getOptional.mpr ⟨trivial, ?_⟩)
  rw [habsent]
  refine wp_bind.mpr (wp_createIfAbsent.mpr ⟨trivial, fun _ => ?_⟩)
  exact ⟨habsent, _, find?_ensured_of_none (o := r.desiredPod sb tpl serviceAccount) habsent, rfl,
    List.mem_singleton_self _⟩

theorem ends_driveState_machine (serviceAccount : String) :
    (r.driveState sb tpl serviceAccount).Ends Step (fun _ st' c' =>
      MachineSettled r c' sb tpl st' ∧ SessionsNoted c sb st' ∨ PodCreated c sb c') st c := by
  refine wp_ite (fun hstop => ?_) fun hstop => ?_
  · have hsuspends : Suspends c sb tpl st.lastActivityTime := Or.inl hstop
    refine wp_post (ends_suspend_settled (r := r) hsuspends) ?_
    rintro _ st' c' ⟨hmachine, -⟩
    exact Or.inl ⟨hmachine, fun hrun => absurd hstop hrun⟩
  refine wp_bind.mpr (wp_bind.mpr ?_)
  refine wp_list.mpr ⟨trivial, ?_⟩
  refine wp_bind.mpr (wp_modify.mpr ?_)
  refine wp_bind.mpr (wp_record.mpr ?_)
  refine wp_bind.mpr (wp_now.mpr ⟨trivial, ?_⟩)
  refine wp_ite (fun hidle => ?_) fun hidle => ?_
  · refine wp_post (ends_suspend_settled (r := r) (Or.inr hidle)) ?_
    rintro _ st' c' ⟨hmachine, hactive⟩
    exact Or.inl ⟨hmachine, fun _ => hactive⟩
  let st₁ : SandboxStatus := { st with activeSessions := activeSessions c sb }
  have hrun : ¬Suspends c sb tpl st₁.lastActivityTime := fun hs => hs.elim hstop hidle
  have hends : (r.run sb tpl (r.templateHash tpl.spec) serviceAccount).Ends Step (fun _ st' c' =>
      MachineSettled r c' sb tpl st' ∧ SessionsNoted c sb st' ∨ PodCreated c sb c') st₁ c := by
    cases hpod : c.find? .pod (podKey sb) with
    | none => exact wp_post (ends_run_created hpod serviceAccount) fun _ _ _ => Or.inr
    | some pod =>
      refine wp_post (ends_run_settled hrun hpod serviceAccount) ?_
      rintro _ st' c' ⟨hmachine, hactive⟩
      exact Or.inl ⟨hmachine, fun _ => hactive⟩
  refine wp_bind.mpr (wp_post hends fun _ st' c' h => ?_)
  refine wp_bind.mpr (wp_record.mpr ?_)
  exact wp_bind.mpr (wp_now.mpr ⟨trivial, h⟩)

/-- The machine leaves a status that it works out again, unless it has just created the pod. -/
theorem ends_driveState_settled (serviceAccount : String) :
    (r.driveState sb tpl serviceAccount).Ends Step (fun _ st' c' =>
      (MachineSettled r c' sb tpl st' ∧ SessionsNoted c' sb st' ∨ PodCreated c sb c') ∧
        gateView st' = gateView st ∧ SameOutside [.pod] c c') st c := by
  have houtcome : (r.driveState sb tpl serviceAccount).Ends Step
      (fun _ _ c' => SameOutside [.pod] c c') st c :=
    wp_mono (driveState_outcome r sb tpl serviceAccount) (fun _ _ _ => trivial)
      fun _ _ _ h => h.2
  refine (frame_driveState_gates serviceAccount).wp (wp_post (ends_and
    (ends_driveState_machine (r := r) serviceAccount) houtcome) ?_)
  rintro _ st' c' ⟨hmachine, hsame⟩ hview
  refine ⟨hmachine.imp_left fun ⟨hmachine, hsessions⟩ => ⟨hmachine, fun hrun => ?_⟩, hview, hsame⟩
  rw [hsessions hrun, activeSessions, activeSessions, hsame.objs (by decide)]

end Machine

/-! ## A whole pass -/

section Pass

variable {r : SandboxReconciler} {sb : Sandbox} {st : SandboxStatus} {c : Cluster}

theorem policyStays_of_held (h : c.DeletionsHeld) : PolicyStays c sb :=
  fun np hnp hdeleting => (h _ _ np hnp hdeleting).resolve_left (by decide)

/-- What the rest of the pass leaves of the home gate's report. -/
def homeView (st : SandboxStatus) : String × Nat × Option Condition :=
  (st.pvcName, st.observedGeneration, st.conditions.find? fun c => c.type = .homeReady)

theorem ignoresRBAC_homeView : IgnoresRBAC homeView := by
  intro st serviceAccount cond hcond
  simp only [homeView, find?_setStatusCondition, hcond, reduceCtorEq, if_false]

/-- A gate as part of a pass that settles : see `wp_gate`. -/
theorem ends_gate {α τ : Type} {x : SandboxM α} {Q : α → SandboxStatus → Cluster → Prop}
    {f : SandboxStatus → τ} {g : Gate} (hheld : c.DeletionsHeld)
    (hcalls : x.Always Step (GateCall r sb g) st c) (hframe : x.Frame (GateOp g.kinds) f)
    (hends : x.Ends Step Q st c) :
    x.Ends Step (fun a st' c' => Q a st' c' ∧ f st' = f st ∧ SameOutside g.kinds c c' ∧
      c'.DeletionsHeld) st c := by
  have hgate := wp_gate (H := Step) (P := fun _ _ => True) r sb (fun _ _ _ _ _ => id)
    (fun _ _ _ _ _ => trivial) hcalls hframe hends (.refl _ _)
  have hkept := wp_preserves (fun _ _ _ _ _ hs h => Step.deletionsHeld hs h) hgate hheld
  refine wp_mono hkept (fun _ _ _ => trivial) ?_
  rintro a st' c' ⟨⟨⟨hQ, hf⟩, hsame⟩, hheld'⟩
  exact ⟨hQ, hf, hsame, hheld'⟩

/-- The gates before the machine have nothing to do. -/
structure GatesSettled (r : SandboxReconciler) (c : Cluster) (sb : Sandbox) (tpl : SandboxTemplate)
    (st : SandboxStatus) : Prop where
  template : c.find? .sandboxTemplate ⟨"", sb.spec.template⟩ = some tpl
  opened : homeOpen c sb = true
  home : HomeSettled c sb st
  hostKey : HasHostKey c sb
  policy : PolicyRendered r c sb tpl
  rbac : RbacSettled c sb st

theorem GatesSettled.transport {tpl : SandboxTemplate} {st' : SandboxStatus} {c' : Cluster}
    (h : GatesSettled r c sb tpl st) (hview : gateView st' = gateView st)
    (hc : SameOutside [.pod] c c') : GatesSettled r c' sb tpl st' := by
  simp only [gateView, Prod.mk.injEq] at hview
  obtain ⟨hclaim, haccount, -, hhome, hrbac⟩ := hview
  have hsame : SameHome c sb c' := sameHome_of_same hc (by decide) (by decide)
  exact
    { template := (hc.find? (by decide) _).trans h.template
      opened := hsame.homeOpen_eq.trans h.opened
      home := h.home.transport hsame hclaim hhome (Or.inl h.opened)
      hostKey := (hasHostKey_congr sb hc (by decide)).mpr h.hostKey
      policy := (policyRendered_congr r sb tpl hc (by decide) (by decide)).mpr h.policy
      rbac := h.rbac.transport (sameRbac_of_same hc (by decide) (by decide) (by decide)) haccount
        hrbac }

/-- The gates after the home. -/
theorem ends_equip_settled {tpl : SandboxTemplate} {Q : Result → SandboxStatus → Cluster → Prop}
    (hheld : c.DeletionsHeld)
    (htpl : c.find? .sandboxTemplate ⟨"", sb.spec.template⟩ = some tpl)
    (hopen : homeOpen c sb = true) (hhome : HomeSettled c sb st)
    (hrest : ∀ (rbac : RBACResult) st' c', GatesSettled r c' sb tpl st' →
      rbac.ready = profilePermits c' sb → c'.find? .pod (podKey sb) = c.find? .pod (podKey sb) →
      st'.observedGeneration = st.observedGeneration →
      (if rbac.ready then r.driveState sb tpl rbac.serviceAccount
        else pendingWith sb .provisioning "waiting on access profile").Ends Step Q st' c') :
    (do
      r.reconcileHostKey sb
      r.reconcileNetworkPolicy sb tpl
      let rbac ← reconcileRBAC sb
      if rbac.ready then r.driveState sb tpl rbac.serviceAccount
      else pendingWith sb .provisioning "waiting on access profile" : SandboxM Result).Ends
        Step Q st c := by
  refine wp_bind.mpr (wp_post (ends_gate (f := id) hheld
    (reconcileHostKey_calls r sb) (frame_reconcileHostKey r sb) (ends_reconcileHostKey r sb)) ?_)
  rintro - st₁ c₁ ⟨hkey, rfl, hc₁, hheld₁⟩
  refine wp_bind.mpr (wp_post (ends_gate (f := id) hheld₁
    (reconcileNetworkPolicy_calls r sb tpl) (frame_reconcileNetworkPolicy r sb tpl)
    (ends_reconcileNetworkPolicy_rendered r sb tpl)) ?_)
  rintro - st₂ c₂ ⟨hpolicy, rfl, hc₂, hheld₂⟩
  refine wp_bind.mpr (wp_post (ends_gate (r := r) hheld₂
    (wp_mono (reconcileRBAC_calls sb) (fun _ _ h => .rbac _ h) fun _ _ _ h => h)
    (frame_reconcileRBAC sb ignoresRBAC_homeView)
    (ends_and (ends_reconcileRBAC sb) (ends_reconcileRBAC_settled hheld₂))) ?_)
  rintro rbac st₃ c₃ ⟨⟨hready, hrbac⟩, hview, hc₃, -⟩
  simp only [homeView, Prod.mk.injEq] at hview
  obtain ⟨hclaim, hgeneration, hnoted⟩ := hview
  have hc : SameOutside [.secret, .networkPolicy, .serviceAccount, .roleBinding] c c₃ :=
    (hc₁.mono (by simp [Gate.kinds])).trans ((hc₂.mono (by simp [Gate.kinds])).trans
      (hc₃.mono (by simp [Gate.kinds])))
  have hsame : SameHome c sb c₃ := sameHome_of_same hc (by decide) (by decide)
  refine hrest rbac st₃ c₃ ?_ ?_ (hc.find? (by decide) _) hgeneration
  · exact
      { template := (hc.find? (by decide) _).trans htpl
        opened := hsame.homeOpen_eq.trans hopen
        home := hhome.transport hsame hclaim hnoted (Or.inl hopen)
        hostKey := (hasHostKey_congr sb hc₃ (by simp [Gate.kinds])).mpr
          ((hasHostKey_congr sb hc₂ (by simp [Gate.kinds])).mpr hkey)
        policy := (policyRendered_congr r sb tpl hc₃ (by simp [Gate.kinds])
          (by simp [Gate.kinds])).mpr (hpolicy (policyStays_of_held hheld₁))
        rbac := hrbac }
  · rw [hready]
    simp only [profilePermits, hc₃.find? (show Kind.accessProfile ∉ Gate.rbac.kinds by
      simp [Gate.kinds])]

/-- The gates and the machine leave everything as they want it, unless the pod has just been
created. -/
theorem ends_reconcileSandbox_settled (hheld : c.DeletionsHeld) :
    (r.reconcileSandbox sb).Ends Step (fun _ st' c' =>
      (PassSettled r c' sb st' ∨ PodCreated c sb c') ∧
        st'.observedGeneration = st.observedGeneration) st c := by
  refine wp_bind.mpr (wp_getOptional.mpr ⟨trivial, ?_⟩)
  cases htpl : c.find? Kind.sandboxTemplate ⟨"", sb.spec.template⟩ with
  | none => exact ⟨Or.inl (.noTemplate htpl rfl noted_setStatusCondition), rfl⟩
  | some tpl =>
    refine wp_bind.mpr (wp_post (ends_gate hheld
      (reconcileHome_calls r sb) (gate_reconcileHome sb (f := SandboxStatus.observedGeneration)
        fun _ _ _ _ _ => rfl) ends_reconcileHome_settled) ?_)
    rintro result st₁ c₁ ⟨⟨hhome, hresult⟩, hst₁, hc₁, hheld₁⟩
    have htpl₁ := (hc₁.find? (by simp [Gate.kinds]) _).trans htpl
    have hpod₁ := hc₁.find? (k := .pod) (by simp [Gate.kinds]) (podKey sb)
    cases result with
    | some result =>
      exact ⟨Or.inl (.home tpl htpl₁ (by simpa using hresult.symm) hhome), hst₁⟩
    | none =>
      refine ends_equip_settled hheld₁ htpl₁ (by simpa using hresult.symm) hhome ?_
      intro rbac st₂ c₂ hgates hready hpod₂ hst₂
      refine wp_ite (fun hpermits => ?_) fun hrefused => ?_
      · refine wp_post (ends_driveState_settled rbac.serviceAccount) ?_
        rintro _ st' c' ⟨hmachine, hview, hc'⟩
        have hgates' := hgates.transport hview hc'
        refine ⟨?_, (congrArg (·.2.2.1) hview).trans (hst₂.trans hst₁)⟩
        rcases hmachine with ⟨hmachine, hsessions⟩ | hcreated
        · have hpermits' : profilePermits c' sb = true := by
            rw [← hready.symm.trans hpermits]
            simp only [profilePermits, hc'.find? (show Kind.accessProfile ∉ [Kind.pod] by decide)]
          exact Or.inl (.machine tpl ⟨hgates'.template, hgates'.opened, hpermits'⟩ hgates'.home
            hgates'.hostKey hgates'.policy hgates'.rbac hsessions hmachine)
        · exact Or.inr ⟨(hpod₂.trans hpod₁).symm.trans hcreated.absent, hcreated.created⟩
      · have hview : gateView { st₂ with
            phase := .pending
            conditions := setStatusCondition ⟨.ready, .false, .provisioning,
              "waiting on access profile", sb.metadata.generation⟩ st₂.conditions } =
            gateView st₂ := by
          simp [gateView, find?_setStatusCondition]
        have hgates' := hgates.transport hview (.refl _ _)
        refine ⟨Or.inl (.profile tpl hgates'.template hgates'.opened hgates'.home hgates'.hostKey
          hgates'.policy hgates'.rbac ?_ rfl noted_setStatusCondition), hst₂.trans hst₁⟩
        exact hready.symm.trans (Bool.eq_false_iff.mpr hrefused)

theorem Prepared.deletionsHeld {c₁ : Cluster} {sb₁ : Sandbox} (h : Prepared c sb c₁ sb₁)
    (hlive : sb.deleting = false) (hheld : c.DeletionsHeld) : c₁.DeletionsHeld := by
  intro k key o ho hdeleting
  by_cases hk : k = .sandbox
  · subst hk
    by_cases hkey : key = sb.key
    · subst hkey
      obtain ⟨finalizers, rv, rfl⟩ := h.stamp
      obtain rfl := Option.some.inj (h.stored.symm.trans ho)
      exact nomatch hlive.symm.trans hdeleting
    · exact hheld _ key o ((h.others key hkey).symm.trans ho) hdeleting
  · exact hheld k key o ((h.outside.find? (by simpa using hk) key).symm.trans ho) hdeleting

/-- Where a pass without error has worked out the status `st'`, before it persists it. -/
structure WorkedOut (r : SandboxReconciler) (c : Cluster) (sb : Sandbox) (st' : SandboxStatus)
    (c₂ : Cluster) : Prop where
  settled : PassSettled r c₂ sb st' ∨ PodCreated c sb c₂
  generation : st'.observedGeneration = sb.metadata.generation
  conflict : ∀ claim, conflictOf c₂ sb claim = conflictOf c sb claim

/-- A pass over a live sandbox works out the status and persists it. -/
theorem ends_reconcileLive_settled (hheld : c.DeletionsHeld)
    (hsb : c.find? .sandbox sb.key = some sb) (hlive : sb.deleting = false) :
    (r.reconcileLive sb).Ends Step (fun _ _ c' => ∃ st' c₂ finalizers rv, WorkedOut r c sb st' c₂ ∧
      c'.find? .sandbox sb.key = some (stamped { sb with status := st' } finalizers rv) ∧
      sandboxFinalizer ∈ finalizers ∧ SameOutside [.sandbox] c₂ c') () c := by
  refine wp_reconcileLive_of (R := fun c₁ _ out c₂ => Routine.okPost (fun _ st' c' =>
    ((PassSettled r c' sb st' ∨ PodCreated c₁ sb c') ∧
      st'.observedGeneration = sb.metadata.generation) ∧
        SameOutside (.pod :: gateKinds) c₁ c') out c₂) r (fun _ _ _ _ _ => id) hsb hlive trivial
    ?_ (fun _ _ _ _ _ _ => trivial) ?_ ?_
  · intro c₁ sb₁ hprep
    exact ends_and (ends_reconcileSandbox_settled (hprep.deletionsHeld hlive hheld))
      (wp_mono (wp_reconcileSandbox_prepared r hprep) (fun _ _ _ => trivial)
        fun _ _ _ h => h.1)
  · intro c₁ sb₁ result st' c₂ hprep hR
    exact (hR.2.find? (by decide) _).trans hprep.stored
  · intro c₁ sb₁ result st' c₂ c' rv' hprep hR hstored' _ hc'
    obtain ⟨⟨hsettled, hgeneration⟩, hc₂⟩ := hR
    obtain ⟨finalizers, rv, rfl⟩ := id hprep.stamp
    refine ⟨st', c₂, finalizers, rv', ⟨?_, hgeneration, fun claim => ?_⟩, hstored',
      hprep.finalizer, hc'⟩
    · refine hsettled.imp_right fun hcreated => ⟨?_, hcreated.created⟩
      exact (hprep.outside.find? (by decide) _).symm.trans hcreated.absent
    · exact (conflictOf_congr hc₂ (by decide) claim).trans (hprep.conflict claim)

/-- A pass without error settles the sandbox, unless it has created the pod. -/
theorem Pass.settles {key : ObjectKey} {t : List (Call × Cluster)} {result : Result} {c' : Cluster}
    (h : Pass r key c t (.ok result) c') (hheld : c.DeletionsHeld)
    (hsb : c.find? .sandbox key = some sb) (hlive : sb.deleting = false) :
    ∃ sb' status finalizers rv, sb' = stamped { sb with status := status } finalizers rv ∧
      c'.find? .sandbox key = some sb' ∧ (SandboxSettled r c' sb' ∨ PodCreated c sb c') := by
  obtain rfl := key_of_find? hsb
  obtain ⟨st', c₂, finalizers, rv, hworked, hstored, hfinalizer, hc'⟩ :=
    (h.wp (wp_reconcile_of_live r hsb hlive trivial (ends_reconcileLive_settled hheld hsb hlive))).2
  refine ⟨_, st', finalizers, rv, rfl, hstored, ?_⟩
  rcases hworked.settled with hsettled | hcreated
  · have hconflict : ∀ claim, conflictOf c' sb claim = conflictOf c₂ sb claim := fun claim =>
      ((h.guardKept hsb hlive).2 claim).trans (hworked.conflict claim).symm
    exact Or.inl ⟨hstored, hlive, hfinalizer, hworked.generation,
      (hsettled.transport (sameView_of_same hc' hconflict)).restamped st' finalizers rv
        fun _ _ => Iff.rfl⟩
  · obtain ⟨pod, hpod, hcreated'⟩ := hcreated.created
    exact Or.inr ⟨hcreated.absent, pod, (hc'.find? (by decide) _).trans hpod, hcreated'⟩

/-- An idle window that has elapsed stays so. -/
theorem Suspends.tick {tpl : SandboxTemplate} {lastActivity : Option Time} {t : Time}
    (h : Suspends c sb tpl lastActivity) (ht : c.clock ≤ t) :
    Suspends { c with clock := t } sb tpl lastActivity := by
  refine h.imp_right fun ⟨hsessions, hidle⟩ => ⟨hsessions, ?_⟩
  obtain ⟨last, hlast, hpositive, hexceeded⟩ := idleExpired_iff.mp hidle
  exact idleExpired_iff.mpr ⟨last, hlast, hpositive,
    hexceeded.trans_le (Int.sub_le_sub_right ht last)⟩

/-- A settled sandbox has its pod, or is to have none, also later. -/
theorem SandboxSettled.not_podCreated {t : Time} {tr : List (Call × Cluster)} {result : Result}
    {c' : Cluster} (h : SandboxSettled r c sb) (ht : c.clock ≤ t)
    (hpass : Pass r sb.key { c with clock := t } tr (.ok result) c') :
    ¬PodCreated { c with clock := t } sb c' := by
  rintro ⟨habsent, pod, hpod, -⟩
  obtain ⟨sb', houtcome⟩ := hpass.outcome h.stored h.live
  rcases houtcome.result with ⟨-, -, hsame⟩ | ⟨tpl, hgates, hmachine⟩
  · exact nomatch (hsame.trans habsent).symm.trans hpod
  cases hmachine with
  | suspended _ _ habsent' => exact nomatch habsent'.symm.trans hpod
  | created _ hrun =>
    -- The machine runs with the gates open, so it was settled before, and without a pod suspended.
    have hgates : GatesOpen c sb tpl := ⟨hgates.template, hgates.home, hgates.profile⟩
    cases h.pass with
    | noTemplate hnone => exact nomatch hnone.symm.trans hgates.template
    | home _ _ hclosed => exact nomatch hclosed.symm.trans hgates.home
    | profile _ _ _ _ _ _ _ hclosed => exact nomatch hclosed.symm.trans hgates.profile
    | machine tpl' hgates' _ _ _ _ _ hsettled =>
      obtain rfl := gatesOpen_tpl_unique sb hgates hgates'
      cases hsettled with
      | suspended hs => exact hrun (hs.tick ht)
      | suspending _ _ hpod | dead _ _ hpod | ready _ _ hpod | pending _ _ hpod =>
        exact nomatch habsent.symm.trans hpod
  | suspending _ _ _ hpod | dead _ _ _ hpod | ready _ _ hpod | pending _ _ hpod =>
    exact nomatch habsent.symm.trans hpod

/-- What may happen to a settled sandbox with nothing to do about it : a pass over it, cut short
or not, and the clock moving on, unless the idle window elapses. -/
inductive QuietStep (r : SandboxReconciler) (key : ObjectKey) : Cluster → Cluster → Prop
  | pass {c c' : Cluster} {t : List (Call × Cluster)} (h : PartialPass r key c t c') :
    QuietStep r key c c'
  | tick {c : Cluster} (t : Time) (h : c.clock ≤ t)
    (hwindow : ∀ sb tpl, c.find? .sandbox key = some sb → GatesOpen c sb tpl →
      Suspends { c with clock := t } sb tpl sb.status.lastActivityTime →
        Suspends c sb tpl sb.status.lastActivityTime) :
    QuietStep r key c { c with clock := t }

theorem SandboxSettled.quiet {c' : Cluster} (h : SandboxSettled r c sb)
    (hstep : QuietStep r sb.key c c') :
    SandboxSettled r c' sb ∧ c' = { c with clock := c'.clock } := by
  cases hstep with
  | pass hpass =>
    obtain rfl := h.still.visits hpass
    exact ⟨h, rfl⟩
  | tick t ht hwindow =>
    refine ⟨⟨h.stored, h.live, h.finalizer, h.generation, ?_⟩, rfl⟩
    exact h.pass.restamped sb.status sb.metadata.finalizers sb.metadata.resourceVersion
      fun tpl hgates => ⟨hwindow sb tpl h.stored hgates, fun hs => hs.tick ht⟩

theorem SandboxSettled.quiet_run {c' : Cluster} (h : SandboxSettled r c sb)
    (hrun : Relation.ReflTransGen (QuietStep r sb.key) c c') :
    SandboxSettled r c' sb ∧ c' = { c with clock := c'.clock } := by
  induction hrun with
  | refl => exact ⟨h, rfl⟩
  | tail _ hstep ih =>
    obtain ⟨hsettled, hsame⟩ := ih
    obtain ⟨hsettled', hsame'⟩ := hsettled.quiet hstep
    exact ⟨hsettled', hsame'.trans (by rw [hsame])⟩

/-- Two passes without error, with time between them, settle a sandbox. -/
theorem Pass.settles_again {key : ObjectKey} {c₁ c₂ : Cluster} {t₁ t₂ : List (Call × Cluster)}
    {result₁ result₂ : Result} {t : Time} (h₁ : Pass r key c t₁ (.ok result₁) c₁)
    (h₂ : Pass r key { c₁ with clock := t } t₂ (.ok result₂) c₂) (hheld : c.DeletionsHeld)
    (hsb : c.find? .sandbox key = some sb) (hlive : sb.deleting = false) (ht : c₁.clock ≤ t) :
    ∃ sb₂, sb₂.key = key ∧ SandboxSettled r c₂ sb₂ := by
  have hheld₁ : c₁.DeletionsHeld :=
    h₁.preserves hsb hlive (fun _ _ _ _ _ hs h => hs.deletionsHeld h) hheld
  obtain ⟨sb₁, _, _, _, hstamp, hsb₁, hfirst⟩ := h₁.settles hheld hsb hlive
  have hlive₁ : sb₁.deleting = false := hstamp ▸ hlive
  have hpod₁ : podKey sb₁ = podKey sb := by rw [hstamp]; rfl
  have hheld₁' : ({ c₁ with clock := t } : Cluster).DeletionsHeld := hheld₁
  obtain ⟨sb₂, _, _, _, -, hsb₂, hsecond⟩ := h₂.settles hheld₁' hsb₁ hlive₁
  refine ⟨sb₂, key_of_find? hsb₂, hsecond.resolve_right fun hcreated => ?_⟩
  obtain rfl := key_of_find? hsb₁
  rcases hfirst with hsettled | ⟨-, pod, hpod, -⟩
  · exact hsettled.not_podCreated ht h₂ hcreated
  · rw [← hpod₁] at hpod
    exact nomatch hcreated.absent.symm.trans hpod

/-! ## Rounds -/

/-- What the server has left of the pod when a pass over the sandbox under `key` has come from `c`
to `c'`. A pod that the pass has deleted may be gone at once : one that has Failed or Succeeded, or
that is on no node yet, has no grace period. No pass looks at the pod after it has deleted it. -/
inductive Swept (key : ObjectKey) (c c' : Cluster) : Cluster → Prop
  | kept : Swept key c c' c'
  | gone (pod pod' : Pod) (hpod : c.find? .pod ⟨key.namespaceName, podName key.name⟩ = some pod)
    (hlive : pod.deleting = false)
    (hpod' : c'.find? .pod ⟨key.namespaceName, podName key.name⟩ = some pod')
    (hdeleting : pod'.deleting = true) :
    Swept key c c' (c'.remove .pod ⟨key.namespaceName, podName key.name⟩)

/-- A pass without error, and the time until the next one, in which the idle window does not
elapse. -/
inductive Round (r : SandboxReconciler) (key : ObjectKey) (c : Cluster) : Cluster → Prop
  | mk {c₁ c₂ : Cluster} {t : List (Call × Cluster)} {result : Result} (now : Time)
    (hpass : Pass r key c t (.ok result) c₁) (hswept : Swept key c c₁ c₂) (hnow : c₂.clock ≤ now)
    (hwindow : ∀ sb tpl, c₂.find? .sandbox key = some sb → GatesOpen c₂ sb tpl →
      Suspends { c₂ with clock := now } sb tpl sb.status.lastActivityTime →
        Suspends c₂ sb tpl sb.status.lastActivityTime) :
    Round r key c { c₂ with clock := now }

/-- The pod of `sb` has not died, and `sb` is not to be suspended. -/
structure Fresh (c : Cluster) (sb : Sandbox) : Prop where
  pod : ∃ pod, c.find? .pod (podKey sb) = some pod ∧ podDead pod = false
  runs : ∀ tpl, GatesOpen c sb tpl → ¬Suspends c sb tpl sb.status.lastActivityTime

section Rounds

variable {key : ObjectKey} {c' : Cluster}

theorem deletionsHeld_remove (h : c.DeletionsHeld) (k : Kind) (key : ObjectKey) :
    (c.remove k key).DeletionsHeld :=
  fun k' key' o ho => h k' key' o (find?_of_remove c k key ho)

/-- A round leaves a settled sandbox as it is. -/
theorem Round.settled (h : Round r sb.key c c') (hsettled : SandboxSettled r c sb) :
    SandboxSettled r c' sb := by
  cases h with
  | mk now hpass hswept hnow hwindow =>
    obtain rfl := hsettled.still.visits hpass.visits
    cases hswept with
    | kept => exact (hsettled.quiet (.tick now hnow hwindow)).1
    | gone pod pod' hpod hlive hpod' hdeleting =>
      obtain rfl := Option.some.inj (hpod.symm.trans hpod')
      exact nomatch hlive.symm.trans hdeleting

/-- What a pass deletes is a pod that has died or that is to go. -/
theorem Pass.not_swept {t : List (Call × Cluster)} {result : Result} {pod pod' : Pod}
    (h : Pass r sb.key c t (.ok result) c') (hsb : c.find? .sandbox sb.key = some sb)
    (hlive : sb.deleting = false) (hfresh : Fresh c sb)
    (hpod : c.find? .pod (podKey sb) = some pod) (hpod' : c'.find? .pod (podKey sb) = some pod') :
    pod' = pod := by
  obtain ⟨sb', houtcome⟩ := h.outcome hsb hlive
  rcases houtcome.result with ⟨-, -, hsame⟩ | ⟨tpl, hgates, hmachine⟩
  · exact Option.some.inj (hpod'.symm.trans (hsame.trans hpod))
  cases hmachine with
  | suspended hs | suspending _ _ hs => exact absurd hs (hfresh.runs tpl hgates)
  | created _ _ habsent => exact nomatch habsent.symm.trans hpod
  | dead pod₁ _ _ hpod₁ hdead =>
    obtain ⟨pod₂, hpod₂, halive⟩ := hfresh.pod
    obtain rfl := Option.some.inj (hpod₂.symm.trans hpod₁)
    exact nomatch hdead.symm.trans halive
  | ready pod₁ _ hpod₁ _ hsame | pending pod₁ _ hpod₁ _ _ hsame =>
    obtain rfl := Option.some.inj (hpod.symm.trans hpod₁)
    exact Option.some.inj (hpod'.symm.trans hsame)

/-- A sandbox whose pod a pass has created is not to be suspended, as long as its idle window does
not elapse. -/
theorem Pass.fresh {t : List (Call × Cluster)} {result : Result} {sb' : Sandbox} {now : Time}
    (h : Pass r sb.key c t (.ok result) c') (hsb : c.find? .sandbox sb.key = some sb)
    (hlive : sb.deleting = false) (hsb' : c'.find? .sandbox sb.key = some sb')
    (hcreated : PodCreated c sb c')
    (hwindow : ∀ sb tpl', c'.find? .sandbox sb'.key = some sb → GatesOpen c' sb tpl' →
      Suspends { c' with clock := now } sb tpl' sb.status.lastActivityTime →
        Suspends c' sb tpl' sb.status.lastActivityTime) :
    Fresh { c' with clock := now } sb' := by
  obtain ⟨sb₁, houtcome⟩ := h.outcome hsb hlive
  obtain rfl := Option.some.inj (hsb'.symm.trans houtcome.stored)
  obtain ⟨finalizers, rv, hstamp⟩ := houtcome.stamp
  have hkey : sb'.key = sb.key := key_of_find? hsb'
  have hpodKey : podKey sb' = podKey sb := by rw [hstamp]; rfl
  obtain ⟨pod, hpod, halive, -⟩ := hcreated.created
  refine ⟨⟨pod, hpodKey ▸ hpod, halive⟩, fun tpl hgates hs => ?_⟩
  have hgates' : GatesOpen c' sb' tpl := ⟨hgates.template, hgates.home, hgates.profile⟩
  have hs' := hwindow sb' tpl (hkey ▸ hsb') hgates' hs
  rcases houtcome.result with ⟨-, -, hsame⟩ | ⟨tpl', hopen, hmachine⟩
  · cases hpod.symm.trans (hsame.trans hcreated.absent)
  have htpl : tpl' = tpl := by
    have htemplate : c.find? .sandboxTemplate ⟨"", sb.spec.template⟩ = some tpl := by
      rw [← houtcome.outside.find? (by decide)]
      rw [hstamp] at hgates'
      exact hgates'.template
    exact Option.some.inj (hopen.template.symm.trans htemplate)
  subst htpl
  have hcongr : Suspends c' sb' tpl' sb.status.lastActivityTime ↔
      Suspends c sb tpl' sb.status.lastActivityTime := by
    rw [hstamp]
    simp only [Suspends, Idle, activeSessions, houtcome.outside.clock,
      houtcome.outside.objs (show Kind.sandboxSession ∉ .pod :: preparedKinds by decide)]
    rfl
  cases hmachine with
  | created _ hrun _ _ _ _ _ hactivity =>
    rw [hactivity] at hs'
    exact hrun (hcongr.mp hs')
  | suspended _ _ habsent => cases hpod.symm.trans habsent
  | suspending _ _ _ hpod' | dead _ _ _ hpod' | ready _ _ hpod' | pending _ _ hpod' =>
    cases hcreated.absent.symm.trans hpod'

/-- After a round the sandbox is settled, or its pod is new, or its pod has been deleted and is
gone. -/
theorem Round.outcome (h : Round r key c c') (hheld : c.DeletionsHeld)
    (hsb : c.find? .sandbox key = some sb) (hlive : sb.deleting = false) :
    ∃ sb', c'.find? .sandbox key = some sb' ∧ sb'.deleting = false ∧ c'.DeletionsHeld ∧
      (SandboxSettled r c' sb' ∨ c.find? .pod (podKey sb) = none ∧ Fresh c' sb' ∨
        c'.find? .pod (podKey sb') = none ∧ ¬Fresh c sb ∧ c.find? .pod (podKey sb) ≠ none) := by
  cases h with
  | @mk c₁ c₂ t result now hpass hswept hnow hwindow =>
    obtain rfl := key_of_find? hsb
    have hheld₁ : c₁.DeletionsHeld :=
      hpass.preserves hsb hlive (fun _ _ _ _ _ hs h => hs.deletionsHeld h) hheld
    obtain ⟨sb', _, _, _, hstamp, hsb', hsettled⟩ := hpass.settles hheld hsb hlive
    have hlive' : sb'.deleting = false := hstamp ▸ hlive
    have hkey : sb'.key = sb.key := key_of_find? hsb'
    have hpodKey : podKey sb' = podKey sb := by rw [hstamp]; rfl
    cases hswept with
    | kept =>
      refine ⟨sb', hsb', hlive', hheld₁, ?_⟩
      rcases hsettled with hsettled | hcreated
      · rw [← hkey] at hwindow
        exact Or.inl (hsettled.quiet (.tick now hnow hwindow)).1
      · refine Or.inr (Or.inl ⟨hcreated.absent, ?_⟩)
        exact hpass.fresh hsb hlive hsb' hcreated (hkey.symm ▸ hwindow)
    | gone pod pod' hpod hpodLive hpod' hdeleting =>
      refine ⟨sb', ?_, hlive', deletionsHeld_remove hheld₁ _ _, Or.inr (Or.inr ⟨?_, ?_, ?_⟩)⟩
      · exact (find?_remove_ne c₁ .pod (podKey sb) (by simp)).trans hsb'
      · rw [hpodKey]
        exact find?_remove_self c₁ .pod _
      · intro hfresh
        obtain rfl := hpass.not_swept hsb hlive hfresh hpod hpod'
        exact nomatch hpodLive.symm.trans hdeleting
      · intro habsent
        exact nomatch habsent.symm.trans hpod

/-- Three rounds settle a sandbox : the pod that was there is deleted, a new one is created, and
the status says so. -/
theorem Round.settles_third {c₁ c₂ c₃ : Cluster} (h₁ : Round r key c c₁) (h₂ : Round r key c₁ c₂)
    (h₃ : Round r key c₂ c₃) (hheld : c.DeletionsHeld) (hsb : c.find? .sandbox key = some sb)
    (hlive : sb.deleting = false) : ∃ sb₃, sb₃.key = key ∧ SandboxSettled r c₃ sb₃ := by
  -- A round from a new pod settles the sandbox.
  have hfresh : ∀ {c c' : Cluster} {sb : Sandbox}, Round r key c c' → c.DeletionsHeld →
      c.find? .sandbox key = some sb → sb.deleting = false → Fresh c sb →
      ∃ sb', sb'.key = key ∧ SandboxSettled r c' sb' := by
    intro c c' sb h hheld hsb hlive hfresh
    obtain ⟨sb', hsb', -, -, hsettled | ⟨habsent, -⟩ | ⟨-, hnot, -⟩⟩ := h.outcome hheld hsb hlive
    · exact ⟨sb', key_of_find? hsb', hsettled⟩
    · obtain ⟨pod, hpod, -⟩ := hfresh.pod
      exact nomatch habsent.symm.trans hpod
    · exact absurd hfresh hnot
  obtain ⟨sb₁, hsb₁, hlive₁, hheld₁, hsettled | ⟨-, hnew⟩ | ⟨habsent, -⟩⟩ :=
    h₁.outcome hheld hsb hlive
  · obtain rfl := key_of_find? hsb₁
    exact ⟨sb₁, rfl, h₃.settled (h₂.settled hsettled)⟩
  · obtain ⟨sb₂, rfl, hsettled⟩ := hfresh h₂ hheld₁ hsb₁ hlive₁ hnew
    exact ⟨sb₂, rfl, h₃.settled hsettled⟩
  obtain ⟨sb₂, hsb₂, hlive₂, hheld₂, hsettled | ⟨-, hnew⟩ | ⟨-, -, hthere⟩⟩ :=
    h₂.outcome hheld₁ hsb₁ hlive₁
  · obtain rfl := key_of_find? hsb₂
    exact ⟨sb₂, rfl, h₃.settled hsettled⟩
  · exact hfresh h₃ hheld₂ hsb₂ hlive₂ hnew
  · exact absurd habsent hthere

end Rounds

end Pass

/-- The controller converges. After three passes over a live sandbox that end without error, whatever
its children and its status were before, the sandbox is settled, and passes over it, failing, cut
short or not, change nothing any more while the clock moves on within the idle window. A pod that a
pass deletes may be gone at once. -/
theorem controller_converges (r : SandboxReconciler) {key : ObjectKey} {sb : Sandbox}
    {c₀ c₁ c₂ c₃ c' : Cluster} (hheld : c₀.DeletionsHeld) (hsb : c₀.find? .sandbox key = some sb)
    (hlive : sb.deleting = false) (h₁ : Round r key c₀ c₁) (h₂ : Round r key c₁ c₂)
    (h₃ : Round r key c₂ c₃) (hquiet : Relation.ReflTransGen (QuietStep r key) c₃ c') :
    (∃ sb₃, sb₃.key = key ∧ SandboxSettled r c₃ sb₃ ∧ SandboxSettled r c' sb₃) ∧
      c' = { c₃ with clock := c'.clock } := by
  obtain ⟨sb₃, rfl, hsettled⟩ := h₁.settles_third h₂ h₃ hheld hsb hlive
  obtain ⟨hsettled', hsame⟩ := hsettled.quiet_run hquiet
  exact ⟨⟨sb₃, rfl, hsettled, hsettled'⟩, hsame⟩

theorem deletionsHeld_ofObjects {objs : (k : Kind) → List (Obj k)} {t : Time}
    (h : ∀ k, ∀ o ∈ objs k, o.deleting = false) : (Cluster.ofObjects objs t).DeletionsHeld := by
  intro k key o ho hdeleting
  have hmem := KeyedStore.mem_of_mem_ofList (mem_of_find? ho)
  exact nomatch (h k o hmem).symm.trans hdeleting

/-- The team's cluster with a new sandbox. -/
def Team.newborn : Cluster :=
  cluster [template] (sandbox .running {}) []

theorem Team.deletionsHeld_newborn : newborn.DeletionsHeld := by
  refine deletionsHeld_ofObjects fun k => ?_
  cases k <;> simp [template, sandbox, Object.deleting]

theorem Team.pass_of_eval {c : Cluster}
    (h : ((runPass reconciler key c).1.toOption).isSome = true) :
    ∃ result, Pass reconciler key c (passTrace reconciler key c) (.ok result) (pass c) := by
  obtain ⟨result, hresult⟩ := Option.isSome_iff_exists.mp h
  exact ⟨result, pass_of_runPass hresult⟩

/-- The pod of a new sandbox has failed. -/
def Team.failed : Cluster :=
  podFails (pass newborn)

/-- After a pass that has deleted the pod, which is gone at once. -/
theorem Team.round_swept {c c' : Cluster}
    (hpass : ∃ result, Pass reconciler key c (passTrace reconciler key c) (.ok result) c')
    (hpod : ((c.find? .pod ⟨"team", "kubepark-sb-dev"⟩).any fun pod => !pod.deleting) = true)
    (hpod' : ((c'.find? .pod ⟨"team", "kubepark-sb-dev"⟩).any fun pod => pod.deleting) = true) :
    Round reconciler key c (podVanishes c') := by
  obtain ⟨_, hpass⟩ := hpass
  obtain ⟨pod, hpod, hlive⟩ := (Option.any_eq_true _ _).mp hpod
  obtain ⟨pod', hpod', hdeleting⟩ := (Option.any_eq_true _ _).mp hpod'
  exact .mk (podVanishes c').clock hpass (.gone pod pod' hpod (by simpa using hlive) hpod' hdeleting)
    le_rfl fun _ _ _ _ h => h

/-- After a pass whose pod stays. -/
theorem Team.round_kept {c c' : Cluster}
    (hpass : ∃ result, Pass reconciler key c (passTrace reconciler key c) (.ok result) c') :
    Round reconciler key c c' := by
  obtain ⟨_, hpass⟩ := hpass
  exact .mk c'.clock hpass .kept le_rfl fun _ _ _ _ h => h

/-- A sandbox whose pod has failed is settled by the pass that deletes the pod, which is gone at
once, the one that creates another and the one after. The fourth pass leaves everything as it is. -/
theorem failed_sandbox_converges :
    ((Team.pass Team.failed).find? .pod ⟨"team", "kubepark-sb-dev"⟩).any (·.deleting) = true ∧
    ∀ c₃, c₃ = Team.pass (Team.pass (Team.podVanishes (Team.pass Team.failed))) →
      Team.pass c₃ = { c₃ with clock := (Team.pass c₃).clock } := by
  have hdeleted : ((Team.pass Team.failed).find? .pod ⟨"team", "kubepark-sb-dev"⟩).any
      (·.deleting) = true := by decide +kernel
  have hheld : Team.failed.DeletionsHeld := by
    have hpass := partialPass_runPass Team.reconciler Team.key Team.newborn
    exact Step.deletionsHeld (step_handle _ _) (hpass.preserves hpass.calls
      (fun _ _ _ _ _ hs hc => hs.deletionsHeld hc) Team.deletionsHeld_newborn)
  obtain ⟨sb, hsb, hlive⟩ := (Option.any_eq_true _ _).mp
    (show (Team.failed.find? .sandbox Team.key).any (fun sb => !sb.deleting) = true by
      decide +kernel)
  have h₁ := Team.round_swept (Team.pass_of_eval (c := Team.failed) (by decide +kernel))
    (by decide +kernel) hdeleted
  generalize hc₁ : Team.podVanishes (Team.pass Team.failed) = c₁ at h₁ ⊢
  have h₂ := Team.round_kept (Team.pass_of_eval (c := c₁) (by subst hc₁; decide +kernel))
  generalize hc₂ : Team.pass c₁ = c₂ at h₂ ⊢
  have h₃ := Team.round_kept (Team.pass_of_eval (c := c₂) (by subst hc₂ hc₁; decide +kernel))
  refine ⟨hdeleted, ?_⟩
  rintro c₃ rfl
  exact (controller_converges Team.reconciler hheld hsb (by simpa using hlive) h₁ h₂ h₃
    (.single (.pass (partialPass_runPass _ _ _)))).2

end Kubepark

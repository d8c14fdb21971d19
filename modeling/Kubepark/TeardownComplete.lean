import Kubepark.ClusterRuns

/-!
# Teardown is complete and can be resumed

A sandbox is being deleted, and passes over it are made one after the other; in each of them
any call may fail, and each may be cut short (`Attempts`). `teardown_complete` : the pass that
takes the finalizer off leaves the sandbox torn down, and a pass in which no call fails takes it
off, whatever the earlier ones left behind.

Deleting is not waiting. A RoleBinding or a home claim that someone else's finalizer holds is
still there, being deleted, when the sandbox goes (`binding_outlives_sandbox`).
-/

namespace Kubepark

open ApiServer Client SandboxReconciler Routine

/-- The finalizer of the controller is off. -/
def Released (c : Cluster) (key : ObjectKey) : Prop :=
  ∀ sb, c.find? .sandbox key = some sb → sandboxFinalizer ∉ sb.metadata.finalizers

/-- Passes over `key`, one after the other. -/
def Attempts (r : SandboxReconciler) (key : ObjectKey) : Cluster → Cluster → Prop :=
  Relation.ReflTransGen fun c c' => ∃ t, PartialPass r key c t c'

/-- What stands under `key` is `sb`, at most with another status and other finalizers. -/
def StillThere (key : ObjectKey) (sb : Sandbox) (c : Cluster) : Prop :=
  ∀ sb', c.find? .sandbox key = some sb' →
    ∃ status finalizers rv, sb' = stamped { sb with status := status } finalizers rv

/-! ## One pass -/

section Pass

variable {r : SandboxReconciler} {key : ObjectKey} {c c' : Cluster} {sb : Sandbox}
  {t : List (Call × Cluster)}

/-- A pass over a sandbox that is being deleted is a teardown. -/
theorem wp_reconcile_teardown (hsb : c.find? .sandbox key = some sb)
    (hdeleting : sb.deleting = true) (hfinalizer : sandboxFinalizer ∈ sb.metadata.finalizers) :
    (r.reconcile key).wp Step (TeardownCall c sb) (fun _ _ c' => Torn c sb c' ∧ Released c' key)
      () c := by
  obtain rfl := key_of_find? hsb
  have hread : TeardownCall c sb (.get .sandbox sb.key) c := by
    refine ⟨.read rfl, ⟨sb, hsb, hfinalizer⟩, ?_⟩
    rintro ⟨o, h⟩
    cases h
  refine wp_bind.mpr (wp_getOptional.mpr ⟨hread, ?_⟩)
  rw [hsb]
  refine wp_ite (fun _ => ?_) fun h => absurd hdeleting h
  exact wp_post (wp_finalize sb hsb) fun _ _ _ h => h hfinalizer

/-- When a pass has taken the finalizer off, the sandbox is torn down, wherever the pass was cut
short. -/
theorem PartialPass.torn (h : PartialPass r key c t c') (hsb : c.find? .sandbox key = some sb)
    (hdeleting : sb.deleting = true) (hfinalizer : sandboxFinalizer ∈ sb.metadata.finalizers)
    (hreleased : Released c' key) : Torn c sb c' := by
  have hkey := key_of_find? hsb
  have hstep : (∃ sb', c'.find? .sandbox sb.key = some sb' ∧
      sandboxFinalizer ∈ sb'.metadata.finalizers) ∨ Torn c sb c' := by
    refine h.preserves (I := fun c₁ => (∃ sb₁, c₁.find? .sandbox sb.key = some sb₁ ∧
      sandboxFinalizer ∈ sb₁.metadata.finalizers) ∨ Torn c sb c₁)
      (h.wp (wp_reconcile_teardown hsb hdeleting hfinalizer)) ?_
      (Or.inl ⟨sb, hkey ▸ hsb, hfinalizer⟩)
    intro op c₁ a c₂ hop hs _
    by_cases hupdate : ∃ o, op = .update .sandbox o
    · obtain ⟨o, rfl⟩ := hupdate
      exact Or.inr ((hop.torn ⟨o, rfl⟩).congr (hs.sameOutside (within_write rfl (by simp))))
    · obtain ⟨sb₁, hsb₁, hon⟩ := hop.held
      obtain ⟨sb₂, hsb₂, -, hon₂⟩ := sandbox_stays hs hsb₁ hon fun o ho => absurd ⟨o, ho⟩ hupdate
      exact Or.inl ⟨sb₂, hsb₂, hon₂⟩
  rcases hstep with ⟨sb', hsb', hon⟩ | htorn
  · exact absurd hon (hreleased sb' (hkey ▸ hsb'))
  · exact htorn

/-- A teardown writes the status and the finalizers of its sandbox only. -/
theorem FinalizeCall.stillThere {op : Call} {c₁ c₂ : Cluster} {a : Resp Spec Status op}
    {sb' : Sandbox} (h : FinalizeCall c sb' op c₁) (hs : Step op c₁ a c₂)
    (hsame : ∃ status finalizers rv, sb' = stamped { sb with status := status } finalizers rv)
    (hc₁ : StillThere key sb c₁) : StillThere key sb c₂ := by
  intro sb₂ hsb₂
  have hwritten := hs.written hsb₂
  have hother : ∀ ks, op.Within ks → Kind.sandbox ∉ ks → ∃ status finalizers rv,
      sb₂ = stamped { sb with status := status } finalizers rv := by
    intro ks hop hks
    have htarget : op.target ≠ some (.sandbox, key) := fun ht => hks (hop _ ht)
    exact hc₁ sb₂ ((hs.find? htarget).symm.trans hsb₂)
  obtain ⟨status', finalizers', rv', rfl⟩ := hsame
  cases h with
  | read h => exact hother [] (within_read h) (by simp)
  | child k name h =>
    exact hother childKinds (within_write rfl (kind_of_ownedChildren sb h)) (by decide)
  | rbac h => exact hother _ h.within (by decide)
  | session h => exact hother _ h.within (by decide)
  | claim h => exact hother _ h (by decide)
  | terminating =>
    cases hwritten with
    | kept hold => exact hc₁ sb₂ hold
    | statusUpdated old o hop hkey hold h =>
      obtain ⟨status, finalizers, rv, rfl⟩ := hc₁ old hold
      exact ⟨o.status, finalizers, c.revision + 1, h⟩
    | created o hop | updated _ o hop | patched _ _ hop | statusPatched _ _ hop
    | terminated _ _ hop => cases hop
  | finalizer sb₁ hstamp =>
    obtain ⟨status₁, rv₁, rfl⟩ := hstamp
    cases hwritten with
    | kept hold => exact hc₁ sb₂ hold
    | updated old o hop hkey hold h =>
      obtain ⟨status, finalizers, rv, rfl⟩ := hc₁ old hold
      cases hop
      refine ⟨status, finalizers'.filter (· ≠ sandboxFinalizer), c₁.revision + 1, ?_⟩
      rw [h]
      simp [updated, versioned, stamped]
    | created o hop | statusUpdated _ o hop | patched _ _ hop | statusPatched _ _ hop
    | terminated _ _ hop => cases hop

/-- A pass over a sandbox that is being deleted leaves it there or lets it go. -/
theorem PartialPass.stillThere (h : PartialPass r key c t c') (hdeleting : sb.deleting = true)
    (hc : StillThere key sb c) : StillThere key sb c' := by
  refine h.preserves (I := StillThere key sb) h.calls ?_ hc
  intro op c₁ a c₂ hop hs hc₁
  cases hop with
  | absent hread =>
    intro sb₂ hsb₂
    have htarget : op.target ≠ some (.sandbox, key) := fun ht => nomatch hread.symm.trans ht
    exact hc₁ sb₂ ((hs.find? htarget).symm.trans hsb₂)
  | live sb' hsb' hlive =>
    obtain ⟨status, finalizers, rv, rfl⟩ := hc sb' hsb'
    exact nomatch hlive.symm.trans hdeleting
  | teardown sb' hsb' _ hcall => exact hcall.stillThere hs (hc sb' hsb') hc₁

end Pass

theorem Attempts.stillThere {r : SandboxReconciler} {key : ObjectKey} {c c' : Cluster}
    {sb : Sandbox} (h : Attempts r key c c') (hdeleting : sb.deleting = true)
    (hc : StillThere key sb c) : StillThere key sb c' := by
  induction h with
  | refl => exact hc
  | tail _ hpass ih =>
    obtain ⟨t, hpass⟩ := hpass
    exact hpass.stillThere hdeleting ih

/-! ## A pass in which no call fails -/

section Faithful

variable {sb : Sandbox} {c : Cluster} {σ : Type} {st : σ}

theorem succeeds_markTerminating (hsb : c.find? .sandbox sb.key = some sb) :
    (markTerminating sb : ClientM σ Sandbox).Succeeds Faithful (fun sb₁ _ c₁ => Marked c sb c₁ sb₁)
      st c := by
  have hends : (markTerminating sb : ClientM σ Sandbox).wp Step (fun _ _ => True)
      (fun sb₁ _ c₁ => Marked c sb c₁ sb₁) st c :=
    wp_markTerminating sb hsb trivial fun _ _ h => h
  have hruns : (markTerminating sb : ClientM σ Sandbox).Succeeds Faithful (fun _ _ _ => True)
      st c := by
    refine succeeds_ite (fun _ => succeeds_pure trivial) fun _ => ?_
    refine Routine.Succeeds.bind
      (succeeds_updateStatusIfPresent (Q := fun _ _ _ => True) hsb rfl trivial) fun _ _ _ _ => ?_
    exact succeeds_pure trivial
  exact (hruns.and (wp_faithful hends)).mono fun _ _ _ h => h.2

theorem succeeds_children :
    (Routine.forEach (ownedChildren sb) fun child => (deleteIfPresent child.1
      ⟨sb.metadata.namespaceName, child.2⟩ "finalize" : ClientM σ Unit)).Succeeds Faithful
      (fun _ _ _ => True) st c :=
  succeeds_forEach (fun _ _ _ => True) (fun _ _ _ _ _ => succeeds_deleteIfPresent trivial)
    _ trivial

theorem succeeds_closeSessions : (closeSessions sb : ClientM σ Unit).Succeeds Faithful
    (fun _ _ _ => True) st c := by
  refine Routine.Succeeds.bind (succeeds_list (Q := fun l _ c' => Listed .sandboxSession l c')
    (listed_filter c _ _)) fun l st c hlisted => ?_
  refine Routine.Succeeds.bind (succeeds_now (Q := fun _ _ c' => Listed .sandboxSession l c')
    hlisted) fun now st c hlisted => ?_
  refine (succeeds_forEach (fun l _ c' => Listed .sandboxSession l c') ?_ l hlisted).mono
    fun _ _ _ _ => trivial
  intro s l st c hlisted
  refine succeeds_ite (fun _ => succeeds_pure (hlisted.tail fun _ _ => rfl))
    fun _ => ?_
  have hstored : c.find? .sandboxSession s.key = some s := hlisted.stored s (by simp)
  refine Routine.Succeeds.bind (succeeds_updateStatusIfPresent (Q := fun _ _ c' =>
    Listed .sandboxSession l c') hstored rfl ?_) fun _ _ _ h => succeeds_pure h
  exact hlisted.tail fun key hne => find?_write_ne c _ _ fun he => hne (Prod.mk.inj he).2

theorem succeeds_applyHomeRetainPolicy : (applyHomeRetainPolicy sb : ClientM σ Unit).Succeeds
    Faithful (fun _ _ _ => True) st c := by
  unfold applyHomeRetainPolicy
  cases existingClaim sb with
  | some claim => exact succeeds_pure trivial
  | none =>
    refine Routine.Succeeds.bind (succeeds_getOptional (Q := fun pvc _ c' => pvc =
      c'.find? .persistentVolumeClaim ⟨sb.metadata.namespaceName, pvcName sb.metadata.name⟩) rfl) ?_
    intro pvc st c hpvc
    cases pvc with
    | none => exact succeeds_pure trivial
    | some pvc =>
      have hkey := key_of_find? hpvc.symm
      refine succeeds_ite (fun _ => succeeds_deleteIfPresent trivial) fun _ => ?_
      refine succeeds_updateIfPresent (o := pvc) ?_ rfl trivial
      exact (congrArg _ hkey).trans hpvc.symm

/-- A part that does not fail leaves the sandbox itself as it was. -/
theorem succeeds_part {α : Type} {ks : List Kind} {x : ClientM σ α} {key : ObjectKey}
    {o : Option Sandbox} (hruns : x.Succeeds Faithful (fun _ _ _ => True) st c)
    (hwithin : x.Always Step (fun op _ => op.Within ks) st c) (hks : Kind.sandbox ∉ ks)
    (hstored : c.find? .sandbox key = o) :
    x.Succeeds Faithful (fun _ _ c' => c'.find? .sandbox key = o) st c :=
  (succeeds_sameOutside hruns hwithin).mono fun _ _ _ h => (h.2.find? hks key).trans hstored

/-- A teardown in which no call fails ends without error. -/
theorem succeeds_finalize (hsb : c.find? .sandbox sb.key = some sb) :
    (finalize sb : ClientM σ Result).Succeeds Faithful (fun _ _ _ => True) st c := by
  refine succeeds_ite (fun _ => succeeds_pure trivial) fun _ => ?_
  refine (succeeds_markTerminating hsb).bind fun sb₁ st c₁ hmarked => ?_
  obtain ⟨status, rv, rfl⟩ := hmarked.stamp
  refine (succeeds_part succeeds_children (children_calls sb fun k name c' h =>
    within_write rfl (kind_of_ownedChildren sb h)) (by decide) hmarked.stored).bind ?_
  intro _ st c₂ hstored
  refine (succeeds_part (succeeds_gcRBAC sb none) (gcRBAC_within sb none) (by decide) hstored).bind ?_
  intro _ st c₃ hstored
  refine (succeeds_part succeeds_closeSessions (wp_mono (closeSessions_calls sb)
    (fun op c' h => h.within) fun _ _ _ h => h) (by decide) hstored).bind ?_
  intro _ st c₄ hstored
  refine (succeeds_part succeeds_applyHomeRetainPolicy (applyHomeRetainPolicy_calls sb)
    (by decide) hstored).bind ?_
  intro _ st c₅ hstored
  refine Routine.Succeeds.bind (succeeds_update (Q := fun _ _ _ => True) hstored rfl trivial) ?_
  exact fun _ _ _ _ => succeeds_pure trivial

/-- A pass over a sandbox that is being deleted, or is gone, in which no call fails. -/
theorem succeeds_reconcile (r : SandboxReconciler) {key : ObjectKey}
    (hdeleting : ∀ sb, c.find? .sandbox key = some sb → sb.deleting = true) :
    (r.reconcile key).Succeeds Faithful (fun _ _ c' => Released c' key) () c := by
  refine Routine.Succeeds.bind (succeeds_getOptional
    (Q := fun o _ c' => o = c.find? .sandbox key ∧ c' = c) ⟨rfl, rfl⟩) ?_
  rintro _ _ c ⟨rfl, rfl⟩
  cases hsb : c.find? .sandbox key with
  | none => exact succeeds_pure fun sb h => nomatch hsb.symm.trans h
  | some sb =>
    obtain rfl := key_of_find? hsb
    refine succeeds_ite (fun _ => ?_) fun h => absurd (hdeleting sb hsb) h
    by_cases hfinalizer : sandboxFinalizer ∈ sb.metadata.finalizers
    · refine (Routine.Succeeds.and (succeeds_finalize hsb) (wp_faithful (wp_finalize sb hsb))).mono
        fun _ _ _ h => (h.2 hfinalizer).2
    · refine succeeds_ite (fun _ => succeeds_pure fun sb' h => ?_) fun h => ?_
      · obtain rfl := Option.some.inj (hsb.symm.trans h)
        exact hfinalizer
      · exact absurd (by simpa using h) hfinalizer

end Faithful

/-! ## Every sequence of passes -/

/-- A teardown does not depend on the status, the finalizers and the resource version. -/
theorem Torn.of_stamped {c c' : Cluster} {sb : Sandbox} {status : Status .sandbox}
    {finalizers : List String} {rv : Nat}
    (h : Torn c (stamped { sb with status := status } finalizers rv) c') : Torn c sb c' :=
  ⟨h.children, h.bindings, h.sessions, fun hexisting =>
    ⟨(h.home hexisting).deleted, (h.home hexisting).labelled, (h.home hexisting).kept⟩⟩

/-- A sandbox is being deleted, and passes over it have been made one after the other, in each
of which any call may have failed. Whichever pass takes the finalizer off leaves the sandbox
torn down; and a pass in which no call fails ends without error and with the finalizer off. -/
theorem teardown_complete (r : SandboxReconciler) (key : ObjectKey) (c₀ c : Cluster) (sb : Sandbox)
    (hsb : c₀.find? .sandbox key = some sb) (hdeleting : sb.deleting = true)
    (hattempts : Attempts r key c₀ c) :
    (∀ t c', ¬Released c key → PartialPass r key c t c' → Released c' key → Torn c sb c') ∧
      (∃ result, (runPass r key c).1 = .ok result) ∧ Released (runPass r key c).2 key := by
  have hthere : StillThere key sb c := by
    refine hattempts.stillThere hdeleting fun sb' hsb' => ?_
    obtain rfl := Option.some.inj (hsb.symm.trans hsb')
    exact ⟨sb.status, sb.metadata.finalizers, sb.metadata.resourceVersion, rfl⟩
  have hdeleting' : ∀ sb', c.find? .sandbox key = some sb' → sb'.deleting = true := by
    intro sb' hsb'
    obtain ⟨status, finalizers, rv, rfl⟩ := hthere sb' hsb'
    exact hdeleting
  obtain ⟨result, hresult, hfinal⟩ := run_of_succeeds (succeeds_reconcile r hdeleting')
  refine ⟨fun t c' hon hpass hreleased => ?_, ⟨result, hresult⟩, hfinal⟩
  simp only [Released, not_forall, not_not] at hon
  obtain ⟨sb', hsb', hfinalizer⟩ := hon
  have htorn := hpass.torn hsb' (hdeleting' sb' hsb') hfinalizer hreleased
  obtain ⟨status, finalizers, rv, rfl⟩ := hthere sb' hsb'
  exact htorn.of_stamped

namespace Team

/-- The binding of Alice's sandbox in a shared namespace. -/
def binding (finalizers : List String) : RoleBinding :=
  ⟨{ name := "kubepark-sb-dev", namespaceName := "shared", uid := "rb1"
     labels := [(labelSandboxUID, "u1")], finalizers := finalizers },
    ⟨⟨"rbac.authorization.k8s.io", "Role", "kubepark-profile-reader"⟩,
      [saSubject (sandbox .running {})]⟩, ()⟩

/-- Alice's sandbox is being deleted while she is connected to it. -/
def leaving (rb : RoleBinding) : Cluster :=
  .ofObjects (fun
    | .namespace => [⟨{ name := "team" }, (), ()⟩, ⟨{ name := "shared" }, (), ()⟩]
    | .sandbox =>
      [{ sandbox .running running with
          metadata.finalizers := [sandboxFinalizer], metadata.deletionTimestamp := some 0 }]
    | .pod => [pod]
    | .roleBinding => [rb]
    | .sandboxSession =>
      [⟨{ name := "s1", namespaceName := "team" },
        { sandboxName := "dev", user := "alice", kind := .ssh }, { state := .active }⟩]
    | _ => []) 0

/-- A server that refuses to delete RoleBindings. -/
def refusing : (op : Call) → Cluster → Resp Spec Status op × Cluster
  | .delete .roleBinding _ _, c => (.error .other, c)
  | op, c => handle op c

theorem step_refusing (op : Call) (c : Cluster) :
    Step op c (refusing op c).1 (refusing op c).2 := by
  unfold refusing
  split
  · exact Or.inr ⟨.other, ApiError.isFault_other, rfl, Or.inl rfl⟩
  · exact step_handle _ _

/-- What is left by a teardown that fails at the binding. -/
def halfway : Cluster :=
  ((reconciler.reconcile key ()).run refusing (leaving (binding []))).2

end Team

/-- A teardown that stopped halfway is completed by the next pass. -/
theorem teardown_resumes :
    (Team.halfway.find? .pod ⟨"team", podName "dev"⟩).any (·.deleting) = true ∧
    (Team.halfway.find? .roleBinding ⟨"shared", "kubepark-sb-dev"⟩).isSome = true ∧
    (∃ result, (runPass Team.reconciler Team.key Team.halfway).1 = .ok result) ∧
      Released (runPass Team.reconciler Team.key Team.halfway).2 Team.key := by
  refine ⟨by decide +kernel, by decide +kernel, ?_⟩
  have hattempt := (Prog.exec_run Team.step_refusing (Team.reconciler.reconcile Team.key ())
    (Team.leaving (Team.binding []))).visits
  exact (teardown_complete Team.reconciler Team.key (Team.leaving (Team.binding [])) Team.halfway _
    rfl rfl (.single ⟨_, hattempt⟩)).2

/-- The finalizer is off, and a binding with the UID of the sandbox is still there : someone
else's finalizer holds it. -/
theorem binding_outlives_sandbox : ∃ (c c' : Cluster) (sb : Sandbox) (t : List (Call × Cluster)),
    c.find? .sandbox Team.key = some sb ∧ sb.deleting = true ∧ ¬Released c Team.key ∧
      PartialPass Team.reconciler Team.key c t c' ∧ Released c' Team.key ∧
      ∃ rb ∈ c'.objs .roleBinding, matchingLabel labelSandboxUID sb.metadata.uid rb = true := by
  have hgone : ((Team.pass (Team.leaving (Team.binding ["audit"]))).find? .sandbox
      Team.key).isNone = true := by decide +kernel
  have hleft : ((Team.pass (Team.leaving (Team.binding ["audit"]))).objs .roleBinding).any
      (matchingLabel labelSandboxUID "u1") = true := by decide +kernel
  refine ⟨Team.leaving (Team.binding ["audit"]), _, _, _, rfl, rfl, fun h => ?_,
    partialPass_runPass _ _ _, fun sb hsb => ?_, List.any_eq_true.mp hleft⟩
  · exact h _ rfl (by simp)
  · exact nomatch (Option.isNone_iff_eq_none.mp hgone).symm.trans hsb

end Kubepark

import Kubepark.SandboxPass

/-!
# What a pass over a sandbox being deleted does

`FinalizeCall` lists every call of a teardown pass, with what is known of the state it is made
in. The pass deletes the pod, the host key, the network policy and the ServiceAccount one
after the other, then collects the RoleBindings, closes the sessions, applies the retain
policy and removes its finalizer. A deleted pod stays for its grace period; the policy does
not.

`Torn` is what is left when the finalizer goes : `wp_finalize` says that the sandbox is torn
down whenever a pass writes its finalizers.
-/

namespace Kubepark

open ApiServer Client SandboxReconciler Routine

def netPolKey (sb : Sandbox) : ObjectKey :=
  ⟨sb.metadata.namespaceName, netPolName sb.metadata.name⟩

/-- The network policy of `sb`, if there is one, goes at once when it is deleted. -/
def PolicyPlain (c : Cluster) (sb : Sandbox) : Prop :=
  ∀ np, c.find? .networkPolicy (netPolKey sb) = some np →
    np.deleting = false ∧ np.metadata.finalizers = []

/-- The calls that close the sessions of `sb`. -/
inductive CloseCall (sb : Sandbox) : Call → Cluster → Prop
  | read {op : Call} {c : Cluster} (h : op.target = none) : CloseCall sb op c
  | close {c : Cluster} (s : SandboxSession) (hstored : c.find? .sandboxSession s.key = some s)
    (hns : s.metadata.namespaceName = sb.metadata.namespaceName)
    (hname : s.spec.sandboxName = sb.metadata.name) (hactive : s.status.state = .active) :
    CloseCall sb (.updateStatus .sandboxSession { s with
      status := { s.status with
        state := .closed, endTime := some c.clock, exitReason := .sandboxDeleted } }) c

theorem CloseCall.within {sb : Sandbox} {op : Call} {c : Cluster} (h : CloseCall sb op c) :
    op.Within [.sandboxSession] := by
  cases h with
  | read h => exact within_read h
  | close => exact within_write rfl (by simp)

/-- The calls of a pass over the sandbox `sb`, being deleted, that starts in `c`. -/
inductive FinalizeCall (c : Cluster) (sb : Sandbox) : Call → Cluster → Prop
  | read {op : Call} {c' : Cluster} (h : op.target = none) : FinalizeCall c sb op c'
  | terminating : FinalizeCall c sb
      (.updateStatus .sandbox { sb with status.phase := .terminating }) c
  | child {c' : Cluster} (k : Kind) (name : String) (h : (k, name) ∈ ownedChildren sb) :
    FinalizeCall c sb (.delete k ⟨sb.metadata.namespaceName, name⟩ "finalize") c'
  | rbac {op : Call} {c' : Cluster} (h : RbacCall sb [] op c') : FinalizeCall c sb op c'
  | session {op : Call} {c' : Cluster} (h : CloseCall sb op c') : FinalizeCall c sb op c'
  | claim {op : Call} {c' : Cluster} (h : op.Within [.persistentVolumeClaim]) :
    FinalizeCall c sb op c'
  | finalizer {c' : Cluster} (sb₁ : Sandbox)
    (hstamp : ∃ status rv, sb₁ = stamped { sb with status := status } sb.metadata.finalizers rv)
    (hstored : c'.find? .sandbox sb.key = some sb₁)
    (hpolicy : PolicyPlain c sb → c'.find? .networkPolicy (netPolKey sb) = none) :
    FinalizeCall c sb (.update .sandbox { sb₁ with
      metadata.finalizers := sb₁.metadata.finalizers.filter (· ≠ sandboxFinalizer) }) c'

section Calls

variable (sb : Sandbox) {c : Cluster}

theorem closeSessions_calls {σ : Type} {st : σ} :
    (closeSessions sb).Always Step (CloseCall sb) st c := by
  refine wp_bind.mpr (wp_list.mpr ⟨.read rfl, ?_⟩)
  refine wp_bind.mpr (wp_now.mpr ⟨.read rfl, ?_⟩)
  refine wp_post (wp_forEach (fun l _ c' => (Listed .sandboxSession l c' ∧
    ∀ s ∈ l, s.metadata.namespaceName = sb.metadata.namespaceName) ∧ c'.clock = c.clock)
    ?_ _ ⟨⟨listed_filter c _ _, ?_⟩, rfl⟩) fun _ _ _ _ => trivial
  · rintro s l st c₁ ⟨⟨hlisted, hns⟩, hclock⟩
    obtain ⟨hs, hl⟩ := List.forall_mem_cons.mp hns
    refine wp_ite (fun _ => ⟨⟨hlisted.tail fun _ _ => rfl, hl⟩, hclock⟩) fun hopen => ?_
    obtain ⟨hname, hactive⟩ := not_or.mp hopen
    rw [← hclock]
    refine wp_bind.mpr (wp_updateStatusIfPresent.mpr ⟨?_, ?_, ?_⟩)
    · exact .close s (hlisted.stored s (by simp)) hs (not_not.mp hname) (not_not.mp hactive)
    · exact fun _ => ⟨⟨hlisted.tail fun _ _ => rfl, hl⟩, rfl⟩
    · intro old hold _
      have hkey : old.key = s.key := key_of_find? hold
      refine ⟨⟨hlisted.tail fun key hne => ?_, hl⟩, rfl⟩
      exact find?_write_ne c₁ _ _ fun he => hne ((Prod.mk.inj he).2.trans hkey)
  · intro s hs
    simpa [inNamespace] using List.of_mem_filter hs

theorem applyHomeRetainPolicy_calls {σ : Type} {st : σ} :
    (applyHomeRetainPolicy sb).Always Step (fun op _ => op.Within [.persistentVolumeClaim]) st c := by
  unfold applyHomeRetainPolicy
  cases existingClaim sb with
  | some claim => trivial
  | none =>
    refine (always_getOptional (within_read rfl)).bind fun pvc st c => ?_
    cases pvc with
    | none => trivial
    | some pvc =>
      refine wp_ite (fun _ => ?_) fun _ => ?_
      · exact always_deleteIfPresent (within_write rfl (by simp))
      · exact always_updateIfPresent (within_write rfl (by simp))

/-- An object of a kind without grace period and without finalizers goes when it is deleted. -/
theorem find?_dropped_plain {k : Kind} {key : ObjectKey} (site : String)
    (hgraceful : KindInfo.graceful k = false)
    (hplain : ∀ o, c.find? k key = some o → o.deleting = false ∧ o.metadata.finalizers = []) :
    (c.dropped k key site).find? k key = none := by
  unfold dropped
  cases h : c.find? k key with
  | none => exact h
  | some o =>
    obtain ⟨hlive, hfinalizers⟩ := hplain o h
    simp [deleted, hlive, hfinalizers, hgraceful]

/-- `sb` is stored as `sb₁`, at most with another status, and nothing else has changed. -/
structure Marked (c : Cluster) (sb : Sandbox) (c₁ : Cluster) (sb₁ : Sandbox) : Prop where
  stamp : ∃ status rv, sb₁ = stamped { sb with status := status } sb.metadata.finalizers rv
  stored : c₁.find? .sandbox sb.key = some sb₁
  outside : SameOutside [.sandbox] c c₁

theorem wp_markTerminating {σ : Type} {st : σ} {P : Call → Cluster → Prop}
    {Q : Sandbox → σ → Cluster → Prop} (hsb : c.find? .sandbox sb.key = some sb)
    (hP : P (.updateStatus .sandbox { sb with status.phase := .terminating }) c)
    (hQ : ∀ c₁ sb₁, Marked c sb c₁ sb₁ → Q sb₁ st c₁) :
    (markTerminating sb).wp Step P Q st c := by
  refine wp_ite (fun _ => hQ c sb ⟨⟨_, _, rfl⟩, hsb, .refl _ _⟩) fun _ => ?_
  refine wp_bind.mpr (wp_updateStatusIfPresent.mpr ⟨hP, ?_, ?_⟩)
  · exact fun hnone => nomatch hsb.symm.trans hnone
  · intro old hold _
    obtain rfl : sb = old := Option.some.inj (hsb.symm.trans hold)
    refine hQ _ _ ⟨⟨_, _, rfl⟩, find?_write_self c .sandbox _, rfl, fun k hk => ?_⟩
    exact store_write_ne c _ (by simpa using hk)

/-- The kinds of the namespace-local children. -/
def childKinds : List Kind :=
  [.pod, .secret, .networkPolicy, .serviceAccount]

theorem children_calls {σ : Type} {st : σ} {P : Call → Cluster → Prop}
    (hP : ∀ k name c', (k, name) ∈ ownedChildren sb →
      P (.delete k ⟨sb.metadata.namespaceName, name⟩ "finalize") c') :
    (Routine.forEach (ownedChildren sb) fun child => (deleteIfPresent child.1
      ⟨sb.metadata.namespaceName, child.2⟩ "finalize" : ClientM σ Unit)).Always Step P st c :=
  Routine.Always.forEach _ fun child hchild _ c' =>
    always_deleteIfPresent (hP child.1 child.2 c' hchild)

/-- Of a network policy without finalizers nothing stays. -/
theorem ends_children_policy {σ : Type} {st : σ} :
    (Routine.forEach (ownedChildren sb) fun child => (deleteIfPresent child.1
      ⟨sb.metadata.namespaceName, child.2⟩ "finalize" : ClientM σ Unit)).Ends Step
      (fun _ _ c' => PolicyPlain c sb → c'.find? .networkPolicy (netPolKey sb) = none) st c := by
  simp only [ownedChildren, Routine.forEach]
  refine wp_bind.mpr (wp_deleteIfPresent.mpr ⟨trivial, ?_⟩)
  refine wp_bind.mpr (wp_deleteIfPresent.mpr ⟨trivial, ?_⟩)
  refine wp_bind.mpr (wp_deleteIfPresent.mpr ⟨trivial, ?_⟩)
  refine wp_bind.mpr
    (wp_deleteIfPresent.mpr ⟨trivial, fun hplain => ?_⟩)
  rw [find?_dropped_ne (by simp)]
  refine find?_dropped_plain _ (by decide) fun np hnp => hplain np ?_
  rwa [find?_dropped_ne (by simp), find?_dropped_ne (by simp)] at hnp

theorem gcRBAC_within {σ : Type} {st : σ} (keep : Option (List String)) :
    (gcRBAC sb keep).Always Step (fun op _ => op.Within [.roleBinding]) st c := by
  refine (always_list (within_read rfl)).bind fun bindings st c => ?_
  refine Routine.Always.forEach _ fun rb _ st c => ?_
  exact wp_ite (fun _ => trivial) fun _ => always_deleteIfPresent (within_write rfl (by simp))

theorem succeeds_gcRBAC {σ : Type} {st : σ} (keep : Option (List String)) :
    (gcRBAC sb keep).Succeeds Faithful (fun _ _ _ => True) st c := by
  refine Routine.Succeeds.bind (succeeds_list (Q := fun _ _ _ => True) trivial) fun l st c _ => ?_
  refine succeeds_forEach (fun _ _ _ => True) (fun rb l st c _ => ?_) _ trivial
  exact succeeds_ite (fun _ => succeeds_pure trivial) fun _ =>
    succeeds_deleteIfPresent trivial

end Calls

/-! ## What is left behind -/

def homeKey (sb : Sandbox) : ObjectKey :=
  ⟨sb.metadata.namespaceName, pvcName sb.metadata.name⟩

/-- Whether the home claim is to be deleted with the sandbox. -/
def DeletesHome (sb : Sandbox) : Prop :=
  sb.spec.home.map (·.retainPolicy) = some .delete

/-- Something holds the object back when it is deleted : a finalizer, or it is being deleted
already. -/
def Held {k : Kind} (o : Obj k) : Prop :=
  o.deleting = true ∨ o.metadata.finalizers ≠ []

/-- What has become of the generated home claim of `sb`, between `c` and `c'`. -/
structure HomeDisposed (c : Cluster) (sb : Sandbox) (c' : Cluster) : Prop where
  deleted : DeletesHome sb → ∀ pvc, c'.find? .persistentVolumeClaim (homeKey sb) = some pvc →
    pvc.deleting = true ∧ ∃ old, c.find? .persistentVolumeClaim (homeKey sb) = some old ∧ Held old
  labelled : ¬DeletesHome sb → ∀ pvc, c'.find? .persistentVolumeClaim (homeKey sb) = some pvc →
    matchingLabel labelOrphanedHome "true" pvc = true
  kept : ¬DeletesHome sb → ∀ old, c.find? .persistentVolumeClaim (homeKey sb) = some old →
    (old.deleting = true → old.metadata.finalizers ≠ []) →
      ∃ pvc, c'.find? .persistentVolumeClaim (homeKey sb) = some pvc ∧ pvc.spec = old.spec ∧
        pvc.metadata.uid = old.metadata.uid ∧ pvc.deleting = old.deleting

/-- Every child of `sb` that is left is being deleted. -/
def ChildrenGone (sb : Sandbox) (c' : Cluster) : Prop :=
  ∀ child ∈ ownedChildren sb, ∀ o : Obj child.1,
    c'.find? child.1 ⟨sb.metadata.namespaceName, child.2⟩ = some o → o.deleting = true

/-- Of the RoleBindings with the UID of `sb` only those are left that were held back. -/
def BindingsGone (c : Cluster) (sb : Sandbox) (c' : Cluster) : Prop :=
  ∀ key rb, c'.find? .roleBinding key = some rb →
    matchingLabel labelSandboxUID sb.metadata.uid rb = true →
      rb.deleting = true ∧ ∃ old, c.find? .roleBinding key = some old ∧ Held old

/-- No session that names `sb` is Active. -/
def SessionsClosed (sb : Sandbox) (c' : Cluster) : Prop :=
  ∀ key s, c'.find? .sandboxSession key = some s →
    s.metadata.namespaceName = sb.metadata.namespaceName →
      s.spec.sandboxName = sb.metadata.name → s.status.state ≠ .active

/-- The sandbox `sb` is torn down in `c'`, by a pass that started in `c`. -/
structure Torn (c : Cluster) (sb : Sandbox) (c' : Cluster) : Prop where
  children : ChildrenGone sb c'
  bindings : BindingsGone c sb c'
  sessions : SessionsClosed sb c'
  home : existingClaim sb = none → HomeDisposed c sb c'

section Ends

variable (sb : Sandbox) {σ : Type} {st : σ} {c : Cluster}

theorem ends_children : (Routine.forEach (ownedChildren sb) fun child => (deleteIfPresent child.1
    ⟨sb.metadata.namespaceName, child.2⟩ "finalize" : ClientM σ Unit)).Ends Step
      (fun _ _ c' => ChildrenGone sb c') st c := by
  -- A child is still to come or has been deleted; what was deleted stays so.
  refine wp_post (wp_forEach (fun l _ c' => ∀ child ∈ ownedChildren sb,
    child ∈ l ∨ ∀ o : Obj child.1, c'.find? child.1 ⟨sb.metadata.namespaceName, child.2⟩ = some o →
      o.deleting = true) ?_ _ fun child h => Or.inl h) ?_
  · intro child l st c' h
    refine wp_deleteIfPresent.mpr ⟨trivial, fun child' hchild' => ?_⟩
    rcases h child' hchild' with hmem | hgone
    · rcases List.mem_cons.mp hmem with rfl | hmem
      · exact Or.inr fun o ho => (of_find?_dropped ho).1
      · exact Or.inl hmem
    · exact Or.inr fun o ho => deleting_of_dropped hgone ho
  · intro _ _ c' h child hchild
    exact (h child hchild).resolve_left List.not_mem_nil

theorem ends_gcRBAC : (gcRBAC sb none : ClientM σ Unit).Ends Step
    (fun _ _ c' => BindingsGone c sb c') st c := by
  refine wp_bind.mpr (wp_list.mpr ⟨trivial, ?_⟩)
  refine wp_post ends_sweep fun _ _ c' hswept key rb hrb hlabel => ?_
  by_cases hselected : ∃ old, c.find? .roleBinding key = some old ∧
      matchingLabel labelSandboxUID sb.metadata.uid old = true
  · obtain ⟨old, hold, hselected⟩ := hselected
    obtain ⟨hdeleting, hheld⟩ := (hswept key).left hold hselected (by simp) hrb
    refine ⟨hdeleting, old, hold, ?_⟩
    rcases hheld with h | h | h
    · exact Or.inl h
    · exact absurd h (by decide)
    · exact Or.inr h
  · have hkept := (hswept key).kept fun old hold h => absurd ⟨old, hold, h⟩ hselected
    exact absurd ⟨rb, hkept.symm.trans hrb, hlabel⟩ hselected

theorem ends_closeSessions : (closeSessions sb : ClientM σ Unit).Ends Step
    (fun _ _ c' => SessionsClosed sb c') st c := by
  refine wp_bind.mpr (wp_list.mpr ⟨trivial, ?_⟩)
  refine wp_bind.mpr (wp_now.mpr ⟨trivial, ?_⟩)
  refine wp_post (wp_forEach (fun l _ c' => Listed .sandboxSession l c' ∧
    ∀ key s, c'.find? .sandboxSession key = some s →
      s.metadata.namespaceName = sb.metadata.namespaceName →
        s.spec.sandboxName = sb.metadata.name → s.status.state = .active → s ∈ l) ?_ _
    ⟨listed_filter c _ _, fun key s hs hns _ _ => ?_⟩) ?_
  · rintro s l st c₁ ⟨hlisted, hactive⟩
    refine wp_ite (fun hskip => ?_) fun hopen => ?_
    · refine ⟨hlisted.tail fun _ _ => rfl, fun key s' hs' hns hname hstate => ?_⟩
      rcases List.mem_cons.mp (hactive key s' hs' hns hname hstate) with rfl | hmem
      · exact hskip.elim (absurd hname) (absurd hstate)
      · exact hmem
    · refine wp_bind.mpr
        (wp_updateStatusIfPresent.mpr ⟨trivial, fun hnone => ?_, fun old hold _ => ?_⟩)
      · exact nomatch (hlisted.stored s (by simp)).symm.trans hnone
      · have hkey : old.key = s.key := key_of_find? hold
        refine ⟨hlisted.tail fun key hne => ?_, fun key s' hs' hns hname hstate => ?_⟩
        · exact find?_write_ne c₁ _ _ fun he => hne ((Prod.mk.inj he).2.trans hkey)
        rcases find?_write_cases hs' with ⟨-, rfl⟩ | ⟨hne, hs'⟩
        · cases hstate
        · rcases List.mem_cons.mp (hactive key s' hs' hns hname hstate) with rfl | hmem
          · exact absurd ((key_of_find? hs').symm.trans hkey.symm) hne
          · exact hmem
  · refine List.mem_filter.mpr ⟨mem_of_find? hs, ?_⟩
    simpa [inNamespace] using hns
  · rintro _ _ c' ⟨-, hactive⟩ key s hs hns hname hstate
    exact List.not_mem_nil (hactive key s hs hns hname hstate)

/-- A claim that is written with the orphaned label and is otherwise as it was. -/
theorem homeDisposed_settle {pvc new : PersistentVolumeClaim}
    (hpvc : c.find? .persistentVolumeClaim (homeKey sb) = some pvc) (hretain : ¬DeletesHome sb)
    (hkey : new.key = homeKey sb) (hlabel : matchingLabel labelOrphanedHome "true" new = true)
    (hspec : new.spec = pvc.spec) (huid : new.metadata.uid = pvc.metadata.uid)
    (hdeleting : new.deleting = pvc.deleting)
    (hfinalizers : new.metadata.finalizers = pvc.metadata.finalizers) :
    HomeDisposed c sb (c.settle .persistentVolumeClaim new) := by
  rw [← hkey] at hpvc
  refine ⟨fun h => absurd h hretain, fun _ left hleft => ?_, fun _ old hold hstays => ?_⟩
  · rw [← hkey] at hleft
    rw [eq_of_find?_settle hleft]
    exact hlabel
  · rw [← hkey] at hold ⊢
    obtain rfl := Option.some.inj (hpvc.symm.trans hold)
    rw [← hdeleting, ← hfinalizers] at hstays
    exact ⟨_, find?_settle_self hstays, hspec, huid, hdeleting⟩

theorem ends_applyHomeRetainPolicy : (applyHomeRetainPolicy sb : ClientM σ Unit).Ends Step
    (fun _ _ c' => existingClaim sb = none → HomeDisposed c sb c') st c := by
  unfold applyHomeRetainPolicy
  rcases existingClaim sb with _ | claim
  case some => exact fun h => nomatch h
  refine wp_post (Q := fun _ _ c' => HomeDisposed c sb c') ?_ fun _ _ _ h _ => h
  refine wp_bind.mpr (wp_getOptional.mpr ⟨trivial, ?_⟩)
  cases hpvc : c.find? Kind.persistentVolumeClaim
      ⟨sb.metadata.namespaceName, pvcName sb.metadata.name⟩ with
  | none =>
    have habsent : ∀ pvc, c.find? .persistentVolumeClaim (homeKey sb) ≠ some pvc :=
      fun pvc h => nomatch hpvc.symm.trans h
    exact ⟨fun _ pvc h => absurd h (habsent pvc), fun _ pvc h => absurd h (habsent pvc),
      fun _ pvc h => absurd h (habsent pvc)⟩
  | some pvc =>
    have hkey : pvc.key = homeKey sb := key_of_find? hpvc
    have hpvc : c.find? .persistentVolumeClaim (homeKey sb) = some pvc := hpvc
    refine wp_ite (fun hdelete => ?_) fun hretain => ?_
    · refine wp_deleteIfPresent.mpr ⟨trivial, fun _ left hleft => ?_,
        fun h => absurd hdelete h, fun h => absurd hdelete h⟩
      rw [hkey] at hleft
      obtain ⟨hdel, old, hold, hheld⟩ := of_find?_dropped hleft
      refine ⟨hdel, old, hold, ?_⟩
      rcases hheld with h | h | h
      · exact Or.inl h
      · exact absurd h (by decide)
      · exact Or.inr h
    · refine wp_updateIfPresent.mpr ⟨trivial, fun hnone => ?_, fun old hold _ => ?_⟩
      · exact nomatch (hkey ▸ hpvc).symm.trans hnone
      have hsame : c.find? .persistentVolumeClaim pvc.key = some old := hold
      rw [hkey, hpvc] at hsame
      obtain rfl := Option.some.inj hsame
      refine homeDisposed_settle sb hpvc hretain hkey ?_ rfl rfl rfl rfl
      simp [matchingLabel, updated]

theorem HomeDisposed.congr {sb : Sandbox} {c c₁ c' c₁' : Cluster} (h : HomeDisposed c₁ sb c₁')
    (hc : c₁.find? .persistentVolumeClaim (homeKey sb) = c.find? .persistentVolumeClaim (homeKey sb))
    (hc' : c'.find? .persistentVolumeClaim (homeKey sb) =
      c₁'.find? .persistentVolumeClaim (homeKey sb)) : HomeDisposed c sb c' := by
  obtain ⟨hdeleted, hlabelled, hkept⟩ := h
  rw [hc, ← hc'] at hdeleted
  rw [← hc'] at hlabelled
  rw [hc, ← hc'] at hkept
  exact ⟨hdeleted, hlabelled, hkept⟩

theorem kind_of_ownedChildren {child : Kind × String} (h : child ∈ ownedChildren sb) :
    child.1 ∈ childKinds := by
  simp only [ownedChildren, List.mem_cons, List.not_mem_nil, or_false] at h
  rcases h with rfl | rfl | rfl | rfl <;> simp [childKinds]

theorem ChildrenGone.congr {sb : Sandbox} {ks : List Kind} {c c' : Cluster} (h : ChildrenGone sb c)
    (hc' : SameOutside ks c c') (hks : ∀ k ∈ childKinds, k ∉ ks) : ChildrenGone sb c' := by
  intro child hchild o ho
  rw [hc'.find? (hks _ (kind_of_ownedChildren sb hchild))] at ho
  exact h child hchild o ho

/-- The object of the sandbox itself is not part of what is left. -/
theorem Torn.congr {sb : Sandbox} {c c₁ c₁' : Cluster} (h : Torn c sb c₁)
    (hc' : SameOutside [.sandbox] c₁ c₁') : Torn c sb c₁' where
  children := h.children.congr hc' (by decide)
  bindings key rb hrb := by
    rw [hc'.find? (by decide)] at hrb
    exact h.bindings key rb hrb
  sessions key s hs := by
    rw [hc'.find? (by decide)] at hs
    exact h.sessions key s hs
  home hgenerated := (h.home hgenerated).congr rfl (hc'.find? (by decide) _)

/-- The calls of a teardown pass. Each is made while the finalizer is on, and when the sandbox
itself is written, it is torn down. -/
structure TeardownCall (c : Cluster) (sb : Sandbox) (op : Call) (c' : Cluster) : Prop where
  call : FinalizeCall c sb op c'
  held : ∃ sb₁, c'.find? .sandbox sb.key = some sb₁ ∧ sandboxFinalizer ∈ sb₁.metadata.finalizers
  torn : (∃ o, op = .update .sandbox o) → Torn c sb c'

/-- A part of the teardown that leaves the sandbox itself alone : its calls, where it ends, and
the kinds it does not write. -/
theorem wp_part {α : Type} {ks : List Kind} {c₁ : Cluster} {sb₁ : Sandbox} {x : ClientM σ α}
    {P : Call → Cluster → Prop} {Q : α → σ → Cluster → Prop} (hcalls : x.Always Step P st c₁)
    (hwithin : x.Always Step (fun op _ => op.Within ks) st c₁) (hends : x.Ends Step Q st c₁)
    (hP : ∀ op c', P op c' → FinalizeCall c sb op c') (hks : Kind.sandbox ∉ ks)
    (hstored : c₁.find? .sandbox sb.key = some sb₁)
    (hfinalizer : sandboxFinalizer ∈ sb₁.metadata.finalizers) :
    x.wp Step (TeardownCall c sb) (fun a st' c' => Q a st' c' ∧ SameOutside ks c₁ c') st c₁ := by
  have hboth := wp_and hcalls (wp_sameOutside (fun _ _ => id) (hwithin.ends hends))
  refine wp_mono hboth ?_ fun _ _ _ h => h.2
  rintro op c' ⟨hop, hkinds, hc'⟩
  refine ⟨hP op c' hop, ⟨sb₁, (hc'.find? hks _).trans hstored, hfinalizer⟩, ?_⟩
  rintro ⟨o, rfl⟩
  exact absurd (hkinds _ rfl) hks

/-- What a teardown pass does, and what is left when it removes its finalizer. -/
theorem wp_finalize (hsb : c.find? .sandbox sb.key = some sb) :
    (finalize sb : ClientM σ Result).wp Step (TeardownCall c sb)
      (fun _ _ c' => sandboxFinalizer ∈ sb.metadata.finalizers → Torn c sb c' ∧
        ∀ sb', c'.find? .sandbox sb.key = some sb' →
          sandboxFinalizer ∉ sb'.metadata.finalizers) st c := by
  refine wp_ite (fun hnone => ?_) fun hsome => ?_
  · intro h
    simp [h] at hnone
  have hfinalizer : sandboxFinalizer ∈ sb.metadata.finalizers := by simpa using hsome
  have hmark : TeardownCall c sb
      (.updateStatus .sandbox { sb with status.phase := .terminating }) c := by
    refine ⟨.terminating, ⟨sb, hsb, hfinalizer⟩, ?_⟩
    rintro ⟨o, h⟩
    cases h
  refine wp_bind.mpr (wp_markTerminating sb hsb hmark ?_)
  intro c₁ sb₁ hmarked
  obtain ⟨status, rv, rfl⟩ := hmarked.stamp
  -- The rest looks at the name, the UID and the spec only, which are those of `sb`.
  have hstored := hmarked.stored
  refine wp_bind.mpr (wp_post (wp_part sb
    (children_calls sb fun k name c' h => .child k name h)
    (children_calls sb fun k name c' h => within_write rfl (kind_of_ownedChildren sb h))
    (ends_and (ends_children sb) (ends_children_policy sb)) (fun op c' h => h) (by decide)
    hstored hfinalizer) ?_)
  rintro _ _ c₂ ⟨⟨hchildren, hpolicy⟩, hc₂⟩
  replace hstored := (hc₂.find? (by decide) _).trans hstored
  refine wp_bind.mpr (wp_post (wp_part sb (gcRBAC_calls sb [] none)
    (gcRBAC_within sb none) (ends_gcRBAC sb) (fun op c' h => .rbac h) (by decide) hstored
    hfinalizer) ?_)
  rintro _ _ c₃ ⟨hbindings, hc₃⟩
  replace hstored := (hc₃.find? (by decide) _).trans hstored
  refine wp_bind.mpr (wp_post (wp_part sb (closeSessions_calls sb)
    (wp_mono (closeSessions_calls sb) (fun op c' h => h.within) fun _ _ _ h => h)
    (ends_closeSessions sb) (fun op c' h => .session h) (by decide) hstored hfinalizer) ?_)
  rintro _ _ c₄ ⟨hsessions, hc₄⟩
  replace hstored := (hc₄.find? (by decide) _).trans hstored
  refine wp_bind.mpr (wp_post (wp_part sb
    (applyHomeRetainPolicy_calls sb) (applyHomeRetainPolicy_calls sb)
    (ends_applyHomeRetainPolicy sb) (fun op c' h => .claim h) (by decide) hstored
    hfinalizer) ?_)
  rintro _ _ c₅ ⟨hhome, hc₅⟩
  replace hstored := (hc₅.find? (by decide) _).trans hstored
  have htorn : Torn c sb c₅ := by
    refine ⟨?_, fun key rb hrb hlabel => ?_, fun key s hs => ?_, fun hgenerated => ?_⟩
    · exact ((hchildren.congr hc₃ (by decide)).congr hc₄ (by decide)).congr hc₅ (by decide)
    · rw [hc₅.find? (by decide), hc₄.find? (by decide)] at hrb
      obtain ⟨hdel, old, hold, hheld⟩ := hbindings key rb hrb hlabel
      rw [hc₂.find? (by decide), hmarked.outside.find? (by decide)] at hold
      exact ⟨hdel, old, hold, hheld⟩
    · rw [hc₅.find? (by decide)] at hs
      exact hsessions key s hs
    · refine (hhome hgenerated).congr ?_ rfl
      rw [hc₄.find? (by decide), hc₃.find? (by decide), hc₂.find? (by decide),
        hmarked.outside.find? (by decide)]
  have hgone : PolicyPlain c sb → c₅.find? .networkPolicy (netPolKey sb) = none := by
    intro hplain
    rw [hc₅.find? (by decide), hc₄.find? (by decide), hc₃.find? (by decide)]
    refine hpolicy fun np hnp => hplain np ?_
    rwa [hmarked.outside.find? (by decide)] at hnp
  refine wp_bind.mpr (wp_update.mpr
    ⟨⟨.finalizer _ ⟨status, rv, rfl⟩ hstored hgone, ⟨_, hstored, hfinalizer⟩, fun _ => htorn⟩,
      fun old hold _ _ => ?_⟩)
  refine ⟨htorn.congr ⟨?_, fun k hk => store_settle_ne c₅ _ (by simpa using hk)⟩, ?_⟩
  · unfold settle
    split_ifs <;> rfl
  · intro sb' hsb'
    have hkey : old.key = sb.key := key_of_find? hold
    rw [← hkey] at hsb'
    rw [eq_of_find?_settle hsb']
    simp [versioned, updated]

theorem finalize_calls (hsb : c.find? .sandbox sb.key = some sb) :
    (finalize sb : ClientM σ Result).Always Step (FinalizeCall c sb) st c :=
  wp_mono (wp_finalize sb hsb) (fun _ _ h => h.call) fun _ _ _ _ => trivial

end Ends


/-! ## Every pass -/

/-- The calls of a pass over `key` that starts in `c`. -/
inductive PassCall (r : SandboxReconciler) (key : ObjectKey) (c : Cluster) : Call → Cluster → Prop
  | absent {op : Call} {c' : Cluster} (h : op.target = none) : PassCall r key c op c'
  | live {op : Call} {c' : Cluster} (sb : Sandbox) (hsb : c.find? .sandbox key = some sb)
    (hlive : sb.deleting = false) (h : LiveCall r c sb op c') : PassCall r key c op c'
  | teardown {op : Call} {c' : Cluster} (sb : Sandbox) (hsb : c.find? .sandbox key = some sb)
    (hdeleting : sb.deleting = true) (h : FinalizeCall c sb op c') : PassCall r key c op c'

/-- The calls of a pass, whatever it finds under its key. -/
theorem reconcile_calls (r : SandboxReconciler) (key : ObjectKey) (c : Cluster) :
    (r.reconcile key).Always Step (PassCall r key c) () c := by
  cases hsb : c.find? .sandbox key with
  | none =>
    refine wp_bind.mpr (wp_getOptional.mpr ⟨.absent rfl, ?_⟩)
    rw [hsb]
    trivial
  | some sb =>
    by_cases hdeleting : sb.deleting = true
    · have hkey := key_of_find? hsb
      refine wp_bind.mpr (wp_getOptional.mpr ⟨.absent rfl, ?_⟩)
      rw [hsb]
      refine wp_ite (fun _ => ?_) fun h => absurd hdeleting h
      exact wp_mono (finalize_calls sb (hkey ▸ hsb)) (fun _ _ h => .teardown sb hsb hdeleting h)
        fun _ _ _ _ => trivial
    · have hlive := Bool.eq_false_iff.mpr hdeleting
      exact wp_mono (wp_reconcile_live r hsb hlive) (fun _ _ h => .live sb hsb hlive h)
        fun _ _ _ _ => trivial

/-- Sandboxes are created by users. -/
theorem PassCall.not_create_sandbox {r : SandboxReconciler} {key : ObjectKey} {c c₁ : Cluster}
    {op : Call} (h : PassCall r key c op c₁) (o : Sandbox) : op ≠ .create .sandbox o := by
  rintro rfl
  cases h with
  | absent h => cases h
  | live sb hsb hlive h =>
    cases h with
    | read h => cases h
    | gate h => exact absurd (Gate.kinds_subset _ _ (h.within _ rfl)) (by simp [gateKinds])
    | pod tpl hopen h => cases h
  | teardown sb hsb hdeleting h =>
    cases h with
    | read h => cases h
    | rbac h => exact absurd (h.within _ rfl) (by simp)
    | session h => exact absurd (h.within _ rfl) (by simp)
    | claim h => exact absurd (h _ rfl) (by simp)

end Kubepark

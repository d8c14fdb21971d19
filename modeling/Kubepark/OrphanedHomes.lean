import Kubepark.TeardownComplete
import Kubepark.PassGuarantees

/-!
# The orphaned-home label

A home claim that is retained when its sandbox is deleted gets the label
`kubepark.dev/orphaned-home`. Nothing ever takes the label off : a sandbox that is created again
under the same name, or that names the claim by `existingClaim`, goes on to use a claim that is
labelled as an orphan (`label_stays_on_readoption`). The label is put on the generated claim
whoever else uses it, and it is not put on when the sandbox has moved to another claim since.

`orphan_label_truthful` says that there is nothing else : in every run whose passes avoid these
three situations (`LabelSafe`) the label is on exactly the claims it should be on.
-/

namespace Kubepark

open ApiServer Client SandboxReconciler Routine

/-- The claim is labelled as an orphaned home. -/
def Labelled (pvc : PersistentVolumeClaim) : Prop :=
  matchingLabel labelOrphanedHome "true" pvc = true

/-- The claim that `sb` names as its home. -/
def homeOf (sb : Sandbox) : ObjectKey :=
  ⟨sb.metadata.namespaceName, homeClaim sb⟩

/-- A pass over `sb` that ends without error leaves the claim it names recorded as its home : the
home gate lets it through, or the claim was recorded before. -/
def TakesHome (c : Cluster) (sb : Sandbox) : Prop :=
  ((c.find? .sandboxTemplate ⟨"", sb.spec.template⟩).isSome ∧ homeOpen c sb = true) ∨
    sb.status.pvcName = homeClaim sb

/-! ## What a pass makes of the sandboxes and the claims -/

/-- Claims are left as they are, or created under the generated name of `sb` without the
label. -/
structure ClaimsMade (sb : Sandbox) (c c' : Cluster) : Prop where
  kept : ∀ k pvc, c.find? .persistentVolumeClaim k = some pvc →
    c'.find? .persistentVolumeClaim k = some pvc
  made : ∀ k pvc, c'.find? .persistentVolumeClaim k = some pvc →
    c.find? .persistentVolumeClaim k = some pvc ∨
      (c.find? .persistentVolumeClaim k = none ∧ k = homeKey sb ∧ ¬Labelled pvc)

/-- Claims keep their labels, or go; the generated claim of `sb` may get the label. -/
def ClaimsDisposed (sb : Sandbox) (c c' : Cluster) : Prop :=
  ∀ k pvc', c'.find? .persistentVolumeClaim k = some pvc' →
    ∃ pvc, c.find? .persistentVolumeClaim k = some pvc ∧
      (pvc'.metadata.labels = pvc.metadata.labels ∨
        (k = homeKey sb ∧ existingClaim sb = none ∧ ¬DeletesHome sb))

/-- What a pass over `key` that ends without error makes of the sandboxes and the claims. -/
inductive PassEffect (c : Cluster) (key : ObjectKey) (c' : Cluster) : Prop
  | idle (hreleased : Released c key) (hsandboxes : c'.store .sandbox = c.store .sandbox)
    (hclaims : c'.store .persistentVolumeClaim = c.store .persistentVolumeClaim)
  | live (sb sb' : Sandbox) (hsb : c.find? .sandbox key = some sb) (hlive : sb.deleting = false)
    (hsb' : c'.find? .sandbox key = some sb')
    (hstamp : ∃ finalizers rv, sb' = stamped { sb with status := sb'.status } finalizers rv)
    (hfinalizer : sandboxFinalizer ∈ sb'.metadata.finalizers)
    (htakes : sb'.status.pvcName = homeClaim sb → TakesHome c sb)
    (hothers : ∀ key', key' ≠ key → c'.find? .sandbox key' = c.find? .sandbox key')
    (hclaims : ClaimsMade sb c c')
  | torn (sb : Sandbox) (hsb : c.find? .sandbox key = some sb) (hdeleting : sb.deleting = true)
    (hfinalizer : sandboxFinalizer ∈ sb.metadata.finalizers) (hreleased : Released c' key)
    (hthere : StillThere key sb c')
    (hothers : ∀ key', key' ≠ key → c'.find? .sandbox key' = c.find? .sandbox key')
    (hclaims : ClaimsDisposed sb c c')
    (hhome : existingClaim sb = none → HomeDisposed c sb c')

theorem not_labelled_labels (sb : Sandbox) {pvc : PersistentVolumeClaim}
    (h : pvc.metadata.labels = labels sb) : ¬Labelled pvc := by
  have hkeys : ∀ l ∈ [labelSandbox, labelSandboxUID, labelComponent, labelManagedBy],
      (labelOrphanedHome == l) = false := by decide
  simp only [List.mem_cons, List.not_mem_nil, or_false, forall_eq_or_imp, forall_eq] at hkeys
  simp [Labelled, matchingLabel, h, labels, List.lookup_cons, hkeys]

section Live

variable {r : SandboxReconciler} {sb : Sandbox} {c c' : Cluster}

/-- The home is recorded where the home gate lets the sandbox through. -/
theorem ends_reconcileSandbox_pvcName (r : SandboxReconciler) (sb : Sandbox) (c : Cluster)
    (st : SandboxStatus) :
    (r.reconcileSandbox sb).Ends Step (fun _ st' _ => st'.pvcName = st.pvcName ∨
      ((c.find? .sandboxTemplate ⟨"", sb.spec.template⟩).isSome ∧ homeOpen c sb = true)) st c := by
  refine wp_bind.mpr (wp_getOptional.mpr ⟨trivial, ?_⟩)
  cases htpl : c.find? Kind.sandboxTemplate ⟨"", sb.spec.template⟩ with
  | none => exact Or.inl rfl
  | some tpl =>
    refine wp_bind.mpr (wp_post (ends_reconcileHome sb) ?_)
    rintro result st₁ c₁ (⟨-, hresult, -, hpvcName⟩ | ⟨hhome, -⟩)
    · obtain ⟨result, rfl⟩ := Option.isSome_iff_exists.mp hresult
      exact Or.inl hpvcName
    · exact ends_of_forall fun _ _ _ => Or.inr ⟨rfl, hhome⟩

theorem ends_reconcileLive_home (hsb : c.find? .sandbox sb.key = some sb)
    (hlive : sb.deleting = false) : (r.reconcileLive sb).Ends Step (fun _ _ c' =>
      ∃ sb', c'.find? .sandbox sb.key = some sb' ∧
        sandboxFinalizer ∈ sb'.metadata.finalizers ∧
        (sb'.status.pvcName = homeClaim sb → TakesHome c sb)) () c := by
  refine wp_reconcileLive_of (R := fun _ sb₁ out c₂ => Routine.okPost (fun _ st' c' =>
    c'.find? .sandbox sb.key = some sb₁ ∧ (st'.pvcName = homeClaim sb → TakesHome c sb)) out c₂)
    r (fun _ _ _ _ _ => id) hsb hlive trivial ?_ ?_ ?_ ?_
  · intro c₁ sb₁ hprep
    have hpvcName := ends_reconcileSandbox_pvcName r sb c₁
      { sb.status with observedGeneration := sb.metadata.generation }
    rw [hprep.homeOpen_eq, hprep.template_eq] at hpvcName
    refine wp_mono (wp_and (wp_reconcileSandbox_prepared r hprep) hpvcName)
      (fun _ _ _ => trivial) ?_
    rintro _ st' c' ⟨⟨hc', -⟩, hname⟩
    refine ⟨(hc'.find? (by decide) _).trans hprep.stored, fun htaken => ?_⟩
    exact hname.symm.imp_right fun h => h.symm.trans htaken
  · exact fun _ _ _ _ _ _ => trivial
  · exact fun _ _ _ _ _ _ hR => hR.1
  · intro c₁ sb₁ result st' c₂ c' rv hprep hR hstored _ _
    exact ⟨_, hstored, hprep.finalizer, hR.2⟩

/-- The claim that a live pass creates is the one it builds. -/
theorem LiveCall.claim_built {c₁ : Cluster} {o : PersistentVolumeClaim}
    (h : LiveCall r c sb (.create .persistentVolumeClaim o) c₁) : ∃ tpl, o = buildPVC sb tpl := by
  cases h with
  | read h => cases h
  | pod tpl _ h => cases h
  | gate h =>
    cases h with
    | claim tpl => exact ⟨tpl, rfl⟩
    | read h => cases h
    | rbac granted h => exact absurd (h.within _ rfl) (by simp)

theorem Pass.claimsMade {key : ObjectKey} {t : List (Call × Cluster)}
    {result : Except ApiError Result} (h : Pass r key c t result c')
    (hsb : c.find? .sandbox key = some sb) (hlive : sb.deleting = false) : ClaimsMade sb c c' := by
  refine h.preserves hsb hlive (I := ClaimsMade sb c) ?_ ⟨fun _ _ h => h, fun _ _ h => Or.inl h⟩
  intro op c₁ a c₂ hop hs hc₁
  have honly : op.OnlyCreates .persistentVolumeClaim := hop.onlyCreates (by decide)
  refine ⟨fun k pvc hpvc => hs.keeps honly (hc₁.kept k pvc hpvc), fun k pvc hpvc => ?_⟩
  by_cases hkept : c₁.find? .persistentVolumeClaim k = some pvc
  · exact hc₁.made k pvc hkept
  · cases hs.written hpvc with
    | kept hold => exact absurd hold hkept
    | created o hop' hkey hnone hnew =>
      subst hop'
      obtain ⟨tpl, rfl⟩ := hop.claim_built
      refine Or.inr ⟨?_, hkey.symm, not_labelled_labels sb (by rw [hnew]; rfl)⟩
      cases hstart : c.find? .persistentVolumeClaim k with
      | none => rfl
      | some old => exact nomatch (hc₁.kept k old hstart).symm.trans hnone
    | updated old _ hop' _ _ _ | statusUpdated old _ hop' _ _ _ | patched old _ hop' _ _
    | statusPatched old _ hop' _ _ | terminated old _ hop' _ _ _ _ =>
      subst hop'
      obtain ⟨o, ho⟩ := honly _ rfl rfl
      cases ho

end Live

section Teardown

variable {r : SandboxReconciler} {sb : Sandbox} {c c' : Cluster} {σ : Type} {st : σ}

theorem ClaimsDisposed.congr {c₁ c₁' : Cluster} (h : ClaimsDisposed sb c₁ c₁')
    (hc : c₁.store .persistentVolumeClaim = c.store .persistentVolumeClaim)
    (hc' : c'.store .persistentVolumeClaim = c₁'.store .persistentVolumeClaim) :
    ClaimsDisposed sb c c' := by
  simp only [ClaimsDisposed, find?, hc'] at h ⊢
  rwa [hc] at h

/-- A claim that is deleted keeps its labels until it goes. -/
theorem labels_of_dropped {k : Kind} {key key' : ObjectKey} {site : String} {o' : Obj k}
    (h : (c.dropped k key site).find? k key' = some o') :
    ∃ o, c.find? k key' = some o ∧ o'.metadata.labels = o.metadata.labels := by
  by_cases hkey : key' = key
  · subst hkey
    unfold dropped at h
    cases hold : c.find? k key' with
    | none =>
      rw [hold] at h
      exact nomatch hold.symm.trans h
    | some old =>
      simp only [hold, deleted] at h
      split_ifs at h
      · exact ⟨old, rfl, by rw [Option.some.inj (hold.symm.trans h)]⟩
      · have hkey : old.key = key' := key_of_find? hold
        rw [eq_of_find?_write (c.terminated site old) hkey h]
        exact ⟨old, rfl, rfl⟩
      · rw [find?_remove_self] at h
        cases h
  · rw [find?_dropped_ne fun he => hkey (Prod.mk.inj he).2] at h
    exact ⟨o', h, rfl⟩

theorem ends_applyHomeRetainPolicy_claims (sb : Sandbox) :
    (applyHomeRetainPolicy sb : ClientM σ Unit).Ends Step
      (fun _ _ c' => ClaimsDisposed sb c c') st c := by
  unfold applyHomeRetainPolicy
  cases hexisting : existingClaim sb with
  | some claim => exact fun k pvc h => ⟨pvc, h, Or.inl rfl⟩
  | none =>
    refine wp_bind.mpr (wp_getOptional.mpr ⟨trivial, ?_⟩)
    cases hpvc : c.find? Kind.persistentVolumeClaim
        ⟨sb.metadata.namespaceName, pvcName sb.metadata.name⟩ with
    | none => exact fun k pvc h => ⟨pvc, h, Or.inl rfl⟩
    | some pvc =>
      have hkey : pvc.key = homeKey sb := key_of_find? hpvc
      refine wp_ite (fun hdelete => ?_) fun hretain => ?_
      · refine wp_deleteIfPresent.mpr ⟨trivial, fun k pvc' h => ?_⟩
        obtain ⟨old, hold, hlabels⟩ := labels_of_dropped h
        exact ⟨old, hold, Or.inl hlabels⟩
      · refine wp_updateIfPresent.mpr ⟨trivial, fun _ k pvc' h => ⟨pvc', h, Or.inl rfl⟩, ?_⟩
        intro old hold _ k pvc' h
        have holdkey : old.key = homeKey sb := (key_of_find? hold).trans hkey
        by_cases hk : k = homeKey sb
        · subst hk
          exact ⟨pvc, hpvc, Or.inr ⟨rfl, hexisting, hretain⟩⟩
        · rw [find?_settle_ne] at h
          · exact ⟨pvc', h, Or.inl rfl⟩
          · exact fun he => hk ((Prod.mk.inj he).2.trans holdkey)

/-- A part of the teardown that leaves the claims alone. -/
theorem ends_claims_kept {α : Type} {ks : List Kind} {x : ClientM σ α} {c₁ : Cluster}
    (hx : x.Always Step (fun op _ => op.Within ks) st c₁)
    (hks : Kind.persistentVolumeClaim ∉ ks) : x.Ends Step
      (fun _ _ c' => c'.store .persistentVolumeClaim = c₁.store .persistentVolumeClaim) st c₁ :=
  wp_mono (wp_sameOutside (fun _ _ => id) hx) (fun _ _ _ => trivial)
    fun _ _ _ h => h.2.store _ hks

theorem ends_finalize_claims (hsb : c.find? .sandbox sb.key = some sb) :
    (finalize sb : ClientM σ Result).Ends Step (fun _ _ c' => ClaimsDisposed sb c c') st c := by
  refine wp_ite (fun _ => fun k pvc h => ⟨pvc, h, Or.inl rfl⟩) fun _ => ?_
  refine wp_bind.mpr (wp_markTerminating sb hsb trivial ?_)
  intro c₁ sb₁ hmarked
  have hc₁ := hmarked.outside.store .persistentVolumeClaim (by decide)
  obtain ⟨status, rv, rfl⟩ := hmarked.stamp
  refine wp_bind.mpr (wp_post (ends_claims_kept
    (children_calls sb fun k name c' h => within_write rfl (kind_of_ownedChildren sb h))
    (by decide)) fun _ _ c₂ hc₂ => ?_)
  refine wp_bind.mpr (wp_post (ends_claims_kept
    (gcRBAC_within sb none) (by decide)) fun _ _ c₃ hc₃ => ?_)
  refine wp_bind.mpr (wp_post (ends_claims_kept (wp_mono
    (closeSessions_calls sb) (fun op c' h => h.within) fun _ _ _ h => h) (by decide))
    fun _ _ c₄ hc₄ => ?_)
  refine wp_bind.mpr (wp_post
    (ends_applyHomeRetainPolicy_claims sb) fun _ _ c₅ hc₅ => ?_)
  refine wp_bind.mpr (wp_post (ends_claims_kept
    (always_update (within_write rfl (List.mem_singleton_self Kind.sandbox))) (by decide))
    fun _ _ c₆ hc₆ => ?_)
  exact hc₅.congr (hc₄.trans (hc₃.trans (hc₂.trans hc₁))) hc₆

end Teardown

section Pass

variable {r : SandboxReconciler} {key : ObjectKey} {c c' : Cluster} {t : List (Call × Cluster)}

/-- A pass writes no sandbox but its own. -/
theorem PassCall.sandbox_target {op : Call} {c₁ : Cluster} {key' : ObjectKey}
    (h : PassCall r key c op c₁) (ht : op.target = some (.sandbox, key')) : key' = key := by
  have hnot : ∀ ks, op.Within ks → Kind.sandbox ∉ ks → False := fun ks hop hks => hks (hop _ ht)
  cases h with
  | absent h => exact nomatch h.symm.trans ht
  | live sb hsb _ h =>
    have hkey := key_of_find? hsb
    cases h with
    | read h => exact nomatch h.symm.trans ht
    | finalizer | status => exact (Prod.mk.inj (Option.some.inj ht)).2.symm.trans hkey
    | gate h => exact (hnot gateKinds (fun t ht => Gate.kinds_subset _ _ (h.within t ht))
        (by decide)).elim
    | pod tpl _ h => cases h <;> cases ht
  | teardown sb hsb _ h =>
    have hkey := key_of_find? hsb
    cases h with
    | read h => exact nomatch h.symm.trans ht
    | terminating => exact (Prod.mk.inj (Option.some.inj ht)).2.symm.trans hkey
    | child k name h =>
      obtain ⟨rfl, -⟩ := Prod.mk.inj (Option.some.inj ht)
      exact absurd (kind_of_ownedChildren sb h) (show Kind.sandbox ∉ childKinds by decide)
    | rbac h => exact (hnot _ h.within (by simp)).elim
    | session h => exact (hnot _ h.within (by simp)).elim
    | claim h => exact (hnot _ h (by simp)).elim
    | finalizer sb₁ hstamp =>
      obtain ⟨status, rv, rfl⟩ := hstamp
      exact (Prod.mk.inj (Option.some.inj ht)).2.symm.trans hkey

theorem PartialPass.sandbox_others (h : PartialPass r key c t c') {key' : ObjectKey}
    (hne : key' ≠ key) : c'.find? .sandbox key' = c.find? .sandbox key' := by
  refine h.preserves (I := fun c₁ => c₁.find? .sandbox key' = c.find? .sandbox key') h.calls ?_ rfl
  intro op c₁ a c₂ hop hs hc₁
  exact (hs.find? fun ht => hne (hop.sandbox_target ht)).trans hc₁

/-- What a pass that ends without error makes of the sandboxes and the claims. -/
theorem Pass.effect {result : Result} (h : Pass r key c t (.ok result) c') :
    PassEffect c key c' := by
  cases hsb : c.find? .sandbox key with
  | none =>
    have hread : (r.reconcile key).Ends Step (fun _ _ c' => c' = c) () c := by
      refine wp_bind.mpr (wp_getOptional.mpr ⟨trivial, ?_⟩)
      rw [hsb]
      exact rfl
    obtain rfl : c' = c := (h.wp hread).2
    exact .idle (fun sb h => nomatch hsb.symm.trans h) rfl rfl
  | some sb =>
    obtain rfl := key_of_find? hsb
    by_cases hdeleting : sb.deleting = true
    · have hteardown : ∀ {Q : Result → Unit → Cluster → Prop}, (finalize sb).Ends Step Q () c →
          (r.reconcile sb.key).Ends Step Q () c := by
        intro Q hQ
        refine wp_bind.mpr (wp_getOptional.mpr ⟨trivial, ?_⟩)
        rw [hsb]
        exact wp_ite (fun _ => hQ) fun h => absurd hdeleting h
      by_cases hfinalizer : sandboxFinalizer ∈ sb.metadata.finalizers
      · have hthere : StillThere sb.key sb c := by
          intro sb' hsb'
          obtain rfl := Option.some.inj (hsb.symm.trans hsb')
          exact ⟨_, _, _, rfl⟩
        obtain ⟨htorn, hreleased⟩ := (h.wp (wp_reconcile_teardown hsb hdeleting hfinalizer)).2
        exact .torn sb hsb hdeleting hfinalizer hreleased
          (PartialPass.stillThere h.visits hdeleting hthere)
          (fun key' => PartialPass.sandbox_others h.visits)
          (h.wp (hteardown (ends_finalize_claims hsb))).2 htorn.home
      · have hidle : (finalize sb).Ends Step (fun _ _ c' => c' = c) () c := by
          refine wp_ite (fun _ => rfl) fun h => ?_
          exact absurd (by simpa using h) hfinalizer
        obtain rfl : c' = c := (h.wp (hteardown hidle)).2
        refine .idle (fun sb' hsb' => ?_) rfl rfl
        obtain rfl := Option.some.inj (hsb.symm.trans hsb')
        exact hfinalizer
    · have hlive := Bool.eq_false_iff.mpr hdeleting
      have hhome : (r.reconcile sb.key).Ends Step (fun _ _ c' =>
          ∃ sb', c'.find? .sandbox sb.key = some sb' ∧
            sandboxFinalizer ∈ sb'.metadata.finalizers ∧
            (sb'.status.pvcName = homeClaim sb → TakesHome c sb)) () c :=
        wp_reconcile_of_live r hsb hlive trivial (ends_reconcileLive_home hsb hlive)
      obtain ⟨sb', hsb', hfinalizer, htakes⟩ := (h.wp hhome).2
      obtain ⟨sb'', hout⟩ := h.outcome hsb hlive
      obtain rfl := Option.some.inj (hsb'.symm.trans hout.stored)
      exact .live sb sb' hsb hlive hsb' hout.stamp hfinalizer htakes hout.others
        (h.claimsMade hsb hlive)

end Pass

/-! ## Runs -/

/-- The cluster, and what has happened to its claims and sandboxes. -/
structure HomeWorld where
  cluster : Cluster
  /-- The UID of the sandbox whose pass created the claim. -/
  maker : ObjectKey → Option String
  /-- A pass over the sandbox has ended without error since it was created and since it last
  changed the claim it names. -/
  reconciled : ObjectKey → Prop
  /-- The claim was retained by the deletion of the sandbox that created it, and no sandbox has
  used it since. -/
  retained : ObjectKey → Prop

/-- The sandbox `sb` is there, has been reconciled and uses the claim `k` as its home. -/
structure UsesHome (w : HomeWorld) (sb : Sandbox) (k : ObjectKey) : Prop where
  stored : w.cluster.find? .sandbox sb.key = some sb
  finalizer : sandboxFinalizer ∈ sb.metadata.finalizers
  reconciled : w.reconciled sb.key
  recorded : sb.status.pvcName = homeClaim sb
  home : homeOf sb = k

/-- Going on to `c'`, the sandbox `sb` is gone or has lost its finalizer, and the claim `k` that
it created stays behind. -/
structure Leaves (w : HomeWorld) (c' : Cluster) (sb : Sandbox) (k : ObjectKey) : Prop where
  stored : w.cluster.find? .sandbox sb.key = some sb
  gone : ∀ sb', c'.find? .sandbox sb.key = some sb' →
    sandboxFinalizer ∈ sb.metadata.finalizers ∧ sandboxFinalizer ∉ sb'.metadata.finalizers
  maker : w.maker k = some sb.metadata.uid
  retains : ¬DeletesHome sb
  stays : (c'.find? .persistentVolumeClaim k).isSome

/-- The world after a pass over `key` that leaves `c'`. -/
def HomeWorld.afterPass (w : HomeWorld) (key : ObjectKey) (c' : Cluster) : HomeWorld where
  cluster := c'
  maker k :=
    match w.cluster.find? .persistentVolumeClaim k with
    | some _ => w.maker k
    | none =>
      if (c'.find? .persistentVolumeClaim k).isSome then
        (w.cluster.find? .sandbox key).map (·.metadata.uid)
      else none
  reconciled k := k = key ∨ w.reconciled k
  retained k :=
    ((w.retained k ∧ (w.cluster.find? .persistentVolumeClaim k).isSome) ∨
      ∃ sb, Leaves w c' sb k) ∧
    -- The sandbox that the pass was over does not use the claim now.
    ∀ sb', c'.find? .sandbox key = some sb' → sandboxFinalizer ∈ sb'.metadata.finalizers →
      sb'.status.pvcName = homeClaim sb' → homeOf sb' ≠ k

/-- The world after a user has created, edited or deleted the sandbox under `key`. -/
def HomeWorld.afterUser (w : HomeWorld) (key : ObjectKey) (c' : Cluster) : HomeWorld where
  cluster := c'
  maker := w.maker
  reconciled k := w.reconciled k ∧ (k = key → ∃ sb sb', w.cluster.find? .sandbox key = some sb ∧
    c'.find? .sandbox key = some sb' ∧ homeClaim sb' = homeClaim sb)
  retained k := w.retained k ∨ ∃ sb, Leaves w c' sb k

/-- What users do with the sandbox under `key`. A new sandbox has a UID of its own. -/
inductive SandboxAction (w : HomeWorld) : Call → ObjectKey → Prop
  | create (sb : Sandbox)
    (hstored : ∀ sb' ∈ w.cluster.objs .sandbox, sb'.metadata.uid ≠ sb.metadata.uid)
    (hmaker : ∀ k, w.maker k ≠ some sb.metadata.uid) :
    SandboxAction w (.create .sandbox sb) sb.key
  | edit (key : ObjectKey) (change : SandboxSpec → SandboxSpec) :
    SandboxAction w (.patch .sandbox key change) key
  | delete (key : ObjectKey) (site : String) : SandboxAction w (.delete .sandbox key site) key

/-- The label is where it should be. -/
structure LabelTruthful (w : HomeWorld) : Prop where
  /-- A claim that the controller created is labelled only while no sandbox uses it. -/
  unused : ∀ k pvc sb, w.cluster.find? .persistentVolumeClaim k = some pvc →
    (w.maker k).isSome → Labelled pvc → ¬UsesHome w sb k
  /-- A claim that its sandbox left behind is labelled until it is used again. -/
  kept : ∀ k pvc, w.cluster.find? .persistentVolumeClaim k = some pvc → w.retained k → Labelled pvc

/-- A pass over `key` from `w` runs into none of the three situations in which the label goes
wrong. -/
structure LabelSafe (w : HomeWorld) (key : ObjectKey) : Prop where
  /-- A sandbox that takes a claim takes none that is labelled as an orphan. -/
  adopts : ∀ sb pvc, w.cluster.find? .sandbox key = some sb → sb.deleting = false →
    TakesHome w.cluster sb → w.cluster.find? .persistentVolumeClaim (homeOf sb) = some pvc →
      (w.maker (homeOf sb)).isSome → ¬Labelled pvc
  /-- A sandbox whose generated claim is labelled at its teardown is the only one to use it. -/
  orphans : ∀ sb sb', w.cluster.find? .sandbox key = some sb → sb.deleting = true →
    sandboxFinalizer ∈ sb.metadata.finalizers → existingClaim sb = none → ¬DeletesHome sb →
      (w.maker (homeKey sb)).isSome → UsesHome w sb' (homeKey sb) → sb'.key = key
  /-- A sandbox that is torn down while it names another claim leaves no unlabelled claim of its
  own behind. -/
  moved : ∀ sb pvc, w.cluster.find? .sandbox key = some sb → sb.deleting = true →
    sandboxFinalizer ∈ sb.metadata.finalizers → existingClaim sb ≠ none → ¬DeletesHome sb →
      w.maker (homeKey sb) = some sb.metadata.uid →
        w.cluster.find? .persistentVolumeClaim (homeKey sb) = some pvc → Labelled pvc

/-- One step of a run. `Allowed` restricts the passes. -/
inductive HomeStep (r : SandboxReconciler) (Allowed : HomeWorld → ObjectKey → Prop) :
    HomeWorld → HomeWorld → Prop
  | pass {w : HomeWorld} {key : ObjectKey} {c' : Cluster} {t : List (Call × Cluster)}
    {result : Result} (h : Pass r key w.cluster t (.ok result) c') (hallowed : Allowed w key) :
    HomeStep r Allowed w (w.afterPass key c')
  | user {w : HomeWorld} {op : Call} {key : ObjectKey} (h : SandboxAction w op key) :
    HomeStep r Allowed w (w.afterUser key (handle op w.cluster).2)
  /-- A call on anything but sandboxes and claims. -/
  | other {w : HomeWorld} {op : Call} (hsandbox : ∀ key, op.target ≠ some (.sandbox, key))
    (hclaim : ∀ key, op.target ≠ some (.persistentVolumeClaim, key)) :
    HomeStep r Allowed w { w with cluster := (handle op w.cluster).2 }
  | tick {w : HomeWorld} (t : Time) (h : w.cluster.clock ≤ t) :
    HomeStep r Allowed w { w with cluster := { w.cluster with clock := t } }
  | podGone {w : HomeWorld} (key : ObjectKey) :
    HomeStep r Allowed w { w with cluster := w.cluster.remove .pod key }

/-- What holds all along a run. -/
structure HomeInvariant (w : HomeWorld) : Prop where
  truthful : LabelTruthful w
  /-- The sandbox that created a claim did so under its generated name, and has its finalizer
  until it is deleted. -/
  made : ∀ k sb, w.cluster.find? .sandbox sb.key = some sb → w.maker k = some sb.metadata.uid →
    k = homeKey sb ∧ (sb.deleting = false → sandboxFinalizer ∈ sb.metadata.finalizers)
  /-- No two sandboxes have the same UID. -/
  uids : ∀ sb sb', w.cluster.find? .sandbox sb.key = some sb →
    w.cluster.find? .sandbox sb'.key = some sb' → sb.metadata.uid = sb'.metadata.uid →
      sb.key = sb'.key

section Steps

variable {w : HomeWorld} {c' : Cluster} {key : ObjectKey}

/-- The invariant is about sandboxes and claims. -/
theorem HomeInvariant.congr (h : HomeInvariant w)
    (hsandboxes : ∀ key, c'.find? .sandbox key = w.cluster.find? .sandbox key)
    (hclaims : ∀ key, c'.find? .persistentVolumeClaim key =
      w.cluster.find? .persistentVolumeClaim key) : HomeInvariant { w with cluster := c' } where
  truthful := by
    refine ⟨fun k pvc sb hpvc hmade hlabel huses => ?_, fun k pvc hpvc => ?_⟩
    · rw [hclaims] at hpvc
      refine h.truthful.unused k pvc sb hpvc hmade hlabel ?_
      exact ⟨(hsandboxes _).symm.trans huses.stored, huses.finalizer, huses.reconciled,
        huses.recorded, huses.home⟩
    · rw [hclaims] at hpvc
      exact h.truthful.kept k pvc hpvc
  made k sb hsb := h.made k sb ((hsandboxes _).symm.trans hsb)
  uids sb sb' hsb hsb' :=
    h.uids sb sb' ((hsandboxes _).symm.trans hsb) ((hsandboxes _).symm.trans hsb')

/-- `sb'` is `sb` after a user has edited or deleted it. -/
structure Edited (sb sb' : Sandbox) : Prop where
  uid : sb'.metadata.uid = sb.metadata.uid
  finalizers : sb'.metadata.finalizers = sb.metadata.finalizers
  status : sb'.status = sb.status
  deleting : sb.deleting = true → sb'.deleting = true

/-- A sandbox that is there after a user's call was there before, or is the one created. -/
theorem SandboxAction.origin {op : Call} (h : SandboxAction w op key) {sb' : Sandbox}
    (hsb' : (handle op w.cluster).2.find? .sandbox key = some sb') :
    (∃ sb, w.cluster.find? .sandbox key = some sb ∧ Edited sb sb') ∨
      (w.cluster.find? .sandbox key = none ∧
        (∀ sb ∈ w.cluster.objs .sandbox, sb.metadata.uid ≠ sb'.metadata.uid) ∧
        ∀ k, w.maker k ≠ some sb'.metadata.uid) := by
  cases (step_handle op w.cluster).written hsb' with
  | kept hold => exact Or.inl ⟨sb', hold, rfl, rfl, rfl, id⟩
  | created o hop hkey hnone hnew =>
    subst hnew
    cases h with
    | create sb hstored hmaker =>
      cases hop
      exact Or.inr ⟨hnone, hstored, hmaker⟩
    | edit | delete => cases hop
  | patched old change hop hold hnew =>
    subst hnew
    exact Or.inl ⟨old, hold, rfl, rfl, rfl, id⟩
  | terminated old site hop hold hlive _ hnew =>
    subst hnew
    exact Or.inl ⟨old, hold, rfl, rfl, rfl, fun _ => rfl⟩
  | updated _ _ hop | statusUpdated _ _ hop | statusPatched _ _ hop =>
    subst hop
    cases h

theorem SandboxAction.target {op : Call} (h : SandboxAction w op key) :
    op.target = some (.sandbox, key) := by
  cases h <;> rfl

/-- A user's call does not take away a sandbox that has a finalizer, or that is being deleted. -/
theorem SandboxAction.stays {op : Call} (h : SandboxAction w op key) {sb : Sandbox}
    (hsb : w.cluster.find? .sandbox key = some sb)
    (hheld : sb.deleting = false → sandboxFinalizer ∈ sb.metadata.finalizers) :
    (handle op w.cluster).2.find? .sandbox key ≠ none := by
  intro hgone
  cases (step_handle op w.cluster).gone hsb hgone with
  | deleted site hop _ hnone =>
    subst hop
    by_cases hdeleting : sb.deleting = true
    · simp only [handle, hsb, deleted, hdeleting, ↓reduceIte] at hgone
      cases hgone
    · simpa [hnone] using hheld (Bool.eq_false_iff.mpr hdeleting)
  | finalized new hop =>
    subst hop
    cases h

theorem SandboxAction.others {op : Call} (h : SandboxAction w op key) {key' : ObjectKey}
    (hne : key' ≠ key) :
    (handle op w.cluster).2.find? .sandbox key' = w.cluster.find? .sandbox key' :=
  handle_find? (by simpa [h.target] using hne.symm)

theorem SandboxAction.claims {op : Call} (h : SandboxAction w op key) (k : ObjectKey) :
    (handle op w.cluster).2.find? .persistentVolumeClaim k =
      w.cluster.find? .persistentVolumeClaim k :=
  handle_find? (by simp [h.target])

/-- Every sandbox that is there after a user's call, with what it was before. -/
theorem SandboxAction.origin_of_stored {op : Call} (h : SandboxAction w op key) {sb' : Sandbox}
    (hsb' : (handle op w.cluster).2.find? .sandbox sb'.key = some sb') :
    (∃ sb, w.cluster.find? .sandbox sb.key = some sb ∧ sb.key = sb'.key ∧ Edited sb sb') ∨
      (sb'.key = key ∧ (∀ sb ∈ w.cluster.objs .sandbox, sb.metadata.uid ≠ sb'.metadata.uid) ∧
        ∀ k, w.maker k ≠ some sb'.metadata.uid) := by
  by_cases hkey : sb'.key = key
  · rcases h.origin (hkey ▸ hsb') with ⟨sb, hsb, hedited⟩ | ⟨-, hfresh⟩
    · obtain rfl := key_of_find? hsb
      exact Or.inl ⟨sb, hsb, hkey.symm, hedited⟩
    · exact Or.inr ⟨hkey, hfresh⟩
  · exact Or.inl ⟨sb', (h.others hkey).symm.trans hsb', rfl, rfl, rfl, rfl, id⟩

/-- A user's call leaves no claim behind : the sandbox that created it is held by its finalizer. -/
theorem HomeInvariant.not_leaves {op : Call} (h : HomeInvariant w) (hop : SandboxAction w op key)
    {sb : Sandbox} {k : ObjectKey} : ¬Leaves w (handle op w.cluster).2 sb k := by
  intro hleaves
  obtain ⟨-, hheld⟩ := h.made k sb hleaves.stored hleaves.maker
  by_cases hkey : sb.key = key
  · subst hkey
    obtain ⟨sb', hsb'⟩ := Option.ne_none_iff_exists'.mp (hop.stays hleaves.stored hheld)
    obtain ⟨hon, hoff⟩ := hleaves.gone sb' hsb'
    rcases hop.origin hsb' with ⟨old, hold, hedited⟩ | ⟨hnone, -⟩
    · obtain rfl := Option.some.inj (hleaves.stored.symm.trans hold)
      exact hoff (hedited.finalizers ▸ hon)
    · cases hleaves.stored.symm.trans hnone
  · obtain ⟨hon, hoff⟩ := hleaves.gone sb ((hop.others hkey).trans hleaves.stored)
    exact hoff hon

/-- A sandbox that uses a claim after a user's call used it before. -/
theorem UsesHome.before_user {op : Call} {sb : Sandbox} {k : ObjectKey}
    (hop : SandboxAction w op key) (h : UsesHome (w.afterUser key (handle op w.cluster).2) sb k) :
    ∃ old, UsesHome w old k := by
  obtain ⟨hstored, hfinalizer, ⟨hreconciled, hsame⟩, hrecorded, hhome⟩ := h
  by_cases hkey : sb.key = key
  · subst hkey
    obtain ⟨old, sb', hold, hsb', hclaim⟩ := hsame rfl
    obtain rfl := Option.some.inj (hstored.symm.trans hsb')
    rcases hop.origin hstored with ⟨old', hold', hedited⟩ | ⟨hnone, -⟩
    · obtain rfl := Option.some.inj (hold.symm.trans hold')
      have holdkey := key_of_find? hold
      refine ⟨old, holdkey ▸ hold, hedited.finalizers ▸ hfinalizer, holdkey ▸ hreconciled, ?_, ?_⟩
      · rw [← hclaim, ← hrecorded, hedited.status]
      · rw [← hhome, homeOf, homeOf, ← hclaim]
        exact congrArg (fun key : ObjectKey => (⟨key.namespaceName, homeClaim sb⟩ : ObjectKey))
          holdkey
    · cases hold.symm.trans hnone
  · exact ⟨sb, (hop.others hkey).symm.trans hstored, hfinalizer, hreconciled, hrecorded, hhome⟩

theorem HomeInvariant.made_user {op : Call} (h : HomeInvariant w) (hop : SandboxAction w op key)
    {sb : Sandbox} {k : ObjectKey}
    (hsb : (handle op w.cluster).2.find? .sandbox sb.key = some sb)
    (hmaker : w.maker k = some sb.metadata.uid) :
    k = homeKey sb ∧ (sb.deleting = false → sandboxFinalizer ∈ sb.metadata.finalizers) := by
  rcases hop.origin_of_stored hsb with ⟨old, hold, hkey, hedited⟩ | ⟨-, -, hfresh⟩
  · obtain ⟨hk, hheld⟩ := h.made k old hold (hedited.uid ▸ hmaker)
    refine ⟨hk.trans (congrArg (fun key : ObjectKey =>
      (⟨key.namespaceName, pvcName key.name⟩ : ObjectKey)) hkey), fun hlive => ?_⟩
    rw [hedited.finalizers]
    refine hheld (Bool.eq_false_iff.mpr fun hdeleting => ?_)
    cases hlive.symm.trans (hedited.deleting hdeleting)
  · exact absurd hmaker (hfresh k)

theorem HomeInvariant.uids_user {op : Call} (h : HomeInvariant w) (hop : SandboxAction w op key)
    {sb sb' : Sandbox} (hsb : (handle op w.cluster).2.find? .sandbox sb.key = some sb)
    (hsb' : (handle op w.cluster).2.find? .sandbox sb'.key = some sb')
    (huid : sb.metadata.uid = sb'.metadata.uid) : sb.key = sb'.key := by
  rcases hop.origin_of_stored hsb with ⟨old, hold, holdkey, hedited⟩ | ⟨hkey, hfresh, -⟩
  · rcases hop.origin_of_stored hsb' with ⟨old', hold', holdkey', hedited'⟩ | ⟨-, hfresh', -⟩
    · rw [← holdkey, ← holdkey']
      exact h.uids old old' hold hold' (hedited.uid.symm.trans (huid.trans hedited'.uid))
    · exact absurd (hedited.uid.symm.trans huid) (hfresh' old (mem_objs_iff.mpr hold))
  · rcases hop.origin_of_stored hsb' with ⟨old', hold', holdkey', hedited'⟩ | ⟨hkey', -, -⟩
    · exact absurd (hedited'.uid.symm.trans huid.symm) (hfresh old' (mem_objs_iff.mpr hold'))
    · exact hkey.trans hkey'.symm

theorem HomeInvariant.user {op : Call} (h : HomeInvariant w) (hop : SandboxAction w op key) :
    HomeInvariant (w.afterUser key (handle op w.cluster).2) where
  truthful := by
    refine ⟨fun k pvc sb hpvc hmade hlabel huses => ?_, fun k pvc hpvc hretained => ?_⟩
    · obtain ⟨old, huses'⟩ := huses.before_user hop
      exact h.truthful.unused k pvc old ((hop.claims k).symm.trans hpvc) hmade hlabel huses'
    · rcases hretained with hretained | ⟨sb, hleaves⟩
      · exact h.truthful.kept k pvc ((hop.claims k).symm.trans hpvc) hretained
      · exact absurd hleaves (h.not_leaves hop)
  made _ _ hsb hmaker := h.made_user hop hsb hmaker
  uids _ _ hsb hsb' huid := h.uids_user hop hsb hsb' huid

/-- A claim that was there keeps its maker. -/
theorem maker_afterPass_of_some {k : ObjectKey} {pvc : PersistentVolumeClaim}
    (h : w.cluster.find? .persistentVolumeClaim k = some pvc) :
    (w.afterPass key c').maker k = w.maker k := by
  simp only [HomeWorld.afterPass, h]

/-- A claim that came into being was made by the sandbox of the pass. -/
theorem maker_afterPass_of_none {k : ObjectKey} {uid : String}
    (h : w.cluster.find? .persistentVolumeClaim k = none)
    (hmaker : (w.afterPass key c').maker k = some uid) :
    (c'.find? .persistentVolumeClaim k).isSome ∧
      ∃ sb, w.cluster.find? .sandbox key = some sb ∧ sb.metadata.uid = uid := by
  simp only [HomeWorld.afterPass, h] at hmaker
  split_ifs at hmaker with hsome
  exact ⟨hsome, Option.map_eq_some_iff.mp hmaker⟩

/-- Where no claim comes into being the makers are those of before. -/
theorem maker_of_afterPass {k : ObjectKey} {uid : String}
    (hclaims : c'.find? .persistentVolumeClaim k ≠ none →
      w.cluster.find? .persistentVolumeClaim k ≠ none)
    (hmaker : (w.afterPass key c').maker k = some uid) : w.maker k = some uid := by
  cases h : w.cluster.find? .persistentVolumeClaim k with
  | some pvc => rwa [maker_afterPass_of_some h] at hmaker
  | none =>
    obtain ⟨hsome, -⟩ := maker_afterPass_of_none h hmaker
    exact absurd h (hclaims (Option.isSome_iff_ne_none.mp hsome))

/-- A sandbox that stands as it stood does not leave its claim behind. -/
theorem Leaves.not_kept {sb : Sandbox} {k : ObjectKey} (h : Leaves w c' sb k) :
    c'.find? .sandbox sb.key ≠ w.cluster.find? .sandbox sb.key := by
  intro hsame
  obtain ⟨hon, hoff⟩ := h.gone sb (hsame.trans h.stored)
  exact hoff hon

/-- UIDs stay different where each sandbox was there before. -/
theorem HomeInvariant.uids_kept (h : HomeInvariant w)
    (hbefore : ∀ o : Sandbox, c'.find? .sandbox o.key = some o → ∃ old,
      w.cluster.find? .sandbox old.key = some old ∧ old.key = o.key ∧
        old.metadata.uid = o.metadata.uid) {o o' : Sandbox}
    (ho : c'.find? .sandbox o.key = some o) (ho' : c'.find? .sandbox o'.key = some o')
    (huid : o.metadata.uid = o'.metadata.uid) : o.key = o'.key := by
  obtain ⟨old, hold, holdkey, holduid⟩ := hbefore o ho
  obtain ⟨old', hold', holdkey', holduid'⟩ := hbefore o' ho'
  rw [← holdkey, ← holdkey']
  exact h.uids old old' hold hold' (holduid.trans (huid.trans holduid'.symm))

theorem HomeInvariant.idle (h : HomeInvariant w) (hreleased : Released w.cluster key)
    (hsandboxes : c'.store .sandbox = w.cluster.store .sandbox)
    (hclaims : c'.store .persistentVolumeClaim = w.cluster.store .persistentVolumeClaim) :
    HomeInvariant (w.afterPass key c') := by
  have hsb : ∀ key, c'.find? .sandbox key = w.cluster.find? .sandbox key := by
    simp only [find?, hsandboxes, implies_true]
  have hpvc : ∀ k, c'.find? .persistentVolumeClaim k =
      w.cluster.find? .persistentVolumeClaim k := by
    simp only [find?, hclaims, implies_true]
  refine ⟨⟨fun k pvc sb hk hmade hlabel huses => ?_, fun k pvc hk hretained => ?_⟩,
    fun k sb hstored hmaker => ?_, fun sb sb' hstored hstored' => ?_⟩
  · have hk : w.cluster.find? .persistentVolumeClaim k = some pvc := (hpvc k).symm.trans hk
    have hstored : w.cluster.find? .sandbox sb.key = some sb := (hsb _).symm.trans huses.stored
    rw [maker_afterPass_of_some hk] at hmade
    rcases huses.reconciled with hkey | hreconciled
    · exact hreleased sb (hkey ▸ hstored) huses.finalizer
    · exact h.truthful.unused k pvc sb hk hmade hlabel
        ⟨hstored, huses.finalizer, hreconciled, huses.recorded, huses.home⟩
  · rcases hretained.1 with ⟨hretained, -⟩ | ⟨sb, hleaves⟩
    · exact h.truthful.kept k pvc ((hpvc k).symm.trans hk) hretained
    · exact absurd (hsb _) hleaves.not_kept
  · refine h.made k sb ((hsb _).symm.trans hstored) (maker_of_afterPass ?_ hmaker)
    rw [hpvc]
    exact id
  · exact h.uids sb sb' ((hsb _).symm.trans hstored) ((hsb _).symm.trans hstored')

/-- A sandbox other than that of the pass uses what it used before. -/
theorem UsesHome.before {sb : Sandbox} {k : ObjectKey} (h : UsesHome (w.afterPass key c') sb k)
    (hne : sb.key ≠ key)
    (hothers : ∀ key', key' ≠ key → c'.find? .sandbox key' = w.cluster.find? .sandbox key') :
    UsesHome w sb k :=
  ⟨(hothers _ hne).symm.trans h.stored, h.finalizer, h.reconciled.resolve_left hne, h.recorded,
    h.home⟩

theorem HomeInvariant.live {sb sb' : Sandbox} (h : HomeInvariant w) (hsafe : LabelSafe w key)
    (hsb : w.cluster.find? .sandbox key = some sb) (hlive : sb.deleting = false)
    (hsb' : c'.find? .sandbox key = some sb')
    (hstamp : ∃ finalizers rv, sb' = stamped { sb with status := sb'.status } finalizers rv)
    (hfinalizer : sandboxFinalizer ∈ sb'.metadata.finalizers)
    (htakes : sb'.status.pvcName = homeClaim sb → TakesHome w.cluster sb)
    (hothers : ∀ key', key' ≠ key → c'.find? .sandbox key' = w.cluster.find? .sandbox key')
    (hclaims : ClaimsMade sb w.cluster c') : HomeInvariant (w.afterPass key c') := by
  have hkey : sb.key = key := key_of_find? hsb
  have hsame : sb'.metadata.uid = sb.metadata.uid ∧ homeOf sb' = homeOf sb ∧
      homeKey sb' = homeKey sb ∧ homeClaim sb' = homeClaim sb := by
    obtain ⟨finalizers, rv, hstamp⟩ := hstamp
    rw [hstamp]
    exact ⟨rfl, rfl, rfl, rfl⟩
  obtain ⟨huid, hhome, hgenerated, hclaim⟩ := hsame
  -- What stands under `key` after the pass is `sb'`.
  have hthis : ∀ o : Sandbox, c'.find? .sandbox o.key = some o → o.key = key → o = sb' :=
    fun o ho hokey => Option.some.inj (ho.symm.trans (hokey ▸ hsb'))
  refine ⟨⟨fun k pvc o hpvc hmade hlabel huses => ?_, fun k pvc hpvc hretained => ?_⟩,
    fun k o ho hmaker => ?_, fun o o' ho ho' hsameuid => ?_⟩
  · rcases hclaims.made k pvc hpvc with hold | ⟨-, -, hplain⟩
    · rw [maker_afterPass_of_some hold] at hmade
      by_cases hokey : o.key = key
      · obtain rfl := hthis o huses.stored hokey
        obtain rfl : homeOf sb = k := hhome.symm.trans huses.home
        exact hsafe.adopts sb pvc hsb hlive (htakes (huses.recorded.trans hclaim)) hold hmade hlabel
      · exact h.truthful.unused k pvc o hold hmade hlabel (huses.before hokey hothers)
    · exact hplain hlabel
  · rcases hretained.1 with ⟨hretained, hstood⟩ | ⟨o, hleaves⟩
    · rcases hclaims.made k pvc hpvc with hold | ⟨hnone, -⟩
      · exact h.truthful.kept k pvc hold hretained
      · simp [hnone] at hstood
    · by_cases hokey : o.key = key
      · exact absurd hfinalizer (hleaves.gone sb' (hokey ▸ hsb')).2
      · exact absurd (hothers _ hokey) hleaves.not_kept
  · cases hold : w.cluster.find? .persistentVolumeClaim k with
    | some pvc =>
      rw [maker_afterPass_of_some hold] at hmaker
      by_cases hokey : o.key = key
      · obtain rfl := hthis o ho hokey
        obtain ⟨hk, -⟩ := h.made k sb (hkey ▸ hsb) (huid ▸ hmaker)
        exact ⟨hk.trans hgenerated.symm, fun _ => hfinalizer⟩
      · exact h.made k o ((hothers _ hokey).symm.trans ho) hmaker
    | none =>
      obtain ⟨hsome, sb₀, hsb₀, huid₀⟩ := maker_afterPass_of_none hold hmaker
      obtain rfl := Option.some.inj (hsb.symm.trans hsb₀)
      have hk : k = homeKey sb := by
        obtain ⟨pvc, hpvc⟩ := Option.isSome_iff_exists.mp hsome
        rcases hclaims.made k pvc hpvc with hpvc' | ⟨-, hk, -⟩
        · exact nomatch hold.symm.trans hpvc'
        · exact hk
      have hokey : o.key = key := by
        by_contra hne
        exact hne ((h.uids o sb ((hothers _ hne).symm.trans ho) (hkey ▸ hsb) huid₀.symm).trans hkey)
      obtain rfl := hthis o ho hokey
      exact ⟨hk.trans hgenerated.symm, fun _ => hfinalizer⟩
  · refine h.uids_kept (fun o ho => ?_) ho ho' hsameuid
    by_cases hokey : o.key = key
    · obtain rfl := hthis o ho hokey
      exact ⟨sb, hkey ▸ hsb, hkey.trans hokey.symm, huid.symm⟩
    · exact ⟨o, (hothers _ hokey).symm.trans ho, rfl, rfl⟩

theorem HomeInvariant.torn {sb : Sandbox} (h : HomeInvariant w) (hsafe : LabelSafe w key)
    (hsb : w.cluster.find? .sandbox key = some sb) (hdeleting : sb.deleting = true)
    (hfinalizer : sandboxFinalizer ∈ sb.metadata.finalizers) (hreleased : Released c' key)
    (hthere : StillThere key sb c')
    (hothers : ∀ key', key' ≠ key → c'.find? .sandbox key' = w.cluster.find? .sandbox key')
    (hclaims : ClaimsDisposed sb w.cluster c')
    (hhome : existingClaim sb = none → HomeDisposed w.cluster sb c') :
    HomeInvariant (w.afterPass key c') := by
  have hkey : sb.key = key := key_of_find? hsb
  have hsame : ∀ o : Sandbox, c'.find? .sandbox o.key = some o → o.key = key →
      o.metadata.uid = sb.metadata.uid ∧ homeKey o = homeKey sb ∧ o.deleting = true := by
    intro o ho hokey
    obtain ⟨status, finalizers, rv, rfl⟩ := hthere o (hokey ▸ ho)
    exact ⟨rfl, rfl, hdeleting⟩
  have hnot : ∀ o k, UsesHome (w.afterPass key c') o k → o.key ≠ key :=
    fun o k huses hokey => hreleased o (hokey ▸ huses.stored) huses.finalizer
  have hstood : ∀ k, c'.find? .persistentVolumeClaim k ≠ none →
      w.cluster.find? .persistentVolumeClaim k ≠ none := by
    intro k hsome
    obtain ⟨pvc, hpvc⟩ := Option.ne_none_iff_exists'.mp hsome
    obtain ⟨old, hold, -⟩ := hclaims k pvc hpvc
    simp [hold]
  have hlabels : ∀ {pvc old : PersistentVolumeClaim},
      pvc.metadata.labels = old.metadata.labels → (Labelled pvc ↔ Labelled old) := by
    intro pvc old hlabels
    simp only [Labelled, matchingLabel, hlabels]
  refine ⟨⟨fun k pvc o hpvc hmade hlabel huses => ?_, fun k pvc hpvc hretained => ?_⟩,
    fun k o ho hmaker => ?_, fun o o' ho ho' hsameuid => ?_⟩
  · obtain ⟨old, hold, hcase⟩ := hclaims k pvc hpvc
    rw [maker_afterPass_of_some hold] at hmade
    have huses' := huses.before (hnot o k huses) hothers
    rcases hcase with heq | ⟨rfl, hgenerated, hretain⟩
    · exact h.truthful.unused k old o hold hmade ((hlabels heq).mp hlabel) huses'
    · exact hnot o _ huses
        (hsafe.orphans sb o hsb hdeleting hfinalizer hgenerated hretain hmade huses')
  · obtain ⟨old, hold, hcase⟩ := hclaims k pvc hpvc
    -- A claim that gets the label has it; every other keeps what it had.
    rcases hcase with heq | ⟨rfl, hgenerated, hretain⟩
    · rw [hlabels heq]
      rcases hretained.1 with ⟨hretained, -⟩ | ⟨o, hleaves⟩
      · exact h.truthful.kept k old hold hretained
      · have hokey : o.key = key := by
          by_contra hne
          exact hleaves.not_kept (hothers _ hne)
        obtain rfl := Option.some.inj (hsb.symm.trans (hokey ▸ hleaves.stored))
        obtain ⟨rfl, -⟩ := h.made k sb hleaves.stored hleaves.maker
        by_cases hexisting : existingClaim sb = none
        · exact (hlabels heq).mp ((hhome hexisting).labelled hleaves.retains pvc hpvc)
        · exact hsafe.moved sb old hsb hdeleting hfinalizer hexisting hleaves.retains
            hleaves.maker hold
    · exact (hhome hgenerated).labelled hretain pvc hpvc
  · have hmaker := maker_of_afterPass (hstood k) hmaker
    by_cases hokey : o.key = key
    · obtain ⟨huid, hgenerated, hdel⟩ := hsame o ho hokey
      obtain ⟨hk, -⟩ := h.made k sb (hkey ▸ hsb) (huid ▸ hmaker)
      refine ⟨hk.trans hgenerated.symm, fun hlive => ?_⟩
      cases hlive.symm.trans hdel
    · exact h.made k o ((hothers _ hokey).symm.trans ho) hmaker
  · refine h.uids_kept (fun o ho => ?_) ho ho' hsameuid
    by_cases hokey : o.key = key
    · exact ⟨sb, hkey ▸ hsb, hkey.trans hokey.symm, (hsame o ho hokey).1.symm⟩
    · exact ⟨o, (hothers _ hokey).symm.trans ho, rfl, rfl⟩

/-- Every step keeps the invariant. -/
theorem HomeInvariant.step {r : SandboxReconciler} {w' : HomeWorld} (h : HomeInvariant w)
    (hstep : HomeStep r LabelSafe w w') : HomeInvariant w' := by
  cases hstep with
  | pass hpass hsafe =>
    cases hpass.effect with
    | idle hreleased hsandboxes hclaims => exact h.idle hreleased hsandboxes hclaims
    | live sb sb' hsb hlive hsb' hstamp hfinalizer htakes hothers hclaims =>
      exact h.live hsafe hsb hlive hsb' hstamp hfinalizer htakes hothers hclaims
    | torn sb hsb hdeleting hfinalizer hreleased hthere hothers hclaims hhome =>
      exact h.torn hsafe hsb hdeleting hfinalizer hreleased hthere hothers hclaims hhome
  | user hop => exact h.user hop
  | other hsandbox hclaim =>
    exact h.congr (fun key => handle_find? (hsandbox key)) fun key => handle_find? (hclaim key)
  | tick t ht => exact h.congr (fun _ => rfl) fun _ => rfl
  | podGone key =>
    exact h.congr (fun _ => find?_remove_ne _ _ _ (by simp)) fun _ =>
      find?_remove_ne _ _ _ (by simp)

end Steps

/-- In every run whose passes avoid the three situations, from a cluster without sandboxes, the
label is where it should be. -/
theorem orphan_label_truthful (r : SandboxReconciler) (w₀ w : HomeWorld)
    (hsandboxes : ∀ key, w₀.cluster.find? .sandbox key = none) (hmaker : ∀ k, w₀.maker k = none)
    (hretained : ∀ k, ¬w₀.retained k)
    (hrun : Relation.ReflTransGen (HomeStep r LabelSafe) w₀ w) : LabelTruthful w := by
  have hstart : HomeInvariant w₀ := by
    refine ⟨⟨fun k pvc sb _ hmade => ?_, fun k pvc _ h => absurd h (hretained k)⟩,
      fun k sb hsb => ?_, fun sb sb' hsb => ?_⟩
    · simp [hmaker k] at hmade
    · exact nomatch (hsandboxes _).symm.trans hsb
    · exact nomatch (hsandboxes _).symm.trans hsb
  have hinv : HomeInvariant w := by
    induction hrun with
    | refl => exact hstart
    | tail _ hstep ih => exact ih.step hstep
  exact hinv.truthful

namespace Team

/-- The team's cluster before there are sandboxes. -/
def homeless : HomeWorld :=
  ⟨vacant, fun _ => none, fun _ => False, fun _ => False⟩

/-- Alice's sandbox, in one of its lives. -/
def devWith (uid : String) : Sandbox :=
  { sandbox .running {} with metadata.uid := uid }

def devCreated (uid : String) (w : HomeWorld) : HomeWorld :=
  w.afterUser key (handle (.create .sandbox (devWith uid)) w.cluster).2

def devDeleted (w : HomeWorld) : HomeWorld :=
  w.afterUser key (handle (.delete .sandbox key "user") w.cluster).2

def devPass (w : HomeWorld) : HomeWorld :=
  w.afterPass key (runPass reconciler key w.cluster).2

/-- The sandbox is created, and its home with it. -/
def housed : HomeWorld :=
  devPass (devCreated "u1" homeless)

/-- The sandbox is deleted, and its home retained. -/
def orphaned : HomeWorld :=
  devPass (devDeleted housed)

/-- The sandbox is created once more. -/
def readopted : HomeWorld :=
  devPass (devCreated "u2" orphaned)

theorem step_devPass {Allowed : HomeWorld → ObjectKey → Prop} {w : HomeWorld}
    (hok : (runPass reconciler key w.cluster).1.toOption = some {})
    (hallowed : Allowed w key) : HomeStep reconciler Allowed w (devPass w) :=
  .pass (pass_of_runPass hok) hallowed

theorem step_devCreated {Allowed : HomeWorld → ObjectKey → Prop} {w : HomeWorld} {uid : String}
    (hstored : (w.cluster.objs .sandbox).all (fun sb => sb.metadata.uid ≠ uid) = true)
    (hmaker : ∀ k, w.maker k ≠ some uid) : HomeStep reconciler Allowed w (devCreated uid w) :=
  .user (.create _ (fun sb' hsb' => of_decide_eq_true (List.all_eq_true.mp hstored sb' hsb'))
    hmaker)

/-- The claim that a pass has made is the one under the generated name. -/
theorem maker_housed (k : ObjectKey) (hk : housed.maker k ≠ none) :
    k = homeKey (devWith "u1") ∧ housed.maker k = some "u1" := by
  obtain ⟨uid, huid⟩ := Option.ne_none_iff_exists'.mp hk
  obtain ⟨hsome, sb, hsb, rfl⟩ := maker_afterPass_of_none (w := devCreated "u1" homeless) rfl huid
  have hclaims : (housed.cluster.objs .persistentVolumeClaim).all
      (fun pvc => pvc.key = homeKey (devWith "u1")) = true := by decide +kernel
  have hmade : ((devCreated "u1" homeless).cluster.find? .sandbox key).all
      (fun sb => sb.metadata.uid = "u1") = true := by decide +kernel
  obtain ⟨pvc, hpvc⟩ := Option.isSome_iff_exists.mp hsome
  have hkey := of_decide_eq_true (List.all_eq_true.mp hclaims pvc (mem_of_find? hpvc))
  rw [hsb] at hmade
  exact ⟨(key_of_find? hpvc).symm.trans hkey, huid.trans (congrArg some (of_decide_eq_true hmade))⟩

/-- The only sandbox there ever is is Alice's. -/
theorem key_of_stored {c : Cluster} {sb : Sandbox}
    (h : (c.objs .sandbox).all (fun sb => sb.key = key) = true)
    (hsb : c.find? .sandbox sb.key = some sb) : sb.key = key :=
  of_decide_eq_true (List.all_eq_true.mp h sb (mem_of_find? hsb))

theorem labelSafe_created : LabelSafe (devCreated "u1" homeless) key where
  adopts sb pvc _ _ _ hpvc := nomatch hpvc
  orphans sb sb' hsb hdeleting := by
    have hlive : ((devCreated "u1" homeless).cluster.find? .sandbox key).all
        (fun sb => !sb.deleting) = true := by decide +kernel
    rw [hsb] at hlive
    simp [hdeleting] at hlive
  moved sb pvc _ _ _ _ _ _ hpvc := nomatch hpvc

theorem labelSafe_deleted : LabelSafe (devDeleted housed) key where
  adopts sb pvc hsb hlive := by
    have hdeleting : ((devDeleted housed).cluster.find? .sandbox key).all
        (fun sb => sb.deleting) = true := by decide +kernel
    rw [hsb] at hdeleting
    exact nomatch hlive.symm.trans hdeleting
  orphans sb sb' _ _ _ _ _ _ huses := key_of_stored (by decide +kernel) huses.stored
  moved sb pvc hsb _ _ hexisting := by
    have hgenerated : ((devDeleted housed).cluster.find? .sandbox key).all
        (fun sb => (existingClaim sb).isNone) = true := by decide +kernel
    rw [hsb] at hgenerated
    exact absurd (Option.isNone_iff_eq_none.mp hgenerated) hexisting

/-- Alice's sandbox is created and deleted. -/
theorem run_orphaned {Allowed : HomeWorld → ObjectKey → Prop}
    (hcreated : Allowed (devCreated "u1" homeless) key)
    (hdeleted : Allowed (devDeleted housed) key) :
    Relation.ReflTransGen (HomeStep reconciler Allowed) homeless orphaned := by
  have hcreate : HomeStep reconciler Allowed homeless (devCreated "u1" homeless) :=
    step_devCreated (by decide +kernel) fun k h => nomatch h
  have hhoused : HomeStep reconciler Allowed (devCreated "u1" homeless) housed :=
    step_devPass (by decide +kernel) hcreated
  have hdelete : HomeStep reconciler Allowed housed (devDeleted housed) := .user (.delete _ _)
  have horphaned : HomeStep reconciler Allowed (devDeleted housed) orphaned :=
    step_devPass (by decide +kernel) hdeleted
  exact .tail (.tail (.tail (.single hcreate) hhoused) hdelete) horphaned

end Team

/-- A home that is retained is labelled. -/
theorem retained_home_labelled :
    Relation.ReflTransGen (HomeStep Team.reconciler LabelSafe) Team.homeless Team.orphaned ∧
      Team.orphaned.retained (homeKey (Team.devWith "u1")) ∧
      ∃ pvc, Team.orphaned.cluster.find? .persistentVolumeClaim (homeKey (Team.devWith "u1")) =
        some pvc ∧ Labelled pvc := by
  have hrun := Team.run_orphaned Team.labelSafe_created Team.labelSafe_deleted
  have hpvc : (Team.orphaned.cluster.find? .persistentVolumeClaim
      (homeKey (Team.devWith "u1"))).isSome = true := by decide +kernel
  have hsb : ((Team.devDeleted Team.housed).cluster.find? .sandbox Team.key).any (fun sb =>
      sb.key = Team.key ∧ (Team.devDeleted Team.housed).maker (homeKey (Team.devWith "u1")) =
        some sb.metadata.uid ∧ sb.spec.home.map (·.retainPolicy) ≠ some .delete) = true := by
    decide +kernel
  have hgone : (Team.orphaned.cluster.find? .sandbox Team.key).isNone = true := by decide +kernel
  obtain ⟨pvc, hpvc'⟩ := Option.isSome_iff_exists.mp hpvc
  obtain ⟨sb, hstored, hprops⟩ := (Option.any_eq_true _ _).mp hsb
  obtain ⟨hkey, hmaker, hretains⟩ := of_decide_eq_true hprops
  rw [Option.isNone_iff_eq_none] at hgone
  have hretained : Team.orphaned.retained (homeKey (Team.devWith "u1")) := by
    refine ⟨Or.inr ⟨sb, hkey ▸ hstored, fun sb' hsb' => ?_, hmaker, hretains, hpvc⟩,
      fun sb' hsb' => ?_⟩
    · rw [hkey] at hsb'
      exact nomatch hgone.symm.trans hsb'
    · exact nomatch hgone.symm.trans hsb'
  have htruthful := orphan_label_truthful Team.reconciler Team.homeless Team.orphaned
    (fun _ => rfl) (fun _ => rfl) (fun _ => id) hrun
  exact ⟨hrun, hretained, pvc, hpvc', htruthful.kept _ pvc hpvc' hretained⟩

/-- A sandbox that is created again under its old name goes on with its old home, and the label
of an orphan stays on it. -/
theorem label_stays_on_readoption :
    Relation.ReflTransGen (HomeStep Team.reconciler fun _ _ => True) Team.homeless Team.readopted ∧
      (∀ key, Team.homeless.cluster.find? .sandbox key = none) ∧ ¬LabelTruthful Team.readopted := by
  have huids : ∀ k, Team.orphaned.maker k ≠ some "u2" := by
    intro k hk
    cases hpvc : (Team.devDeleted Team.housed).cluster.find? .persistentVolumeClaim k with
    | none =>
      obtain ⟨-, sb, hsb, huid⟩ := maker_afterPass_of_none hpvc hk
      have hfirst : ((Team.devDeleted Team.housed).cluster.find? .sandbox Team.key).all
          (fun sb => sb.metadata.uid = "u1") = true := by decide +kernel
      rw [hsb] at hfirst
      exact absurd ((of_decide_eq_true hfirst).symm.trans huid) (by decide)
    | some pvc =>
      have hmade : Team.housed.maker k = some "u2" := (maker_afterPass_of_some hpvc).symm.trans hk
      exact absurd ((Team.maker_housed k (by simp [hmade])).2.symm.trans hmade) (by decide)
  have hback : HomeStep Team.reconciler (fun _ _ => True) Team.orphaned
      (Team.devCreated "u2" Team.orphaned) := Team.step_devCreated (by decide +kernel) huids
  have hpass : HomeStep Team.reconciler (fun _ _ => True) (Team.devCreated "u2" Team.orphaned)
      Team.readopted := Team.step_devPass (by decide +kernel) trivial
  refine ⟨.tail (.tail (Team.run_orphaned trivial trivial) hback) hpass, fun _ => rfl,
    fun htruthful => ?_⟩
  have hpvc : (Team.readopted.cluster.find? .persistentVolumeClaim
      (homeKey (Team.devWith "u1"))).any (fun pvc => matchingLabel labelOrphanedHome "true" pvc &&
        (Team.readopted.maker (homeKey (Team.devWith "u1"))).isSome) = true := by decide +kernel
  have hsb : (Team.readopted.cluster.find? .sandbox Team.key).any (fun sb => sb.key = Team.key ∧
      sandboxFinalizer ∈ sb.metadata.finalizers ∧ sb.status.pvcName = homeClaim sb ∧
        homeOf sb = homeKey (Team.devWith "u1")) = true := by decide +kernel
  obtain ⟨pvc, hstored, hlabel⟩ := (Option.any_eq_true _ _).mp hpvc
  obtain ⟨hlabel, hmade⟩ := Bool.and_eq_true_iff.mp hlabel
  obtain ⟨sb, hsb, hprops⟩ := (Option.any_eq_true _ _).mp hsb
  obtain ⟨hkey, hfinalizer, hrecorded, hhome⟩ := of_decide_eq_true hprops
  exact htruthful.unused _ pvc sb hstored hmade hlabel
    ⟨hkey ▸ hsb, hfinalizer, Or.inl hkey, hrecorded, hhome⟩

end Kubepark

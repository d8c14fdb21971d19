import Kubepark.PodGuards

/-!
# Whom an account stands for

The ServiceAccount of a sandbox is annotated with the name of its owner and with the profile
it was minted from, so that the audit log of the API server leads back to a person.
`reconcileRBAC` writes the annotations through `ensureOwned`, which creates the account when it
is absent and otherwise leaves it as it is. So an account keeps the annotations it was created
with (`AccountCall`) : a pass leaves them true exactly when there was no account yet, or one
that already had the right ones (`Attributed.pass_iff`), and in a run they stay true as long as
no edit gives a sandbox another owner or another profile than its account was created for
(`AccountRun.attributed`).
-/

namespace Kubepark

open ApiServer Client SandboxReconciler Routine

/-- The account names the owner and the profile of `sb`. -/
def ServiceAccount.standsFor (sa : ServiceAccount) (sb : Sandbox) : Prop :=
  sa.metadata.annotations.lookup "kubepark.dev/owner" = some sb.spec.owner.name ∧
    sa.metadata.annotations.lookup "kubepark.dev/access-profile" = some sb.spec.accessProfile

instance (sa : ServiceAccount) (sb : Sandbox) : Decidable (ServiceAccount.standsFor sa sb) :=
  inferInstanceAs (Decidable (_ ∧ _))

/-- Where the account of the sandbox under `key` is. -/
def accountKey (key : ObjectKey) : ObjectKey :=
  ⟨key.namespaceName, saName key.name⟩

theorem accountKey_inj {key key' : ObjectKey} : accountKey key = accountKey key' ↔ key = key' := by
  obtain ⟨ns, n⟩ := key
  obtain ⟨ns', n'⟩ := key'
  simp [accountKey, saName_inj]

/-- If `sb` has an account, it stands for `sb`. -/
def Attributed (c : Cluster) (sb : Sandbox) : Prop :=
  ∀ sa, c.find? .serviceAccount (accountKey sb.key) = some sa → ServiceAccount.standsFor sa sb

theorem ServiceAccount.standsFor_congr {sa sa' : ServiceAccount} {sb sb' : Sandbox}
    (hannotations : sa'.metadata.annotations = sa.metadata.annotations)
    (howner : sb'.spec.owner.name = sb.spec.owner.name)
    (hprofile : sb'.spec.accessProfile = sb.spec.accessProfile)
    (h : ServiceAccount.standsFor sa sb) : ServiceAccount.standsFor sa' sb' := by
  unfold ServiceAccount.standsFor
  rw [hannotations, howner, hprofile]
  exact h

/-! ## The calls of a pass -/

/-- The calls of a pass over `sb`, as far as accounts and the specs of sandboxes are concerned. -/
inductive AccountCall (sb : Sandbox) : Call → Cluster → Prop
  | aside {op : Call} {c : Cluster} (haccounts : ∀ key, op.target ≠ some (.serviceAccount, key))
    (hspecs : ∀ key, Rewrites .sandbox key op →
      ∃ o, op = .update .sandbox o ∧ o.key = sb.key ∧ o.spec = sb.spec) : AccountCall sb op c
  | create {c : Cluster} (profile : AccessProfile)
    (hname : sb.deleting = false → profile.metadata.name = sb.spec.accessProfile) :
    AccountCall sb (.create .serviceAccount
      (setControllerReference sb (buildServiceAccount sb profile))) c
  | delete {c : Cluster} (key : ObjectKey) (site : String) (hdeleting : sb.deleting = true) :
    AccountCall sb (.delete .serviceAccount key site) c

section Calls

variable {r : SandboxReconciler} {sb : Sandbox} {op : Call} {c : Cluster} {st : SandboxStatus}

theorem target_of_rewrites {k : Kind} {key : ObjectKey} (h : Rewrites k key op) :
    op.target = some (k, key) := by
  rcases h with ⟨o, rfl, rfl⟩ | ⟨o, rfl, rfl⟩ | ⟨change, rfl⟩ <;> rfl

/-- A call that writes other kinds than accounts and sandboxes. -/
theorem accountCall_of_within {ks : List Kind} (h : op.Within ks)
    (haccounts : Kind.serviceAccount ∉ ks) (hsandboxes : Kind.sandbox ∉ ks) :
    AccountCall sb op c :=
  .aside (fun _ ht => haccounts (h _ ht))
    fun _ hrewrites => absurd (h _ (target_of_rewrites hrewrites)) hsandboxes

theorem accountCall_of_read (h : op.target = none) : AccountCall sb op c :=
  have hwithin : op.Within [] := within_read h
  accountCall_of_within hwithin List.not_mem_nil List.not_mem_nil

theorem accountCall_updateStatus (o : Sandbox) : AccountCall sb (.updateStatus .sandbox o) c := by
  refine .aside (fun key => by simp [Op.target]) fun key => ?_
  rintro (⟨o, hop, -⟩ | ⟨o, hop, -⟩ | ⟨change, hop⟩) <;> cases hop

theorem accountCall_update {o : Sandbox} (hkey : o.key = sb.key) (hspec : o.spec = sb.spec) :
    AccountCall sb (.update .sandbox o) c :=
  .aside (fun key => by simp [Op.target]) fun _ _ => ⟨o, rfl, hkey, hspec⟩

theorem GateCall.account {g : Gate} (h : GateCall r sb g op c) (hg : g ≠ .rbac) :
    AccountCall sb op c := by
  refine accountCall_of_within h.within ?_ ?_ <;> cases g <;> simp [Gate.kinds] at hg ⊢

theorem applyRoleBinding_within (profile : AccessProfile) (ns : String) :
    (applyRoleBinding (buildRoleBinding sb profile ns)).Always Step
      (fun op _ => op.Within [.roleBinding]) st c := by
  refine (always_getOptional (within_read rfl)).bind fun existing st c => ?_
  cases existing with
  | none => exact always_createIfAbsent (within_write rfl (by simp))
  | some existing =>
    refine wp_ite (fun _ => ?_) fun _ => wp_ite (fun _ => ?_) fun _ => trivial
    · refine (always_deleteIfPresent (within_write rfl (by simp))).bind fun _ _ _ => ?_
      exact always_createIfAbsent (within_write rfl (by simp))
    · refine (always_update (within_write rfl (by simp))).bind fun _ _ _ => ?_
      trivial

theorem always_accounts_of_within {σ α : Type} {st : σ} {x : ClientM σ α} {ks : List Kind}
    (h : x.Always Step (fun op _ => op.Within ks) st c) (haccounts : Kind.serviceAccount ∉ ks)
    (hsandboxes : Kind.sandbox ∉ ks) : x.Always Step (AccountCall sb) st c :=
  wp_mono h (fun _ _ h => accountCall_of_within h haccounts hsandboxes) fun _ _ _ _ => trivial

theorem gcRBAC_accounts (keep : Option (List String)) :
    (gcRBAC sb keep).Always Step (AccountCall sb) st c :=
  always_accounts_of_within (gcRBAC_within sb keep) (by decide) (by decide)

/-- The account is created under the profile that the sandbox names. -/
theorem reconcileRBAC_accounts : (reconcileRBAC sb).Always Step (AccountCall sb) st c := by
  have hnone : ∀ status reason message ready (st : SandboxStatus) (c : Cluster),
      (withoutCredentials sb status reason message ready).Always Step (AccountCall sb) st c :=
    fun _ _ _ _ _ _ => (gcRBAC_accounts none).bind fun _ _ _ => trivial
  refine wp_ite (fun _ => hnone _ _ _ _ _ _) fun _ => ?_
  refine wp_bind.mpr (wp_getOptional.mpr ⟨accountCall_of_read rfl, ?_⟩)
  cases hprofile : c.find? Kind.accessProfile ⟨"", sb.spec.accessProfile⟩ with
  | none => exact hnone _ _ _ _ _ _
  | some profile =>
    have hname : profile.metadata.name = sb.spec.accessProfile :=
      congrArg ObjectKey.name (key_of_find? hprofile)
    refine wp_ite (fun _ => hnone _ _ _ _ _ _) fun _ => ?_
    refine (always_createIfAbsent (.create profile fun _ => hname)).bind fun _ st c => ?_
    refine Routine.Always.bind (Routine.Always.forEach _ fun ns _ st c => ?_) fun _ st c => ?_
    · exact always_accounts_of_within (applyRoleBinding_within profile ns) (by decide) (by decide)
    · exact (gcRBAC_accounts _).bind fun _ _ _ => trivial

theorem always_accounts_of_gate {α : Type} {x : SandboxM α} {g : Gate}
    (h : x.Always Step (GateCall r sb g) st c) (hg : g ≠ .rbac) :
    x.Always Step (AccountCall sb) st c :=
  wp_mono h (fun _ _ h => h.account hg) fun _ _ _ _ => trivial

theorem reconcileSandbox_accounts : (r.reconcileSandbox sb).Always Step (AccountCall sb) st c := by
  refine (always_getOptional (accountCall_of_read rfl)).bind fun tpl st c => ?_
  cases tpl with
  | none => trivial
  | some tpl =>
    refine (always_accounts_of_gate (reconcileHome_calls r sb) (by simp)).bind fun home st c => ?_
    cases home with
    | some requeue => trivial
    | none =>
      refine (always_accounts_of_gate (reconcileHostKey_calls r sb) (by simp)).bind fun _ st c => ?_
      refine (always_accounts_of_gate (reconcileNetworkPolicy_calls r sb tpl) (by simp)).bind
        fun _ st c => ?_
      refine reconcileRBAC_accounts.bind fun rbac st c => ?_
      refine wp_ite (fun _ => ?_) fun _ => trivial
      refine wp_mono (driveState_outcome r sb tpl _) ?_ fun _ _ _ _ => trivial
      rintro op c' (hread | ⟨hcall, -⟩)
      · exact accountCall_of_read hread
      · exact accountCall_of_within hcall.within (by decide) (by decide)

/-- What a pass leaves alone, and the account of a sandbox with a permitted profile. -/
theorem reconcileSandbox_account_stored {c₁ : Cluster} {sb₁ : Sandbox} (hprep : Prepared c sb c₁ sb₁) :
    (r.reconcileSandbox sb).Ends Step (fun _ _ c' => SameOutside (.pod :: gateKinds) c₁ c' ∧
      ∀ tpl profile, GatesOpen c sb tpl → Grants c sb profile →
        (c'.find? .serviceAccount (accountKey sb.key)).isSome = true) st c₁ := by
  refine ends_and (wp_mono (reconcileSandbox_bindings hprep) (fun _ _ _ => trivial)
    fun _ _ _ h => h) ?_
  refine wp_reconcileSandbox_equipped r sb (fun _ _ _ _ _ => id) (fun _ _ _ _ _ => trivial) ?_ ?_
  · intro hblocked _ _ _ _ _ _ tpl _ hopen
    exact absurd ((hprep.gatesOpen_iff tpl).mpr hopen) (hblocked tpl)
  · intro tpl _ serviceAccount st₂ c₂ _ _ hequipped
    refine wp_mono (driveState_outcome r sb tpl serviceAccount) (fun _ _ _ => trivial) ?_
    rintro _ _ c' ⟨-, hc'⟩ _ profile _ hgrants
    rw [hc'.find? (by decide)]
    cases hequipped.account with
    | none hnone => exact absurd hnone hgrants.named
    | granted _ _ hstored => exact hstored

theorem FinalizeCall.account {c' : Cluster} (h : FinalizeCall c sb op c')
    (hdeleting : sb.deleting = true) : AccountCall sb op c' := by
  cases h with
  | read h => exact accountCall_of_read h
  | terminating => exact accountCall_updateStatus _
  | child k name h =>
    by_cases hk : k = .serviceAccount
    · subst hk
      exact .delete _ _ hdeleting
    · have hsandbox : k ≠ .sandbox := by
        have hkind := kind_of_ownedChildren sb h
        rintro rfl
        simp [childKinds] at hkind
      have hwithin : (Op.delete k ⟨sb.metadata.namespaceName, name⟩ "finalize" : Call).Within [k] :=
        within_write rfl (List.mem_singleton_self _)
      exact accountCall_of_within hwithin (by simpa using Ne.symm hk) (by simpa using hsandbox.symm)
  | rbac h =>
    by_cases hcreate : ∃ sa, op = .create .serviceAccount sa
    · obtain ⟨sa, rfl⟩ := hcreate
      cases h with
      | read h => cases h
      | serviceAccount profile =>
        refine .create profile fun hlive => ?_
        cases hdeleting.symm.trans hlive
    · have hwithin : op.Within [.roleBinding] := by
        cases h with
        | read h => exact within_read h
        | serviceAccount profile => exact absurd ⟨_, rfl⟩ hcreate
        | create | update | replace | collect => exact within_write rfl (List.mem_singleton_self _)
      exact accountCall_of_within hwithin (by decide) (by decide)
  | session h => exact accountCall_of_within h.within (by decide) (by decide)
  | claim h => exact accountCall_of_within h (by decide) (by decide)
  | finalizer sb₁ hstamp =>
    obtain ⟨status, rv, rfl⟩ := hstamp
    exact accountCall_update rfl rfl

/-- The calls of a pass over a stored sandbox; if the pass does not fail and every gate is open,
the sandbox has an account. -/
theorem reconcile_accounts (hsb : c.find? .sandbox sb.key = some sb) :
    (r.reconcile sb.key).wp Step (AccountCall sb) (fun _ _ c' => sb.deleting = false →
      ∀ tpl profile, GatesOpen c sb tpl → Grants c sb profile →
        (c'.find? .serviceAccount (accountKey sb.key)).isSome = true) () c := by
  refine wp_bind.mpr (wp_getOptional.mpr ⟨accountCall_of_read rfl, ?_⟩)
  rw [hsb]
  refine wp_ite (fun hdeleting => ?_) fun hdeleting => ?_
  · refine wp_mono (finalize_calls sb hsb) (fun _ _ h => h.account hdeleting) ?_
    exact fun _ _ _ _ hlive => nomatch hdeleting.symm.trans hlive
  · have hlive : sb.deleting = false := by simpa using hdeleting
    refine wp_reconcileLive_of (R := fun c₁ _ out c₂ => Routine.okPost (fun _ _ c' =>
      SameOutside (Kind.pod :: gateKinds) c₁ c' ∧ ∀ tpl profile, GatesOpen c sb tpl →
        Grants c sb profile → (c'.find? .serviceAccount (accountKey sb.key)).isSome = true) out c₂) r
      (fun _ _ _ _ _ => id) hsb hlive (accountCall_update rfl rfl) ?_ ?_ ?_ ?_
    · exact fun c₁ sb₁ hprep =>
        reconcileSandbox_accounts.ends (reconcileSandbox_account_stored hprep)
    · exact fun _ _ _ _ _ _ => accountCall_updateStatus _
    · exact fun c₁ sb₁ result st' c₂ hprep hR => (hR.1.find? (by decide) _).trans hprep.stored
    · intro c₁ sb₁ result st' c₂ c' rv hprep hR _ _ hsame _ tpl profile hopen hgrants
      rw [hsame.find? (by decide)]
      exact hR.2 tpl profile hopen hgrants

end Calls

/-! ## Steps -/

/-- Every live sandbox with a profile has no account, or one that stands for it. -/
def AllAttributed (c : Cluster) : Prop :=
  ∀ key sb, c.find? .sandbox key = some sb → sb.deleting = false → sb.spec.accessProfile ≠ "" →
    Attributed c sb

section Steps

variable {op : Call} {c c' : Cluster} {a : Resp Spec Status op} {key : ObjectKey}

/-- An account that is there after a call that does not rewrite it was there before, with the same
annotations. -/
theorem account_stays {sa' : ServiceAccount} (hs : Step op c a c')
    (hsa' : c'.find? .serviceAccount key = some sa') (hop : ¬Rewrites .serviceAccount key op) :
    ∃ sa, c.find? .serviceAccount key = some sa ∧
      sa'.metadata.annotations = sa.metadata.annotations := by
  cases hs.written hsa' with
  | kept hold => exact ⟨sa', hold, rfl⟩
  | created o hop' hkey => exact absurd (Or.inl ⟨o, hop', hkey⟩) hop
  | updated old o hop' hkey => exact absurd (Or.inr (Or.inl ⟨o, hop', hkey⟩)) hop
  | patched old change hop' => exact absurd (Or.inr (Or.inr ⟨change, hop'⟩)) hop
  | statusUpdated old _ _ _ hold h | statusPatched old _ _ hold h | terminated old _ _ hold _ _ h =>
    subst h
    exact ⟨old, hold, rfl⟩

/-- A sandbox that is live after a call was live before, if it was there. -/
theorem live_before {sb sb' : Sandbox} (hs : Step op c a c') (hsb : c.find? .sandbox key = some sb)
    (hsb' : c'.find? .sandbox key = some sb') (hlive : sb'.deleting = false) :
    sb.deleting = false := by
  cases hs.written hsb' with
  | kept hold =>
    obtain rfl := Option.some.inj (hsb.symm.trans hold)
    exact hlive
  | created o _ _ hnone => exact nomatch hsb.symm.trans hnone
  | updated old _ _ _ hold h | statusUpdated old _ _ _ hold h | patched old _ _ hold h
  | statusPatched old _ _ hold h =>
    obtain rfl := Option.some.inj (hsb.symm.trans hold)
    subst h
    exact hlive
  | terminated old _ _ hold hold' _ h =>
    obtain rfl := Option.some.inj (hsb.symm.trans hold)
    exact hold'

/-- A pass over `sb` does not change the spec of any sandbox. -/
theorem AccountCall.spec_stays {sb sb' : Sandbox} (h : AccountCall sb op c) (hs : Step op c a c')
    (hsame : ∀ o, c.find? .sandbox sb.key = some o → o.spec = sb.spec)
    (hsb' : c'.find? .sandbox key = some sb') :
    ∃ old, c.find? .sandbox key = some old ∧ sb'.spec = old.spec := by
  have hspecs : Rewrites .sandbox key op →
      ∃ o, op = .update .sandbox o ∧ o.key = sb.key ∧ o.spec = sb.spec := by
    intro hrewrites
    cases h with
    | aside _ hspecs => exact hspecs key hrewrites
    | create | delete => exact nomatch target_of_rewrites hrewrites
  cases hs.written hsb' with
  | kept hold => exact ⟨sb', hold, rfl⟩
  | created o hop hkey =>
    obtain ⟨_, hop', -⟩ := hspecs (Or.inl ⟨o, hop, hkey⟩)
    exact nomatch hop.symm.trans hop'
  | updated old o hop hkey hold hnew =>
    obtain ⟨o', hop', hkey', hspec⟩ := hspecs (Or.inr (Or.inl ⟨o, hop, hkey⟩))
    cases hop.symm.trans hop'
    refine ⟨old, hold, ?_⟩
    rw [hnew, hsame old ((congrArg _ (hkey'.symm.trans hkey)).trans hold)]
    exact hspec
  | patched old change hop =>
    obtain ⟨_, hop', -⟩ := hspecs (Or.inr (Or.inr ⟨change, hop⟩))
    exact nomatch hop.symm.trans hop'
  | statusUpdated old _ _ _ hold hnew | statusPatched old _ _ hold hnew
  | terminated old _ _ hold _ _ hnew =>
    subst hnew
    exact ⟨old, hold, rfl⟩

/-- The account that a pass over `sb` creates stands for `sb`. -/
theorem standsFor_created {sb : Sandbox} {profile : AccessProfile} {c : Cluster}
    (hname : profile.metadata.name = sb.spec.accessProfile) :
    ServiceAccount.standsFor (c.versioned (c.created
      (setControllerReference sb (buildServiceAccount sb profile)))) sb := by
  refine ⟨rfl, ?_⟩
  rw [← hname]
  rfl

/-- What an account after a call of a pass over `sb` is : one of before, or that of `sb`. -/
theorem AccountCall.origin {sb : Sandbox} {sa' : ServiceAccount} (h : AccountCall sb op c)
    (hs : Step op c a c') (hsa' : c'.find? .serviceAccount key = some sa') :
    (∃ sa, c.find? .serviceAccount key = some sa ∧
      sa'.metadata.annotations = sa.metadata.annotations) ∨
    key = accountKey sb.key ∧ c.find? .serviceAccount key = none ∧
      (sb.deleting = false → ServiceAccount.standsFor sa' sb) := by
  cases h with
  | aside haccounts => exact Or.inl ⟨sa', (hs.find? (haccounts key)).symm.trans hsa', rfl⟩
  | create profile hname =>
    cases hs.written hsa' with
    | kept hold => exact Or.inl ⟨sa', hold, rfl⟩
    | created o hop hkey hnone hnew =>
      cases hop
      subst hnew
      exact Or.inr ⟨hkey.symm, hnone, fun hlive => standsFor_created (hname hlive)⟩
    | updated _ _ hop | statusUpdated _ _ hop | patched _ _ hop | statusPatched _ _ hop
    | terminated _ _ hop => cases hop
  | delete key' site =>
    refine Or.inl (account_stays hs hsa' ?_)
    rintro (⟨o, hop, -⟩ | ⟨o, hop, -⟩ | ⟨change, hop⟩) <;> cases hop

/-- A pass over a live sandbox does not touch an account that is there. -/
theorem AccountCall.keeps {sb : Sandbox} {sa : ServiceAccount} (h : AccountCall sb op c)
    (hlive : sb.deleting = false) (hs : Step op c a c')
    (hsa : c.find? .serviceAccount key = some sa) : c'.find? .serviceAccount key = some sa := by
  cases h with
  | aside haccounts => exact (hs.find? (haccounts key)).trans hsa
  | create profile => exact hs.keeps (fun _ _ _ => ⟨_, rfl⟩) hsa
  | delete _ _ hdeleting => exact nomatch hdeleting.symm.trans hlive

/-- The state inside a pass over `sb`. -/
structure Attributing (sb : Sandbox) (c : Cluster) : Prop where
  spec : ∀ o, c.find? .sandbox sb.key = some o → o.spec = sb.spec
  live : ∀ o, c.find? .sandbox sb.key = some o → o.deleting = false → sb.deleting = false
  attributed : AllAttributed c

theorem Attributing.step {sb : Sandbox} (hc : Attributing sb c) (h : AccountCall sb op c)
    (hs : Step op c a c') : Attributing sb c' := by
  refine ⟨fun o ho => ?_, fun o ho hlive => ?_, fun key sb' hsb' hlive hprofile sa' hsa' => ?_⟩
  · obtain ⟨old, hold, hspec⟩ := h.spec_stays hs hc.spec ho
    exact hspec.trans (hc.spec old hold)
  · obtain ⟨old, hold, -⟩ := h.spec_stays hs hc.spec ho
    exact hc.live old hold (live_before hs hold ho hlive)
  · obtain ⟨old, hold, hspec⟩ := h.spec_stays hs hc.spec hsb'
    have hlive₀ := live_before hs hold hsb' hlive
    have hkey : old.key = sb'.key := (key_of_find? hold).trans (key_of_find? hsb').symm
    rcases h.origin hs hsa' with ⟨sa, hsa, hannotations⟩ | ⟨hself, -, hstands⟩
    · have hstands := hc.attributed key old hold hlive₀ (hspec ▸ hprofile) sa (hkey ▸ hsa)
      exact ServiceAccount.standsFor_congr hannotations (congrArg (·.owner.name) hspec)
        (congrArg (·.accessProfile) hspec) hstands
    · -- The account is the one that the pass creates for its own sandbox.
      obtain rfl : key = sb.key := (key_of_find? hsb').symm.trans (accountKey_inj.mp hself)
      have hsame : sb'.spec = sb.spec := hspec.trans (hc.spec old hold)
      exact ServiceAccount.standsFor_congr rfl (congrArg (·.owner.name) hsame)
        (congrArg (·.accessProfile) hsame) (hstands (hc.live old hold hlive₀))

end Steps

/-! ## Passes -/

section Passes

variable {r : SandboxReconciler} {sb : Sandbox} {key : ObjectKey} {c c' : Cluster}
  {t : List (Call × Cluster)}

theorem PartialPass.allAttributed (h : PartialPass r key c t c') (hc : AllAttributed c) :
    AllAttributed c' := by
  cases hsb : c.find? .sandbox key with
  | none =>
    have hread : ∀ e ∈ t, e.1.target = none := by
      intro e he
      cases h.calls e he with
      | absent hread => exact hread
      | live sb hstored | teardown sb hstored => exact nomatch hsb.symm.trans hstored
    refine Prog.Visits.preserves (P := fun op _ => op.target = none) h hread ?_ hc
    intro op c₁ a c₂ hop hs hc₁ key' sb' hsb' hlive hprofile sa hsa
    rw [hs.find? (by simp [hop])] at hsb' hsa
    exact hc₁ key' sb' hsb' hlive hprofile sa hsa
  | some sb =>
    obtain rfl := key_of_find? hsb
    have hcalls : ∀ e ∈ t, AccountCall sb e.1 e.2 := Prog.Visits.wp h (reconcile_accounts hsb)
    have hstart : Attributing sb c := by
      refine ⟨fun o ho => ?_, fun o ho hlive => ?_, hc⟩
      · rw [Option.some.inj (hsb.symm.trans ho)]
      · rwa [Option.some.inj (hsb.symm.trans ho)]
    exact (Prog.Visits.preserves h hcalls (fun _ _ _ _ hop hs hc₁ => hc₁.step hop hs) hstart).attributed

/-- A pass over a live sandbox leaves its account standing for it exactly when there was none, or
one that already did. -/
theorem Attributed.pass_iff (hsb : c.find? .sandbox sb.key = some sb) (hlive : sb.deleting = false)
    (h : PartialPass r sb.key c t c') :
    Attributed c' sb ↔ c.find? .serviceAccount (accountKey sb.key) = none ∨
      ∃ sa, c.find? .serviceAccount (accountKey sb.key) = some sa ∧
        ServiceAccount.standsFor sa sb := by
  have hcalls : ∀ e ∈ t, AccountCall sb e.1 e.2 := Prog.Visits.wp h (reconcile_accounts hsb)
  cases hsa : c.find? .serviceAccount (accountKey sb.key) with
  | none =>
    have hstart : Attributed c sb := fun sa hsa' => nomatch hsa.symm.trans hsa'
    refine iff_of_true (Prog.Visits.preserves (I := (Attributed · sb)) h hcalls ?_ hstart) (Or.inl rfl)
    intro op c₁ a c₂ hop hs hc₁ sa' hsa'
    rcases hop.origin hs hsa' with ⟨sa, hsa, hannotations⟩ | ⟨-, -, hstands⟩
    · exact ServiceAccount.standsFor_congr hannotations rfl rfl (hc₁ sa hsa)
    · exact hstands hlive
  | some sa =>
    have hkept : c'.find? .serviceAccount (accountKey sb.key) = some sa :=
      Prog.Visits.preserves (I := (·.find? .serviceAccount (accountKey sb.key) = some sa)) h hcalls
        (fun _ _ _ _ hop hs hkept => hop.keeps hlive hs hkept) hsa
    constructor
    · exact fun hc' => Or.inr ⟨sa, rfl, hc' sa hkept⟩
    · rintro (hnone | ⟨sa₁, hsome, hstands⟩) sa' hsa'
      · cases hnone
      · cases hsome
        obtain rfl := Option.some.inj (hkept.symm.trans hsa')
        exact hstands

end Passes

/-! ## Runs -/

/-- One step of a run of the controller and of the others, who edit sandboxes as `Allowed` says,
and do not write the accounts of sandboxes. -/
inductive AccountStep (r : SandboxReconciler) (Allowed : Call → Cluster → Prop) : Cluster → Cluster → Prop
  | pass {key : ObjectKey} {c c' : Cluster} {t : List (Call × Cluster)}
    (h : PartialPass r key c t c') : AccountStep r Allowed c c'
  | edit {op : Call} {c : Cluster} (haccounts : ∀ ns n, ¬Rewrites .serviceAccount ⟨ns, saName n⟩ op)
    (hallowed : Allowed op c) : AccountStep r Allowed c (handle op c).2
  | tick {c : Cluster} (t : Time) (h : c.clock ≤ t) : AccountStep r Allowed c { c with clock := t }
  | podGone {c : Cluster} (key : ObjectKey) : AccountStep r Allowed c (c.remove .pod key)

def AccountRun (r : SandboxReconciler) (Allowed : Call → Cluster → Prop) : Cluster → Cluster → Prop :=
  Relation.ReflTransGen (AccountStep r Allowed)

/-- The call leaves each sandbox that has a profile with the owner and the profile it had, or with
those of its account, if it has one. -/
def KeepsAttribution (op : Call) (c : Cluster) : Prop :=
  ∀ key sb', (handle op c).2.find? .sandbox key = some sb' → sb'.spec.accessProfile ≠ "" →
    (∃ sb, c.find? .sandbox key = some sb ∧ sb'.spec.owner.name = sb.spec.owner.name ∧
      sb'.spec.accessProfile = sb.spec.accessProfile) ∨ Attributed c sb'

theorem AllAttributed.edit {op : Call} {c : Cluster} (hc : AllAttributed c)
    (haccounts : ∀ ns n, ¬Rewrites .serviceAccount ⟨ns, saName n⟩ op)
    (hop : KeepsAttribution op c) : AllAttributed (handle op c).2 := by
  intro key sb' hsb' hlive hprofile sa' hsa'
  obtain ⟨sa, hsa, hannotations⟩ := account_stays (step_handle op c) hsa' (haccounts _ _)
  rcases hop key sb' hsb' hprofile with ⟨sb, hsb, howner, hname⟩ | hattributed
  · have hlive₀ := live_before (step_handle op c) hsb hsb' hlive
    have hkey : sb.key = sb'.key := (key_of_find? hsb).trans (key_of_find? hsb').symm
    exact ServiceAccount.standsFor_congr hannotations howner hname
      (hc key sb hsb hlive₀ (hname ▸ hprofile) sa (hkey ▸ hsa))
  · exact ServiceAccount.standsFor_congr hannotations rfl rfl (hattributed sa hsa)

theorem AccountRun.attributed {r : SandboxReconciler} {c₀ c : Cluster}
    (hrun : AccountRun r KeepsAttribution c₀ c) (hc₀ : AllAttributed c₀) : AllAttributed c := by
  induction hrun with
  | refl => exact hc₀
  | @tail c₁ c₂ _ hstep ih =>
    cases hstep with
    | pass h => exact h.allAttributed ih
    | edit haccounts hop => exact ih.edit haccounts hop
    | tick t _ => exact ih
    | podGone key =>
      have hsame : ∀ k key', k ≠ .pod → (c₁.remove .pod key).find? k key' = c₁.find? k key' :=
        fun k key' hk => find?_remove_ne c₁ .pod key fun he => hk (Prod.mk.inj he).1
      intro key' sb hsb hlive hprofile sa hsa
      rw [hsame _ _ (by simp)] at hsb hsa
      exact ih key' sb hsb hlive hprofile sa hsa

/-- After an error-free pass over a sandbox with a permitted profile its account, which is there if
the pass was not stopped at an earlier gate, names the owner and the profile exactly when before
the pass there was no account, or one that already named them; so it does in every run in which
no edit gives a sandbox another owner or another profile than those of its account. -/
theorem account_attributed_iff (r : SandboxReconciler) (c c' : Cluster) (t : List (Call × Cluster))
    (result : Result) (sb : Sandbox) (profile : AccessProfile)
    (hsb : c.find? .sandbox sb.key = some sb) (hlive : sb.deleting = false)
    (hgrants : Grants c sb profile) (hpass : Pass r sb.key c t (.ok result) c') :
    (Attributed c' sb ↔ c.find? .serviceAccount (accountKey sb.key) = none ∨
      ∃ sa, c.find? .serviceAccount (accountKey sb.key) = some sa ∧
        ServiceAccount.standsFor sa sb) ∧
    (∀ tpl, GatesOpen c sb tpl →
      (c'.find? .serviceAccount (accountKey sb.key)).isSome = true) ∧
    ∀ c₀, AllAttributed c₀ → AccountRun r KeepsAttribution c₀ c → Attributed c' sb := by
  have hiff := Attributed.pass_iff hsb hlive hpass.visits
  refine ⟨hiff, fun tpl hopen => ?_, fun c₀ hc₀ hrun => hiff.mpr ?_⟩
  · exact (hpass.wp (reconcile_accounts hsb)).2 hlive tpl profile hopen hgrants
  · have hbefore := hrun.attributed hc₀ sb.key sb hsb hlive hgrants.named
    cases hsa : c.find? .serviceAccount (accountKey sb.key) with
    | none => exact Or.inl rfl
    | some sa => exact Or.inr ⟨sa, rfl, hbefore sa hsa⟩

namespace Tenants

/-- The team's sandbox has its account, from a first pass. -/
def minted : Cluster :=
  (runPass Team.reconciler Team.key granting).2

/-- The sandbox is handed over to another owner. -/
def handedOver : Cluster :=
  (handle (.patch .sandbox Team.key fun spec => { spec with owner := { name := "bob" } })
    minted).2

theorem granting_attributed : AllAttributed granting :=
  fun _ _ _ _ _ _ hsa => nomatch mem_of_find? hsa

end Tenants

/-- The second pass over the team's sandbox. -/
theorem account_attributed_minted : ∃ sb result c', Tenants.minted.find? .sandbox Team.key = some sb ∧
    Pass Team.reconciler Team.key Tenants.minted
      (passTrace Team.reconciler Team.key Tenants.minted) (.ok result) c' ∧
    (c'.find? .serviceAccount (accountKey sb.key)).isSome = true ∧ Attributed c' sb := by
  have hsandbox : (Tenants.minted.find? .sandbox Team.key).any (fun sb =>
      sb.deleting = false ∧ sb.metadata.namespaceName = "team" ∧ sb.spec.accessProfile = "editor" ∧
      ((runPass Team.reconciler Team.key Tenants.minted).2.find? .serviceAccount
        (accountKey sb.key)).isSome) = true := by decide +kernel
  have hprofile : (Tenants.minted.find? .accessProfile ⟨"", "editor"⟩).any (fun profile =>
      profile.spec.allowedNamespaces.contains "team") = true := by decide +kernel
  have hpass : (runPass Team.reconciler Team.key Tenants.minted).1.toOption.isSome = true := by
    decide +kernel
  obtain ⟨sb, hsb, h⟩ := (Option.any_eq_true _ _).mp hsandbox
  obtain ⟨hlive, hns, hname, hstored⟩ := of_decide_eq_true h
  obtain ⟨profile, hfound, hallowed⟩ := (Option.any_eq_true _ _).mp hprofile
  obtain ⟨result, hresult⟩ := Option.isSome_iff_exists.mp hpass
  have hkey := key_of_find? hsb
  have hgrants : Grants Tenants.minted sb profile :=
    ⟨by simp [hname], hname ▸ hfound, by simpa [hns] using hallowed⟩
  have hrun : Pass Team.reconciler sb.key Tenants.minted
      (passTrace Team.reconciler Team.key Tenants.minted) (.ok result)
      (runPass Team.reconciler Team.key Tenants.minted).2 := by
    rw [hkey]
    exact pass_of_runPass hresult
  refine ⟨sb, result, _, hsb, pass_of_runPass hresult, hstored, ?_⟩
  refine (account_attributed_iff Team.reconciler Tenants.minted _ _ result sb profile (hkey ▸ hsb)
    hlive hgrants hrun).2.2 Tenants.granting Tenants.granting_attributed ?_
  exact Relation.ReflTransGen.single (.pass (partialPass_runPass _ _ _))

/-- The pass after the hand-over leaves the account with the name of the first owner. -/
theorem account_stale_owner : ∃ sb result c' sa,
    AccountRun Team.reconciler (fun _ _ => True) Tenants.granting Tenants.handedOver ∧
    Tenants.handedOver.find? .sandbox Team.key = some sb ∧
    (∃ profile, Grants Tenants.handedOver sb profile) ∧
    Pass Team.reconciler Team.key Tenants.handedOver
      (passTrace Team.reconciler Team.key Tenants.handedOver) (.ok result) c' ∧
    c'.find? .serviceAccount (accountKey sb.key) = some sa ∧
    sb.spec.owner.name = "bob" ∧
    sa.metadata.annotations.lookup "kubepark.dev/owner" ≠ some sb.spec.owner.name := by
  have hsandbox : (Tenants.handedOver.find? .sandbox Team.key).any (fun sb =>
      sb.metadata.namespaceName = "team" ∧ sb.spec.accessProfile = "editor" ∧
      sb.spec.owner.name = "bob" ∧
      ((runPass Team.reconciler Team.key Tenants.handedOver).2.find? .serviceAccount
        (accountKey sb.key)).any (fun sa =>
          sa.metadata.annotations.lookup "kubepark.dev/owner" ≠ some sb.spec.owner.name)) = true := by
    decide +kernel
  have hprofile : (Tenants.handedOver.find? .accessProfile ⟨"", "editor"⟩).any (fun profile =>
      profile.spec.allowedNamespaces.contains "team") = true := by decide +kernel
  have hpass : (runPass Team.reconciler Team.key Tenants.handedOver).1.toOption.isSome = true := by
    decide +kernel
  obtain ⟨sb, hsb, h⟩ := (Option.any_eq_true _ _).mp hsandbox
  obtain ⟨hns, hname, howner, haccount⟩ := of_decide_eq_true h
  obtain ⟨profile, hfound, hallowed⟩ := (Option.any_eq_true _ _).mp hprofile
  obtain ⟨result, hresult⟩ := Option.isSome_iff_exists.mp hpass
  obtain ⟨sa, hsa, hstale⟩ := (Option.any_eq_true _ _).mp haccount
  refine ⟨sb, result, _, sa, ?_, hsb, ⟨profile, by simp [hname], hname ▸ hfound, ?_⟩,
    pass_of_runPass hresult, hsa, howner, of_decide_eq_true hstale⟩
  · refine Relation.ReflTransGen.tail (Relation.ReflTransGen.single
      (.pass (partialPass_runPass _ Team.key Tenants.granting))) (.edit ?_ trivial)
    rintro ns n (⟨o, hop, -⟩ | ⟨o, hop, -⟩ | ⟨change, hop⟩) <;> cases hop
  · simpa [hns] using hallowed

end Kubepark

import Kubepark.RunningClocks

/-!
# The idle deadline

A sandbox that nobody uses is suspended by the pass that finds its idle clock too far back, and
that pass has to be asked for : the one before it returns the delay after which to come back.
So two things must hold. A Running sandbox has a clock (`Reached.allClocked`), or no pass would
ever ask. And the delay reaches past the deadline : `ComesBack` is what a pass returns, a remainder
that is clamped below, and the comparison of the pass after it is strict.

`idle_suspension_timely` puts the two together. A sandbox that is being deleted is not left
Running, for a Running sandbox has its finalizer on (`Pass.live_of_running`). A pass keeps its own
gates open (`Pass.gatesOpen`), so that time alone does not change which branch the next one takes.
-/

namespace Kubepark

open ApiServer Client SessionReconciler SandboxReconciler Routine

open Prog (Timeline lagging Pool PoolStep)

/-! ## When a pass comes back -/

/-- Where the sandbox is left Running and no session keeps it up, the pass comes back when its idle
timeout has elapsed, and not within a second. -/
def ComesBack (c : Cluster) (sb : Sandbox) (tpl : SandboxTemplate) (result : Result)
    (st' : SandboxStatus) : Prop :=
  st'.phase = .running → activeSessions c sb = 0 → 0 < effectiveIdleTimeout sb tpl →
    ∀ last, st'.lastActivityTime = some last →
      result.requeueAfter = max (effectiveIdleTimeout sb tpl - (c.clock - last)) second

theorem comesBack_of_phase {c : Cluster} {sb : Sandbox} {tpl : SandboxTemplate} {result : Result}
    {st' : SandboxStatus} (h : st'.phase ≠ .running) : ComesBack c sb tpl result st' :=
  fun hrunning => absurd hrunning h

section Machine

variable (r : SandboxReconciler) (sb : Sandbox) (tpl : SandboxTemplate) {st : SandboxStatus}
  {c : Cluster}

theorem ends_suspend_phase : (suspend sb).Ends Step (fun _ st' _ => st'.phase ≠ .running) st c := by
  refine wp_post (wp_suspend sb (fun _ _ _ => trivial) fun _ _ _ => trivial) ?_
  rintro _ st' c' ⟨-, -, ⟨-, -, hphase⟩ | ⟨-, -, -, -, -, hphase⟩⟩ <;> simp [hphase]

/-- `run` asks to be called again only while the pod is recreated. -/
theorem ends_run_requeue (currentHash serviceAccount : String) :
    (r.run sb tpl currentHash serviceAccount).Ends Step
      (fun result st' _ => result.requeueAfter = 0 ∨ st'.phase ≠ .running) st c := by
  refine wp_bind.mpr (wp_getOptional.mpr ⟨trivial, ?_⟩)
  cases c.find? .pod (podKey sb) with
  | none =>
    exact wp_bind.mpr (wp_createIfAbsent.mpr ⟨trivial, fun _ => Or.inl rfl⟩)
  | some pod =>
    refine wp_bind.mpr (wp_modify.mpr ?_)
    refine wp_ite (fun _ => ?_) fun _ => ?_
    · unfold runDead
      refine wp_ite (fun _ => Or.inr nofun) fun _ => ?_
      exact wp_bind.mpr (wp_deleteIfPresent.mpr ⟨trivial, Or.inr nofun⟩)
    · refine wp_ite (fun _ => ?_) fun _ => ?_
      · refine wp_bind.mpr (wp_runReady sb pod (fun _ _ _ => trivial) ?_)
        intro st₁ _
        exact wp_bind.mpr (wp_reportDrift sb currentHash fun _ _ => Or.inl rfl)
      · refine wp_bind.mpr (wp_runPending sb pod fun st₁ _ => ?_)
        exact wp_bind.mpr (wp_reportDrift sb currentHash fun _ _ => Or.inl rfl)

theorem ends_driveState_requeue (serviceAccount : String) :
    (r.driveState sb tpl serviceAccount).Ends Step
      (fun result st' _ => ComesBack c sb tpl result st') st c := by
  have hsuspend : ∀ st₁, (suspend sb).Ends Step
      (fun result st' _ => ComesBack c sb tpl result st') st₁ c := fun st₁ =>
    wp_post (ends_suspend_phase sb) fun _ _ _ => comesBack_of_phase
  refine wp_ite (fun _ => hsuspend st) fun _ => ?_
  refine wp_bind.mpr (wp_bind.mpr ?_)
  refine wp_list.mpr ⟨trivial, ?_⟩
  refine wp_bind.mpr (wp_modify.mpr ?_)
  refine wp_bind.mpr (wp_record.mpr ?_)
  refine wp_bind.mpr (wp_now.mpr ⟨trivial, ?_⟩)
  refine wp_ite (fun _ => hsuspend _) fun _ => ?_
  refine wp_bind.mpr (wp_mono (wp_preserves
    (I := fun c' => c'.clock = c.clock) (fun _ _ _ _ _ hs h => hs.clock.trans h)
    (ends_run_requeue r sb tpl _ serviceAccount) rfl) (fun _ _ _ => trivial) ?_)
  rintro result st' c' ⟨hresult, hclock⟩
  refine wp_bind.mpr (wp_record.mpr ?_)
  refine wp_bind.mpr (wp_now.mpr ⟨trivial, ?_⟩)
  intro hrunning hactive htimeout last hlast
  have hzero : result.requeueAfter = 0 := hresult.resolve_right (not_not.mpr hrunning)
  have hcond : result.requeueAfter = 0 ∧ activeSessions c sb = 0 ∧
      0 < effectiveIdleTimeout sb tpl ∧ st'.phase = .running :=
    ⟨hzero, hactive, htimeout, hrunning⟩
  rw [hclock]
  show (idleRequeue result (activeSessions c sb) _ st' _).requeueAfter = _
  simp only [idleRequeue, hlast, if_pos hcond]

end Machine

theorem ComesBack.congr {c c₁ : Cluster} {sb : Sandbox} {tpl : SandboxTemplate} {result : Result}
    {st' : SandboxStatus} (hc : SameOutside preparedKinds c c₁)
    (h : ComesBack c₁ sb tpl result st') : ComesBack c sb tpl result st' := by
  have hsessions : activeSessions c₁ sb = activeSessions c sb := by
    simp only [activeSessions, hc.objs (show Kind.sandboxSession ∉ preparedKinds by decide)]
  unfold ComesBack at h ⊢
  rwa [hsessions, hc.clock] at h

section Pass

variable {r : SandboxReconciler} {sb sb' : Sandbox} {tpl : SandboxTemplate} {c c' : Cluster}
  {t : List (Call × Cluster)} {result : Result}

theorem ends_reconcileLive_requeue (hsb : c.find? .sandbox sb.key = some sb)
    (hlive : sb.deleting = false)
    (htpl : c.find? .sandboxTemplate ⟨"", sb.spec.template⟩ = some tpl) :
    (r.reconcileLive sb).Ends Step (fun result _ c' => ∀ sb', c'.find? .sandbox sb.key = some sb' →
      ComesBack c sb tpl result sb'.status) () c := by
  refine wp_reconcileLive_of (R := fun c₁ _ out c₂ => Routine.okPost (fun result st' c' =>
    SameOutside (.pod :: gateKinds) c₁ c' ∧ ComesBack c sb tpl result st') out c₂)
    r (fun _ _ _ _ _ => id) hsb hlive trivial ?_ ?_ ?_ ?_
  · intro c₁ sb₁ hprep
    refine wp_reconcileSandbox r sb (fun _ _ _ _ _ => id) (fun _ _ _ _ _ => trivial) ?_ ?_
    · intro _ result st' c' hst' _ hc'
      have hphase : st'.phase = .pending := congrArg (·.1) hst'
      refine ⟨hc'.mono fun _ hk => List.mem_cons_of_mem _ hk, comesBack_of_phase ?_⟩
      simp [hphase]
    · intro tpl' hopen serviceAccount st₂ c₂ _ hc₂ _
      obtain rfl : tpl' = tpl := Option.some.inj
        (hopen.template.symm.trans ((hprep.template_eq _).trans htpl))
      refine wp_mono (wp_and (ends_driveState_requeue r sb tpl' serviceAccount)
        (driveState_outcome r sb tpl' serviceAccount)) (fun _ _ _ => trivial) ?_
      rintro result st' c' ⟨hback, -, hc'⟩
      refine ⟨(hc₂.mono fun _ hk => List.mem_cons_of_mem _ hk).trans (hc'.mono (by simp)), ?_⟩
      exact hback.congr (hprep.sameOutside hc₂)
  · exact fun _ _ _ _ _ _ => trivial
  · intro c₁ sb₁ result st' c₂ hprep hR
    exact (hR.1.find? (by decide) _).trans hprep.stored
  · intro c₁ sb₁ result st' c₂ c' rv hprep hR hstored _ _ sb' hsb'
    obtain rfl := Option.some.inj (hstored.symm.trans hsb')
    exact hR.2

/-- What a pass over a live sandbox returns. -/
theorem Pass.comesBack (hpass : Pass r sb.key c t (.ok result) c')
    (hsb : c.find? .sandbox sb.key = some sb) (hlive : sb.deleting = false)
    (htpl : c.find? .sandboxTemplate ⟨"", sb.spec.template⟩ = some tpl)
    (hsb' : c'.find? .sandbox sb.key = some sb') : ComesBack c sb tpl result sb'.status := by
  have hpost : (r.reconcile sb.key).Ends Step (fun result _ c' => ∀ sb',
      c'.find? .sandbox sb.key = some sb' → ComesBack c sb tpl result sb'.status) () c :=
    wp_reconcile_of_live r hsb hlive trivial (ends_reconcileLive_requeue hsb hlive htpl)
  exact (hpass.wp hpost).2 sb' hsb'

end Pass

/-! ## Sandboxes that are being deleted -/

section Deleted

variable {sb : Sandbox} {c : Cluster} {σ : Type} {st : σ}

/-- Only a write of its status makes a sandbox Running. -/
theorem NoStatusWrite.phase {op : Call} {c' : Cluster} {a : Resp Spec Status op} {key : ObjectKey}
    (hop : NoStatusWrite op) (hs : Step op c a c')
    (h : ∀ sb, c.find? .sandbox key = some sb → sb.status.phase ≠ .running) :
    ∀ sb', c'.find? .sandbox key = some sb' → sb'.status.phase ≠ .running := by
  intro sb' hsb'
  cases hs.written hsb' with
  | kept hold => exact h sb' hold
  | created o _ _ _ h' =>
    subst h'
    nofun
  | statusUpdated old o hop' =>
    subst hop'
    exact hop.elim
  | statusPatched old change hop' =>
    subst hop'
    exact hop.elim
  | updated old _ _ _ hold h' | patched old _ _ hold h' | terminated old _ _ hold _ _ h' =>
    subst h'
    exact h old hold

theorem ends_phase_of_frame {α τ : Type} {x : ClientM σ α} {f : σ → τ} {key : ObjectKey}
    (hx : x.Frame NoStatusWrite f)
    (h : ∀ sb', c.find? .sandbox key = some sb' → sb'.status.phase ≠ .running) :
    x.Ends Step (fun _ _ c' => ∀ sb', c'.find? .sandbox key = some sb' →
      sb'.status.phase ≠ .running) st c := by
  have hcalls : x.Always Step (fun op _ => NoStatusWrite op) st c := hx.always fun _ _ => id
  exact wp_mono (wp_preserves (fun _ _ _ _ hop hs => hop.phase hs) hcalls h)
    (fun _ _ _ => trivial) fun _ _ _ h => h.2

/-- A sandbox that is torn down is not left Running. -/
theorem ends_finalize_phase (hsb : c.find? .sandbox sb.key = some sb)
    (hon : sandboxFinalizer ∈ sb.metadata.finalizers) :
    (finalize sb : ClientM σ Result).Ends Step (fun _ _ c' => ∀ sb',
      c'.find? .sandbox sb.key = some sb' → sb'.status.phase ≠ .running) st c := by
  refine wp_ite (fun hoff => ?_) fun _ => ?_
  · simp [hon] at hoff
  have hmark : (markTerminating sb : ClientM σ Sandbox).Ends Step (fun _ _ c' => ∀ sb',
      c'.find? .sandbox sb.key = some sb' → sb'.status.phase ≠ .running) st c := by
    refine wp_ite (fun hphase sb' hsb' => ?_) fun _ => ?_
    · obtain rfl := Option.some.inj (hsb.symm.trans hsb')
      simp [hphase]
    · refine wp_bind.mpr (wp_updateStatusIfPresent.mpr ⟨trivial, ?_, ?_⟩)
      · exact fun hnone => nomatch hsb.symm.trans hnone
      · intro old hold _ sb' hsb'
        obtain rfl : sb = old := Option.some.inj (hsb.symm.trans hold)
        rcases find?_write_cases hsb' with ⟨-, rfl⟩ | ⟨hne, -⟩
        · nofun
        · exact absurd rfl hne
  refine wp_bind.mpr (wp_post hmark fun sb₁ _ c₁ hc₁ => ?_)
  refine ends_phase_of_frame (f := id) ?_ hc₁
  have hfree : ∀ {ks : List Kind}, Kind.sandbox ∉ ks → ∀ op : Call, op.Within ks →
      NoStatusWrite op := fun hks _ h => noStatusWrite_of_within h hks
  refine (frame_forEach (fun _ => frame_deleteIfPresent trivial) _).bind fun _ => ?_
  refine ((frame_gcRBAC sb₁ none).imp fun op h => hfree (by decide) op h.within).bind fun _ => ?_
  refine ((frame_closeSessions sb₁).imp (hfree (by decide))).bind fun _ => ?_
  refine ((frame_applyHomeRetainPolicy sb₁).imp (hfree (by decide))).bind fun _ => ?_
  exact (frame_update trivial).bind fun _ => frame_pure _

/-- A pass leaves a sandbox Running only if it is not being deleted, unless somebody has taken the
finalizer off. -/
theorem Pass.live_of_running {r : SandboxReconciler} {sb' : Sandbox} {c' : Cluster}
    {t : List (Call × Cluster)} {result : Result} (hpass : Pass r sb.key c t (.ok result) c')
    (hsb : c.find? .sandbox sb.key = some sb) (hclocked : Clocked sb)
    (hsb' : c'.find? .sandbox sb.key = some sb') (hrunning : sb'.status.phase = .running) :
    sb.deleting = false := by
  by_contra hdeleting
  have hphase : (r.reconcile sb.key).Ends Step (fun _ _ c' => ∀ sb',
      c'.find? .sandbox sb.key = some sb' → sb'.status.phase ≠ .running) () c := by
    refine wp_bind.mpr (wp_getOptional.mpr ⟨trivial, ?_⟩)
    rw [hsb]
    refine wp_ite (fun _ => ?_) fun hlive => absurd (Bool.eq_false_iff.mpr hlive) hdeleting
    by_cases hon : sandboxFinalizer ∈ sb.metadata.finalizers
    · exact ends_finalize_phase hsb hon
    · refine wp_ite (fun _ sb' hsb' hrunning => ?_) fun hoff => ?_
      · obtain rfl := Option.some.inj (hsb.symm.trans hsb')
        exact hon (hclocked hrunning).2
      · simp [hon] at hoff
  exact (hpass.wp hphase).2 sb' hsb' hrunning

end Deleted

/-! ## The pass after -/

section After

variable {r : SandboxReconciler} {sb sb' : Sandbox} {tpl : SandboxTemplate} {c c' : Cluster}
  {t : List (Call × Cluster)} {result : Result}

/-- A pass that is let through, over a sandbox that is idle or stopped, suspends it. -/
theorem PassOutcome.suspended_of (h : PassOutcome c sb c' sb') (hopen : GatesOpen c sb tpl)
    (hsuspends : Suspends c sb tpl sb.status.lastActivityTime) :
    sb'.status.phase = .suspended ∨ sb'.status.phase = .suspending := by
  rcases h.result with ⟨hblocked, -⟩ | ⟨tpl', hopen', houtcome⟩
  · exact absurd hopen (hblocked tpl)
  obtain rfl := gatesOpen_tpl_unique sb hopen hopen'
  cases houtcome with
  | suspended _ _ _ hphase => exact Or.inl hphase
  | suspending _ _ _ _ _ _ hphase => exact Or.inr hphase
  | created _ hrun | dead _ _ hrun | ready _ hrun | pending _ hrun => exact absurd hsuspends hrun

/-- A pass over `sb` rewrites `sb` and no other sandbox, and its claim guard sees what it saw. -/
def GuardKept (c : Cluster) (sb : Sandbox) (c' : Cluster) : Prop :=
  (∃ status finalizers rv,
    c'.find? .sandbox sb.key = some (stamped { sb with status := status } finalizers rv)) ∧
  ∀ claim, conflictOf c' sb claim = conflictOf c sb claim

theorem GuardKept.write {c₁ : Cluster} (h : GuardKept c sb c₁) (status : SandboxStatus)
    (finalizers : List String) (rv : Nat) :
    GuardKept c sb (c₁.write .sandbox (stamped { sb with status := status } finalizers rv)) := by
  obtain ⟨⟨status₁, finalizers₁, rv₁, hstored⟩, hguard⟩ := h
  have hself : c₁.find? .sandbox (stamped { sb with status := status₁ } finalizers₁ rv₁).key =
      some (stamped { sb with status := status₁ } finalizers₁ rv₁) := hstored
  have hwritten := conflictOf_write (stamped { sb with status := status } finalizers rv) hself
    rfl rfl
  exact ⟨⟨status, finalizers, _, find?_write_self c₁ .sandbox
    (stamped { sb with status := status } finalizers rv)⟩,
    fun claim => (hwritten claim).trans (hguard claim)⟩

theorem GuardKept.congr {c₁ c₂ : Cluster} {ks : List Kind} (h : GuardKept c sb c₁)
    (hc₂ : SameOutside ks c₁ c₂) (hks : Kind.sandbox ∉ ks) : GuardKept c sb c₂ := by
  refine ⟨?_, fun claim => ?_⟩
  · rw [hc₂.find? hks]
    exact h.1
  · rw [← h.2 claim]
    simp only [conflictOf, claimCandidates, hc₂.find? hks, hc₂.objs hks]

theorem Pass.guardKept {result : Except ApiError Result} (hpass : Pass r sb.key c t result c')
    (hsb : c.find? .sandbox sb.key = some sb) (hlive : sb.deleting = false) :
    GuardKept c sb c' := by
  refine hpass.preserves hsb hlive (fun op c₁ a c₂ hop hs h => ?_)
    ⟨⟨_, _, _, hsb⟩, fun _ => rfl⟩
  cases hop with
  | read hread => exact h.congr (hs.sameOutside (within_read hread)) List.not_mem_nil
  | finalizer =>
    rcases hs.state with rfl | rfl
    · exact h
    have hadded : updated sb { sb with
        metadata.finalizers := sb.metadata.finalizers ++ [sandboxFinalizer] } =
        stamped sb (sb.metadata.finalizers ++ [sandboxFinalizer]) sb.metadata.resourceVersion := by
      simp [updated, stamped]
    have hfound : c.find? .sandbox (Object.key { sb with
        metadata.finalizers := sb.metadata.finalizers ++ [sandboxFinalizer] }) = some sb := hsb
    simp only [handle, hfound, ↓reduceIte]
    rw [hadded, settle_of_live (show (stamped sb (_ ++ _) _).deleting = false from hlive)]
    exact h.write sb.status _ _
  | gate hgate _ =>
    exact h.congr (hs.sameOutside hgate.within) fun hk =>
      absurd (Gate.kinds_subset _ _ hk) (by decide)
  | pod _ _ hpod => exact h.congr (hs.sameOutside hpod.within) (by decide)
  | status finalizers rv status =>
    rcases hs.updateStatus_cases with rfl | ⟨old, hold, -, rfl⟩
    · exact h
    obtain ⟨status₁, finalizers₁, rv₁, hstored⟩ := h.1
    obtain rfl := Option.some.inj (hold.symm.trans hstored)
    exact h.write status finalizers₁ rv₁

/-- A pass keeps the gates open. -/
theorem Pass.gatesOpen (hpass : Pass r sb.key c t (.ok result) c')
    (hsb : c.find? .sandbox sb.key = some sb) (hlive : sb.deleting = false)
    (hopen : GatesOpen c sb tpl) (houtcome : PassOutcome c sb c' sb') : GatesOpen c' sb' tpl := by
  obtain ⟨finalizers, rv, hstamp⟩ := houtcome.stamp
  have hkept := houtcome.outside
  have hhome : homeOpen c' sb = true := by
    have hbefore := hopen.home
    unfold homeOpen at hbefore ⊢
    cases hclaim : existingClaim sb with
    | none => rfl
    | some claim =>
      simp only [hclaim, decide_eq_true_eq] at hbefore ⊢
      refine ⟨((hpass.guardKept hsb hlive).2 claim).trans hbefore.1, ?_⟩
      obtain ⟨pvc, hpvc⟩ := Option.isSome_iff_exists.mp hbefore.2
      have hstays : c'.find? .persistentVolumeClaim ⟨sb.metadata.namespaceName, claim⟩ = some pvc :=
        hpass.preserves hsb hlive
          (fun _ _ _ _ hop hs => hs.keeps (hop.onlyCreates (by decide))) hpvc
      simp [hstays]
  have hprofile : profilePermits c' sb = true := by
    rw [← hopen.profile]
    simp only [profilePermits,
      hkept.find? (show Kind.accessProfile ∉ .pod :: preparedKinds by decide)]
  have hopen' : GatesOpen c' sb tpl :=
    ⟨(hkept.find? (by decide) _).trans hopen.template, hhome, hprofile⟩
  rw [hstamp]
  exact ⟨hopen'.template, hopen'.home, hopen'.profile⟩

/-- A pass that leaves the sandbox Running was let through, and has found or started its clock. -/
theorem PassOutcome.clock_of_running (h : PassOutcome c sb c' sb') (hclocked : Clocked sb)
    (hrunning : sb'.status.phase = .running) : (∃ tpl, GatesOpen c sb tpl) ∧
      ∃ last, sb'.status.lastActivityTime = some last ∧
        (last = c.clock ∨ sb.status.lastActivityTime = some last) := by
  rcases h.result with ⟨-, hpending, -⟩ | ⟨tpl, hopen, houtcome⟩
  · have hphase : sb'.status.phase = .pending := congrArg Prod.fst hpending
    exact nomatch hphase.symm.trans hrunning
  refine ⟨⟨tpl, hopen⟩, ?_⟩
  cases houtcome with
  | ready pod hrun hpod hready hpod' hphase hip hactivity =>
    split_ifs at hactivity with hnew
    · exact ⟨_, hactivity, Or.inl rfl⟩
    · have hset : sb.status.lastActivityTime ≠ none :=
        fun hnone => hnew ⟨fun hwas => (hclocked hwas).1 hnone, hnone⟩
      obtain ⟨last, hlast⟩ := Option.ne_none_iff_exists'.mp hset
      exact ⟨last, hactivity.trans hlast, Or.inr hlast⟩
  | suspended _ _ _ hphase | suspending _ _ _ _ _ _ hphase | dead _ _ _ _ _ _ _ hphase =>
    exact nomatch hphase.symm.trans hrunning
  | created _ _ _ _ _ hphase | pending _ _ _ _ _ _ hphase =>
    rcases hphase with hphase | hphase <;> exact nomatch hphase.symm.trans hrunning

/-- The sandbox that a pass has left as `sb'` is let through still, has the idle timeout it had, and
no session was opened on it or closed. -/
structure StillIdle (c₂ : Cluster) (sb' : Sandbox) (timeout : Duration) (sb₂ : Sandbox)
    (tpl₂ : SandboxTemplate) : Prop where
  stored : c₂.find? .sandbox sb'.key = some sb₂
  live : sb₂.deleting = false
  gates : GatesOpen c₂ sb₂ tpl₂
  timeout : effectiveIdleTimeout sb₂ tpl₂ = timeout
  sessions : activeSessions c₂ sb₂ = 0
  activity : sb₂.status.lastActivityTime = sb'.status.lastActivityTime

/-- Time alone changes nothing. -/
theorem Pass.stillIdle (hpass : Pass r sb.key c t (.ok result) c')
    (hsb : c.find? .sandbox sb.key = some sb) (hlive : sb.deleting = false)
    (hopen : GatesOpen c sb tpl) (houtcome : PassOutcome c sb c' sb')
    (hactive : activeSessions c sb = 0) (now : Time) :
    StillIdle { c' with clock := now } sb' (effectiveIdleTimeout sb tpl) sb' tpl := by
  have hopen' := hpass.gatesOpen hsb hlive hopen houtcome
  have hstored := houtcome.stored
  have hsessions : activeSessions c' sb = 0 := by
    rw [← hactive]
    simp only [activeSessions, houtcome.outside.objs
      (show Kind.sandboxSession ∉ .pod :: preparedKinds by decide)]
  obtain ⟨finalizers, rv, hstamp⟩ := houtcome.stamp
  rw [hstamp] at hopen' hstored ⊢
  exact ⟨hstored, hlive, ⟨hopen'.template, hopen'.home, hopen'.profile⟩, rfl, hsessions, rfl⟩

/-- A pass suspends a sandbox that is idle still when its timeout has elapsed. -/
theorem StillIdle.suspends {c₂ c₃ : Cluster} {timeout : Duration} {sb₂ : Sandbox}
    {tpl₂ : SandboxTemplate} {last : Time} (h : StillIdle c₂ sb' timeout sb₂ tpl₂)
    (hlast : sb'.status.lastActivityTime = some last) (hpositive : 0 < timeout)
    (helapsed : timeout < c₂.clock - last) (hpass : Pass r sb'.key c₂ t (.ok result) c₃) :
    ∃ sb₃, c₃.find? .sandbox sb'.key = some sb₃ ∧
      (sb₃.status.phase = .suspended ∨ sb₃.status.phase = .suspending) := by
  have hexpired : Suspends c₂ sb₂ tpl₂ sb₂.status.lastActivityTime := by
    refine Or.inr ⟨h.sessions, idleExpired_iff.mpr ⟨last, h.activity.trans hlast, ?_, ?_⟩⟩
    · rwa [h.timeout]
    · rwa [h.timeout]
  obtain ⟨sb₃, houtcome⟩ := hpass.outcome h.stored h.live
  refine ⟨sb₃, ?_, houtcome.suspended_of h.gates hexpired⟩
  rw [← key_of_find? h.stored]
  exact houtcome.stored

end After

/-- In every state that passes of both controllers reach, side by side and with reads that lag, the
Running sandboxes have their idle clock set. A pass from there, not before the last activity, that
leaves a sandbox Running with no Active session and a positive idle timeout comes back after a
second or more, and no later than the timeout. A pass later than that suspends the sandbox, if no
session was opened on it or closed and the gates are open still, and time alone changes nothing
about that. -/
theorem idle_suspension_timely (r : SandboxReconciler) (c₀ c : Cluster) (hc₀ : c₀.Versioned)
    (hidle : ∀ sb ∈ c₀.objs .sandbox, sb.status.phase ≠ .running) (hc : Reached r c₀ c) :
    (∀ key sb, c.find? .sandbox key = some sb → sb.status.phase = .running →
      sb.status.lastActivityTime ≠ none) ∧
    ∀ sb sb' tpl t result c', c.find? .sandbox sb.key = some sb →
      (∀ last, sb.status.lastActivityTime = some last → last ≤ c.clock) →
      c.find? .sandboxTemplate ⟨"", sb.spec.template⟩ = some tpl →
      Pass r sb.key c t (.ok result) c' → c'.find? .sandbox sb.key = some sb' →
      sb'.status.phase = .running → activeSessions c sb = 0 → 0 < effectiveIdleTimeout sb tpl →
        second ≤ result.requeueAfter ∧
        result.requeueAfter ≤ max (effectiveIdleTimeout sb tpl) second ∧
        (∀ now, StillIdle { c' with clock := now } sb' (effectiveIdleTimeout sb tpl) sb' tpl) ∧
        ∀ c₂ sb₂ tpl₂, StillIdle c₂ sb' (effectiveIdleTimeout sb tpl) sb₂ tpl₂ →
          c.clock + result.requeueAfter < c₂.clock →
            ∀ t₂ result₂ c₃, Pass r sb.key c₂ t₂ (.ok result₂) c₃ →
              ∃ sb₃, c₃.find? .sandbox sb.key = some sb₃ ∧
                (sb₃.status.phase = .suspended ∨ sb₃.status.phase = .suspending) := by
  have hclocked := hc.allClocked hc₀ hidle
  refine ⟨fun key sb hsb hrunning => (hclocked key sb hsb hrunning).1, ?_⟩
  intro sb sb' tpl t result c' hsb hbefore htpl hpass hsb' hrunning hactive htimeout
  have hlive := hpass.live_of_running hsb (hclocked _ sb hsb) hsb' hrunning
  obtain ⟨sb₁, houtcome⟩ := hpass.outcome hsb hlive
  obtain rfl := Option.some.inj (hsb'.symm.trans houtcome.stored)
  obtain ⟨⟨tpl', hopen⟩, last, hlast, hfrom⟩ :=
    houtcome.clock_of_running (hclocked _ sb hsb) hrunning
  obtain rfl := Option.some.inj (htpl.symm.trans hopen.template)
  have hback := hpass.comesBack hsb hlive htpl hsb' hrunning hactive htimeout last hlast
  have hpast : last ≤ c.clock := hfrom.elim Int.le_of_eq (hbefore last)
  refine ⟨?_, ?_, hpass.stillIdle hsb hlive hopen houtcome hactive, ?_⟩
  · rw [hback]
    exact Int.le_max_right _ _
  · rw [hback]
    exact Int.max_le.mpr ⟨Int.le_trans (by lia) (Int.le_max_left _ _), Int.le_max_right _ _⟩
  · intro c₂ sb₂ tpl₂ hstill hlater t₂ result₂ c₃ hpass₂
    -- The pass comes back no earlier than the timeout after the last activity.
    have hdeadline : effectiveIdleTimeout sb tpl - (c.clock - last) ≤ result.requeueAfter := by
      rw [hback]
      exact Int.le_max_left _ _
    rw [← key_of_find? hsb'] at hpass₂ ⊢
    exact hstill.suspends hlast htimeout (by lia) hpass₂

/-- The pass that sees Alice's sandbox running is a run. -/
theorem Team.reached_passed :
    Reached Team.reconciler (Team.comingUp false) Team.passed.now := by
  obtain ⟨t, hpass⟩ := Prog.exec_present (K := lagging Step Op.isRead)
    (fun op w hw => Prog.lagging_recalling step_handle Op.isRead op hw)
    (ClockThread.program Team.reconciler (.pass Team.key)) (w := .start (Team.comingUp false)) rfl
  exact ⟨_, Pool.run_start trivial hpass, rfl⟩

/-- The next pass comes back, and one later than that suspends Alice's sandbox. -/
theorem idle_suspension_of_alice : ∃ (c' : Cluster) (t : List (Call × Cluster)) (result : Result)
    (sb' : Sandbox), Pass Team.reconciler Team.key Team.passed.now t (.ok result) c' ∧
      c'.find? .sandbox Team.key = some sb' ∧ sb'.status.phase = .running ∧
      second ≤ result.requeueAfter ∧ ∀ now, Team.passed.now.clock + result.requeueAfter < now →
        ∀ t₂ result₂ c₃,
          Pass Team.reconciler Team.key { c' with clock := now } t₂ (.ok result₂) c₃ →
            ∃ sb₃, c₃.find? .sandbox Team.key = some sb₃ ∧
              (sb₃.status.phase = .suspended ∨ sb₃.status.phase = .suspending) := by
  have hquiet : ((Team.comingUp false).objs .sandbox).all
      (fun sb => sb.status.phase ≠ .running) = true := by decide +kernel
  have hstart : (Team.passed.now.find? .sandbox Team.key).any (fun sb =>
      (sb.status.lastActivityTime.all (· ≤ Team.passed.now.clock) = true ∧
        activeSessions Team.passed.now sb = 0) ∧
        (Team.passed.now.find? .sandboxTemplate ⟨"", sb.spec.template⟩).any
          (fun tpl => 0 < effectiveIdleTimeout sb tpl) = true) = true := by decide +kernel
  have hok : (runPass Team.reconciler Team.key Team.passed.now).1.toOption.isSome = true := by
    decide +kernel
  have hend : ((runPass Team.reconciler Team.key Team.passed.now).2.find? .sandbox Team.key).any
      (fun sb' => sb'.status.phase = .running) = true := by decide +kernel
  obtain ⟨sb, hsb, hstart⟩ := (Option.any_eq_true _ _).mp hstart
  obtain ⟨⟨hpast, hactive⟩, htpl⟩ := of_decide_eq_true hstart
  obtain ⟨tpl, htpl, htimeout⟩ := (Option.any_eq_true _ _).mp htpl
  obtain ⟨result, hresult⟩ := Option.isSome_iff_exists.mp hok
  obtain ⟨sb', hsb', hrunning⟩ := (Option.any_eq_true _ _).mp hend
  have hkey : sb.key = Team.key := key_of_find? hsb
  have hpass : Pass Team.reconciler Team.key Team.passed.now _ (.ok result) _ :=
    pass_of_runPass hresult
  generalize (runPass Team.reconciler Team.key Team.passed.now).2 = c',
    passTrace Team.reconciler Team.key Team.passed.now = t at hsb' hpass
  refine ⟨c', t, result, sb', hpass, hsb', of_decide_eq_true hrunning, ?_⟩
  rw [← hkey] at hsb hpass hsb' ⊢
  have hbefore : ∀ last, sb.status.lastActivityTime = some last → last ≤ Team.passed.now.clock := by
    intro last hlast
    rw [hlast, Option.all_some] at hpast
    exact of_decide_eq_true hpast
  obtain ⟨hsecond, -, hstill, hsuspends⟩ := (idle_suspension_timely Team.reconciler
    (Team.comingUp false) Team.passed.now (Team.versioned_comingUp false)
    (fun sb hsb => of_decide_eq_true (List.all_eq_true.mp hquiet sb hsb)) Team.reached_passed).2
    sb sb' tpl t result c' hsb hbefore htpl hpass hsb' (of_decide_eq_true hrunning) hactive
    (of_decide_eq_true htimeout)
  exact ⟨hsecond, fun now hnow => hsuspends _ sb' tpl (hstill now) hnow⟩

/-- The template goes, and the sessions stay. -/
theorem Team.sessions_templateDeleted (c : Cluster) (t : Time) :
    ({ templateDeleted c with clock := t } : Cluster).objs .sandboxSession =
      c.objs .sandboxSession := by
  have hdeleted : SameOutside [.sandboxTemplate] c (templateDeleted c) :=
    Step.sameOutside (step_handle _ c) (within_write rfl (by simp))
  exact hdeleted.objs (by decide)

/-- After the next pass the template is deleted, and a day goes by. -/
def Team.unshaped : Cluster :=
  { Team.templateDeleted (Team.pass Team.passed.now) with clock := 86400 * second }

/-- The pass has left Alice's sandbox Running and asked to come back, no session is opened or
closed, and the pass that comes back a day later ends without error in Pending : the gate of the
template is before the idle check. The pod is not deleted. -/
theorem idle_suspension_missed : ∃ (sb : Sandbox) (tpl : SandboxTemplate) (result result₂ : Result)
    (sb' sb₃ : Sandbox) (pod : Pod),
    Reached Team.reconciler (Team.comingUp false) Team.passed.now ∧
    Team.passed.now.find? .sandbox Team.key = some sb ∧
    Team.passed.now.find? .sandboxTemplate ⟨"", sb.spec.template⟩ = some tpl ∧
    activeSessions Team.passed.now sb = 0 ∧ 0 < effectiveIdleTimeout sb tpl ∧
    Pass Team.reconciler Team.key Team.passed.now
      (passTrace Team.reconciler Team.key Team.passed.now) (.ok result)
      (Team.pass Team.passed.now) ∧
    (Team.pass Team.passed.now).find? .sandbox Team.key = some sb' ∧ sb'.status.phase = .running ∧
    Team.passed.now.clock + result.requeueAfter < Team.unshaped.clock ∧
    Team.unshaped.objs .sandboxSession = (Team.pass Team.passed.now).objs .sandboxSession ∧
    Pass Team.reconciler Team.key Team.unshaped
      (passTrace Team.reconciler Team.key Team.unshaped) (.ok result₂) (Team.pass Team.unshaped) ∧
    (Team.pass Team.unshaped).find? .sandbox Team.key = some sb₃ ∧ sb₃.status.phase = .pending ∧
    (Team.pass Team.unshaped).find? .pod (podKey sb) = some pod ∧ pod.deleting = false := by
  have hstart : (Team.passed.now.find? .sandbox Team.key).any (fun sb =>
      (activeSessions Team.passed.now sb = 0 ∧
        (Team.passed.now.find? .sandboxTemplate ⟨"", sb.spec.template⟩).any
          (fun tpl => 0 < effectiveIdleTimeout sb tpl) = true) ∧
        ((Team.pass Team.unshaped).find? .pod (podKey sb)).any (fun pod => !pod.deleting) = true) =
      true := by decide +kernel
  have hok : ((runPass Team.reconciler Team.key Team.passed.now).1.toOption).any (fun result =>
      Team.passed.now.clock + result.requeueAfter < Team.unshaped.clock) = true := by decide +kernel
  have hrunning : ((Team.pass Team.passed.now).find? .sandbox Team.key).any
      (fun sb => sb.status.phase = .running) = true := by decide +kernel
  have hok₂ : (runPass Team.reconciler Team.key Team.unshaped).1.toOption.isSome = true := by
    decide +kernel
  have hpending : ((Team.pass Team.unshaped).find? .sandbox Team.key).any
      (fun sb => sb.status.phase = .pending) = true := by decide +kernel
  have hsessions : Team.unshaped.objs .sandboxSession =
      (Team.pass Team.passed.now).objs .sandboxSession := by
    rw [Team.unshaped]
    exact Team.sessions_templateDeleted _ _
  obtain ⟨sb, hsb, hstart⟩ := (Option.any_eq_true _ _).mp hstart
  obtain ⟨⟨hactive, htpl⟩, hpod⟩ := of_decide_eq_true hstart
  obtain ⟨tpl, htpl, htimeout⟩ := (Option.any_eq_true _ _).mp htpl
  obtain ⟨pod, hpod, hlive⟩ := (Option.any_eq_true _ _).mp hpod
  obtain ⟨result, hresult, hlater⟩ := (Option.any_eq_true _ _).mp hok
  obtain ⟨sb', hsb', hphase⟩ := (Option.any_eq_true _ _).mp hrunning
  obtain ⟨result₂, hresult₂⟩ := Option.isSome_iff_exists.mp hok₂
  obtain ⟨sb₃, hsb₃, hphase₃⟩ := (Option.any_eq_true _ _).mp hpending
  exact ⟨sb, tpl, result, result₂, sb', sb₃, pod, Team.reached_passed, hsb, htpl, hactive,
    of_decide_eq_true htimeout, pass_of_runPass hresult, hsb', of_decide_eq_true hphase,
    of_decide_eq_true hlater, hsessions, pass_of_runPass hresult₂, hsb₃,
    of_decide_eq_true hphase₃, hpod, by simpa using hlive⟩

end Kubepark

import Kubepark.PassGuarantees

/-!
# What a pass reports

`PodReport` lists what the desired-state machine makes of the conditions of the status and of
the template hash, by what it read of the pod. `wp_reconcile_report` is the whole pass over a
live sandbox, also through a cache that lags behind.

Each exit of a pass sets some of the conditions and leaves the others as they were, so a
condition that was true stays true beside a phase other than Running where its exit does not
touch it. `conditions_agree_iff` says when that happens.
-/

namespace Kubepark

open ApiServer Client SandboxReconciler Routine

/-! ## The desired-state machine -/

def readiness (pod : Pod) : ConditionStatus :=
  if podReady pod then .true else .false

/-- What is reported of a pod pinned to the hash `pinned`. -/
def drift (pinned currentHash : String) : ConditionStatus :=
  if pinned ≠ "" ∧ pinned ≠ currentHash then .true else .false

/-- What the desired-state machine makes of the report `rep`, having read the pod as `read`. -/
inductive PodReport (r : SandboxReconciler) (c : Cluster) (sb : Sandbox) (tpl : SandboxTemplate)
    (lastActivity : Option Time) (read : Option Pod) (rep rep' : Report) : Prop
  | suspended (hsuspends : Suspends c sb tpl lastActivity) (hread : read = none)
    (h : rep' = { rep with ready := some .false, podReady := some .false })
  | suspending (pod : Pod) (hsuspends : Suspends c sb tpl lastActivity) (hread : read = some pod)
    (h : rep' = rep)
  | created (hrun : ¬Suspends c sb tpl lastActivity) (hread : read = none)
    (h : rep' = { rep with
      ready := some .false, podReady := some .false, templateHash := r.templateHash tpl.spec })
  | dead (pod : Pod) (hrun : ¬Suspends c sb tpl lastActivity) (hread : read = some pod)
    (hdead : podDead pod = true) (h : rep' = { rep with podReady := some .false })
  | settled (pod : Pod) (hrun : ¬Suspends c sb tpl lastActivity) (hread : read = some pod)
    (hdead : podDead pod = false)
    (h : rep' = { rep with
      ready := some (readiness pod), podReady := some (readiness pod),
      templateOutdated := some (drift rep.templateHash (r.templateHash tpl.spec)) })

section Machine

variable (r : SandboxReconciler) (sb : Sandbox) (tpl : SandboxTemplate) {lag : Bool}
  {st : SandboxStatus} {c : Cluster} {P : Call → Cluster → Prop}

/-- A routine that reads no pod does not notice the lag. -/
theorem wp_lag {σ α τ : Type} {st : σ} {x : ClientM σ α} {Q : α → σ → Cluster → Prop} {f : σ → τ}
    (hx : x.Frame (fun op => op.reads ≠ some .pod) f) (h : x.wp Step P Q st c) :
    x.wp (LagStep lag) P Q st c :=
  hx.handler (fun _ _ _ _ hop => LagStep.step hop) h

theorem wp_now_lag {σ : Type} {st : σ} {Q : Time → σ → Cluster → Prop} (hP : P .now c)
    (hQ : Q c.clock st c) : (now : ClientM σ Time).wp (LagStep lag) P Q st c :=
  wp_lag (f := id) (frame_call (by nofun)) (wp_now.mpr ⟨hP, hQ⟩)

theorem wp_deletePod (site : String) (hP : ∀ op c', op.Within [.pod] → P op c')
    {Q : Unit → SandboxStatus → Cluster → Prop} (hQ : ∀ c', Q () st c') :
    (deleteIfPresent Kind.pod (podKey sb) site).wp (LagStep lag) P Q st c := by
  have hframe : (deleteIfPresent Kind.pod (podKey sb) site : SandboxM Unit).Frame
      (·.Within [.pod]) id := frame_deleteIfPresent (within_write rfl (by simp))
  refine hframe.wp_of_forall (fun op c' h => hP op c' h) fun _ st' c' hst' => ?_
  obtain rfl : st' = st := hst'
  exact hQ c'

theorem wp_suspend_report (hP : ∀ op c', op.Within [.pod] → P op c') :
    (suspend sb).wp (LagStep lag) P (fun _ st' _ =>
      (podRead lag c (podKey sb) = none ∧
        report st' = { report st with ready := some .false, podReady := some .false }) ∨
      ∃ pod, podRead lag c (podKey sb) = some pod ∧ report st' = report st) st c := by
  refine wp_bind.mpr (wp_modify.mpr ?_)
  refine wp_bind.mpr (wp_getOptional_pod (hP _ _ (within_read rfl)) ?_)
  cases hread : podRead lag c (podKey sb) with
  | none =>
    refine Or.inl ⟨rfl, ?_⟩
    simp [report]
  | some pod =>
    refine wp_bind.mpr (wp_modify.mpr ?_)
    refine wp_ite (fun _ => Or.inr ⟨pod, rfl, rfl⟩) fun _ => ?_
    refine wp_bind.mpr (wp_deletePod sb "suspend" hP fun c' => ?_)
    exact Or.inr ⟨pod, rfl, rfl⟩

theorem wp_runReady_report (pod : Pod) (hP : ∀ op c', op.Within [.pod] → P op c')
    (hready : podReady pod = true) {Q : Unit → SandboxStatus → Cluster → Prop}
    (h : ∀ st', report st' = { report st with
      ready := some (readiness pod), podReady := some (readiness pod) } → Q () st' c) :
    (runReady sb pod).wp (LagStep lag) P Q st c := by
  refine wp_bind.mpr (wp_now_lag (hP _ _ (within_read rfl)) (h _ ?_))
  simp [report, readiness, hready]

theorem wp_runPending_report (pod : Pod) (hready : podReady pod = false)
    {Q : Unit → SandboxStatus → Cluster → Prop}
    (h : ∀ st', report st' = { report st with
      ready := some (readiness pod), podReady := some (readiness pod) } → Q () st' c) :
    (runPending sb pod).wp (LagStep lag) P Q st c := by
  refine h _ ?_
  simp [report, readiness, hready]

theorem wp_reportDrift_report (st : SandboxStatus) (currentHash : String)
    {Q : Unit → SandboxStatus → Cluster → Prop}
    (h : ∀ st', report st' = { report st with
      templateOutdated := some (drift st.templateHash currentHash) } → Q () st' c) :
    (reportDrift sb currentHash).wp (LagStep lag) P Q st c := by
  refine wp_bind.mpr (wp_record.mpr ?_)
  refine wp_ite (fun hdrift => h _ ?_) fun hdrift => h _ ?_
  · simp [report, drift, hdrift]
  · have hcurrent : drift st.templateHash currentHash = .false := if_neg hdrift
    simp [report, hcurrent]

theorem wp_run_report (serviceAccount : String) (hP : ∀ op c', op.Within [.pod] → P op c')
    (hrun : ¬Suspends c sb tpl st.lastActivityTime) :
    (r.run sb tpl (r.templateHash tpl.spec) serviceAccount).wp (LagStep lag) P (fun _ st' _ =>
      PodReport r c sb tpl st.lastActivityTime (podRead lag c (podKey sb)) (report st) (report st'))
      st c := by
  refine wp_bind.mpr (wp_getOptional_pod (hP _ _ (within_read rfl)) ?_)
  cases hread : podRead lag c (podKey sb) with
  | none =>
    have hframe : (createIfAbsent Kind.pod (r.desiredPod sb tpl serviceAccount) :
        SandboxM Unit).Frame (·.Within [.pod]) id := frame_createIfAbsent (within_write rfl (by simp))
    refine wp_bind.mpr (hframe.wp_of_forall (fun op c' h => hP op c' h) ?_)
    rintro _ st' c' hst'
    obtain rfl : st' = st := hst'
    refine .created hrun rfl ?_
    simp [report]
  | some pod =>
    refine wp_bind.mpr (wp_modify.mpr ?_)
    refine wp_ite (fun hdead => ?_) fun hdead => ?_
    · unfold runDead
      refine wp_ite (fun hdel => ?_) fun hdel => ?_
      · refine .dead pod hrun rfl hdead ?_
        simp [report]
      · refine wp_bind.mpr (wp_deletePod sb "run" hP fun c' => ?_)
        refine .dead pod hrun rfl hdead ?_
        simp [report]
    · have hdead := Bool.eq_false_iff.mpr hdead
      have hsettled : ∀ st₁ : SandboxStatus, report st₁ = { report st with
          ready := some (readiness pod), podReady := some (readiness pod) } →
          ((reportDrift sb (r.templateHash tpl.spec) >>= fun _ => pure {}) : SandboxM Result).wp
            (LagStep lag) P (fun _ st' _ => PodReport r c sb tpl st.lastActivityTime (some pod)
              (report st) (report st')) st₁ c := by
        intro st₁ hst₁
        refine wp_bind.mpr (wp_reportDrift_report sb st₁ _ fun st' hst' => ?_)
        have hpinned : st₁.templateHash = (report st).templateHash :=
          congrArg Report.templateHash hst₁
        refine .settled pod hrun rfl hdead (hst'.trans ?_)
        rw [hst₁, hpinned]
      refine wp_ite (fun hready => ?_) fun hready => ?_
      · exact wp_bind.mpr (wp_runReady_report sb pod hP hready hsettled)
      · exact wp_bind.mpr
          (wp_runPending_report sb pod (Bool.eq_false_iff.mpr hready) hsettled)

theorem wp_driveState_report (serviceAccount : String)
    (hP : ∀ op c', op.Within [.pod] → P op c') :
    (r.driveState sb tpl serviceAccount).wp (LagStep lag) P (fun _ st' _ =>
      PodReport r c sb tpl st.lastActivityTime (podRead lag c (podKey sb)) (report st) (report st'))
      st c := by
  have hsuspend : ∀ active, Suspends c sb tpl st.lastActivityTime →
      (suspend sb).wp (LagStep lag) P (fun _ st' _ => PodReport r c sb tpl st.lastActivityTime
        (podRead lag c (podKey sb)) (report st) (report st'))
        { st with activeSessions := active } c := by
    intro active hs
    refine wp_post (wp_suspend_report sb hP) ?_
    rintro _ st' c' (⟨hread, h⟩ | ⟨pod, hread, h⟩)
    · exact .suspended hs hread h
    · exact .suspending pod hs hread h
  refine wp_ite (fun hstop => hsuspend st.activeSessions (Or.inl hstop)) fun hstop => ?_
  refine wp_bind.mpr (wp_bind.mpr ?_)
  refine wp_lag (f := id) (frame_list (by nofun)) (wp_list.mpr ⟨hP _ _ (within_read rfl), ?_⟩)
  refine wp_bind.mpr (wp_modify.mpr ?_)
  refine wp_bind.mpr (wp_record.mpr ?_)
  refine wp_bind.mpr (wp_now_lag (hP _ _ (within_read rfl)) ?_)
  refine wp_ite (fun hidle => hsuspend _ (Or.inr hidle)) fun hidle => ?_
  have hrun : ¬Suspends c sb tpl st.lastActivityTime := by
    rintro (h | h)
    · exact hstop h
    · exact hidle h
  refine wp_bind.mpr ?_
  refine wp_post (wp_run_report r sb tpl serviceAccount hP hrun) fun _ st' c' h => ?_
  refine wp_bind.mpr (wp_record.mpr ?_)
  exact wp_bind.mpr (wp_now_lag (hP _ _ (within_read rfl)) h)

end Machine

/-! ## A whole pass -/

/-- What a pass over the live sandbox `sb` that starts in `c` reports. -/
def PassReport (r : SandboxReconciler) (lag : Bool) (c : Cluster) (sb : Sandbox) (rep' : Report) :
    Prop :=
  ((∀ tpl, ¬GatesOpen c sb tpl) ∧ rep' = stoppedReport sb c (report sb.status)) ∨
    ∃ tpl, GatesOpen c sb tpl ∧ PodReport r c sb tpl sb.status.lastActivityTime
      (podRead lag c (podKey sb)) (report sb.status) rep'

/-- The status that a pass works out : a pass that ends with an error has not pinned the pod. -/
def Worked (r : SandboxReconciler) (lag : Bool) (c : Cluster) (sb : Sandbox)
    (status : SandboxStatus) : Prop :=
  PassReport r lag c sb (report status) ∨ status.templateHash = sb.status.templateHash

theorem PodReport.transport {r : SandboxReconciler} {c c₁ : Cluster} {sb : Sandbox}
    {tpl : SandboxTemplate} {lastActivity : Option Time} {read : Option Pod} {rep rep' : Report}
    (hc : SameOutside preparedKinds c c₁) (h : PodReport r c₁ sb tpl lastActivity read rep rep') :
    PodReport r c sb tpl lastActivity read rep rep' := by
  have hs := suspends_congr hc sb tpl lastActivity
  cases h with
  | suspended hsuspends hread h => exact .suspended (hs.mp hsuspends) hread h
  | suspending pod hsuspends hread h => exact .suspending pod (hs.mp hsuspends) hread h
  | created hrun hread h => exact .created (mt hs.mpr hrun) hread h
  | dead pod hrun hread hdead h => exact .dead pod (mt hs.mpr hrun) hread hdead h
  | settled pod hrun hread hdead h => exact .settled pod (mt hs.mpr hrun) hread hdead h

section Errors

variable (r : SandboxReconciler) (sb : Sandbox)

/-- The part of the status that pins the pod. -/
def pinned (st : SandboxStatus) : String :=
  st.templateHash

/-- The calls that create no pod. -/
def CreatesNoPod (op : Call) : Prop :=
  ∀ o, op ≠ .create .pod o

theorem createsNoPod_read {op : Call} (h : op.target = none) : CreatesNoPod op := by
  rintro o rfl
  cases h

theorem createsNoPod_delete (key : ObjectKey) (site : String) :
    CreatesNoPod (.delete .pod key site) := by
  intro pod hop
  cases hop

theorem frame_suspend : (suspend sb).Frame CreatesNoPod pinned := by
  refine Routine.Frame.bind (frame_modify ?_) fun _ => ?_
  · exact fun _ => rfl
  refine (frame_getOptional (createsNoPod_read rfl)).bind fun pod => ?_
  cases pod with
  | none => exact fun _ => rfl
  | some pod =>
    refine Routine.Frame.bind (frame_modify ?_) fun _ => ?_
    · exact fun _ => rfl
    refine frame_ite (frame_pure _) ?_
    exact (frame_deleteIfPresent (createsNoPod_delete _ _)).bind fun _ => frame_pure _

theorem frame_reportDrift (currentHash : String) :
    (reportDrift sb currentHash).Frame CreatesNoPod pinned := by
  intro st
  show ((if _ then _ else _ : SandboxM Unit) st).Within _ _
  split_ifs
  · exact rfl
  · exact rfl

theorem frame_runDead (pod : Pod) : (runDead sb pod).Frame CreatesNoPod pinned := by
  refine frame_ite ?_
    (Routine.Frame.bind (frame_deleteIfPresent (createsNoPod_delete _ _)) fun _ => ?_)
  · exact fun _ => rfl
  · exact fun _ => rfl

theorem frame_runReady (pod : Pod) : (runReady sb pod).Frame CreatesNoPod pinned := by
  refine Routine.Frame.bind (frame_call (createsNoPod_read rfl)) fun t => ?_
  exact fun _ => rfl

/-- `run` when there is a pod. -/
theorem frame_runFound (pod : Pod) (currentHash : String) :
    (do
      Routine.modify fun st => { st with podName := pod.metadata.name }
      if podDead pod then runDead sb pod
      else
        if podReady pod then runReady sb pod else runPending sb pod
        reportDrift sb currentHash
        pure {} : SandboxM Result).Frame CreatesNoPod pinned := by
  have htail : ((reportDrift sb currentHash >>= fun _ => pure {}) : SandboxM Result).Frame
      CreatesNoPod pinned := (frame_reportDrift sb currentHash).bind fun _ => frame_pure _
  refine Routine.Frame.bind (frame_modify ?_) fun _ => ?_
  · exact fun _ => rfl
  refine frame_ite (frame_runDead sb pod) (frame_ite ?_ ?_)
  · exact (frame_runReady sb pod).bind fun _ => htail
  · exact Routine.Frame.bind (fun _ => rfl) fun _ => htail

theorem keepsOnError_run (tpl : SandboxTemplate) (currentHash serviceAccount : String) :
    (r.run sb tpl currentHash serviceAccount).KeepsOnError pinned := by
  refine (frame_getOptional (P := fun _ => True) trivial).bind_keepsOnError fun pod => ?_
  cases pod with
  | none =>
    refine (frame_createIfAbsent (P := fun _ => True) trivial).bind_keepsOnError fun _ => ?_
    exact fun _ _ he => nomatch he
  | some pod => exact (frame_runFound sb pod currentHash).keepsOnError

theorem keepsOnError_driveState (tpl : SandboxTemplate) (serviceAccount : String) :
    (r.driveState sb tpl serviceAccount).KeepsOnError pinned := by
  have hnow : (now : SandboxM Time).Frame (fun _ => True) pinned := frame_call trivial
  refine keepsOnError_ite (frame_suspend sb).keepsOnError ?_
  refine Routine.Frame.bind_keepsOnError (P := fun _ => True) ?_ fun active => ?_
  · exact (frame_list trivial).bind fun _ => frame_pure _
  refine Routine.Frame.bind_keepsOnError (P := fun _ => True) (frame_modify ?_) fun _ => ?_
  · exact fun _ => rfl
  refine Routine.Frame.bind_keepsOnError (P := fun _ => True) (fun _ => rfl) fun st => ?_
  refine hnow.bind_keepsOnError fun t => ?_
  refine keepsOnError_ite (frame_suspend sb).keepsOnError ?_
  -- What follows `run` does not fail.
  refine (keepsOnError_run r sb tpl _ serviceAccount).bind fun result st => ?_
  exact ⟨trivial, fun t => ⟨_, rfl⟩⟩

/-- A pass that ends with an error has not pinned the pod. -/
theorem keepsOnError_reconcileSandbox : (r.reconcileSandbox sb).KeepsOnError pinned := by
  have hpending : ∀ reason message,
      (pendingWith sb reason message).KeepsOnError pinned := fun _ _ _ _ he => nomatch he
  have hof : ∀ {α : Type} {x : SandboxM α} {ks : List Kind}, x.Frame (GateOp ks) standing →
      x.Frame (GateOp ks) pinned := by
    intro α x ks hx st
    exact (hx st).mono fun a h => congrArg (fun p => p.2.templateHash) h
  refine (frame_getOptional (P := fun _ => True) trivial).bind_keepsOnError fun tpl => ?_
  cases tpl with
  | none => exact hpending _ _
  | some tpl =>
    refine (gate_reconcileHome sb fun _ _ _ _ _ => rfl).bind_keepsOnError fun requeue => ?_
    cases requeue with
    | some requeue => exact keepsOnError_pure _
    | none =>
      refine (frame_reconcileHostKey r sb).bind_keepsOnError fun _ => ?_
      refine (frame_reconcileNetworkPolicy r sb tpl).bind_keepsOnError fun _ => ?_
      refine (hof (frame_reconcileRBAC sb ignoresRBAC_standing)).bind_keepsOnError fun rbac => ?_
      exact keepsOnError_ite (keepsOnError_driveState r sb tpl _) (hpending _ _)

end Errors

section Live

variable (r : SandboxReconciler) {lag : Bool} {c c₁ : Cluster} {sb sb₁ : Sandbox}
  {P : Call → Cluster → Prop}

theorem Prepared.stoppedReport_eq (hprep : Prepared c sb c₁ sb₁) (rep : Report) :
    stoppedReport sb c₁ rep = stoppedReport sb c rep := by
  simp only [stoppedReport, hprep.homeOpen_eq, hprep.template_eq]

/-- The calls of a pass between the finalizer and the status, by the kinds they write. -/
def bodyKinds : List Kind :=
  .pod :: gateKinds

theorem wp_body_report (hprep : Prepared c sb c₁ sb₁) :
    (r.reconcileSandbox sb).wp (LagStep lag) (fun op _ => op.Within bodyKinds)
      (fun _ st' _ => PassReport r lag c sb (report st'))
      { sb.status with observedGeneration := sb.metadata.generation } c₁ := by
  refine wp_reconcileSandbox r sb (fun _ _ _ _ hop => LagStep.step hop) ?_ ?_ ?_
  · intro g op c' h _ t ht
    exact List.mem_cons_of_mem _ (Gate.kinds_subset g _ (h.within t ht))
  · intro hblocked _ st' c' _ hreport _
    refine Or.inl ⟨fun tpl h => hblocked tpl ((hprep.gatesOpen_iff tpl).mpr h), ?_⟩
    rw [hreport, hprep.stoppedReport_eq]
    rfl
  · intro tpl hopen serviceAccount st₂ c₂ hst₂ hc₂ _
    have hc : SameOutside preparedKinds c c₂ := hprep.sameOutside hc₂
    have hread : podRead lag c₂ (podKey sb) = podRead lag c (podKey sb) := by
      simp only [podRead, hc.find? (show Kind.pod ∉ preparedKinds by decide)]
    have hactivity : st₂.lastActivityTime = sb.status.lastActivityTime :=
      congrArg (fun p => p.1.2.2) hst₂
    have hreport : report st₂ = report sb.status := congrArg Prod.snd hst₂
    refine wp_post (wp_driveState_report r sb tpl serviceAccount ?_) ?_
    · exact fun op c' h t ht => List.mem_cons.mpr (Or.inl (List.mem_singleton.mp (h t ht)))
    · intro _ st' _ h
      rw [hread, hactivity, hreport] at h
      exact Or.inr ⟨tpl, (hprep.gatesOpen_iff tpl).mp hopen, h.transport hc⟩

/-- Between the finalizer and the status the sandbox itself is left alone. -/
theorem lagStep_keeps_sandbox {op : Call} {c' : Cluster} {a : Resp Spec Status op} {key : ObjectKey}
    {o : Option Sandbox} (hop : op.Within bodyKinds) (h : LagStep lag op c a c')
    (ho : c.find? .sandbox key = o) : c'.find? .sandbox key = o := by
  rcases h.state with rfl | hstep
  · exact ho
  · rw [(hstep.sameOutside hop).find? (by decide), ho]

/-- The one status a pass over `sb` writes is the one it works out. -/
def StatusCall (r : SandboxReconciler) (lag : Bool) (c : Cluster) (sb : Sandbox) (op : Call) : Prop :=
  ∀ o, op = .updateStatus .sandbox o → Worked r lag c sb o.status

/-- The calls of a pass over `sb` : beside its children it writes the sandbox itself, for the
finalizer and for the status. -/
structure RecordCall (r : SandboxReconciler) (lag : Bool) (c : Cluster) (sb : Sandbox) (op : Call) :
    Prop where
  status : StatusCall r lag c sb op
  writes : op.Within bodyKinds ∨ (∃ o, op = .update .sandbox o) ∨ ∃ o, op = .updateStatus .sandbox o

theorem recordCall_of_within {op : Call} (hop : op.Within bodyKinds) : RecordCall r lag c sb op := by
  refine ⟨?_, Or.inl hop⟩
  rintro o rfl
  exact absurd (hop _ rfl) (by simp [bodyKinds, gateKinds])

theorem recordCall_finalizer (new : Sandbox) : RecordCall r lag c sb (.update .sandbox new) := by
  refine ⟨?_, Or.inr (Or.inl ⟨new, rfl⟩)⟩
  rintro o h
  cases h

theorem recordCall_status {o : Sandbox} (h : Worked r lag c sb o.status) :
    RecordCall r lag c sb (.updateStatus .sandbox o) := by
  refine ⟨?_, Or.inr (Or.inr ⟨o, rfl⟩)⟩
  rintro o' h'
  cases h'
  exact h

/-- What a pass over a live sandbox reports. -/
theorem wp_reconcileLive_report (hsb : c.find? .sandbox sb.key = some sb)
    (hlive : sb.deleting = false) :
    (r.reconcileLive sb).wp (LagStep lag) (fun op _ => RecordCall r lag c sb op) (fun _ _ c' =>
      ∃ sb', c'.find? .sandbox sb.key = some sb' ∧ PassReport r lag c sb (report sb'.status)) () c := by
  refine wp_reconcileLive_of (R := fun _ sb₁ out c₂ => (Routine.okPost (fun _ st' _ =>
    PassReport r lag c sb (report st')) out c₂ ∧ c₂.find? .sandbox sb.key = some sb₁) ∧
      ∀ e, out.1 = .error e → pinned out.2 = sb.status.templateHash) r
    (fun _ _ _ _ hop => LagStep.step hop) hsb hlive (recordCall_finalizer r _) ?_ ?_ ?_ ?_
  · intro c₁ sb₁ hprep
    have hreports : (r.reconcileSandbox sb).wp (LagStep lag) (fun op _ => op.Within bodyKinds)
        (fun _ st' _ => PassReport r lag c sb (report st'))
        { sb.status with observedGeneration := sb.metadata.generation } c₁ := wp_body_report r hprep
    have hbody := Prog.wp_preserves (I := fun c' => c'.find? .sandbox sb.key = some sb₁)
      (fun op c a c' hop ha h => lagStep_keeps_sandbox hop ha h) hreports hprep.stored
    have hends := (keepsOnError_reconcileSandbox r sb
      { sb.status with observedGeneration := sb.metadata.generation }).wp
        (Prog.wp_mono hbody (fun _ _ => id) fun _ _ => And.intro)
    exact Prog.wp_mono hends (fun op c' h => recordCall_of_within r h.1) fun _ _ => id
  · rintro c₁ sb₁ ⟨result, st'⟩ c₂ - ⟨⟨hok, -⟩, hkept⟩
    cases result with
    | error e => exact recordCall_status r (Or.inr (hkept e rfl))
    | ok result => exact recordCall_status r (Or.inl hok)
  · exact fun c₁ sb₁ result st' c₂ _ hR => hR.1.2
  · exact fun c₁ sb₁ result st' c₂ c' rv _ hR hstored _ _ => ⟨_, hstored, hR.1.1⟩

/-- What a pass over a live sandbox reports, and the statuses it writes. -/
theorem wp_reconcile_report {key : ObjectKey} (hsb : c.find? .sandbox key = some sb)
    (hlive : sb.deleting = false) :
    (r.reconcile key).wp (LagStep lag) (fun op _ => RecordCall r lag c sb op) (fun _ _ c' =>
      ∃ sb', c'.find? .sandbox key = some sb' ∧ PassReport r lag c sb (report sb'.status)) () c := by
  obtain rfl := key_of_find? hsb
  have hread : (getOptional Kind.sandbox sb.key : ClientM Unit (Option Sandbox)).Frame
      (fun op => op.reads ≠ some .pod) id := frame_getOptional (by simp [Op.reads])
  refine wp_bind.mpr (wp_lag hread (wp_getOptional.mpr
    ⟨recordCall_of_within r (within_read rfl), ?_⟩))
  rw [hsb]
  refine wp_ite (fun h => ?_) fun _ => wp_reconcileLive_report r hsb hlive
  cases hlive.symm.trans h

end Live

/-- What a pass without lag reports. -/
theorem Pass.report {r : SandboxReconciler} {key : ObjectKey} {c c' : Cluster}
    {t : List (Call × Cluster)} {result : Result} {sb : Sandbox} (h : Pass r key c t (.ok result) c')
    (hsb : c.find? .sandbox key = some sb) (hlive : sb.deleting = false) :
    ∃ sb', c'.find? .sandbox key = some sb' ∧ PassReport r false c sb (report sb'.status) := by
  have hlag := (Prog.within_true (r.reconcile key ())).handler
    (fun _ _ _ _ _ hstep => lagStep_false.mpr hstep) (wp_reconcile_report r hsb hlive)
  exact (h.wp hlag).2

/-! ## Phase and conditions -/

/-- Ready and PodReady are true beside the phase Running, and beside no other. -/
def ConditionsAgree (st : SandboxStatus) : Prop :=
  (conditionStatus st.conditions .ready = some .true ↔ st.phase = .running) ∧
    (conditionStatus st.conditions .podReady = some .true ↔ st.phase = .running)

/-- Where the exit that a pass from `c` takes leaves a condition of `sb` as it was, that condition
is not true. A closed gate leaves PodReady as it was, a home that cannot be used Ready as well; a
pod that is to be suspended both of them; a dead pod Ready. -/
structure NoneStale (c : Cluster) (sb : Sandbox) : Prop where
  blocked : (∀ tpl, ¬GatesOpen c sb tpl) →
    conditionStatus sb.status.conditions .podReady ≠ some .true
  home : c.find? .sandboxTemplate ⟨"", sb.spec.template⟩ ≠ none → homeOpen c sb = false →
    conditionStatus sb.status.conditions .ready ≠ some .true
  suspending : ∀ tpl, GatesOpen c sb tpl → Suspends c sb tpl sb.status.lastActivityTime →
    c.find? .pod (podKey sb) ≠ none → conditionStatus sb.status.conditions .ready ≠ some .true ∧
      conditionStatus sb.status.conditions .podReady ≠ some .true
  dead : ∀ tpl pod, GatesOpen c sb tpl → ¬Suspends c sb tpl sb.status.lastActivityTime →
    c.find? .pod (podKey sb) = some pod → podDead pod = true →
      conditionStatus sb.status.conditions .ready ≠ some .true

/-- The phase is Running where the pod is found ready and the sandbox is not suspended. -/
theorem PodOutcome.running_iff {sb : Sandbox} {tpl : SandboxTemplate} {st st' : SandboxStatus}
    {c c' : Cluster} (h : PodOutcome sb tpl st c st' c') :
    st'.phase = .running ↔ ¬Suspends c sb tpl st.lastActivityTime ∧
      ∃ pod, c.find? .pod (podKey sb) = some pod ∧ podReady pod = true := by
  cases h with
  | suspended hsuspends _ _ hphase => simp [hphase, hsuspends]
  | suspending _ _ hsuspends _ _ _ hphase => simp [hphase, hsuspends]
  | created _ _ habsent _ _ hphase => rcases hphase with hphase | hphase <;> simp [hphase, habsent]
  | dead pod _ _ hpod hdead _ _ hphase =>
    have hready : podReady pod ≠ true := fun h => by simp [podDead_of_podReady h] at hdead
    simp [hphase, hpod, hready]
  | ready pod hrun hpod hready _ hphase => simp [hphase, hrun, hpod, hready]
  | pending pod _ hpod _ hready _ hphase =>
    rcases hphase with hphase | hphase <;> simp [hphase, hpod, hready]

theorem readiness_eq_true_iff (pod : Pod) : readiness pod = .true ↔ podReady pod = true := by
  unfold readiness
  split_ifs with h <;> simp [h]

theorem conditionsAgree_of_not_running {st : SandboxStatus} (hphase : st.phase ≠ .running) :
    ConditionsAgree st ↔ conditionStatus st.conditions .ready ≠ some .true ∧
      conditionStatus st.conditions .podReady ≠ some .true := by
  simp [ConditionsAgree, hphase]

/-- A gate that stays closed. -/
theorem conditionsAgree_blocked {c : Cluster} {sb : Sandbox} {st' : SandboxStatus}
    (hblocked : ∀ tpl, ¬GatesOpen c sb tpl) (hphase : st'.phase = .pending)
    (hreport : report st' = stoppedReport sb c (report sb.status)) :
    ConditionsAgree st' ↔ NoneStale c sb := by
  have hready : conditionStatus st'.conditions .ready = (stoppedReport sb c (report sb.status)).ready :=
    congrArg Report.ready hreport
  have hpod : conditionStatus st'.conditions .podReady =
      (stoppedReport sb c (report sb.status)).podReady := congrArg Report.podReady hreport
  rw [conditionsAgree_of_not_running (by rw [hphase]; decide), hready, hpod, stoppedReport]
  split_ifs with hhome
  · have htpl : c.find? .sandboxTemplate ⟨"", sb.spec.template⟩ ≠ none :=
      Option.isSome_iff_ne_none.mp hhome.1
    constructor
    · rintro ⟨h₁, h₂⟩
      exact ⟨fun _ => h₂, fun _ _ => h₁, fun tpl h => absurd h (hblocked tpl),
        fun tpl _ h => absurd h (hblocked tpl)⟩
    · exact fun h => ⟨h.home htpl hhome.2, h.blocked hblocked⟩
  · constructor
    · rintro ⟨-, h₂⟩
      refine ⟨fun _ => h₂, fun htpl hclosed => ?_, fun tpl h => absurd h (hblocked tpl),
        fun tpl _ h => absurd h (hblocked tpl)⟩
      exact absurd ⟨Option.isSome_iff_ne_none.mpr htpl, hclosed⟩ hhome
    · exact fun h => ⟨by simp, h.blocked hblocked⟩

theorem noneStale_iff_open {c : Cluster} {sb : Sandbox} {tpl : SandboxTemplate}
    (hopen : GatesOpen c sb tpl) : NoneStale c sb ↔
      (Suspends c sb tpl sb.status.lastActivityTime → c.find? .pod (podKey sb) ≠ none →
        conditionStatus sb.status.conditions .ready ≠ some .true ∧
          conditionStatus sb.status.conditions .podReady ≠ some .true) ∧
      (¬Suspends c sb tpl sb.status.lastActivityTime → ∀ pod, c.find? .pod (podKey sb) = some pod →
        podDead pod = true → conditionStatus sb.status.conditions .ready ≠ some .true) := by
  constructor
  · exact fun h => ⟨h.suspending tpl hopen, fun hrun pod => h.dead tpl pod hopen hrun⟩
  · rintro ⟨hsuspending, hdead⟩
    refine ⟨fun h => absurd hopen (h tpl), fun _ h => ?_, fun tpl' hopen' => ?_,
      fun tpl' pod hopen' => ?_⟩
    · exact nomatch hopen.home.symm.trans h
    · rw [← gatesOpen_tpl_unique sb hopen hopen']
      exact hsuspending
    · rw [← gatesOpen_tpl_unique sb hopen hopen']
      exact fun hrun => hdead hrun pod

/-- The desired-state machine. -/
theorem conditionsAgree_open {r : SandboxReconciler} {c c' : Cluster} {sb : Sandbox}
    {tpl : SandboxTemplate} {st' : SandboxStatus} (hopen : GatesOpen c sb tpl)
    (hreport : PodReport r c sb tpl sb.status.lastActivityTime (c.find? .pod (podKey sb))
      (report sb.status) (report st')) (houtcome : PodOutcome sb tpl sb.status c st' c') :
    ConditionsAgree st' ↔ NoneStale c sb := by
  have hphase := houtcome.running_iff
  have hready : conditionStatus st'.conditions .ready = (report st').ready := rfl
  have hpod : conditionStatus st'.conditions .podReady = (report st').podReady := rfl
  rw [noneStale_iff_open hopen]
  cases hreport with
  | suspended hsuspends hread h =>
    rw [conditionsAgree_of_not_running (by simp [hphase, hsuspends]), hready, hpod, h]
    simp [hsuspends, hread]
  | suspending pod hsuspends hread h =>
    rw [conditionsAgree_of_not_running (by simp [hphase, hsuspends]), hready, hpod, h]
    simp [hsuspends, hread, report]
  | created hrun hread h =>
    rw [conditionsAgree_of_not_running (by simp [hphase, hread]), hready, hpod, h]
    simp [hrun, hread]
  | dead pod hrun hread hdead h =>
    have hnot : podReady pod ≠ true := fun hr => by simp [podDead_of_podReady hr] at hdead
    rw [conditionsAgree_of_not_running (by simp [hphase, hread, hnot]), hready, hpod, h]
    simp [hrun, hread, hdead, report]
  | settled pod hrun hread hdead h =>
    have hrunning : st'.phase = .running ↔ podReady pod = true := by simp [hphase, hrun, hread]
    rw [ConditionsAgree, hready, hpod, h, hrunning]
    simp [hrun, hread, hdead, readiness_eq_true_iff]

/-- After a pass without error Ready and PodReady agree with the phase exactly when the exit it
takes leaves no condition true that it does not set. -/
theorem conditions_agree_iff (r : SandboxReconciler) (key : ObjectKey) (c c' : Cluster)
    (t : List (Call × Cluster)) (result : Result) (sb : Sandbox)
    (hsb : c.find? .sandbox key = some sb) (hlive : sb.deleting = false)
    (hpass : Pass r key c t (.ok result) c') :
    (∀ sb', c'.find? .sandbox key = some sb' → ConditionsAgree sb'.status) ↔ NoneStale c sb := by
  obtain ⟨sb', hstored, hreport⟩ := hpass.report hsb hlive
  obtain ⟨sb'', hout⟩ := hpass.outcome hsb hlive
  have hstored' := hout.stored
  rw [key_of_find? hsb] at hstored'
  obtain rfl : sb' = sb'' := Option.some.inj (hstored.symm.trans hstored')
  have hthis : (∀ o, c'.find? .sandbox key = some o → ConditionsAgree o.status) ↔
      ConditionsAgree sb'.status := by
    refine ⟨fun h => h sb' hstored, fun h o ho => ?_⟩
    rwa [Option.some.inj (ho.symm.trans hstored)]
  rw [hthis]
  rcases hreport with ⟨hblocked, hreport⟩ | ⟨tpl, hopen, hreport⟩
  · rcases hout.result with ⟨-, hprogress, -⟩ | ⟨tpl, hopen, -⟩
    · exact conditionsAgree_blocked hblocked (congrArg Prod.fst hprogress) hreport
    · exact absurd hopen (hblocked tpl)
  · rcases hout.result with ⟨hblocked, -⟩ | ⟨tpl', hopen', houtcome⟩
    · exact absurd hopen (hblocked tpl)
    · rw [← gatesOpen_tpl_unique sb hopen hopen'] at houtcome
      exact conditionsAgree_open hopen hreport houtcome

/-- The first pass over a new sandbox. -/
theorem conditions_agree_first_pass :
    ∃ sb', (Team.pass (Team.cluster [Team.template] (Team.sandbox .running {}) [])).find? .sandbox
      Team.key = some sb' ∧ ConditionsAgree sb'.status := by
  have hstored : ((Team.pass (Team.cluster [Team.template] (Team.sandbox .running {}) [])).find?
      .sandbox Team.key).isSome = true := by decide +kernel
  have hagree := conditions_agree_iff Team.reconciler Team.key
    (Team.cluster [Team.template] (Team.sandbox .running {}) []) _ _ {} _ rfl rfl
    (pass_of_runPass (by decide +kernel))
  obtain ⟨sb', hsb'⟩ := Option.isSome_iff_exists.mp hstored
  refine ⟨sb', hsb', hagree.mpr ⟨?_, ?_, ?_, ?_⟩ sb' hsb'⟩
  · exact fun _ => by decide
  · exact fun _ _ => by decide
  · exact fun _ _ _ _ => ⟨by decide, by decide⟩
  · exact fun _ _ _ _ _ _ => by decide

/-- A sandbox is brought up and stopped : the pass sets the phase to Suspending and leaves Ready
and PodReady true. -/
theorem conditions_stale_while_suspending :
    Pass Team.reconciler Team.key (Team.setDesired .stopped Team.published)
        (passTrace Team.reconciler Team.key (Team.setDesired .stopped Team.published)) (.ok {})
        (Team.pass (Team.setDesired .stopped Team.published)) ∧
      ∃ sb', (Team.pass (Team.setDesired .stopped Team.published)).find? .sandbox Team.key =
        some sb' ∧ sb'.status.phase = .suspending ∧ ¬ConditionsAgree sb'.status := by
  have hafter : ((Team.pass (Team.setDesired .stopped Team.published)).find? .sandbox Team.key).any
      (fun sb => sb.status.phase = .suspending ∧
        conditionStatus sb.status.conditions .ready = some .true) = true := by decide +kernel
  obtain ⟨sb, hsb, hstale⟩ := (Option.any_eq_true _ _).mp hafter
  simp only [decide_eq_true_eq] at hstale
  refine ⟨pass_of_runPass (by decide +kernel), sb, hsb, hstale.1, fun h => ?_⟩
  exact nomatch hstale.1.symm.trans (h.1.mp hstale.2)

end Kubepark

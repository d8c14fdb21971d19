import Kubepark.PassReport
import Kubepark.SuspendRoute

/-!
# Template drift

A pod is built from the template of the moment. The hash of that template is pinned in the status
of the sandbox, which a pass writes in another call than the one that creates the pod, and a later
pass compares the pin with the template it finds. The pin is that of the pod as long as the two
writes come together (`Lands`) and no pass that does not see the pod pins another template over it
(`LagHarmless`). Under these conditions `template_outdated_truthful` is the report of every run;
`drift_unreported` is a run in which the status is lost to a conflict.
-/

namespace Kubepark

open ApiServer Client SandboxReconciler Routine

/-! ## A pass that finds no pod -/

/-- The pod and the pin come together : a Create of a pod that fails has had no effect, and where
the pod under `pod` is there the status of the sandbox is written. -/
structure Lands (pod : ObjectKey) (op : Call) (c : Cluster) (a : Resp Spec Status op)
    (c' : Cluster) : Prop where
  create : ∀ o e, op = .create .pod o → Fails op e a → c' = c
  status : ∀ o e, op = .updateStatus .sandbox o → Fails op e a → c.find? .pod pod = none

/-- A cache that may lag, with the answers that `Answers` allows. -/
def Serves (lag : Bool) (Answers : (op : Call) → Cluster → Resp Spec Status op → Cluster → Prop)
    (op : Call) (c : Cluster) (a : Resp Spec Status op) (c' : Cluster) : Prop :=
  LagStep lag op c a c' ∧ Answers op c a c'

/-- There is no pod under `pod`. -/
def NoPod (pod : ObjectKey) (c : Cluster) : Prop :=
  c.find? .pod pod = none

theorem LagStep.noPod {lag : Bool} {op : Call} {c c' : Cluster} {a : Resp Spec Status op}
    {pod : ObjectKey} (h : LagStep lag op c a c') (hop : CreatesNoPod op) (hnone : NoPod pod c) :
    NoPod pod c' := by
  rcases h.state with rfl | hstep
  · exact hnone
  · cases hpod : c'.find? .pod pod with
    | none => exact hpod
    | some pod' =>
      cases hstep.written hpod with
      | kept hold | updated _ _ _ _ hold | statusUpdated _ _ _ _ hold | patched _ _ _ hold
      | statusPatched _ _ _ hold | terminated _ _ _ hold => exact nomatch hold.symm.trans hnone
      | created o hop' => exact absurd hop' (hop o)

theorem createsNoPod_of_within {ks : List Kind} {op : Call} (h : op.Within ks) (hks : .pod ∉ ks) :
    CreatesNoPod op := by
  rintro o rfl
  exact hks (h _ rfl)

section Absent

variable {r : SandboxReconciler} {sb : Sandbox} {lag : Bool} {pod : ObjectKey}

theorem maintains_noPod {σ τ α : Type} {P' : Call → Prop} {f : σ → τ} {x : ClientM σ α}
    (hx : x.Frame P' f) (hop : ∀ op, P' op → CreatesNoPod op) :
    x.Maintains (Serves lag (Lands pod)) (fun _ _ => True) fun _ => NoPod pod :=
  hx.maintains (fun _ _ _ _ _ => trivial) (fun op _ _ _ _ h hstep => hstep.1.noPod (hop op h))
    fun _ _ _ _ => id

theorem maintains_noPod_gate {σ τ α : Type} {ks : List Kind} {f : σ → τ} {x : ClientM σ α}
    (hx : x.Frame (GateOp ks) f) (hks : .pod ∉ ks) :
    x.Maintains (Serves lag (Lands pod)) (fun _ _ => True) fun _ => NoPod pod :=
  maintains_noPod hx fun _ h => createsNoPod_of_within h.within hks

theorem wp_serves {Answers : (op : Call) → Cluster → Resp Spec Status op → Cluster → Prop} {α : Type}
    {p : Prog Call (Resp Spec Status) α} {P : Call → Cluster → Prop} {Q : α → Cluster → Prop}
    {c : Cluster} (h : p.wp (LagStep lag) P Q c) : p.wp (Serves lag Answers) P Q c :=
  (Prog.within_true p).handler (fun _ _ _ _ _ h => h.1) h

/-- A routine that reads no pod does not notice the lag, and keeps the pod away. -/
theorem wp_gate_noPod {σ τ α : Type} {ks : List Kind} {f : σ → τ} {x : ClientM σ α}
    (lag : Bool) (Q : α → σ → Cluster → Prop) {st : σ} {c : Cluster} (hx : x.Frame (GateOp ks) f)
    (hks : .pod ∉ ks) (hends : x.Ends Step Q st c) (hnone : NoPod pod c) :
    (x st).wp (Serves lag (Lands pod)) (fun _ _ => True) (fun out c' =>
      NoPod pod c' ∧ Routine.okPost Q out c') c := by
  have hends' : x.Ends (Serves lag (Lands pod)) Q st c :=
    hx.handler (fun _ _ _ _ hop h => h.1.step hop.noPod) hends
  exact Prog.wp_mono (Prog.wp_and (maintains_noPod_gate hx hks st c hnone) hends')
    (fun _ _ _ => trivial) fun _ _ => id

/-- A pod that is not created is not there. -/
theorem commits_createPod (o : Pod) :
    (createIfAbsent Kind.pod o : SandboxM Unit).Commits (Serves lag (Lands pod)) (NoPod pod)
      fun _ => True := by
  refine fun st c hnone => ⟨trivial, fun a c' ha => ?_⟩
  cases a with
  | ok _ => exact Or.inr ⟨⟨(), rfl⟩, trivial⟩
  | error e =>
    have hc' : c' = c := ha.2.create o e rfl rfl
    subst hc'
    have hkept : (Routine.ignoring ApiError.isAlreadyExists (fun _ : Pod => ()) () (.error e) :
        SandboxM Unit).Maintains (Serves lag (Lands pod)) (fun _ _ => True) fun _ => NoPod pod :=
      maintains_ignoring _ _ _ _
    exact hkept.commits (F := fun _ => True) st c' hnone

theorem commits_run (tpl : SandboxTemplate) (currentHash serviceAccount : String) :
    (r.run sb tpl currentHash serviceAccount).Commits (Serves lag (Lands pod)) (NoPod pod)
      fun st => pinned st = currentHash := by
  have hget : (getOptional Kind.pod (podKey sb) : SandboxM (Option Pod)).Frame CreatesNoPod id :=
    frame_getOptional (createsNoPod_read rfl)
  refine (maintains_noPod hget fun _ => id).bind_commits fun found => ?_
  cases found with
  | none =>
    refine (commits_createPod (r.desiredPod sb tpl serviceAccount)).bind (fun _ st c h => h) ?_
    exact fun _ st _ => ⟨⟨_, rfl⟩, rfl⟩
  | some pod => exact (maintains_noPod (frame_runFound sb pod currentHash) fun _ => id).commits

theorem commits_driveState (tpl : SandboxTemplate) (serviceAccount : String) :
    (r.driveState sb tpl serviceAccount).Commits (Serves lag (Lands pod)) (NoPod pod)
      fun st => pinned st = r.templateHash tpl.spec := by
  have hsuspend : (suspend sb).Commits (Serves lag (Lands pod)) (NoPod pod)
      fun st => pinned st = r.templateHash tpl.spec :=
    (maintains_noPod (frame_suspend sb) fun _ => id).commits
  have hnow : (now : SandboxM Time).Frame CreatesNoPod id := frame_call (createsNoPod_read rfl)
  have hlist : (activeSessionCount sb).Frame CreatesNoPod id :=
    (frame_list (createsNoPod_read rfl)).bind fun _ => frame_pure _
  refine commits_ite hsuspend ?_
  refine (maintains_noPod hlist fun _ => id).bind_commits fun active => ?_
  refine Routine.Leads.bind_commits (maintains_modify fun _ _ h => h) fun _ => ?_
  refine Routine.Leads.bind_commits maintains_record fun st => ?_
  refine (maintains_noPod hnow fun _ => id).bind_commits fun t => ?_
  refine commits_ite hsuspend ?_
  refine (commits_run tpl _ serviceAccount).bind (fun result => ?_) fun result st hst => ?_
  · refine Routine.Leads.bind maintains_record fun st => ?_
    exact (maintains_noPod hnow fun _ => id).bind fun t => maintains_pure _
  · exact ⟨trivial, fun t => ⟨⟨_, rfl⟩, hst⟩⟩

/-- What follows the template. -/
theorem commits_provision (tpl : SandboxTemplate) :
    (do
      match ← reconcileHome sb with
      | some requeue => pure requeue
      | none =>
        r.reconcileHostKey sb
        r.reconcileNetworkPolicy sb tpl
        let rbac ← reconcileRBAC sb
        if rbac.ready then r.driveState sb tpl rbac.serviceAccount
        else pendingWith sb .provisioning "waiting on access profile" : SandboxM Result).Commits
      (Serves lag (Lands pod)) (NoPod pod) fun st => pinned st = r.templateHash tpl.spec := by
  have hhome := gate_reconcileHome sb (f := pinned) fun _ _ _ _ _ => rfl
  have hrbac := frame_reconcileRBAC sb ignoresRBAC_standing
  refine (maintains_noPod_gate hhome (by simp [Gate.kinds])).bind_commits fun requeue => ?_
  cases requeue with
  | some requeue => exact (maintains_pure _).commits
  | none =>
    refine (maintains_noPod_gate (frame_reconcileHostKey (f := pinned) r sb)
      (by simp [Gate.kinds])).bind_commits fun _ => ?_
    refine (maintains_noPod_gate (frame_reconcileNetworkPolicy (f := pinned) r sb tpl)
      (by simp [Gate.kinds])).bind_commits fun _ => ?_
    refine (maintains_noPod_gate hrbac (by simp [Gate.kinds])).bind_commits fun rbac => ?_
    refine commits_ite (commits_driveState tpl _) ?_
    exact Routine.Leads.commits fun _ _ h => h

/-- What a body that starts without the pod comes to. -/
theorem wp_reconcileSandbox_pins {st : SandboxStatus} {c : Cluster} (hnone : NoPod pod c) :
    (r.reconcileSandbox sb st).wp (Serves lag (Lands pod)) (fun _ _ => True) (fun out c' =>
      NoPod pod c' ∨ (∃ a, out.1 = .ok a) ∧ ∃ tpl, c.find? .sandboxTemplate ⟨"", sb.spec.template⟩ =
        some tpl ∧ pinned out.2 = r.templateHash tpl.spec) c := by
  have hget : (getOptional Kind.sandboxTemplate ⟨"", sb.spec.template⟩ :
      SandboxM (Option SandboxTemplate)).Frame (GateOp []) id :=
    frame_getOptional (gateOp_read rfl (by nofun))
  refine wp_all_bind (wp_gate_noPod lag (fun tpl _ _ =>
    tpl = c.find? .sandboxTemplate ⟨"", sb.spec.template⟩) hget (by simp)
      (wp_getOptional.mpr ⟨trivial, rfl⟩) hnone) ?_ fun _ _ _ h => Or.inl h.1
  rintro tpl st₁ c₁ ⟨hnone₁, htpl⟩
  cases tpl with
  | none => exact Or.inl hnone₁
  | some tpl =>
    refine Prog.wp_mono (commits_provision tpl st₁ c₁ hnone₁) (fun _ _ => id) ?_
    rintro out c' (h | ⟨hok, hpin⟩)
    · exact Or.inl h
    · exact Or.inr ⟨hok, tpl, htpl.symm, hpin⟩

/-- The sandbox stored under `key` is pinned to the template that `sb` had in `c`. -/
def PinnedTo (r : SandboxReconciler) (c : Cluster) (sb : Sandbox) (key : ObjectKey) (c' : Cluster) :
    Prop :=
  ∃ sb' tpl, c'.find? .sandbox key = some sb' ∧
    c.find? .sandboxTemplate ⟨"", sb.spec.template⟩ = some tpl ∧
    sb'.status.templateHash = r.templateHash tpl.spec

/-- Where the pod is there the status is persisted. -/
theorem wp_patchStatus_lands {c : Cluster} {status : SandboxStatus}
    (hstored : c.find? .sandbox sb.key = some sb) (hpod : ¬NoPod pod c) {Q : Cluster → Prop}
    (hQ : ∀ c' sb', c'.find? .sandbox sb.key = some sb' → sb'.status = status → Q c') :
    ((patchStatus sb status : ClientM Unit Unit) ()).wp (Serves lag (Lands pod)) (fun _ _ => True)
      (fun _ c' => Q c') c := by
  have hok : ((patchStatus sb status : ClientM Unit Unit) ()).wp (Serves lag (Lands pod))
      (fun _ _ => True) (fun out _ => ∃ a, out.1 = .ok a) c := by
    unfold patchStatus
    split_ifs
    · exact ⟨_, rfl⟩
    · refine ⟨trivial, fun a c' ha => ?_⟩
      cases a with
      | ok a => exact ⟨_, rfl⟩
      | error e => exact absurd (ha.2.status _ e rfl rfl) hpod
  have hpersisted : (patchStatus sb status : ClientM Unit Unit).Ends (Serves lag (Lands pod))
      (fun _ _ c' => Q c') () c :=
    (frame_patchStatus sb status).handler (fun _ _ _ _ hop h => h.1.step hop.noPod)
      (wp_patchStatus hstored trivial fun c' rv hc' _ _ => hQ c' _ hc' rfl)
  refine Prog.wp_mono (Prog.wp_and hpersisted hok) (fun _ _ _ => trivial) ?_
  rintro ⟨out, ⟨⟩⟩ c' ⟨hQ', a, ha⟩
  obtain rfl : out = .ok a := ha
  exact hQ'

theorem wp_reconcileLive_pins {c : Cluster} (hsb : c.find? .sandbox sb.key = some sb)
    (hlive : sb.deleting = false) (hnone : NoPod pod c) :
    (r.reconcileLive sb ()).wp (Serves lag (Lands pod)) (fun _ _ => True) (fun _ c' =>
      NoPod pod c' ∨ PinnedTo r c sb sb.key c') c := by
  have hfinalizer := wp_gate_noPod lag (fun sb₁ _ c₁ => Prepared c sb c₁ sb₁)
    (frame_ensureFinalizer sb) (by simp) (wp_ensureFinalizer hsb hlive trivial fun _ _ => id) hnone
  refine wp_all_bind hfinalizer ?_ fun _ _ _ h => Or.inl h.1
  rintro sb₁ ⟨⟩ c₁ ⟨hnone₁, hprep⟩
  have hprep : Prepared c sb c₁ sb₁ := hprep
  obtain ⟨finalizers, rv, hstamp⟩ := id hprep.stamp
  subst hstamp
  have hbody : (r.reconcileSandbox sb { sb.status with
      observedGeneration := sb.metadata.generation }).wp (Serves lag (Lands pod))
      (fun op _ => op.Within bodyKinds) (fun out c₂ => NoPod pod c₂ ∨ (∃ a, out.1 = .ok a) ∧
        ∃ tpl, c₁.find? .sandboxTemplate ⟨"", sb.spec.template⟩ = some tpl ∧
          pinned out.2 = r.templateHash tpl.spec) c₁ := by
    exact Prog.wp_mono (Prog.wp_and (wp_serves (wp_body_report r hprep))
      (wp_reconcileSandbox_pins hnone₁)) (fun _ _ h => h.1) fun _ _ h => h.2
  refine wp_all_runFrom_bind (Prog.wp_mono (Prog.wp_preserves
    (fun op c a c' hop ha h => lagStep_keeps_sandbox hop ha.1 h) hbody hprep.stored)
      (fun _ _ _ => trivial) fun _ _ => id) ?_
  rintro ⟨result, st'⟩ c₂ ⟨hpins, hstored⟩
  have hpersist : ((patchStatus (stamped sb finalizers rv) st' : ClientM Unit Unit) ()).wp
      (Serves lag (Lands pod)) (fun _ _ => True) (fun _ c' =>
        NoPod pod c' ∨ PinnedTo r c sb sb.key c') c₂ := by
    by_cases hnone₂ : NoPod pod c₂
    · exact Prog.wp_mono (maintains_noPod_gate (frame_patchStatus _ _) (by simp) () c₂ hnone₂)
        (fun _ _ => id) fun _ _ => Or.inl
    · obtain ⟨-, tpl, htpl, hpin⟩ := hpins.resolve_left hnone₂
      rw [hprep.template_eq] at htpl
      refine wp_patchStatus_lands hstored hnone₂ fun c' sb' hsb' hst' => ?_
      refine Or.inr ⟨sb', tpl, hsb', htpl, ?_⟩
      rw [hst']
      exact hpin
  refine wp_all_runFrom_bind hpersist ?_
  rintro ⟨updated, ⟨⟩⟩ c' h
  cases result with
  | error e => exact h
  | ok result =>
    cases updated with
    | error e => exact h
    | ok _ => exact h

/-- A pass that finds no pod creates none, or leaves the sandbox pinned to the template that the
pod was built from. -/
theorem wp_reconcile_pins {c : Cluster} {key : ObjectKey} (hsb : c.find? .sandbox key = some sb)
    (hlive : sb.deleting = false) (hnone : NoPod pod c) :
    (r.reconcile key ()).wp (Serves lag (Lands pod)) (fun _ _ => True) (fun _ c' =>
      NoPod pod c' ∨ PinnedTo r c sb key c') c := by
  obtain rfl := key_of_find? hsb
  have hget : (getOptional Kind.sandbox sb.key : ClientM Unit (Option Sandbox)).Frame (GateOp []) id :=
    frame_getOptional (gateOp_read rfl (by nofun))
  refine wp_all_bind (wp_gate_noPod lag (fun found _ c₁ => found = some sb ∧ c₁ = c) hget
    (by simp) (wp_getOptional.mpr ⟨trivial, hsb, rfl⟩) hnone) ?_ fun _ _ _ h => Or.inl h.1
  rintro found ⟨⟩ c₁ ⟨-, hfound, rfl⟩
  obtain rfl : found = some sb := hfound
  show ((if sb.deleting then _ else _ : ClientM Unit Result) ()).wp _ _ _ _
  rw [if_neg (by simp [hlive])]
  exact wp_reconcileLive_pins hsb hlive hnone

end Absent

/-! ## The pin of a pod that is there -/

section Present

variable {r : SandboxReconciler} {sb : Sandbox} {lag : Bool} {key : ObjectKey} {c c₁ c₂ : Cluster}

/-- The sandbox is there and not being deleted, with a status that a pass from `c` works out. -/
def Recorded (r : SandboxReconciler) (lag : Bool) (c : Cluster) (sb : Sandbox) (key : ObjectKey)
    (c' : Cluster) : Prop :=
  ∃ sb', c'.find? .sandbox key = some sb' ∧ sb'.deleting = false ∧ Worked r lag c sb sb'.status

theorem RecordCall.recorded {op : Call} {a : Resp Spec Status op} (hop : RecordCall r lag c sb op)
    (h : LagStep lag op c₁ a c₂) (hrec : Recorded r lag c sb key c₁) :
    Recorded r lag c sb key c₂ := by
  obtain ⟨sb₁, hsb₁, hlive, hworked⟩ := hrec
  have hsandbox : ∀ t, op.target = some (.sandbox, t) →
      (∃ o, op = .update .sandbox o) ∨ ∃ o, op = .updateStatus .sandbox o := by
    intro t ht
    exact hop.writes.resolve_left fun h => absurd (h _ ht) (by simp [bodyKinds, gateKinds])
  rcases h.state with rfl | hstep
  · exact ⟨sb₁, hsb₁, hlive, hworked⟩
  cases hsb₂ : c₂.find? .sandbox key with
  | none =>
    cases hstep.gone hsb₁ hsb₂ with
    | deleted site hop' =>
      subst hop'
      rcases hsandbox _ rfl with ⟨o, ho⟩ | ⟨o, ho⟩ <;> cases ho
    | finalized new _ _ hdeleting => cases hlive.symm.trans hdeleting
  | some sb₂ =>
    refine ⟨sb₂, hsb₂, ?_⟩
    cases hstep.written hsb₂ with
    | kept hold =>
      obtain rfl := Option.some.inj (hsb₁.symm.trans hold)
      exact ⟨hlive, hworked⟩
    | created o _ _ hnone => cases hsb₁.symm.trans hnone
    | updated old o _ _ hold h =>
      obtain rfl := Option.some.inj (hsb₁.symm.trans hold)
      subst h
      exact ⟨hlive, hworked⟩
    | statusUpdated old o hop' _ hold h =>
      obtain rfl := Option.some.inj (hsb₁.symm.trans hold)
      subst h
      exact ⟨hlive, hop.status o hop'⟩
    | patched old change hop' | statusPatched old change hop' | terminated old change hop' =>
      subst hop'
      rcases hsandbox _ rfl with ⟨o, ho⟩ | ⟨o, ho⟩ <;> cases ho

theorem wp_reconcile_recorded (hsb : c.find? .sandbox key = some sb) (hlive : sb.deleting = false) :
    (r.reconcile key ()).wp (LagStep lag) (fun _ _ => True)
      (fun _ c' => Recorded r lag c sb key c') c := by
  refine Prog.wp_mono (Prog.wp_preserves (I := Recorded r lag c sb key)
    (fun op c a c' hop ha h => hop.recorded ha h) (wp_reconcile_report r hsb hlive)
    ⟨sb, hsb, hlive, Or.inr rfl⟩) (fun _ _ _ => trivial) fun _ _ h => h.2

/-- A pass pins another template only where it reads no pod and the sandbox is to run. -/
theorem Worked.templateHash {status : SandboxStatus} (h : Worked r lag c sb status) :
    status.templateHash = sb.status.templateHash ∨ ∃ tpl, GatesOpen c sb tpl ∧
      ¬Suspends c sb tpl sb.status.lastActivityTime ∧ podRead lag c (podKey sb) = none ∧
        status.templateHash = r.templateHash tpl.spec := by
  rcases h with (⟨-, h⟩ | ⟨tpl, hopen, h⟩) | h
  · refine Or.inl ((congrArg Report.templateHash h).trans ?_)
    unfold stoppedReport
    split_ifs <;> rfl
  · cases h with
    | suspended _ _ h | suspending _ _ _ h | dead _ _ _ _ h | settled _ _ _ _ h =>
      exact Or.inl (congrArg Report.templateHash h)
    | created hrun hread h => exact Or.inr ⟨tpl, hopen, hrun, hread, congrArg Report.templateHash h⟩
  · exact Or.inl h

end Present

/-! ## Runs -/

/-- The cluster, and the template spec that the pod of the sandbox was built from. -/
structure DriftWorld where
  cluster : Cluster
  builtFrom : Option SandboxTemplateSpec

/-- The template that the sandbox under `key` names. -/
def templateOf (c : Cluster) (key : ObjectKey) : Option SandboxTemplate :=
  (c.find? .sandbox key).bind fun sb => c.find? .sandboxTemplate ⟨"", sb.spec.template⟩

/-- A pass that starts without the pod builds it, if at all, from the template of the moment. -/
def DriftWorld.afterPass (w : DriftWorld) (key : ObjectKey) (c' : Cluster) : DriftWorld where
  cluster := c'
  builtFrom :=
    if (w.cluster.find? .pod (podKeyOf key)).isSome then w.builtFrom
    else (templateOf w.cluster key).map (·.spec)

/-- What happens beside the passes over `key` : templates are edited, the sandbox is stopped and
started, sessions come and go, the pod changes its status or is gone. The others do not create
sandbox pods, do not delete the sandbox and leave its pin alone. -/
structure Undisturbed (key : ObjectKey) (c c' : Cluster) : Prop where
  pods : ∀ pod', c'.find? .pod (podKeyOf key) = some pod' → ∃ pod,
    c.find? .pod (podKeyOf key) = some pod ∧ pod'.metadata.uid = pod.metadata.uid
  sandbox : ∀ sb, c.find? .sandbox key = some sb → ∃ sb', c'.find? .sandbox key = some sb' ∧
    sb'.status.templateHash = sb.status.templateHash
  live : ∀ sb', c'.find? .sandbox key = some sb' → sb'.deleting = false

/-- One step of a run : a whole pass over `key`, with or without an error, or a step of the
others. `Answers` and `Reads` restrict the passes, by what the server answers and by where a read
of the pod may lag. -/
inductive DriftStep (r : SandboxReconciler) (key : ObjectKey)
    (Answers : (op : Call) → Cluster → Resp Spec Status op → Cluster → Prop)
    (Reads : Bool → DriftWorld → Prop) : DriftWorld → DriftWorld → Prop
  | pass {w : DriftWorld} {lag : Bool} {t : List (Call × Cluster)} {out : Except ApiError Result × Unit}
    {c' : Cluster} (hreads : Reads lag w)
    (h : (r.reconcile key ()).Exec (Serves lag Answers) w.cluster t out c') :
    DriftStep r key Answers Reads w (w.afterPass key c')
  | others {w : DriftWorld} {c' : Cluster} (h : Undisturbed key w.cluster c') :
    DriftStep r key Answers Reads w { w with cluster := c' }

/-- A pass that does not see the pod, and would create it, finds the template it was built from. -/
def LagHarmless (r : SandboxReconciler) (key : ObjectKey) (lag : Bool) (w : DriftWorld) : Prop :=
  lag = true → ∀ pod sb tpl, w.cluster.find? .pod (podKeyOf key) = some pod →
    w.cluster.find? .sandbox key = some sb → GatesOpen w.cluster sb tpl →
    ¬Suspends w.cluster sb tpl sb.status.lastActivityTime →
    w.builtFrom.map r.templateHash = some (r.templateHash tpl.spec)

/-- The sandbox is not being deleted, and pinned to what its pod was built from. -/
structure DriftInvariant (r : SandboxReconciler) (key : ObjectKey) (w : DriftWorld) : Prop where
  live : ∀ sb, w.cluster.find? .sandbox key = some sb → sb.deleting = false
  pinned : ∀ pod, w.cluster.find? .pod (podKeyOf key) = some pod → ∃ sb spec,
    w.cluster.find? .sandbox key = some sb ∧ w.builtFrom = some spec ∧
      sb.status.templateHash = r.templateHash spec

section Runs

variable {r : SandboxReconciler} {key : ObjectKey} {w w' : DriftWorld} {lag : Bool} {c' : Cluster}

theorem podKey_eq_podKeyOf {c : Cluster} {sb : Sandbox} (h : c.find? .sandbox key = some sb) :
    podKey sb = podKeyOf key := by
  obtain rfl := key_of_find? h
  rfl

theorem DriftInvariant.others (h : DriftInvariant r key w) (hothers : Undisturbed key w.cluster c') :
    DriftInvariant r key { w with cluster := c' } where
  live := hothers.live
  pinned := by
    intro pod' hpod'
    obtain ⟨pod, hpod, -⟩ := hothers.pods pod' hpod'
    obtain ⟨sb, spec, hsb, hbuilt, hpin⟩ := h.pinned pod hpod
    obtain ⟨sb', hsb', hkept⟩ := hothers.sandbox sb hsb
    exact ⟨sb', spec, hsb', hbuilt, hkept.trans hpin⟩

/-- A pass over a key under which there is no sandbox. -/
theorem wp_reconcile_none {Answers : (op : Call) → Cluster → Resp Spec Status op → Cluster → Prop}
    {c : Cluster} (hsb : c.find? .sandbox key = none) :
    (r.reconcile key ()).wp (Serves lag Answers) (fun _ _ => True) (fun _ c' => c' = c) c := by
  have hget : (getOptional Kind.sandbox key : ClientM Unit (Option Sandbox)).Frame
      (· = .get .sandbox key) id := frame_getOptional rfl
  have hsame : (getOptional Kind.sandbox key : ClientM Unit (Option Sandbox)).Maintains
      (Serves lag Answers) (fun _ _ => True) fun _ => (· = c) := by
    refine hget.maintains (fun _ _ _ _ _ => trivial) ?_ fun _ _ _ _ => id
    rintro op st c₁ a c₂ rfl h rfl
    exact (h.1.step (by nofun)).get_state
  have hread : (getOptional Kind.sandbox key : ClientM Unit (Option Sandbox)).Ends
      (Serves lag Answers) (fun found _ _ => found = none) () c := by
    refine hget.handler ?_ (wp_getOptional.mpr ⟨trivial, hsb⟩)
    rintro op c₁ a c₂ rfl h
    exact h.1.step (by nofun)
  refine wp_all_bind (Prog.wp_mono (Prog.wp_and (hsame () c rfl) hread) (fun _ _ _ => trivial)
    fun _ _ => id) ?_ fun _ _ _ h => h.1
  rintro found ⟨⟩ c₁ ⟨hc₁, hfound⟩
  obtain rfl : found = none := hfound
  exact hc₁

theorem DriftInvariant.pass {t : List (Call × Cluster)} {out : Except ApiError Result × Unit}
    (h : DriftInvariant r key w) (hlag : LagHarmless r key lag w)
    (hpass : (r.reconcile key ()).Exec (Serves lag (Lands (podKeyOf key))) w.cluster t out c') :
    DriftInvariant r key (w.afterPass key c') := by
  cases hsb : w.cluster.find? .sandbox key with
  | none =>
    obtain rfl : c' = w.cluster := (hpass.wp (wp_reconcile_none hsb)).2
    refine ⟨h.live, fun pod hpod => ?_⟩
    obtain ⟨sb, -, hsb', -⟩ := h.pinned pod hpod
    exact nomatch hsb.symm.trans hsb'
  | some sb =>
    have hlive := h.live sb hsb
    obtain ⟨sb', hsb', hlive', hworked⟩ := (hpass.wp (wp_serves (wp_reconcile_recorded hsb hlive))).2
    refine ⟨fun sb'' hsb'' => ?_, fun pod' hpod' => ?_⟩
    · rwa [← Option.some.inj (hsb'.symm.trans hsb'')]
    cases hpod : w.cluster.find? .pod (podKeyOf key) with
    | none =>
      rcases (hpass.wp (wp_reconcile_pins hsb hlive hpod)).2 with hnone | ⟨sb'', tpl, hsb'', htpl, hpin⟩
      · exact nomatch hnone.symm.trans hpod'
      · refine ⟨sb'', tpl.spec, hsb'', ?_, hpin⟩
        simp [DriftWorld.afterPass, hpod, templateOf, hsb, htpl]
    | some pod =>
      obtain ⟨old, spec, hold, hbuilt, hpin⟩ := h.pinned pod hpod
      obtain rfl := Option.some.inj (hsb.symm.trans hold)
      refine ⟨sb', spec, hsb', by simp [DriftWorld.afterPass, hpod, hbuilt], ?_⟩
      rcases hworked.templateHash with hkept | ⟨tpl, hopen, hrun, hread, hnew⟩
      · exact hkept.trans hpin
      · rw [podKey_eq_podKeyOf hsb, podRead, hpod] at hread
        have hlagging : lag = true := by
          by_contra hno
          simp [hno] at hread
        have hsame := hlag hlagging pod sb tpl hpod hsb hopen hrun
        rw [hbuilt] at hsame
        exact hnew.trans (Option.some.inj hsame).symm

theorem DriftInvariant.step (h : DriftInvariant r key w)
    (hstep : DriftStep r key (Lands (podKeyOf key)) (LagHarmless r key) w w') :
    DriftInvariant r key w' := by
  cases hstep with
  | pass hreads hpass => exact h.pass hreads hpass
  | others hothers => exact h.others hothers

theorem DriftInvariant.run {w₀ : DriftWorld} (h : DriftInvariant r key w₀)
    (hrun : Relation.ReflTransGen (DriftStep r key (Lands (podKeyOf key)) (LagHarmless r key)) w₀ w) :
    DriftInvariant r key w := by
  induction hrun with
  | refl => exact h
  | tail _ hstep ih => exact ih.step hstep

end Runs

theorem drift_eq_true_iff {pinned currentHash : String} (hpinned : pinned ≠ "") :
    drift pinned currentHash = .true ↔ currentHash ≠ pinned := by
  unfold drift
  split_ifs with h
  · simpa using fun heq => h.2 heq.symm
  · simp only [not_and, not_not] at h
    simp [h hpinned]

/-- In a run in which the pod and its pin come together, and no pass pins another template over a
pod it does not see, a pass without error that finds the pod, and does not suspend the sandbox,
reports the template as outdated exactly when its hash is not that of the template the pod was
built from. -/
theorem template_outdated_truthful (r : SandboxReconciler) (key : ObjectKey)
    (hhash : ∀ spec, r.templateHash spec ≠ "") (w₀ w : DriftWorld)
    (hvacant : w₀.cluster.find? .pod (podKeyOf key) = none)
    (hlive : ∀ sb, w₀.cluster.find? .sandbox key = some sb → sb.deleting = false)
    (hrun : Relation.ReflTransGen (DriftStep r key (Lands (podKeyOf key)) (LagHarmless r key)) w₀ w)
    (lag : Bool) (t : List (Call × Cluster)) (result : Result) (c' : Cluster) (sb : Sandbox)
    (tpl : SandboxTemplate) (pod : Pod) (hsb : w.cluster.find? .sandbox key = some sb)
    (hopen : GatesOpen w.cluster sb tpl)
    (hruns : ¬Suspends w.cluster sb tpl sb.status.lastActivityTime)
    (hfound : podRead lag w.cluster (podKeyOf key) = some pod) (halive : podDead pod = false)
    (hpass : (r.reconcile key ()).Exec (LagStep lag) w.cluster t (.ok result, ()) c') :
    ∃ sb' spec, c'.find? .sandbox key = some sb' ∧ w.builtFrom = some spec ∧
      (conditionStatus sb'.status.conditions .templateOutdated = some .true ↔
        r.templateHash tpl.spec ≠ r.templateHash spec) := by
  have hstart : DriftInvariant r key w₀ := by
    refine ⟨hlive, fun pod hpod => ?_⟩
    cases hvacant.symm.trans hpod
  have hinv := hstart.run hrun
  have hlagging : lag = false := by
    by_contra hno
    simp [podRead, hno] at hfound
  subst hlagging
  obtain ⟨old, spec, hold, hbuilt, hpin⟩ := hinv.pinned pod hfound
  obtain rfl := Option.some.inj (hsb.symm.trans hold)
  obtain ⟨sb', hsb', hreport⟩ := (hpass.wp (wp_reconcile_report r hsb (hinv.live sb hsb))).2
  refine ⟨sb', spec, hsb', hbuilt, ?_⟩
  have hcondition : conditionStatus sb'.status.conditions .templateOutdated =
      (report sb'.status).templateOutdated := rfl
  rcases hreport with ⟨hblocked, -⟩ | ⟨tpl', hopen', hreport⟩
  · exact absurd hopen (hblocked tpl)
  obtain rfl := gatesOpen_tpl_unique sb hopen hopen'
  rw [podKey_eq_podKeyOf hsb, hfound] at hreport
  cases hreport with
  | suspended hs | suspending _ hs => exact absurd hs hruns
  | created _ hread => cases hread
  | dead pod' _ hread hdead =>
    cases hread
    cases halive.symm.trans hdead
  | settled pod' _ _ _ h =>
    have hpinned : sb.status.templateHash ≠ "" := by
      rw [hpin]
      exact hhash spec
    rw [hcondition, h, Option.some_inj, ← hpin]
    exact drift_eq_true_iff hpinned

/-! ## A lost pin -/

namespace Team

/-- A controller whose template hash tells templates apart by image, and is never empty. -/
def pinning : SandboxReconciler :=
  { reconciler with templateHash := fun tpl => "image:" ++ tpl.image }

/-- The team's cluster with a new sandbox. -/
def unbuilt : DriftWorld :=
  ⟨cluster [template] (sandbox .running {}) [], none⟩

/-- A user moves the template to another image. -/
def imageMoves (w : DriftWorld) : DriftWorld :=
  { w with cluster := (handle (.patch .sandboxTemplate ⟨"", "base"⟩ fun spec =>
    { spec with image := "next" }) w.cluster).2 }

/-- The pod is created and pinned, and then the template is edited. -/
def driftedPinned : DriftWorld :=
  imageMoves (unbuilt.afterPass key (runPass pinning key unbuilt.cluster).2)

/-- The pod is created and the status lost to a conflict, and then the template is edited. -/
def driftedUnpinned : DriftWorld :=
  imageMoves (unbuilt.afterPass key ((pinning.reconcile key ()).run refuseStatus unbuilt.cluster).2)

/-- The server answers the call without error, if it creates a pod or writes a sandbox's status. -/
def answered : Call → Cluster → Bool
  | .create .pod o, c => (handle (.create .pod o) c).1.toOption.isSome
  | .updateStatus .sandbox o, c => (handle (.updateStatus .sandbox o) c).1.toOption.isSome
  | _, _ => true

end Team

/-- A pass whose calls are answered faithfully. -/
theorem lands_handle {pod : ObjectKey} {op : Call} {c : Cluster}
    (h : Team.answered op c = true) : Lands pod op c (handle op c).1 (handle op c).2 := by
  constructor
  · rintro o e rfl hfails
    have hfails : (handle (.create .pod o) c).1 = .error e := hfails
    simp only [Team.answered, hfails] at h
    cases h
  · rintro o e rfl hfails
    have hfails : (handle (.updateStatus .sandbox o) c).1 = .error e := hfails
    simp only [Team.answered, hfails] at h
    cases h

/-- An edit of a template leaves the sandbox and its pod alone. -/
theorem undisturbed_imageMoves {w : DriftWorld} {key : ObjectKey}
    (hlive : ∀ sb, w.cluster.find? .sandbox key = some sb → sb.deleting = false) :
    Undisturbed key w.cluster (Team.imageMoves w).cluster := by
  have houtside : SameOutside [.sandboxTemplate] w.cluster (Team.imageMoves w).cluster :=
    (step_handle _ _).sameOutside (within_write rfl (by simp))
  have hpods := houtside.find? (show Kind.pod ∉ [Kind.sandboxTemplate] by decide)
  have hsandboxes := houtside.find? (show Kind.sandbox ∉ [Kind.sandboxTemplate] by decide)
  refine ⟨fun pod' hpod' => ⟨pod', ?_, rfl⟩, fun sb hsb => ⟨sb, ?_, rfl⟩, fun sb hsb => hlive sb ?_⟩
  · rw [← hpods, hpod']
  · rw [hsandboxes, hsb]
  · rw [← hsandboxes, hsb]

/-- A pass from `w` comes to a pod that is not dead and does not suspend the sandbox; the hash of
the template is not that of the template the pod was built from. -/
structure Drifted (r : SandboxReconciler) (key : ObjectKey) (w : DriftWorld) (sb : Sandbox)
    (tpl : SandboxTemplate) (pod : Pod) (spec : SandboxTemplateSpec) : Prop where
  stored : w.cluster.find? .sandbox key = some sb
  gates : GatesOpen w.cluster sb tpl
  runs : ¬Suspends w.cluster sb tpl sb.status.lastActivityTime
  found : podRead false w.cluster (podKeyOf key) = some pod
  alive : podDead pod = false
  built : w.builtFrom = some spec
  differs : r.templateHash tpl.spec ≠ r.templateHash spec

/-- `Drifted`, to be evaluated. -/
def Team.drifted (w : DriftWorld) : Bool :=
  (w.cluster.find? .sandbox Team.key).any fun sb =>
    (w.cluster.find? .sandboxTemplate ⟨"", sb.spec.template⟩).any fun tpl =>
      (w.cluster.find? .pod (podKeyOf Team.key)).any fun pod => w.builtFrom.any fun spec =>
        homeOpen w.cluster sb && profilePermits w.cluster sb && sb.spec.desiredState ≠ .stopped &&
          !idleExpired sb.status.lastActivityTime (effectiveIdleTimeout sb tpl) w.cluster.clock &&
            !podDead pod && Team.pinning.templateHash tpl.spec ≠ Team.pinning.templateHash spec

theorem drifted_of_eval {w : DriftWorld} (h : Team.drifted w = true) :
    ∃ sb tpl pod spec, Drifted Team.pinning Team.key w sb tpl pod spec := by
  obtain ⟨sb, hsb, h⟩ := (Option.any_eq_true _ _).mp h
  obtain ⟨tpl, htpl, h⟩ := (Option.any_eq_true _ _).mp h
  obtain ⟨pod, hpod, h⟩ := (Option.any_eq_true _ _).mp h
  obtain ⟨spec, hspec, h⟩ := (Option.any_eq_true _ _).mp h
  simp only [Bool.and_eq_true, decide_eq_true_eq, Bool.not_eq_true'] at h
  obtain ⟨⟨⟨⟨⟨hhome, hprofile⟩, hdesired⟩, hidle⟩, halive⟩, hdiffers⟩ := h
  refine ⟨sb, tpl, pod, spec, hsb, ⟨htpl, hhome, hprofile⟩, ?_, hpod, halive, hspec, hdiffers⟩
  rintro (hstopped | ⟨-, hexpired⟩)
  · exact hdesired hstopped
  · exact nomatch hidle.symm.trans hexpired

theorem exec_runPass_lag {r : SandboxReconciler} {key : ObjectKey} {c : Cluster} {result : Result}
    (h : (runPass r key c).1.toOption = some result) : (r.reconcile key ()).Exec (LagStep false) c
      (passTrace r key c) (.ok result, ()) (runPass r key c).2 := by
  have hrun := Prog.exec_run (fun op c => lagStep_false.mpr (step_handle op c)) (r.reconcile key ()) c
  cases hr : (runPass r key c).1 with
  | error e =>
    rw [hr] at h
    cases h
  | ok a =>
    rw [hr] at h
    obtain rfl := Option.some.inj h
    exact hr ▸ hrun

/-- A pass, and then an edit of the template. -/
theorem driftRun_imageMoves {r : SandboxReconciler}
    {Answers : (op : Call) → Cluster → Resp Spec Status op → Cluster → Prop}
    {Reads : Bool → DriftWorld → Prop} {w₀ w : DriftWorld}
    (hpass : DriftStep r Team.key Answers Reads w₀ w)
    (hlive : (w.cluster.find? .sandbox Team.key).all (fun sb => sb.deleting = false) = true) :
    Relation.ReflTransGen (DriftStep r Team.key Answers Reads) w₀ (Team.imageMoves w) := by
  refine (Relation.ReflTransGen.single hpass).tail (.others (undisturbed_imageMoves fun sb hsb => ?_))
  rw [hsb] at hlive
  exact of_decide_eq_true hlive

/-- The pod is created and pinned, the template edited, and the drift reported. -/
theorem drift_reported :
    Relation.ReflTransGen (DriftStep Team.pinning Team.key (Lands (podKeyOf Team.key))
        (LagHarmless Team.pinning Team.key)) Team.unbuilt Team.driftedPinned ∧
      ∃ sb tpl pod spec sb', Drifted Team.pinning Team.key Team.driftedPinned sb tpl pod spec ∧
        (runPass Team.pinning Team.key Team.driftedPinned.cluster).2.find? .sandbox Team.key =
          some sb' ∧ conditionStatus sb'.status.conditions .templateOutdated = some .true := by
  have hanswered : (passTrace Team.pinning Team.key Team.unbuilt.cluster).all
      (fun e => Team.answered e.1 e.2) = true := by decide +kernel
  have hreads : LagHarmless Team.pinning Team.key false Team.unbuilt := nofun
  have hrun : Relation.ReflTransGen (DriftStep Team.pinning Team.key (Lands (podKeyOf Team.key))
      (LagHarmless Team.pinning Team.key)) Team.unbuilt Team.driftedPinned := by
    refine driftRun_imageMoves (.pass hreads (Prog.exec_run_of_trace _ _ fun e he => ?_))
      (by decide +kernel)
    exact ⟨lagStep_false.mpr (step_handle _ _), lands_handle (List.all_eq_true.mp hanswered e he)⟩
  obtain ⟨sb, tpl, pod, spec, h⟩ : ∃ sb tpl pod spec, Drifted Team.pinning Team.key
      Team.driftedPinned sb tpl pod spec := drifted_of_eval (by decide +kernel)
  obtain ⟨sb', spec', hsb', hbuilt, hreport⟩ := template_outdated_truthful Team.pinning Team.key
    (fun spec => by simp [Team.pinning]) Team.unbuilt Team.driftedPinned (by decide +kernel)
    (by rintro sb ⟨⟩; rfl) hrun false _ {} _ sb tpl pod h.stored h.gates h.runs h.found h.alive
    (exec_runPass_lag (by decide +kernel))
  obtain rfl := Option.some.inj (h.built.symm.trans hbuilt)
  exact ⟨hrun, sb, tpl, pod, spec, sb', h, hsb', hreport.mpr h.differs⟩

/-- The pod is created and the status that pins it is lost to a conflict. After an edit of the
template a pass without error finds the pod and reports that it matches the template. -/
theorem drift_unreported :
    Relation.ReflTransGen (DriftStep Team.pinning Team.key (fun _ _ _ _ => True) fun _ _ => True)
        Team.unbuilt Team.driftedUnpinned ∧
      ∃ sb tpl pod spec sb', Drifted Team.pinning Team.key Team.driftedUnpinned sb tpl pod spec ∧
        (Team.pinning.reconcile Team.key ()).Exec (LagStep false) Team.driftedUnpinned.cluster
          (passTrace Team.pinning Team.key Team.driftedUnpinned.cluster) (.ok {}, ())
          (runPass Team.pinning Team.key Team.driftedUnpinned.cluster).2 ∧
        (runPass Team.pinning Team.key Team.driftedUnpinned.cluster).2.find? .sandbox Team.key =
          some sb' ∧ conditionStatus sb'.status.conditions .templateOutdated = some .false := by
  have hrun : Relation.ReflTransGen (DriftStep Team.pinning Team.key (fun _ _ _ _ => True)
      fun _ _ => True) Team.unbuilt Team.driftedUnpinned := by
    have hserves : ∀ op c, Serves false (fun _ _ _ _ => True) op c (refuseStatus op c).1
        (refuseStatus op c).2 :=
      fun op c => ⟨lagStep_false.mpr (step_refuseStatus op c), trivial⟩
    exact driftRun_imageMoves (.pass trivial (Prog.exec_run hserves _ _)) (by decide +kernel)
  obtain ⟨sb, tpl, pod, spec, h⟩ : ∃ sb tpl pod spec, Drifted Team.pinning Team.key
      Team.driftedUnpinned sb tpl pod spec := drifted_of_eval (by decide +kernel)
  have hreport : ((runPass Team.pinning Team.key Team.driftedUnpinned.cluster).2.find? .sandbox
      Team.key).any (fun sb => conditionStatus sb.status.conditions .templateOutdated = some .false) =
        true := by decide +kernel
  obtain ⟨sb', hsb', hfalse⟩ := (Option.any_eq_true _ _).mp hreport
  exact ⟨hrun, sb, tpl, pod, spec, sb', h, exec_runPass_lag (by decide +kernel), hsb',
    of_decide_eq_true hfalse⟩

end Kubepark

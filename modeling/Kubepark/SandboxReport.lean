import Kubepark.SandboxGates

/-!
# What a status reports

The conditions Ready, PodReady and TemplateOutdated of a sandbox, and the hash of the template
its pod is pinned to. The gates set at most Ready : a missing template and a profile that does
not permit the sandbox make it false, a home that cannot be used leaves it as it was
(`stoppedReport`).

The controller reads through a cache, which may lag behind the creation of a pod. `LagStep` is
the server behind such a cache. The gates read no pod, so they cannot tell (`LagStep.step`).
-/

namespace Kubepark

open ApiServer Client SandboxReconciler Routine

/-! ## Conditions -/

/-- The status of the condition of a type, if it was ever set. -/
def conditionStatus (conditions : List Condition) (type : ConditionType) : Option ConditionStatus :=
  (conditions.find? fun c => c.type = type).map (·.status)

theorem find?_setStatusCondition (new : Condition) (type : ConditionType) :
    ∀ l : List Condition, (setStatusCondition new l).find? (fun c => c.type = type) =
      if new.type = type then some new else l.find? fun c => c.type = type
  | [] => by
    by_cases h : new.type = type <;> simp [setStatusCondition, h]
  | c :: l => by
    rw [setStatusCondition]
    by_cases hsame : c.type = new.type
    · by_cases h : new.type = type <;> simp [hsame, h]
    · rw [if_neg hsame, List.find?_cons, List.find?_cons, find?_setStatusCondition new type l]
      by_cases h : new.type = type
      · have hne : ¬c.type = type := fun he => hsame (he.trans h.symm)
        simp [h, hne]
      · simp [h]

@[simp] theorem conditionStatus_set (cond : Condition) (l : List Condition) (type : ConditionType) :
    conditionStatus (setStatusCondition cond l) type =
      if cond.type = type then some cond.status else conditionStatus l type := by
  simp only [conditionStatus, find?_setStatusCondition]
  split_ifs <;> rfl

/-- What a status reports of the pod. -/
structure Report where
  ready : Option ConditionStatus
  podReady : Option ConditionStatus
  templateOutdated : Option ConditionStatus
  /-- The hash of the template the pod is pinned to. -/
  templateHash : String

def report (st : SandboxStatus) : Report where
  ready := conditionStatus st.conditions .ready
  podReady := conditionStatus st.conditions .podReady
  templateOutdated := conditionStatus st.conditions .templateOutdated
  templateHash := st.templateHash

/-- What a status reports, and what drives the state machine. -/
def standing (st : SandboxStatus) : (SandboxPhase × String × Option Time) × Report :=
  (progress st, report st)

theorem ignoresRBAC_standing : IgnoresRBAC standing := by
  intro st serviceAccount cond hcond
  simp [standing, progress, report, hcond]

/-! ## The gates -/

section Gates

variable (sb : Sandbox)

/-- The part `f` of the status is not about the home. -/
def IgnoresHome {τ : Type} (f : SandboxStatus → τ) : Prop :=
  ∀ st phase claim cond, cond.type = .homeReady →
    f { st with
      phase := phase
      pvcName := claim
      conditions := setStatusCondition cond st.conditions } = f st

theorem ignoresHome_report : IgnoresHome report := by
  intro st phase claim cond hcond
  simp [report, hcond]

/-- The home gate reads, and creates the generated claim; it reports on the home only. -/
theorem frame_reconcileHome {τ : Type} {f : SandboxStatus → τ} {P : Call → Prop}
    (hread : ∀ op, GateOp [] op → P op)
    (hcreate : ∀ tpl, P (.create .persistentVolumeClaim (buildPVC sb tpl))) (hf : IgnoresHome f) :
    (reconcileHome sb).Frame P f := by
  have hready : ∀ claim, (homeReady sb claim).Frame P f :=
    fun claim st => hf st st.phase claim _ rfl
  have hblocked : ∀ reason message result, (homeBlocked sb reason message result).Frame P f :=
    fun reason message result st => hf st .pending st.pvcName _ rfl
  unfold reconcileHome
  cases existingClaim sb with
  | some claim =>
    refine ((frame_claimConflict sb claim).imp hread).bind fun conflict => ?_
    refine frame_ite (hblocked _ _ _) ?_
    refine (frame_getOptional (hread _ (gateOp_read rfl (by nofun)))).bind fun pvc => ?_
    cases pvc with
    | none => exact hblocked _ _ _
    | some pvc => exact hready _
  | none =>
    refine (frame_get (hread _ (gateOp_read rfl (by nofun)))).bind fun tpl => ?_
    refine (frame_getOptional (hread _ (gateOp_read rfl (by nofun)))).bind fun pvc => ?_
    cases pvc with
    | none => exact (frame_createIfAbsent (hcreate tpl)).bind fun _ => hready _
    | some pvc => exact hready _

/-- The home gate as a gate. -/
theorem gate_reconcileHome {τ : Type} {f : SandboxStatus → τ} (hf : IgnoresHome f) :
    (reconcileHome sb).Frame (GateOp Gate.home.kinds) f :=
  frame_reconcileHome sb (fun _ h => h.mono (by simp))
    (fun _ => gateOp_write rfl (by simp [Gate.kinds])) hf

/-- What a gate that stays closed makes of a report. A home that cannot be used leaves it as it
was. -/
def stoppedReport (c : Cluster) (rep : Report) : Report :=
  if (c.find? .sandboxTemplate ⟨"", sb.spec.template⟩).isSome ∧ homeOpen c sb = false then rep
  else { rep with ready := some .false }

theorem report_pendingWith (st : SandboxStatus) (reason : ConditionReason) (message : String) :
    report { st with
      phase := .pending
      conditions := setStatusCondition ⟨.ready, .false, reason, message, sb.metadata.generation⟩
        st.conditions } = { report st with ready := some .false } := by
  simp [report]

end Gates

/-! ## The cache -/

/-- The cluster without its pods. -/
def withoutPods (c : Cluster) : Cluster :=
  { c with store := Function.update c.store .pod KeyedStore.empty }

/-- The server behind a cache. When it lags, a read of pods sees none. -/
def LagStep (lag : Bool) (op : Call) (c : Cluster) (a : Resp Spec Status op) (c' : Cluster) : Prop :=
  if lag = true ∧ op.reads = some .pod then c' = c ∧ ∃ c'', Step op (withoutPods c) a c''
  else Step op c a c'

/-- The pod as a pass reads it. -/
def podRead (lag : Bool) (c : Cluster) (key : ObjectKey) : Option Pod :=
  if lag then none else c.find? .pod key

section Cache

variable {lag : Bool} {op : Call} {c c' : Cluster} {a : Resp Spec Status op}

theorem lagStep_false : LagStep false op c a c' ↔ Step op c a c' := by
  simp [LagStep]

theorem LagStep.step (hop : op.reads ≠ some .pod) (h : LagStep lag op c a c') : Step op c a c' := by
  simpa [LagStep, hop] using h

/-- A call of a lagging client changes what it would change without the lag. -/
theorem LagStep.state (h : LagStep lag op c a c') : c' = c ∨ Step op c a c' := by
  unfold LagStep at h
  split_ifs at h
  · exact Or.inl h.1
  · exact Or.inr h

theorem find?_withoutPods (c : Cluster) (key : ObjectKey) :
    (withoutPods c).find? .pod key = none := by
  simp [find?, withoutPods]

theorem wp_getOptional_pod {σ : Type} {st : σ} {key : ObjectKey} {P : Call → Cluster → Prop}
    {Q : Option Pod → σ → Cluster → Prop} (hP : P (.get .pod key) c)
    (hQ : Q (podRead lag c key) st c) :
    (getOptional Kind.pod key : ClientM σ _).wp (LagStep lag) P Q st c := by
  cases lag with
  | false =>
    have hframe : (getOptional Kind.pod key : ClientM σ _).Frame (fun _ => True) id :=
      frame_getOptional trivial
    exact hframe.handler (fun _ _ _ _ _ h => lagStep_false.mp h) (wp_getOptional.mpr ⟨hP, hQ⟩)
  | true =>
    refine wp_bind.mpr (wp_lift.mpr ⟨hP, fun a c' ha => ?_⟩)
    rw [LagStep, if_pos ⟨rfl, rfl⟩] at ha
    obtain ⟨rfl, c'', hstep⟩ := ha
    cases a with
    | ok pod => exact nomatch (find?_withoutPods _ key).symm.trans hstep.get_ok.1
    | error e => exact wp_ite (fun _ => hQ) fun _ => trivial

end Cache

end Kubepark

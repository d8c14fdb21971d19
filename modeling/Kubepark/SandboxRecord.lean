import Kubepark.SandboxGates

/-!
# The status of a pass, with or without an error

The status a pass works out is persisted also when the pass ends with an error, so what is
said of it has to hold wherever the pass can stop. `MachineInvariant` lists what has to be
shown of a relation between the status and the cluster for a pass to maintain it under some
handler of the calls (`maintains_reconcileSandbox`) : one obligation for the gates and one
for each place where the desired-state machine writes.

`tracks_reconcileSandbox` is the first use : the idle clock is left as it was, or is started
in the very pass that reports the sandbox running.
-/

namespace Kubepark

open ApiServer Client SandboxReconciler Routine

section Maintains

variable (H : (op : Call) → Cluster → Resp Spec Status op → Cluster → Prop)
  (P : Call → Cluster → Prop) (I F : SandboxStatus → Cluster → Prop)

/-- What has to be shown of `I` for the gates to maintain it. -/
structure GateInvariant : Prop where
  /-- The calls of the gates, reads included. -/
  call : ∀ op, op.Within gateKinds → ∀ st c, I st c → P op c ∧ ∀ a c', H op c a c' → I st c'
  progress : ∀ st st' c, progress st' = progress st → I st c → I st' c
  /-- A gate that stays closed. -/
  pending : ∀ st st' c, Kubepark.progress st' = (.pending, st.podIP, st.lastActivityTime) →
    I st c → I st' c

/-- What has to be shown for a pass over `sb` that starts in `I` to end in `F`, which is `I` or
what `I` becomes when the pod is found ready. -/
structure MachineInvariant (r : SandboxReconciler) (sb : Sandbox) : Prop
    extends GateInvariant H P I where
  final : ∀ st c, I st c → F st c
  read : ∀ op, op.target = none → ∀ st c, F st c → P op c ∧ ∀ a c', H op c a c' → F st c'
  finalProgress : ∀ st st' c, Kubepark.progress st' = Kubepark.progress st → F st c → F st' c
  create : ∀ tpl serviceAccount st c, I st c →
    P (.create .pod (r.desiredPod sb tpl serviceAccount)) c ∧
      ∀ a c', H (.create .pod (r.desiredPod sb tpl serviceAccount)) c a c' → I st c'
  /-- When the suspend path deletes the pod, it has cleared the address in the record. -/
  suspend : ∀ st c, I st c → st.podIP = "" → P (.delete .pod (podKey sb) "suspend") c ∧
    ∀ a c', H (.delete .pod (podKey sb) "suspend") c a c' → I st c'
  recreate : ∀ st c, I st c → P (.delete .pod (podKey sb) "run") c ∧
    ∀ a c', H (.delete .pod (podKey sb) "run") c a c' → I st c'
  cleared : ∀ st st' c, st'.podIP = "" → st'.lastActivityTime = st.lastActivityTime →
    (st'.phase = st.phase ∨ st'.phase ≠ .running) → I st c → I st' c
  created : ∀ st st' c, st'.podIP = st.podIP → st'.lastActivityTime = st.lastActivityTime →
    st'.phase ≠ .running → I st c → I st' c
  /-- The pod is read ready, and the clock after it. -/
  ready : ∀ st st' c pod c₁ t c₂, I st c → sb.spec.desiredState ≠ .stopped →
    H (.get .pod (podKey sb)) c (.ok pod) c₁ → podReady pod = true → H .now c₁ t c₂ →
    Kubepark.progress st' = (.running, pod.status.podIP,
      if st.phase ≠ .running ∧ st.lastActivityTime = none then some t else st.lastActivityTime) →
    F st' c₂

variable {H P I F}

namespace GateInvariant

variable (hI : GateInvariant H P I)

include hI

theorem of_frame {α : Type} {x : SandboxM α} (hx : x.Frame (·.Within gateKinds) Kubepark.progress) :
    x.Maintains H P I :=
  hx.maintains (fun op st c hop h => (hI.call op hop st c h).1)
    (fun op st c a c' hop ha h => (hI.call op hop st c h).2 a c' ha) hI.progress

theorem of_gate {α : Type} {x : SandboxM α} {ks : List Kind} (hks : ∀ k ∈ ks, k ∈ gateKinds)
    (hx : x.Frame (GateOp ks) Kubepark.progress) : x.Maintains H P I :=
  hI.of_frame (hx.imp fun _ h => (h.mono hks).within)

/-- A pass that ends with the sandbox pending. -/
theorem maintains_pendingWith (sb : Sandbox) (reason : ConditionReason) (message : String) :
    (pendingWith sb reason message).Maintains H P I :=
  fun st c h => hI.pending st _ c rfl h

theorem maintains_reconcileHome (sb : Sandbox) : (reconcileHome sb).Maintains H P I := by
  have hready : ∀ claim, (homeReady sb claim).Maintains H P I :=
    fun claim => hI.of_frame fun _ => rfl
  have hblocked : ∀ reason message result,
      (homeBlocked sb reason message result).Maintains H P I :=
    fun reason message result st c h => hI.pending st _ c rfl h
  unfold reconcileHome
  cases existingClaim sb with
  | some claim =>
    refine Routine.Leads.bind (hI.of_gate (by simp) (frame_claimConflict sb claim)) fun conflict => ?_
    refine leads_ite (fun _ => hblocked _ _ _) fun _ => ?_
    refine (hI.of_frame (frame_getOptional (within_read rfl))).bind fun pvc => ?_
    cases pvc with
    | none => exact hblocked _ _ _
    | some pvc => exact hready _
  | none =>
    refine (hI.of_frame (frame_get (within_read rfl))).bind fun tpl => ?_
    refine (hI.of_frame (frame_getOptional (within_read rfl))).bind fun pvc => ?_
    cases pvc with
    | none =>
      exact (hI.of_frame (frame_createIfAbsent (within_write rfl (by simp [gateKinds])))).bind
        fun _ => hready _
    | some pvc => exact hready _

end GateInvariant

/-- The gates do not touch the address, so they maintain that it is cleared. -/
theorem GateInvariant.and_cleared (hI : GateInvariant H P I) :
    GateInvariant H P (fun st c => I st c ∧ st.podIP = "") where
  call op hop st c h := by
    obtain ⟨hP, hstep⟩ := hI.call op hop st c h.1
    exact ⟨hP, fun a c' ha => ⟨hstep a c' ha, h.2⟩⟩
  progress st st' c hst h := by
    have hip : st'.podIP = st.podIP := congrArg (fun p => p.2.1) hst
    exact ⟨hI.progress st st' c hst h.1, hip.trans h.2⟩
  pending st st' c hst h := by
    have hip : st'.podIP = st.podIP := congrArg (fun p => p.2.1) hst
    exact ⟨hI.pending st st' c hst h.1, hip.trans h.2⟩

namespace MachineInvariant

variable {r : SandboxReconciler} {sb : Sandbox} (hI : MachineInvariant H P I F r sb)

include hI

theorem maintains_suspend : (SandboxReconciler.suspend sb).Maintains H P I := by
  have hI₀ := hI.toGateInvariant.and_cleared
  have hstop : ∀ st st' c, st'.podIP = "" → st'.lastActivityTime = st.lastActivityTime →
      st'.phase ≠ .running → I st c ∧ st.podIP = "" → I st' c ∧ st'.podIP = "" :=
    fun st st' c hip hactivity hphase h => ⟨hI.cleared st st' c hip hactivity (Or.inr hphase) h.1, hip⟩
  have hclear : (Routine.modify fun st => { st with podIP := "" } : SandboxM Unit).Leads H P I
      (fun st c => I st c ∧ st.podIP = "") :=
    fun st c h => ⟨hI.cleared st _ c rfl rfl (Or.inl rfl) h, rfl⟩
  have hdrop : ∀ (st : SandboxStatus) c, I st c ∧ st.podIP = "" → I st c := fun _ _ h => h.1
  refine hclear.seq (fun _ => ?_) hdrop
  refine Routine.Leads.mono (F := fun st c => I st c ∧ st.podIP = "") ?_ (fun _ _ h => h) hdrop
  refine (hI₀.of_frame (frame_getOptional (within_read rfl))).bind fun pod => ?_
  cases pod with
  | none => exact fun st c h => hstop st _ c h.2 rfl (by simp) h
  | some pod =>
    refine (maintains_modify fun st c h =>
      hstop st { st with phase := .suspending } c h.2 rfl (by simp) h).bind fun _ => ?_
    refine leads_ite (fun _ => maintains_pure _) fun _ => ?_
    refine (maintains_deleteIfPresent fun st c h => ?_).bind fun _ => maintains_pure _
    obtain ⟨hP, hstep⟩ := hI.suspend st c h.1 h.2
    exact ⟨hP, fun a c' ha => ⟨hstep a c' ha, h.2⟩⟩

theorem maintains_reportDrift (currentHash : String) :
    (reportDrift sb currentHash).Maintains H P F := by
  refine fun st c h => ?_
  show ((if _ then _ else _ : SandboxM Unit) st).wp H P _ c
  split_ifs
  · exact hI.finalProgress st _ c rfl h
  · exact hI.finalProgress st _ c rfl h

theorem maintains_runDead (pod : Pod) : (runDead sb pod).Maintains H P I := by
  have hdone : ((Routine.modify (fun st => { st with phase := .provisioning, podIP := "" }) >>=
      fun _ => setCondition sb .podReady .false .provisioning
        ("pod " ++ pod.status.phase.text ++ ", recreating") >>= fun _ =>
          pure { requeueAfter := 10 * second }) : SandboxM Result).Maintains H P I :=
    fun st c h => hI.cleared st _ c rfl rfl (Or.inr (by simp)) h
  refine leads_ite (fun _ => hdone) fun _ => ?_
  exact (maintains_deleteIfPresent hI.recreate).bind fun _ => hdone

theorem leads_run (tpl : SandboxTemplate) (currentHash serviceAccount : String)
    (hrun : sb.spec.desiredState ≠ .stopped) :
    (r.run sb tpl currentHash serviceAccount).Leads H P I F := by
  refine leads_getOptional_bind (hI.call _ (within_read rfl)) hI.final ?_ ?_
  · refine Routine.Leads.mono ?_ (fun _ _ h => h) hI.final
    refine (maintains_createIfAbsent fun st c h => hI.create tpl serviceAccount st c h).bind fun _ => ?_
    refine fun st c h => hI.created st _ c rfl rfl ?_ h
    show (if _ then _ else _) ≠ SandboxPhase.running
    split_ifs <;> simp
  · intro pod st c c₁ h hget
    have hc₁ := (hI.call _ (within_read rfl) st c h).2 _ c₁ hget
    have hnamed : I { st with podName := pod.metadata.name } c₁ := hI.progress st _ c₁ rfl hc₁
    have htail : ((reportDrift sb currentHash >>= fun _ => pure {}) : SandboxM Result).Maintains H P F :=
      (hI.maintains_reportDrift currentHash).bind fun _ => maintains_pure _
    show ((if podDead pod = true then _ else _ : SandboxM Result)
      { st with podName := pod.metadata.name }).wp H P _ c₁
    split_ifs with hdead hready
    · exact (hI.maintains_runDead pod).mono (fun _ _ h => h) hI.final _ c₁ hnamed
    · refine ⟨(hI.call _ (within_read rfl) _ c₁ hnamed).1, fun t c₂ hnow => ?_⟩
      exact htail _ c₂ (hI.ready st _ c pod c₁ t c₂ h hrun hget hready hnow rfl)
    · refine htail _ c₁ (hI.final _ c₁ (hI.cleared st _ c₁ rfl rfl (Or.inr ?_) hc₁))
      show (if _ then _ else _) ≠ SandboxPhase.running
      split_ifs <;> simp

theorem leads_driveState (tpl : SandboxTemplate) (serviceAccount : String) :
    (r.driveState sb tpl serviceAccount).Leads H P I F := by
  have hsuspend := hI.maintains_suspend.mono (fun _ _ h => h) hI.final
  have hnow : (now : SandboxM Time).Maintains H P I :=
    maintains_call (hI.call _ (within_read rfl))
  have hnow' : (now : SandboxM Time).Maintains H P F := maintains_call (hI.read _ rfl)
  refine leads_ite (fun _ => hsuspend) fun hrun => ?_
  refine (hI.of_frame ?_).seq (fun active => ?_) hI.final
  · exact (frame_list (within_read rfl)).bind fun _ => frame_pure _
  refine (hI.of_frame (frame_modify (g := fun st => { st with activeSessions := active })
    fun _ => rfl)).seq (fun _ => ?_) hI.final
  refine maintains_record.seq (fun st => ?_) hI.final
  refine hnow.seq (fun t => ?_) hI.final
  refine leads_ite (fun _ => hsuspend) fun _ => ?_
  refine (hI.leads_run tpl _ serviceAccount hrun).bind fun _ => ?_
  exact maintains_record.bind fun _ => hnow'.bind fun _ => maintains_pure _

/-- A pass that starts in `I` ends in `F`, wherever it stops, with or without an error. -/
theorem leads_reconcileSandbox : (r.reconcileSandbox sb).Leads H P I F := by
  refine (hI.of_frame (frame_getOptional (within_read rfl))).seq (fun tpl => ?_) hI.final
  cases tpl with
  | none => exact (hI.maintains_pendingWith _ _ _).mono (fun _ _ h => h) hI.final
  | some tpl =>
    refine (hI.maintains_reconcileHome sb).seq (fun requeue => ?_) hI.final
    cases requeue with
    | some requeue => exact (maintains_pure _).mono (fun _ _ h => h) hI.final
    | none =>
      refine (hI.of_gate (Gate.kinds_subset _) (frame_reconcileHostKey r sb)).seq (fun _ => ?_) hI.final
      refine (hI.of_gate (Gate.kinds_subset _) (frame_reconcileNetworkPolicy r sb tpl)).seq
        (fun _ => ?_) hI.final
      refine (hI.of_gate (Gate.kinds_subset _)
        (frame_reconcileRBAC sb ignoresRBAC_progress)).seq (fun rbac => ?_) hI.final
      refine leads_ite (fun _ => hI.leads_driveState tpl _) fun _ => ?_
      exact (hI.maintains_pendingWith _ _ _).mono (fun _ _ h => h) hI.final

end MachineInvariant

end Maintains

/-! ## The idle clock -/

/-- What a pass over `sb` at the time `t` can make of the phase and the idle clock : the clock is
as it was, or is started in the pass that reports the sandbox running. -/
structure Tracks (sb : Sandbox) (t : Time) (st : SandboxStatus) : Prop where
  activity : st.lastActivityTime = sb.status.lastActivityTime ∨
    sb.status.lastActivityTime = none ∧ st.lastActivityTime = some t ∧ st.phase = .running
  running : st.phase = .running → st.lastActivityTime ≠ none ∨ sb.status.phase = .running

/-- The record before the pod is looked at. -/
structure Untouched (sb : Sandbox) (st : SandboxStatus) : Prop where
  activity : st.lastActivityTime = sb.status.lastActivityTime
  running : st.phase = .running → sb.status.phase = .running

theorem Untouched.tracks {sb : Sandbox} {st : SandboxStatus} (h : Untouched sb st) (t : Time) :
    Tracks sb t st :=
  ⟨Or.inl h.activity, fun hrunning => Or.inr (h.running hrunning)⟩

theorem Untouched.congr {sb : Sandbox} {st st' : SandboxStatus} (h : Untouched sb st)
    (hactivity : st'.lastActivityTime = st.lastActivityTime)
    (hphase : st'.phase = st.phase ∨ st'.phase ≠ .running) : Untouched sb st' := by
  refine ⟨hactivity.trans h.activity, fun hrunning => ?_⟩
  rcases hphase with hphase | hphase
  · exact h.running (hphase.symm.trans hrunning)
  · exact absurd hrunning hphase

theorem Tracks.congr {sb : Sandbox} {t : Time} {st st' : SandboxStatus} (h : Tracks sb t st)
    (hst : progress st' = progress st) : Tracks sb t st' := by
  simp only [progress, Prod.mk.injEq] at hst
  obtain ⟨hphase, -, hactivity⟩ := hst
  refine ⟨?_, ?_⟩
  · rw [hactivity, hphase]
    exact h.activity
  · rw [hactivity, hphase]
    exact h.running

theorem Untouched.ready {sb : Sandbox} {t : Time} {ip : String} {st st' : SandboxStatus}
    (h : Untouched sb st) (hst : progress st' = (.running, ip,
      if st.phase ≠ .running ∧ st.lastActivityTime = none then some t else st.lastActivityTime)) :
    Tracks sb t st' := by
  simp only [progress, Prod.mk.injEq] at hst
  obtain ⟨hphase, -, hactivity⟩ := hst
  by_cases hstart : st.phase ≠ .running ∧ st.lastActivityTime = none
  · rw [if_pos hstart] at hactivity
    refine ⟨Or.inr ⟨h.activity.symm.trans hstart.2, hactivity, hphase⟩, fun _ => Or.inl ?_⟩
    rw [hactivity]
    exact Option.some_ne_none t
  · rw [if_neg hstart] at hactivity
    refine ⟨Or.inl (hactivity.trans h.activity), fun _ => ?_⟩
    by_cases hrunning : st.phase = .running
    · exact Or.inr (h.running hrunning)
    · rw [hactivity]
      exact Or.inl fun hnone => hstart ⟨hrunning, hnone⟩

/-- Whatever becomes of its calls, a pass tracks the idle clock. -/
theorem tracks_reconcileSandbox (r : SandboxReconciler) (sb : Sandbox) {st : SandboxStatus}
    {c : Cluster} (h : Untouched sb st) :
    (r.reconcileSandbox sb st).wp Step (fun _ _ => True) (fun a _ => Tracks sb c.clock a.2) c := by
  have hI : MachineInvariant Step (fun _ _ => True)
      (fun st c' => Untouched sb st ∧ c'.clock = c.clock)
      (fun st c' => Tracks sb c.clock st ∧ c'.clock = c.clock) r sb := by
    have hcall : ∀ (Q : SandboxStatus → Prop) (op : Call) (st : SandboxStatus) (c' : Cluster),
        Q st ∧ c'.clock = c.clock →
          True ∧ ∀ a c'', Step op c' a c'' → Q st ∧ c''.clock = c.clock :=
      fun Q op st c' h => ⟨trivial, fun a c'' ha => ⟨h.1, ha.clock.trans h.2⟩⟩
    exact
      { call := fun op _ => hcall _ op
        progress := fun st st' c' hst h => by
          simp only [progress, Prod.mk.injEq] at hst
          exact ⟨h.1.congr hst.2.2 (Or.inl hst.1), h.2⟩
        pending := fun st st' c' hst h => by
          simp only [progress, Prod.mk.injEq] at hst
          exact ⟨h.1.congr hst.2.2 (Or.inr (by simp [hst.1])), h.2⟩
        final := fun st c' h => ⟨h.1.tracks _, h.2⟩
        read := fun op _ => hcall _ op
        finalProgress := fun st st' c' hst h => ⟨h.1.congr hst, h.2⟩
        create := fun _ _ => hcall _ _
        suspend := fun st c' h _ => hcall _ _ st c' h
        recreate := hcall _ _
        cleared := fun st st' c' _ hactivity hphase h => ⟨h.1.congr hactivity hphase, h.2⟩
        created := fun st st' c' _ hactivity hphase h => ⟨h.1.congr hactivity (Or.inr hphase), h.2⟩
        ready := fun st st' c₀ pod c₁ t c₂ h _ hget _ hnow hst => by
          have hc₁ : c₁.clock = c.clock := hget.clock.trans h.2
          have ht : t = c₁.clock := by
            rcases hnow with ⟨rfl, -⟩ | ⟨e, -, hf, -⟩
            · rfl
            · exact hf.elim
          exact ⟨h.1.ready (hst.trans (by rw [ht, hc₁])), hnow.clock.trans hc₁⟩ }
  exact Prog.wp_mono (hI.leads_reconcileSandbox st c ⟨h, rfl⟩) (fun _ _ => id) fun _ _ h => h.1

end Kubepark

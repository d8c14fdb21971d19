import Kubepark.SandboxRecord
import Kubepark.SandboxReport

/-!
# What a pass over a live sandbox does

The one place where a pass is taken apart. `LiveCall` lists every call that a pass over a
sandbox that is not being deleted may make, with what is known of the state it is made in;
`PassOutcome` lists the ways in which such a pass can end without error, with the status it
persists and the pod it leaves. `reconcile_live` says that there are no others, whatever
calls fail on the way. Every statement about passes is a case distinction over the two.
-/

namespace Kubepark

open ApiServer Client SandboxReconciler Routine

/-! ## The desired-state machine -/

/-- The number of live Active sessions that name the sandbox. -/
def activeSessions (c : Cluster) (sb : Sandbox) : Nat :=
  ((c.objs .sandboxSession).filter (inNamespace sb.metadata.namespaceName)).countP fun s =>
    s.spec.sandboxName = sb.metadata.name ∧ s.status.state = .active

/-- No session keeps the sandbox up and its idle window has elapsed. -/
def Idle (c : Cluster) (sb : Sandbox) (tpl : SandboxTemplate) (lastActivity : Option Time) : Prop :=
  activeSessions c sb = 0 ∧ idleExpired lastActivity (effectiveIdleTimeout sb tpl) c.clock = true

/-- The desired-state machine takes the suspend branch. -/
def Suspends (c : Cluster) (sb : Sandbox) (tpl : SandboxTemplate) (lastActivity : Option Time) :
    Prop :=
  sb.spec.desiredState = .stopped ∨ Idle c sb tpl lastActivity

/-- The writes of the desired-state machine, with what is known of the state. -/
inductive PodCall (r : SandboxReconciler) (sb : Sandbox) (tpl : SandboxTemplate)
    (lastActivity : Option Time) : Call → Cluster → Prop
  | create {c : Cluster} (serviceAccount : String) (hrun : ¬Suspends c sb tpl lastActivity)
    (habsent : c.find? .pod (podKey sb) = none) :
    PodCall r sb tpl lastActivity (.create .pod (r.desiredPod sb tpl serviceAccount)) c
  | suspend {c : Cluster} (pod : Pod) (hsuspends : Suspends c sb tpl lastActivity)
    (hpod : c.find? .pod (podKey sb) = some pod) (hlive : pod.deleting = false) :
    PodCall r sb tpl lastActivity (.delete .pod (podKey sb) "suspend") c
  | recreate {c : Cluster} (pod : Pod) (hrun : ¬Suspends c sb tpl lastActivity)
    (hpod : c.find? .pod (podKey sb) = some pod) (hlive : pod.deleting = false)
    (hdead : podDead pod = true) :
    PodCall r sb tpl lastActivity (.delete .pod (podKey sb) "run") c

/-- The ways in which the desired-state machine ends without error, from the status `st` and
the state `c` to `st'` and `c'`. -/
inductive PodOutcome (sb : Sandbox) (tpl : SandboxTemplate) (st : SandboxStatus) (c : Cluster)
    (st' : SandboxStatus) (c' : Cluster) : Prop
  | suspended (hsuspends : Suspends c sb tpl st.lastActivityTime)
    (habsent : c.find? .pod (podKey sb) = none) (habsent' : c'.find? .pod (podKey sb) = none)
    (hphase : st'.phase = .suspended) (hip : st'.podIP = "")
    (hactivity : st'.lastActivityTime = st.lastActivityTime)
  | suspending (pod pod' : Pod) (hsuspends : Suspends c sb tpl st.lastActivityTime)
    (hpod : c.find? .pod (podKey sb) = some pod) (hpod' : c'.find? .pod (podKey sb) = some pod')
    (hdeleting : pod'.deleting = true) (hphase : st'.phase = .suspending) (hip : st'.podIP = "")
    (hactivity : st'.lastActivityTime = st.lastActivityTime)
  | created (pod' : Pod) (hrun : ¬Suspends c sb tpl st.lastActivityTime)
    (habsent : c.find? .pod (podKey sb) = none) (hpod' : c'.find? .pod (podKey sb) = some pod')
    (hready : podReady pod' = false) (hphase : st'.phase = .resuming ∨ st'.phase = .provisioning)
    (hip : st'.podIP = st.podIP) (hactivity : st'.lastActivityTime = st.lastActivityTime)
  | dead (pod pod' : Pod) (hrun : ¬Suspends c sb tpl st.lastActivityTime)
    (hpod : c.find? .pod (podKey sb) = some pod) (hdead : podDead pod = true)
    (hpod' : c'.find? .pod (podKey sb) = some pod') (hdeleting : pod'.deleting = true)
    (hphase : st'.phase = .provisioning) (hip : st'.podIP = "")
    (hactivity : st'.lastActivityTime = st.lastActivityTime)
  | ready (pod : Pod) (hrun : ¬Suspends c sb tpl st.lastActivityTime)
    (hpod : c.find? .pod (podKey sb) = some pod) (hready : podReady pod = true)
    (hpod' : c'.find? .pod (podKey sb) = some pod) (hphase : st'.phase = .running)
    (hip : st'.podIP = pod.status.podIP)
    (hactivity : st'.lastActivityTime =
      if st.phase ≠ .running ∧ st.lastActivityTime = none then some c.clock
      else st.lastActivityTime)
  | pending (pod : Pod) (hrun : ¬Suspends c sb tpl st.lastActivityTime)
    (hpod : c.find? .pod (podKey sb) = some pod) (hdead : podDead pod = false)
    (hready : podReady pod = false) (hpod' : c'.find? .pod (podKey sb) = some pod)
    (hphase : st'.phase = .resuming ∨ st'.phase = .provisioning) (hip : st'.podIP = "")
    (hactivity : st'.lastActivityTime = st.lastActivityTime)

/-- The kinds a pass writes before it comes to the pod. -/
def preparedKinds : List Kind :=
  .sandbox :: gateKinds

theorem suspends_congr {c c₁ : Cluster} (hc : SameOutside preparedKinds c c₁) (sb : Sandbox)
    (tpl : SandboxTemplate) (lastActivity : Option Time) :
    Suspends c₁ sb tpl lastActivity ↔ Suspends c sb tpl lastActivity := by
  simp only [Suspends, Idle, activeSessions, hc.clock,
    hc.objs (show Kind.sandboxSession ∉ preparedKinds by decide)]

/-- An outcome speaks of the progress recorded in the status, of the pod, and of what the
gates leave alone. -/
theorem PodOutcome.transport {sb : Sandbox} {tpl : SandboxTemplate} {st st₁ st' : SandboxStatus}
    {c c₁ c' c'' : Cluster} (hst : progress st₁ = progress st) (hc : SameOutside preparedKinds c c₁)
    (hc' : c''.find? .pod (podKey sb) = c'.find? .pod (podKey sb))
    (h : PodOutcome sb tpl st₁ c₁ st' c') : PodOutcome sb tpl st c st' c'' := by
  simp only [progress, Prod.mk.injEq] at hst
  obtain ⟨hphase₁, hip₁, hactivity₁⟩ := hst
  have hpods := hc.find? (show Kind.pod ∉ preparedKinds by decide) (podKey sb)
  have hs := suspends_congr hc sb tpl st.lastActivityTime
  cases h with
  | suspended hsuspends habsent habsent' hphase hip hactivity =>
    rw [hactivity₁] at hsuspends hactivity
    exact .suspended (hs.mp hsuspends) (hpods ▸ habsent) (hc' ▸ habsent') hphase hip hactivity
  | suspending pod pod' hsuspends hpod hpod' hdel hphase hip hactivity =>
    rw [hactivity₁] at hsuspends hactivity
    exact .suspending pod pod' (hs.mp hsuspends) (hpods ▸ hpod) (hc' ▸ hpod') hdel hphase hip
      hactivity
  | created pod' hrun habsent hpod' hready hphase hip hactivity =>
    rw [hactivity₁] at hrun hactivity
    exact .created pod' (mt hs.mpr hrun) (hpods ▸ habsent) (hc' ▸ hpod') hready hphase
      (hip.trans hip₁) hactivity
  | dead pod pod' hrun hpod hdead hpod' hdel hphase hip hactivity =>
    rw [hactivity₁] at hrun hactivity
    exact .dead pod pod' (mt hs.mpr hrun) (hpods ▸ hpod) hdead (hc' ▸ hpod') hdel hphase hip
      hactivity
  | ready pod hrun hpod hready hpod' hphase hip hactivity =>
    rw [hactivity₁] at hrun
    rw [hactivity₁, hphase₁, hc.clock] at hactivity
    exact .ready pod (mt hs.mpr hrun) (hpods ▸ hpod) hready (hc' ▸ hpod') hphase hip hactivity
  | pending pod hrun hpod hdead hready hpod' hphase hip hactivity =>
    rw [hactivity₁] at hrun hactivity
    exact .pending pod (mt hs.mpr hrun) (hpods ▸ hpod) hdead hready (hc' ▸ hpod') hphase hip
      hactivity

section Machine

variable (r : SandboxReconciler) (sb : Sandbox) (tpl : SandboxTemplate) {st : SandboxStatus}
  {c : Cluster} {P : Call → Cluster → Prop}

/-- A pod that is deleted stays, being deleted. -/
theorem deleting_dropped {key : ObjectKey} {pod : Pod} (site : String)
    (hpod : c.find? .pod key = some pod) :
    ∃ pod', (c.dropped .pod key site).find? .pod key = some pod' ∧ pod'.deleting = true := by
  have hkey := key_of_find? hpod
  simp only [dropped, hpod, deleted]
  split_ifs with hdel hg
  · exact ⟨pod, hpod, hdel⟩
  · exact ⟨_, (congrArg _ hkey.symm).trans (find?_write_self c .pod (c.terminated site pod)), rfl⟩
  · simp [KindInfo.graceful] at hg

theorem wp_suspend (hread : ∀ op c', op.target = none → P op c')
    (hdelete : ∀ pod, c.find? .pod (podKey sb) = some pod → pod.deleting = false →
      P (.delete .pod (podKey sb) "suspend") c) :
    (suspend sb).wp Step P (fun _ st' c' => st'.podIP = "" ∧
      st'.lastActivityTime = st.lastActivityTime ∧
      ((c.find? .pod (podKey sb) = none ∧ c'.find? .pod (podKey sb) = none ∧
          st'.phase = .suspended) ∨
        ∃ pod pod', c.find? .pod (podKey sb) = some pod ∧ c'.find? .pod (podKey sb) = some pod' ∧
          pod'.deleting = true ∧ st'.phase = .suspending)) st c := by
  refine wp_bind.mpr (wp_modify.mpr ?_)
  refine wp_bind.mpr (wp_getOptional.mpr ⟨hread _ _ rfl, ?_⟩)
  cases hpod : c.find? .pod (podKey sb) with
  | none => exact ⟨rfl, rfl, Or.inl ⟨rfl, hpod, rfl⟩⟩
  | some pod =>
    refine wp_bind.mpr (wp_modify.mpr ?_)
    refine wp_ite (fun hdel => ?_) fun hdel => ?_
    · exact ⟨rfl, rfl, Or.inr ⟨pod, pod, rfl, hpod, hdel, rfl⟩⟩
    · refine wp_bind.mpr (wp_deleteIfPresent.mpr ⟨?_, ?_⟩)
      · exact hdelete pod hpod (Bool.eq_false_iff.mpr hdel)
      · obtain ⟨pod', hpod', hdel'⟩ := deleting_dropped "suspend" hpod
        exact ⟨rfl, rfl, Or.inr ⟨pod, pod', rfl, hpod', hdel', rfl⟩⟩

/-- A ready pod is not dead. -/
theorem podDead_of_podReady {pod : Pod} (h : podReady pod = true) : podDead pod = false := by
  simp only [podReady, podDead, decide_eq_true_eq, decide_eq_false_iff_not] at h ⊢
  rw [h.1]
  simp

theorem wp_reportDrift (currentHash : String) {Q : Unit → SandboxStatus → Cluster → Prop}
    (h : ∀ st', progress st' = progress st → Q () st' c) :
    (reportDrift sb currentHash).wp Step P Q st c := by
  refine wp_bind.mpr (wp_record.mpr ?_)
  exact wp_ite (fun _ => h _ rfl) fun _ => h _ rfl

theorem wp_runReady (pod : Pod) (hread : ∀ op c', op.target = none → P op c')
    {Q : Unit → SandboxStatus → Cluster → Prop}
    (h : ∀ st', progress st' = (.running, pod.status.podIP,
      if st.phase ≠ .running ∧ st.lastActivityTime = none then some c.clock
      else st.lastActivityTime) → Q () st' c) : (runReady sb pod).wp Step P Q st c :=
  wp_bind.mpr (wp_now.mpr ⟨hread _ _ rfl, h _ rfl⟩)

theorem wp_runPending (pod : Pod) {Q : Unit → SandboxStatus → Cluster → Prop}
    (h : ∀ st', progress st' =
      (if st.phase ≠ .resuming then .provisioning else .resuming, "", st.lastActivityTime) →
        Q () st' c) : (runPending sb pod).wp Step P Q st c :=
  h _ rfl

/-- The call creates no pod but the one of a pass under `serviceAccount`. -/
def OnlyPod (serviceAccount : String) : Call → Prop
  | .create .pod pod => pod = r.desiredPod sb tpl serviceAccount
  | _ => True

theorem wp_run (currentHash serviceAccount : String) (hread : ∀ op c', op.target = none → P op c')
    (hcall : ∀ op, PodCall r sb tpl st.lastActivityTime op c →
      OnlyPod r sb tpl serviceAccount op → P op c)
    (hrun : ¬Suspends c sb tpl st.lastActivityTime) :
    (r.run sb tpl currentHash serviceAccount).wp Step P
      (fun _ st' c' => PodOutcome sb tpl st c st' c') st c := by
  refine wp_bind.mpr (wp_getOptional.mpr ⟨hread _ _ rfl, ?_⟩)
  cases hpod : c.find? .pod (podKey sb) with
  | none =>
    refine wp_bind.mpr (wp_createIfAbsent.mpr ⟨?_, fun _ => ?_⟩)
    · exact hcall _ (.create serviceAccount hrun hpod) rfl
    · have hstored := find?_write_self c .pod (c.created (r.desiredPod sb tpl serviceAccount))
      rw [ensured, show c.find? .pod (r.desiredPod sb tpl serviceAccount).key = none from hpod]
      refine .created _ hrun hpod hstored rfl ?_ rfl rfl
      show (if _ then _ else _) = SandboxPhase.resuming ∨ (if _ then _ else _) = _
      split_ifs <;> simp
  | some pod =>
    refine wp_bind.mpr (wp_modify.mpr ?_)
    refine wp_ite (fun hdead => ?_) fun hdead => ?_
    · unfold runDead
      refine wp_ite (fun hdel => ?_) fun hdel => ?_
      · exact .dead pod pod hrun hpod hdead hpod hdel rfl rfl rfl
      · refine wp_bind.mpr (wp_deleteIfPresent.mpr ⟨?_, ?_⟩)
        · exact hcall _ (.recreate pod hrun hpod (Bool.eq_false_iff.mpr hdel) hdead) trivial
        · obtain ⟨pod', hpod', hdel'⟩ := deleting_dropped "run" hpod
          exact .dead pod pod' hrun hpod hdead hpod' hdel' rfl rfl rfl
    · refine wp_ite (fun hready => ?_) fun hready => ?_
      · refine wp_bind.mpr (wp_runReady sb pod hread fun st₁ hst₁ => ?_)
        refine wp_bind.mpr (wp_reportDrift sb currentHash fun st' hst' => ?_)
        obtain ⟨hphase, hip, hactivity⟩ := by
          simpa only [progress, Prod.mk.injEq] using hst'.trans hst₁
        exact .ready pod hrun hpod hready hpod hphase hip hactivity
      · refine wp_bind.mpr (wp_runPending sb pod fun st₁ hst₁ => ?_)
        refine wp_bind.mpr (wp_reportDrift sb currentHash fun st' hst' => ?_)
        obtain ⟨hphase, hip, hactivity⟩ := by
          simpa only [progress, Prod.mk.injEq] using hst'.trans hst₁
        refine .pending pod hrun hpod (Bool.eq_false_iff.mpr hdead) (Bool.eq_false_iff.mpr hready)
          hpod ?_ hip hactivity
        rw [hphase]
        split_ifs <;> simp

theorem wp_driveState (serviceAccount : String) (hread : ∀ op c', op.target = none → P op c')
    (hcall : ∀ op, PodCall r sb tpl st.lastActivityTime op c →
      OnlyPod r sb tpl serviceAccount op → P op c) :
    (r.driveState sb tpl serviceAccount).wp Step P
      (fun _ st' c' => PodOutcome sb tpl st c st' c') st c := by
  have hsuspend : ∀ active, Suspends c sb tpl st.lastActivityTime →
      (suspend sb).wp Step P (fun _ st' c' => PodOutcome sb tpl st c st' c')
        { st with activeSessions := active } c := by
    intro active hs
    refine wp_post (wp_suspend sb hread fun pod hpod hlive =>
      hcall _ (.suspend pod hs hpod hlive) trivial) ?_
    rintro _ st' c' ⟨hip, hactivity, ⟨habsent, habsent', hphase⟩ |
      ⟨pod, pod', hpod, hpod', hdel, hphase⟩⟩
    · exact .suspended hs habsent habsent' hphase hip hactivity
    · exact .suspending pod pod' hs hpod hpod' hdel hphase hip hactivity
  refine wp_ite (fun hstop => hsuspend st.activeSessions (Or.inl hstop)) fun hstop => ?_
  refine wp_bind.mpr (wp_bind.mpr ?_)
  refine wp_list.mpr ⟨hread _ _ rfl, ?_⟩
  refine wp_bind.mpr (wp_modify.mpr ?_)
  refine wp_bind.mpr (wp_record.mpr ?_)
  refine wp_bind.mpr (wp_now.mpr ⟨hread _ _ rfl, ?_⟩)
  refine wp_ite (fun hidle => hsuspend _ (Or.inr hidle)) fun hidle => ?_
  have hrun : ¬Suspends c sb tpl st.lastActivityTime := by
    rintro (h | h)
    · exact hstop h
    · exact hidle h
  refine wp_bind.mpr ?_
  refine wp_post (wp_run r sb tpl _ serviceAccount hread hcall hrun) fun _ st' c' h => ?_
  refine wp_bind.mpr (wp_record.mpr ?_)
  refine wp_bind.mpr (wp_now.mpr ⟨hread _ _ rfl, ?_⟩)
  refine PodOutcome.transport ?_ (.refl _ _) rfl h
  rfl

theorem PodCall.within {lastActivity : Option Time} {op : Call}
    (h : PodCall r sb tpl lastActivity op c) : op.Within [.pod] := by
  intro t ht
  cases h <;> cases ht <;> simp

/-- The desired-state machine reads, makes at most the calls of `PodCall`, in the state it
started in, and ends as `PodOutcome` says. -/
theorem driveState_outcome (serviceAccount : String) :
    (r.driveState sb tpl serviceAccount).wp Step
      (fun op c' => op.target = none ∨ PodCall r sb tpl st.lastActivityTime op c ∧ c' = c)
      (fun _ st' c' => PodOutcome sb tpl st c st' c' ∧ SameOutside [.pod] c c') st c := by
  have h : (r.driveState sb tpl serviceAccount).wp Step
      (fun op c' => op.target = none ∨ PodCall r sb tpl st.lastActivityTime op c ∧ c' = c)
      (fun _ st' c' => PodOutcome sb tpl st c st' c') st c :=
    wp_driveState r sb tpl serviceAccount (fun _ _ h => Or.inl h) fun _ h _ => Or.inr ⟨h, rfl⟩
  refine wp_mono (wp_sameOutside ?_ h) (fun _ _ h => h.1) fun _ _ _ h => h
  rintro op c' (hread | ⟨hcall, -⟩)
  · exact fun t ht => nomatch hread.symm.trans ht
  · exact hcall.within

end Machine

/-! ## The gates and the machine -/

section Pass

variable (r : SandboxReconciler) (sb : Sandbox) {st : SandboxStatus} {c : Cluster}
  {P : Call → Cluster → Prop} {Q : Result → SandboxStatus → Cluster → Prop}

/-- A gate makes calls of its own, and leaves the kinds it does not write as they were and the
part `f` of the status. It reads no pod, so it is the same under every handler `H` that differs
from the server at most in how pods are read. -/
theorem wp_gate {H : (op : Call) → Cluster → Resp Spec Status op → Cluster → Prop} {α τ : Type}
    {x : SandboxM α} {Q : α → SandboxStatus → Cluster → Prop} {f : SandboxStatus → τ} {g : Gate}
    {c₁ : Cluster} (hH : ∀ op c a c', op.reads ≠ some .pod → H op c a c' → Step op c a c')
    (hP : ∀ g op c', GateCall r sb g op c' → SameOutside gateKinds c c' → P op c')
    (hcalls : x.Always Step (GateCall r sb g) st c₁) (hframe : x.Frame (GateOp g.kinds) f)
    (hends : x.Ends Step Q st c₁) (hc₁ : SameOutside gateKinds c c₁) :
    x.wp H P (fun a st' c' => (Q a st' c' ∧ f st' = f st) ∧ SameOutside g.kinds c₁ c') st c₁ := by
  have hkept : x.Ends Step (fun a st' c' => Q a st' c' ∧ f st' = f st) st c₁ :=
    hframe.wp (wp_post hends fun _ _ _ => And.intro)
  refine hframe.handler (fun op c a c' hop => hH op c a c' hop.noPod) ?_
  exact wp_mono (wp_sameOutside (fun _ _ h => h.within) (hcalls.ends hkept))
    (fun op c' h => hP g op c' h.1 (hc₁.trans (h.2.mono g.kinds_subset))) fun _ _ _ h => h

theorem gatesOpen_tpl_unique {tpl tpl' : SandboxTemplate} (h : GatesOpen c sb tpl)
    (h' : GatesOpen c sb tpl') : tpl = tpl' :=
  Option.some.inj (h.template.symm.trans h'.template)

theorem profilePermits_congr {c₁ : Cluster} (hc : SameOutside gateKinds c c₁) :
    profilePermits c₁ sb = profilePermits c sb := by
  simp only [profilePermits, hc.find? (show Kind.accessProfile ∉ gateKinds by decide)]

theorem hasHome_congr {ks : List Kind} {c₁ : Cluster} (hc : SameOutside ks c c₁)
    (hks : Kind.persistentVolumeClaim ∉ ks) : HasHome c₁ sb ↔ HasHome c sb := by
  simp only [HasHome, hc.find? hks]

theorem hasHostKey_congr {ks : List Kind} {c₁ : Cluster} (hc : SameOutside ks c c₁)
    (hks : Kind.secret ∉ ks) : HasHostKey c₁ sb ↔ HasHostKey c sb := by
  simp only [HasHostKey, hc.find? hks]

theorem policyStays_congr {ks : List Kind} {c₁ : Cluster} (hc : SameOutside ks c c₁)
    (hks : Kind.networkPolicy ∉ ks) : PolicyStays c₁ sb ↔ PolicyStays c sb := by
  simp only [PolicyStays, hc.find? hks]

theorem policyRendered_congr {ks : List Kind} {c₁ : Cluster} (tpl : SandboxTemplate)
    (hc : SameOutside ks c c₁) (hks : Kind.networkPolicy ∉ ks) (hslices : Kind.endpointSlice ∉ ks) :
    PolicyRendered r c₁ sb tpl ↔ PolicyRendered r c sb tpl := by
  simp only [PolicyRendered, clusterEndpoints, hc.find? hks, hc.objs hslices]

theorem policyLive_congr {ks : List Kind} {c₁ : Cluster} (hc : SameOutside ks c c₁)
    (hks : Kind.networkPolicy ∉ ks) : PolicyLive c₁ sb ↔ PolicyLive c sb := by
  simp only [PolicyLive, hc.find? hks]

/-- What the gates have put in place for a pod of `sb` under `serviceAccount`, from `c` to `c'`. -/
structure Equipped (c : Cluster) (tpl : SandboxTemplate) (serviceAccount : String) (c' : Cluster) :
    Prop where
  home : HasHome c' sb
  hostKey : HasHostKey c' sb
  policy : PolicyStays c sb → PolicyRendered r c' sb tpl
  account : AccountReady c' sb serviceAccount

/-- The gates either stop the pass with the sandbox pending and its address and idle clock as
they were, or hand over to the desired-state machine with everything in place. -/
theorem wp_reconcileSandbox_equipped {H : (op : Call) → Cluster → Resp Spec Status op → Cluster → Prop}
    (hH : ∀ op c a c', op.reads ≠ some .pod → H op c a c' → Step op c a c')
    (hP : ∀ g op c', GateCall r sb g op c' → SameOutside gateKinds c c' → P op c')
    (hblocked : (∀ tpl, ¬GatesOpen c sb tpl) → ∀ result st' c',
      progress st' = (.pending, st.podIP, st.lastActivityTime) →
        report st' = stoppedReport sb c (report st) → SameOutside gateKinds c c' →
          Q result st' c')
    (hopen : ∀ tpl, GatesOpen c sb tpl → ∀ serviceAccount st₁ c₁, standing st₁ = standing st →
      SameOutside gateKinds c c₁ → Equipped r sb c tpl serviceAccount c₁ →
        (r.driveState sb tpl serviceAccount).wp H P Q st₁ c₁) :
    (r.reconcileSandbox sb).wp H P Q st c := by
  have hread : (getOptional Kind.sandboxTemplate ⟨"", sb.spec.template⟩ :
      SandboxM (Option SandboxTemplate)).Frame (GateOp []) report :=
    frame_getOptional (gateOp_read rfl (by nofun))
  refine wp_bind.mpr (hread.handler (fun op c a c' hop => hH op c a c' hop.noPod)
    (wp_getOptional.mpr ⟨hP .home _ _ (.read rfl) (.refl _ _), ?_⟩))
  cases htpl : c.find? Kind.sandboxTemplate ⟨"", sb.spec.template⟩ with
  | none =>
    refine hblocked (fun tpl h => ?_) _ _ _ rfl ?_ (.refl _ _)
    · simpa [htpl] using h.template
    · rw [stoppedReport, if_neg (by simp [htpl])]
      exact report_pendingWith sb st _ _
  | some tpl =>
    refine wp_bind.mpr (wp_post
      (wp_gate r sb hH hP (reconcileHome_calls r sb)
        (gate_reconcileHome sb ignoresHome_report)
        (ends_and (ends_reconcileHome sb) (ends_reconcileHome_claim sb)) (.refl _ _)) ?_)
    rintro result st₁ c₁ ⟨⟨⟨⟨hhome, hresult, hst₁, -⟩ | ⟨hhome, rfl, hst₁⟩, hclaim⟩, hreport₁⟩,
      hhomeKinds⟩
    · obtain ⟨result, rfl⟩ := Option.isSome_iff_exists.mp hresult
      refine hblocked (fun tpl h => ?_) _ _ _ hst₁ ?_ (hhomeKinds.mono (Gate.kinds_subset _))
      · simpa [hhome] using h.home
      · rw [stoppedReport, if_pos (by simp [htpl, hhome]), hreport₁]
    have hc₁ := hhomeKinds.mono (Gate.kinds_subset _)
    refine wp_bind.mpr (wp_post
      (wp_gate (f := standing) r sb hH hP (reconcileHostKey_calls r sb) (frame_reconcileHostKey r sb)
        (ends_reconcileHostKey r sb) hc₁) ?_)
    rintro - st₂ c₂ ⟨⟨hkey, hst₂⟩, hkeyKinds⟩
    have hc₂ := hc₁.trans (hkeyKinds.mono (Gate.kinds_subset _))
    refine wp_bind.mpr (wp_post
      (wp_gate (f := standing) r sb hH hP (reconcileNetworkPolicy_calls r sb tpl)
        (frame_reconcileNetworkPolicy r sb tpl) (ends_reconcileNetworkPolicy_rendered r sb tpl)
        hc₂) ?_)
    rintro - st₃ c₃ ⟨⟨hpolicy, hst₃⟩, hpolicyKinds⟩
    have hc₃ := hc₂.trans (hpolicyKinds.mono (Gate.kinds_subset _))
    refine wp_bind.mpr (wp_post
      (wp_gate r sb hH hP (wp_mono (reconcileRBAC_calls sb) (fun _ _ h => .rbac _ h)
        fun _ _ _ h => h) (frame_reconcileRBAC sb ignoresRBAC_standing)
        (ends_and (ends_reconcileRBAC sb) (ends_reconcileRBAC_account sb)) hc₃) ?_)
    rintro rbac st₄ c₄ ⟨⟨⟨hready, haccount⟩, hst₄⟩, hrbacKinds⟩
    have hc₄ := hc₃.trans (hrbacKinds.mono (Gate.kinds_subset _))
    rw [profilePermits_congr sb hc₃] at hready
    have hst : standing st₄ = standing st :=
      hst₄.trans (hst₃.trans (hst₂.trans (Prod.ext hst₁ hreport₁)))
    refine wp_ite (fun hrbac => ?_) fun hrbac => ?_
    · refine hopen tpl ⟨htpl, hhome, hready ▸ hrbac⟩ _ st₄ c₄ hst hc₄
        ⟨?_, ?_, fun hstays => ?_, haccount hrbac⟩
      · refine (hasHome_congr sb hrbacKinds (by simp [Gate.kinds])).mpr ?_
        refine (hasHome_congr sb hpolicyKinds (by simp [Gate.kinds])).mpr ?_
        exact (hasHome_congr sb hkeyKinds (by simp [Gate.kinds])).mpr (hclaim rfl)
      · refine (hasHostKey_congr sb hrbacKinds (by simp [Gate.kinds])).mpr ?_
        exact (hasHostKey_congr sb hpolicyKinds (by simp [Gate.kinds])).mpr hkey
      · refine (policyRendered_congr r sb tpl hrbacKinds (by simp [Gate.kinds])
          (by simp [Gate.kinds])).mpr (hpolicy ?_)
        refine (policyStays_congr sb hkeyKinds (by simp [Gate.kinds])).mpr ?_
        exact (policyStays_congr sb hhomeKinds (by simp [Gate.kinds])).mpr hstays
    · refine hblocked (fun tpl h => ?_) _ _ _ ?_ ?_ hc₄
      · exact hrbac (hready.trans h.profile)
      · have hprogress : progress st₄ = progress st := congrArg Prod.fst hst
        simp only [progress, Prod.mk.injEq] at hprogress
        simp only [progress, hprogress.2.1, hprogress.2.2]
      · have hreport : report st₄ = report st := congrArg Prod.snd hst
        rw [stoppedReport, if_neg (by simp [hhome]), ← hreport]
        exact report_pendingWith sb st₄ _ _

/-- The gates and the desired-state machine, as far as most results need to know. -/
theorem wp_reconcileSandbox {H : (op : Call) → Cluster → Resp Spec Status op → Cluster → Prop}
    (hH : ∀ op c a c', op.reads ≠ some .pod → H op c a c' → Step op c a c')
    (hP : ∀ g op c', GateCall r sb g op c' → SameOutside gateKinds c c' → P op c')
    (hblocked : (∀ tpl, ¬GatesOpen c sb tpl) → ∀ result st' c',
      progress st' = (.pending, st.podIP, st.lastActivityTime) →
        report st' = stoppedReport sb c (report st) → SameOutside gateKinds c c' →
          Q result st' c')
    (hopen : ∀ tpl, GatesOpen c sb tpl → ∀ serviceAccount st₁ c₁, standing st₁ = standing st →
      SameOutside gateKinds c c₁ → (PolicyLive c sb → PolicyCurrent r c₁ sb tpl) →
        (r.driveState sb tpl serviceAccount).wp H P Q st₁ c₁) :
    (r.reconcileSandbox sb).wp H P Q st c :=
  wp_reconcileSandbox_equipped r sb hH hP hblocked fun tpl hgates serviceAccount st₁ c₁ hst hc₁ h =>
    hopen tpl hgates serviceAccount st₁ c₁ hst hc₁ fun hlive => (h.policy hlive.stays).current

end Pass

/-! ## A whole pass over a live sandbox -/

/-- `sb` with other finalizers and another resource version. -/
def stamped (sb : Sandbox) (finalizers : List String) (resourceVersion : Nat) : Sandbox :=
  { sb with metadata.finalizers := finalizers, metadata.resourceVersion := resourceVersion }

/-- A pass does not look at the finalizers and the resource version. -/
theorem reconcileSandbox_stamped (r : SandboxReconciler) (sb : Sandbox) (finalizers : List String)
    (rv : Nat) : r.reconcileSandbox (stamped sb finalizers rv) = r.reconcileSandbox sb :=
  rfl

/-- A rewrite of `sb` itself does not change what its claim guard sees. -/
theorem conflictOf_write {c : Cluster} {sb : Sandbox} (new : Sandbox)
    (hsb : c.find? .sandbox sb.key = some sb)
    (hkey : new.key = sb.key) (huid : new.metadata.uid = sb.metadata.uid) (claim : String) :
    conflictOf (c.write .sandbox new) sb claim = conflictOf c sb claim := by
  have hself : ∀ o : Sandbox, o.metadata.uid = sb.metadata.uid → blocks sb o = false := by
    intro o ho
    simp [blocks, ho]
  have hothers : ∀ p : Sandbox → Bool,
      (((c.write .sandbox new).objs .sandbox).filter p).find? (blocks sb) =
        ((c.objs .sandbox).filter p).find? (blocks sb) := by
    intro p
    rw [List.find?_filter, List.find?_filter]
    refine find?_objs_write c .sandbox ?_ fun o ho hokey => ?_
    · exact decide_eq_false fun h => Bool.false_ne_true ((hself _ huid).symm.trans h.2)
    · rw [mem_objs_iff, hokey, hkey, hsb] at ho
      obtain rfl := Option.some.inj ho
      simp [hself _ rfl]
  have howner : ∀ owner, owner ≠ sb.metadata.name →
      (c.write .sandbox new).find? .sandbox ⟨sb.metadata.namespaceName, owner⟩ =
        c.find? .sandbox ⟨sb.metadata.namespaceName, owner⟩ := by
    intro owner hne
    refine find?_write_ne c .sandbox new fun he => hne ?_
    rw [hkey] at he
    exact congrArg (fun t => t.2.name) he
  unfold conflictOf claimCandidates
  rw [List.find?_append, List.find?_append, hothers]
  cases ownerOfGeneratedClaim claim with
  | none => rfl
  | some owner =>
    by_cases hne : owner = sb.metadata.name
    · simp [hne]
    · simp only [ne_eq, hne, not_false_eq_true, ↓reduceIte, howner owner hne]

/-- The finalizer is on `sb`, now stored as `sb₁`, and nothing else has changed. -/
structure Prepared (c : Cluster) (sb : Sandbox) (c₁ : Cluster) (sb₁ : Sandbox) : Prop where
  stamp : ∃ finalizers rv, sb₁ = stamped sb finalizers rv
  finalizer : sandboxFinalizer ∈ sb₁.metadata.finalizers
  stored : c₁.find? .sandbox sb.key = some sb₁
  others : ∀ key, key ≠ sb.key → c₁.find? .sandbox key = c.find? .sandbox key
  outside : SameOutside [.sandbox] c c₁
  conflict : ∀ claim, conflictOf c₁ sb claim = conflictOf c sb claim

theorem wp_ensureFinalizer {c : Cluster} {sb : Sandbox} {P : Call → Cluster → Prop}
    {Q : Sandbox → Unit → Cluster → Prop} (hsb : c.find? .sandbox sb.key = some sb)
    (hlive : sb.deleting = false)
    (hP : P (.update .sandbox { sb with
      metadata.finalizers := sb.metadata.finalizers ++ [sandboxFinalizer] }) c)
    (hQ : ∀ c₁ sb₁, Prepared c sb c₁ sb₁ → Q sb₁ () c₁) : (ensureFinalizer sb).wp Step P Q () c := by
  refine wp_ite (fun hhas => ?_) fun hhas => ?_
  · exact hQ c sb ⟨⟨_, _, rfl⟩, by simpa using hhas, hsb, fun _ _ => rfl, .refl _ _, fun _ => rfl⟩
  · refine wp_update.mpr ⟨hP, fun old hold _ => hQ _ _ ?_⟩
    obtain rfl : sb = old := Option.some.inj (hsb.symm.trans hold)
    have hnew : updated sb { sb with
        metadata.finalizers := sb.metadata.finalizers ++ [sandboxFinalizer] } =
        stamped sb (sb.metadata.finalizers ++ [sandboxFinalizer]) sb.metadata.resourceVersion := by
      simp [updated, stamped]
    rw [hnew, settle_of_live (show (stamped sb (_ ++ _) _).deleting = false from hlive)]
    exact ⟨⟨_, _, rfl⟩, by simp [versioned, stamped], find?_write_self c .sandbox (stamped sb _ _),
      fun key hkey => find?_write_ne c .sandbox _ fun h => hkey (Prod.mk.inj h).2,
      ⟨rfl, fun k hk => store_write_ne c _ (by simpa using hk)⟩,
      fun claim => conflictOf_write (stamped sb (_ ++ _) _) hsb rfl rfl claim⟩

theorem Prepared.homeOpen_eq {c c₁ : Cluster} {sb sb₁ : Sandbox} (h : Prepared c sb c₁ sb₁) :
    homeOpen c₁ sb = homeOpen c sb := by
  simp only [homeOpen, h.conflict,
    h.outside.find? (show Kind.persistentVolumeClaim ∉ [Kind.sandbox] by decide)]

theorem Prepared.template_eq {c c₁ : Cluster} {sb sb₁ : Sandbox} (h : Prepared c sb c₁ sb₁)
    (key : ObjectKey) : c₁.find? .sandboxTemplate key = c.find? .sandboxTemplate key :=
  h.outside.find? (by decide) key

theorem Prepared.gatesOpen_iff {c c₁ : Cluster} {sb sb₁ : Sandbox} (h : Prepared c sb c₁ sb₁)
    (tpl : SandboxTemplate) : GatesOpen c₁ sb tpl ↔ GatesOpen c sb tpl := by
  have hhome := h.homeOpen_eq
  have hprofile : profilePermits c₁ sb = profilePermits c sb := by
    simp only [profilePermits, h.outside.find? (show Kind.accessProfile ∉ [Kind.sandbox] by decide)]
  have htpl := h.template_eq
  constructor
  · rintro ⟨h₁, h₂, h₃⟩
    exact ⟨(htpl _).symm.trans h₁, hhome.symm.trans h₂, hprofile.symm.trans h₃⟩
  · rintro ⟨h₁, h₂, h₃⟩
    exact ⟨(htpl _).trans h₁, hhome.trans h₂, hprofile.trans h₃⟩

/-- The status is persisted; nothing else changes. -/
theorem wp_patchStatus {σ : Type} {st : σ} {c : Cluster} {sb : Sandbox} {status : SandboxStatus}
    {P : Call → Cluster → Prop} {Q : Unit → σ → Cluster → Prop}
    (hsb : c.find? .sandbox sb.key = some sb)
    (hP : P (.updateStatus .sandbox { sb with status := status }) c)
    (hQ : ∀ c' rv, c'.find? .sandbox sb.key =
        some { sb with status := status, metadata.resourceVersion := rv } →
      (∀ key, key ≠ sb.key → c'.find? .sandbox key = c.find? .sandbox key) →
      SameOutside [.sandbox] c c' → Q () st c') : (patchStatus sb status).wp Step P Q st c := by
  refine wp_ite (fun heq => ?_) fun _ => ?_
  · subst heq
    exact hQ c _ hsb (fun _ _ => rfl) (.refl _ _)
  · refine wp_bind.mpr (wp_updateStatusIfPresent.mpr ⟨hP, ?_, ?_⟩)
    · exact fun hnone => nomatch hsb.symm.trans hnone
    · intro old hold _
      obtain rfl : sb = old := Option.some.inj (hsb.symm.trans hold)
      exact hQ _ _ (find?_write_self c .sandbox { sb with status := status })
        (fun key hkey => find?_write_ne c .sandbox _ fun h => hkey (Prod.mk.inj h).2)
        ⟨rfl, fun k hk => store_write_ne c _ (by simpa using hk)⟩

/-- `sb` is stored, at most with other finalizers and another resource version, and its finalizer
is on it. -/
def HoldsFinalizer (c : Cluster) (sb : Sandbox) : Prop :=
  ∃ finalizers rv, c.find? .sandbox sb.key = some (stamped sb finalizers rv) ∧
    sandboxFinalizer ∈ finalizers

/-- The calls of a pass over the live sandbox `sb` that starts in `c`. -/
inductive LiveCall (r : SandboxReconciler) (c : Cluster) (sb : Sandbox) : Call → Cluster → Prop
  | read {op : Call} {c' : Cluster} (h : op.target = none) : LiveCall r c sb op c'
  | finalizer : LiveCall r c sb (.update .sandbox { sb with
      metadata.finalizers := sb.metadata.finalizers ++ [sandboxFinalizer] }) c
  | gate {g : Gate} {op : Call} {c' : Cluster} (h : GateCall r sb g op c')
    (hc' : SameOutside preparedKinds c c') : LiveCall r c sb op c'
  | pod {op : Call} {c' : Cluster} (tpl : SandboxTemplate) (hopen : GatesOpen c sb tpl)
    (h : PodCall r sb tpl sb.status.lastActivityTime op c') (hc' : SameOutside preparedKinds c c')
    (hpolicy : PolicyLive c sb → PolicyCurrent r c' sb tpl) (hfinalizer : HoldsFinalizer c' sb) :
    LiveCall r c sb op c'
  | status {c' : Cluster} (finalizers : List String) (rv : Nat) (status : SandboxStatus)
    (htracks : Tracks sb c.clock status) :
    LiveCall r c sb (.updateStatus .sandbox
      { stamped sb finalizers rv with status := status }) c'

/-- What a pass over the live sandbox `sb` comes to : blocked by a gate with the sandbox
pending, or one of the outcomes of the desired-state machine. -/
def PassResult (c : Cluster) (sb : Sandbox) (st' : SandboxStatus) (c' : Cluster) : Prop :=
  ((∀ tpl, ¬GatesOpen c sb tpl) ∧
    progress st' = (.pending, sb.status.podIP, sb.status.lastActivityTime) ∧
    c'.find? .pod (podKey sb) = c.find? .pod (podKey sb)) ∨
  ∃ tpl, GatesOpen c sb tpl ∧ PodOutcome sb tpl sb.status c st' c'

/-- The state after a pass over the live sandbox `sb` that ended without error; `sb'` is the
sandbox as it is stored now. -/
structure PassOutcome (c : Cluster) (sb : Sandbox) (c' : Cluster) (sb' : Sandbox) : Prop where
  stamp : ∃ finalizers rv, sb' = stamped { sb with status := sb'.status } finalizers rv
  stored : c'.find? .sandbox sb.key = some sb'
  others : ∀ key, key ≠ sb.key → c'.find? .sandbox key = c.find? .sandbox key
  outside : SameOutside (.pod :: preparedKinds) c c'
  result : PassResult c sb sb'.status c'

theorem PassResult.transport {c c' c'' : Cluster} {sb : Sandbox} {st' : SandboxStatus}
    (hc' : c''.find? .pod (podKey sb) = c'.find? .pod (podKey sb)) (h : PassResult c sb st' c') :
    PassResult c sb st' c'' := by
  rcases h with ⟨hblocked, hst', hpod⟩ | ⟨tpl, hopen, houtcome⟩
  · exact Or.inl ⟨hblocked, hst', hc'.trans hpod⟩
  · exact Or.inr ⟨tpl, hopen, houtcome.transport rfl (.refl _ _) hc'⟩

section Live

variable (r : SandboxReconciler) {c c₁ : Cluster} {sb sb₁ : Sandbox}

theorem Prepared.sameOutside (hprep : Prepared c sb c₁ sb₁) {c' : Cluster}
    (hc' : SameOutside gateKinds c₁ c') : SameOutside preparedKinds c c' :=
  (hprep.outside.mono (by simp [preparedKinds])).trans
    (hc'.mono fun _ hk => List.mem_cons_of_mem _ hk)

theorem Prepared.holdsFinalizer (hprep : Prepared c sb c₁ sb₁) {c' : Cluster}
    (hc' : SameOutside gateKinds c₁ c') : HoldsFinalizer c' sb := by
  obtain ⟨finalizers, rv, rfl⟩ := hprep.stamp
  exact ⟨finalizers, rv, (hc'.find? (by decide) _).trans hprep.stored, hprep.finalizer⟩

theorem frame_ensureFinalizer (sb : Sandbox) : (ensureFinalizer sb : ClientM Unit Sandbox).Frame
    (GateOp [.sandbox]) id :=
  frame_ite (frame_pure _) (frame_update (gateOp_write rfl (by simp)))

theorem frame_patchStatus (sb : Sandbox) (status : SandboxStatus) :
    (patchStatus sb status : ClientM Unit Unit).Frame (GateOp [.sandbox]) id :=
  frame_ite (frame_pure _)
    ((frame_updateStatusIfPresent (gateOp_write rfl (by simp))).bind fun _ => frame_pure _)

theorem patchStatus_calls {σ : Type} {st : σ} {status : SandboxStatus} {P : Call → Cluster → Prop}
    (hP : P (.updateStatus .sandbox { sb with status := status }) c) :
    (patchStatus sb status : ClientM σ Unit).Always Step P st c :=
  wp_ite (fun _ => trivial) fun _ =>
    (always_updateStatusIfPresent hP).bind fun _ _ _ => trivial

/-- The pass around its body : the finalizer is put on, the body works out a status, also where
it ends with an error, and that status is persisted. `R` is what is known where the body ends. -/
theorem wp_reconcileLive_of {H : (op : Call) → Cluster → Resp Spec Status op → Cluster → Prop}
    (hH : ∀ op c a c', op.reads ≠ some .pod → H op c a c' → Step op c a c')
    {P : Call → Cluster → Prop} {Q : Result → Unit → Cluster → Prop}
    {R : Cluster → Sandbox → Except ApiError Result × SandboxStatus → Cluster → Prop}
    (hsb : c.find? .sandbox sb.key = some sb) (hlive : sb.deleting = false)
    (hfinalizer : P (.update .sandbox { sb with
      metadata.finalizers := sb.metadata.finalizers ++ [sandboxFinalizer] }) c)
    (hbody : ∀ c₁ sb₁, Prepared c sb c₁ sb₁ → (r.reconcileSandbox sb
      { sb.status with observedGeneration := sb.metadata.generation }).wp H P (R c₁ sb₁) c₁)
    (hstatus : ∀ c₁ sb₁ out c₂, Prepared c sb c₁ sb₁ → R c₁ sb₁ out c₂ →
      P (.updateStatus .sandbox { sb₁ with status := out.2 }) c₂)
    (hstored : ∀ c₁ sb₁ result st' c₂, Prepared c sb c₁ sb₁ → R c₁ sb₁ (.ok result, st') c₂ →
      c₂.find? .sandbox sb.key = some sb₁)
    (hQ : ∀ c₁ sb₁ result st' c₂ c' rv, Prepared c sb c₁ sb₁ → R c₁ sb₁ (.ok result, st') c₂ →
      c'.find? .sandbox sb.key = some { sb₁ with status := st', metadata.resourceVersion := rv } →
      (∀ key, key ≠ sb.key → c'.find? .sandbox key = c₂.find? .sandbox key) →
      SameOutside [.sandbox] c₂ c' → Q result () c') :
    (r.reconcileLive sb).wp H P Q () c := by
  refine wp_bind.mpr ((frame_ensureFinalizer sb).handler
    (fun _ _ _ _ hop => hH _ _ _ _ hop.noPod) (wp_ensureFinalizer hsb hlive hfinalizer ?_))
  intro c₁ sb₁ hprep
  obtain ⟨finalizers, rv, hstamp⟩ := id hprep.stamp
  subst hstamp
  refine wp_runFrom_bind (hbody c₁ _ hprep) ?_
  rintro ⟨result, st'⟩ c₂ hR
  have hpersist : (patchStatus (stamped sb finalizers rv) st' : ClientM Unit Unit).wp H P
      (fun _ _ c' => ∀ a, result = .ok a → Q a () c') () c₂ := by
    refine (frame_patchStatus _ _).handler (fun _ _ _ _ hop => hH _ _ _ _ hop.noPod) ?_
    cases result with
    | error e =>
      refine wp_post (patchStatus_calls (hstatus c₁ _ _ c₂ hprep hR)) ?_
      exact fun _ _ _ _ a ha => nomatch ha
    | ok result =>
      refine wp_patchStatus (hstored c₁ _ result st' c₂ hprep hR) (hstatus c₁ _ _ c₂ hprep hR) ?_
      intro c' rv' hc' hothers houtside a ha
      cases ha
      exact hQ c₁ _ result st' c₂ c' rv' hprep hR hc' hothers houtside
  refine wp_runFrom_bind hpersist ?_
  rintro ⟨updated, _⟩ c' h
  refine wp_bind.mpr (wp_ofExcept.mpr fun a ha => ?_)
  refine wp_bind.mpr (wp_ofExcept.mpr fun _ hok => ?_)
  cases hok
  exact h a ha

/-- The part of a pass between the finalizer and the status. -/
theorem wp_reconcileSandbox_prepared (hprep : Prepared c sb c₁ sb₁) :
    (r.reconcileSandbox sb).wp Step (LiveCall r c sb)
      (fun _ st' c' => SameOutside (.pod :: gateKinds) c₁ c' ∧ PassResult c sb st' c')
      { sb.status with observedGeneration := sb.metadata.generation } c₁ := by
  have hpods := hprep.outside.find? (show Kind.pod ∉ [Kind.sandbox] by decide) (podKey sb)
  refine wp_reconcileSandbox r sb (fun _ _ _ _ _ => id)
    (fun g op c' h hc' => .gate h (hprep.sameOutside hc')) ?_ ?_
  · intro hblocked _ st' c' hst' _ hc'
    refine ⟨hc'.mono fun _ hk => List.mem_cons_of_mem _ hk, Or.inl ⟨fun tpl h => ?_, hst', ?_⟩⟩
    · exact hblocked tpl ((hprep.gatesOpen_iff tpl).mpr h)
    · exact (hc'.find? (by decide) _).trans hpods
  · intro tpl hopen serviceAccount st₂ c₂ hstanding hc₂ hpolicy
    have hst₂ : progress st₂ = progress sb.status := congrArg Prod.fst hstanding
    rw [hprep.gatesOpen_iff] at hopen
    have hactivity : st₂.lastActivityTime = sb.status.lastActivityTime :=
      congrArg (fun p => p.2.2) hst₂
    refine wp_mono (driveState_outcome r sb tpl serviceAccount) ?_ ?_
    · rintro op c' (hread | ⟨hcall, rfl⟩)
      · exact .read hread
      · rw [hactivity] at hcall
        exact .pod tpl hopen hcall (hprep.sameOutside hc₂) (fun hlive =>
          hpolicy ((policyLive_congr sb hprep.outside (by decide)).mpr hlive))
          (hprep.holdsFinalizer hc₂)
    · rintro _ st' c' ⟨houtcome, hc'⟩
      refine ⟨(hc₂.mono ?_).trans (hc'.mono ?_), Or.inr ⟨tpl, hopen, ?_⟩⟩
      · exact fun _ hk => List.mem_cons_of_mem _ hk
      · simp
      · exact houtcome.transport hst₂ (hprep.sameOutside hc₂) rfl

/-- What a pass over a live sandbox does. -/
theorem wp_reconcileLive (hsb : c.find? .sandbox sb.key = some sb) (hlive : sb.deleting = false) :
    (r.reconcileLive sb).wp Step (LiveCall r c sb)
      (fun _ _ c' => ∃ sb', PassOutcome c sb c' sb') () c := by
  refine wp_reconcileLive_of (R := fun c₁ _ out c₂ => Routine.okPost (fun _ st' c' =>
    SameOutside (.pod :: gateKinds) c₁ c' ∧ PassResult c sb st' c') out c₂ ∧
      Tracks sb c.clock out.2) r (fun _ _ _ _ _ => id) hsb hlive .finalizer ?_ ?_ ?_ ?_
  · intro c₁ sb₁ hprep
    have hbody := Prog.wp_and (wp_reconcileSandbox_prepared r hprep)
      (tracks_reconcileSandbox r sb (c := c₁) ⟨rfl, id⟩)
    rw [hprep.outside.clock] at hbody
    exact Prog.wp_mono hbody (fun _ _ h => h.1) fun _ _ h => h
  · intro c₁ sb₁ out c₂ hprep hR
    obtain ⟨finalizers, rv, rfl⟩ := hprep.stamp
    exact .status _ _ _ hR.2
  · intro c₁ sb₁ result st' c₂ hprep hR
    exact (hR.1.1.find? (by decide) _).trans hprep.stored
  · intro c₁ sb₁ result st' c₂ c' rv' hprep hR hstored' hothers' hc'
    obtain ⟨⟨hc₂, hresult⟩, -⟩ := hR
    obtain ⟨finalizers, rv, rfl⟩ := id hprep.stamp
    refine ⟨_, ⟨_, rv', rfl⟩, hstored', fun key hkey => ?_, ?_, ?_⟩
    · rw [hothers' key hkey, hc₂.find? (by decide), hprep.others key hkey]
    · exact (hprep.outside.mono (by simp [preparedKinds])).trans
        ((hc₂.mono (by simp +contextual [preparedKinds])).trans
          (hc'.mono (by simp [preparedKinds])))
    · exact hresult.transport (hc'.find? (by decide) _)

/-- A pass that finds the sandbox `sb`, and `sb` is not being deleted, is a pass over `sb`. -/
theorem wp_reconcile_of_live {key : ObjectKey} {P : Call → Cluster → Prop}
    {Q : Result → Unit → Cluster → Prop} (hsb : c.find? .sandbox key = some sb)
    (hlive : sb.deleting = false) (hget : P (.get .sandbox key) c)
    (h : (r.reconcileLive sb).wp Step P Q () c) : (r.reconcile key).wp Step P Q () c := by
  refine wp_bind.mpr (wp_getOptional.mpr ⟨hget, ?_⟩)
  rw [hsb]
  refine wp_ite (fun hdeleting => ?_) fun _ => h
  exact nomatch hlive.symm.trans hdeleting

/-- What a pass does when it finds the sandbox `sb` and `sb` is not being deleted. -/
theorem wp_reconcile_live {key : ObjectKey} (hsb : c.find? .sandbox key = some sb)
    (hlive : sb.deleting = false) :
    (r.reconcile key).wp Step (LiveCall r c sb)
      (fun _ _ c' => ∃ sb', PassOutcome c sb c' sb') () c := by
  obtain rfl := key_of_find? hsb
  exact wp_reconcile_of_live r hsb hlive (.read rfl) (wp_reconcileLive r hsb hlive)

end Live

end Kubepark

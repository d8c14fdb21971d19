import Kubepark.SandboxPass

/-!
# What a pass guarantees

Statements about one pass over a live sandbox, for every cluster state and whatever calls
fail. Each is a case distinction over the calls of a pass (`LiveCall`) or over its outcomes
(`PassOutcome`).

* `live_pass_deletes` : a pod is deleted for a documented cause only, and claims, Secrets and
  ServiceAccounts are created but never rewritten.
* `stop_honoured_iff` : when a stop is honoured. A closed gate ends the pass before it.
* `route_sound_iff` : when the published address is that of a ready pod. A closed gate and the
  creation of the pod carry the old address over.
* `resume_iff` : when a suspended sandbox is resumed. The idle window is tested first.
-/

namespace Kubepark

open ApiServer Client SandboxReconciler

/-- A pass over `key` can take `c` to `c'`, making the calls `t` and returning `result`. -/
def Pass (r : SandboxReconciler) (key : ObjectKey) (c : Cluster) (t : List (Call × Cluster))
    (result : Except ApiError Result) (c' : Cluster) : Prop :=
  (r.reconcile key ()).Exec Step c t (result, ()) c'

/-- The pass over `key` against the faithful server. -/
def runPass (r : SandboxReconciler) (key : ObjectKey) (c : Cluster) :
    Except ApiError Result × Cluster :=
  (((r.reconcile key ()).run handle c).1.1, ((r.reconcile key ()).run handle c).2)

/-- The calls of the pass over `key` against the faithful server. -/
def passTrace (r : SandboxReconciler) (key : ObjectKey) (c : Cluster) : List (Call × Cluster) :=
  (r.reconcile key ()).trace handle c

theorem pass_of_runPass {r : SandboxReconciler} {key : ObjectKey} {c : Cluster} {result : Result}
    (h : (runPass r key c).1.toOption = some result) :
    Pass r key c (passTrace r key c) (.ok result) (runPass r key c).2 := by
  have hrun := Prog.exec_run step_handle (r.reconcile key ()) c
  cases hr : (runPass r key c).1 with
  | error e => rw [hr] at h; cases h
  | ok a =>
    rw [hr] at h
    obtain rfl := Option.some.inj h
    exact hr ▸ hrun

section Live

variable {r : SandboxReconciler} {key : ObjectKey} {c c' : Cluster} {t : List (Call × Cluster)}
  {sb : Sandbox}

theorem Pass.calls {result : Except ApiError Result} (h : Pass r key c t result c')
    (hsb : c.find? .sandbox key = some sb) (hlive : sb.deleting = false) :
    ∀ e ∈ t, LiveCall r c sb e.1 e.2 :=
  (h.wp (wp_reconcile_live r hsb hlive)).1

theorem Pass.outcome {result : Result} (h : Pass r key c t (.ok result) c')
    (hsb : c.find? .sandbox key = some sb) (hlive : sb.deleting = false) :
    ∃ sb', PassOutcome c sb c' sb' :=
  (h.wp (wp_reconcile_live r hsb hlive)).2

/-- What every call of a pass preserves, the pass preserves. -/
theorem Pass.preserves {result : Except ApiError Result} {I : Cluster → Prop}
    (h : Pass r key c t result c') (hsb : c.find? .sandbox key = some sb)
    (hlive : sb.deleting = false)
    (hI : ∀ op c₁ resp c₂, LiveCall r c sb op c₁ → Step op c₁ resp c₂ → I c₁ → I c₂) (hc : I c) :
    I c' :=
  h.visits.preserves (h.calls hsb hlive) hI hc

end Live

/-! ## A team with one sandbox -/

namespace Team

/-- A controller whose template hash tells templates apart by image. -/
def reconciler : SandboxReconciler where
  agentImage := "agent"
  priorityClassName := ""
  gatewayNamespace := ""
  operatorNamespace := "kubepark-system"
  templateHash tpl := tpl.image

def key : ObjectKey :=
  ⟨"team", "dev"⟩

/-- A template under which sandboxes idle out after an hour. -/
def template : SandboxTemplate :=
  ⟨{ name := "base" }, { image := "base", homeSize := 1, defaultIdleTimeout := some (3600 * second) },
    ()⟩

/-- Alice's sandbox. -/
def sandbox (desiredState : DesiredState) (status : SandboxStatus) : Sandbox :=
  ⟨{ name := "dev", namespaceName := "team", uid := "u1" },
    { template := "base", owner := { name := "alice" }, desiredState := desiredState }, status⟩

/-- The status of a sandbox that runs under `10.0.0.7` since the epoch. -/
def running : SandboxStatus :=
  { phase := .running, podIP := "10.0.0.7", lastActivityTime := some 0 }

/-- What the kubelet reports of a pod that is ready under `10.0.0.7`. -/
def ready : PodStatus :=
  { phase := .running, podIP := "10.0.0.7", conditions := [⟨.ready, .true, ""⟩] }

/-- The pod of the sandbox, ready. -/
def pod : Pod :=
  { reconciler.desiredPod (sandbox .running {}) template "" with status := ready }

/-- The team's namespace and the operator's, and the given objects. -/
def cluster (templates : List SandboxTemplate) (sb : Sandbox) (pods : List Pod) : Cluster :=
  .ofObjects (fun
    | .namespace => [⟨{ name := "team" }, (), ()⟩, ⟨{ name := "kubepark-system" }, (), ()⟩]
    | .sandboxTemplate => templates
    | .sandbox => [sb]
    | .pod => pods
    | _ => []) 0

/-- The team's namespace, the operator's and the template. -/
def vacant : Cluster :=
  .ofObjects (fun
    | .namespace => [⟨{ name := "team" }, (), ()⟩, ⟨{ name := "kubepark-system" }, (), ()⟩]
    | .sandboxTemplate => [template]
    | _ => []) 0

/-- The next pass over the sandbox. -/
def pass (c : Cluster) : Cluster :=
  (runPass reconciler key c).2

/-- The kubelet reports the pod ready. -/
def podBecomesReady (c : Cluster) : Cluster :=
  (handle (.patchStatus .pod ⟨"team", "kubepark-sb-dev"⟩ fun _ => ready) c).2

/-- The kubelet reports that the pod has failed. -/
def podFails (c : Cluster) : Cluster :=
  (handle (.patchStatus .pod ⟨"team", "kubepark-sb-dev"⟩ fun st => { st with phase := .failed }) c).2

/-- The pod is gone. -/
def podVanishes (c : Cluster) : Cluster :=
  c.remove .pod ⟨"team", "kubepark-sb-dev"⟩

def templateDeleted (c : Cluster) : Cluster :=
  (handle (.delete .sandboxTemplate ⟨"", "base"⟩ "user") c).2

/-- The user sets the desired state. -/
def setDesired (desiredState : DesiredState) (c : Cluster) : Cluster :=
  (handle (.patch .sandbox key fun spec => { spec with desiredState := desiredState }) c).2

/-- From its creation to its published address : the pod is created, becomes ready, and its
address is published. -/
def published : Cluster :=
  pass (podBecomesReady (pass (cluster [template] (sandbox .running {}) [])))

end Team

/-! ## Causes of a pod's death -/

/-- Why a pass may delete the pod of `sb`. -/
inductive DeleteCause (c : Cluster) (sb : Sandbox) : Prop
  | stopped (h : sb.spec.desiredState = .stopped)
  | idle (tpl : SandboxTemplate) (last : Time)
    (htpl : c.find? .sandboxTemplate ⟨"", sb.spec.template⟩ = some tpl)
    (hsessions : ∀ s ∈ c.objs .sandboxSession,
      s.metadata.namespaceName = sb.metadata.namespaceName →
        s.spec.sandboxName = sb.metadata.name → s.status.state ≠ .active)
    (hlast : sb.status.lastActivityTime = some last)
    (hpositive : 0 < effectiveIdleTimeout sb tpl)
    (hexceeded : effectiveIdleTimeout sb tpl < c.clock - last)
  | dead (pod : Pod) (hpod : c.find? .pod (podKey sb) = some pod)
    (hdead : pod.status.phase = .failed ∨ pod.status.phase = .succeeded)

theorem activeSessions_eq_zero_iff {c : Cluster} {sb : Sandbox} :
    activeSessions c sb = 0 ↔ ∀ s ∈ c.objs .sandboxSession,
      s.metadata.namespaceName = sb.metadata.namespaceName →
        s.spec.sandboxName = sb.metadata.name → s.status.state ≠ .active := by
  simp [activeSessions, inNamespace]

theorem idleExpired_iff {lastActivity : Option Time} {timeout : Duration} {now : Time} :
    idleExpired lastActivity timeout now = true ↔
      ∃ last, lastActivity = some last ∧ 0 < timeout ∧ timeout < now - last := by
  cases lastActivity with
  | none => simp [idleExpired]
  | some last => simp [idleExpired]

theorem deleteCause_of_suspends {c : Cluster} {sb : Sandbox} {tpl : SandboxTemplate}
    (htpl : c.find? .sandboxTemplate ⟨"", sb.spec.template⟩ = some tpl)
    (h : Suspends c sb tpl sb.status.lastActivityTime) : DeleteCause c sb := by
  rcases h with hstop | ⟨hsessions, hexpired⟩
  · exact .stopped hstop
  · obtain ⟨last, hlast, hpositive, hexceeded⟩ := idleExpired_iff.mp hexpired
    exact .idle tpl last htpl (activeSessions_eq_zero_iff.mp hsessions) hlast hpositive hexceeded

/-- The kinds a live pass creates objects of and never rewrites. -/
def createdOnly : List Kind :=
  [.persistentVolumeClaim, .secret, .serviceAccount]

theorem LiveCall.pod_delete {r : SandboxReconciler} {c c' : Cluster} {sb : Sandbox}
    {key : ObjectKey} {site : String} (h : LiveCall r c sb (.delete .pod key site) c') :
    key = podKey sb ∧ DeleteCause c sb := by
  cases h with
  | read h => cases h
  | gate h hc' => exact absurd (Gate.kinds_subset _ _ (h.within _ rfl)) (by simp [gateKinds])
  | pod tpl hopen h hc' =>
    have hpods := hc'.find? (show Kind.pod ∉ preparedKinds by decide) (podKey sb)
    cases h with
    | suspend pod hsuspends hpod hlive =>
      exact ⟨rfl, deleteCause_of_suspends hopen.template
        ((suspends_congr hc' sb tpl _).mp hsuspends)⟩
    | recreate pod hrun hpod hlive hdead =>
      exact ⟨rfl, .dead pod (hpods ▸ hpod) (by simpa [podDead] using hdead)⟩

theorem LiveCall.onlyCreates {r : SandboxReconciler} {c c' : Cluster} {sb : Sandbox} {op : Call}
    (h : LiveCall r c sb op c') {k : Kind} (hk : k ∈ createdOnly) : op.OnlyCreates k := by
  rintro t ht rfl
  cases h with
  | read h => rw [h] at ht; cases ht
  | finalizer => cases ht; simp [createdOnly] at hk
  | gate h hc' =>
    cases h with
    | read h => rw [h] at ht; cases ht
    | policyUpdate => cases ht; simp [createdOnly] at hk
    | rbac granted h =>
      cases h with
      | read h => rw [h] at ht; cases ht
      | serviceAccount => cases ht; exact ⟨_, rfl⟩
      | _ => cases ht; simp [createdOnly] at hk
    | _ => cases ht; exact ⟨_, rfl⟩
  | pod tpl hopen h hc' => cases h <;> cases ht <;> simp [createdOnly] at hk
  | status => cases ht; simp [createdOnly] at hk

/-- Of the pods, a live pass that has no cause to delete one changes none. -/
theorem LiveCall.pod_onlyCreates {r : SandboxReconciler} {c c' : Cluster} {sb : Sandbox} {op : Call}
    (h : LiveCall r c sb op c') (hcause : ¬DeleteCause c sb) : op.OnlyCreates .pod := by
  intro t ht htk
  cases h with
  | read h => rw [h] at ht; cases ht
  | finalizer => cases ht; cases htk
  | gate h hc' =>
    have hk := Gate.kinds_subset _ _ (h.within t ht)
    rw [htk] at hk
    exact absurd hk (by decide)
  | pod tpl hopen h hc' hpolicy hfinalizer =>
    have hcall := LiveCall.pod tpl hopen h hc' hpolicy hfinalizer
    cases h with
    | create => exact ⟨_, rfl⟩
    | suspend => exact absurd hcall.pod_delete.2 hcause
    | recreate => exact absurd hcall.pod_delete.2 hcause
  | status => cases ht; cases htk

/-- A pass over a live sandbox deletes no pod but its own, and that only when the sandbox is
stopped, or idle for longer than its positive timeout with no Active session, or the pod is
dead; without such a cause every pod stays as it is, whatever the template says now. It
creates claims, Secrets and ServiceAccounts, and rewrites and deletes none. -/
theorem live_pass_deletes (r : SandboxReconciler) (key : ObjectKey) (c c' : Cluster)
    (t : List (Call × Cluster)) (result : Except ApiError Result) (sb : Sandbox)
    (hsb : c.find? .sandbox key = some sb) (hlive : sb.deleting = false)
    (hpass : Pass r key c t result c') :
    (∀ e ∈ t, ∀ podKey' site, e.1 = .delete .pod podKey' site →
      podKey' = podKey sb ∧ DeleteCause c sb) ∧
    (¬DeleteCause c sb → ∀ key' pod, c.find? .pod key' = some pod → c'.find? .pod key' = some pod) ∧
    (∀ e ∈ t, ∀ k ∈ createdOnly, e.1.OnlyCreates k) ∧
    ∀ k ∈ createdOnly, ∀ key' o, c.find? k key' = some o → c'.find? k key' = some o := by
  have hcalls := hpass.calls hsb hlive
  refine ⟨?_, ?_, ?_, ?_⟩
  · rintro ⟨op, c₁⟩ he podKey' site rfl
    exact (hcalls _ he).pod_delete
  · intro hcause key' pod
    exact hpass.preserves hsb hlive fun op c₁ resp c₂ hop hs =>
      hs.keeps (hop.pod_onlyCreates hcause)
  · exact fun e he k hk => (hcalls e he).onlyCreates hk
  · intro k hk key' o
    exact hpass.preserves hsb hlive fun op c₁ resp c₂ hop hs => hs.keeps (hop.onlyCreates hk)

/-- A running sandbox whose template has been edited. -/
def Team.templateEdited : Cluster :=
  Team.cluster [{ Team.template with spec.image := "edited" }] (Team.sandbox .running Team.running)
    [Team.pod]

theorem Team.templateEdited_no_cause :
    ¬DeleteCause Team.templateEdited (Team.sandbox .running Team.running) := by
  rintro (h | ⟨tpl, last, htpl, -, hlast, hpositive, hexceeded⟩ | ⟨pod, hpod, hdead⟩)
  · cases h
  · cases hlast
    exact absurd (Int.lt_trans hpositive hexceeded) (by decide)
  · cases hpod
    rcases hdead with h | h <;> cases h

/-- The pass after the edit leaves the pod as it is. -/
theorem live_pass_deletes_template_edited :
    (runPass Team.reconciler Team.key Team.templateEdited).2.find? .pod
      ⟨"team", "kubepark-sb-dev"⟩ = some Team.pod :=
  (live_pass_deletes Team.reconciler Team.key _ _ _ (.ok { requeueAfter := 3600 * second })
    (Team.sandbox .running Team.running) rfl rfl (pass_of_runPass (by decide +kernel))).2.1
    Team.templateEdited_no_cause _ _ rfl

/-! ## Stop -/

/-- The pod of `sb` is absent or being deleted. -/
def PodGone (c : Cluster) (sb : Sandbox) : Prop :=
  ∀ pod, c.find? .pod (podKey sb) = some pod → pod.deleting = true

/-- The address persisted for the sandbox under `key` is empty. -/
def RouteEmpty (c : Cluster) (key : ObjectKey) : Prop :=
  ∃ sb, c.find? .sandbox key = some sb ∧ sb.status.podIP = ""

/-- An error-free pass over a stopped sandbox leaves its pod absent or being deleted and its
address empty if and only if every gate lets the sandbox through, or pod and address were so
already : a closed gate ends the pass before the stop is looked at. -/
theorem stop_honoured_iff (r : SandboxReconciler) (key : ObjectKey) (c c' : Cluster)
    (t : List (Call × Cluster)) (result : Result) (sb : Sandbox)
    (hsb : c.find? .sandbox key = some sb) (hlive : sb.deleting = false)
    (hstop : sb.spec.desiredState = .stopped) (hpass : Pass r key c t (.ok result) c') :
    (PodGone c' sb ∧ RouteEmpty c' key) ↔
      ((∃ tpl, GatesOpen c sb tpl) ∨ (PodGone c sb ∧ sb.status.podIP = "")) := by
  obtain ⟨sb', hout⟩ := hpass.outcome hsb hlive
  obtain rfl := key_of_find? hsb
  have hroute : RouteEmpty c' sb.key ↔ sb'.status.podIP = "" := by
    simp [RouteEmpty, hout.stored]
  rcases hout.result with ⟨hblocked, hst', hpod⟩ | ⟨tpl, hopen, houtcome⟩
  · have hip : sb'.status.podIP = sb.status.podIP := congrArg (fun p => p.2.1) hst'
    have hclosed : ¬∃ tpl, GatesOpen c sb tpl := fun ⟨tpl, h⟩ => hblocked tpl h
    simp [hroute, hip, hclosed, PodGone, hpod]
  · refine iff_of_true ?_ (Or.inl ⟨tpl, hopen⟩)
    rw [hroute]
    cases houtcome with
    | suspended hsuspends habsent habsent' hphase hip =>
      exact ⟨fun pod hpod => (nomatch habsent'.symm.trans hpod), hip⟩
    | suspending pod pod' hsuspends hpod hpod' hdeleting hphase hip =>
      refine ⟨fun pod hpod => ?_, hip⟩
      rw [Option.some.inj (hpod.symm.trans hpod')]
      exact hdeleting
    | created pod' hrun => exact absurd (Or.inl hstop) hrun
    | dead pod pod' hrun => exact absurd (Or.inl hstop) hrun
    | ready pod hrun => exact absurd (Or.inl hstop) hrun
    | pending pod hrun => exact absurd (Or.inl hstop) hrun

/-- A running sandbox is stopped. -/
def Team.stopped : Cluster :=
  Team.cluster [Team.template] (Team.sandbox .stopped Team.running) [Team.pod]

theorem stop_honoured_with_template :
    PodGone (Team.pass Team.stopped) (Team.sandbox .stopped Team.running) ∧
      RouteEmpty (Team.pass Team.stopped) Team.key :=
  (stop_honoured_iff Team.reconciler Team.key Team.stopped _ _ {}
    (Team.sandbox .stopped Team.running) rfl rfl rfl (pass_of_runPass (by decide +kernel))).mpr
    (Or.inl ⟨Team.template, rfl, rfl, rfl⟩)

/-- A sandbox is brought up, its template is deleted, and it is stopped. -/
def Team.stoppedWithoutTemplate : Cluster :=
  Team.setDesired .stopped (Team.templateDeleted Team.published)

/-- The pass returns without error and the pod runs on, with its address published. -/
theorem stop_ignored_without_template :
    (∃ sb, Team.stoppedWithoutTemplate.find? .sandbox Team.key = some sb ∧ sb.deleting = false ∧
        sb.spec.desiredState = .stopped ∧
        ¬(PodGone (Team.pass Team.stoppedWithoutTemplate) sb ∧
          RouteEmpty (Team.pass Team.stoppedWithoutTemplate) Team.key)) ∧
      Pass Team.reconciler Team.key Team.stoppedWithoutTemplate
        (passTrace Team.reconciler Team.key Team.stoppedWithoutTemplate) (.ok {})
        (Team.pass Team.stoppedWithoutTemplate) := by
  have hbefore : (Team.stoppedWithoutTemplate.find? .sandbox Team.key).any (fun sb =>
      !sb.deleting ∧ sb.spec.desiredState = .stopped) = true := by decide +kernel
  have hafter : ((Team.pass Team.stoppedWithoutTemplate).find? .sandbox Team.key).all (fun sb =>
      sb.status.podIP ≠ "") = true := by decide +kernel
  obtain ⟨sb, hsb, hstop⟩ := (Option.any_eq_true _ _).mp hbefore
  simp only [Bool.not_eq_true', decide_eq_true_eq] at hstop
  refine ⟨⟨sb, hsb, hstop.1, hstop.2, ?_⟩, pass_of_runPass (by decide +kernel)⟩
  rintro ⟨-, sb', hsb', hempty⟩
  simp [hsb', hempty] at hafter

/-! ## The published route -/

/-- A non-empty address is published only for a running sandbox, and it is that of its pod,
which is ready and not being deleted. -/
def RouteSound (c : Cluster) (key : ObjectKey) : Prop :=
  ∀ sb, c.find? .sandbox key = some sb → sb.status.podIP ≠ "" → sb.status.phase = .running ∧
    ∃ pod, c.find? .pod (podKey sb) = some pod ∧ podReady pod = true ∧ pod.deleting = false ∧
      pod.status.podIP = sb.status.podIP

/-- What has to hold before a pass for the route to be sound after it. Every exit of the pass
but these overwrites the address. -/
structure RouteUnlessStale (c : Cluster) (sb : Sandbox) : Prop where
  /-- A closed gate carries the address over. -/
  blocked : (∀ tpl, ¬GatesOpen c sb tpl) → sb.status.podIP = ""
  /-- So does the creation of the pod. -/
  absent : ∀ tpl, GatesOpen c sb tpl → ¬Suspends c sb tpl sb.status.lastActivityTime →
    c.find? .pod (podKey sb) = none → sb.status.podIP = ""
  /-- The address of a ready pod is published even when the pod is being deleted. -/
  terminating : ∀ tpl pod, GatesOpen c sb tpl → ¬Suspends c sb tpl sb.status.lastActivityTime →
    c.find? .pod (podKey sb) = some pod → podReady pod = true → pod.status.podIP ≠ "" →
      pod.deleting = false

theorem routeUnlessStale_iff {c : Cluster} {sb : Sandbox} {tpl : SandboxTemplate}
    (hopen : GatesOpen c sb tpl) : RouteUnlessStale c sb ↔
      (¬Suspends c sb tpl sb.status.lastActivityTime →
        (c.find? .pod (podKey sb) = none → sb.status.podIP = "") ∧
        ∀ pod, c.find? .pod (podKey sb) = some pod → podReady pod = true → pod.status.podIP ≠ "" →
          pod.deleting = false) := by
  constructor
  · exact fun h hrun => ⟨h.absent tpl hopen hrun, fun pod => h.terminating tpl pod hopen hrun⟩
  · intro h
    refine ⟨fun hblocked => absurd hopen (hblocked tpl), fun tpl' hopen' hrun => ?_,
      fun tpl' pod hopen' hrun => ?_⟩
    · exact (h (gatesOpen_tpl_unique sb hopen hopen' ▸ hrun)).1
    · exact (h (gatesOpen_tpl_unique sb hopen hopen' ▸ hrun)).2 pod

/-- The route after the desired-state machine. -/
theorem PodOutcome.route_iff {c c' : Cluster} {sb : Sandbox} {tpl : SandboxTemplate}
    {st' : SandboxStatus} (h : PodOutcome sb tpl sb.status c st' c') :
    (st'.podIP ≠ "" → st'.phase = .running ∧ ∃ pod, c'.find? .pod (podKey sb) = some pod ∧
      podReady pod = true ∧ pod.deleting = false ∧ pod.status.podIP = st'.podIP) ↔
    (¬Suspends c sb tpl sb.status.lastActivityTime →
      (c.find? .pod (podKey sb) = none → sb.status.podIP = "") ∧
      ∀ pod, c.find? .pod (podKey sb) = some pod → podReady pod = true → pod.status.podIP ≠ "" →
        pod.deleting = false) := by
  cases h with
  | suspended hsuspends _ _ _ hip =>
    exact iff_of_true (fun hne => absurd hip hne) fun hrun => absurd hsuspends hrun
  | suspending _ _ hsuspends _ _ _ _ hip =>
    exact iff_of_true (fun hne => absurd hip hne) fun hrun => absurd hsuspends hrun
  | created pod' hrun habsent _ _ hphase hip =>
    simp only [hip, hrun, not_false_eq_true, habsent, forall_true_left, reduceCtorEq,
      IsEmpty.forall_iff, implies_true, and_true]
    constructor
    · intro h
      by_contra hne
      rcases hphase with hphase | hphase <;> exact nomatch hphase.symm.trans (h hne).1
    · exact fun hip hne => absurd hip hne
  | dead pod _ hrun hpod hdead _ _ _ hip =>
    refine iff_of_true (fun hne => absurd hip hne) fun _ => ⟨fun hnone => ?_, ?_⟩
    · exact nomatch hpod.symm.trans hnone
    · rintro pod' hpod' hready
      rw [← Option.some.inj (hpod.symm.trans hpod')] at hready
      exact nomatch hdead.symm.trans (podDead_of_podReady hready)
  | ready pod hrun hpod hready hpod' hphase hip =>
    simp [hip, hrun, hpod, hready, hpod', hphase]
  | pending pod hrun hpod _ hready _ _ hip =>
    refine iff_of_true (fun hne => absurd hip hne) fun _ => ⟨fun hnone => ?_, ?_⟩
    · exact nomatch hpod.symm.trans hnone
    · rintro pod' hpod' hready'
      rw [← Option.some.inj (hpod.symm.trans hpod')] at hready'
      exact nomatch hready.symm.trans hready'

/-- After an error-free pass the route is sound if and only if no stale address was there to be
carried over and no ready pod was being deleted. -/
theorem route_sound_iff (r : SandboxReconciler) (key : ObjectKey) (c c' : Cluster)
    (t : List (Call × Cluster)) (result : Result) (sb : Sandbox)
    (hsb : c.find? .sandbox key = some sb) (hlive : sb.deleting = false)
    (hpass : Pass r key c t (.ok result) c') : RouteSound c' key ↔ RouteUnlessStale c sb := by
  obtain ⟨sb', hout⟩ := hpass.outcome hsb hlive
  obtain rfl := key_of_find? hsb
  have hkey : podKey sb' = podKey sb := by
    obtain ⟨_, _, hstamp⟩ := hout.stamp
    rw [hstamp]
    rfl
  have hroute : RouteSound c' sb.key ↔ (sb'.status.podIP ≠ "" → sb'.status.phase = .running ∧
      ∃ pod, c'.find? .pod (podKey sb) = some pod ∧ podReady pod = true ∧ pod.deleting = false ∧
        pod.status.podIP = sb'.status.podIP) := by
    simp [RouteSound, hout.stored, hkey]
  rw [hroute]
  rcases hout.result with ⟨hblocked, hst', hpod⟩ | ⟨tpl, hopen, houtcome⟩
  · have hphase : sb'.status.phase = .pending := congrArg (fun p => p.1) hst'
    have hip : sb'.status.podIP = sb.status.podIP := congrArg (fun p => p.2.1) hst'
    rw [hphase, hip]
    constructor
    · intro h
      refine ⟨fun _ => ?_, fun tpl hopen => absurd hopen (hblocked tpl),
        fun tpl _ hopen => absurd hopen (hblocked tpl)⟩
      by_contra hne
      exact nomatch (h hne).1
    · exact fun h hne => absurd (h.blocked hblocked) hne
  · rw [routeUnlessStale_iff hopen]
    exact houtcome.route_iff

/-- A running sandbox whose pod is ready. -/
def Team.steady : Cluster :=
  Team.cluster [Team.template] (Team.sandbox .running Team.running) [Team.pod]

theorem route_sound_steady : RouteSound (Team.pass Team.steady) Team.key := by
  refine (route_sound_iff Team.reconciler Team.key Team.steady _ _
    { requeueAfter := 3600 * second } _ rfl rfl (pass_of_runPass (by decide +kernel))).mpr
      ⟨fun h => ?_, ?_, ?_⟩
  · exact absurd ⟨rfl, rfl, rfl⟩ (h Team.template)
  · exact fun _ _ _ h => nomatch h
  · intro _ pod _ _ hpod _ _
    cases hpod
    rfl

/-- A sandbox is brought up, its template is deleted, and its node takes the pod down. -/
def Team.podLostWithoutTemplate : Cluster :=
  Team.podVanishes (Team.templateDeleted Team.published)

/-- The pass sets the phase to Pending and keeps the address of the lost pod published. -/
theorem route_stale_without_template :
    Pass Team.reconciler Team.key Team.podLostWithoutTemplate
        (passTrace Team.reconciler Team.key Team.podLostWithoutTemplate) (.ok {})
        (Team.pass Team.podLostWithoutTemplate) ∧
      ¬RouteSound (Team.pass Team.podLostWithoutTemplate) Team.key := by
  have hafter : ((Team.pass Team.podLostWithoutTemplate).find? .sandbox Team.key).any (fun sb =>
      sb.status.podIP ≠ "" ∧ sb.status.phase = .pending) = true := by decide +kernel
  obtain ⟨sb, hsb, hstale⟩ := (Option.any_eq_true _ _).mp hafter
  simp only [decide_eq_true_eq] at hstale
  refine ⟨pass_of_runPass (by decide +kernel), fun h => ?_⟩
  exact nomatch hstale.2.symm.trans (h sb hsb hstale.1).1

/-! ## Resume -/

/-- Among the calls `t` is the creation of the pod of `sb`. -/
def CreatesPod (sb : Sandbox) (t : List (Call × Cluster)) : Prop :=
  ∃ e ∈ t, ∃ pod, e.1 = .create .pod pod ∧ pod.key = podKey sb

/-- A pass makes a pod where there was none only by creating it. -/
theorem Pass.createsPod {r : SandboxReconciler} {key : ObjectKey} {c c' : Cluster}
    {t : List (Call × Cluster)} {result : Except ApiError Result} {sb : Sandbox} {pod : Pod}
    (hpass : Pass r key c t result c') (hsb : c.find? .sandbox key = some sb)
    (hlive : sb.deleting = false) (habsent : c.find? .pod (podKey sb) = none)
    (hpod : c'.find? .pod (podKey sb) = some pod) : CreatesPod sb t := by
  by_contra hnone
  have habsent' : c'.find? .pod (podKey sb) = none := by
    refine hpass.visits.preserves (I := fun c₁ => c₁.find? .pod (podKey sb) = none)
      (P := fun op c₁ => LiveCall r c sb op c₁ ∧
        ∀ pod, op = .create .pod pod → pod.key ≠ podKey sb) (fun e he => ⟨?_, ?_⟩) ?_ habsent
    · exact hpass.calls hsb hlive e he
    · exact fun pod hop hkey => hnone ⟨e, he, pod, hop, hkey⟩
    · rintro op c₁ resp c₂ ⟨hop, hcreate⟩ hs habs
      by_cases htarget : op.target = some (.pod, podKey sb)
      · cases hop with
        | read h => cases h.symm.trans htarget
        | finalizer => cases htarget
        | gate h =>
          exact absurd (Gate.kinds_subset _ _ (h.within _ htarget)) (by simp [gateKinds])
        | pod tpl hopen h =>
          cases h with
          | create => exact absurd rfl (hcreate _ rfl)
          | suspend pod _ hpod => cases habs.symm.trans hpod
          | recreate pod _ hpod => cases habs.symm.trans hpod
        | status => cases htarget
      · rw [hs.find? htarget, habs]
  cases habsent'.symm.trans hpod

/-- A live pass creates the pod its sandbox asks for, when every gate is open, nothing suspends
the sandbox and there is no pod. -/
theorem LiveCall.pod_create {r : SandboxReconciler} {c c' : Cluster} {sb : Sandbox} {pod : Pod}
    (h : LiveCall r c sb (.create .pod pod) c') :
    ∃ tpl serviceAccount, pod = r.desiredPod sb tpl serviceAccount ∧ GatesOpen c sb tpl ∧
      ¬Suspends c sb tpl sb.status.lastActivityTime ∧ c.find? .pod (podKey sb) = none ∧
      SameOutside preparedKinds c c' := by
  cases h with
  | read h => cases h
  | gate h hc' => exact absurd (Gate.kinds_subset _ _ (h.within _ rfl)) (by simp [gateKinds])
  | pod tpl hopen h hc' =>
    have hpods := hc'.find? (show Kind.pod ∉ preparedKinds by decide) (podKey sb)
    cases h with
    | create serviceAccount hrun habsent =>
      exact ⟨tpl, serviceAccount, rfl, hopen, mt (suspends_congr hc' sb tpl _).mpr hrun,
        hpods ▸ habsent, hc'⟩

/-- The sandbox has something to run for : an Active session names it, or its idle window has
not elapsed. -/
def KeepsRunning (c : Cluster) (sb : Sandbox) (tpl : SandboxTemplate) : Prop :=
  (∃ s ∈ c.objs .sandboxSession, s.metadata.namespaceName = sb.metadata.namespaceName ∧
      s.spec.sandboxName = sb.metadata.name ∧ s.status.state = .active) ∨
    ∀ last, sb.status.lastActivityTime = some last → 0 < effectiveIdleTimeout sb tpl →
      c.clock - last ≤ effectiveIdleTimeout sb tpl

theorem not_suspends_iff {c : Cluster} {sb : Sandbox} {tpl : SandboxTemplate}
    (hdesired : sb.spec.desiredState = .running) :
    ¬Suspends c sb tpl sb.status.lastActivityTime ↔ KeepsRunning c sb tpl := by
  simp only [Suspends, Idle, hdesired, reduceCtorEq, false_or]
  rw [not_and_or, activeSessions_eq_zero_iff, idleExpired_iff]
  simp only [KeepsRunning, not_forall, not_exists, exists_prop, ne_eq, not_not, not_and, Int.not_lt]

/-- A suspended sandbox without a pod, with desired state Running and every gate open : the
next error-free pass creates the pod if and only if an Active session names the sandbox or
its idle window has not elapsed. A sandbox that was stopped for longer than its idle timeout
and is set to Running stays suspended. -/
theorem resume_iff (r : SandboxReconciler) (key : ObjectKey) (c c' : Cluster)
    (t : List (Call × Cluster)) (result : Result) (sb : Sandbox) (tpl : SandboxTemplate)
    (hsb : c.find? .sandbox key = some sb) (hlive : sb.deleting = false)
    (habsent : c.find? .pod (podKey sb) = none) (hdesired : sb.spec.desiredState = .running)
    (hopen : GatesOpen c sb tpl) (hpass : Pass r key c t (.ok result) c') :
    CreatesPod sb t ↔ KeepsRunning c sb tpl := by
  rw [← not_suspends_iff hdesired]
  constructor
  · rintro ⟨⟨op, c₁⟩, he, pod, rfl, -⟩
    obtain ⟨tpl', -, -, hopen', hrun, -⟩ := (hpass.calls hsb hlive _ he).pod_create
    rwa [gatesOpen_tpl_unique sb hopen hopen']
  · intro hrun
    obtain ⟨sb', hout⟩ := hpass.outcome hsb hlive
    rcases hout.result with ⟨hblocked, -⟩ | ⟨tpl', hopen', houtcome⟩
    · exact absurd hopen (hblocked tpl)
    · rw [← gatesOpen_tpl_unique sb hopen hopen'] at houtcome
      cases houtcome with
      | suspended hsuspends => exact absurd hsuspends hrun
      | suspending _ _ hsuspends => exact absurd hsuspends hrun
      | created pod' _ _ hpod' => exact hpass.createsPod hsb hlive habsent hpod'
      | dead pod _ _ hpod => exact nomatch habsent.symm.trans hpod
      | ready pod _ hpod => exact nomatch habsent.symm.trans hpod
      | pending pod _ hpod => exact nomatch habsent.symm.trans hpod

/-- A suspended sandbox within its idle window. -/
def Team.suspendedRecently : Cluster :=
  Team.cluster [Team.template]
    (Team.sandbox .running { phase := .suspended, lastActivityTime := some 0 }) []

theorem resume_within_idle_timeout :
    CreatesPod (Team.sandbox .running { phase := .suspended, lastActivityTime := some 0 })
      (passTrace Team.reconciler Team.key Team.suspendedRecently) := by
  refine (resume_iff Team.reconciler Team.key Team.suspendedRecently _ _ {} _ Team.template
    rfl rfl rfl rfl ⟨rfl, rfl, rfl⟩ (pass_of_runPass (by decide +kernel))).mpr (Or.inr ?_)
  rintro last hlast -
  cases hlast
  decide

/-- A sandbox is brought up, stopped and suspended. -/
def Team.suspended : Cluster :=
  Team.pass (Team.podVanishes (Team.pass (Team.setDesired .stopped Team.published)))

/-- Two hours later it is set to Running again. -/
def Team.resumed : Cluster :=
  Team.setDesired .running { Team.suspended with clock := 7200 * second }

/-- The pass after the flip creates no pod. -/
theorem resume_ignored_after_idle_timeout :
    (∃ sb tpl, Team.resumed.find? .sandbox Team.key = some sb ∧ sb.deleting = false ∧
        sb.status.phase = .suspended ∧ Team.resumed.find? .pod (podKey sb) = none ∧
        sb.spec.desiredState = .running ∧ GatesOpen Team.resumed sb tpl ∧
        ¬CreatesPod sb (passTrace Team.reconciler Team.key Team.resumed)) ∧
      (Team.suspended.find? .sandbox Team.key).any (·.spec.desiredState = .stopped) = true ∧
      Pass Team.reconciler Team.key Team.resumed
        (passTrace Team.reconciler Team.key Team.resumed) (.ok {}) (Team.pass Team.resumed) := by
  have hbefore : (Team.resumed.find? .sandbox Team.key).any (fun sb => sb.deleting = false ∧
      sb.status.phase = .suspended ∧ (Team.resumed.find? .pod (podKey sb)).isNone ∧
      sb.spec.desiredState = .running ∧
      (Team.resumed.find? .sandboxTemplate ⟨"", sb.spec.template⟩).isSome ∧
      homeOpen Team.resumed sb ∧ profilePermits Team.resumed sb) = true := by decide +kernel
  have htrace : (passTrace Team.reconciler Team.key Team.resumed).all (fun e =>
      e.1.target.all (·.1 ≠ .pod)) = true := by decide +kernel
  obtain ⟨sb, hsb, h⟩ := (Option.any_eq_true _ _).mp hbefore
  obtain ⟨hlive, hphase, habsent, hdesired, htpl, hhome, hprofile⟩ := decide_eq_true_eq.mp h
  obtain ⟨tpl, htpl⟩ := Option.isSome_iff_exists.mp htpl
  refine ⟨⟨sb, tpl, hsb, hlive, hphase, Option.isNone_iff_eq_none.mp habsent, hdesired,
    ⟨htpl, hhome, hprofile⟩, ?_⟩, by decide +kernel, pass_of_runPass (by decide +kernel)⟩
  rintro ⟨e, he, pod, hop, -⟩
  have := List.all_eq_true.mp htrace e he
  rw [hop] at this
  cases this

end Kubepark

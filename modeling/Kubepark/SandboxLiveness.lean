import Kubepark.Fairness
import Kubepark.PassEnds
import Kubepark.SandboxProgress
import Kubepark.SandboxWatches

/-!
# Sandboxes come up and go down

Infinite runs in which passes over a sandbox are made, the kubelet works on its pod, and other
things go on beside (`LifeStep`). A pass may fail at any call and may be cut short anywhere; what
is assumed is that a pass in which no call fails comes round again and again, and so does the
kubelet (`FairLife`), and that the sandbox stays cleared : it is not deleted, its gates are open,
and the namespaces that a pass writes to are there (`Cleared`). The pod may die, be deleted or go
at any time (`KubeletStep`).

`sandbox_comes_up` : a sandbox that is to run, and whose pod from some point on does not die by
itself (`Healthy`), comes up and stays up, from whatever pod it starts with, a dead one or one that
is being deleted included. `sandbox_goes_down` : a sandbox that is to stop loses its pod, and its
status says so for good. Both go by a rank of the pod that no step raises, failing passes included,
and that the controller and the kubelet lower in turn.
-/

namespace Kubepark

open ApiServer Client SandboxReconciler Filter

/-! ## Life in the cluster -/

/-- The pod of the sandbox under `key`. -/
def sandboxPod (key : ObjectKey) : ObjectKey :=
  ⟨key.namespaceName, podName key.name⟩

/-- The pod is ready under an address, and nobody deletes it. -/
def PodServes (pod : Pod) : Prop :=
  podReady pod = true ∧ pod.status.podIP ≠ "" ∧ pod.deleting = false

instance (pod : Pod) : Decidable (PodServes pod) :=
  inferInstanceAs (Decidable (_ ∧ _))

/-- What becomes of the pod of the sandbox under `key` outside passes : it goes, or its status or
its deletion mark is another. It may die, lose its readiness or its address, be deleted by someone
or go with its node; only a deletion is not taken back, and nobody but the controller creates
it. -/
inductive KubeletStep (key : ObjectKey) (c c' : Cluster) : Prop
  | removes (hgone : c'.find? .pod (sandboxPod key) = none) (hsame : SameOutside [.pod] c c')
  | reports (pod pod' : Pod) (hpod : c.find? .pod (sandboxPod key) = some pod)
    (hpod' : c'.find? .pod (sandboxPod key) = some pod')
    (hdeleting : pod.deleting = true → pod'.deleting = true) (hsame : SameOutside [.pod] c c')

/-- A pod that is alive and that nobody deletes stays so, and one that serves goes on serving
under its address. -/
structure Healthy (key : ObjectKey) (c c' : Cluster) : Prop where
  alive : ∀ pod, c.find? .pod (sandboxPod key) = some pod → pod.deleting = false →
    podDead pod = false → ∃ pod', c'.find? .pod (sandboxPod key) = some pod' ∧
      pod'.deleting = false ∧ podDead pod' = false
  serves : ∀ pod, c.find? .pod (sandboxPod key) = some pod → PodServes pod →
    ∃ pod', c'.find? .pod (sandboxPod key) = some pod' ∧ PodServes pod' ∧
      pod'.status.podIP = pod.status.podIP

theorem Healthy.refl (key : ObjectKey) (c : Cluster) : Healthy key c c where
  alive pod hpod hlive hdead := ⟨pod, hpod, hlive, hdead⟩
  serves pod hpod hserves := ⟨pod, hpod, hserves, rfl⟩

/-- The kubelet has got to the pod : one that is being deleted is gone, and one that is alive
serves. -/
structure Attended (key : ObjectKey) (c c' : Cluster) : Prop where
  gone : ∀ pod, c.find? .pod (sandboxPod key) = some pod → pod.deleting = true →
    c'.find? .pod (sandboxPod key) = none
  up : ∀ pod, c.find? .pod (sandboxPod key) = some pod → pod.deleting = false →
    podDead pod = false → ∃ pod', c'.find? .pod (sandboxPod key) = some pod' ∧ PodServes pod'

/-- Whatever leaves the pod, the phase and the address of the sandbox under `key` as they are :
heartbeats, sessions, other sandboxes, the clock. -/
structure Aside (key : ObjectKey) (c c' : Cluster) : Prop where
  pod : c'.find? .pod (sandboxPod key) = c.find? .pod (sandboxPod key)
  sandbox : ∀ sb, c.find? .sandbox key = some sb → StandsAs key sb c'

/-- A step in the life of the sandbox under `key`. A pass may fail and be cut short anywhere. -/
inductive LifeStep (r : SandboxReconciler) (key : ObjectKey) (c c' : Cluster) : Prop
  | pass {t : List (Call × Cluster)} (h : PartialPass r key c t c')
  | kubelet (h : KubeletStep key c c')
  | aside (h : Aside key c c')

/-- Who keeps a sandbox going : the controller and the kubelet. -/
inductive Caretaker
  | controller
  | kubelet

/-- What is due of a caretaker again and again : a pass in which no call fails, a look at the
pod. -/
def Caretaker.acts (r : SandboxReconciler) (key : ObjectKey) : Caretaker → Cluster → Cluster → Prop
  | .controller, c, c' => c' = (runPass r key c).2
  | .kubelet, c, c' => Attended key c c'

/-- A life in which no caretaker rests for good. -/
structure FairLife (r : SandboxReconciler) (key : ObjectKey) (run : Nat → Cluster) : Prop where
  step : ∀ n, LifeStep r key (run n) (run (n + 1))
  fair : ∀ caretaker : Caretaker, Recurs (caretaker.acts r key) run

/-- The sandbox under `key` is `sb`, it is not being deleted, every gate lets it through, and a
pass over it has what it needs. -/
structure Cleared (r : SandboxReconciler) (key : ObjectKey) (c : Cluster) (sb : Sandbox)
    (tpl : SandboxTemplate) : Prop where
  stored : c.find? .sandbox key = some sb
  live : sb.deleting = false
  gates : GatesOpen c sb tpl
  able : Able r c sb

/-- The sandbox under `key` is to run. -/
def ToRun (r : SandboxReconciler) (key : ObjectKey) (c : Cluster) : Prop :=
  ∃ sb tpl, Cleared r key c sb tpl ∧ ¬Suspends c sb tpl sb.status.lastActivityTime

/-- The sandbox under `key` is to stop. -/
def ToStop (r : SandboxReconciler) (key : ObjectKey) (c : Cluster) : Prop :=
  ∃ sb tpl, Cleared r key c sb tpl ∧ sb.spec.desiredState = .stopped

/-- The sandbox under `key` is up : its pod serves, and the address is published. -/
def IsUp (key : ObjectKey) (c : Cluster) : Prop :=
  ∃ sb pod, c.find? .sandbox key = some sb ∧ c.find? .pod (sandboxPod key) = some pod ∧
    PodServes pod ∧ place sb.status = (.running, pod.status.podIP)

/-- The sandbox under `key` is down : it has no pod, and this is what its status says. -/
def IsDown (key : ObjectKey) (c : Cluster) : Prop :=
  ∃ sb, c.find? .sandbox key = some sb ∧ c.find? .pod (sandboxPod key) = none ∧
    place sb.status = (.suspended, "")

section Pod

variable {r : SandboxReconciler} {key : ObjectKey} {c c' : Cluster} {sb : Sandbox}
  {tpl : SandboxTemplate} {t : List (Call × Cluster)}

theorem Cleared.podKey_eq (h : Cleared r key c sb tpl) : podKey sb = sandboxPod key := by
  obtain rfl := key_of_find? h.stored
  rfl

/-- A pass over a sandbox that is cleared, in which no call fails. -/
theorem Cleared.outcome (h : Cleared r key c sb tpl) :
    ∃ sb', (runPass r key c).2.find? .sandbox key = some sb' ∧
      PodOutcome sb tpl sb.status c sb'.status (runPass r key c).2 := by
  obtain ⟨_, -, sb', houtcome⟩ := run_of_succeeds (succeeds_pass h.stored h.live h.able)
  obtain rfl := key_of_find? h.stored
  refine ⟨sb', houtcome.stored, ?_⟩
  rcases houtcome.result with ⟨hblocked, -⟩ | ⟨tpl', hopen, hresult⟩
  · exact absurd h.gates (hblocked tpl)
  · obtain rfl := Option.some.inj (h.gates.template.symm.trans hopen.template)
    exact hresult

/-- What a call of a pass over `sb` can make of its pod. -/
inductive PodChange (sb : Sandbox) (tpl : SandboxTemplate) (c : Cluster) (old new : Option Pod) :
    Prop
  | same (h : new = old)
  | created (pod : Pod) (hrun : ¬Suspends c sb tpl sb.status.lastActivityTime) (hold : old = none)
    (hnew : new = some pod) (hlive : pod.deleting = false) (hdead : podDead pod = false)
  | deleted (pod pod' : Pod) (hold : old = some pod) (hlive : pod.deleting = false)
    (hnew : new = some pod') (hdeleting : pod'.deleting = true)
    (hcause : Suspends c sb tpl sb.status.lastActivityTime ∨ podDead pod = true)

/-- A pod that is deleted is there until the kubelet is done with it. -/
theorem pod_deleted {key : ObjectKey} {site : String} {pod : Pod}
    {a : Resp Spec Status (.delete .pod key site)} (hs : Step (.delete .pod key site) c a c')
    (hpod : c.find? .pod key = some pod) :
    c'.find? .pod key = some pod ∨
      ∃ pod', c'.find? .pod key = some pod' ∧ pod'.deleting = true := by
  cases hfind : c'.find? .pod key with
  | none =>
    cases hs.gone hpod hfind with
    | deleted _ _ hgraceful => cases hgraceful
    | finalized _ hop => cases hop
  | some pod' =>
    cases hs.written hfind with
    | kept hold => exact Or.inl (hold ▸ hpod ▸ rfl)
    | terminated old _ _ _ _ _ h => exact Or.inr ⟨pod', rfl, h ▸ rfl⟩
    | created _ hop | updated _ _ hop | statusUpdated _ _ hop | patched _ _ hop
    | statusPatched _ _ hop => cases hop

theorem LiveCall.podChange {op : Call} {c₁ c₂ : Cluster} {a : Resp Spec Status op}
    (h : LiveCall r c sb op c₁) (hgates : GatesOpen c sb tpl) (hs : Step op c₁ a c₂) :
    PodChange sb tpl c (c₁.find? .pod (podKey sb)) (c₂.find? .pod (podKey sb)) := by
  have hother : ∀ ks : List Kind, op.Within ks → Kind.pod ∉ ks →
      c₂.find? .pod (podKey sb) = c₁.find? .pod (podKey sb) :=
    fun ks hop hks => hs.find? fun ht => hks (hop _ ht)
  cases h with
  | read h => exact .same (hother [] (within_read h) List.not_mem_nil)
  | finalizer => exact .same (hother [.sandbox] (within_write rfl (by simp)) (by decide))
  | gate h _ =>
    exact .same (hother _ h.within fun hk => absurd (Gate.kinds_subset _ _ hk) (by decide))
  | status => exact .same (hother [.sandbox] (within_write rfl (by simp)) (by decide))
  | pod tpl' hopen h hc₁ _ _ =>
    obtain rfl := Option.some.inj (hgates.template.symm.trans hopen.template)
    have hsuspends := suspends_congr hc₁ sb tpl sb.status.lastActivityTime
    cases h with
    | create serviceAccount hrun habsent =>
      cases hfind : c₂.find? .pod (podKey sb) with
      | none => exact .same habsent.symm
      | some pod =>
        cases hs.written hfind with
        | kept hold => exact nomatch habsent.symm.trans hold
        | created o hop _ _ h =>
          cases hop
          exact .created pod (mt hsuspends.mpr hrun) habsent rfl (h ▸ rfl) (h ▸ rfl)
        | updated _ _ hop | statusUpdated _ _ hop | patched _ _ hop | statusPatched _ _ hop
        | terminated _ _ hop => cases hop
    | suspend pod hsuspend hpod hlive =>
      rcases pod_deleted hs hpod with hkept | ⟨pod', hpod', hdeleting⟩
      · exact .same (hkept.trans hpod.symm)
      · exact .deleted pod pod' hpod hlive hpod' hdeleting (Or.inl (hsuspends.mp hsuspend))
    | recreate pod _ hpod hlive hdead =>
      rcases pod_deleted hs hpod with hkept | ⟨pod', hpod', hdeleting⟩
      · exact .same (hkept.trans hpod.symm)
      · exact .deleted pod pod' hpod hlive hpod' hdeleting (Or.inr hdead)

/-- What every change of the pod lowers or keeps, a pass lowers or keeps, wherever it is cut
short. -/
theorem Cleared.rank_le (h : Cleared r key c sb tpl) (hpass : PartialPass r key c t c')
    (rank : Option Pod → Nat)
    (hrank : ∀ old new, PodChange sb tpl c old new → rank new ≤ rank old) :
    rank (c'.find? .pod (sandboxPod key)) ≤ rank (c.find? .pod (sandboxPod key)) := by
  refine hpass.preserves (I := fun c₁ => rank (c₁.find? .pod (sandboxPod key)) ≤
    rank (c.find? .pod (sandboxPod key))) hpass.calls ?_ le_rfl
  intro op c₁ a c₂ hcall hs hc₁
  cases hcall with
  | absent hread =>
    rwa [hs.find? fun ht => nomatch hread.symm.trans ht]
  | live sb' hsb' _ hlive =>
    obtain rfl := Option.some.inj (h.stored.symm.trans hsb')
    rw [← h.podKey_eq] at hc₁ ⊢
    exact (hrank _ _ (hlive.podChange h.gates hs)).trans hc₁
  | teardown sb' hsb' hdeleting _ =>
    obtain rfl := Option.some.inj (h.stored.symm.trans hsb')
    exact nomatch h.live.symm.trans hdeleting

/-- A pod that no call may change is as it was, wherever the pass is cut short. -/
theorem Cleared.pod_kept (h : Cleared r key c sb tpl) (hpass : PartialPass r key c t c')
    (hkept : ∀ new, PodChange sb tpl c (c.find? .pod (sandboxPod key)) new →
      new = c.find? .pod (sandboxPod key)) :
    c'.find? .pod (sandboxPod key) = c.find? .pod (sandboxPod key) := by
  classical
  let rank : Option Pod → Nat := fun o => if o = c.find? .pod (sandboxPod key) then 0 else 1
  have hle := h.rank_le hpass rank fun old new hchange => by
    by_cases hold : old = c.find? .pod (sandboxPod key)
    · subst hold
      exact le_of_eq (congrArg rank (hkept new hchange))
    · simp only [rank, if_neg hold]
      split_ifs <;> simp
  simpa [rank] using hle

/-- Where the machine keeps the sandbox at all its ends, a pass keeps it. -/
theorem Cleared.standsAs (h : Cleared r key c sb tpl) (hpass : PartialPass r key c t c')
    (hdrive : ∀ serviceAccount st₁ c₁, progress st₁ = progress sb.status →
      SameOutside preparedKinds c c₁ → (r.driveState sb tpl serviceAccount st₁).wp Step
        (fun _ _ => True) (fun out _ => place out.2 = place st₁) c₁) : StandsAs key sb c' := by
  refine hpass.standsAs h.stored h.live fun c₁ sb₁ hprep => ?_
  refine wp_all_reconcileSandbox ((hprep.gatesOpen_iff tpl).mpr h.gates)
    (fun _ _ _ hst => place_eq_of_progress hst) fun serviceAccount st₁ c₂ hst₁ hc₂ => ?_
  refine Prog.wp_mono (hdrive serviceAccount st₁ c₂ hst₁ (hprep.sameOutside hc₂)) (fun _ _ => id) ?_
  exact fun out _ hout => hout.trans (place_eq_of_progress hst₁)

end Pod

/-! ## Coming up -/

/-- How far the pod is from serving. -/
def upRank : Option Pod → Nat
  | none => 3
  | some pod =>
    if pod.deleting then 4 else if podDead pod then 5 else if PodServes pod then 1 else 2

/-- Who brings the pod further. -/
def upHelper : Nat → Caretaker
  | 1 | 3 | 5 => .controller
  | _ => .kubelet

section Up

variable {r : SandboxReconciler} {key : ObjectKey} {c c' : Cluster} {sb : Sandbox}
  {tpl : SandboxTemplate}

theorem upRank_le_five (pod : Option Pod) : upRank pod ≤ 5 := by
  cases pod with
  | none => decide
  | some pod =>
    simp only [upRank]
    split_ifs <;> simp

theorem upRank_deleting {pod : Pod} (h : pod.deleting = true) : upRank (some pod) = 4 := by
  simp [upRank, h]

theorem upRank_alive_le {pod : Pod} (hlive : pod.deleting = false) (hdead : podDead pod = false) :
    upRank (some pod) ≤ 2 := by
  simp only [upRank, hlive, hdead, Bool.false_eq_true, ↓reduceIte]
  split_ifs <;> simp

theorem PodServes.alive {pod : Pod} (h : PodServes pod) : podDead pod = false :=
  not_podDead_of_podReady h.1

theorem upRank_serves {pod : Pod} (h : PodServes pod) : upRank (some pod) = 1 := by
  simp [upRank, h.2.2, h.alive, h]

theorem PodChange.upRank_le {old new : Option Pod} (h : PodChange sb tpl c old new)
    (hrun : ¬Suspends c sb tpl sb.status.lastActivityTime) : upRank new ≤ upRank old := by
  cases h with
  | same h => rw [h]
  | created pod _ hold hnew hlive hdead =>
    rw [hold, hnew]
    exact (upRank_alive_le hlive hdead).trans (by decide)
  | deleted pod pod' hold hlive hnew hdeleting hcause =>
    rw [hold, hnew, upRank_deleting hdeleting]
    simp [upRank, hlive, hcause.resolve_left hrun]

/-- A healthy pod is not taken further from serving. -/
theorem KubeletStep.upRank_le (h : KubeletStep key c c') (hhealthy : Healthy key c c') :
    upRank (c'.find? .pod (sandboxPod key)) ≤ upRank (c.find? .pod (sandboxPod key)) := by
  cases hpod : c.find? .pod (sandboxPod key) with
  | none =>
    cases h with
    | removes hgone => rw [hgone]
    | reports pod _ hpod' => cases hpod.symm.trans hpod'
  | some pod =>
    by_cases hdeleting : pod.deleting = true
    · rw [upRank_deleting hdeleting]
      cases h with
      | removes hgone =>
        rw [hgone]
        decide
      | reports pod₁ pod' hpod₁ hpod' hkept =>
        obtain rfl := Option.some.inj (hpod.symm.trans hpod₁)
        rw [hpod', upRank_deleting (hkept hdeleting)]
    rw [Bool.not_eq_true] at hdeleting
    by_cases hdead : podDead pod = true
    · have hrank : upRank (some pod) = 5 := by simp [upRank, hdeleting, hdead]
      rw [hrank]
      exact upRank_le_five _
    rw [Bool.not_eq_true] at hdead
    by_cases hserves : PodServes pod
    · obtain ⟨pod', hpod', hserves', -⟩ := hhealthy.serves pod hpod hserves
      rw [hpod', upRank_serves hserves, upRank_serves hserves']
    · have hrank : upRank (some pod) = 2 := by simp [upRank, hdeleting, hdead, hserves]
      obtain ⟨pod', hpod', hlive', hdead'⟩ := hhealthy.alive pod hpod hdeleting hdead
      rw [hpod', hrank]
      exact upRank_alive_le hlive' hdead'

/-- No step takes the healthy pod of a sandbox that is to run further from serving. -/
theorem LifeStep.upRank_le (h : LifeStep r key c c') (hhealthy : Healthy key c c')
    (hrun : ToRun r key c) :
    upRank (c'.find? .pod (sandboxPod key)) ≤ upRank (c.find? .pod (sandboxPod key)) := by
  cases h with
  | pass h =>
    obtain ⟨sb, tpl, hcleared, hrun⟩ := hrun
    exact hcleared.rank_le h upRank fun _ _ hchange => hchange.upRank_le hrun
  | kubelet h => exact h.upRank_le hhealthy
  | aside h => rw [h.pod]

/-- A pass creates the pod that is not there. -/
theorem Cleared.pod_created (h : Cleared r key c sb tpl)
    (hrun : ¬Suspends c sb tpl sb.status.lastActivityTime)
    (habsent : c.find? .pod (sandboxPod key) = none) :
    ∃ pod', (runPass r key c).2.find? .pod (sandboxPod key) = some pod' := by
  obtain ⟨sb', -, houtcome⟩ := h.outcome
  rw [← h.podKey_eq] at habsent ⊢
  cases houtcome with
  | created pod' _ _ hpod' => exact ⟨pod', hpod'⟩
  | suspended hs | suspending _ _ hs => exact absurd hs hrun
  | dead _ _ _ hpod | ready _ _ hpod | pending _ _ hpod => exact nomatch habsent.symm.trans hpod

/-- A pass deletes a pod that has died. -/
theorem Cleared.dead_deleted (h : Cleared r key c sb tpl) {pod : Pod}
    (hrun : ¬Suspends c sb tpl sb.status.lastActivityTime)
    (hpod : c.find? .pod (sandboxPod key) = some pod) (hdead : podDead pod = true) :
    ∃ pod', (runPass r key c).2.find? .pod (sandboxPod key) = some pod' ∧ pod'.deleting = true := by
  obtain ⟨sb', -, houtcome⟩ := h.outcome
  rw [← h.podKey_eq] at hpod ⊢
  cases houtcome with
  | dead _ pod' _ _ _ hpod' hdeleting => exact ⟨pod', hpod', hdeleting⟩
  | suspended hs | suspending _ _ hs => exact absurd hs hrun
  | created _ _ habsent => exact nomatch hpod.symm.trans habsent
  | ready pod₁ _ hpod₁ hready =>
    obtain rfl := Option.some.inj (hpod.symm.trans hpod₁)
    exact nomatch hdead.symm.trans (not_podDead_of_podReady hready)
  | pending pod₁ _ hpod₁ hdead₁ =>
    obtain rfl := Option.some.inj (hpod.symm.trans hpod₁)
    exact nomatch hdead.symm.trans hdead₁

/-- A pass publishes the address of a pod that serves. -/
theorem Cleared.published (h : Cleared r key c sb tpl) {pod : Pod}
    (hrun : ¬Suspends c sb tpl sb.status.lastActivityTime)
    (hpod : c.find? .pod (sandboxPod key) = some pod) (hserves : PodServes pod) :
    IsUp key (runPass r key c).2 := by
  obtain ⟨sb', hsb', houtcome⟩ := h.outcome
  have hkey := h.podKey_eq
  rw [← hkey] at hpod
  cases houtcome with
  | ready pod₁ _ hpod₁ _ hpod' hphase hip =>
    obtain rfl := Option.some.inj (hpod.symm.trans hpod₁)
    exact ⟨sb', pod, hsb', hkey ▸ hpod', hserves, by rw [place, hphase, hip]⟩
  | suspended hs | suspending _ _ hs => exact absurd hs hrun
  | created _ _ habsent => cases hpod.symm.trans habsent
  | dead pod₁ _ _ hpod₁ hdead =>
    obtain rfl := Option.some.inj (hpod.symm.trans hpod₁)
    cases hserves.alive.symm.trans hdead
  | pending pod₁ _ hpod₁ _ hready =>
    obtain rfl := Option.some.inj (hpod.symm.trans hpod₁)
    cases hserves.1.symm.trans hready

/-- Whoever helps brings the pod of a sandbox that is to run further, or brings it up. -/
theorem ToRun.helped (hrun : ToRun r key c) (hstep : LifeStep r key c c')
    (hhealthy : Healthy key c c')
    (hact : (upHelper (upRank (c.find? .pod (sandboxPod key)))).acts r key c c') :
    IsUp key c' ∨
      upRank (c'.find? .pod (sandboxPod key)) < upRank (c.find? .pod (sandboxPod key)) := by
  have hle := hstep.upRank_le hhealthy hrun
  obtain ⟨sb, tpl, hcleared, hrun⟩ := hrun
  cases hpod : c.find? .pod (sandboxPod key) with
  | none =>
    rw [hpod] at hact hle
    obtain rfl : c' = (runPass r key c).2 := hact
    obtain ⟨pod', hpod'⟩ := hcleared.pod_created hrun hpod
    rw [hpod'] at hle ⊢
    refine Or.inr (lt_of_le_of_ne hle ?_)
    simp only [upRank]
    split_ifs <;> simp
  | some pod =>
    rw [hpod] at hact
    by_cases hdeleting : pod.deleting = true
    · rw [upRank_deleting hdeleting] at hact ⊢
      rw [Attended.gone hact pod hpod hdeleting]
      exact Or.inr (by decide)
    rw [Bool.not_eq_true] at hdeleting
    by_cases hdead : podDead pod = true
    · have hrank : upRank (some pod) = 5 := by simp [upRank, hdeleting, hdead]
      rw [hrank] at hact ⊢
      obtain rfl : c' = (runPass r key c).2 := hact
      obtain ⟨pod', hpod', hdeleting'⟩ := hcleared.dead_deleted hrun hpod hdead
      rw [hpod', upRank_deleting hdeleting']
      exact Or.inr (by decide)
    rw [Bool.not_eq_true] at hdead
    by_cases hserves : PodServes pod
    · rw [upRank_serves hserves] at hact
      obtain rfl : c' = (runPass r key c).2 := hact
      exact Or.inl (hcleared.published hrun hpod hserves)
    · have hrank : upRank (some pod) = 2 := by simp [upRank, hdeleting, hdead, hserves]
      rw [hrank] at hact ⊢
      obtain ⟨pod', hpod', hserves'⟩ := Attended.up hact pod hpod hdeleting hdead
      rw [hpod', upRank_serves hserves']
      exact Or.inr (by decide)

/-- A sandbox that is up and is to run stays up with its pod, whatever fails. -/
theorem IsUp.kept (hup : IsUp key c) (hrun : ToRun r key c) (hstep : LifeStep r key c c')
    (hhealthy : Healthy key c c') : IsUp key c' := by
  obtain ⟨sb, pod, hsb, hpod, hserves, hplace⟩ := hup
  cases hstep with
  | pass hpass =>
    obtain ⟨sb₁, tpl, hcleared, hrun⟩ := hrun
    obtain rfl := Option.some.inj (hsb.symm.trans hcleared.stored)
    have hkept : c'.find? .pod (sandboxPod key) = c.find? .pod (sandboxPod key) := by
      refine hcleared.pod_kept hpass fun new hchange => ?_
      rw [hpod] at hchange ⊢
      cases hchange with
      | same h => exact h
      | created _ _ hold => cases hold
      | deleted pod₁ _ hold _ _ _ hcause =>
        obtain rfl := Option.some.inj hold
        exact nomatch (hcause.resolve_left hrun).symm.trans hserves.alive
    have hstands : StandsAs key sb c' := by
      refine hcleared.standsAs hpass fun serviceAccount st₁ c₁ hst₁ hc₁ => ?_
      have hactivity : st₁.lastActivityTime = sb.status.lastActivityTime :=
        congrArg (fun p => p.2.2) hst₁
      refine wp_all_driveState_ready ?_ ?_ hserves.1 ((place_eq_of_progress hst₁).trans hplace) _
      · rwa [hactivity, suspends_congr hc₁]
      · rw [hc₁.find? (by decide), hcleared.podKey_eq]
        exact hpod
    obtain ⟨sb', hsb', hplace'⟩ := hstands
    exact ⟨sb', pod, hsb', hkept.trans hpod, hserves, hplace'.trans hplace⟩
  | kubelet h =>
    obtain ⟨pod', hpod', hserves', hip⟩ := hhealthy.serves pod hpod hserves
    have hsame : SameOutside [.pod] c c' := by
      cases h with
      | removes _ hsame | reports _ _ _ _ _ hsame => exact hsame
    exact ⟨sb, pod', (hsame.find? (by decide) _).trans hsb, hpod', hserves', hip ▸ hplace⟩
  | aside h =>
    obtain ⟨sb', hsb', hplace'⟩ := h.sandbox sb hsb
    exact ⟨sb', pod, hsb', h.pod.trans hpod, hserves, hplace'.trans hplace⟩

end Up

/-- A life that comes to rest in a state which no caretaker changes is fair. -/
theorem fairLife_of_rest {r : SandboxReconciler} {key : ObjectKey} {run : Nat → Cluster}
    {c : Cluster} (k : Nat) (hstep : ∀ n < k, LifeStep r key (run n) (run (n + 1)))
    (hrest : ∀ n ≥ k, run n = c) (hpass : (runPass r key c).2 = c) (hattended : Attended key c c) :
    FairLife r key run where
  step n := by
    by_cases hn : n < k
    · exact hstep n hn
    · rw [hrest n (not_lt.mp hn), hrest (n + 1) (Nat.le_succ_of_le (not_lt.mp hn))]
      exact .aside ⟨rfl, fun sb hsb => ⟨sb, hsb, rfl⟩⟩
  fair caretaker := by
    refine frequently_atTop.mpr fun n => ⟨max n k, le_max_left n k, ?_⟩
    rw [hrest _ (le_max_right n k), hrest _ (Nat.le_succ_of_le (le_max_right n k))]
    cases caretaker with
    | controller => exact hpass.symm
    | kubelet => exact hattended

namespace Team

/-- The sandbox, which names no profile, passes every gate, is not idle, and a pass over it has
what it needs. -/
def clears (desired : DesiredState) (c : Cluster) : Bool :=
  match c.find? .sandbox key with
  | none => false
  | some sb =>
    match c.find? .sandboxTemplate ⟨"", sb.spec.template⟩ with
    | none => false
    | some tpl =>
      !sb.deleting && homeOpen c sb && sb.spec.accessProfile = "" &&
        sb.spec.desiredState = desired &&
        !idleExpired sb.status.lastActivityTime (effectiveIdleTimeout sb tpl) c.clock &&
        HasNamespace c sb.metadata.namespaceName && HasNamespace c reconciler.operatorNamespace &&
        ((c.find? .secret ⟨reconciler.operatorNamespace, caSecretName⟩).all fun ca =>
          (parseSigner (Secret.entry ca keyHostCAPrivate)).toBool)

theorem cleared_of_clears {desired : DesiredState} {c : Cluster} (h : clears desired c = true) :
    ∃ sb tpl, Cleared reconciler key c sb tpl ∧ sb.spec.desiredState = desired ∧
      ¬Idle c sb tpl sb.status.lastActivityTime := by
  unfold clears at h
  split at h
  · cases h
  rename_i sb hsb
  split at h
  · cases h
  rename_i tpl htpl
  simp only [Bool.and_eq_true, Bool.not_eq_true', decide_eq_true_eq] at h
  obtain ⟨⟨⟨⟨⟨⟨⟨hlive, hhome⟩, hprofile⟩, hdesired⟩, hidle⟩, hown⟩, hoperator⟩, hca⟩ := h
  refine ⟨sb, tpl, ⟨hsb, hlive, ⟨htpl, hhome, ?_⟩, ⟨hown, hoperator, ?_, ?_⟩⟩, hdesired, ?_⟩
  · simp [profilePermits, hprofile]
  · intro ca hstored
    rw [hstored, Option.all_some] at hca
    cases hkey : parseSigner (Secret.entry ca keyHostCAPrivate) with
    | ok key => exact ⟨key, rfl⟩
    | error e => simp [hkey, Except.toBool] at hca
  · exact fun profile hgrants => absurd hprofile hgrants.named
  · intro h
    cases hidle.symm.trans h.2

theorem toStop_of_clears {c : Cluster} (h : clears .stopped c = true) :
    ToStop reconciler key c := by
  obtain ⟨sb, tpl, hcleared, hdesired, -⟩ := cleared_of_clears h
  exact ⟨sb, tpl, hcleared, hdesired⟩

/-- The kubelet removes the pod. -/
theorem kubeletStep_gone {c : Cluster} (h : (c.find? .pod (sandboxPod key)).isSome = true) :
    KubeletStep key c (podVanishes c) := by
  obtain ⟨pod, hpod⟩ := Option.isSome_iff_exists.mp h
  exact .removes (find?_remove_self c .pod _) (touched_remove hpod).outside

/-- The kubelet has nothing to do. -/
theorem attended_of_serves {c : Cluster}
    (h : ((c.find? .pod (sandboxPod key)).all fun pod => decide (PodServes pod)) = true) :
    Attended key c c := by
  have hserves : ∀ pod, c.find? .pod (sandboxPod key) = some pod → PodServes pod := by
    intro pod hpod
    rw [hpod, Option.all_some] at h
    exact of_decide_eq_true h
  refine ⟨fun pod hpod hdeleting => ?_, fun pod hpod _ _ => ⟨pod, hpod, hserves pod hpod⟩⟩
  exact nomatch (hserves pod hpod).2.2.symm.trans hdeleting

theorem lifeStep_pass (c : Cluster) : LifeStep reconciler key c (pass c) :=
  .pass (partialPass_runPass reconciler key c)

theorem deletionsHeld_pass {c : Cluster} (h : c.DeletionsHeld) : (pass c).DeletionsHeld := by
  have hpass := partialPass_runPass reconciler key c
  exact hpass.preserves hpass.calls (fun _ _ _ _ _ hs hc => hs.deletionsHeld hc) h

/-- After two passes without an error the next one changes nothing. -/
theorem pass_rests {c : Cluster} (hheld : c.DeletionsHeld)
    (hsb : ((c.find? .sandbox key).any fun sb => !sb.deleting) = true)
    (h₁ : ((runPass reconciler key c).1.toOption).isSome = true)
    (h₂ : ((runPass reconciler key (pass c)).1.toOption).isSome = true) :
    pass (pass (pass c)) = pass (pass c) := by
  obtain ⟨sb, hsb, hlive⟩ := (Option.any_eq_true _ _).mp hsb
  obtain ⟨_, hfirst⟩ := pass_of_eval h₁
  obtain ⟨_, hsecond⟩ := pass_of_eval h₂
  generalize pass c = c₁ at hfirst hsecond ⊢
  generalize pass c₁ = c₂ at hsecond ⊢
  obtain ⟨sb₂, hkey, hsettled⟩ := Pass.settles_again (t := c₁.clock) hfirst hsecond hheld hsb
    (by simpa using hlive) le_rfl
  have hstill := hsettled.still
  rw [hkey] at hstill
  exact hstill.visits (partialPass_runPass reconciler key c₂)

end Team

/-- How far the pod is from being gone. -/
def downRank : Option Pod → Nat
  | none => 1
  | some pod => if pod.deleting then 2 else 3

/-- Who brings the pod further. -/
def downHelper : Nat → Caretaker
  | 2 => .kubelet
  | _ => .controller

section Down

variable {r : SandboxReconciler} {key : ObjectKey} {c c' : Cluster} {sb : Sandbox}
  {tpl : SandboxTemplate}

theorem one_le_downRank (pod : Option Pod) : 1 ≤ downRank pod := by
  cases pod with
  | none => exact le_rfl
  | some pod =>
    simp only [downRank]
    split_ifs <;> decide

theorem PodChange.downRank_le {old new : Option Pod} (h : PodChange sb tpl c old new)
    (hstop : sb.spec.desiredState = .stopped) : downRank new ≤ downRank old := by
  cases h with
  | same h => rw [h]
  | created _ hrun => exact absurd (Or.inl hstop) hrun
  | deleted pod pod' hold hlive hnew hdeleting =>
    rw [hold, hnew]
    simp [downRank, hlive, hdeleting]

/-- Whatever becomes of the pod does not bring it back. -/
theorem KubeletStep.downRank_le (h : KubeletStep key c c') :
    downRank (c'.find? .pod (sandboxPod key)) ≤ downRank (c.find? .pod (sandboxPod key)) := by
  cases h with
  | removes hgone =>
    rw [hgone]
    exact one_le_downRank _
  | reports pod pod' hpod hpod' hdeleting =>
    rw [hpod, hpod']
    simp only [downRank]
    split_ifs with hpod' hpod hpod
    · exact le_rfl
    · decide
    · exact absurd (hdeleting hpod) hpod'
    · exact le_rfl

/-- No step brings the pod of a sandbox that is to stop back. -/
theorem LifeStep.downRank_le (h : LifeStep r key c c') (hstop : ToStop r key c) :
    downRank (c'.find? .pod (sandboxPod key)) ≤ downRank (c.find? .pod (sandboxPod key)) := by
  cases h with
  | pass h =>
    obtain ⟨sb, tpl, hcleared, hstop⟩ := hstop
    exact hcleared.rank_le h downRank fun _ _ hchange => hchange.downRank_le hstop
  | kubelet h => exact h.downRank_le
  | aside h => rw [h.pod]

/-- A pass over a sandbox that is to stop deletes its pod. -/
theorem Cleared.pod_stopped (h : Cleared r key c sb tpl) {pod : Pod}
    (hstop : sb.spec.desiredState = .stopped)
    (hpod : c.find? .pod (sandboxPod key) = some pod) :
    ∃ pod', (runPass r key c).2.find? .pod (sandboxPod key) = some pod' ∧ pod'.deleting = true := by
  obtain ⟨sb', -, houtcome⟩ := h.outcome
  rw [← h.podKey_eq] at hpod ⊢
  cases houtcome with
  | suspending _ pod' _ _ hpod' hdeleting => exact ⟨pod', hpod', hdeleting⟩
  | suspended _ habsent => exact nomatch hpod.symm.trans habsent
  | created _ hrun | dead _ _ hrun | ready _ hrun | pending _ hrun =>
    exact absurd (Or.inl hstop) hrun

/-- A pass over a sandbox that is to stop and has no pod says so. -/
theorem Cleared.suspended (h : Cleared r key c sb tpl) (hstop : sb.spec.desiredState = .stopped)
    (habsent : c.find? .pod (sandboxPod key) = none) : IsDown key (runPass r key c).2 := by
  obtain ⟨sb', hsb', houtcome⟩ := h.outcome
  have hkey := h.podKey_eq
  rw [← hkey] at habsent
  cases houtcome with
  | suspended _ _ habsent' hphase hip =>
    exact ⟨sb', hsb', hkey ▸ habsent', by rw [place, hphase, hip]⟩
  | suspending _ _ _ hpod => cases habsent.symm.trans hpod
  | created _ hrun | dead _ _ hrun | ready _ hrun | pending _ hrun =>
    exact absurd (Or.inl hstop) hrun

/-- Whoever helps brings the pod of a sandbox that is to stop further, or brings it down. -/
theorem ToStop.helped (hstop : ToStop r key c)
    (hact : (downHelper (downRank (c.find? .pod (sandboxPod key)))).acts r key c c') :
    IsDown key c' ∨
      downRank (c'.find? .pod (sandboxPod key)) < downRank (c.find? .pod (sandboxPod key)) := by
  obtain ⟨sb, tpl, hcleared, hstop⟩ := hstop
  cases hpod : c.find? .pod (sandboxPod key) with
  | none =>
    rw [hpod] at hact
    obtain rfl : c' = (runPass r key c).2 := hact
    exact Or.inl (hcleared.suspended hstop hpod)
  | some pod =>
    rw [hpod] at hact
    by_cases hdeleting : pod.deleting = true
    · have hrank : downRank (some pod) = 2 := by simp [downRank, hdeleting]
      rw [hrank] at hact ⊢
      rw [Attended.gone hact pod hpod hdeleting]
      exact Or.inr (by decide)
    · have hrank : downRank (some pod) = 3 := by simp [downRank, hdeleting]
      rw [hrank] at hact ⊢
      obtain rfl : c' = (runPass r key c).2 := hact
      obtain ⟨pod', hpod', hdeleting'⟩ := hcleared.pod_stopped hstop hpod
      rw [hpod']
      exact Or.inr (by simp [downRank, hdeleting'])

/-- A sandbox that is down and is to stop stays down, whatever fails. -/
theorem IsDown.kept (hdown : IsDown key c) (hstop : ToStop r key c) (hstep : LifeStep r key c c') :
    IsDown key c' := by
  obtain ⟨sb, hsb, habsent, hplace⟩ := hdown
  cases hstep with
  | pass hpass =>
    obtain ⟨sb₁, tpl, hcleared, hstop⟩ := hstop
    obtain rfl := Option.some.inj (hsb.symm.trans hcleared.stored)
    have hkept : c'.find? .pod (sandboxPod key) = c.find? .pod (sandboxPod key) := by
      refine hcleared.pod_kept hpass fun new hchange => ?_
      rw [habsent] at hchange ⊢
      cases hchange with
      | same h => exact h
      | created _ hrun => exact absurd (Or.inl hstop) hrun
      | deleted _ _ hold => cases hold
    have hstands : StandsAs key sb c' := by
      refine hcleared.standsAs hpass fun serviceAccount st₁ c₁ hst₁ hc₁ => ?_
      refine wp_all_driveState_stopped hstop ?_ ((place_eq_of_progress hst₁).trans hplace) _
      rw [hc₁.find? (by decide), hcleared.podKey_eq]
      exact habsent
    obtain ⟨sb', hsb', hplace'⟩ := hstands
    exact ⟨sb', hsb', hkept.trans habsent, hplace'.trans hplace⟩
  | kubelet h =>
    cases h with
    | removes hgone hsame => exact ⟨sb, (hsame.find? (by decide) _).trans hsb, hgone, hplace⟩
    | reports _ _ hpod => exact nomatch habsent.symm.trans hpod
  | aside h =>
    obtain ⟨sb', hsb', hplace'⟩ := h.sandbox sb hsb
    exact ⟨sb', hsb', h.pod.trans habsent, hplace'.trans hplace⟩

end Down

/-- In a life in which the sandbox is to stop, passes without a failing call and looks of the
kubelet recur, and passes may fail and be cut short otherwise, the sandbox goes down and stays
down : its pod is gone, and the status says that it is suspended and has no address. -/
theorem sandbox_goes_down (r : SandboxReconciler) (key : ObjectKey) (run : Nat → Cluster)
    (hlife : FairLife r key run) (hstop : ∀ n, ToStop r key (run n)) :
    ∀ᶠ n in atTop, IsDown key (run n) := by
  let rank : Cluster → Nat := fun c => downRank (c.find? .pod (sandboxPod key))
  have hle : ∀ᶠ n in atTop, ¬IsDown key (run n) → rank (run (n + 1)) ≤ rank (run n) :=
    .of_forall fun n _ => (hlife.step n).downRank_le (hstop n)
  have hreached : ∃ᶠ n in atTop, IsDown key (run n) :=
    goal_reached hlife.fair hle (.of_forall fun n _ hact => (hstop n).helped hact)
  exact goal_held hreached (.of_forall fun n hdown => hdown.kept (hstop n) (hlife.step n))

/-- Alice stops the sandbox : the pod is deleted, goes, and the sandbox is suspended. -/
def Team.evening : Nat → Cluster
  | 0 => setDesired .stopped published
  | 1 => pass (setDesired .stopped published)
  | 2 => podVanishes (pass (setDesired .stopped published))
  | 3 => pass (podVanishes (pass (setDesired .stopped published)))
  | _ => pass (pass (podVanishes (pass (setDesired .stopped published))))

/-- A sandbox that is stopped and cared for goes down. -/
theorem stopped_sandbox_goes_down : Team.evening 0 = Team.setDesired .stopped Team.published ∧
    FairLife Team.reconciler Team.key Team.evening ∧
      ∀ᶠ n in atTop, IsDown Team.key (Team.evening n) := by
  have hheld : (Team.podVanishes (Team.pass (Team.setDesired .stopped
      Team.published))).DeletionsHeld := by
    refine deletionsHeld_remove (Team.deletionsHeld_pass ?_) _ _
    refine Step.deletionsHeld (step_handle _ _) (Team.deletionsHeld_pass ?_)
    exact Step.deletionsHeld (step_handle _ _) (Team.deletionsHeld_pass Team.deletionsHeld_newborn)
  have hrest := Team.pass_rests hheld (by decide +kernel) (by decide +kernel) (by decide +kernel)
  have hlife : FairLife Team.reconciler Team.key Team.evening := by
    refine fairLife_of_rest 4 ?_ ?_ hrest (Team.attended_of_serves (by decide +kernel))
    · intro n hn
      match n, hn with
      | 0, _ => exact Team.lifeStep_pass _
      | 1, _ => exact .kubelet (Team.kubeletStep_gone (by decide +kernel))
      | 2, _ => exact Team.lifeStep_pass _
      | 3, _ => exact Team.lifeStep_pass _
    · intro n hn
      obtain ⟨n, rfl⟩ := Nat.exists_eq_add_of_le' hn
      rfl
  refine ⟨rfl, hlife, sandbox_goes_down Team.reconciler Team.key Team.evening hlife fun n => ?_⟩
  match n with
  | 0 => exact Team.toStop_of_clears (by decide +kernel)
  | 1 => exact Team.toStop_of_clears (by decide +kernel)
  | 2 => exact Team.toStop_of_clears (by decide +kernel)
  | 3 => exact Team.toStop_of_clears (by decide +kernel)
  | n + 4 =>
    show ToStop _ _ (Team.evening 4)
    exact Team.toStop_of_clears (by decide +kernel)

end Kubepark

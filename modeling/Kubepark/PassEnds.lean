import Kubepark.IdleClockRace

/-!
# Where a pass leaves its sandbox, with or without an error

The status a pass works out is persisted also when the pass ends with an error, so a sandbox that
is up, or down, is only safe if every end of a pass leaves its phase and its address (`place`) as
they are. Behind open gates an error of a gate does (`wp_all_reconcileSandbox`), and so do all the
ends of the desired-state machine while the pod is ready (`wp_all_driveState_ready`), or while the
sandbox is stopped and has no pod (`wp_all_driveState_stopped`). `PartialPass.standsAs` takes this
to passes that are cut short.
-/

namespace Kubepark

open ApiServer Client SandboxReconciler Routine

/-! ## All ends of a pass -/

/-- Where a sandbox stands : its phase and its published address. -/
def place (st : SandboxStatus) : SandboxPhase × String :=
  (st.phase, st.podIP)

theorem place_eq_of_progress {st st' : SandboxStatus} (h : progress st' = progress st) :
    place st' = place st :=
  congrArg (fun p => (p.1, p.2.1)) h

section Ends

variable {r : SandboxReconciler} {sb : Sandbox} {tpl : SandboxTemplate} {st : SandboxStatus}
  {c : Cluster}

/-- The home gate writes the phase at its very end only. -/
theorem keepsOnError_reconcileHome : (reconcileHome sb).KeepsOnError progress := by
  have hready : ∀ claim, (homeReady sb claim).KeepsOnError progress := fun _ _ _ he => nomatch he
  have hblocked : ∀ reason message result,
      (homeBlocked sb reason message result).KeepsOnError progress := fun _ _ _ _ _ he => nomatch he
  have hread : ∀ {k : Kind} {key : ObjectKey}, (getOptional k key : SandboxM _).Frame
      (fun _ => True) progress := frame_getOptional trivial
  unfold reconcileHome
  cases existingClaim sb with
  | some claim =>
    refine (frame_claimConflict sb claim).bind_keepsOnError fun conflict => ?_
    refine keepsOnError_ite (hblocked _ _ _) ?_
    refine hread.bind_keepsOnError fun pvc => ?_
    cases pvc with
    | none => exact hblocked _ _ _
    | some pvc => exact hready _
  | none =>
    refine (frame_get (P := fun _ => True) trivial).bind_keepsOnError fun tpl => ?_
    refine hread.bind_keepsOnError fun pvc => ?_
    cases pvc with
    | none =>
      exact (frame_createIfAbsent (P := fun _ => True) trivial).bind_keepsOnError fun _ => hready _
    | some pvc => exact hready _

/-- A gate, with all its ends : one that fails leaves the progress as it was. -/
theorem wp_all_gate {α : Type} {x : SandboxM α} {g : Gate} {Q : α → SandboxStatus → Cluster → Prop}
    (hcalls : x.Always Step (GateCall r sb g) st c) (hkeeps : x.KeepsOnError progress)
    (hends : x.Ends Step Q st c) :
    (x st).wp Step (fun _ _ => True) (fun out c' =>
      (∀ e, out.1 = .error e → progress out.2 = progress st) ∧
        Routine.okPost (fun a st' c' => Q a st' c' ∧ SameOutside g.kinds c c') out c') c := by
  have hsame := wp_sameOutside (fun _ _ h => h.within) (hcalls.ends hends)
  exact Prog.wp_mono (hkeeps.wp_all hsame) (fun _ _ _ => trivial) fun _ _ h => h

/-- A gate that never touches the progress, with all its ends. -/
theorem wp_all_frame {α : Type} {x : SandboxM α} {g : Gate}
    {Q : α → SandboxStatus → Cluster → Prop} (hcalls : x.Always Step (GateCall r sb g) st c)
    (hframe : x.Frame (GateOp g.kinds) progress) (hends : x.Ends Step Q st c) :
    (x st).wp Step (fun _ _ => True) (fun out c' => progress out.2 = progress st ∧
      Routine.okPost (fun a st' c' => Q a st' c' ∧ SameOutside g.kinds c c') out c') c := by
  have hsame := wp_sameOutside (fun _ _ h => h.within) (hcalls.ends hends)
  exact Prog.wp_mono (hframe.wp_all hsame) (fun _ _ _ => trivial) fun _ _ h => h

/-- Behind open gates a pass ends as the desired-state machine does, or with an error of a gate
that leaves the progress as it was. -/
theorem wp_all_reconcileSandbox {Q : Except ApiError Result × SandboxStatus → Cluster → Prop}
    (hopen : GatesOpen c sb tpl)
    (herror : ∀ e st' c', progress st' = progress st → Q (.error e, st') c')
    (hdrive : ∀ serviceAccount st₁ c₁, progress st₁ = progress st → SameOutside gateKinds c c₁ →
      (r.driveState sb tpl serviceAccount st₁).wp Step (fun _ _ => True) Q c₁) :
    (r.reconcileSandbox sb st).wp Step (fun _ _ => True) Q c := by
  have hread : (getOptional Kind.sandboxTemplate ⟨"", sb.spec.template⟩ :
      SandboxM (Option SandboxTemplate)).Frame (fun _ => True) progress := frame_getOptional trivial
  refine wp_all_bind (hread.wp_all ((wp_getOptional (P := fun _ _ => True)
    (Q := fun o st' c' => o = some tpl ∧ st' = st ∧ c' = c)).mpr ⟨trivial, hopen.template, rfl, rfl⟩)) ?_
    fun e st' c' h => herror e st' c' h.1
  rintro _ st c ⟨-, rfl, rfl, rfl⟩
  refine wp_all_bind (wp_all_gate (reconcileHome_calls r sb) keepsOnError_reconcileHome
    (ends_reconcileHome sb)) ?_ fun e st' c' h => herror e st' c' (h.1 e rfl)
  rintro requeue st₁ c₁ ⟨-, ⟨hclosed, -⟩ | ⟨-, rfl, hst₁⟩, hhome⟩
  · simp [hopen.home] at hclosed
  have hc₁ := hhome.mono (Gate.kinds_subset _)
  refine wp_all_bind (wp_all_frame (reconcileHostKey_calls r sb)
    (frame_reconcileHostKey r sb) (ends_reconcileHostKey r sb)) ?_
    fun e st' c' h => herror e st' c' (h.1.trans hst₁)
  rintro _ st₂ c₂ ⟨hst₂, -, hkey⟩
  have hc₂ := hc₁.trans (hkey.mono (Gate.kinds_subset _))
  refine wp_all_bind (wp_all_frame (reconcileNetworkPolicy_calls r sb tpl)
    (frame_reconcileNetworkPolicy r sb tpl) (ends_reconcileNetworkPolicy_rendered r sb tpl)) ?_
    fun e st' c' h => herror e st' c' (h.1.trans (hst₂.trans hst₁))
  rintro _ st₃ c₃ ⟨hst₃, -, hpolicy⟩
  have hc₃ := hc₂.trans (hpolicy.mono (Gate.kinds_subset _))
  have hrbac : (reconcileRBAC sb).Always Step (GateCall r sb .rbac) st₃ c₃ :=
    wp_mono (reconcileRBAC_calls sb) (fun _ _ h => .rbac _ h) fun _ _ _ h => h
  refine wp_all_bind (wp_all_frame hrbac (frame_reconcileRBAC sb ignoresRBAC_progress)
    (ends_reconcileRBAC sb)) ?_
    fun e st' c' h => herror e st' c' (h.1.trans (hst₃.trans (hst₂.trans hst₁)))
  rintro rbac st₄ c₄ ⟨hst₄, hready, hgrants⟩
  rw [profilePermits_congr sb hc₃, hopen.profile] at hready
  have hc₄ := hc₃.trans (hgrants.mono (Gate.kinds_subset _))
  show ((if rbac.ready = true then _ else _ : SandboxM Result) st₄).wp _ _ _ _
  rw [if_pos hready]
  exact hdrive _ st₄ c₄ (hst₄.trans (hst₃.trans (hst₂.trans hst₁))) hc₄

theorem not_podDead_of_podReady {pod : Pod} (h : podReady pod = true) : podDead pod = false := by
  simp only [podReady, decide_eq_true_eq] at h
  simp [podDead, h.1]

/-- While the pod serves, `run` records where the sandbox stands, or fails before it records
anything. -/
theorem wp_all_run_ready {pod : Pod} (hpod : c.find? .pod (podKey sb) = some pod)
    (hready : podReady pod = true) (hplace : place st = (.running, pod.status.podIP))
    (currentHash serviceAccount : String) :
    (r.run sb tpl currentHash serviceAccount st).wp Step (fun _ _ => True)
      (fun out _ => place out.2 = place st) c := by
  have hread : (getOptional Kind.pod (podKey sb) : SandboxM (Option Pod)).Frame (fun _ => True)
      place := frame_getOptional trivial
  refine wp_all_bind (hread.wp_all ((wp_getOptional (P := fun _ _ => True)
    (Q := fun o st' c' => o = some pod ∧ st' = st ∧ c' = c)).mpr ⟨trivial, hpod, rfl, rfl⟩)) ?_
    fun _ _ _ h => h.1
  rintro _ st c ⟨-, rfl, rfl, rfl⟩
  have hdrift : ∀ st' c', place st' = place st →
      ((reportDrift sb currentHash >>= fun _ => pure {} : SandboxM Result) st').wp Step
        (fun _ _ => True) (fun out _ => place out.2 = place st) c' := by
    intro st' c' hst'
    refine Prog.wp_bind.mpr ?_
    show ((if _ then _ else _ : SandboxM Unit) st').wp _ _ _ _
    split_ifs <;> exact hst'
  show ((if podDead pod = true then _ else _ : SandboxM Result) _).wp _ _ _ _
  rw [if_neg (by simp [not_podDead_of_podReady hready])]
  show ((if podReady pod = true then _ else _ : SandboxM Result) _).wp _ _ _ _
  rw [if_pos hready]
  exact ⟨trivial, fun t c' _ => hdrift _ c' hplace.symm⟩

/-- The machine keeps a sandbox where it stands while its pod serves. -/
theorem wp_all_driveState_ready {pod : Pod} (hrun : ¬Suspends c sb tpl st.lastActivityTime)
    (hpod : c.find? .pod (podKey sb) = some pod) (hready : podReady pod = true)
    (hplace : place st = (.running, pod.status.podIP)) (serviceAccount : String) :
    (r.driveState sb tpl serviceAccount st).wp Step (fun _ _ => True)
      (fun out _ => place out.2 = place st) c := by
  show ((if sb.spec.desiredState = .stopped then _ else _ : SandboxM Result) st).wp _ _ _ _
  rw [if_neg fun hstop => hrun (Or.inl hstop)]
  have hcount : (activeSessionCount sb).Frame (fun _ => True) place :=
    (frame_list trivial).bind fun _ => frame_pure _
  have hends : (activeSessionCount sb).Ends Step
      (fun n st' c' => n = activeSessions c sb ∧ st' = st ∧ c' = c) st c :=
    wp_bind.mpr (wp_list.mpr ⟨trivial, rfl, rfl, rfl⟩)
  refine wp_all_bind (hcount.wp_all hends) ?_ fun _ _ _ h => h.1
  rintro _ st c ⟨-, rfl, rfl, rfl⟩
  refine ⟨trivial, fun t c' hnow => ?_⟩
  obtain ⟨rfl, rfl⟩ : t = c.clock ∧ c' = c := by
    rcases hnow with h | ⟨e, -, hf, -⟩
    · exact h
    · exact hf.elim
  show ((if activeSessions c' sb = 0 ∧ _ then _ else _ : SandboxM Result) _).wp _ _ _ _
  split_ifs with hidle
  · exact absurd (Or.inr hidle) hrun
  let st₁ : SandboxStatus := { st with activeSessions := activeSessions c' sb }
  have hplace₁ : place st₁ = (.running, pod.status.podIP) := hplace
  refine wp_all_bind (wp_all_run_ready hpod hready hplace₁ _ serviceAccount) ?_
    fun _ _ _ h => h
  exact fun result st' c₁ hst' => ⟨trivial, fun _ _ _ => hst'⟩

/-- The machine keeps a sandbox that is stopped and has no pod where it stands. -/
theorem wp_all_driveState_stopped (hstop : sb.spec.desiredState = .stopped)
    (habsent : c.find? .pod (podKey sb) = none) (hplace : place st = (.suspended, ""))
    (serviceAccount : String) :
    (r.driveState sb tpl serviceAccount st).wp Step (fun _ _ => True)
      (fun out _ => place out.2 = place st) c := by
  show ((if sb.spec.desiredState = .stopped then _ else _ : SandboxM Result) st).wp _ _ _ _
  rw [if_pos hstop]
  have hphase : st.phase = .suspended := congrArg Prod.fst hplace
  let st₁ : SandboxStatus := { st with podIP := "" }
  have hst₁ : place st₁ = place st := by rw [hplace, place, hphase]
  have hread : (getOptional Kind.pod (podKey sb) : SandboxM (Option Pod)).Frame (fun _ => True)
      place := frame_getOptional trivial
  have hget : ((getOptional Kind.pod (podKey sb) : SandboxM (Option Pod)) st₁).wp Step
      (fun _ _ => True) (fun out c' => place out.2 = place st₁ ∧
        Routine.okPost (fun o st' c' => o = none ∧ st' = st₁ ∧ c' = c) out c') c :=
    hread.wp_all (wp_getOptional.mpr ⟨trivial, habsent, rfl, rfl⟩)
  refine wp_all_bind (R := fun out c' => out = (.ok (), st₁) ∧ c' = c) ⟨rfl, rfl⟩ ?_
    fun _ _ _ h => nomatch h.1
  rintro _ _ _ ⟨⟨⟩, rfl⟩
  refine wp_all_bind hget ?_ fun _ _ _ h => h.1.trans hst₁
  rintro _ st c ⟨-, rfl, rfl, rfl⟩
  exact hplace.symm

end Ends

/-! ## Passes that are cut short -/

section Keeps

variable {r : SandboxReconciler} {sb : Sandbox} {key : ObjectKey} {c c' : Cluster} {op : Call}
  {t : List (Call × Cluster)}

/-- What a pass writes of its sandbox : finalizers, and the status. -/
theorem LiveCall.sandbox_write (h : LiveCall r c sb op c') (ht : op.target = some (.sandbox, key)) :
    (∃ o : Sandbox, op = .update .sandbox o ∧ o.metadata.finalizers ≠ []) ∨
      ∃ o : Sandbox, op = .updateStatus .sandbox o := by
  have hother : ∀ {ks : List Kind}, op.Within ks → Kind.sandbox ∉ ks → False :=
    fun hop hks => hks (hop _ ht)
  cases h with
  | read h => exact nomatch h.symm.trans ht
  | finalizer => exact Or.inl ⟨_, rfl, by simp⟩
  | gate h _ => exact (hother h.within fun hk => absurd (Gate.kinds_subset _ _ hk) (by decide)).elim
  | pod _ _ h _ _ _ => cases h <;> cases ht
  | status => exact Or.inr ⟨_, rfl⟩

/-- Every status that the call records leaves the sandbox where `sb` stands. -/
def RecordsPlace (sb : Sandbox) (op : Call) : Prop :=
  ∀ o : Sandbox, op = .updateStatus .sandbox o → place o.status = place sb.status

/-- A sandbox stands under `key` where `sb` does. -/
def StandsAs (key : ObjectKey) (sb : Sandbox) (c : Cluster) : Prop :=
  ∃ sb', c.find? .sandbox key = some sb' ∧ place sb'.status = place sb.status

theorem LiveCall.standsAs {c₁ c₂ : Cluster} {a : Resp Spec Status op} (h : LiveCall r c sb op c₁)
    (hrecords : RecordsPlace sb op) (hs : Step op c₁ a c₂) (hc₁ : StandsAs key sb c₁) :
    StandsAs key sb c₂ := by
  obtain ⟨sb₁, hsb₁, hplace⟩ := hc₁
  by_cases ht : op.target = some (.sandbox, key)
  · rcases h.sandbox_write ht with ⟨o, rfl, hfinalizers⟩ | ⟨o, rfl⟩
    · cases hfind : c₂.find? .sandbox key with
      | none =>
        cases hs.gone hsb₁ hfind with
        | deleted _ hop => cases hop
        | finalized new hop _ _ _ hnone =>
          cases hop
          exact absurd hnone hfinalizers
      | some sb₂ =>
        refine ⟨sb₂, hfind, ?_⟩
        cases hs.written hfind with
        | kept hold =>
          obtain rfl := Option.some.inj (hsb₁.symm.trans hold)
          exact hplace
        | updated old _ _ _ hold h =>
          obtain rfl := Option.some.inj (hsb₁.symm.trans hold)
          exact h ▸ hplace
        | created _ hop | statusUpdated _ _ hop | patched _ _ hop | statusPatched _ _ hop
        | terminated _ _ hop => cases hop
    · cases hfind : c₂.find? .sandbox key with
      | none =>
        cases hs.gone hsb₁ hfind with
        | deleted _ hop => cases hop
        | finalized _ hop => cases hop
      | some sb₂ =>
        refine ⟨sb₂, hfind, ?_⟩
        cases hs.written hfind with
        | kept hold =>
          obtain rfl := Option.some.inj (hsb₁.symm.trans hold)
          exact hplace
        | statusUpdated old o' hop _ _ h =>
          cases hop
          exact h ▸ hrecords o rfl
        | created _ hop | updated _ _ hop | patched _ _ hop | statusPatched _ _ hop
        | terminated _ _ hop => cases hop
  · exact ⟨sb₁, (hs.find? ht).trans hsb₁, hplace⟩

/-- A pass whose body keeps a sandbox where it stands, at all its ends, keeps it there wherever
the pass is cut short. -/
theorem PartialPass.standsAs (h : PartialPass r key c t c') (hsb : c.find? .sandbox key = some sb)
    (hlive : sb.deleting = false)
    (hbody : ∀ c₁ sb₁, Prepared c sb c₁ sb₁ → (r.reconcileSandbox sb
      { sb.status with observedGeneration := sb.metadata.generation }).wp Step (fun _ _ => True)
        (fun out _ => place out.2 = place sb.status) c₁) : StandsAs key sb c' := by
  have hrecords : (r.reconcile key).wp Step (fun op _ => RecordsPlace sb op)
      (fun _ _ _ => True) () c := by
    obtain rfl := key_of_find? hsb
    refine wp_reconcile_of_live r hsb hlive (fun _ hop => nomatch hop) ?_
    refine wp_reconcileLive_of (R := fun c₁ _ out c₂ => Routine.okPost (fun _ _ c' =>
      SameOutside (.pod :: gateKinds) c₁ c') out c₂ ∧ place out.2 = place sb.status) r
      (fun _ _ _ _ _ => id) hsb hlive (fun _ hop => nomatch hop) ?_ ?_ ?_
      fun _ _ _ _ _ _ _ _ _ _ _ _ => trivial
    · intro c₁ sb₁ hprep
      have hcalls := (within_reconcileSandbox r sb
        { sb.status with observedGeneration := sb.metadata.generation }).preserves (H := Step)
        (I := fun _ => True) (s := c₁) (fun _ _ _ _ _ _ _ => trivial) trivial
      have hsame := wp_mono (wp_reconcileSandbox_prepared r hprep) (fun _ _ => id)
        fun _ _ _ h => h.1
      refine Prog.wp_mono (Prog.wp_and hcalls (Prog.wp_and hsame (hbody c₁ sb₁ hprep))) ?_
        fun _ _ h => h.2
      rintro op c₂ ⟨⟨hno, -⟩, -⟩ o rfl
      exact hno.elim
    · intro c₁ sb₁ out c₂ _ hR o ho
      cases ho
      exact hR.2
    · intro c₁ sb₁ result st' c₂ hprep hR
      exact (hR.1.find? (by decide) _).trans hprep.stored
  refine Prog.Visits.preserves h (P := fun op c₁ => PassCall r key c op c₁ ∧ RecordsPlace sb op)
    (fun e he => ⟨h.calls e he, h.wp hrecords e he⟩) ?_ ⟨sb, hsb, rfl⟩
  rintro op c₁ a c₂ ⟨hcall, hop⟩ hs hc₁
  cases hcall with
  | absent hread =>
    obtain ⟨sb₁, hsb₁, hplace⟩ := hc₁
    exact ⟨sb₁, (hs.find? fun ht => nomatch hread.symm.trans ht).trans hsb₁, hplace⟩
  | live sb' hsb' _ hlive' =>
    obtain rfl := Option.some.inj (hsb.symm.trans hsb')
    exact hlive'.standsAs hop hs hc₁
  | teardown sb' hsb' hdeleting _ =>
    obtain rfl := Option.some.inj (hsb.symm.trans hsb')
    exact nomatch hlive.symm.trans hdeleting

end Keeps

end Kubepark

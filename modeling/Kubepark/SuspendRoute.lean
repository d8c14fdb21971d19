import Kubepark.ClusterRuns
import Kubepark.SessionController

/-!
# The address of a pod that is being suspended

The gateway dials the address in the status of a sandbox. `suspend` clears the address in the
record of the pass, deletes the pod, and leaves it to the end of the pass to persist the record.
Here each call of a pass is a step, and the others act between any two of them.

The property is `AddressCleared` : no sandbox has an address while its pod is being deleted by
the suspend path. It fails in the window between the two writes, and beyond it when the second
is refused (`address_left_behind`). It holds in every run in which the suspend path deletes the
pods of sandboxes without a persisted address only, and a pass that wants the sandbox running
does not find the pod that the suspend path has deleted still ready
(`address_cleared_run`) : no other interleaving breaks it.
-/

namespace Kubepark

open ApiServer Client SandboxReconciler Routine

/-! ## The property -/

/-- The pod is being deleted, and it was the suspend path that deleted it. -/
def suspending (pod : Pod) : Bool :=
  pod.deleting && pod.metadata.deletedBy = "suspend"

/-- The pod of the sandbox under `key`. -/
def podKeyOf (key : ObjectKey) : ObjectKey :=
  ⟨key.namespaceName, podName key.name⟩

theorem podKeyOf_inj {key key' : ObjectKey} (h : podKeyOf key = podKeyOf key') : key = key' := by
  obtain ⟨hns, hname⟩ := ObjectKey.mk.inj h
  cases key
  cases key'
  simp only at hns hname
  rw [hns, podName_inj.mp hname]

/-- The pod of the sandbox under `key` is being deleted by the suspend path. -/
def BeingSuspended (c : Cluster) (key : ObjectKey) : Prop :=
  ∃ pod, c.find? .pod (podKeyOf key) = some pod ∧ suspending pod = true

/-- No sandbox has an address while its pod is being deleted by the suspend path. -/
def AddressCleared (c : Cluster) : Prop :=
  ∀ key sb, c.find? .sandbox key = some sb → BeingSuspended c key → sb.status.podIP = ""

/-- What a call must heed for the addresses to stay cleared. -/
structure Careful (op : Call) (c : Cluster) : Prop where
  suspend : ∀ key, op = .delete .pod (podKeyOf key) "suspend" → ∀ sb,
    c.find? .sandbox key = some sb → sb.status.podIP = ""
  status : ∀ o : Sandbox, op = .updateStatus .sandbox o → BeingSuspended c o.key →
    o.status.podIP = ""
  statusPatch : ∀ key change st, op = .patchStatus .sandbox key change → st.podIP = "" →
    (change st).podIP = ""

section Step

variable {op : Call} {c c' : Cluster} {a : Resp Spec Status op} {key : ObjectKey}

/-- Only the suspend path makes a pod one that is being suspended. -/
theorem BeingSuspended.before (hs : Step op c a c')
    (hop : op ≠ .delete .pod (podKeyOf key) "suspend") (h : BeingSuspended c' key) :
    BeingSuspended c key := by
  obtain ⟨pod', hpod', hsuspending⟩ := h
  cases hs.written hpod' with
  | kept hold => exact ⟨pod', hold, hsuspending⟩
  | created o _ _ _ h =>
    simp [h, suspending, Object.deleting, versioned, ApiServer.created] at hsuspending
  | updated old _ _ _ hold h | statusUpdated old _ _ _ hold h | patched old _ _ hold h
  | statusPatched old _ _ hold h =>
    subst h
    exact ⟨old, hold, hsuspending⟩
  | terminated old site hop' _ _ _ h =>
    subst h
    obtain rfl : site = "suspend" := of_decide_eq_true ((Bool.and_eq_true _ _).mp hsuspending).2
    exact absurd hop' hop

/-- A careful call keeps the addresses cleared. -/
theorem AddressCleared.step (h : AddressCleared c) (hop : Careful op c) (hs : Step op c a c') :
    AddressCleared c' := by
  intro key sb' hsb' hsuspended'
  by_cases hsuspend : op = .delete .pod (podKeyOf key) "suspend"
  · refine hop.suspend key hsuspend sb' ?_
    rwa [hs.find? (by simp [hsuspend, Op.target])] at hsb'
  have hsuspended := hsuspended'.before hs hsuspend
  cases hs.written hsb' with
  | kept hold => exact h key sb' hold hsuspended
  | created o _ _ _ h' =>
    subst h'
    rfl
  | updated old _ _ _ hold h' | patched old _ _ hold h' | terminated old _ _ hold _ _ h' =>
    subst h'
    exact h key old hold hsuspended
  | statusUpdated old o hop' hkey _ h' =>
    subst h'
    exact hop.status o hop' (hkey ▸ hsuspended)
  | statusPatched old change hop' hold h' =>
    subst h'
    exact hop.statusPatch key change old.status hop' (h key old hold hsuspended)

end Step

theorem Careful.of_within {op : Call} {c : Cluster} {ks : List Kind} (h : op.Within ks)
    (hpod : Kind.pod ∉ ks) (hsandbox : Kind.sandbox ∉ ks) : Careful op c where
  suspend key hop := by
    subst hop
    exact absurd (h _ rfl) hpod
  status o hop := by
    subst hop
    exact absurd (h _ rfl) hsandbox
  statusPatch key change st hop := by
    subst hop
    exact absurd (h _ rfl) hsandbox

theorem delete_ne {k k' : Kind} {key key' : ObjectKey} {site site' : String} (h : site ≠ site') :
    (Op.delete k key site : Call) ≠ .delete k' key' site' := by
  rintro heq
  injection heq with _ _ hsite
  exact h hsite

/-- A deletion that is not the suspend path's. -/
theorem careful_delete {k : Kind} {key : ObjectKey} {site : String} {c : Cluster}
    (h : site ≠ "suspend") : Careful (.delete k key site) c where
  suspend _ hop := absurd hop (delete_ne h)
  status _ := nofun
  statusPatch _ _ _ := nofun

/-! ## The others -/

/-- The calls of the others : users, the gateway, the session controller, the kubelet. They have
no part in the suspend path, and leave the addresses of sandboxes alone. -/
structure Elsewhere (op : Call) : Prop where
  suspend : ∀ key, op ≠ .delete .pod key "suspend"
  status : ∀ o, op ≠ .updateStatus .sandbox o
  statusPatch : ∀ key change st, op = .patchStatus .sandbox key change →
    (change st).podIP = st.podIP

theorem Elsewhere.careful {op : Call} (h : Elsewhere op) (c : Cluster) : Careful op c where
  suspend _ hop := absurd hop (h.suspend _)
  status o hop := absurd hop (h.status o)
  statusPatch key change st hop hst := (h.statusPatch key change st hop).trans hst

/-- A step of the others. -/
inductive Others : Cluster → Cluster → Prop
  | call {op : Call} {c : Cluster} (h : Elsewhere op) : Others c (handle op c).2
  | tick {c : Cluster} (t : Time) : Others c { c with clock := t }
  /-- The grace period of a pod ends, or its node is gone. -/
  | podGone {c : Cluster} (key : ObjectKey) : Others c (c.remove .pod key)

theorem BeingSuspended.before_others {c c' : Cluster} {key : ObjectKey} (hs : Others c c')
    (h : BeingSuspended c' key) : BeingSuspended c key := by
  cases hs with
  | call hop => exact h.before (step_handle _ _) (hop.suspend _)
  | tick t => exact h
  | podGone key' =>
    obtain ⟨pod, hpod, hsuspending⟩ := h
    exact ⟨pod, find?_of_remove c .pod key' hpod, hsuspending⟩

theorem AddressCleared.others {c c' : Cluster} (hs : Others c c') (h : AddressCleared c) :
    AddressCleared c' := by
  cases hs with
  | call hop => exact h.step (hop.careful c) (step_handle _ _)
  | tick t => exact h
  | podGone key' =>
    intro key sb hsb hsuspended
    rw [find?_remove_ne c .pod key' (by simp)] at hsb
    exact h key sb hsb (hsuspended.before_others (.podGone key'))

/-! ## Passes, call by call -/

/-- The answer to a call of a pass. -/
abbrev Answer := (op : Call) → Cluster → Resp Spec Status op → Bool

/-- The server as a pass sees it : calls are answered as `G` allows, and the others act after each
call. -/
def PassStep (G : Answer) : (op : Call) → Cluster → Resp Spec Status op → Cluster → Prop :=
  Prog.interleaved (fun op c a c' => G op c a = true ∧ Step op c a c') Others

/-- What is asked of a pass over `key` that finds the sandbox wanted in the state `desired`. The
suspend path deletes the pod only when the sandbox has no address, and a pass that wants the
sandbox running does not find the pod ready when the suspend path has deleted it. -/
def clearing (key : ObjectKey) (desired : DesiredState) : Answer
  | .get .sandbox key', _, .ok sb => key' ≠ key || sb.spec.desiredState = desired
  | .get .pod _, _, .ok pod =>
    desired = .stopped || !suspending pod || !podReady pod || pod.status.podIP = ""
  | .delete .pod _ site, c, _ =>
    site ≠ "suspend" || (c.find? .sandbox key).all fun sb => sb.status.podIP = ""
  | _, _, _ => true

/-- The address `ip` may be written to the sandbox under `key`. -/
def Shielded (ip : String) (c : Cluster) (key : ObjectKey) : Prop :=
  ip = "" ∨ ¬BeingSuspended c key

section Keeps

variable {G : Answer} {op : Call} {c c' : Cluster} {a : Resp Spec Status op} {key : ObjectKey}
  {ip : String}

theorem AddressCleared.passStep (hs : PassStep G op c a c') (hop : Careful op c)
    (h : AddressCleared c) : AddressCleared c' := by
  obtain ⟨c₁, ⟨-, hstep⟩, hothers⟩ := hs
  have hc₁ := h.step hop hstep
  clear hstep
  induction hothers with
  | refl => exact hc₁
  | tail _ hs ih => exact ih.others hs

theorem Shielded.passStep (hs : PassStep G op c a c')
    (hop : op ≠ .delete .pod (podKeyOf key) "suspend") (h : Shielded ip c key) :
    Shielded ip c' key := by
  obtain ⟨c₁, ⟨-, hstep⟩, hothers⟩ := hs
  refine h.imp_right fun hnot => ?_
  have hc₁ : ¬BeingSuspended c₁ key := mt (BeingSuspended.before hstep hop) hnot
  clear hstep
  induction hothers with
  | refl => exact hc₁
  | tail _ hs ih => exact mt (BeingSuspended.before_others hs) ih

/-- The address of a sandbox that is stored may be written. -/
theorem AddressCleared.shielded (h : AddressCleared c) {sb : Sandbox}
    (hsb : c.find? .sandbox key = some sb) : Shielded sb.status.podIP c key := by
  by_cases hsuspended : BeingSuspended c key
  · exact Or.inl (h key sb hsb hsuspended)
  · exact Or.inr hsuspended

end Keeps

/-! ## The desired-state machine -/

/-- What ties the record of a pass over `key` to the state : the address in it may be written. -/
def Heeds (key : ObjectKey) (st : SandboxStatus) (c : Cluster) : Prop :=
  AddressCleared c ∧ Shielded st.podIP c key

section Machine

variable {key : ObjectKey} {desired : DesiredState}

theorem Heeds.passStep {G : Answer} {op : Call} {c c' : Cluster} {a : Resp Spec Status op}
    {st : SandboxStatus} (h : Heeds key st c) (hop : Careful op c)
    (hsuspend : op ≠ .delete .pod (podKeyOf key) "suspend") (hs : PassStep G op c a c') :
    Heeds key st c' :=
  ⟨h.1.passStep hs hop, h.2.passStep hs hsuspend⟩

theorem Heeds.congr {c : Cluster} {st st' : SandboxStatus} (h : Heeds key st c)
    (hst : st'.podIP = st.podIP) : Heeds key st' c :=
  ⟨h.1, hst ▸ h.2⟩

/-- Calls that touch neither pods nor sandboxes. -/
theorem Heeds.of_within {G : Answer} {op : Call} {ks : List Kind} (hop : op.Within ks)
    (hpod : Kind.pod ∉ ks) (hsandbox : Kind.sandbox ∉ ks) (st : SandboxStatus) (c : Cluster)
    (h : Heeds key st c) :
    AddressCleared c ∧ ∀ a c', PassStep G op c a c' → Heeds key st c' := by
  refine ⟨h.1, fun a c' => h.passStep (.of_within hop hpod hsandbox) ?_⟩
  rintro rfl
  exact hpod (hop _ rfl)

/-- The suspend path heeds the address when it finds none persisted. -/
theorem Heeds.suspend {c c' : Cluster} {st : SandboxStatus} {a : Except ApiError Unit}
    (h : Heeds key st c) (hst : st.podIP = "")
    (hs : PassStep (clearing key desired) (.delete .pod (podKeyOf key) "suspend") c a c') :
    Heeds key st c' := by
  have hguard : (c.find? .sandbox key).all (fun sb => sb.status.podIP = "") = true := by
    obtain ⟨c₁, ⟨hguard, -⟩, -⟩ := hs
    simpa [clearing] using hguard
  refine ⟨h.1.passStep hs ⟨fun key' hop sb hsb => ?_, fun _ => nofun, fun _ _ _ => nofun⟩,
    Or.inl hst⟩
  have hkey : podKeyOf key = podKeyOf key' := by
    injection hop with _ hpod
  rw [podKeyOf_inj hkey, hsb] at hguard
  exact of_decide_eq_true hguard

/-- A pass that wants the sandbox running heeds the address of a pod it finds ready. -/
theorem shielded_of_ready {c c₁ : Cluster} {pod : Pod} (hdesired : desired ≠ .stopped)
    (hs : PassStep (clearing key desired) (.get .pod (podKeyOf key)) c (.ok pod) c₁)
    (hready : podReady pod = true) : Shielded pod.status.podIP c key := by
  obtain ⟨c₂, ⟨hguard, hstep⟩, -⟩ := hs
  have hpod := hstep.get_ok.1
  have hguard : suspending pod = false ∨ pod.status.podIP = "" := by
    simpa [clearing, hdesired, hready] using hguard
  rcases hguard with hnot | hip
  · refine Or.inr fun ⟨pod', hpod', hsuspending⟩ => ?_
    obtain rfl := Option.some.inj (hpod.symm.trans hpod')
    exact Bool.false_ne_true (hnot.symm.trans hsuspending)
  · exact Or.inl hip

theorem heeds_machine (r : SandboxReconciler) {sb : Sandbox} (hkey : sb.key = key)
    (hdesired : sb.spec.desiredState = desired) :
    MachineInvariant (PassStep (clearing key desired)) (fun _ c => AddressCleared c) (Heeds key)
      (Heeds key) r sb := by
  subst hkey
  have hcall : ∀ op : Call, op.Within gateKinds → ∀ st c, Heeds sb.key st c →
      AddressCleared c ∧ ∀ a c', PassStep (clearing sb.key desired) op c a c' → Heeds sb.key st c' :=
    fun op hop => Heeds.of_within hop (by decide) (by decide)
  have hread : ∀ op : Call, op.target = none → ∀ st c, Heeds sb.key st c →
      AddressCleared c ∧ ∀ a c', PassStep (clearing sb.key desired) op c a c' → Heeds sb.key st c' :=
    fun op hop =>
      have hwithin : op.Within [] := within_read hop
      Heeds.of_within hwithin (by simp) (by simp)
  exact
    { call := hcall
      progress := fun st st' c hst h => h.congr (congrArg (fun p => p.2.1) hst)
      pending := fun st st' c hst h => h.congr (congrArg (fun p => p.2.1) hst)
      final := fun _ _ h => h
      read := hread
      finalProgress := fun st st' c hst h => h.congr (congrArg (fun p => p.2.1) hst)
      create := fun tpl serviceAccount st c h => ⟨h.1, fun a c' =>
        h.passStep ⟨fun _ => nofun, fun _ => nofun, fun _ _ _ => nofun⟩ nofun⟩
      suspend := fun st c h hst => ⟨h.1, fun a c' hs => h.suspend hst hs⟩
      recreate := fun st c h => ⟨h.1, fun a c' => h.passStep
        (careful_delete (by decide)) (delete_ne (by decide))⟩
      cleared := fun st st' c hip _ _ h => ⟨h.1, Or.inl hip⟩
      created := fun st st' c hip _ _ h => h.congr hip
      ready := fun st st' c pod c₁ t c₂ h hrun hget hready hnow hst => by
        have hshielded := shielded_of_ready (hdesired ▸ hrun) hget hready
        have hc₁ := (hread (.get .pod (podKey sb)) rfl st' c ⟨h.1, ?_⟩).2 _ c₁ hget
        · exact (hread .now rfl st' c₁ hc₁).2 t c₂ hnow
        · rwa [show st'.podIP = pod.status.podIP from congrArg (fun p => p.2.1) hst] }

end Machine

/-! ## Teardown -/

/-- The calls of a teardown pass over `key`, which writes the address `ip` back. -/
structure Tidy (key : ObjectKey) (ip : String) (op : Call) : Prop where
  suspend : ∀ key', op ≠ .delete .pod key' "suspend"
  status : ∀ o : Sandbox, op = .updateStatus .sandbox o → o.key = key ∧ o.status.podIP = ip
  statusPatch : ∀ key' change, op ≠ .patchStatus .sandbox key' change

theorem Tidy.careful {key : ObjectKey} {ip : String} {op : Call} {c : Cluster} (h : Tidy key ip op)
    (hip : Shielded ip c key) : Careful op c where
  suspend _ hop := absurd hop (h.suspend _)
  status o hop hsuspended := by
    obtain ⟨hkey, hstatus⟩ := h.status o hop
    rcases hip with hip | hnot
    · exact hstatus.trans hip
    · exact absurd (hkey ▸ hsuspended) hnot
  statusPatch key' change _ hop := absurd hop (h.statusPatch key' change)

section Frames

variable {key : ObjectKey} {ip : String} {σ τ : Type} {f : σ → τ}

theorem Tidy.of_within {op : Call} {ks : List Kind} (h : op.Within ks) (hpod : Kind.pod ∉ ks)
    (hsandbox : Kind.sandbox ∉ ks) : Tidy key ip op where
  suspend key' hop := by
    subst hop
    exact absurd (h _ rfl) hpod
  status o hop := by
    subst hop
    exact absurd (h _ rfl) hsandbox
  statusPatch key' change hop := by
    subst hop
    exact absurd (h _ rfl) hsandbox

theorem frame_closeSessions (sb : Sandbox) :
    (closeSessions sb : ClientM σ Unit).Frame (·.Within [.sandboxSession]) f := by
  refine (frame_list (within_read rfl)).bind fun sessions => ?_
  refine (frame_call (within_read rfl)).bind fun t => ?_
  refine frame_forEach (fun s => frame_ite (frame_pure _) ?_) sessions
  exact (frame_updateStatusIfPresent (within_write rfl (by simp))).bind fun _ => frame_pure _

theorem frame_applyHomeRetainPolicy (sb : Sandbox) :
    (applyHomeRetainPolicy sb : ClientM σ Unit).Frame (·.Within [.persistentVolumeClaim]) f := by
  unfold applyHomeRetainPolicy
  cases existingClaim sb with
  | some claim => exact frame_pure _
  | none =>
    refine (frame_getOptional (within_read rfl)).bind fun pvc => ?_
    cases pvc with
    | none => exact frame_pure _
    | some pvc =>
      refine frame_ite ?_ ?_
      · exact frame_deleteIfPresent (within_write rfl (by simp))
      · exact frame_updateIfPresent (within_write rfl (by simp))

theorem frame_markTerminating (sb : Sandbox) :
    (markTerminating sb : ClientM σ Sandbox).Frame (Tidy sb.key sb.status.podIP) f := by
  refine frame_ite (frame_pure _) ?_
  refine (frame_updateStatusIfPresent ⟨fun _ => nofun, fun o hop => ?_, fun _ _ => nofun⟩).bind
    fun _ => frame_pure _
  cases hop
  exact ⟨rfl, rfl⟩

/-- Whatever it is answered, a teardown pass writes no other address than the one it read. -/
theorem frame_finalize (sb : Sandbox) :
    (finalize sb : ClientM σ Result).Frame (Tidy sb.key sb.status.podIP) f := by
  refine frame_ite (frame_pure _) ?_
  refine (frame_markTerminating sb).bind fun sb' => ?_
  refine (frame_forEach (fun child => ?_) _).bind fun _ => ?_
  · exact frame_deleteIfPresent ⟨fun _ => delete_ne (by decide), fun _ => nofun, fun _ _ => nofun⟩
  refine ((frame_gcRBAC sb' none).imp fun _ h => .of_within h.within (by decide) (by decide)).bind
    fun _ => ?_
  refine ((frame_closeSessions sb').imp fun _ h => .of_within h (by decide) (by decide)).bind
    fun _ => ?_
  refine ((frame_applyHomeRetainPolicy sb').imp fun _ h =>
    .of_within h (by decide) (by decide)).bind fun _ => ?_
  exact (frame_update ⟨fun _ => nofun, fun _ => nofun, fun _ _ => nofun⟩).bind fun _ =>
    frame_pure _

end Frames

/-! ## A whole pass -/

section Pass

variable {key : ObjectKey} {desired : DesiredState} {c : Cluster}

/-- The sandbox `sb` of a pass : as it was read, with an address that may be written. -/
structure Read (key : ObjectKey) (desired : DesiredState) (sb : Sandbox) (c : Cluster) : Prop where
  stored : sb.key = key
  wanted : sb.spec.desiredState = desired
  heeds : Heeds key sb.status c

theorem Read.finalize {sb : Sandbox} (h : Read key desired sb c) :
    (SandboxReconciler.finalize sb () : Prog Call (Resp Spec Status) _).wp
      (PassStep (clearing key desired)) (fun _ c => AddressCleared c)
      (fun _ c' => AddressCleared c') c := by
  obtain ⟨rfl, -, hheeds⟩ := h
  have hkeeps := ((frame_finalize (f := fun _ : Unit => ()) sb) ()).preserves
    (H := PassStep (clearing sb.key desired)) (I := Heeds sb.key sb.status)
    (fun op c a c' hop hs h => h.passStep (hop.careful h.2) (hop.suspend _) hs) hheeds
  exact Prog.wp_mono hkeeps (fun op c h => h.2.1) fun r c' h => h.2.1

theorem Read.ensureFinalizer {sb : Sandbox} (h : Read key desired sb c) :
    (SandboxReconciler.ensureFinalizer sb () : Prog Call (Resp Spec Status) _).wp
      (PassStep (clearing key desired)) (fun _ c => AddressCleared c)
      (fun r c' => AddressCleared c' ∧ ∀ sb', r.1 = .ok sb' → Read key desired sb' c') c := by
  obtain ⟨rfl, hdesired, hheeds⟩ := h
  show ((if _ then _ else _ : ClientM Unit Sandbox) ()).wp _ _ _ _
  split_ifs
  · exact ⟨hheeds.1, fun sb' hsb' => (Except.ok.inj hsb') ▸ ⟨rfl, hdesired, hheeds⟩⟩
  · refine ⟨hheeds.1, fun a c' hs => ?_⟩
    have hcareful : Careful (.update .sandbox { sb with
        metadata.finalizers := sb.metadata.finalizers ++ [sandboxFinalizer] }) c :=
      ⟨fun _ => nofun, fun _ => nofun, fun _ _ _ => nofun⟩
    have hc' := hheeds.1.passStep hs hcareful
    cases a with
    | error e => exact ⟨hc', fun _ h => (nomatch h)⟩
    | ok new =>
      refine ⟨hc', ?_⟩
      rintro _ ⟨⟩
      obtain ⟨c₁, ⟨-, hstep⟩, -⟩ := id hs
      obtain ⟨old, hold, rfl⟩ := hstep.update_ok
      have hold' : Heeds sb.key old.status c := ⟨hheeds.1, hheeds.1.shielded hold⟩
      have hkey : old.key = sb.key := key_of_find? hold
      exact ⟨hkey, hdesired, hold'.passStep hcareful nofun hs⟩

theorem Heeds.patchStatus {sb : Sandbox} {st : SandboxStatus} (hkey : sb.key = key)
    (h : Heeds key st c) :
    (SandboxReconciler.patchStatus sb st () : Prog Call (Resp Spec Status) _).wp
      (PassStep (clearing key desired)) (fun _ c => AddressCleared c)
      (fun _ c' => AddressCleared c') c := by
  subst hkey
  have hmaintains : (SandboxReconciler.patchStatus sb st : ClientM Unit Unit).Maintains
      (PassStep (clearing sb.key desired)) (fun _ c => AddressCleared c)
      (fun _ c => Heeds sb.key st c) := by
    refine leads_ite (fun _ => maintains_pure _) fun _ => ?_
    refine (maintains_updateStatusIfPresent fun _ c h => ⟨h.1, fun a c' hs => ?_⟩).bind
      fun _ => maintains_pure _
    have hcareful : Careful (.updateStatus .sandbox { sb with status := st }) c := by
      refine ⟨fun _ => nofun, fun o hop hsuspended => ?_, fun _ _ _ => nofun⟩
      cases hop
      rcases h.2 with hip | hnot
      · exact hip
      · exact absurd hsuspended hnot
    exact h.passStep hcareful nofun hs
  exact Prog.wp_mono (hmaintains () c h) (fun _ _ => id) fun _ _ h => h.1

theorem Read.reconcileLive (r : SandboxReconciler) {sb : Sandbox} (h : Read key desired sb c) :
    (r.reconcileLive sb ()).wp (PassStep (clearing key desired)) (fun _ c => AddressCleared c)
      (fun _ c' => AddressCleared c') c := by
  refine wp_all_bind h.ensureFinalizer ?_ fun _ _ _ h => h.1
  rintro sb₁ ⟨⟩ c₁ ⟨-, hread⟩
  obtain ⟨hkey, hdesired, hheeds⟩ := hread sb₁ rfl
  have hbody := (heeds_machine r hkey hdesired).leads_reconcileSandbox
    { sb₁.status with observedGeneration := sb₁.metadata.generation } c₁ hheeds
  refine wp_all_runFrom_bind hbody ?_
  rintro ⟨result, st'⟩ c₂ hst'
  refine wp_all_runFrom_bind (Heeds.patchStatus hkey hst') ?_
  rintro ⟨updated, _⟩ c₃ hc₃
  cases result with
  | error e => exact hc₃
  | ok result =>
    cases updated with
    | error e => exact hc₃
    | ok _ => exact hc₃

/-- A pass keeps the addresses cleared, at each of its calls and at its end. -/
theorem AddressCleared.reconcile (r : SandboxReconciler) (key : ObjectKey) (desired : DesiredState)
    (h : AddressCleared c) :
    (r.reconcile key ()).wp (PassStep (clearing key desired)) (fun _ c => AddressCleared c)
      (fun _ c' => AddressCleared c') c := by
  have hwithin : Op.Within [] (.get .sandbox key : Call) := within_read rfl
  have hget : ∀ c, Careful (.get .sandbox key) c :=
    fun c => .of_within hwithin (by simp) (by simp)
  have hleads : (r.reconcile key).Maintains (PassStep (clearing key desired))
      (fun _ c => AddressCleared c) (fun _ c => AddressCleared c) := by
    refine leads_getOptional_bind (fun _ c h => ⟨h, fun a c' hs => h.passStep hs (hget c)⟩)
      (fun _ _ h => h) (maintains_pure _) fun sb _ c c' h hs => ?_
    obtain ⟨c₁, ⟨hguard, hstep⟩, -⟩ := id hs
    have hsb := hstep.get_ok.1
    have hheeds : Heeds key sb.status c := ⟨h, h.shielded hsb⟩
    have hread : Read key desired sb c' :=
      ⟨key_of_find? hsb, by simpa [clearing] using hguard, hheeds.passStep (hget c) nofun hs⟩
    show ((if _ then _ else _ : ClientM Unit Result) ()).wp _ _ _ _
    split_ifs
    · exact hread.finalize
    · exact hread.reconcileLive r
  exact hleads () c h

end Pass

/-! ## Runs -/

/-- One step of a run : the others act, or a pass gets as far as some of its calls, with the others
acting in between. `G` is what is asked of a pass over a key that finds the sandbox wanted in a
state. -/
inductive RouteStep (r : SandboxReconciler) (G : ObjectKey → DesiredState → Answer) :
    Cluster → Cluster → Prop
  | others {c c' : Cluster} (h : Others c c') : RouteStep r G c c'
  | pass {c c' : Cluster} (key : ObjectKey) (desired : DesiredState) {t : List (Call × Cluster)}
    (h : (r.reconcile key ()).Visits (PassStep (G key desired)) c t c') : RouteStep r G c c'

/-- A run from one state to another. -/
def RouteRun (r : SandboxReconciler) (G : ObjectKey → DesiredState → Answer) :
    Cluster → Cluster → Prop :=
  Relation.ReflTransGen (RouteStep r G)

/-- In every run in which the suspend path deletes the pods of sandboxes without an address only,
and no pass finds a pod ready that the suspend path has deleted, no sandbox has an address while
its pod is being deleted by the suspend path. A run starts without pods. -/
theorem address_cleared_run (r : SandboxReconciler) (c₀ c : Cluster)
    (hpods : ∀ key, c₀.find? .pod (podKeyOf key) = none) (hrun : RouteRun r clearing c₀ c) :
    AddressCleared c := by
  induction hrun with
  | refl =>
    rintro key sb - ⟨pod, hpod, -⟩
    exact nomatch (hpods key).symm.trans hpod
  | tail _ hstep ih =>
    cases hstep with
    | others h => exact ih.others h
    | pass key desired h => exact h.holds (ih.reconcile r key desired) (fun _ _ h => h) fun _ _ h => h

/-! ## The window -/

/-- A pass whose calls are answered faithfully, with nobody acting in between. -/
theorem routeStep_runPass {r : SandboxReconciler} {G : ObjectKey → DesiredState → Answer}
    {key : ObjectKey} (desired : DesiredState) {c : Cluster}
    (h : (passTrace r key c).all (fun e => G key desired e.1 e.2 (handle e.1 e.2).1) = true) :
    RouteStep r G c (runPass r key c).2 := by
  refine .pass key desired (Prog.exec_run_of_trace (r.reconcile key ()) c fun e he => ?_).visits
  exact ⟨_, ⟨List.all_eq_true.mp h e he, step_handle _ _⟩, .refl⟩

/-- A server that refuses to write the status of a sandbox. -/
def refuseStatus : (op : Call) → Cluster → Resp Spec Status op × Cluster
  | .updateStatus .sandbox _, c => (.error .conflict, c)
  | op, c => handle op c

theorem step_refuseStatus (op : Call) (c : Cluster) :
    Step op c (refuseStatus op c).1 (refuseStatus op c).2 := by
  unfold refuseStatus
  split
  · exact Or.inr ⟨.conflict, ⟨rfl, rfl⟩, rfl, Or.inl rfl⟩
  · exact step_handle _ _

namespace Team

/-- Alice creates her sandbox, and the controller creates its pod. -/
def provisioned : Cluster :=
  pass (handle (.create .sandbox (sandbox .running {})) vacant).2

/-- Alice stops her sandbox before its pod is ready. -/
def stoppedEarly : Cluster :=
  pass (setDesired .stopped provisioned)

/-- Alice stops her sandbox once it runs. -/
def stopping : Cluster :=
  setDesired .stopped (pass (podBecomesReady provisioned))

/-- The pass that honours the stop, when the status is not written. -/
def unwritten : Cluster :=
  ((reconciler.reconcile key ()).run refuseStatus stopping).2

theorem others_create (sb : Sandbox) (c : Cluster) : Others c (handle (.create .sandbox sb) c).2 :=
  .call ⟨fun _ => nofun, fun _ => nofun, fun _ _ _ => nofun⟩

theorem others_setDesired (desired : DesiredState) (c : Cluster) : Others c (setDesired desired c) :=
  .call ⟨fun _ => nofun, fun _ => nofun, fun _ _ _ => nofun⟩

theorem others_podBecomesReady (c : Cluster) : Others c (podBecomesReady c) :=
  .call ⟨fun _ => nofun, fun _ => nofun, fun _ _ _ => nofun⟩

theorem routeRun_provisioned {G : ObjectKey → DesiredState → Answer}
    (h : (passTrace reconciler key (handle (.create .sandbox (sandbox .running {})) vacant).2).all
      (fun e => G key .running e.1 e.2 (handle e.1 e.2).1) = true) :
    RouteRun reconciler G vacant provisioned :=
  (Relation.ReflTransGen.single (.others (others_create _ _))).tail (routeStep_runPass .running h)

end Team

/-- A sandbox that is stopped before its pod is ready has no address to clear. -/
theorem address_cleared_stopped_early :
    BeingSuspended Team.stoppedEarly Team.key ∧ AddressCleared Team.stoppedEarly := by
  have hsuspending : (Team.stoppedEarly.find? .pod (podKeyOf Team.key)).any suspending = true := by
    decide +kernel
  refine ⟨(Option.any_eq_true _ _).mp hsuspending, ?_⟩
  refine address_cleared_run Team.reconciler Team.vacant _ (fun _ => rfl) ?_
  have hrun : RouteRun Team.reconciler clearing Team.vacant Team.provisioned :=
    Team.routeRun_provisioned (by decide +kernel)
  exact (hrun.tail (.others (Team.others_setDesired _ _))).tail
    (routeStep_runPass .stopped (by decide +kernel))

/-- The pod of a running sandbox is deleted before the address is cleared, and the address stays
when the status is not written. -/
theorem address_left_behind : ∃ c₀ c, (∀ key, c₀.find? .pod (podKeyOf key) = none) ∧
    RouteRun Team.reconciler (fun _ _ _ _ _ => true) c₀ c ∧ ¬AddressCleared c := by
  have hsuspending : (Team.unwritten.find? .pod (podKeyOf Team.key)).any suspending = true := by
    decide +kernel
  have haddress : (Team.unwritten.find? .sandbox Team.key).any
      (fun sb => sb.status.podIP = "10.0.0.7") = true := by decide +kernel
  refine ⟨Team.vacant, Team.unwritten, fun _ => rfl, ?_, fun hcleared => ?_⟩
  · have hall : ∀ c, (passTrace Team.reconciler Team.key c).all (fun _ => true) = true :=
      fun c => List.all_eq_true.mpr fun _ _ => rfl
    have hrun : RouteRun Team.reconciler (fun _ _ _ _ _ => true) Team.vacant Team.stopping :=
      (((Team.routeRun_provisioned (hall _)).tail (.others (Team.others_podBecomesReady _))).tail
        (routeStep_runPass .running (hall _))).tail (.others (Team.others_setDesired _ _))
    refine hrun.tail (.pass Team.key .stopped (Prog.exec_run (fun op c => ?_) _ _).visits)
    exact ⟨_, ⟨rfl, step_refuseStatus op c⟩, .refl⟩
  · obtain ⟨sb, hsb, hip⟩ := (Option.any_eq_true _ _).mp haddress
    have hcleared := hcleared _ sb hsb ((Option.any_eq_true _ _).mp hsuspending)
    rw [show sb.status.podIP = "10.0.0.7" from of_decide_eq_true hip] at hcleared
    exact absurd hcleared (by decide)

end Kubepark

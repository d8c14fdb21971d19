import Kubepark.Durations
import Kubepark.GatewayStore

/-!
# The session controller

`sandboxsession_controller.go` : one pass of `reconcile` over a session. An Active session whose
heartbeats have gone stale is closed, dated at its last heartbeat. A Closed session moves the
idle clock of the sandbox it names to its end, and is deleted once it is old enough.

`SessionCall` lists what the controller and the gateway's store may do to sessions, with what is
known of the state it is done in; `BumpCall` is the controller's one write to a sandbox.
`wp_reconcile_session` says what a pass over a Closed session comes to : the sandbox of that
name, whichever it is by then, has an idle clock that is not before the session's end.
-/

namespace Kubepark

open ApiServer Client Routine

/-- Assumed when a session omits one. -/
def defaultHeartbeatInterval : Duration :=
  60 * second

/-- An Active session whose last heartbeat is older than this many intervals is closed. -/
def staleHeartbeatFactor : Int :=
  3

/-- Closed sessions are deleted after this long. -/
def closedSessionRetention : Duration :=
  168 * 3600 * second

/-- The zero value of `time.Time`, the first of January of the year 1. -/
def zeroTime : Time :=
  -62135596800 * second

namespace SessionReconciler

/-- The most recent activity timestamp of a session. -/
def lastSeen (session : SandboxSession) : Time :=
  match session.status.lastActivityTime, session.status.startTime with
  | some t, _ => t
  | none, some t => t
  | none, none => session.metadata.creationTimestamp

/-- How long a session may go without a heartbeat. -/
def heartbeatDeadline (session : SandboxSession) : Duration :=
  match session.spec.heartbeatInterval with
  | some d => wrapInt64 (staleHeartbeatFactor * if 0 < d then d else defaultHeartbeatInterval)
  | none => wrapInt64 (staleHeartbeatFactor * defaultHeartbeatInterval)

/-- Close a session whose heartbeats have gone stale. -/
def reconcileActive (session : SandboxSession) : ClientM Unit Result := do
  let deadline := heartbeatDeadline session
  let last := lastSeen session
  if last = zeroTime then pure { requeueAfter := deadline }
  else
    let t ← now
    let elapsed := timeSub t last
    if elapsed ≤ deadline then pure { requeueAfter := wrapInt64 (deadline - elapsed) }
    else
      let _ ← updateStatusIfPresent Kind.sandboxSession
        { session with
          status := { session.status with
            state := .closed, endTime := some last, exitReason := .staleHeartbeat } }
      pure {}

/-- The sandbox a session names. -/
def sandboxKey (session : SandboxSession) : ObjectKey :=
  ⟨session.metadata.namespaceName, session.spec.sandboxName⟩

/-- Whether `endTime` is later than the idle clock `lastActivity`, or the clock has not
started. -/
def later (endTime : Time) (lastActivity : Option Time) : Bool :=
  match lastActivity with
  | none => true
  | some t => t < endTime

/-- Advance the idle clock of the sandbox to the end of the session. -/
def bumpSandboxActivity (session : SandboxSession) (endTime : Time) : ClientM Unit Unit := do
  match ← getOptional Kind.sandbox (sandboxKey session) with
  | none => pure ()
  | some sb =>
    if later endTime sb.status.lastActivityTime then
      patchStatusIfPresent Kind.sandbox sb.key fun st => { st with lastActivityTime := some endTime }
    else pure ()

/-- Propagate the end of the session, and delete the session once it ages out. -/
def reconcileClosed (session : SandboxSession) : ClientM Unit Result := do
  match session.status.endTime with
  | none => pure {}
  | some endTime =>
    bumpSandboxActivity session endTime
    let t ← now
    let age := timeSub t endTime
    if closedSessionRetention ≤ age then
      deleteIfPresent Kind.sandboxSession session.key "session"
      pure {}
    else pure { requeueAfter := wrapInt64 (closedSessionRetention - age) }

/-- One pass over the session under `key`. -/
def reconcile (key : ObjectKey) : ClientM Unit Result := do
  match ← getOptional Kind.sandboxSession key with
  | none => pure {}
  | some session =>
    match session.status.state with
    | .active => reconcileActive session
    | .closed => reconcileClosed session
    | .unset => pure {}

end SessionReconciler

open SessionReconciler

theorem isInt64_heartbeatDeadline (session : SandboxSession) :
    IsInt64 (heartbeatDeadline session) := by
  unfold heartbeatDeadline
  split <;> exact isInt64_wrapInt64 _

theorem closedSessionRetention_le_timeSub {t u : Time} :
    closedSessionRetention ≤ timeSub t u ↔ closedSessionRetention ≤ t - u :=
  le_timeSub_iff (by decide) (by decide)

/-! ## Frames -/

section Frames

variable {P : Call → Prop} {τ : Type} {g : Unit → τ} (s : SandboxSession)

/-- A pass over an Active session reads the clock and may close the session. -/
theorem frame_reconcileActive (hnow : P .now)
    (hclose : ∀ last, P (.updateStatus .sandboxSession { s with
      status := { s.status with
        state := .closed, endTime := some last, exitReason := .staleHeartbeat } })) :
    (reconcileActive s).Frame P g := by
  refine frame_ite (frame_pure _) ((frame_call hnow).bind fun t => ?_)
  refine frame_ite (frame_pure _) ?_
  exact (frame_updateStatusIfPresent (hclose _)).bind fun _ => frame_pure _

theorem frame_bumpSandboxActivity (endTime : Time) (hget : P (.get .sandbox (sandboxKey s)))
    (hbump : ∀ key change, P (.patchStatus .sandbox key change)) :
    (bumpSandboxActivity s endTime).Frame P g := by
  refine (frame_getOptional hget).bind fun sb => ?_
  cases sb with
  | none => exact frame_pure _
  | some sb =>
    refine frame_ite ?_ (frame_pure _)
    exact (frame_call (hbump _ _)).bind fun r => frame_ignoring _ _ _ r

/-- A pass over a Closed session moves the clock of its sandbox and may delete the session. -/
theorem frame_reconcileClosed (hget : P (.get .sandbox (sandboxKey s)))
    (hbump : ∀ key change, P (.patchStatus .sandbox key change)) (hnow : P .now)
    (hdelete : P (.delete .sandboxSession s.key "session")) : (reconcileClosed s).Frame P g := by
  unfold reconcileClosed
  cases s.status.endTime with
  | none => exact frame_pure _
  | some endTime =>
    refine (frame_bumpSandboxActivity s endTime hget hbump).bind fun _ => ?_
    refine (frame_call hnow).bind fun t => ?_
    refine frame_ite ?_ (frame_pure _)
    exact (frame_deleteIfPresent hdelete).bind fun _ => frame_pure _

end Frames

/-! ## The calls -/

/-- What is done to sessions, by the controller and by the gateway's store, from `c`. -/
inductive SessionCall (c : Cluster) : Call → Cluster → Prop
  | read {op : Call} {c' : Cluster} (h : op.target = none) : SessionCall c op c'
  | create (s : SandboxSession) : SessionCall c (.create .sandboxSession s) c
  /-- The status of a session is written while it is not Closed. -/
  | status {c' : Cluster} (s : SandboxSession) (status : SandboxSessionStatus)
    (hstored : c'.find? .sandboxSession s.key = some s) (hopen : s.status.state ≠ .closed) :
    SessionCall c (.updateStatus .sandboxSession { s with status := status }) c'
  | delete {c' : Cluster} (key : ObjectKey) : SessionCall c (.delete .sandboxSession key "session") c'

/-- The end of the Closed session `s` moves the idle clock of the sandbox it names. -/
inductive BumpCall (c : Cluster) (s : SandboxSession) : Call → Prop
  | bump (sb : Sandbox) (endTime : Time) (hclosed : s.status.state = .closed)
    (hsb : c.find? .sandbox (sandboxKey s) = some sb)
    (hlater : later endTime sb.status.lastActivityTime = true) :
    BumpCall c s (.patchStatus .sandbox sb.key fun st => { st with lastActivityTime := some endTime })

/-- The calls of a pass over the session `s` from `c`. -/
def ReconcileCall (c : Cluster) (s : SandboxSession) (op : Call) (c' : Cluster) : Prop :=
  SessionCall c op c' ∨ BumpCall c s op ∧ c' = c

section Controller

variable {c : Cluster} {s : SandboxSession}

theorem reconcileActive_calls (hs : c.find? .sandboxSession s.key = some s)
    (hactive : s.status.state = .active) : (reconcileActive s).Always Step (SessionCall c) () c := by
  refine wp_ite (fun _ => trivial) fun _ => ?_
  refine wp_bind.mpr (wp_now.mpr ⟨.read rfl, ?_⟩)
  refine wp_ite (fun _ => trivial) fun _ => ?_
  refine (always_updateStatusIfPresent (.status s _ hs ?_)).bind fun _ _ _ => trivial
  simp [hactive]

/-- The sandbox under `key`, if there is one, has an idle clock that is not before `endTime`. -/
def CaughtUp (c : Cluster) (key : ObjectKey) (endTime : Time) : Prop :=
  ∀ sb, c.find? .sandbox key = some sb → ∃ t, sb.status.lastActivityTime = some t ∧ endTime ≤ t

theorem wp_bumpSandboxActivity {endTime : Time} {Q : Unit → Unit → Cluster → Prop}
    (hclosed : s.status.state = .closed)
    (hQ : ∀ c', CaughtUp c' (sandboxKey s) endTime → Q () () c') :
    (bumpSandboxActivity s endTime).wp Step (ReconcileCall c s) Q () c := by
  refine wp_bind.mpr (wp_getOptional.mpr ⟨Or.inl (.read rfl), ?_⟩)
  cases hsb : c.find? .sandbox (sandboxKey s) with
  | none => exact hQ c fun sb hsb' => nomatch hsb.symm.trans hsb'
  | some sb =>
    have hkey : sb.key = sandboxKey s := key_of_find? hsb
    refine wp_ite (fun hlater => ?_) fun hlater => ?_
    · refine wp_patchStatusIfPresent.mpr
        ⟨Or.inr ⟨.bump sb endTime hclosed hsb hlater, rfl⟩, ?_, ?_⟩
      · intro hnone
        rw [hkey, hsb] at hnone
        cases hnone
      · intro old hold
        refine hQ _ fun sb' hsb' => ⟨endTime, ?_, Int.le_refl _⟩
        have hold' : old.key = sandboxKey s := (key_of_find? hold).trans hkey
        rw [eq_of_find?_write _ (by exact hold') hsb']
        rfl
    · refine hQ c fun sb' hsb' => ?_
      obtain rfl := Option.some.inj (hsb.symm.trans hsb')
      cases hlast : sb.status.lastActivityTime with
      | none => simp [later, hlast] at hlater
      | some t => exact ⟨t, rfl, by simpa [later, hlast] using hlater⟩

theorem wp_reconcileClosed (hclosed : s.status.state = .closed) :
    (reconcileClosed s).wp Step (ReconcileCall c s)
      (fun _ _ c' => ∀ endTime, s.status.endTime = some endTime →
        CaughtUp c' (sandboxKey s) endTime) () c := by
  unfold reconcileClosed
  cases hend : s.status.endTime with
  | none => exact nofun
  | some endTime =>
    refine wp_bind.mpr (wp_bumpSandboxActivity hclosed ?_)
    intro c₁ hcaught
    refine wp_bind.mpr (wp_now.mpr ⟨Or.inl (.read rfl), ?_⟩)
    refine wp_ite (fun _ => ?_) fun _ => ?_
    · refine wp_bind.mpr
        (wp_deleteIfPresent.mpr ⟨Or.inl (.delete _), ?_⟩)
      rintro _ ⟨⟩ sb hsb
      rw [find?_dropped_ne (by simp)] at hsb
      exact hcaught sb hsb
    · rintro _ ⟨⟩
      exact hcaught

/-- What a pass does over a session that is stored as `s`. -/
theorem wp_reconcile_session {key : ObjectKey} (hs : c.find? .sandboxSession key = some s) :
    (SessionReconciler.reconcile key).wp Step (ReconcileCall c s)
      (fun _ _ c' => s.status.state = .closed → ∀ endTime, s.status.endTime = some endTime →
        CaughtUp c' (sandboxKey s) endTime) () c := by
  obtain rfl := key_of_find? hs
  refine wp_bind.mpr (wp_getOptional.mpr ⟨Or.inl (.read rfl), ?_⟩)
  rw [hs]
  dsimp only
  cases hstate : s.status.state with
  | unset => exact nofun
  | active =>
    exact wp_mono (reconcileActive_calls hs hstate) (fun _ _ => Or.inl) fun _ _ _ _ => nofun
  | closed => exact wp_post (wp_reconcileClosed hstate) fun _ _ _ h _ => h

/-- A pass that finds no session does nothing. -/
theorem reconcile_session_absent {key : ObjectKey} (hs : c.find? .sandboxSession key = none) :
    (SessionReconciler.reconcile key).Always Step (SessionCall c) () c := by
  refine wp_bind.mpr (wp_getOptional.mpr ⟨.read rfl, ?_⟩)
  rw [hs]
  trivial

end Controller

/-! ## The gateway's store -/

/-- What the gateway does to sessions. -/
inductive GatewayRoutine : ClientM Unit Unit → Prop
  | createSession (s : SandboxSession) : GatewayRoutine (Gateway.createSession s)
  | heartbeat (namespaceName name : String) : GatewayRoutine (Gateway.heartbeat namespaceName name)
  | closeSession (namespaceName name : String) (reason : ExitReason) :
    GatewayRoutine (Gateway.closeSession namespaceName name reason)

theorem gateway_calls {x : ClientM Unit Unit} (hx : GatewayRoutine x) (c : Cluster) :
    x.Always Step (SessionCall c) () c := by
  cases hx with
  | createSession s =>
    refine wp_bind.mpr (wp_create.mpr ⟨.create s, fun _ _ => ?_⟩)
    refine wp_bind.mpr (wp_now.mpr ⟨.read rfl, ?_⟩)
    refine (always_updateStatus (.status (c.versioned (c.created s)) _ ?_ ?_)).bind
      fun _ _ _ => trivial
    · exact find?_write_self c .sandboxSession (c.created s)
    · exact nofun
  | heartbeat namespaceName name =>
    refine wp_bind.mpr (wp_get.mpr ⟨.read rfl, fun s hs => ?_⟩)
    refine wp_ite (fun _ => trivial) fun hactive => ?_
    refine wp_bind.mpr (wp_now.mpr ⟨.read rfl, ?_⟩)
    refine (always_updateStatus (.status s _ (key_of_find? hs ▸ hs) ?_)).bind fun _ _ _ => trivial
    simp [not_not.mp hactive]
  | closeSession namespaceName name reason =>
    refine wp_bind.mpr (wp_get.mpr ⟨.read rfl, fun s hs => ?_⟩)
    refine wp_ite (fun _ => trivial) fun hopen => ?_
    refine wp_bind.mpr (wp_now.mpr ⟨.read rfl, ?_⟩)
    exact (always_updateStatus (.status s _ (key_of_find? hs ▸ hs) hopen)).bind fun _ _ _ => trivial

end Kubepark

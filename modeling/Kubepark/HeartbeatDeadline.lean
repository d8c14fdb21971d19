import Kubepark.ResourceVersions
import Kubepark.SessionController
import Kubepark.SshJump

/-!
# Heartbeats and the reaper

The gateway stamps each session with a heartbeat interval and refreshes the session at that rate;
the session controller closes an Active session whose last heartbeat is more than three intervals
old. The two run apart, and the controller reads through a cache. What it writes is conditional on
the version it read, so a session is closed only by what is true of it at that moment
(`reaps_reconcile`), and a pass that comes late enough does close it (`wp_reconcile_stale`).
-/

namespace Kubepark

open ApiServer Client SessionReconciler Routine

open Prog (Timeline lagging)

/-! ## The interval -/

theorem floor_le_heartbeatInterval (d : Duration) : 60 * second ≤ Gateway.heartbeatInterval d := by
  simp only [Gateway.heartbeatInterval]
  split_ifs with h
  · exact Int.le_of_lt h
  · exact Int.le_refl _

theorem heartbeatInterval_le {d : Duration} (hd : IsInt64 d) :
    Gateway.heartbeatInterval d ≤ 2 ^ 61 := by
  obtain ⟨-, hlt⟩ := hd
  simp only [Gateway.heartbeatInterval]
  split_ifs with h
  · have hle : d ≤ 2 ^ 63 - 1 := Int.le_sub_one_of_lt hlt
    exact Int.le_trans (Int.tdiv_le_tdiv (by decide) hle) (by decide)
  · decide

/-- Three intervals fit. -/
theorem isInt64_deadline {d : Duration} (hd : IsInt64 d) :
    IsInt64 (staleHeartbeatFactor * Gateway.heartbeatInterval d) := by
  have hle := heartbeatInterval_le hd
  have hge := floor_le_heartbeatInterval d
  simp only [IsInt64, staleHeartbeatFactor, second] at hge ⊢
  lia

/-- The controller waits for three times the interval that the gateway stamped. -/
theorem heartbeatDeadline_stamped {s : SandboxSession} {d : Duration} (hd : IsInt64 d)
    (hs : s.spec.heartbeatInterval = some (Gateway.heartbeatInterval d)) :
    heartbeatDeadline s = staleHeartbeatFactor * Gateway.heartbeatInterval d := by
  have hge := floor_le_heartbeatInterval d
  have hpos : 0 < Gateway.heartbeatInterval d := by
    simp only [second] at hge
    lia
  simp [heartbeatDeadline, hs, hpos, wrapInt64_of_isInt64 (isInt64_deadline hd)]

/-- The interval that the gateway stamps the sessions of the sandbox with. -/
def stampedInterval (sb : Sandbox) : Duration :=
  Gateway.heartbeatInterval (Gateway.effectiveIdleTimeout sb)

/-- A session that is created has the interval `d`. -/
def Stamps (d : Duration) (op : Call) : Prop :=
  ∀ o, op = .create .sandboxSession o → o.spec.heartbeatInterval = some d

/-- The same, for a call of the gateway. -/
def JumpStamps (d : Duration) (op : Gateway.JumpOp) (_ : Cluster) : Prop :=
  ∀ call, op = .api call → Stamps d call

theorem stamps_read {d : Duration} {op : Call} (h : op.target = none) : Stamps d op := by
  rintro o rfl
  cases h

theorem stamps_status (d : Duration) (session : SandboxSession) :
    Stamps d (.updateStatus .sandboxSession session) := by
  intro o h
  cases h

theorem frame_createSession_stamps {d : Duration} {session : SandboxSession}
    (h : session.spec.heartbeatInterval = some d) :
    (Gateway.createSession session : ClientM Unit Unit).Frame (Stamps d) id := by
  have hcreate : Stamps d (.create .sandboxSession session) := by
    intro o ho
    cases ho
    exact h
  refine Routine.Frame.bind ((frame_call hcreate).bind fun r => frame_ofExcept r) ?_
  intro stored
  refine (frame_call (stamps_read rfl)).bind fun t => ?_
  refine Routine.Frame.bind ?_ fun _ => frame_pure _
  exact (frame_call (stamps_status d _)).bind fun r => frame_ofExcept r

theorem stamps_api {α τ : Type} {x : ClientM Unit α} {d : Duration} {env : Cluster → Cluster → Prop}
    {c : Cluster} {f : Unit → τ} (hx : x.Frame (Stamps d) f)
    {Q : Except ApiError α × Unit → Cluster → Prop} (hQ : ∀ r c', Q r c') :
    ((Gateway.api x) ()).wp (Gateway.JumpStep env) (JumpStamps d) Q c := by
  refine Prog.wp_via _ _ (Prog.wp_mono ((hx ()).preserves (I := fun _ => True)
    (fun _ _ _ _ _ _ => id) trivial) ?_ fun r c' _ => hQ r c')
  rintro op c₁ ⟨hop, -⟩ call hcall
  cases hcall
  exact hop

/-- `openSession` stamps the session with the interval. -/
theorem stamps_openSession (sb : Sandbox) (principal clientAddr certSerial : String)
    (env : Cluster → Cluster → Prop) (c : Cluster) :
    (Gateway.openSession sb principal clientAddr certSerial).Always (Gateway.JumpStep env)
      (JumpStamps (stampedInterval sb)) () c := by
  have hsuffix : Gateway.randomSuffix.Frame (Stamps (stampedInterval sb)) id := by
    refine (frame_call (stamps_read rfl)).bind fun n => ?_
    cases n with
    | error e => exact frame_pure _
    | ok n => exact frame_pure _
  refine wp_bind.mpr (stamps_api hsuffix ?_)
  rintro ⟨suffix, _⟩ c₁
  cases suffix with
  | error e => trivial
  | ok suffix =>
    have hsession : (Gateway.createSession (Gateway.buildSession sb suffix principal clientAddr
        certSerial) : ClientM Unit Unit).Frame (Stamps (stampedInterval sb)) id :=
      frame_createSession_stamps rfl
    refine wp_bind.mpr (Gateway.wp_attempt (stamps_api hsession ?_))
    rintro ⟨r, _⟩ c₂
    cases r with
    | error e => trivial
    | ok _ => trivial

/-! ## The reaper -/

/-- What the reaper makes of a session. -/
def reaped (s : SandboxSession) : SandboxSession :=
  { s with
    status := { s.status with
      state := .closed, endTime := some (lastSeen s), exitReason := .staleHeartbeat } }

/-- A session is closed by what was stored at some time, and is older than its deadline by now. -/
def Reaps (op : Call) (w : Timeline Cluster) : Prop :=
  ∀ o, op = .updateStatus .sandboxSession o → Coherent w ∧ ∃ s, o = reaped s ∧ Seen w s ∧
    s.status.state = .active ∧ heartbeatDeadline s < w.now.clock - lastSeen s

/-- The calls that write no status of a session. -/
def NoSessionStatus (op : Call) : Prop :=
  ∀ o, op ≠ .updateStatus .sandboxSession o

theorem noSessionStatus_read {op : Call} (h : op.target = none) : NoSessionStatus op := by
  rintro o rfl
  cases h

theorem noSessionStatus_delete (key : ObjectKey) (site : String) :
    NoSessionStatus (.delete .sandboxSession key site) := by
  intro o h
  cases h

theorem noSessionStatus_patch (key : ObjectKey) (change : SandboxStatus → SandboxStatus) :
    NoSessionStatus (.patchStatus .sandbox key change) := by
  intro o h
  cases h

theorem NoSessionStatus.reaps {op : Call} (h : NoSessionStatus op) (w : Timeline Cluster) :
    Reaps op w :=
  fun o hop => absurd hop (h o)

section Reaper

variable {env : Cluster → Cluster → Prop} {w : Timeline Cluster} {s : SandboxSession}

theorem reaps_reconcileClosed (s : SandboxSession) :
    (reconcileClosed s).Always (CachedStep env) Reaps () w := by
  have hframe : (reconcileClosed s).Frame NoSessionStatus id := by
    unfold reconcileClosed
    cases s.status.endTime with
    | none => exact frame_pure _
    | some endTime =>
      refine Routine.Frame.bind ?_ fun _ => ?_
      · refine (frame_getOptional (noSessionStatus_read rfl)).bind fun sb => ?_
        cases sb with
        | none => exact frame_pure _
        | some sb =>
          refine frame_ite ?_ (frame_pure _)
          exact (frame_call (noSessionStatus_patch _ _)).bind fun r =>
            frame_ignoring _ _ _ r
      · refine (frame_call (noSessionStatus_read rfl)).bind fun t => ?_
        refine frame_ite ?_ (frame_pure _)
        exact (frame_deleteIfPresent (noSessionStatus_delete _ _)).bind fun _ => frame_pure _
  exact hframe.always fun op w h => h.reaps w

theorem reaps_reconcileActive (henv : ∀ c c', env c c' → Later c c') (hw : Coherent w)
    (hseen : Seen w s) (hactive : s.status.state = .active) :
    (reconcileActive s).Always (CachedStep env) Reaps () w := by
  refine wp_ite (fun _ => trivial) fun _ => ?_
  refine wp_bind.mpr (wp_lift.mpr
    ⟨(noSessionStatus_read rfl).reaps w, fun t w₁ hnow => ?_⟩)
  have hsince := since_cachedStep henv hnow
  have ht := (clock_of_cachedNow henv hnow).2
  refine wp_ite (fun _ => trivial) fun hlate => ?_
  refine Routine.Always.bind (wp_bind.mpr (wp_lift.mpr
    ⟨?_, fun r w₂ _ => always_ignoring _ _ _ r _ w₂⟩)) fun _ _ _ => trivial
  rintro o hop
  cases hop
  have hpassed : heartbeatDeadline s < t - lastSeen s :=
    lt_sub_of_lt_timeSub (isInt64_heartbeatDeadline s).1 (Int.not_le.mp hlate)
  refine ⟨hsince.coherent hw, s, rfl, hsince.seen hseen, hactive, ?_⟩
  lia

/-- The calls of a pass of the session controller, through a cache that lags and beside others who
do as they please. -/
theorem reaps_reconcile (henv : ∀ c c', env c c' → Later c c') (hw : Coherent w) (key : ObjectKey) :
    (SessionReconciler.reconcile key).Always (CachedStep env) Reaps () w := by
  refine wp_bind.mpr (wp_getOptional_of ((noSessionStatus_read rfl).reaps w)
    (fun s w₁ hget => ?_) fun _ _ _ => trivial)
  have hseen := (seen_of_cachedGet henv hget).2
  dsimp only
  cases hstate : s.status.state with
  | unset => trivial
  | active =>
    exact reaps_reconcileActive henv ((since_cachedStep henv hget).coherent hw) hseen hstate
  | closed => exact reaps_reconcileClosed s

/-- What the reaper closes : the session as it is stored, where it has the version that was read. -/
theorem Reaps.stored {o s : SandboxSession} (h : Reaps (.updateStatus .sandboxSession o) w)
    (hs : w.now.find? .sandboxSession o.key = some s)
    (hversion : s.metadata.resourceVersion = o.metadata.resourceVersion) :
    o = reaped s ∧ s.status.state = .active ∧ heartbeatDeadline s < w.now.clock - lastSeen s := by
  obtain ⟨hw, s', rfl, hseen, hactive, hlate⟩ := h o rfl
  obtain rfl : s = s' := hseen.same hw hs hversion
  exact ⟨rfl, hactive, hlate⟩

end Reaper

/-- A pass without error over an Active session that is older than its deadline closes it. -/
theorem wp_reconcile_stale {c : Cluster} {key : ObjectKey} {s : SandboxSession}
    (hs : c.find? .sandboxSession key = some s) (hactive : s.status.state = .active)
    (hstamp : lastSeen s ≠ zeroTime)
    (hlate : heartbeatDeadline s < timeSub c.clock (lastSeen s)) :
    (SessionReconciler.reconcile key).wp Step (fun _ _ => True) (fun _ _ c' =>
      c'.find? .sandboxSession key = some (c.versioned (reaped s))) () c := by
  obtain rfl := key_of_find? hs
  refine wp_bind.mpr (wp_getOptional.mpr ⟨trivial, ?_⟩)
  rw [hs]
  dsimp only
  rw [hactive]
  refine wp_ite (fun hzero => absurd hzero hstamp) fun _ => ?_
  refine wp_bind.mpr (wp_now.mpr ⟨trivial, ?_⟩)
  refine wp_ite (fun hearly => ?_) fun _ => ?_
  · exact absurd hearly (Int.not_le.mpr hlate)
  refine wp_bind.mpr (wp_updateStatusIfPresent.mpr ⟨trivial, ?_, ?_⟩)
  · intro hnone
    cases hs.symm.trans hnone
  · intro old hold _
    obtain rfl : s = old := Option.some.inj (hs.symm.trans hold)
    exact find?_write_self c .sandboxSession (reaped s)

/-- The gateway and the reaper agree on liveness. The interval that is stamped is at least a minute,
and three of them fit. The reaper closes a session, through a cache that lags and beside others who
do as they please, only while the last recorded activity is more than three intervals old, and dates
its end at that activity; and every pass without error that comes that late does so. -/
theorem liveness_agreed (sb : Sandbox) (hsb : IsInt64 (Gateway.effectiveIdleTimeout sb)) :
    (60 * second ≤ stampedInterval sb ∧ IsInt64 (staleHeartbeatFactor * stampedInterval sb)) ∧
    (∀ (principal clientAddr certSerial : String) (env : Cluster → Cluster → Prop) (c c' : Cluster)
      (t : List (Gateway.JumpOp × Cluster)),
      (Gateway.openSession sb principal clientAddr certSerial ()).Visits (Gateway.JumpStep env) c t c' →
        ∀ e ∈ t, ∀ o, e.1 = .api (.create .sandboxSession o) →
          o.spec.heartbeatInterval = some (stampedInterval sb)) ∧
    (∀ (env : Cluster → Cluster → Prop) (w w' : Timeline Cluster) (key : ObjectKey)
      (t : List (Call × Timeline Cluster)), (∀ c c', env c c' → Later c c') → Coherent w →
      (SessionReconciler.reconcile key ()).Visits (CachedStep env) w t w' → ∀ e ∈ t, ∀ o s,
        e.1 = .updateStatus .sandboxSession o → e.2.now.find? .sandboxSession o.key = some s →
        s.metadata.resourceVersion = o.metadata.resourceVersion →
        s.spec.heartbeatInterval = some (stampedInterval sb) → o = reaped s ∧
          staleHeartbeatFactor * stampedInterval sb < e.2.now.clock - lastSeen s ∧
          lastSeen s ≤ e.2.now.clock) ∧
    (∀ (c c' : Cluster) (key : ObjectKey) (s : SandboxSession) (t : List (Call × Cluster))
      (result : Result), c.find? .sandboxSession key = some s →
      s.spec.heartbeatInterval = some (stampedInterval sb) → s.status.state = .active →
      lastSeen s ≠ zeroTime → staleHeartbeatFactor * stampedInterval sb < c.clock - lastSeen s →
      (SessionReconciler.reconcile key ()).Exec Step c t (.ok result, ()) c' →
        c'.find? .sandboxSession key = some (c.versioned (reaped s))) := by
  refine ⟨⟨floor_le_heartbeatInterval _, isInt64_deadline hsb⟩, ?_, ?_, ?_⟩
  · intro principal clientAddr certSerial env c c' t h e he o hop
    have hstamps := h.wp (P := JumpStamps (stampedInterval sb))
      (stamps_openSession sb principal clientAddr certSerial env c)
    exact hstamps e he _ hop o rfl
  · rintro env w w' key t henv hw h ⟨op, w₁⟩ he o s rfl hs hversion hstamped
    obtain ⟨ho, -, hlate⟩ := (h.wp (reaps_reconcile henv hw key) _ he).stored hs hversion
    rw [heartbeatDeadline_stamped hsb hstamped] at hlate
    have hfloor := floor_le_heartbeatInterval (Gateway.effectiveIdleTimeout sb)
    refine ⟨ho, hlate, ?_⟩
    simp only [staleHeartbeatFactor, second] at hlate hfloor
    lia
  · intro c c' key s t result hs hstamped hactive hstamp hlate h
    have hlow := (isInt64_deadline hsb).1
    have hhigh : staleHeartbeatFactor * stampedInterval sb < 2 ^ 63 - 1 := by
      have hle := heartbeatInterval_le hsb
      simp only [staleHeartbeatFactor, stampedInterval]
      lia
    have hcut := (lt_timeSub_iff hlow hhigh).mpr hlate
    rw [← heartbeatDeadline_stamped hsb hstamped] at hcut
    exact (h.wp (wp_reconcile_stale hs hactive hstamp hcut)).2

theorem versioned_ofObjects {objs : (k : Kind) → List (Obj k)} {t : Time}
    (h : ∀ k, ∀ o ∈ objs k, o.metadata.resourceVersion = 0) :
    (Cluster.ofObjects objs t).Versioned := by
  intro k key o ho
  have hmem := KeyedStore.mem_of_mem_ofList (mem_of_find? ho)
  rw [h k o hmem]
  exact Nat.zero_le _

namespace Team

/-- A session of Alice's that was last heard of at the epoch. -/
def abandoned : SandboxSession :=
  { Gateway.buildSession (sandbox .running {}) "0" "alice" "192.0.2.1" "1" with
    status := { state := .active, startTime := some 0, lastActivityTime := some 0 } }

/-- The session and nothing else, after three minutes and a second. -/
def threeMinutesOn : Cluster :=
  .ofObjects (fun
    | .sandboxSession => [abandoned]
    | _ => []) (181 * second)

end Team

/-- The gateway is gone, and the session is closed as of its last heartbeat. -/
theorem abandoned_session_reaped : IsInt64 (Gateway.effectiveIdleTimeout (Team.sandbox .running {})) ∧
    (((SessionReconciler.reconcile Team.abandoned.key ()).run handle Team.threeMinutesOn).2.find?
      .sandboxSession Team.abandoned.key).map (fun s => (s.status.state, s.status.endTime)) =
        some (.closed, some 0) := by
  have hint : IsInt64 (Gateway.effectiveIdleTimeout (Team.sandbox .running {})) := by
    constructor <;> decide
  have hok : ((SessionReconciler.reconcile Team.abandoned.key ()).run handle
      Team.threeMinutesOn).1 = (.ok {}, ()) := by decide +kernel
  have hexec := Prog.exec_run step_handle (SessionReconciler.reconcile Team.abandoned.key ())
    Team.threeMinutesOn
  rw [hok] at hexec
  have hclosed := (liveness_agreed (Team.sandbox .running {}) hint).2.2.2 Team.threeMinutesOn _
    Team.abandoned.key Team.abandoned _ {} rfl rfl rfl (by decide) (by decide) hexec
  refine ⟨hint, ?_⟩
  rw [hclosed]
  rfl

end Kubepark

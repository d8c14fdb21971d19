import Kubepark.SessionHistory

/-!
# The upkeep of session records

The session controller is to close what has gone stale and to delete what is old, and between the
two it comes back to a record by the delay it returns : a delay of zero, or one that is negative,
is none. `Tended` says that a pass has done something about the record or comes back to it in time.

`Kept` is what every record has that the gateway, the reaper and the teardown write : an Active one
has an activity stamp, a Closed one an end, and none has finalizers. It holds in every state the
parties reach, call by call (`RecordOp.allKept`). Of such a record a pass is `Tended` exactly where
the record is `Tendable` (`record_tended_iff`) : it has a state, the deadline is not reached to the
nanosecond, and what is left of it is a duration.
-/

namespace Kubepark

open ApiServer Client SessionReconciler Routine

open Prog (Timeline lagging Pool PoolStep)

/-! ## Records -/

/-- What every record with the status has. -/
structure StatusKept (st : SandboxSessionStatus) : Prop where
  active : st.state = .active → ∃ t, st.lastActivityTime = some t ∧ zeroTime < t
  closed : st.state = .closed → ∃ t, st.endTime = some t

structure Kept (s : SandboxSession) : Prop where
  finalizers : s.metadata.finalizers = []
  live : s.deleting = false
  status : StatusKept s.status

/-- Every record is kept, and it is after the zero time. -/
structure AllKept (c : Cluster) : Prop where
  records : ∀ key s, c.find? .sandboxSession key = some s → Kept s
  clock : zeroTime < c.clock

/-- The calls of the parties. -/
inductive RecordOp : Call → Prop
  | other {op : Call} (h : ∀ key, op.target ≠ some (.sandboxSession, key)) : RecordOp op
  | create (s : SandboxSession) (h : s.metadata.finalizers = []) :
    RecordOp (.create .sandboxSession s)
  | status (s : SandboxSession) (h : StatusKept s.status) :
    RecordOp (.updateStatus .sandboxSession s)
  | delete (key : ObjectKey) (site : String) : RecordOp (.delete .sandboxSession key site)

theorem recordOp_read {op : Call} (h : op.target = none) : RecordOp op :=
  .other fun _ ht => nomatch h.symm.trans ht

/-- No call of theirs leaves a record that is not kept. -/
theorem RecordOp.allKept {op : Call} {c c' : Cluster} {a : Resp Spec Status op} (hop : RecordOp op)
    (hc : AllKept c) (hs : Step op c a c') : AllKept c' := by
  refine ⟨fun key s' hs' => ?_, hs.clock ▸ hc.clock⟩
  cases hop with
  | other h =>
    rw [hs.find? (h key)] at hs'
    exact hc.records key s' hs'
  | create s h =>
    cases hs.written hs' with
    | kept hold => exact hc.records key s' hold
    | created o hop' _ _ heq =>
      cases hop'
      subst heq
      exact ⟨h, rfl, nofun, nofun⟩
    | updated _ _ hop' | statusUpdated _ _ hop' | patched _ _ hop' | statusPatched _ _ hop'
    | terminated _ _ hop' => cases hop'
  | status s h =>
    cases hs.written hs' with
    | kept hold => exact hc.records key s' hold
    | statusUpdated old o hop' _ hold heq =>
      cases hop'
      subst heq
      obtain ⟨hfinalizers, hlive, -⟩ := hc.records key old hold
      exact ⟨hfinalizers, hlive, h⟩
    | created _ hop' | updated _ _ hop' | patched _ _ hop' | statusPatched _ _ hop'
    | terminated _ _ hop' => cases hop'
  | delete key' site =>
    cases hs.written hs' with
    | kept hold => exact hc.records key s' hold
    | terminated old _ hop' hold _ hstays _ =>
      rcases hstays with hgraceful | hstays
      · exact nomatch hgraceful
      · exact absurd (hc.records key old hold).finalizers hstays
    | created _ hop' | updated _ _ hop' | patched _ _ hop' | statusPatched _ _ hop'
    | statusUpdated _ _ hop' => cases hop'

/-! ## The parties -/

/-- What the parties do, and may rely on the others to do. -/
def Upkeeps (_ w' : Timeline Cluster) : Prop :=
  AllKept w'.now

/-- The handler of the parties : reads lag, and names may be used again. -/
def RecordStep : (op : Call) → Timeline Cluster → Resp Spec Status op → Timeline Cluster → Prop :=
  SessionStep fun _ _ => True

/-- A call that keeps the records, in a state in which they are. -/
def Upkept (op : Call) (w : Timeline Cluster) : Prop :=
  AllKept w.now ∧ RecordOp op

section Parties

variable {w w' : Timeline Cluster} {op : Call} {a : Resp Spec Status op}

theorem Upkept.rely (h : Upkept op w) (ha : RecordStep op w a w') : w' = w ∨ Upkeeps w w' := by
  obtain ⟨ha, -⟩ := ha
  cases hread : op.isRead with
  | true => exact Or.inl (Prog.lagging_read hread ha).1
  | false =>
    obtain ⟨c', hs, rfl⟩ := Prog.lagging_write hread ha
    exact Or.inr (h.2.allKept h.1 hs)

theorem allKept_of_upkeeps (hw : AllKept w.now) (h : Relation.ReflTransGen Upkeeps w w') :
    AllKept w'.now := by
  cases h with
  | refl => exact hw
  | tail _ hstep => exact hstep

theorem Upkept.after (h : Upkept op w) (ha : Prog.interleaved RecordStep Upkeeps op w a w') :
    AllKept w'.now := by
  obtain ⟨w₁, hstep, hsteps⟩ := ha
  rcases h.rely hstep with rfl | hkept
  · exact allKept_of_upkeeps h.1 hsteps
  · exact allKept_of_upkeeps hkept hsteps

/-- The clock that is read is after the zero time. -/
theorem zeroTime_lt_of_now {t : Time} (hw : AllKept w.now)
    (h : Prog.interleaved RecordStep Upkeeps .now w t w') : zeroTime < t := by
  obtain ⟨w₁, ⟨hnow, -⟩, -⟩ := h
  obtain ⟨c', hs, -⟩ := Prog.lagging_write rfl hnow
  rcases hs with ⟨ht, -⟩ | ⟨e, -, hfails, -⟩
  · rw [ht]
    exact hw.clock
  · exact hfails.elim

theorem upkept_read (hw : AllKept w.now) (h : op.target = none) : Upkept op w :=
  ⟨hw, recordOp_read h⟩

/-- A routine that makes only such calls, whatever it is answered. -/
theorem upkept_of_frame {α τ : Type} {x : ClientM Unit α} {f : Unit → τ} (hx : x.Frame RecordOp f)
    (hw : AllKept w.now) :
    x.Always (Prog.interleaved RecordStep Upkeeps) Upkept () w := by
  refine Prog.wp_mono ((hx ()).preserves (I := fun w' => AllKept w'.now)
    (fun op w₁ a w₂ hop ha hw₁ => Upkept.after ⟨hw₁, hop⟩ ha) hw) ?_ ?_
  · exact fun op w' h => ⟨h.2, h.1⟩
  · rintro ⟨r, st⟩ w' -
    cases r <;> trivial

theorem upkept_createSession {s : SandboxSession} (h : s.metadata.finalizers = [])
    (hw : AllKept w.now) : (Gateway.createSession s : ClientM Unit Unit).Always
      (Prog.interleaved RecordStep Upkeeps) Upkept () w := by
  have hcreate : Upkept (.create .sandboxSession s) w := ⟨hw, .create s h⟩
  refine wp_bind.mpr (wp_create_of hcreate fun s₁ w₁ hcreated => ?_)
  have hw₁ := hcreate.after hcreated
  refine wp_bind.mpr (wp_lift.mpr
    ⟨upkept_read hw₁ rfl, fun t w₂ hnow => ?_⟩)
  have hw₂ := (upkept_read hw₁ rfl).after hnow
  refine wp_bind.mpr (wp_updateStatus_of ?_ fun _ _ _ => trivial)
  exact ⟨hw₂, .status _ ⟨fun _ => ⟨t, rfl, zeroTime_lt_of_now hw₁ hnow⟩, nofun⟩⟩

theorem upkept_heartbeat (hw : AllKept w.now) (namespaceName name : String) :
    (Gateway.heartbeat namespaceName name : ClientM Unit Unit).Always
      (Prog.interleaved RecordStep Upkeeps) Upkept () w := by
  refine wp_bind.mpr (wp_get_of (upkept_read hw rfl) fun s w₁ hget => ?_)
  have hw₁ := (upkept_read hw rfl).after hget
  refine wp_ite (fun _ => trivial) fun hactive => ?_
  refine wp_bind.mpr (wp_lift.mpr
    ⟨upkept_read hw₁ rfl, fun t w₂ hnow => ?_⟩)
  have hw₂ := (upkept_read hw₁ rfl).after hnow
  refine wp_bind.mpr (wp_updateStatus_of ?_ fun _ _ _ => trivial)
  refine ⟨hw₂, .status _ ⟨fun _ => ⟨t, rfl, zeroTime_lt_of_now hw₁ hnow⟩, fun hclosed => ?_⟩⟩
  exact nomatch (not_not.mp hactive).symm.trans hclosed

/-- A status that says Closed has an end. -/
theorem statusKept_closed {st : SandboxSessionStatus} {t : Time} (hstate : st.state = .closed)
    (hend : st.endTime = some t) : StatusKept st :=
  ⟨fun hactive => (nomatch hstate.symm.trans hactive), fun _ => ⟨t, hend⟩⟩

theorem frame_closeSession (namespaceName name : String) (reason : ExitReason) :
    (Gateway.closeSession namespaceName name reason : ClientM Unit Unit).Frame RecordOp id := by
  refine (frame_get (recordOp_read rfl)).bind fun s => ?_
  refine frame_ite (frame_pure _) ?_
  refine (frame_call (recordOp_read rfl)).bind fun t => ?_
  refine Routine.Frame.bind ?_ fun _ => frame_pure _
  exact (frame_call (.status _ (statusKept_closed rfl rfl))).bind fun r =>
    frame_ofExcept r

theorem frame_reconcile_record (key : ObjectKey) :
    (SessionReconciler.reconcile key).Frame RecordOp id := by
  refine (frame_getOptional (recordOp_read rfl)).bind fun s => ?_
  cases s with
  | none => exact frame_pure _
  | some s =>
    dsimp only
    cases s.status.state with
    | unset => exact frame_pure _
    | active =>
      exact frame_reconcileActive s (recordOp_read rfl) fun _ => .status _ (statusKept_closed rfl rfl)
    | closed =>
      exact frame_reconcileClosed s (recordOp_read rfl) (fun _ _ => .other fun key => nofun)
        (recordOp_read rfl) (.delete _ _)

theorem frame_closeSessions_record (sb : Sandbox) :
    (SandboxReconciler.closeSessions sb : ClientM Unit Unit).Frame RecordOp id := by
  refine (frame_list (recordOp_read rfl)).bind fun sessions => ?_
  refine (frame_call (recordOp_read rfl)).bind fun t => ?_
  refine frame_forEach (fun s => ?_) sessions
  refine frame_ite (frame_pure _) ?_
  exact (frame_updateStatusIfPresent (.status _ (statusKept_closed rfl rfl))).bind fun _ =>
    frame_pure _

end Parties

/-! ## The states they reach -/

/-- What is started, at any time : the gateway creates sessions without finalizers. -/
def RecordStarts (_ : SessionPool) (l : SessionThread) : Prop :=
  ∀ s, l = .createSession s → s.metadata.finalizers = []

/-- A step of all of them. -/
def RecordRun (pool pool' : SessionPool) : Prop :=
  PoolStep RecordStep SessionThread.body RecordStarts (Elapses OtherObjects) pool pool'

/-- A state the parties reach from one without records, after the zero time. -/
inductive RecordReached : Cluster → Prop
  | run {c : Cluster} {pool : SessionPool} (hnone : ∀ key, c.find? .sandboxSession key = none)
    (hclock : zeroTime < c.clock)
    (hrun : Relation.ReflTransGen RecordRun ⟨.start c, []⟩ pool) : RecordReached pool.state.now

theorem safe_of_upkept {α : Type} {x : ClientM Unit α} {w : Timeline Cluster} (hw : AllKept w.now)
    (hx : ∀ w' : Timeline Cluster, AllKept w'.now →
      x.Always (Prog.interleaved RecordStep Upkeeps) Upkept () w') :
    (succeeded x).Safe RecordStep Upkeeps (fun _ _ => True) w := by
  intro w' hsteps
  refine Prog.wp_bind.mpr
    (Prog.wp_mono (hx w' (allKept_of_upkeeps hw hsteps)) ?_ fun _ _ _ => trivial)
  exact fun op w₁ hop a w₂ ha => hop.rely ha

theorem safe_party {pool : SessionPool} {l : SessionThread} (hw : AllKept pool.state.now)
    (hl : RecordStarts pool l) :
    l.body.Safe RecordStep Upkeeps (fun _ _ => True) pool.state := by
  cases l with
  | createSession s =>
    exact safe_of_upkept hw fun w' hw' => upkept_createSession (hl s rfl) hw'
  | heartbeat namespaceName name =>
    exact safe_of_upkept hw fun w' hw' => upkept_heartbeat hw' namespaceName name
  | closeSession namespaceName name reason =>
    exact safe_of_upkept hw fun w' hw' =>
      upkept_of_frame (frame_closeSession namespaceName name reason) hw'
  | reconcile key =>
    exact safe_of_upkept hw fun w' hw' => upkept_of_frame (frame_reconcile_record key) hw'
  | closeSessions sb =>
    exact safe_of_upkept hw fun w' hw' => upkept_of_frame (frame_closeSessions_record sb) hw'

theorem RecordReached.allKept {c : Cluster} (h : RecordReached c) : AllKept c := by
  obtain ⟨hnone, hclock, hrun⟩ := h
  rename_i c₀ pool
  have hstart : AllKept c₀ := ⟨fun key s hs => (nomatch (hnone key).symm.trans hs), hclock⟩
  have hsafe := Pool.run_safe (H := RecordStep) (R := Upkeeps) (I := fun w => AllKept w.now)
    (Q := fun _ _ _ => True) (fun w w' _ h => h) (fun w w' hw helapses => Or.inr ?_)
    (fun pool l hpool hl => safe_party hpool.state hl)
    ⟨hstart, fun _ ht => absurd ht List.not_mem_nil⟩ hrun
  · exact hsafe.1.state
  · obtain ⟨c', ⟨hlater, hsame⟩, rfl⟩ := helapses
    refine ⟨fun key s hs => hw.records key s ((hsame key).symm.trans hs), ?_⟩
    exact Int.lt_of_lt_of_le hw.clock hlater.clock

/-! ## A pass over a record -/

/-- The interval that counts for a session. -/
def effectiveInterval (s : SandboxSession) : Duration :=
  match s.spec.heartbeatInterval with
  | some d => if 0 < d then d else defaultHeartbeatInterval
  | none => defaultHeartbeatInterval

/-- When something is to be done about the record : an Active one goes stale, a Closed one is no
longer retained. -/
def due (s : SandboxSession) : Option Time :=
  match s.status.state with
  | .unset => none
  | .active => some (lastSeen s + staleHeartbeatFactor * effectiveInterval s)
  | .closed => s.status.endTime.map (· + closedSessionRetention)

/-- The pass at `t` has changed or deleted the record, or comes back to it before it is due. -/
def Tended (s : SandboxSession) (t : Time) (result : Result) (c' : Cluster) : Prop :=
  c'.find? .sandboxSession s.key ≠ some s ∨
    ∃ time, due s = some time ∧ 0 < result.requeueAfter ∧ result.requeueAfter ≤ time - t

/-- The record has a state, the clock `t` does not show its deadline to the nanosecond, and what is
left of the deadline or the retention is a `time.Duration`. -/
def Tendable (s : SandboxSession) (t : Time) : Prop :=
  match s.status.state with
  | .unset => False
  | .active => timeSub t (lastSeen s) ≠ heartbeatDeadline s ∧
    heartbeatDeadline s - timeSub t (lastSeen s) < 2 ^ 63
  | .closed => ∀ endTime, s.status.endTime = some endTime →
    closedSessionRetention - timeSub t endTime < 2 ^ 63

section Pass

variable {c c' : Cluster} {s : SandboxSession} {t : Time} {result : Result}

theorem heartbeatDeadline_eq (s : SandboxSession) :
    heartbeatDeadline s = wrapInt64 (staleHeartbeatFactor * effectiveInterval s) := by
  unfold heartbeatDeadline effectiveInterval
  cases s.spec.heartbeatInterval <;> rfl

/-- The deadline that is waited for is not after the one there is. -/
theorem heartbeatDeadline_le (s : SandboxSession) :
    heartbeatDeadline s ≤ staleHeartbeatFactor * effectiveInterval s := by
  have hpos : 0 < effectiveInterval s := by
    unfold effectiveInterval
    split
    · split_ifs with hd
      · exact hd
      · decide
    · decide
  rw [heartbeatDeadline_eq]
  refine wrapInt64_le ?_
  simp only [staleHeartbeatFactor]
  lia

/-- Of a pass that leaves the record alone. -/
theorem tended_iff_of_same (hsame : c'.find? .sandboxSession s.key = some s) :
    Tended s t result c' ↔
      ∃ time, due s = some time ∧ 0 < result.requeueAfter ∧ result.requeueAfter ≤ time - t :=
  or_iff_right (not_not.mpr hsame)

/-- The delay until `d` after `u`, where the record is due then or later. -/
theorem tended_delay_iff {u d time : Int} (hsame : c'.find? .sandboxSession s.key = some s)
    (hd : IsInt64 d) (hle : timeSub t u ≤ d) (hdue : due s = some time) (htime : u + d ≤ time) :
    Tended s t { requeueAfter := wrapInt64 (d - timeSub t u) } c' ↔
      timeSub t u ≠ d ∧ d - timeSub t u < 2 ^ 63 := by
  rw [tended_iff_of_same hsame, ← wrapInt64_delay_pos_iff hd hle]
  constructor
  · rintro ⟨_, -, hpos, -⟩
    exact hpos
  · intro hpos
    have hdelay := wrapInt64_delay_le hd hle hpos
    refine ⟨time, hdue, hpos, Int.le_trans hdelay ?_⟩
    exact Int.sub_le_sub_right htime t

theorem wp_reconcileActive_tended (hs : c.find? .sandboxSession s.key = some s)
    (hactive : s.status.state = .active) (hstamp : lastSeen s ≠ zeroTime) :
    (reconcileActive s).wp Step (fun _ _ => True)
      (fun result _ c' => Tended s c.clock result c' ↔ Tendable s c.clock) () c := by
  have hdue : due s = some (lastSeen s + staleHeartbeatFactor * effectiveInterval s) := by
    rw [due, hactive]
  have htendable : Tendable s c.clock ↔ timeSub c.clock (lastSeen s) ≠ heartbeatDeadline s ∧
      heartbeatDeadline s - timeSub c.clock (lastSeen s) < 2 ^ 63 := by
    rw [Tendable, hactive]
  refine wp_ite (fun hzero => absurd hzero hstamp) fun _ => ?_
  refine wp_bind.mpr (wp_now.mpr ⟨trivial, ?_⟩)
  refine wp_ite (fun hearly => ?_) fun hlate => ?_
  · rw [wp_pure, htendable]
    refine tended_delay_iff hs (isInt64_heartbeatDeadline s) hearly hdue ?_
    exact Int.add_le_add_left (heartbeatDeadline_le s) _
  · refine wp_bind.mpr (wp_updateStatusIfPresent.mpr ⟨trivial, ?_, ?_⟩)
    · exact fun hnone => nomatch hs.symm.trans hnone
    · intro old hold _
      have hwritten := find?_write_self c .sandboxSession (reaped old)
      obtain rfl := Option.some.inj (hs.symm.trans hold)
      have hchanged : Tended s c.clock {} (c.write .sandboxSession (reaped s)) := by
        refine Or.inl fun hsame => ?_
        have hclosed := congrArg (·.status.state) (Option.some.inj (hwritten.symm.trans hsame))
        exact nomatch hclosed.trans hactive
      refine iff_of_true hchanged (htendable.mpr ?_)
      lia

theorem wp_bumpSandboxActivity_record (s : SandboxSession) (endTime : Time) (c : Cluster) :
    (bumpSandboxActivity s endTime).wp Step (fun _ _ => True)
      (fun _ _ c' => c'.find? .sandboxSession s.key = c.find? .sandboxSession s.key ∧
        c'.clock = c.clock) () c := by
  refine wp_bind.mpr (wp_getOptional.mpr ⟨trivial, ?_⟩)
  cases c.find? .sandbox (sandboxKey s) with
  | none => exact ⟨rfl, rfl⟩
  | some sb =>
    refine wp_ite (fun _ => ?_) fun _ => ⟨rfl, rfl⟩
    refine wp_patchStatusIfPresent.mpr ⟨trivial, fun _ => ⟨rfl, rfl⟩, fun old _ => ⟨?_, rfl⟩⟩
    exact find?_write_ne c .sandbox _ (by simp)

theorem wp_reconcileClosed_tended (hs : c.find? .sandboxSession s.key = some s) (hkept : Kept s)
    (hclosed : s.status.state = .closed) :
    (reconcileClosed s).wp Step (fun _ _ => True)
      (fun result _ c' => Tended s c.clock result c' ↔ Tendable s c.clock) () c := by
  obtain ⟨endTime, hend⟩ := hkept.status.closed hclosed
  have hdue : due s = some (endTime + closedSessionRetention) := by
    rw [due, hclosed, hend]
    rfl
  have htendable : Tendable s c.clock ↔
      closedSessionRetention - timeSub c.clock endTime < 2 ^ 63 := by
    rw [Tendable, hclosed, hend]
    simp
  unfold reconcileClosed
  rw [hend]
  refine wp_bind.mpr (wp_post (wp_bumpSandboxActivity_record s _ c) ?_)
  rintro ⟨⟩ ⟨⟩ c₁ ⟨hsame, hclock⟩
  rw [hs] at hsame
  refine wp_bind.mpr (wp_now.mpr ⟨trivial, ?_⟩)
  rw [hclock]
  refine wp_ite (fun hold => ?_) fun hyoung => ?_
  · refine wp_bind.mpr (wp_deleteIfPresent.mpr ⟨trivial, ?_⟩)
    have hgone :
        (c₁.dropped .sandboxSession s.key "session").find? .sandboxSession s.key = none := by
      rw [dropped, hsame]
      simp [deleted, hkept.live, hkept.finalizers, KindInfo.graceful]
    refine iff_of_true (Or.inl ?_) (htendable.mpr ?_)
    · rw [hgone]
      intro hsome
      cases hsome
    · lia
  · rw [wp_pure, htendable, tended_delay_iff hsame (by constructor <;> decide)
      (Int.le_of_lt (Int.not_le.mp hyoung)) hdue (Int.le_refl _)]
    exact and_iff_right (Int.ne_of_lt (Int.not_le.mp hyoung))

/-- A pass without error over a record that is kept. -/
theorem wp_reconcile_tended {key : ObjectKey} (hs : c.find? .sandboxSession key = some s)
    (hkept : Kept s) :
    (SessionReconciler.reconcile key).wp Step (fun _ _ => True)
      (fun result _ c' => Tended s c.clock result c' ↔ Tendable s c.clock) () c := by
  obtain rfl := key_of_find? hs
  refine wp_bind.mpr (wp_getOptional.mpr ⟨trivial, ?_⟩)
  rw [hs]
  dsimp only
  cases hstate : s.status.state with
  | unset =>
    refine (tended_iff_of_same hs).trans (iff_of_false ?_ ?_)
    · rintro ⟨_, hdue, -⟩
      rw [due, hstate] at hdue
      cases hdue
    · rw [Tendable, hstate]
      exact id
  | active =>
    obtain ⟨last, hlast, hstamp⟩ := hkept.status.active hstate
    refine wp_reconcileActive_tended hs hstate ?_
    rw [lastSeen, hlast]
    exact Int.ne_of_gt hstamp
  | closed => exact wp_reconcileClosed_tended hs hkept hstate

end Pass

/-- The state with a clock that reads `t`. -/
def readingClock (c : Cluster) (t : Time) : Cluster :=
  { c with clock := t }

/-- No record is forgotten that is `Tendable` : in every state the parties reach, and by every
clock, a pass without error does something about the record or comes back to it before it is
due. -/
theorem record_tended_iff {c c' : Cluster} (hc : RecordReached c) {key : ObjectKey}
    {s : SandboxSession} (hs : c.find? .sandboxSession key = some s) (t : Time)
    {tr : List (Call × Cluster)} {result : Result}
    (h : (SessionReconciler.reconcile key ()).Exec Step (readingClock c t) tr (.ok result, ()) c') :
    Tended s t result c' ↔ Tendable s t := by
  have hread : (readingClock c t).find? .sandboxSession key = some s := hs
  exact (h.wp (wp_reconcile_tended hread (hc.allKept.records key s hs))).2

/-! ## Records that are forgotten -/

namespace Team

/-- The team's namespace without a session, at the epoch. -/
def noSessions : Cluster :=
  .ofObjects (fun
    | .namespace => [⟨{ name := "team" }, (), ()⟩]
    | _ => []) 0

/-- The state after the record is created. -/
def unmarked : Cluster :=
  (handle (.create .sandboxSession opening) noSessions).2

/-- The state after the session is open. -/
def opened : Cluster :=
  ((SessionThread.body (.createSession opening)).run (Prog.present handle Op.isRead)
    (.start noSessions)).2.now

theorem noSessions_find (key : ObjectKey) : noSessions.find? .sandboxSession key = none := rfl

end Team

theorem recordStep_present (op : Call) {w : Timeline Cluster} (hw : w.past w.now) :
    RecordStep op w (Prog.present handle Op.isRead op w).1 (Prog.present handle Op.isRead op w).2 :=
  ⟨Prog.lagging_recalling step_handle Op.isRead op hw, trivial⟩

theorem recordStarts_opening (pool : SessionPool) :
    RecordStarts pool (.createSession Team.opening) := by
  rintro s ⟨⟩
  rfl

theorem reached_opened : RecordReached Team.opened := by
  obtain ⟨tr, hexec⟩ := Prog.exec_present (K := RecordStep)
    (fun op w hw => recordStep_present op hw) (SessionThread.body (.createSession Team.opening))
    (w := .start Team.noSessions) rfl
  have hrun : Relation.ReflTransGen RecordRun ⟨.start Team.noSessions, []⟩ ⟨_, [(_, .pure _)]⟩ :=
    Pool.run_start (recordStarts_opening _) hexec
  exact RecordReached.run Team.noSessions_find (by decide) hrun

/-- The status update that is to mark the record Active fails. -/
theorem reached_unmarked : RecordReached Team.unmarked := by
  let created := handle (.create .sandboxSession Team.opening) Team.noSessions
  have hcreate : RecordStep (.create .sandboxSession Team.opening) (.start Team.noSessions)
      created.1 (Timeline.onto (.start Team.noSessions) created.2) :=
    ⟨⟨_, step_handle _ _, rfl⟩, trivial⟩
  have hnow : RecordStep .now (Timeline.onto (.start Team.noSessions) created.2) created.2.clock
      (Timeline.onto (Timeline.onto (.start Team.noSessions) created.2) created.2) :=
    ⟨⟨_, step_handle _ _, rfl⟩, trivial⟩
  have hstart : RecordRun ⟨.start Team.noSessions, []⟩
      ⟨.start Team.noSessions, [(.createSession Team.opening, _)]⟩ :=
    .start (recordStarts_opening _)
  have hfails : ∀ (o : SandboxSession) (w : Timeline Cluster),
      RecordStep (.updateStatus .sandboxSession o) w (.error .other) (w.onto w.now) := by
    intro o w
    exact ⟨⟨_, Or.inr ⟨.other, ApiError.isFault_other, rfl, Or.inl rfl⟩, rfl⟩, trivial⟩
  have hrun := (((Relation.ReflTransGen.single hstart).tail (PoolStep.last rfl hcreate)).tail
    (PoolStep.last rfl hnow)).tail (PoolStep.last rfl (hfails _ _))
  exact RecordReached.run Team.noSessions_find (by decide) hrun

/-- A pass that reports no delay and leaves the record as it is. -/
def Forgets (c : Cluster) (key : ObjectKey) (t : Time) : Prop :=
  ∃ s tr result c', c.find? .sandboxSession key = some s ∧
    (SessionReconciler.reconcile key ()).Exec Step (readingClock c t) tr (.ok result, ()) c' ∧
      result.requeueAfter = 0 ∧ ¬ Tended s t result c'

theorem forgets_of_not_tendable {c : Cluster} {key : ObjectKey} {s : SandboxSession} {t : Time}
    (hc : RecordReached c) (hs : c.find? .sandboxSession key = some s)
    (hrun : ((SessionReconciler.reconcile key ()).run handle (readingClock c t)).1 = (.ok {}, ()))
    (hnot : ¬ Tendable s t) : Forgets c key t := by
  have hexec := Prog.exec_run step_handle (SessionReconciler.reconcile key ()) (readingClock c t)
  rw [hrun] at hexec
  have hread : (readingClock c t).find? .sandboxSession key = some s := hs
  have htended := (hexec.wp (wp_reconcile_tended hread (hc.allKept.records key s hs))).2
  exact ⟨s, _, _, _, hs, hexec, rfl, fun h => hnot (htended.mp h)⟩

/-- A record whose status update failed, at any time; and a session that nobody refreshes, where the
controller looks at it three minutes later to the nanosecond. -/
theorem records_forgotten :
    (RecordReached Team.unmarked ∧ ∀ t, Forgets Team.unmarked Team.opening.key t) ∧
      RecordReached Team.opened ∧ Forgets Team.opened Team.opening.key (180 * second) := by
  refine ⟨⟨reached_unmarked, fun t => ?_⟩, reached_opened, ?_⟩
  · exact forgets_of_not_tendable reached_unmarked (s := Team.noSessions.versioned
      (Team.noSessions.created Team.opening)) rfl rfl id
  · obtain ⟨s, hs, hlast⟩ := (Option.any_eq_true _ _).mp (show (Team.opened.find? .sandboxSession
      Team.opening.key).any (fun s => s.status.state = .active ∧
        timeSub (180 * second) (lastSeen s) = heartbeatDeadline s) = true by decide +kernel)
    obtain ⟨hactive, hlast⟩ := of_decide_eq_true hlast
    refine forgets_of_not_tendable reached_opened hs (by decide +kernel) fun h => ?_
    rw [Tendable, hactive] at h
    exact h.1 hlast

/-- A minute after a session is opened, the controller comes back to it within two minutes. -/
theorem record_tended_opened : ∃ s tr c',
    RecordReached Team.opened ∧ Team.opened.find? .sandboxSession Team.opening.key = some s ∧
    (SessionReconciler.reconcile Team.opening.key ()).Exec Step
      (readingClock Team.opened (60 * second)) tr (.ok { requeueAfter := 120 * second }, ()) c' ∧
    Tended s (60 * second) { requeueAfter := 120 * second } c' := by
  obtain ⟨s, hs, hlast⟩ := (Option.any_eq_true _ _).mp (show (Team.opened.find? .sandboxSession
    Team.opening.key).any (fun s => s.status.state = .active ∧ lastSeen s = 0 ∧
      heartbeatDeadline s = 180 * second) = true by decide +kernel)
  obtain ⟨hactive, hlast, hdeadline⟩ := of_decide_eq_true hlast
  have hexec := Prog.exec_run step_handle (SessionReconciler.reconcile Team.opening.key ())
    (readingClock Team.opened (60 * second))
  have hrun : ((SessionReconciler.reconcile Team.opening.key ()).run handle
      (readingClock Team.opened (60 * second))).1 = (.ok { requeueAfter := 120 * second }, ()) := by
    decide +kernel
  rw [hrun] at hexec
  refine ⟨s, _, _, reached_opened, hs, hexec, (record_tended_iff reached_opened hs _ hexec).mpr ?_⟩
  rw [Tendable, hactive, hlast, hdeadline]
  show timeSub (60 * second) 0 ≠ 180 * second ∧ 180 * second - timeSub (60 * second) 0 < 2 ^ 63
  decide

end Kubepark

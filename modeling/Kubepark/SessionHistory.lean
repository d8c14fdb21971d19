import Kubepark.HeartbeatDeadline

/-!
# The life of a session record

Five parties write session records from reads of their own : the gateway creates a record, marks
it Active, refreshes and closes it, the session controller reaps it and deletes it in the end, and
the teardown of a sandbox closes it. Each call is a step, reads lag, and a status is written only
over the version it was worked out from. So a record moves only forward (`Forward`), as long as no
name is used again (`NeverReused`) : the deletion in the end names the record and not its version,
and `recycled_record_deleted` is a run in which it hits the next record of that name.

`SessionOp` says which calls the parties make and what they know then. `SessionOp.rely` derives
what every call does from that, and `Prog.Pool.run_safe` what any number of them do together.
-/

namespace Kubepark

open ApiServer Client SessionReconciler Routine

open Prog (Timeline lagging recalling Pool PoolStep)

/-! ## Forward -/

/-- One step in the life of a record. -/
structure Moves (s s' : SandboxSession) : Prop where
  state : s'.status.state = s.status.state ∨
    (s.status.state = .unset ∧ s'.status.state = .active) ∨
    (s.status.state = .active ∧ s'.status.state = .closed)
  final : s.status.state = .closed → s'.status.state = .closed ∧
    s'.status.endTime = s.status.endTime ∧ s'.status.exitReason = s.status.exitReason

theorem moves_of_status_eq {s s' : SandboxSession} (h : s'.status = s.status) : Moves s s' := by
  refine ⟨Or.inl (by rw [h]), fun hclosed => ?_⟩
  rw [h]
  exact ⟨hclosed, rfl, rfl⟩

/-- Records go from no state to Active to Closed to deleted. -/
structure Forward (c c' : Cluster) : Prop where
  created : ∀ key s', c.find? .sandboxSession key = none →
    c'.find? .sandboxSession key = some s' → s'.status.state = .unset
  moved : ∀ key s s', c.find? .sandboxSession key = some s →
    c'.find? .sandboxSession key = some s' → Moves s s'
  deleted : ∀ key s, c.find? .sandboxSession key = some s → c'.find? .sandboxSession key = none →
    s.status.state = .closed ∧ ∃ endTime, s.status.endTime = some endTime ∧
      closedSessionRetention ≤ c.clock - endTime

theorem forward_of_same {c c' : Cluster}
    (h : ∀ key, c'.find? .sandboxSession key = c.find? .sandboxSession key) : Forward c c' where
  created key s' hnone hs' := nomatch (hnone.symm.trans (h key).symm).trans hs'
  moved key s s' hs hs' := by
    obtain rfl : s = s' := Option.some.inj (hs.symm.trans ((h key).symm.trans hs'))
    exact moves_of_status_eq rfl
  deleted key s hs hnone := nomatch hs.symm.trans ((h key).symm.trans hnone)

theorem forward_write {c : Cluster} {old new : SandboxSession}
    (hold : c.find? .sandboxSession old.key = some old) (hkey : new.key = old.key)
    (hmoves : Moves old { new with metadata.resourceVersion := c.revision + 1 }) :
    Forward c (c.write .sandboxSession new) := by
  have hself : (c.write .sandboxSession new).find? .sandboxSession old.key =
      some { new with metadata.resourceVersion := c.revision + 1 } := by
    rw [← hkey]
    exact find?_write_self c .sandboxSession new
  have hothers : ∀ key, key ≠ old.key →
      (c.write .sandboxSession new).find? .sandboxSession key = c.find? .sandboxSession key := by
    intro key hne
    exact find?_write_ne c .sandboxSession new fun h => hne ((Prod.mk.inj h).2.trans hkey)
  refine ⟨fun key s' hnone hs' => ?_, fun key s s' hs hs' => ?_, fun key s hs hnone => ?_⟩ <;>
    by_cases hne : key = old.key
  · subst hne
    exact nomatch hnone.symm.trans hold
  · rw [hothers key hne] at hs'
    exact nomatch hnone.symm.trans hs'
  · subst hne
    obtain rfl := Option.some.inj (hold.symm.trans hs)
    obtain rfl := Option.some.inj (hself.symm.trans hs')
    exact hmoves
  · rw [hothers key hne] at hs'
    obtain rfl := Option.some.inj (hs.symm.trans hs')
    exact moves_of_status_eq rfl
  · subst hne
    exact nomatch hself.symm.trans hnone
  · rw [hothers key hne] at hnone
    exact nomatch hs.symm.trans hnone

theorem forward_remove {c : Cluster} {old : SandboxSession} {endTime : Time}
    (hold : c.find? .sandboxSession old.key = some old) (hclosed : old.status.state = .closed)
    (hend : old.status.endTime = some endTime) (hage : closedSessionRetention ≤ c.clock - endTime) :
    Forward c (c.remove .sandboxSession old.key) := by
  refine ⟨fun key s' hnone hs' => ?_, fun key s s' hs hs' => ?_, fun key s hs hnone => ?_⟩
  · exact nomatch hnone.symm.trans (find?_of_remove c _ _ hs')
  · obtain rfl := Option.some.inj (hs.symm.trans (find?_of_remove c _ _ hs'))
    exact moves_of_status_eq rfl
  · by_cases hne : key = old.key
    · subst hne
      obtain rfl := Option.some.inj (hold.symm.trans hs)
      exact ⟨hclosed, endTime, hend, hage⟩
    · rw [find?_remove_ne c _ _ fun h => hne (Prod.mk.inj h).2] at hnone
      exact nomatch hs.symm.trans hnone

/-- A record is created under a name that no record ever had. -/
def NeverReused (w : Timeline Cluster) (c' : Cluster) : Prop :=
  ∀ key s', w.now.find? .sandboxSession key = none → c'.find? .sandboxSession key = some s' →
    ∀ c₀, w.past c₀ → c₀.find? .sandboxSession key = none

/-! ## What is known of a record later on -/

def SessionState.stage : SessionState → Nat
  | .unset => 0
  | .active => 1
  | .closed => 2

/-- `s` is the record that `s₀` was, at some later time. -/
structure Descends (s₀ s : SandboxSession) : Prop where
  stage : s₀.status.state.stage ≤ s.status.state.stage
  final : s₀.status.state = .closed → s.status.state = .closed ∧
    s.status.endTime = s₀.status.endTime ∧ s.status.exitReason = s₀.status.exitReason

theorem Descends.refl (s : SandboxSession) : Descends s s :=
  ⟨Nat.le_refl _, fun h => ⟨h, rfl, rfl⟩⟩

theorem Descends.moves {s₀ s s' : SandboxSession} (h : Descends s₀ s) (hmoves : Moves s s') :
    Descends s₀ s' := by
  refine ⟨Nat.le_trans h.stage ?_, fun hclosed => ?_⟩
  · rcases hmoves.state with hsame | ⟨hs, hs'⟩ | ⟨hs, hs'⟩
    · exact Nat.le_of_eq (by rw [hsame])
    · simp [hs, hs', SessionState.stage]
    · simp [hs, hs', SessionState.stage]
  · obtain ⟨hstate, hend, hreason⟩ := h.final hclosed
    obtain ⟨hstate', hend', hreason'⟩ := hmoves.final hstate
    exact ⟨hstate', hend'.trans hend, hreason'.trans hreason⟩

/-- Records descend from what was stored under their name. -/
structure Lineage (w : Timeline Cluster) : Prop where
  coherent : Coherent w
  descends : ∀ c₀, w.past c₀ → ∀ key s₀ s, c₀.find? .sandboxSession key = some s₀ →
    w.now.find? .sandboxSession key = some s → Descends s₀ s

theorem lineage_start {c : Cluster} (hc : c.Versioned) : Lineage (.start c) where
  coherent := coherent_start hc
  descends := by
    rintro c₀ rfl key s₀ s hs₀ hs
    obtain rfl := Option.some.inj (hs₀.symm.trans hs)
    exact .refl _

/-- What the parties do, and may rely on the others to do. -/
def Advance (w w' : Timeline Cluster) : Prop :=
  ∃ c', w' = w.onto c' ∧ Later w.now c' ∧ Forward w.now c' ∧ NeverReused w c'

theorem Advance.since {w w' : Timeline Cluster} (h : Advance w w') : Since w w' := by
  obtain ⟨c', rfl, hlater, -⟩ := h
  exact .onto hlater

theorem Lineage.advance {w w' : Timeline Cluster} (hw : Lineage w) (h : Advance w w') :
    Lineage w' := by
  refine ⟨h.since.coherent hw.coherent, ?_⟩
  obtain ⟨c', rfl, -, hforward, hnames⟩ := h
  rintro c₀ (hc₀ | rfl) key s₀ s hs₀ hs
  · cases hnow : w.now.find? .sandboxSession key with
    | none => exact nomatch (hnames key s hnow hs c₀ hc₀).symm.trans hs₀
    | some s₁ => exact (hw.descends c₀ hc₀ key s₀ s₁ hs₀ hnow).moves (hforward.moved key s₁ s hnow hs)
  · obtain rfl := Option.some.inj (hs₀.symm.trans hs)
    exact .refl _

theorem Lineage.advances {w w' : Timeline Cluster} (hw : Lineage w)
    (h : Relation.ReflTransGen Advance w w') : Lineage w' ∧ Since w w' := by
  induction h with
  | refl => exact ⟨hw, .refl _⟩
  | tail _ hstep ih => exact ⟨ih.1.advance hstep, ih.2.trans hstep.since⟩

/-! ## The calls -/

/-- A call of a party, with what it knows when it makes it. -/
inductive SessionOp (w : Timeline Cluster) : Call → Prop
  | other {op : Call} (h : ∀ key, op.target ≠ some (.sandboxSession, key)) : SessionOp w op
  | create (s : SandboxSession) : SessionOp w (.create .sandboxSession s)
  /-- A status that is worked out from a copy, and right if the copy is what is stored. -/
  | status (s : SandboxSession) (status : SandboxSessionStatus) (hseen : Seen w s)
    (hmoves : w.now.find? .sandboxSession s.key = some s → Moves s { s with status := status }) :
    SessionOp w (.updateStatus .sandboxSession { s with status := status })
  | delete (s : SandboxSession) (endTime : Time) (hseen : Seen w s)
    (hclosed : s.status.state = .closed) (hend : s.status.endTime = some endTime)
    (hold : closedSessionRetention ≤ w.now.clock - endTime) :
    SessionOp w (.delete .sandboxSession s.key "session")

section Calls

variable {w w' : Timeline Cluster} {op : Call} {a : Resp Spec Status op} {c' : Cluster}

theorem sessionOp_read (h : op.target = none) : SessionOp w op :=
  .other fun _ ht => nomatch h.symm.trans ht

/-- Every such call moves records forward. -/
theorem SessionOp.forward (hw : Lineage w) (hop : SessionOp w op) (hs : Step op w.now a c') :
    Forward w.now c' := by
  cases hop with
  | other h =>
    refine forward_of_same fun key => ?_
    exact hs.find? (h key)
  | create s =>
    refine ⟨fun key s' hnone hs' => ?_, fun key s₁ s' hs₁ hs' => ?_, fun key s₁ hs₁ hnone => ?_⟩
    · cases hs.written hs' with
      | kept hold => exact nomatch hnone.symm.trans hold
      | created o _ _ _ h =>
        subst h
        rfl
      | updated _ _ hop' | statusUpdated _ _ hop' | patched _ _ hop' | statusPatched _ _ hop'
      | terminated _ _ hop' => cases hop'
    · cases hs.written hs' with
      | kept hold =>
        obtain rfl := Option.some.inj (hs₁.symm.trans hold)
        exact moves_of_status_eq rfl
      | created o _ _ hnone => exact nomatch hs₁.symm.trans hnone
      | updated _ _ hop' | statusUpdated _ _ hop' | patched _ _ hop' | statusPatched _ _ hop'
      | terminated _ _ hop' => cases hop'
    · cases hs.gone hs₁ hnone with
      | deleted _ hop' | finalized _ hop' => cases hop'
  | status s status hseen hmoves =>
    rcases hs.updateStatus_cases with rfl | ⟨old, hold, hversion, rfl⟩
    · exact forward_of_same fun _ => rfl
    obtain rfl : old = s := hseen.same hw.coherent hold hversion
    have hstored : w.now.find? .sandboxSession old.key = some old := hold
    have hmoved := hmoves hstored
    have hwritten : Forward w.now (w.now.write .sandboxSession { old with status := status }) :=
      forward_write hstored rfl ⟨hmoved.state, hmoved.final⟩
    exact hwritten
  | delete s endTime hseen hclosed hend hage =>
    rcases hs.state with rfl | rfl
    · exact forward_of_same fun _ => rfl
    simp only [handle]
    cases hold : w.now.find? .sandboxSession s.key with
    | none => exact forward_of_same fun _ => rfl
    | some old =>
      -- What is stored under the name descends from the copy.
      obtain ⟨c₀, hc₀, hs₀⟩ := hseen
      obtain ⟨hstate, hend', -⟩ := (hw.descends c₀ hc₀ s.key s old hs₀ hold).final hclosed
      have hkey : old.key = s.key := key_of_find? hold
      show Forward w.now (deleted w.now .sandboxSession s.key "session" old)
      rw [← hkey] at hold ⊢
      unfold deleted
      split_ifs
      · exact forward_of_same fun _ => rfl
      · exact forward_write hold rfl (moves_of_status_eq rfl)
      · exact forward_remove hold hstate (hend'.trans hend) hage

/-- The handler of the parties : reads lag, and names are used as `Names` allows. -/
def SessionStep (Names : Timeline Cluster → Cluster → Prop) (op : Call) (w : Timeline Cluster)
    (a : Resp Spec Status op) (w' : Timeline Cluster) : Prop :=
  lagging Step Op.isRead op w a w' ∧ Names w w'.now

/-- What a call does that is made with that knowledge. -/
theorem SessionOp.rely (hw : Lineage w) (hop : SessionOp w op)
    (h : SessionStep NeverReused op w a w') : w' = w ∨ Advance w w' := by
  obtain ⟨h, hnames⟩ := h
  cases hread : op.isRead with
  | true => exact Or.inl (Prog.lagging_read hread h).1
  | false =>
    obtain ⟨c', hstep, rfl⟩ := Prog.lagging_write hread h
    exact Or.inr ⟨c', rfl, hstep.later, hop.forward hw hstep, hnames⟩

end Calls

/-! ## The parties -/

/-- A party's call, and then what the others do. -/
def SharedStep (op : Call) (w : Timeline Cluster) (a : Resp Spec Status op) (w' : Timeline Cluster) :
    Prop :=
  Prog.interleaved (SessionStep NeverReused) Advance op w a w'

/-- A call that is made with the knowledge of `SessionOp`, in a state with a lineage. -/
def Known (op : Call) (w : Timeline Cluster) : Prop :=
  Lineage w ∧ SessionOp w op

section Shared

variable {w w' : Timeline Cluster} {op : Call} {a : Resp Spec Status op} {key : ObjectKey}

theorem Known.after (h : Known op w) (ha : SharedStep op w a w') : Lineage w' ∧ Since w w' := by
  obtain ⟨w₁, hstep, hsteps⟩ := ha
  rcases h.2.rely h.1 hstep with rfl | hadvance
  · exact h.1.advances hsteps
  · obtain ⟨hw', hsince⟩ := (h.1.advance hadvance).advances hsteps
    exact ⟨hw', hadvance.since.trans hsince⟩

theorem known_read (hw : Lineage w) (h : op.target = none) : Known op w :=
  ⟨hw, sessionOp_read h⟩

/-- What is known after the others have moved on. -/
theorem seen_after {s : SandboxSession} {w₁ : Timeline Cluster} (hw : Lineage w₁) (hseen : Seen w₁ s)
    (hsteps : Relation.ReflTransGen Advance w₁ w') : Seen w' s :=
  (hw.advances hsteps).2.seen hseen

theorem shared_get {s : SandboxSession} (hw : Lineage w)
    (h : SharedStep (.get .sandboxSession key) w (.ok s) w') :
    Lineage w' ∧ s.key = key ∧ Seen w' s := by
  have hw' := ((known_read hw rfl).after h).1
  obtain ⟨w₁, ⟨hget, -⟩, hsteps⟩ := h
  obtain ⟨rfl, hkey, hseen⟩ := seen_of_get hget
  exact ⟨hw', hkey, seen_after hw hseen hsteps⟩

theorem shared_list {selector : SandboxSession → Bool} {l : List SandboxSession} (hw : Lineage w)
    (h : SharedStep (.list .sandboxSession selector) w (.ok l) w') :
    Lineage w' ∧ ∀ s ∈ l, Seen w' s := by
  have hw' := ((known_read hw rfl).after h).1
  obtain ⟨w₁, ⟨hlist, -⟩, hsteps⟩ := h
  obtain ⟨rfl, hseen⟩ := seen_of_list hlist
  exact ⟨hw', fun s hs => seen_after hw (hseen s hs) hsteps⟩

theorem shared_now {t : Time} (hw : Lineage w) (h : SharedStep .now w t w') :
    Lineage w' ∧ Since w w' ∧ t ≤ w'.now.clock := by
  obtain ⟨hw', hsince⟩ := (known_read hw rfl).after h
  refine ⟨hw', hsince, ?_⟩
  obtain ⟨w₁, ⟨hnow, -⟩, -⟩ := h
  obtain ⟨c', hstep, -⟩ := Prog.lagging_write rfl hnow
  have ht : t = w.now.clock := by
    rcases hstep with ⟨ht, -⟩ | ⟨e, -, hf, -⟩
    · exact ht
    · exact hf.elim
  rw [ht]
  exact hsince.clock

theorem shared_create {s s' : SandboxSession} (hw : Lineage w)
    (h : SharedStep (.create .sandboxSession s) w (.ok s') w') :
    Lineage w' ∧ s'.key = s.key ∧ s'.status.state = .unset ∧ Seen w' s' := by
  have hw' := (Known.after ⟨hw, .create s⟩ h).1
  obtain ⟨w₁, hcreate, hsteps⟩ := h
  obtain ⟨rfl, hseen⟩ := seen_of_create hcreate.1
  refine ⟨hw', rfl, rfl, ?_⟩
  rcases (SessionOp.create s).rely hw hcreate with rfl | hadvance
  · exact seen_after hw hseen hsteps
  · exact seen_after (hw.advance hadvance) hseen hsteps

/-- Some record of that name got a state. -/
def HadState (key : ObjectKey) (w : Timeline Cluster) : Prop :=
  ∃ c₀ s₀, w.past c₀ ∧ c₀.find? .sandboxSession key = some s₀ ∧ s₀.status.state ≠ .unset

theorem HadState.since (h : HadState key w) (hsince : Since w w') : HadState key w' := by
  obtain ⟨c₀, s₀, hc₀, hs₀⟩ := h
  exact ⟨c₀, s₀, hsince.past c₀ hc₀, hs₀⟩

/-- What is stored under such a name has a state. -/
theorem HadState.stored {s : SandboxSession} (h : HadState key w) (hw : Lineage w)
    (hs : w.now.find? .sandboxSession key = some s) : s.status.state ≠ .unset := by
  obtain ⟨c₀, s₀, hc₀, hs₀, hstate⟩ := h
  have hstage := (hw.descends c₀ hc₀ key s₀ s hs₀ hs).stage
  intro hunset
  rw [hunset] at hstage
  cases h₀ : s₀.status.state with
  | unset => exact hstate h₀
  | active | closed => simp [h₀, SessionState.stage] at hstage

theorem shared_updateStatus {o s' : SandboxSession} (hop : Known (.updateStatus .sandboxSession o) w)
    (hstate : o.status.state ≠ .unset)
    (h : SharedStep (.updateStatus .sandboxSession o) w (.ok s') w') : HadState o.key w' := by
  obtain ⟨w₁, hupdate, hsteps⟩ := h
  have hw₁ : Lineage w₁ := by
    rcases hop.2.rely hop.1 hupdate with rfl | hadvance
    · exact hop.1
    · exact hop.1.advance hadvance
  obtain ⟨c', hstep, rfl⟩ := Prog.lagging_write rfl hupdate.1
  obtain ⟨old, hold, -, rfl⟩ := hstep.updateStatus_ok
  have hkey : old.key = o.key := key_of_find? hold
  refine HadState.since ⟨_, w.now.versioned { old with status := o.status }, Or.inr rfl, ?_, hstate⟩
    (hw₁.advances hsteps).2
  rw [← hkey]
  exact find?_write_self w.now .sandboxSession { old with status := o.status }

/-! What each party does. -/

variable {s : SandboxSession}

theorem wp_createSession (hw : Lineage w) (s : SandboxSession) :
    (Gateway.createSession s : ClientM Unit Unit).wp SharedStep Known
      (fun _ _ w' => HadState s.key w') () w := by
  refine wp_bind.mpr (wp_create_of ⟨hw, .create s⟩ fun s₁ w₁ hcreate => ?_)
  obtain ⟨hw₁, hkey, hunset, hseen⟩ := shared_create hw hcreate
  refine wp_bind.mpr (wp_lift.mpr
    ⟨known_read hw₁ rfl, fun t w₂ hnow => ?_⟩)
  obtain ⟨hw₂, hsince, -⟩ := shared_now hw₁ hnow
  have hknown : Known (.updateStatus .sandboxSession { s₁ with
      status := { s₁.status with
        state := .active, startTime := some t, lastActivityTime := some t } }) w₂ := by
    refine ⟨hw₂, .status s₁ _ (hsince.seen hseen) fun _ => ?_⟩
    exact ⟨Or.inr (Or.inl ⟨hunset, rfl⟩), fun hclosed => nomatch hunset.symm.trans hclosed⟩
  refine wp_bind.mpr (wp_updateStatus_of hknown fun s' w₃ hupdate => ?_)
  have hstated := shared_updateStatus hknown (by simp) hupdate
  rw [wp_pure, ← hkey]
  exact hstated

theorem always_heartbeat (hw : Lineage w) (namespaceName name : String) :
    (Gateway.heartbeat namespaceName name : ClientM Unit Unit).Always SharedStep Known () w := by
  refine wp_bind.mpr (wp_get_of (known_read hw rfl) fun s w₁ hget => ?_)
  obtain ⟨hw₁, -, hseen⟩ := shared_get hw hget
  refine wp_ite (fun _ => trivial) fun hactive => ?_
  refine wp_bind.mpr (wp_lift.mpr
    ⟨known_read hw₁ rfl, fun t w₂ hnow => ?_⟩)
  obtain ⟨hw₂, hsince, -⟩ := shared_now hw₁ hnow
  refine wp_bind.mpr (wp_updateStatus_of ?_ fun _ _ _ => trivial)
  refine ⟨hw₂, .status s _ (hsince.seen hseen) fun _ => ⟨Or.inl rfl, fun hclosed => ?_⟩⟩
  exact absurd hclosed (by simp [not_not.mp hactive])

/-- The gateway closes a session that it has marked, so the copy it closes over is stale or has a
state. -/
theorem always_closeSession (hw : Lineage w) {namespaceName name : String} (reason : ExitReason)
    (hstated : HadState ⟨namespaceName, name⟩ w) :
    (Gateway.closeSession namespaceName name reason : ClientM Unit Unit).Always
      SharedStep Known () w := by
  refine wp_bind.mpr (wp_get_of (known_read hw rfl) fun s w₁ hget => ?_)
  have hsince₁ := ((known_read hw rfl).after hget).2
  obtain ⟨hw₁, hkey, hseen⟩ := shared_get hw hget
  refine wp_ite (fun _ => trivial) fun hopen => ?_
  refine wp_bind.mpr (wp_lift.mpr
    ⟨known_read hw₁ rfl, fun t w₂ hnow => ?_⟩)
  obtain ⟨hw₂, hsince, -⟩ := shared_now hw₁ hnow
  refine wp_bind.mpr (wp_updateStatus_of ?_ fun _ _ _ => trivial)
  refine ⟨hw₂, .status s _ (hsince.seen hseen) fun hstored => ?_⟩
  rw [hkey] at hstored
  have hstate := (hstated.since (hsince₁.trans hsince)).stored hw₂ hstored
  cases hs : s.status.state with
  | unset => exact absurd hs hstate
  | closed => exact absurd hs hopen
  | active => exact ⟨Or.inr (Or.inr ⟨hs, rfl⟩), fun hclosed => nomatch hs.symm.trans hclosed⟩

theorem always_reconcileActive (hw : Lineage w) (hseen : Seen w s)
    (hactive : s.status.state = .active) : (reconcileActive s).Always SharedStep Known () w := by
  refine wp_ite (fun _ => trivial) fun _ => ?_
  refine wp_bind.mpr (wp_lift.mpr
    ⟨known_read hw rfl, fun t w₁ hnow => ?_⟩)
  obtain ⟨hw₁, hsince, -⟩ := shared_now hw hnow
  refine wp_ite (fun _ => trivial) fun _ => ?_
  refine wp_bind.mpr (wp_updateStatusIfPresent_of ?_ fun _ _ _ _ => trivial)
  refine ⟨hw₁, .status s _ (hsince.seen hseen) fun _ => ?_⟩
  exact ⟨Or.inr (Or.inr ⟨hactive, rfl⟩), fun hclosed => nomatch hactive.symm.trans hclosed⟩

theorem wp_bumpSandboxActivity_shared (hw : Lineage w) (s : SandboxSession) (endTime : Time) :
    (bumpSandboxActivity s endTime).wp SharedStep Known
      (fun _ _ w' => Lineage w' ∧ Since w w') () w := by
  refine wp_bind.mpr (wp_getOptional_of (known_read hw rfl)
    (fun sb w₁ hget => ?_) fun a w₁ hget => (known_read hw rfl).after hget)
  obtain ⟨hw₁, hsince₁⟩ := (known_read hw rfl).after hget
  refine wp_ite (fun _ => ?_) fun _ => ⟨hw₁, hsince₁⟩
  have hknown : Known (.patchStatus .sandbox sb.key fun st =>
      { st with lastActivityTime := some endTime }) w₁ := ⟨hw₁, .other fun key => nofun⟩
  refine wp_patchStatusIfPresent_of hknown fun a w₂ hpatch => ?_
  obtain ⟨hw₂, hsince₂⟩ := hknown.after hpatch
  exact ⟨hw₂, hsince₁.trans hsince₂⟩

theorem always_reconcileClosed (hw : Lineage w) (hseen : Seen w s)
    (hclosed : s.status.state = .closed) : (reconcileClosed s).Always SharedStep Known () w := by
  unfold reconcileClosed
  cases hend : s.status.endTime with
  | none => trivial
  | some endTime =>
    refine wp_bind.mpr (wp_post
      (wp_bumpSandboxActivity_shared hw s endTime) ?_)
    rintro ⟨⟩ _ w₁ ⟨hw₁, hsince₁⟩
    refine wp_bind.mpr (wp_lift.mpr
      ⟨known_read hw₁ rfl, fun t w₂ hnow => ?_⟩)
    obtain ⟨hw₂, hsince₂, ht⟩ := shared_now hw₁ hnow
    refine wp_ite (fun hold => ?_) fun _ => trivial
    refine wp_bind.mpr (wp_deleteIfPresent_of ?_ fun _ _ _ => trivial)
    refine ⟨hw₂, .delete s endTime ((hsince₁.trans hsince₂).seen hseen) hclosed hend ?_⟩
    exact Int.le_trans (closedSessionRetention_le_timeSub.mp hold) (Int.sub_le_sub_right ht endTime)

theorem always_reconcile (hw : Lineage w) (key : ObjectKey) :
    (SessionReconciler.reconcile key).Always SharedStep Known () w := by
  refine wp_bind.mpr (wp_getOptional_of (known_read hw rfl)
    (fun s w₁ hget => ?_) fun _ _ _ => trivial)
  obtain ⟨hw₁, -, hseen⟩ := shared_get hw hget
  dsimp only
  cases hstate : s.status.state with
  | unset => trivial
  | active => exact always_reconcileActive hw₁ hseen hstate
  | closed => exact always_reconcileClosed hw₁ hseen hstate

/-- The teardown of a sandbox works through a list of copies. -/
theorem always_closeSessions (hw : Lineage w) (sb : Sandbox) :
    (SandboxReconciler.closeSessions sb : ClientM Unit Unit).Always SharedStep Known () w := by
  refine wp_bind.mpr (wp_list_of (known_read hw rfl) fun l w₁ hlist => ?_)
  obtain ⟨hw₁, hseen⟩ := shared_list hw hlist
  refine wp_bind.mpr (wp_lift.mpr
    ⟨known_read hw₁ rfl, fun t w₂ hnow => ?_⟩)
  obtain ⟨hw₂, hsince, -⟩ := shared_now hw₁ hnow
  refine wp_post (wp_forEach (fun l _ w => Lineage w ∧ ∀ s ∈ l, Seen w s)
    ?_ l ⟨hw₂, fun s hs => hsince.seen (hseen s hs)⟩) fun _ _ _ _ => trivial
  rintro s rest st w ⟨hw, hl⟩
  obtain ⟨hs, hrest⟩ := List.forall_mem_cons.mp hl
  refine wp_ite (fun _ => ⟨hw, hrest⟩) fun hopen => ?_
  have hactive : s.status.state = .active := not_not.mp (not_or.mp hopen).2
  have hknown : Known (.updateStatus .sandboxSession { s with
      status := { s.status with
        state := .closed, endTime := some t, exitReason := .sandboxDeleted } }) w := by
    refine ⟨hw, .status s _ hs fun _ => ⟨Or.inr (Or.inr ⟨hactive, rfl⟩), fun hclosed => ?_⟩⟩
    exact nomatch hactive.symm.trans hclosed
  refine wp_bind.mpr (wp_updateStatusIfPresent_of hknown fun a w' h _ => ?_)
  obtain ⟨hw', hsince'⟩ := hknown.after h
  exact ⟨hw', fun s' hs' => hsince'.seen (hrest s' hs')⟩

end Shared

/-! ## All of them together -/

/-- What the parties run. -/
inductive SessionThread
  | createSession (s : SandboxSession)
  | heartbeat (namespaceName name : String)
  | closeSession (namespaceName name : String) (reason : ExitReason)
  | reconcile (key : ObjectKey)
  | closeSessions (sb : Sandbox)

/-- A routine, and whether it ended without error. -/
def succeeded {α : Type} (x : ClientM Unit α) : Prog Call (Resp Spec Status) Bool :=
  (x ()).bind fun r => .pure r.1.isOk

def SessionThread.body : SessionThread → Prog Call (Resp Spec Status) Bool
  | .createSession s => succeeded (Gateway.createSession s)
  | .heartbeat namespaceName name => succeeded (Gateway.heartbeat namespaceName name)
  | .closeSession namespaceName name reason =>
    succeeded (Gateway.closeSession namespaceName name reason)
  | .reconcile key => succeeded (SessionReconciler.reconcile key)
  | .closeSessions sb => succeeded (SandboxReconciler.closeSessions sb)

abbrev SessionPool := Pool Call (Resp Spec Status) (Timeline Cluster) SessionThread Bool

/-- The gateway refreshes and closes the sessions it has created : `openSession` returns a closer
that does nothing, and starts no heartbeat, when `CreateSession` failed. -/
inductive Starts (pool : SessionPool) : SessionThread → Prop
  | createSession (s : SandboxSession) : Starts pool (.createSession s)
  | heartbeat (s : SandboxSession) (h : (.createSession s, .pure true) ∈ pool.threads) :
    Starts pool (.heartbeat s.key.namespaceName s.key.name)
  | closeSession (s : SandboxSession) (reason : ExitReason)
    (h : (.createSession s, .pure true) ∈ pool.threads) :
    Starts pool (.closeSession s.key.namespaceName s.key.name reason)
  | reconcile (key : ObjectKey) : Starts pool (.reconcile key)
  | closeSessions (sb : Sandbox) : Starts pool (.closeSessions sb)

/-- Time passes, and other objects change. -/
def OtherObjects (c c' : Cluster) : Prop :=
  Later c c' ∧ ∀ key, c'.find? .sandboxSession key = c.find? .sandboxSession key

/-- A step of all of them. -/
def SessionRun (Names : Timeline Cluster → Cluster → Prop) (pool pool' : SessionPool) : Prop :=
  PoolStep (SessionStep Names) SessionThread.body Starts (Elapses OtherObjects) pool pool'

/-- What is known when a party is done. -/
def SessionThread.Done : SessionThread → Bool → Timeline Cluster → Prop
  | .createSession s, true, w => HadState s.key w
  | _, _, _ => True

section Together

variable {w : Timeline Cluster} {pool pool' : SessionPool}

theorem safe_succeeded {α : Type} {x : ClientM Unit α} {Q : Bool → Timeline Cluster → Prop}
    (hw : Lineage w) (herror : ∀ w', Q false w')
    (hx : ∀ w', Lineage w' → Since w w' → x.wp SharedStep Known (fun _ _ w' => Q true w') () w') :
    (succeeded x).Safe (SessionStep NeverReused) Advance Q w := by
  intro w' hsteps
  obtain ⟨hw', hsince⟩ := hw.advances hsteps
  refine Prog.wp_bind.mpr (Prog.wp_mono (hx w' hw' hsince) ?_ ?_)
  · exact fun op w₁ hop a w₂ ha => hop.2.rely hop.1 ha
  · rintro ⟨r, st⟩ w₁ hr
    cases r with
    | ok a => exact hr
    | error e => exact herror w₁

theorem safe_start {l : SessionThread}
    (h : pool.Safe (SessionStep NeverReused) Advance Lineage SessionThread.Done)
    (hl : Starts pool l) :
    l.body.Safe (SessionStep NeverReused) Advance l.Done pool.state := by
  have hw := h.state
  cases hl with
  | createSession s =>
    refine safe_succeeded hw (fun _ => trivial) fun w' hw' _ => ?_
    exact wp_createSession hw' s
  | heartbeat s hs =>
    exact safe_succeeded hw (fun _ => trivial) fun w' hw' _ => always_heartbeat hw' _ _
  | closeSession s reason hs =>
    have hstated : HadState s.key pool.state := h.result hs
    exact safe_succeeded hw (fun _ => trivial) fun w' hw' hsince =>
      always_closeSession hw' reason (hstated.since hsince)
  | reconcile key =>
    exact safe_succeeded hw (fun _ => trivial) fun w' hw' _ => always_reconcile hw' key
  | closeSessions sb =>
    exact safe_succeeded hw (fun _ => trivial) fun w' hw' _ => always_closeSessions hw' sb

theorem advance_otherObjects {w w' : Timeline Cluster} (h : Elapses OtherObjects w w') :
    Advance w w' := by
  obtain ⟨c', ⟨hlater, hsame⟩, rfl⟩ := h
  refine ⟨c', rfl, hlater, forward_of_same hsame, fun key s' hnone hs' => ?_⟩
  exact nomatch hnone.symm.trans ((hsame key).symm.trans hs')

/-- Every party of the pool plays by the rules. -/
def Orderly (pool : SessionPool) : Prop :=
  pool.Safe (SessionStep NeverReused) Advance Lineage SessionThread.Done

theorem SessionRun.orderly (h : Orderly pool) (hstep : SessionRun NeverReused pool pool') :
    Orderly pool' ∧ (pool'.state = pool.state ∨ Advance pool.state pool'.state) := by
  refine PoolStep.safe (R := Advance) (I := Lineage) (Q := SessionThread.Done) ?_ ?_ ?_ h hstep
  · exact fun w w' hw hadvance => hw.advance hadvance
  · exact fun w w' _ helapses => Or.inr (advance_otherObjects helapses)
  · exact fun pool l hpool hl => safe_start hpool hl

theorem orderly_run {c : Cluster} (hc : c.Versioned)
    (hrun : Relation.ReflTransGen (SessionRun NeverReused) ⟨.start c, []⟩ pool) : Orderly pool := by
  induction hrun with
  | refl => exact ⟨lineage_start hc, fun _ ht => absurd ht List.not_mem_nil⟩
  | tail _ hstep ih => exact (hstep.orderly ih).1

end Together

/-- In every run of any number of the parties, from any state and with reads that lag, every step
moves records forward, and a record descends from whatever was stored under its name. -/
theorem session_records_forward {c : Cluster} (hc : c.Versioned) {pool pool' : SessionPool}
    (hrun : Relation.ReflTransGen (SessionRun NeverReused) ⟨.start c, []⟩ pool)
    (hstep : SessionRun NeverReused pool pool') :
    Forward pool.state.now pool'.state.now ∧ Lineage pool'.state := by
  obtain ⟨hsafe', hstate⟩ := hstep.orderly (orderly_run hc hrun)
  refine ⟨?_, hsafe'.state⟩
  rcases hstate with hsame | ⟨c', hc', -, hforward, -⟩
  · rw [hsame]
    exact forward_of_same fun _ => rfl
  · rw [hc']
    exact hforward

namespace Team

/-- The record of a session of Alice's that ended at the epoch. -/
def ended : SandboxSession :=
  { abandoned with
    status := { abandoned.status with
      state := .closed, endTime := some 0, exitReason := .disconnected } }

/-- The team's namespace and the record, a week later. -/
def aWeekOn : Cluster :=
  .ofObjects (fun
    | .namespace => [⟨{ name := "team" }, (), ()⟩]
    | .sandboxSession => [ended]
    | _ => []) closedSessionRetention

theorem versioned_aWeekOn : aWeekOn.Versioned := by
  refine versioned_ofObjects fun k => ?_
  cases k <;> simp [ended, abandoned, Gateway.buildSession]

/-- A session that is being opened. -/
def opening : SandboxSession :=
  Gateway.buildSession (sandbox .running {}) "1" "alice" "192.0.2.1" "1"

end Team

/-- The gateway creates a session beside the old one. -/
theorem session_opened_forward : ∃ pool pool' : SessionPool,
    Relation.ReflTransGen (SessionRun NeverReused) ⟨.start Team.aWeekOn, []⟩ pool ∧
    SessionRun NeverReused pool pool' ∧
    pool.state.now.find? .sandboxSession Team.opening.key = none ∧
    (pool'.state.now.find? .sandboxSession Team.opening.key).isSome = true ∧
    Forward pool.state.now pool'.state.now := by
  have hstart : SessionRun NeverReused ⟨.start Team.aWeekOn, []⟩
      ⟨.start Team.aWeekOn, [(.createSession Team.opening, _)]⟩ := .start (.createSession Team.opening)
  have hcreate : SessionStep NeverReused (.create .sandboxSession Team.opening)
      (.start Team.aWeekOn) (handle (.create .sandboxSession Team.opening) Team.aWeekOn).1
      (Timeline.onto (.start Team.aWeekOn)
        (handle (.create .sandboxSession Team.opening) Team.aWeekOn).2) := by
    refine ⟨⟨_, step_handle _ _, rfl⟩, fun key s' hnone _ c₀ hc₀ => ?_⟩
    obtain rfl : c₀ = Team.aWeekOn := hc₀
    exact hnone
  have hstep : SessionRun NeverReused _ ⟨_, [(.createSession Team.opening, _)]⟩ := PoolStep.last
    (show SessionThread.body (.createSession Team.opening) = _ from rfl) hcreate
  refine ⟨_, _, .single hstart, hstep, by decide +kernel, by decide +kernel, ?_⟩
  exact (session_records_forward Team.versioned_aWeekOn (.single hstart) hstep).1

/-- The state after a party has run that reads what was stored in `c`. -/
def recalled (c : Cluster) (l : SessionThread) (w : Timeline Cluster) : Timeline Cluster :=
  (l.body.run (recalling handle Op.isRead c) w).2

theorem run_recalled (pool : SessionPool) {l : SessionThread} (hl : Starts pool l) {c : Cluster}
    (hc : pool.state.past c) : (recalled c l pool.state).past c ∧
      ∃ ts, Relation.ReflTransGen (SessionRun fun _ _ => True) pool ⟨recalled c l pool.state, ts⟩ := by
  obtain ⟨t, hexec, hpast⟩ := Prog.exec_recalling (K := SessionStep fun _ _ => True)
    (fun op w hw => ⟨Prog.lagging_recalling step_handle Op.isRead op hw, trivial⟩) l.body hc
  exact ⟨hpast, _, Pool.run_start hl hexec⟩

/-- A collector that reads the record as it was comes to delete what has its name now. -/
theorem due_record_deleted {w : Timeline Cluster} (hpast : w.past Team.aWeekOn)
    (hclock : w.now.clock = closedSessionRetention)
    (ts : List (SessionThread × Prog Call (Resp Spec Status) Bool)) :
    ∃ pool pool' : SessionPool, Relation.ReflTransGen (SessionRun fun _ _ => True) ⟨w, ts⟩ pool ∧
      SessionRun (fun _ _ => True) pool pool' ∧ pool.state.now = w.now ∧
      pool'.state.now = (handle (.delete .sandboxSession Team.ended.key "session") w.now).2 := by
  have hread : ∀ (op : Call) a, op.isRead = true → (handle op Team.aWeekOn).1 = a →
      SessionStep (fun _ _ => True) op w a w := by
    rintro op _ hop rfl
    refine ⟨?_, trivial⟩
    rw [lagging, if_pos hop]
    exact ⟨rfl, Team.aWeekOn, _, hpast, step_handle op _⟩
  have hget := hread (.get .sandboxSession Team.ended.key) (.ok Team.ended) rfl rfl
  have hsandbox := hread (.get .sandbox (sandboxKey Team.ended)) (.error .notFound) rfl rfl
  have hnow : SessionStep (fun _ _ => True) .now w closedSessionRetention (w.onto w.now) :=
    ⟨⟨w.now, Or.inl ⟨hclock.symm, rfl⟩, rfl⟩, trivial⟩
  have hdelete : SessionStep (fun _ _ => True) (.delete .sandboxSession Team.ended.key "session")
      (w.onto w.now) _ _ := ⟨⟨_, step_handle _ _, rfl⟩, trivial⟩
  have hstart : SessionRun (fun _ _ => True) ⟨w, ts⟩ ⟨w, (.reconcile Team.ended.key, _) :: ts⟩ :=
    .start (.reconcile _)
  refine ⟨_, _, .head hstart (.head (PoolStep.last rfl hget) (.head (PoolStep.last rfl hsandbox)
    (.head (PoolStep.last rfl hnow) .refl))), PoolStep.last rfl hdelete, rfl, rfl⟩

namespace Team

/-- The record is collected, and a session is opened under its name. -/
def reopened : Timeline Cluster :=
  recalled aWeekOn (.createSession ended) (recalled aWeekOn (.reconcile ended.key) (.start aWeekOn))

end Team

/-- Two collectors read a record that is due. One deletes it, a session is opened under the same
name, and the other deletes that one while it is Active. -/
theorem recycled_record_deleted : ∃ (c : Cluster) (pool pool' : SessionPool), c.Versioned ∧
    Relation.ReflTransGen (SessionRun fun _ _ => True) ⟨.start c, []⟩ pool ∧
    SessionRun (fun _ _ => True) pool pool' ∧
    (pool.state.now.find? .sandboxSession Team.ended.key).map (·.status.state) = some .active ∧
    pool'.state.now.find? .sandboxSession Team.ended.key = none ∧
    ¬Forward pool.state.now pool'.state.now := by
  obtain ⟨hpast₁, ts₁, hcollect⟩ := run_recalled ⟨.start Team.aWeekOn, []⟩
    (.reconcile Team.ended.key) rfl
  obtain ⟨hpast₂, ts₂, hopen⟩ := run_recalled ⟨_, ts₁⟩ (.createSession Team.ended) hpast₁
  obtain ⟨pool, pool', hrun, hdelete, hnow, hgone⟩ :=
    due_record_deleted (w := Team.reopened) hpast₂ (by decide +kernel) ts₂
  have hactive : (pool.state.now.find? .sandboxSession Team.ended.key).map (·.status.state) =
      some .active := by
    rw [hnow]
    decide +kernel
  have hnone : pool'.state.now.find? .sandboxSession Team.ended.key = none := by
    rw [hgone]
    exact Option.isNone_iff_eq_none.mp (by decide +kernel)
  refine ⟨Team.aWeekOn, pool, pool', Team.versioned_aWeekOn, (hcollect.trans hopen).trans hrun,
    hdelete, hactive, hnone, fun hforward => ?_⟩
  obtain ⟨s, hs, hstate⟩ := Option.map_eq_some_iff.mp hactive
  exact nomatch hstate.symm.trans (hforward.deleted _ s hs hnone).1

end Kubepark

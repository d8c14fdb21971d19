import Kubepark.GatewayStore
import Kubepark.PassGuarantees
import Kubepark.ResourceVersions

/-!
# The SSH jump host

`sshjump.go` and `dialer.go` : what the gateway does with one direct-tcpip channel. It resolves
the target, checks that the certificate's principal owns the sandbox, records a session,
wakes the sandbox and waits for its address, dials the address and bridges the channel. Each
call of the API server, each wait and each dial is a step of its own, and the other parties
act in between.

Ownership is checked on the first read. While the sandbox is waited for it is read again by
name, and what is dialed is that later object : `dialed_after_handover`. Reads go through a cache
and are answered from some past state, so that a handover that is over may still show between two of
them. As long as the reads of a connection do not show one, every dial is authorized
(`dial_authorized`).

The heartbeats of a session are calls of their own, made by a goroutine beside this one; they
are among the steps of the others.
-/

namespace Kubepark

namespace Gateway

open ApiServer Client Routine

open Prog (Timeline)

/-! ## The handler -/

/-- `ssh.RejectionReason`. -/
inductive RejectionReason
  | prohibited
  | connectionFailed
  deriving DecidableEq, Repr

/-- What the handler asks of its surroundings. -/
inductive JumpOp
  | api (op : Call)
  /-- Wait; the answer is whether the connection is still there. -/
  | wait (d : Duration)
  /-- Open a TCP connection to `addr`, an address read from `sb`. -/
  | dial (sb : Sandbox) (addr : String)
  | reject (reason : RejectionReason) (message : String)
  /-- Accept the channel; the answer is whether that succeeded. -/
  | accept
  /-- Copy bytes both ways until either side closes. -/
  | bridge

@[reducible] def JumpResp : JumpOp → Type
  | .api op => Resp Spec Status op
  | .wait _ => Bool
  | .dial _ _ => Except ApiError Unit
  | .reject _ _ => Unit
  | .accept => Bool
  | .bridge => Unit

abbrev JumpM (α : Type) := Routine JumpOp JumpResp Unit ApiError α

/-- A routine over the API server. -/
def api {α : Type} (x : ClientM Unit α) : JumpM α :=
  x.via JumpOp.api fun _ r => r

def ask (op : JumpOp) : JumpM (JumpResp op) :=
  Routine.lift (Prog.ask op)

/-- The result of `x`, be it an error. -/
def attempt {α : Type} (x : JumpM α) : JumpM (Except ApiError α) := do
  let result ← x.runFrom ()
  pure result.1

/-- What follows `attempt` sees the errors too, and there are no others. -/
theorem wp_attempt {α S : Type} {x : JumpM α} {H : (op : JumpOp) → S → JumpResp op → S → Prop}
    {P : JumpOp → S → Prop} {R : Except ApiError (Except ApiError α) × Unit → S → Prop} {s : S}
    (h : (x ()).wp H P (fun r s' => R (.ok r.1, ()) s') s) : (attempt x ()).wp H P R s :=
  Prog.wp_bind.mpr (Prog.wp_bind.mpr h)

theorem wp_attempt_ok {α S : Type} {x : JumpM α} {H : (op : JumpOp) → S → JumpResp op → S → Prop}
    {P : JumpOp → S → Prop} {Q : α → Unit → S → Prop} {s : S} (h : x.wp H P Q () s) :
    (attempt x).wp H P (fun r _ s' => ∀ a, r = .ok a → Q a () s') () s := by
  refine wp_attempt (Prog.wp_mono h (fun _ _ => id) ?_)
  rintro ⟨r, _⟩ s' hr a rfl
  exact hr

structure SSHConfig where
  /-- Used when a target omits its namespace. -/
  defaultNamespace : String
  /-- Bounds the wake-on-connect stall; zero means the default. -/
  wakeTimeout : Duration := 0

def defaultWakeTimeout : Duration :=
  180 * second

def wakePollInterval : Duration :=
  2 * second

/-- The bound `NewSSHServer` configures. -/
def SSHConfig.effectiveWakeTimeout (cfg : SSHConfig) : Duration :=
  if cfg.wakeTimeout = 0 then defaultWakeTimeout else cfg.wakeTimeout

/-- A direct-tcpip channel. -/
structure Channel where
  /-- The destination address of the payload, if the payload parses. -/
  destAddr : Option String
  /-- The principal of the certificate, empty when there is none. -/
  principal : String
  certSerial : String
  remoteAddr : String

/-- Resolve the sandbox and enforce that the principal owns it. -/
def authorize (target : SSHTarget) (principal : String) : JumpM Sandbox := do
  if principal = "" then Routine.fail (.text "no principal")
  else
    match ← attempt (api (getSandbox target.namespaceName target.sandbox)) with
    | .error e => Routine.fail (.wrap "sandbox lookup" e)
    | .ok sb =>
      if sb.spec.owner.name ≠ principal then
        Routine.fail (.text ("principal " ++ quote principal ++ " is not the owner of sandbox " ++
          target.namespaceName ++ "/" ++ target.sandbox))
      else pure sb

/-- Give up after the deadline or when the connection is gone, and go on otherwise. -/
def waitThen (sb : Sandbox) (deadline : Time) (next : JumpM Sandbox) : JumpM Sandbox := do
  let t ← api now
  if deadline < t then
    Routine.fail (.text ("timed out waiting for sandbox " ++ sb.metadata.name ++ " to become ready"))
  else
    let alive ← ask (.wait wakePollInterval)
    if alive then next else Routine.fail (.text "context canceled")

def outOfPolls : ApiError :=
  .wrap "out of polls" .other

/-- The loop of `wakeAndWait`, with a bound on the number of polls that it does not reach
(`wakeAndWait_polls`). -/
def pollReady (sb : Sandbox) (deadline : Time) : Nat → JumpM Sandbox
  | 0 => Routine.fail outOfPolls
  | n + 1 => do
    match ← attempt (api (getSandbox sb.metadata.namespaceName sb.metadata.name)) with
    | .ok fresh =>
      if fresh.status.podIP ≠ "" then pure fresh else waitThen sb deadline (pollReady sb deadline n)
    | .error _ => waitThen sb deadline (pollReady sb deadline n)

def SSHConfig.maxPolls (cfg : SSHConfig) : Nat :=
  (cfg.effectiveWakeTimeout / wakePollInterval).toNat + 2

/-- Resume a suspended sandbox and stall until it reports a pod address. -/
def wakeAndWait (cfg : SSHConfig) (sb : Sandbox) : JumpM Sandbox := do
  if sb.status.podIP ≠ "" ∧ sb.spec.desiredState = .running then pure sb
  else
    match ← attempt (api (setDesiredRunning sb)) with
    | .error e => Routine.fail (.wrap "resume sandbox" e)
    | .ok () =>
      let t ← api now
      pollReady sb (t + cfg.effectiveWakeTimeout) cfg.maxPolls

/-- The sandbox's idle timeout; the gateway does not see the template. -/
def effectiveIdleTimeout (sb : Sandbox) : Duration :=
  sb.spec.idleTimeout.getD 0

/-- `max(60s, idleTimeout/4)`. -/
def heartbeatInterval (idleTimeout : Duration) : Duration :=
  let floor := 60 * second
  let quarter := idleTimeout.tdiv 4
  if floor < quarter then quarter else floor

/-- Five random bytes in hexadecimal. -/
def randomSuffix : ClientM Unit String := do
  match ← tryFresh with
  | .error _ => pure "000000000a"
  | .ok n =>
    pure (String.ofList ((List.range 10).reverse.map fun i => Nat.digitChar (n / 16 ^ i % 16)))

/-- The audit record of a connection. -/
def buildSession (sb : Sandbox) (suffix principal clientAddr certSerial : String) :
    SandboxSession where
  metadata :=
    { name := sb.metadata.name ++ "-" ++ suffix, namespaceName := sb.metadata.namespaceName }
  spec :=
    { sandboxName := sb.metadata.name
      user := principal
      clientAddr := clientAddr
      kind := .ssh
      certSerial := certSerial
      heartbeatInterval := some (heartbeatInterval (effectiveIdleTimeout sb)) }
  status := {}

/-- Record the session; its name, unless that failed. -/
def openSession (sb : Sandbox) (principal clientAddr certSerial : String) :
    JumpM (Option String) := do
  let suffix ← api randomSuffix
  let session := buildSession sb suffix principal clientAddr certSerial
  match ← attempt (api (createSession session)) with
  | .error _ => pure none
  | .ok () => pure (some session.metadata.name)

/-- The closer that `openSession` returns. A failure is only logged. -/
def closeOpened (sb : Sandbox) (session : Option String) (reason : ExitReason) : JumpM Unit := do
  match session with
  | none => pure ()
  | some name =>
    let _ ← attempt (api (closeSession sb.metadata.namespaceName name reason))

/-- `net.JoinHostPort`. -/
def joinHostPort (host port : String) : String :=
  if host.toList.any (fun c => c = ':' || c = '%') then "[" ++ host ++ "]:" ++ port
  else host ++ ":" ++ port

/-- Connect to the agent of the sandbox. -/
def dialSandbox (sb : Sandbox) : JumpM Unit := do
  if sb.status.podIP = "" then Routine.fail (.text "no route: sandbox has no pod IP yet")
  else
    let addr := joinHostPort sb.status.podIP (toString agentPort)
    Routine.ofExcept ((← ask (.dial sb addr)).mapError (.wrap ("dial sandbox agent " ++ addr)))

/-- Wake, dial and bridge. -/
def route (cfg : SSHConfig) (sb : Sandbox) : JumpM Unit := do
  match ← attempt (wakeAndWait cfg sb) with
  | .error _ => ask (.reject .connectionFailed "sandbox did not become ready")
  | .ok sb =>
    match ← attempt (dialSandbox sb) with
    | .error _ => ask (.reject .connectionFailed "cannot reach sandbox")
    | .ok () => if ← ask .accept then ask .bridge else pure ()

/-- The part of the handler after the target is known. The session is closed however the
routing ends. -/
def handleTarget (cfg : SSHConfig) (ch : Channel) (target : SSHTarget) : JumpM Unit := do
  match ← attempt (authorize target ch.principal) with
  | .error _ => ask (.reject .prohibited "not authorized for this sandbox")
  | .ok sb =>
    let session ← openSession sb ch.principal ch.remoteAddr ch.certSerial
    route cfg sb
    closeOpened sb session .disconnected

/-- The whole data plane of the gateway. -/
def handleDirectTCPIP (cfg : SSHConfig) (ch : Channel) : JumpM Unit :=
  match ch.destAddr with
  | none => ask (.reject .connectionFailed "invalid direct-tcpip payload")
  | some destAddr =>
    match parseSSHTarget destAddr cfg.defaultNamespace with
    | .error e => ask (.reject .connectionFailed e)
    | .ok target => handleTarget cfg ch target

/-! ## The number of polls -/

/-- Under the handler time does not go back, a clock reading is the time of the call, and a wait
takes the time it says. -/
structure Timed (H : (op : JumpOp) → Cluster → JumpResp op → Cluster → Prop) : Prop where
  mono : ∀ op c r c', H op c r c' → c.clock ≤ c'.clock
  now : ∀ c t c', H (.api .now) c t c' → c.clock ≤ t ∧ t ≤ c'.clock
  wait : ∀ d c alive c', H (.wait d) c alive c' → c.clock + d ≤ c'.clock

section Polls

variable {H : (op : JumpOp) → Cluster → JumpResp op → Cluster → Prop}

theorem Timed.wp (hH : Timed H) {α : Type} (p : Prog JumpOp JumpResp α) (c : Cluster) :
    p.wp H (fun _ _ => True) (fun _ c' => c.clock ≤ c'.clock) c := by
  refine Prog.wp_mono (Prog.wp_preserves (I := fun c' => c.clock ≤ c'.clock) ?_ (Prog.wp_true p c)
    (Int.le_refl _)) (fun _ _ _ => trivial) fun _ _ h => h.2
  exact fun op c₁ r c₂ _ hstep hc₁ => Int.le_trans hc₁ (hH.mono op c₁ r c₂ hstep)

theorem waitThen_polls (hH : Timed H) (sb : Sandbox) (deadline : Time) (next : JumpM Sandbox)
    (c : Cluster) (hnext : c.clock ≤ deadline → ∀ c', c.clock + wakePollInterval ≤ c'.clock →
      (next ()).wp H (fun _ _ => True) (fun r _ => r.1 ≠ .error outOfPolls) c') :
    (waitThen sb deadline next ()).wp H (fun _ _ => True)
      (fun r _ => r.1 ≠ .error outOfPolls) c := by
  refine ⟨trivial, fun t c₁ hnow => ?_⟩
  have ht := (hH.now c t c₁ hnow).1
  have hc₁ := hH.mono _ c t c₁ hnow
  show ((if deadline < t then _ else _ : JumpM Sandbox) ()).wp H _ _ c₁
  split_ifs with hlate
  · exact nofun
  · refine ⟨trivial, fun alive c₂ hwait => ?_⟩
    have hc₂ := hH.wait _ c₁ alive c₂ hwait
    cases alive with
    | true => exact hnext (by lia) c₂ (by lia)
    | false => exact nofun

/-- One round of the loop. -/
theorem pollReady_once (hH : Timed H) (sb : Sandbox) (deadline : Time) (n : Nat) (c : Cluster)
    (hnext : c.clock ≤ deadline → ∀ c', c.clock + wakePollInterval ≤ c'.clock →
      (pollReady sb deadline n ()).wp H (fun _ _ => True) (fun r _ => r.1 ≠ .error outOfPolls) c') :
    (pollReady sb deadline (n + 1) ()).wp H (fun _ _ => True)
      (fun r _ => r.1 ≠ .error outOfPolls) c := by
  refine Prog.wp_bind.mpr (wp_attempt (Prog.wp_mono (hH.wp _ c) (fun _ _ => id) ?_))
  rintro ⟨r, _⟩ c₁ hc₁
  have hwait := waitThen_polls hH sb deadline (pollReady sb deadline n) c₁ fun hbefore c' hc' =>
    hnext (by lia) c' (by lia)
  cases r with
  | error e => exact hwait
  | ok fresh =>
    show ((if fresh.status.podIP ≠ "" then _ else _ : JumpM Sandbox) ()).wp H _ _ c₁
    split_ifs
    · exact nofun
    · exact hwait

/-- A loop that may poll once more after every wait before the deadline does not run out of
polls. -/
theorem pollReady_polls (hH : Timed H) (sb : Sandbox) (deadline : Time) (n : Nat) :
    ∀ c : Cluster, deadline < c.clock + wakePollInterval * n →
      (pollReady sb deadline (n + 1) ()).wp H (fun _ _ => True)
        (fun r _ => r.1 ≠ .error outOfPolls) c := by
  induction n with
  | zero =>
    intro c hdeadline
    refine pollReady_once hH sb deadline 0 c fun hbefore => ?_
    rw [Int.natCast_zero, Int.mul_zero] at hdeadline
    lia
  | succ n ih =>
    intro c hdeadline
    refine pollReady_once hH sb deadline (n + 1) c fun _ c' hc' => ih c' ?_
    rw [Int.natCast_add, Int.mul_add, Int.natCast_one, Int.mul_one] at hdeadline
    lia

/-- `wakeAndWait` does not run out of polls. -/
theorem wakeAndWait_polls (hH : Timed H) (cfg : SSHConfig) (sb : Sandbox) (c : Cluster) :
    (wakeAndWait cfg sb ()).wp H (fun _ _ => True) (fun r _ => r.1 ≠ .error outOfPolls) c := by
  have hbound : ∀ timeout : Int, timeout < wakePollInterval *
      (((timeout / wakePollInterval).toNat + 1 : Nat) : Int) := by
    intro timeout
    simp only [wakePollInterval, second]
    omega
  show ((if _ then _ else _ : JumpM Sandbox) ()).wp H _ _ c
  split_ifs
  · exact nofun
  · refine Prog.wp_bind.mpr (wp_attempt (Prog.wp_mono (hH.wp _ c) (fun _ _ => id) ?_))
    rintro ⟨r, _⟩ c₁ _
    cases r with
    | error e =>
      show (Except.error (.wrap "resume sandbox" e) : Except ApiError Sandbox) ≠ .error outOfPolls
      simp [outOfPolls]
    | ok _ =>
      refine ⟨trivial, fun t c₂ hnow => ?_⟩
      refine pollReady_polls hH sb _ ((cfg.effectiveWakeTimeout / wakePollInterval).toNat + 1) c₂ ?_
      have hlater := (hH.now c₁ t c₂ hnow).2
      have := hbound cfg.effectiveWakeTimeout
      lia

end Polls

/-! ## Other parties -/

/-- The handler of a connection while the other parties take steps of `env`. -/
def JumpStep (env : Cluster → Cluster → Prop) :
    (op : JumpOp) → Cluster → JumpResp op → Cluster → Prop
  | .api op, c, r, c' => Prog.interleaved Step env op c r c'
  | .wait _, c, _, c' => Relation.ReflTransGen env c c'
  | .dial _ _, c, _, c' => Relation.ReflTransGen env c c'
  | .reject _ _, c, _, c' => Relation.ReflTransGen env c c'
  | .accept, c, _, c' => Relation.ReflTransGen env c c'
  | .bridge, c, _, c' => Relation.ReflTransGen env c c'

/-- The handler of a connection that reads through a cache, while the others take steps of `env`. -/
def LaggingJump (env : Cluster → Cluster → Prop) :
    (op : JumpOp) → Timeline Cluster → JumpResp op → Timeline Cluster → Prop
  | .api op, w, r, w' => CachedStep env op w r w'
  | .wait _, w, _, w' => Relation.ReflTransGen (Elapses env) w w'
  | .dial _ _, w, _, w' => Relation.ReflTransGen (Elapses env) w w'
  | .reject _ _, w, _, w' => Relation.ReflTransGen (Elapses env) w w'
  | .accept, w, _, w' => Relation.ReflTransGen (Elapses env) w w'
  | .bridge, w, _, w' => Relation.ReflTransGen (Elapses env) w w'

/-! ## What is read of the sandbox -/

/-- The sandbox under `key`, if there is one, belongs to `principal`. -/
def OwnedBy (principal : String) (key : ObjectKey) (c : Cluster) : Prop :=
  ∀ sb, c.find? .sandbox key = some sb → sb.spec.owner.name = principal

/-- From `c` to `c'` the sandbox under `key` is not handed from `principal` to someone else, by an
edit or by a re-creation. -/
def NoHandover (principal : String) (key : ObjectKey) (c c' : Cluster) : Prop :=
  OwnedBy principal key c → OwnedBy principal key c'

/-- The states so far, and the one that the sandbox of the connection was last read from. -/
structure Watch where
  line : Timeline Cluster
  read : Option Cluster := none

/-- The call reads the sandbox under `key`. -/
def JumpOp.reads (key : ObjectKey) : JumpOp → Bool
  | .api (.get .sandbox key') => key' = key
  | _ => false

theorem JumpOp.reads_get (key : ObjectKey) :
    (JumpOp.api (.get .sandbox key)).reads key = true :=
  decide_eq_true rfl

/-- The call is answered as it would be in the state `c`. -/
def AnsweredFrom (c : Cluster) : (op : JumpOp) → JumpResp op → Prop
  | .api op, r => ∃ c', Step op c r c'
  | _, _ => True

/-- The handler of a connection that reads through a cache, where from one read of the sandbox
under `key` to the next the sandbox is not handed from `principal` to someone else. A read may be
answered from any past state, also one before the connection. -/
def UnhandedJump (env : Cluster → Cluster → Prop) (principal : String) (key : ObjectKey)
    (op : JumpOp) (w : Watch) (r : JumpResp op) (w' : Watch) : Prop :=
  LaggingJump env op w.line r w'.line ∧
    if op.reads key then
      ∃ c, w.line.past c ∧ AnsweredFrom c op r ∧ w'.read = some c ∧
        ∀ c₀, w.read = some c₀ → NoHandover principal key c₀ c
    else w'.read = w.read

def JumpOp.dials : JumpOp → Bool
  | .dial _ _ => true
  | _ => false

/-- A dial goes to a sandbox of a principal that is not empty. -/
def DialAuthorized (principal : String) (op : JumpOp) (_ : Watch) : Prop :=
  ∀ sb addr, op = .dial sb addr → principal ≠ "" ∧ sb.spec.owner.name = principal

/-- What was last read of the sandbox under `key` belongs to `principal`. -/
def ReadOwned (principal : String) (key : ObjectKey) (w : Watch) : Prop :=
  ∃ c, w.read = some c ∧ OwnedBy principal key c

section Rules

variable {env : Cluster → Cluster → Prop} {principal : String} {key : ObjectKey}
  {P : JumpOp → Watch → Prop} {w : Watch}

/-- No call changes that. -/
theorem ReadOwned.step {op : JumpOp} {r : JumpResp op} {w' : Watch}
    (hw : ReadOwned principal key w) (h : UnhandedJump env principal key op w r w') :
    ReadOwned principal key w' := by
  obtain ⟨c₀, hread, howned⟩ := hw
  obtain ⟨-, hop⟩ := h
  split_ifs at hop
  · obtain ⟨c, -, -, hread', hkept⟩ := hop
    exact ⟨c, hread', hkept c₀ hread howned⟩
  · exact ⟨c₀, hop.trans hread, howned⟩

theorem wp_attempt_getSandbox {namespaceName name : String}
    {Q : Except ApiError Sandbox → Unit → Watch → Prop} (hP : ∀ op w, P (.api op) w)
    (hQ : ∀ r w', (∀ sb, r = .ok sb → ∃ c, w'.read = some c ∧
        c.find? .sandbox ⟨namespaceName, name⟩ = some sb) →
      (ReadOwned principal ⟨namespaceName, name⟩ w →
        ReadOwned principal ⟨namespaceName, name⟩ w') → Q r () w') :
    (attempt (api (getSandbox namespaceName name))).wp
      (UnhandedJump env principal ⟨namespaceName, name⟩) P Q () w := by
  refine wp_attempt ⟨hP _ w, fun r w' hr => ?_⟩
  have hkept : ReadOwned principal ⟨namespaceName, name⟩ w →
      ReadOwned principal ⟨namespaceName, name⟩ w' := fun hw => hw.step hr
  have hop := hr.2
  rw [if_pos (JumpOp.reads_get _)] at hop
  obtain ⟨c, -, ⟨c', hstep⟩, hread, -⟩ := hop
  cases r with
  | ok sb =>
    refine hQ (.ok sb) w' (fun sb' he => ⟨c, hread, ?_⟩) hkept
    rw [← Except.ok.inj he]
    exact hstep.get_ok.1
  | error e => exact hQ (.error e) w' (fun sb' he => nomatch he) hkept

/-- A routine over the API server leaves what was read with its owner. -/
theorem wp_api {α : Type} {x : ClientM Unit α} {Q : Except ApiError α × Unit → Watch → Prop}
    (hP : ∀ op w, P (.api op) w) (hw : ReadOwned principal key w)
    (hQ : ∀ r w', ReadOwned principal key w' → Q r w') :
    ((api x) ()).wp (UnhandedJump env principal key) P Q w := by
  refine Prog.wp_via _ _ (Prog.wp_mono (Prog.wp_preserves (I := ReadOwned principal key) ?_
    (Prog.wp_true _ w) hw) (fun op w _ => hP op w) fun r w' h => hQ r w' h.2)
  rintro op w₁ r w₂ - ⟨_, -, hstep⟩ hw₁
  exact hw₁.step hstep

end Rules

/-! ## Every dial is authorized -/

section Dial

variable {env : Cluster → Cluster → Prop} {principal : String} {key : ObjectKey}
  {P : JumpOp → Watch → Prop} {w : Watch}

theorem wp_authorize (target : SSHTarget) (hP : ∀ op w, P (.api op) w) :
    (authorize target principal).wp
      (UnhandedJump env principal ⟨target.namespaceName, target.sandbox⟩) P (fun sb _ w' =>
        principal ≠ "" ∧ sb.spec.owner.name = principal ∧
        sb.key = ⟨target.namespaceName, target.sandbox⟩ ∧
        ReadOwned principal ⟨target.namespaceName, target.sandbox⟩ w') () w := by
  refine wp_ite (fun _ => trivial) fun hprincipal => ?_
  refine wp_bind.mpr (wp_attempt_getSandbox hP fun r w' hr _ => ?_)
  cases r with
  | error e => trivial
  | ok sb =>
    obtain ⟨c, hread, hsb⟩ := hr sb rfl
    refine wp_ite (fun _ => trivial) fun howner => ?_
    have howner : sb.spec.owner.name = principal := not_not.mp howner
    refine ⟨hprincipal, howner, key_of_find? hsb, c, hread, fun sb' hsb' => ?_⟩
    rw [← Option.some.inj (hsb.symm.trans hsb')]
    exact howner

theorem wp_waitThen {sb : Sandbox} {deadline : Time} {next : JumpM Sandbox}
    {Q : Sandbox → Unit → Watch → Prop} (hP : ∀ op w, P (.api op) w)
    (hwait : ∀ d w, P (.wait d) w) (hw : ReadOwned principal key w)
    (hnext : ∀ w', ReadOwned principal key w' →
      next.wp (UnhandedJump env principal key) P Q () w') :
    (waitThen sb deadline next).wp (UnhandedJump env principal key) P Q () w := by
  refine wp_bind.mpr (wp_api hP hw ?_)
  rintro ⟨t, _⟩ w₁ hw₁
  cases t with
  | error e => trivial
  | ok t =>
    refine wp_ite (fun _ => trivial) fun _ => wp_bind.mpr ?_
    refine wp_lift.mpr ⟨hwait _ w₁, fun alive w₂ hstep => ?_⟩
    cases alive with
    | true => exact hnext w₂ (hw₁.step hstep)
    | false => trivial

/-- The polls read nothing but sandboxes of the principal. -/
theorem wp_pollReady {sb : Sandbox} (deadline : Time) (hP : ∀ op w, P (.api op) w)
    (hwait : ∀ d w, P (.wait d) w) : ∀ (n : Nat) (w : Watch), ReadOwned principal sb.key w →
      (pollReady sb deadline n).wp (UnhandedJump env principal sb.key) P
        (fun fresh _ _ => fresh.spec.owner.name = principal) () w
  | 0, _, _ => trivial
  | n + 1, w, hw => by
    have hagain : ∀ w', ReadOwned principal sb.key w' →
        (waitThen sb deadline (pollReady sb deadline n)).wp (UnhandedJump env principal sb.key) P
          (fun fresh _ _ => fresh.spec.owner.name = principal) () w' :=
      fun w' hw' => wp_waitThen hP hwait hw' (wp_pollReady deadline hP hwait n)
    refine wp_bind.mpr (wp_attempt_getSandbox hP fun r w' hr hkept => ?_)
    have hw' : ReadOwned principal sb.key w' := hkept hw
    cases r with
    | error e => exact hagain w' hw'
    | ok fresh =>
      refine wp_ite (fun _ => ?_) fun _ => hagain w' hw'
      obtain ⟨c, hread, hfresh⟩ := hr fresh rfl
      obtain ⟨c', hread', howned⟩ := hw'
      obtain rfl := Option.some.inj (hread.symm.trans hread')
      exact howned fresh hfresh

theorem wp_openSession {sb : Sandbox} {clientAddr certSerial : String}
    (hP : ∀ op w, P (.api op) w) (hw : ReadOwned principal key w) (user : String) :
    (openSession sb user clientAddr certSerial).wp (UnhandedJump env principal key) P
      (fun _ _ w' => ReadOwned principal key w') () w := by
  refine wp_bind.mpr (wp_api hP hw ?_)
  rintro ⟨suffix, _⟩ w₁ hw₁
  cases suffix with
  | error e => trivial
  | ok suffix =>
    refine wp_bind.mpr (wp_attempt (wp_api hP hw₁ ?_))
    rintro ⟨r, _⟩ w₂ hw₂
    cases r with
    | error e => exact hw₂
    | ok _ => exact hw₂

/-- The sandbox that `wakeAndWait` returns belongs to the principal. -/
theorem wp_wakeAndWait (cfg : SSHConfig) {sb : Sandbox} (hP : ∀ op w, P (.api op) w)
    (hwait : ∀ d w, P (.wait d) w) (howner : sb.spec.owner.name = principal)
    (hw : ReadOwned principal sb.key w) :
    (wakeAndWait cfg sb).wp (UnhandedJump env principal sb.key) P
      (fun fresh _ _ => fresh.spec.owner.name = principal) () w := by
  refine wp_ite (fun _ => howner) fun _ => ?_
  refine wp_bind.mpr (wp_attempt (wp_api hP hw ?_))
  rintro ⟨r, _⟩ w₁ hw₁
  cases r with
  | error e => trivial
  | ok _ =>
    refine wp_bind.mpr (wp_api hP hw₁ ?_)
    rintro ⟨t, _⟩ w₂ hw₂
    cases t with
    | error e => trivial
    | ok t => exact wp_pollReady _ hP hwait _ w₂ hw₂

theorem dialAuthorized_of_not {op : JumpOp} (h : op.dials = false) (w : Watch) :
    DialAuthorized principal op w := by
  rintro sb addr rfl
  cases h

/-- A call other than a dial. -/
theorem always_ask {op : JumpOp} (h : op.dials = false) :
    (ask op).Always (UnhandedJump env principal key) (DialAuthorized principal) () w :=
  wp_lift.mpr ⟨dialAuthorized_of_not h w, fun _ _ _ => trivial⟩

theorem always_dialSandbox {sb : Sandbox} (hprincipal : principal ≠ "")
    (howner : sb.spec.owner.name = principal) :
    (dialSandbox sb).Always (UnhandedJump env principal key) (DialAuthorized principal) () w := by
  refine wp_ite (fun _ => trivial) fun _ => ?_
  refine Routine.Always.bind (wp_lift.mpr ⟨?_, fun _ _ _ => trivial⟩) fun r _ w' =>
    always_ofExcept _ _ w'
  rintro sb' addr he
  cases he
  exact ⟨hprincipal, howner⟩

theorem always_route (cfg : SSHConfig) {sb : Sandbox} (hprincipal : principal ≠ "")
    (howner : sb.spec.owner.name = principal) (hw : ReadOwned principal sb.key w) :
    (route cfg sb).Always (UnhandedJump env principal sb.key) (DialAuthorized principal) () w := by
  have hapi : ∀ op w, DialAuthorized principal (.api op) w :=
    fun _ => dialAuthorized_of_not rfl
  have hwait : ∀ d w, DialAuthorized principal (.wait d) w :=
    fun _ => dialAuthorized_of_not rfl
  refine wp_bind.mpr (wp_post
    (wp_attempt_ok (wp_wakeAndWait cfg hapi hwait howner hw)) fun r _ w₁ hr => ?_)
  cases r with
  | error e => exact always_ask rfl
  | ok fresh =>
    refine wp_bind.mpr (wp_post
      (wp_attempt_ok (always_dialSandbox hprincipal (hr fresh rfl))) fun r _ w₂ _ => ?_)
    cases r with
    | error e => exact always_ask rfl
    | ok _ =>
      refine (always_ask rfl).bind fun accepted _ w₃ => ?_
      exact wp_ite (fun _ => always_ask rfl) fun _ => trivial

/-- A routine over the API server does not dial. -/
theorem always_attempt_api {α : Type} (x : ClientM Unit α) :
    (attempt (api x)).Always (UnhandedJump env principal key) (DialAuthorized principal) () w := by
  refine wp_attempt (Prog.wp_via _ _ (Prog.wp_mono (Prog.wp_true _ _) ?_ fun _ _ _ => trivial))
  exact fun op w _ => dialAuthorized_of_not rfl w

end Dial

theorem always_handleTarget (cfg : SSHConfig) (ch : Channel) (target : SSHTarget)
    {env : Cluster → Cluster → Prop} {w : Watch} :
    (handleTarget cfg ch target).Always
      (UnhandedJump env ch.principal ⟨target.namespaceName, target.sandbox⟩)
      (DialAuthorized ch.principal) () w := by
  have hapi : ∀ op w, DialAuthorized ch.principal (.api op) w := fun _ => dialAuthorized_of_not rfl
  refine wp_bind.mpr (wp_post
    (wp_attempt_ok (wp_authorize target hapi)) fun r _ w₁ hr => ?_)
  cases r with
  | error e => exact always_ask rfl
  | ok sb =>
    obtain ⟨hprincipal, howner, hkey, hw₁⟩ := hr sb rfl
    rw [← hkey] at hw₁ ⊢
    refine wp_bind.mpr (wp_post (wp_openSession hapi hw₁ _) ?_)
    intro session _ w₂ hw₂
    refine (always_route cfg hprincipal howner hw₂).bind fun _ _ w₃ => ?_
    cases session with
    | none => trivial
    | some name => exact (always_attempt_api _).bind fun _ _ _ => trivial

/-- Take any handling of a channel to the sandbox under `key`, with reads that lag and steps of the
others in between, in which from one read of the sandbox to the next it is not handed from the
principal to someone else, by an edit of its owner or by a re-creation under its name. The gateway
dials only addresses read from a sandbox whose owner is the authenticated principal, which is not
empty. -/
theorem dial_authorized (cfg : SSHConfig) (ch : Channel) (env : Cluster → Cluster → Prop)
    (key : ObjectKey) (hkey : ∀ destAddr target, ch.destAddr = some destAddr →
      parseSSHTarget destAddr cfg.defaultNamespace = .ok target →
        key = ⟨target.namespaceName, target.sandbox⟩)
    (line : Timeline Cluster) (w' : Watch) (t : List (JumpOp × Watch))
    (h : (handleDirectTCPIP cfg ch ()).Visits (UnhandedJump env ch.principal key) ⟨line, none⟩ t
      w') :
    ∀ e ∈ t, ∀ sb addr, e.1 = .dial sb addr →
      ch.principal ≠ "" ∧ sb.spec.owner.name = ch.principal := by
  have halways : (handleDirectTCPIP cfg ch).Always (UnhandedJump env ch.principal key)
      (DialAuthorized ch.principal) () ⟨line, none⟩ := by
    unfold handleDirectTCPIP
    cases hdest : ch.destAddr with
    | none => exact always_ask rfl
    | some destAddr =>
      dsimp only
      cases htarget : parseSSHTarget destAddr cfg.defaultNamespace with
      | error e => exact always_ask rfl
      | ok target =>
        obtain rfl := hkey destAddr target hdest htarget
        exact always_handleTarget cfg ch target
  exact h.wp halways

/-! ## A sandbox that changes hands -/

/-- Alice asks for her sandbox. -/
def aliceToDev : Channel where
  destAddr := some "dev.team"
  principal := "alice"
  certSerial := "1"
  remoteAddr := "192.0.2.1"

/-- The gateway of the team. -/
def teamGateway : SSHConfig where
  defaultNamespace := "team"

/-- A handler that answers API calls faithfully, lets the others take the step `others` after
each of them, and lets everything else succeed. -/
def serve (others : Cluster → Cluster) : (op : JumpOp) → Cluster → JumpResp op × Cluster
  | .api op, c => ((handle op c).1, others (handle op c).2)
  | .wait _, c => (true, c)
  | .dial _ _, c => (.ok (), c)
  | .reject _ _, c => ((), c)
  | .accept, c => (true, c)
  | .bridge, c => ((), c)

/-- What the cache shows : the state `old` at the first read of the sandbox, and then the present. -/
def shown (old : Cluster) (w : Watch) : Cluster :=
  match w.read with
  | none => old
  | some _ => w.line.now

/-- The others do `others`. -/
def Act (others : Cluster → Cluster) (c c' : Cluster) : Prop :=
  c' = others c

/-- A handler that answers faithfully from what the cache shows, lets the others take the step
`others` during a wait, and lets everything else succeed. -/
def relay (old : Cluster) (others : Cluster → Cluster) : (op : JumpOp) → Watch → JumpResp op × Watch
  | .api op, w =>
    let answer := Prog.recalling handle Op.isRead (shown old w) op w.line
    (answer.1, ⟨answer.2, if (JumpOp.api op).reads Team.key then some (shown old w) else w.read⟩)
  | .wait _, w => (true, ⟨w.line.onto (others w.line.now), w.read⟩)
  | .dial _ _, w => (.ok (), w)
  | .reject _ _, w => ((), w)
  | .accept, w => (true, w)
  | .bridge, w => ((), w)

/-- What the cache may show is past. -/
def Kept (old : Cluster) (w : Watch) : Prop :=
  w.line.past old ∧ w.line.past w.line.now

section Relay

variable {old : Cluster} {others : Cluster → Cluster} {w : Watch}

theorem Kept.past_shown (hw : Kept old w) : w.line.past (shown old w) := by
  unfold shown
  split
  · exact hw.1
  · exact hw.2

theorem laggingJump_relay (op : JumpOp) (hw : Kept old w) :
    LaggingJump (Act others) op w.line (relay old others op w).1 (relay old others op w).2.line := by
  cases op with
  | api op => exact ⟨_, Prog.lagging_recalling step_handle Op.isRead op hw.past_shown, .refl⟩
  | wait d => exact .single ⟨_, rfl, rfl⟩
  | dial | reject | accept | bridge => exact .refl

theorem kept_relay (op : JumpOp) (w : Watch) (hw : Kept old w) : Kept old (relay old others op w).2 := by
  cases op with
  | api op =>
    simp only [Kept, relay, Prog.recalling]
    split_ifs
    all_goals first | exact hw | exact ⟨Or.inl hw.1, Or.inr rfl⟩
  | wait d => exact ⟨Or.inl hw.1, Or.inr rfl⟩
  | dial | reject | accept | bridge => exact hw

/-- Where the cache shows the sandbox with its owner, nothing is handed over. -/
theorem unhandedJump_relay {principal : String} {op : JumpOp} (hw : Kept old w)
    (howned : OwnedBy principal Team.key (shown old w)) :
    UnhandedJump (Act others) principal Team.key op w (relay old others op w).1
      (relay old others op w).2 := by
  refine ⟨laggingJump_relay op hw, ?_⟩
  split_ifs with hreads
  · cases op with
    | api op =>
      have hread : Op.isRead op = true := by
        cases op with
        | get k key => rfl
        | _ => cases hreads
      refine ⟨shown old w, hw.past_shown, ⟨(handle op (shown old w)).2, ?_⟩, ?_,
        fun _ _ _ => howned⟩
      · simp only [relay, Prog.recalling, hread, ↓reduceIte]
        exact step_handle op _
      · simp only [relay, hreads, ↓reduceIte]
    | _ => cases hreads
  · cases op with
    | api op => simp only [relay, hreads, Bool.false_eq_true, ↓reduceIte]
    | _ => rfl

end Relay

/-- The calls of Alice's connection, from the state `now` on, while the cache still shows `old`. -/
def jumpTrace (old now : Cluster) (others : Cluster → Cluster) : List (JumpOp × Watch) :=
  (handleDirectTCPIP teamGateway aliceToDev ()).trace (relay old others)
    ⟨(Timeline.start old).onto now, none⟩

theorem kept_jumpTrace (old now : Cluster) (others : Cluster → Cluster) :
    ∀ e ∈ jumpTrace old now others, Kept old e.2 :=
  Prog.trace_preserves (I := Kept old) (h := relay old others) kept_relay
    (handleDirectTCPIP teamGateway aliceToDev ()) ⟨Or.inl rfl, Or.inr rfl⟩

/-- A new sandbox, whose pod has been created and has no address yet. -/
def starting : Cluster :=
  Team.pass (Team.cluster [Team.template] (Team.sandbox .running {}) [])

/-- Alice connects to her sandbox while it starts. The first read does not show yet that the pod is
ready. The gateway polls, a pass publishes the address meanwhile, the next poll reads it, and the
gateway dials it. -/
theorem dial_authorized_starting :
    (jumpTrace starting (Team.podBecomesReady starting) Team.pass).any
      (fun e => e.1 matches .wait _) = true ∧
    (jumpTrace starting (Team.podBecomesReady starting) Team.pass).any
      (fun e => e.1.dials) = true ∧
    ∀ e ∈ jumpTrace starting (Team.podBecomesReady starting) Team.pass, ∀ sb addr,
      e.1 = .dial sb addr →
        aliceToDev.principal ≠ "" ∧ sb.spec.owner.name = aliceToDev.principal := by
  have howned : (jumpTrace starting (Team.podBecomesReady starting) Team.pass).all (fun e =>
      ((shown starting e.2).find? .sandbox Team.key).all fun sb => sb.spec.owner.name = "alice") =
        true := by decide +kernel
  have hkept := kept_jumpTrace starting (Team.podBecomesReady starting) Team.pass
  have hvisits := (Prog.exec_run_of_trace
    (H := UnhandedJump (Act Team.pass) "alice" Team.key)
    (h := relay starting Team.pass) (handleDirectTCPIP teamGateway aliceToDev ())
    ⟨(Timeline.start starting).onto (Team.podBecomesReady starting), none⟩ fun e he => by
      refine unhandedJump_relay (hkept e he) fun sb hsb => ?_
      have hall := List.all_eq_true.mp howned e he
      rw [hsb, Option.all_some] at hall
      exact of_decide_eq_true hall).visits
  have htarget : parseSSHTarget "dev.team" "team" = .ok ⟨"dev", "team"⟩ := by decide +kernel
  refine ⟨by decide +kernel, by decide +kernel, dial_authorized teamGateway aliceToDev
    (Act Team.pass) Team.key ?_ _ _ _ hvisits⟩
  intro destAddr target hdest hparse
  cases hdest
  cases htarget.symm.trans hparse
  rfl

/-- Whether the call dials a sandbox of `owner`. -/
def dialsOwner (owner : String) : JumpOp → Bool
  | .dial sb _ => sb.spec.owner.name = owner
  | _ => false

/-- The sandbox is handed to Bob, and its pod becomes ready. -/
def handOver (c : Cluster) : Cluster :=
  (handle (.patchStatus .sandbox Team.key fun st => { st with podIP := "10.0.0.7" })
    (handle (.patch .sandbox Team.key fun spec => { spec with owner := { name := "bob" } }) c).2).2

/-- Alice's connection waits for her sandbox; the sandbox is handed to Bob meanwhile, and the
gateway connects Alice to it. -/
theorem dialed_after_handover : ∃ c t w',
    (handleDirectTCPIP teamGateway aliceToDev ()).Visits (fun op (w : Watch) r w' =>
      LaggingJump (Act handOver) op w.line r w'.line) ⟨c, none⟩ t w' ∧
    ∃ e ∈ t, ∃ sb addr, e.1 = .dial sb addr ∧ sb.spec.owner.name ≠ aliceToDev.principal := by
  have hdials : (jumpTrace starting starting handOver).any (fun e => dialsOwner "bob" e.1) = true := by
    decide +kernel
  refine ⟨(Timeline.start starting).onto starting, jumpTrace starting starting handOver, _,
    (Prog.exec_run_of_trace _ _ fun e he => laggingJump_relay e.1
      (kept_jumpTrace starting starting handOver e he)).visits, ?_⟩
  obtain ⟨⟨op, w⟩, he, hop⟩ := List.any_eq_true.mp hdials
  cases op with
  | dial sb addr =>
    refine ⟨_, he, sb, addr, rfl, ?_⟩
    rw [show sb.spec.owner.name = "bob" from of_decide_eq_true hop]
    decide
  | api | wait | reject | accept | bridge => cases hop

end Gateway

end Kubepark

import Kubepark.ResourceVersions
import Kubepark.Sshca

/-!
# Keys that are made on first use

`EnsureCASecret` of `ca.go` and `gatewayHostKey` of `cmd/gateway.go` : get the Secret, or generate
keys and create it, or read the winner's when another caller was first. Any number of callers do
this side by side, and a read may be answered from the past.

No call changes a Secret that is there (`BootOp.stays`), so what was stored at any time is stored
now (`Lasting`), and whatever a caller returns is what is stored : `bootstrap_agreement`.
-/

namespace Kubepark

open ApiServer Client Routine

open Prog (Timeline lagging Pool PoolStep)

variable {σ : Type}

/-! ## The host key of the gateway -/

def gatewayHostKeyName : String :=
  "kubepark-gateway-hostkey"

def keyHostKeyPrivate : String :=
  "ssh_host_ed25519_key"

def buildGatewayHostKeySecret (ns : String) (kp : KeyPair) : Secret where
  metadata := { name := gatewayHostKeyName, namespaceName := ns }
  spec :=
    { data := [(keyHostKeyPrivate, kp.privatePEM), ("ssh_host_ed25519_key.pub", kp.publicAuthorized)] }
  status := ()

/-- The gateway's own SSH host key, generated on first use. -/
def gatewayHostKey (ns : String) : ClientM σ Blob := do
  match ← tryGet Kind.secret ⟨ns, gatewayHostKeyName⟩ with
  | .ok secret => pure (Secret.entry secret keyHostKeyPrivate)
  | .error e =>
    if e.isNotFound then
      let kp ← generateKeyPair "kubepark-gateway"
      match ← tryCreate Kind.secret (buildGatewayHostKeySecret ns kp) with
      | .ok _ => pure kp.privatePEM
      | .error e =>
        if e.isAlreadyExists then
          match ← tryGet Kind.secret ⟨ns, gatewayHostKeyName⟩ with
          | .ok existing => pure (Secret.entry existing keyHostKeyPrivate)
          | .error _ => Routine.fail e
        else Routine.fail e
    else Routine.fail e

/-! ## Secrets that stay -/

/-- The Secrets that are made on first use. -/
def bootKeys (ns : String) : List ObjectKey :=
  [⟨ns, caSecretName⟩, ⟨ns, gatewayHostKeyName⟩]

/-- They stay as they are, once they are there. -/
def Stays (ns : String) (c c' : Cluster) : Prop :=
  ∀ key ∈ bootKeys ns, ∀ s, c.find? .secret key = some s → c'.find? .secret key = some s

/-- What was stored at any time is stored now. -/
def Lasting (ns : String) (w : Timeline Cluster) : Prop :=
  ∀ c₀, w.past c₀ → Stays ns c₀ w.now

/-- What the callers do, and may rely on the others to do. -/
def Settles (ns : String) (w w' : Timeline Cluster) : Prop :=
  ∃ c', w' = w.onto c' ∧ Stays ns w.now c'

/-- The calls of a caller. -/
def BootOp : Call → Prop
  | .get _ _ | .create _ _ | .fresh => True
  | _ => False

section Calls

variable {ns : String} {op : Call} {c c' : Cluster} {a : Resp Spec Status op}
  {w w' : Timeline Cluster} {key : ObjectKey}

theorem BootOp.stays (hop : BootOp op) (hs : Step op c a c') : Stays ns c c' := by
  intro key _ s hstored
  cases hs' : c'.find? .secret key with
  | none =>
    cases hs.gone hstored hs' with
    | deleted _ hop' | finalized _ hop' =>
      subst hop'
      exact hop.elim
  | some s' =>
    cases hs.written hs' with
    | kept hold => exact hold.symm.trans hstored
    | created _ _ _ hnone => exact nomatch hstored.symm.trans hnone
    | updated _ _ hop' | statusUpdated _ _ hop' | patched _ _ hop' | statusPatched _ _ hop'
    | terminated _ _ hop' =>
      subst hop'
      exact hop.elim

theorem Lasting.settles (hw : Lasting ns w) (h : Settles ns w w') : Lasting ns w' := by
  obtain ⟨c', rfl, hstays⟩ := h
  rintro c₀ (hc₀ | rfl) key hkey s hs
  · exact hstays key hkey s (hw c₀ hc₀ key hkey s hs)
  · exact hs

theorem Lasting.settled (hw : Lasting ns w) (h : Relation.ReflTransGen (Settles ns) w w') :
    Lasting ns w' ∧ Stays ns w.now w'.now := by
  induction h with
  | refl => exact ⟨hw, fun _ _ _ hs => hs⟩
  | tail _ hstep ih =>
    refine ⟨ih.1.settles hstep, fun key hkey s hs => ?_⟩
    obtain ⟨c', rfl, hstays⟩ := hstep
    exact hstays key hkey s (ih.2 key hkey s hs)

theorem BootOp.rely (ns : String) (hop : BootOp op) (h : lagging Step Op.isRead op w a w') :
    w' = w ∨ Settles ns w w' := by
  cases hread : op.isRead with
  | true => exact Or.inl (Prog.lagging_read hread h).1
  | false =>
    obtain ⟨c', hs, rfl⟩ := Prog.lagging_write hread h
    exact Or.inr ⟨c', rfl, hop.stays hs⟩

/-- A call of a caller, and then what the others do. -/
def BootStep (ns : String) (op : Call) (w : Timeline Cluster) (a : Resp Spec Status op)
    (w' : Timeline Cluster) : Prop :=
  Prog.interleaved (lagging Step Op.isRead) (Settles ns) op w a w'

/-- A call of a caller in a state whose past is stored. -/
def Booting (ns : String) (op : Call) (w : Timeline Cluster) : Prop :=
  BootOp op ∧ Lasting ns w

theorem Booting.after (h : Booting ns op w) (ha : BootStep ns op w a w') : Lasting ns w' := by
  obtain ⟨w₁, hstep, hsteps⟩ := ha
  rcases h.1.rely ns hstep with rfl | hsettles
  · exact (h.2.settled hsteps).1
  · exact ((h.2.settles hsettles).settled hsteps).1

/-- What a read returns is what is stored. -/
theorem boot_get {s : Secret} (hw : Lasting ns w) (hkey : key ∈ bootKeys ns)
    (h : BootStep ns (.get .secret key) w (.ok s) w') : w'.now.find? .secret key = some s := by
  obtain ⟨w₁, hget, hsteps⟩ := h
  obtain ⟨rfl, rfl, c₀, hc₀, hs⟩ := seen_of_get hget
  exact (hw.settled hsteps).2 _ hkey s (hw c₀ hc₀ _ hkey s hs)

/-- What a creation returns is what is stored. -/
theorem boot_create {o s : Secret} (hw : Lasting ns w) (hkey : o.key ∈ bootKeys ns)
    (h : BootStep ns (.create .secret o) w (.ok s) w') :
    w'.now.find? .secret o.key = some s ∧ s.spec = o.spec := by
  obtain ⟨w₁, hcreate, hsteps⟩ := h
  obtain ⟨c', hs, rfl⟩ := Prog.lagging_write rfl hcreate
  have hop : BootOp (.create .secret o) := trivial
  have hw₁ : Lasting ns (w.onto c') := hw.settles ⟨c', rfl, hop.stays hs⟩
  obtain ⟨-, rfl, rfl⟩ := hs.create_ok
  refine ⟨(hw₁.settled hsteps).2 _ hkey _ ?_, rfl⟩
  exact find?_write_self w.now .secret (w.now.created o)

/-! ## The callers -/

theorem wp_tryFresh_boot {Q : Except ApiError Nat → Unit → Timeline Cluster → Prop}
    (hw : Lasting ns w) (hQ : ∀ r w', Lasting ns w' → Q r () w') :
    (tryFresh : ClientM Unit _).wp (BootStep ns) (Booting ns) Q () w := by
  have hbooting : Booting ns .fresh w := ⟨trivial, hw⟩
  exact wp_lift.mpr ⟨hbooting, fun r w' h => hQ r w' (hbooting.after h)⟩

theorem wp_generateKeyPair_boot {Q : KeyPair → Unit → Timeline Cluster → Prop} (comment : String)
    (hw : Lasting ns w) (hQ : ∀ kp w', Lasting ns w' → Q kp () w') :
    (generateKeyPair comment : ClientM Unit KeyPair).wp (BootStep ns) (Booting ns) Q () w := by
  refine wp_bind.mpr (wp_tryFresh_boot hw fun r w₁ hw₁ => ?_)
  refine wp_bind.mpr (wp_ofExcept.mpr fun key _ => ?_)
  exact hQ _ w₁ hw₁

theorem wp_newCookieKey_boot {Q : Blob → Unit → Timeline Cluster → Prop} (hw : Lasting ns w)
    (hQ : ∀ b w', Lasting ns w' → Q b () w') :
    (newCookieKey : ClientM Unit Blob).wp (BootStep ns) (Booting ns) Q () w := by
  refine wp_bind.mpr (wp_tryFresh_boot hw fun r w₁ hw₁ => ?_)
  refine wp_bind.mpr (wp_ofExcept.mpr fun key _ => ?_)
  exact hQ _ w₁ hw₁

/-- The pattern of both : a Secret that is read is what is stored, and so is one that is created. -/
theorem wp_tryGet_boot {α : Type} {f : Except ApiError Secret → ClientM Unit α}
    {Q : α → Unit → Timeline Cluster → Prop} (hw : Lasting ns w) (hkey : key ∈ bootKeys ns)
    (hok : ∀ s w', Lasting ns w' → w'.now.find? .secret key = some s →
      (f (.ok s)).wp (BootStep ns) (Booting ns) Q () w')
    (herror : ∀ e w', Lasting ns w' → (f (.error e)).wp (BootStep ns) (Booting ns) Q () w') :
    (tryGet Kind.secret key >>= f).wp (BootStep ns) (Booting ns) Q () w := by
  have hbooting : Booting ns (.get .secret key) w := ⟨trivial, hw⟩
  refine wp_bind.mpr (wp_lift.mpr
    ⟨hbooting, fun r w' h => ?_⟩)
  cases r with
  | ok s => exact hok s w' (hbooting.after h) (boot_get hw hkey h)
  | error e => exact herror e w' (hbooting.after h)

theorem wp_tryCreate_boot {α : Type} {o : Secret} {f : Except ApiError Secret → ClientM Unit α}
    {Q : α → Unit → Timeline Cluster → Prop} (hw : Lasting ns w) (hkey : o.key ∈ bootKeys ns)
    (hok : ∀ s w', w'.now.find? .secret o.key = some s → s.spec = o.spec →
      (f (.ok s)).wp (BootStep ns) (Booting ns) Q () w')
    (herror : ∀ e w', Lasting ns w' → (f (.error e)).wp (BootStep ns) (Booting ns) Q () w') :
    (tryCreate Kind.secret o >>= f).wp (BootStep ns) (Booting ns) Q () w := by
  have hbooting : Booting ns (.create .secret o) w := ⟨trivial, hw⟩
  refine wp_bind.mpr (wp_lift.mpr
    ⟨hbooting, fun r w' h => ?_⟩)
  cases r with
  | ok s =>
    obtain ⟨hs, hspec⟩ := boot_create hw hkey h
    exact hok s w' hs hspec
  | error e => exact herror e w' (hbooting.after h)

theorem wp_ensureCASecret_boot (hw : Lasting ns w) :
    (ensureCASecret ns : ClientM Unit Secret).wp (BootStep ns) (Booting ns)
      (fun s _ w' => w'.now.find? .secret ⟨ns, caSecretName⟩ = some s) () w := by
  have hkey : (⟨ns, caSecretName⟩ : ObjectKey) ∈ bootKeys ns := by simp [bootKeys]
  refine wp_tryGet_boot hw hkey (fun s w₁ _ hs => hs) fun e w₁ hw₁ => ?_
  refine wp_ite (fun _ => ?_) fun _ => trivial
  refine wp_bind.mpr (wp_generateKeyPair_boot _ hw₁ fun userCA w₂ hw₂ => ?_)
  refine wp_bind.mpr (wp_generateKeyPair_boot _ hw₂ fun hostCA w₃ hw₃ => ?_)
  refine wp_bind.mpr (wp_newCookieKey_boot hw₃ fun hmacKey w₄ hw₄ => ?_)
  refine wp_tryCreate_boot hw₄ hkey (fun s w₅ hs _ => hs) fun e w₅ hw₅ => ?_
  refine wp_ite (fun _ => ?_) fun _ => trivial
  -- Lost the race.
  exact wp_tryGet_boot hw₅ hkey (fun s w₆ _ hs => hs) fun _ _ _ => trivial

theorem wp_gatewayHostKey_boot (hw : Lasting ns w) :
    (gatewayHostKey ns : ClientM Unit Blob).wp (BootStep ns) (Booting ns)
      (fun b _ w' => ∃ s, w'.now.find? .secret ⟨ns, gatewayHostKeyName⟩ = some s ∧
        Secret.entry s keyHostKeyPrivate = b) () w := by
  have hkey : (⟨ns, gatewayHostKeyName⟩ : ObjectKey) ∈ bootKeys ns := by simp [bootKeys]
  refine wp_tryGet_boot hw hkey (fun s w₁ _ hs => ⟨s, hs, rfl⟩) fun e w₁ hw₁ => ?_
  refine wp_ite (fun _ => ?_) fun _ => trivial
  refine wp_bind.mpr (wp_generateKeyPair_boot _ hw₁ fun kp w₂ hw₂ => ?_)
  refine wp_tryCreate_boot hw₂ hkey (fun s w₃ hs hspec => ⟨s, hs, ?_⟩) fun e w₃ hw₃ => ?_
  · rw [Secret.entry, hspec]
    rfl
  refine wp_ite (fun _ => ?_) fun _ => trivial
  exact wp_tryGet_boot hw₃ hkey (fun s w₄ _ hs => ⟨s, hs, rfl⟩) fun _ _ _ => trivial

end Calls

/-! ## All of them together -/

/-- What the operator and the gateways call. -/
inductive BootThread
  | ensureCASecret
  | gatewayHostKey

/-- What a call returns. -/
inductive Loaded
  | ca (secret : Secret)
  | hostKey (key : Blob)

def BootThread.body (ns : String) : BootThread → Prog Call (Resp Spec Status) (Except ApiError Loaded)
  | .ensureCASecret =>
    ((Kubepark.ensureCASecret ns : ClientM Unit Secret) ()).bind fun r => .pure (r.1.map .ca)
  | .gatewayHostKey =>
    ((Kubepark.gatewayHostKey ns : ClientM Unit Blob) ()).bind fun r => .pure (r.1.map .hostKey)

abbrev BootPool :=
  Pool Call (Resp Spec Status) (Timeline Cluster) BootThread (Except ApiError Loaded)

/-- A step of any number of callers, beside others that leave the Secrets alone once they are
there. -/
def BootRun (ns : String) (pool pool' : BootPool) : Prop :=
  PoolStep (lagging Step Op.isRead) (BootThread.body ns) (fun _ _ => True) (Elapses (Stays ns))
    pool pool'

/-- What is returned is what is stored. -/
def Loaded.Stored (ns : String) (c : Cluster) : Loaded → Prop
  | .ca secret => c.find? .secret ⟨ns, caSecretName⟩ = some secret
  | .hostKey key => ∃ secret, c.find? .secret ⟨ns, gatewayHostKeyName⟩ = some secret ∧
    Secret.entry secret keyHostKeyPrivate = key

section Together

variable {ns : String} {w : Timeline Cluster} {pool : BootPool}

theorem safe_bootThread (hw : Lasting ns w) (l : BootThread) :
    (l.body ns).Safe (lagging Step Op.isRead) (Settles ns)
      (fun r w' => ∀ loaded, r = .ok loaded → loaded.Stored ns w'.now) w := by
  intro w' hsteps
  have hw' := (hw.settled hsteps).1
  have hcalls : ∀ (op : Call) w, Booting ns op w → ∀ a w', lagging Step Op.isRead op w a w' →
      w' = w ∨ Settles ns w w' := fun op w h a w' ha => h.1.rely ns ha
  cases l with
  | ensureCASecret =>
    refine Prog.wp_bind.mpr (Prog.wp_mono (wp_ensureCASecret_boot hw') hcalls ?_)
    rintro ⟨r, _⟩ w₁ hr loaded hloaded
    cases r with
    | ok secret =>
      cases hloaded
      exact hr
    | error e => cases hloaded
  | gatewayHostKey =>
    refine Prog.wp_bind.mpr (Prog.wp_mono (wp_gatewayHostKey_boot hw') hcalls ?_)
    rintro ⟨r, _⟩ w₁ hr loaded hloaded
    cases r with
    | ok key =>
      cases hloaded
      exact hr
    | error e => cases hloaded

end Together

/-- Whatever any of the callers has returned without error is what is stored, in every run and with
reads that lag. So they all have the same keys. -/
theorem bootstrap_agreement (ns : String) (c : Cluster) {pool : BootPool}
    (hrun : Relation.ReflTransGen (BootRun ns) ⟨.start c, []⟩ pool) :
    (∀ secret, (.ensureCASecret, .pure (.ok (.ca secret))) ∈ pool.threads →
      pool.state.now.find? .secret ⟨ns, caSecretName⟩ = some secret) ∧
    ∀ key, (.gatewayHostKey, .pure (.ok (.hostKey key))) ∈ pool.threads →
      ∃ secret, pool.state.now.find? .secret ⟨ns, gatewayHostKeyName⟩ = some secret ∧
        Secret.entry secret keyHostKeyPrivate = key := by
  have hstart : (⟨.start c, []⟩ : BootPool).Safe (lagging Step Op.isRead) (Settles ns) (Lasting ns)
      (fun _ r w => ∀ loaded, r = .ok loaded → loaded.Stored ns w.now) := by
    refine ⟨?_, fun _ ht => absurd ht List.not_mem_nil⟩
    rintro _ rfl key _ s hs
    exact hs
  have hsafe := (Pool.run_safe (fun w w' hw h => Lasting.settles hw h)
    (fun w w' _ ⟨c', hstays, hw'⟩ => Or.inr ⟨c', hw', hstays⟩)
    (fun pool l hpool _ => safe_bootThread hpool.state l) hstart hrun).1
  exact ⟨fun secret ht => hsafe.result ht _ rfl, fun key ht => hsafe.result ht _ rfl⟩

/-! ## A race -/

/-- A random value is drawn. -/
def drawn (w : Timeline Cluster) : Timeline Cluster :=
  w.onto { w.now with entropy := w.now.entropy + 1 }

/-- A caller that has read that there is no Secret, and loses the race to create it, returns the
winner's. -/
theorem bootRun_lost {ns : String} {w : Timeline Cluster} {c₀ : Cluster} {s : Secret}
    (hpast : w.past c₀) (hnone : c₀.find? .secret ⟨ns, caSecretName⟩ = none)
    (hstored : w.now.find? .secret ⟨ns, caSecretName⟩ = some s)
    (hadmits : ∀ o : Secret, o.metadata.namespaceName = ns → w.now.admits .secret o = true)
    (ts : List (BootThread × Prog Call (Resp Spec Status) (Except ApiError Loaded))) :
    ∃ w', Relation.ReflTransGen (BootRun ns) ⟨w, ts⟩
      ⟨w', (.ensureCASecret, .pure (.ok (.ca s))) :: ts⟩ := by
  have hmissed : lagging Step Op.isRead (.get .secret ⟨ns, caSecretName⟩) w (.error .notFound) w := by
    refine ⟨rfl, c₀, c₀, hpast, Or.inl ⟨?_, ?_⟩⟩ <;> simp [handle, hnone]
  have hdrawn : ∀ w : Timeline Cluster,
      lagging Step Op.isRead .fresh w (.ok w.now.entropy) (drawn w) :=
    fun w => ⟨_, step_handle _ _, rfl⟩
  have hlost : ∀ (userCA hostCA : KeyPair) (hmacKey : Blob),
      lagging Step Op.isRead (.create .secret (buildCASecret ns userCA hostCA hmacKey))
        (drawn (drawn (drawn w))) (.error .alreadyExists)
        ((drawn (drawn (drawn w))).onto (drawn (drawn (drawn w))).now) := by
    intro userCA hostCA hmacKey
    have hold : (drawn (drawn (drawn w))).now.find? .secret
        (buildCASecret ns userCA hostCA hmacKey).key = some s := hstored
    have hin : (drawn (drawn (drawn w))).now.admits .secret
        (buildCASecret ns userCA hostCA hmacKey) = true :=
      hadmits (buildCASecret ns userCA hostCA hmacKey) rfl
    refine ⟨_, Or.inl ⟨?_, ?_⟩, rfl⟩ <;> simp [handle, hold, hin]
  have hwinner : lagging Step Op.isRead (.get .secret ⟨ns, caSecretName⟩)
      ((drawn (drawn (drawn w))).onto (drawn (drawn (drawn w))).now) (.ok s)
      ((drawn (drawn (drawn w))).onto (drawn (drawn (drawn w))).now) := by
    have hold : (drawn (drawn (drawn w))).now.find? .secret ⟨ns, caSecretName⟩ = some s := hstored
    refine ⟨rfl, (drawn (drawn (drawn w))).now, _, Or.inr rfl, Or.inl ⟨?_, rfl⟩⟩
    simp [handle, hold]
  have hstart : BootRun ns ⟨w, ts⟩ ⟨w, (.ensureCASecret, _) :: ts⟩ := .start trivial
  refine ⟨_, .head hstart (.head (PoolStep.last rfl hmissed) (.head (PoolStep.last rfl (hdrawn w))
    (.head (PoolStep.last rfl (hdrawn _)) (.head (PoolStep.last rfl (hdrawn _))
    (.head (PoolStep.last rfl (hlost _ _ _)) (.head (PoolStep.last rfl hwinner) .refl))))))⟩

namespace Team

/-- The operator's namespace, with nothing in it. -/
def unprepared : Cluster :=
  .ofObjects (fun
    | .namespace => [⟨{ name := "kubepark-system" }, (), ()⟩]
    | _ => []) 0

/-- One caller has made the Secret. -/
def made : Except ApiError Loaded × Timeline Cluster :=
  (BootThread.body "kubepark-system" .ensureCASecret).run (Prog.recalling handle Op.isRead unprepared)
    (.start unprepared)

end Team

/-- Two callers read that there is no Secret. Both return the one that the first has made. -/
theorem bootstrap_raced : ∃ (pool : BootPool) (secret : Secret),
    Relation.ReflTransGen (BootRun "kubepark-system") ⟨.start Team.unprepared, []⟩ pool ∧
    pool.threads = [(.ensureCASecret, .pure (.ok (.ca secret))),
      (.ensureCASecret, .pure (.ok (.ca secret)))] ∧
    pool.state.now.find? .secret ⟨"kubepark-system", caSecretName⟩ = some secret := by
  obtain ⟨t, hexec, hpast⟩ := Prog.exec_recalling (K := lagging Step Op.isRead)
    (fun op w hw => Prog.lagging_recalling step_handle Op.isRead op hw)
    (BootThread.body "kubepark-system" .ensureCASecret) (w := .start Team.unprepared) rfl
  have hmade : Relation.ReflTransGen (BootRun "kubepark-system") ⟨.start Team.unprepared, []⟩
      ⟨Team.made.2, [(.ensureCASecret, .pure Team.made.1)]⟩ := Pool.run_start trivial hexec
  obtain ⟨secret, hsecret⟩ : ∃ secret, Team.made.1 = .ok (.ca secret) := ⟨_, rfl⟩
  rw [hsecret] at hmade
  have hstored := (bootstrap_agreement "kubepark-system" Team.unprepared hmade).1 secret
    List.mem_cons_self
  have hnamespace : (Team.made.2.now.find? .namespace ⟨"", "kubepark-system"⟩).isSome = true := by
    decide +kernel
  have hadmits : ∀ o : Secret, o.metadata.namespaceName = "kubepark-system" →
      Team.made.2.now.admits .secret o = true := by
    intro o ho
    rw [ApiServer.admits, ho]
    exact hnamespace
  obtain ⟨w', hlost⟩ := bootRun_lost hpast rfl hstored hadmits
    [(.ensureCASecret, .pure (.ok (.ca secret)))]
  refine ⟨_, secret, hmade.trans hlost, rfl, ?_⟩
  exact (bootstrap_agreement "kubepark-system" Team.unprepared (hmade.trans hlost)).1 secret
    List.mem_cons_self

end Kubepark

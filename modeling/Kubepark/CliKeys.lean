import Kubepark.Cli

/-!
# The key pair of the command line

`ensureKeyPair` generates a key pair when there is no file for the private key, and writes the
private key before the public one. A command may be killed at any point, and a write may fail and
leave a part of its text (`FileStep`, `CliStep`).

The key pair is made once. A command that ends well where there was no private key leaves a whole
pair; from the moment there is a file for the private key, no command writes either file again. So
a command that is interrupted between the two writes is not repaired by a later one : without the
public key every `login` and every `sign-cert` ends with an error (`key_pair_made_once`).
-/

namespace Kubepark

namespace Cli

open ApiServer Client Gateway Routine

/-! ## Files -/

/-- The texts of the files by their paths. -/
abbrev Files := String → Option String

def Files.write (f : Files) (path content : String) : Files :=
  Function.update f path (some content)

/-- What a call does to the files of a user whose home is `home`. A write that fails may have
changed nothing, or have left a part of the text. -/
def FileStep (home : String) : (op : CliOp) → Files → CliResp op → Files → Prop
  | .userHomeDir, f, r, f' => f' = f ∧ ∀ dir, r = .ok dir → dir = home
  | .stat path, f, r, f' => f' = f ∧ (r = .ok () ↔ f path ≠ none)
  | .readFile path, f, r, f' => f' = f ∧ ∀ text, r = .ok text → f path = some text
  | .writeFile path content, f, r, f' =>
    f' = f.write path content ∨
      r ≠ .ok () ∧ (f' = f ∨ ∃ part, part.toList <+: content.toList ∧ f' = f.write path part)
  | _, f, _, f' => f' = f

/-- The directory of the key pair. -/
def keyDir (home : String) : String :=
  join home ".kubepark"

/-- The files of the key pair are the same. -/
def SameKeys (home : String) (f f' : Files) : Prop :=
  f' (privPath (keyDir home)) = f (privPath (keyDir home)) ∧
    f' (pubPath (keyDir home)) = f (pubPath (keyDir home))

/-- The files hold a private key and its public key. -/
def WholePair (kt : KeyText) (home : String) (f : Files) : Prop :=
  ∃ key, f (privPath (keyDir home)) = some (kt.write (.privatePEM key "kubepark-cli")) ∧
    f (pubPath (keyDir home)) = some (kt.write (.publicAuthorized key))

/-- What happens to the files : a command runs, to its end or until it is killed, or other files
change. -/
inductive CliStep (kt : KeyText) (home : String) : Files → Files → Prop
  | command {f f' : Files} {calls : List (CliOp × Files)} (cmd : Command)
    (h : (cmd.run kt ()).Visits (FileStep home) f calls f') : CliStep kt home f f'
  | others {f f' : Files} (h : SameKeys home f f') : CliStep kt home f f'

/-! ## Paths -/

/-- The name at the end of a path. -/
theorem name_join {dir name : String} (hname : '/' ∉ name.toList) :
    (join dir name).toList.reverse.takeWhile (· ≠ '/') = name.toList.reverse := by
  have hsplit : (join dir name).toList.reverse =
      name.toList.reverse ++ '/' :: dir.toList.reverse := by
    simp [join]
  rw [hsplit, List.takeWhile_append_of_pos]
  · simp
  · intro c hc
    have hne : c ≠ '/' := by
      rintro rfl
      exact hname (List.mem_reverse.mp hc)
    simpa using hne

theorem join_ne {dir dir' name name' : String} (hname : '/' ∉ name.toList)
    (hname' : '/' ∉ name'.toList) (hne : name ≠ name') : join dir name ≠ join dir' name' := by
  intro h
  have hsame : (join dir name).toList.reverse.takeWhile (· ≠ '/') = name.toList.reverse :=
    name_join hname
  rw [h, name_join hname'] at hsame
  exact hne (String.toList_inj.mp (List.reverse_injective hsame.symm))

theorem pubPath_eq (dir : String) : pubPath dir = join dir "id_ed25519.pub" := by
  have hname : "id_ed25519" ++ ".pub" = "id_ed25519.pub" := by decide
  rw [pubPath, privPath, join, join, String.append_assoc, hname]

theorem pubPath_ne_privPath (dir : String) : pubPath dir ≠ privPath dir := by
  rw [pubPath_eq]
  exact join_ne (by decide) (by decide) (by decide)

/-- A call that writes neither of the key files. -/
def Spares (home : String) (op : CliOp) : Prop :=
  ∀ path content, op = .writeFile path content →
    path ≠ privPath (keyDir home) ∧ path ≠ pubPath (keyDir home)

/-- A file with another name in any directory. -/
theorem spares_writeFile {home dir name content : String} (hslash : '/' ∉ name.toList)
    (hpriv : name ≠ "id_ed25519") (hpub : name ≠ "id_ed25519.pub") :
    Spares home (.writeFile (join dir name) content) := by
  rintro path content' h
  cases h
  refine ⟨join_ne hslash (by decide) hpriv, ?_⟩
  rw [pubPath_eq]
  exact join_ne hslash (by decide) hpub

section Kept

variable {kt : KeyText} {home : String} {f f' f'' : Files} {α β : Type}

theorem SameKeys.refl (home : String) (f : Files) : SameKeys home f f :=
  ⟨rfl, rfl⟩

theorem SameKeys.trans (h : SameKeys home f f') (h' : SameKeys home f' f'') :
    SameKeys home f f'' :=
  ⟨h'.1.trans h.1, h'.2.trans h.2⟩

theorem sameKeys_write {path content : String} (hpriv : path ≠ privPath (keyDir home))
    (hpub : path ≠ pubPath (keyDir home)) : SameKeys home f (f.write path content) :=
  ⟨Function.update_of_ne hpriv.symm _ _, Function.update_of_ne hpub.symm _ _⟩

/-- What a call does that spares the key files. -/
theorem Spares.sameKeys {op : CliOp} {r : CliResp op} (hop : Spares home op)
    (h : FileStep home op f r f') : SameKeys home f f' := by
  cases op with
  | userHomeDir | stat | readFile =>
    obtain ⟨rfl, -⟩ := h
    exact .refl _ _
  | writeFile path content =>
    obtain ⟨hpriv, hpub⟩ := hop path content rfl
    rcases h with rfl | ⟨-, rfl | ⟨part, -, rfl⟩⟩
    · exact sameKeys_write hpriv hpub
    · exact .refl _ _
    · exact sameKeys_write hpriv hpub
  | _ =>
    obtain rfl : f' = f := h
    exact .refl _ _

theorem WholePair.sameKeys (h : WholePair kt home f) (hsame : SameKeys home f f') :
    WholePair kt home f' := by
  obtain ⟨key, hpriv, hpub⟩ := h
  exact ⟨key, hsame.1.trans hpriv, hsame.2.trans hpub⟩

/-! ## What the commands do to the key files -/

/-- A routine that spares the key files. -/
abbrev SparesKeys (home : String) (x : CliM α) : Prop :=
  x.Frame (Spares home) id

/-- Wherever it is and however it ends, a routine that spares the key files has left them as they
were. -/
theorem SparesKeys.wp {x : CliM α} (hx : SparesKeys home x) (f : Files) :
    (x ()).wp (FileStep home) (fun _ f' => SameKeys home f f') (fun _ f' => SameKeys home f f') f :=
  Prog.wp_mono ((hx ()).preserves (fun _ _ _ _ hop hstep hsame => hsame.trans (hop.sameKeys hstep))
    (.refl home f)) (fun _ _ h => h.2) fun _ _ h => h.2

theorem sparesKeys_ask {op : CliOp} (hop : ∀ path content, op ≠ .writeFile path content) :
    SparesKeys home (ask op) :=
  frame_call fun path content h => absurd h (hop path content)

theorem sparesKeys_write {dir name content : String} (hslash : '/' ∉ name.toList)
    (hpriv : name ≠ "id_ed25519") (hpub : name ≠ "id_ed25519.pub") :
    SparesKeys home (ask (.writeFile (join dir name) content)) :=
  frame_call (spares_writeFile hslash hpriv hpub)

theorem sparesKeys_api (x : ClientM Unit α) : SparesKeys home (api x) := by
  intro st
  refine Prog.Within.via _ _ (((Prog.within_true (x st)).imp ?_).mono fun _ _ => rfl)
  intro op _ path content h
  cases h

theorem sparesKeys_decoded (r : Option α) : SparesKeys home (decoded r) := by
  cases r with
  | none => exact frame_fail _
  | some a => exact frame_pure _

/-- The calls whose answer is used as it is. -/
theorem sparesKeys_ofExcept {r : Except ApiError α} {g : α → CliM β}
    (hg : ∀ a, SparesKeys home (g a)) : SparesKeys home (Routine.ofExcept r >>= g) :=
  (frame_ofExcept r).bind hg

theorem sparesKeys_configDir : SparesKeys home configDir := by
  refine (sparesKeys_ask (by simp)).bind fun _ => sparesKeys_ofExcept fun _ => ?_
  exact (sparesKeys_ask (by simp)).bind fun _ => sparesKeys_ofExcept fun _ => frame_pure _

theorem sparesKeys_certPath : SparesKeys home certPath :=
  sparesKeys_configDir.bind fun _ => frame_pure _

/-- What follows `certPath` writes to the file of the certificate. -/
theorem sparesKeys_certPath_bind {g : String → CliM β}
    (hg : ∀ dir, SparesKeys home (g (join dir "id_ed25519-cert.pub"))) :
    SparesKeys home (certPath >>= g) := by
  intro st
  have hcert : (certPath st).Within (Spares home) fun r =>
      ∀ out, r.1 = .ok out → ∃ dir, out = join dir "id_ed25519-cert.pub" := by
    refine (sparesKeys_configDir st).bind fun r _ => ?_
    rcases r with ⟨r | dir, _⟩
    · exact nofun
    · intro out hout
      cases hout
      exact ⟨dir, rfl⟩
  refine hcert.bind fun r hr => ?_
  rcases r with ⟨e | out, _⟩
  · rfl
  · obtain ⟨dir, rfl⟩ := hr out rfl
    exact hg dir _

theorem sparesKeys_writeCert (content : String) :
    SparesKeys home (certPath >>= fun out => ask (.writeFile out content) >>= Routine.ofExcept) :=
  sparesKeys_certPath_bind fun _ =>
    (sparesKeys_write (by decide) (by decide) (by decide)).bind fun r => frame_ofExcept r

theorem sparesKeys_fetchGatewayConfig (gatewayURL : String) :
    SparesKeys home (fetchGatewayConfig gatewayURL) :=
  (sparesKeys_ask (by simp)).bind fun _ => sparesKeys_ofExcept fun _ => sparesKeys_decoded _

theorem sparesKeys_callback (redirectURL state verifier queryState code : String) :
    SparesKeys home (callback redirectURL state verifier queryState code) := by
  refine frame_ite ((sparesKeys_ask (by simp)).bind fun _ => frame_fail _) ?_
  refine (sparesKeys_ask (by simp)).bind fun r => ?_
  match r with
  | .error e => exact (sparesKeys_ask (by simp)).bind fun _ => frame_fail _
  | .ok none => exact (sparesKeys_ask (by simp)).bind fun _ => frame_fail _
  | .ok (some rawID) => exact (sparesKeys_ask (by simp)).bind fun _ => frame_pure _

theorem sparesKeys_oidcAuthCodeFlow (clientID : String) :
    SparesKeys home (oidcAuthCodeFlow clientID) := by
  refine (sparesKeys_ask (by simp)).bind fun _ => sparesKeys_ofExcept fun addr => ?_
  refine (sparesKeys_ask (by simp)).bind fun verifier => ?_
  refine (sparesKeys_ask (by simp)).bind fun state => ?_
  refine (sparesKeys_ask (by simp)).bind fun _ => (sparesKeys_ask (by simp)).bind fun event => ?_
  cases event with
  | canceled e => exact frame_fail _
  | timedOut => exact frame_fail _
  | callback queryState code => exact sparesKeys_callback _ _ _ _ _

theorem sparesKeys_requestCert (gatewayURL publicKey idToken : String) :
    SparesKeys home (requestCert gatewayURL publicKey idToken) :=
  (sparesKeys_ask (by simp)).bind fun _ => sparesKeys_ofExcept fun _ =>
    frame_ite (frame_fail _) (sparesKeys_decoded _)

theorem sparesKeys_knownHostsLines (dir hostCAPath : String) :
    SparesKeys home (knownHostsLines dir hostCAPath) := by
  refine frame_ite ?_ (frame_pure _)
  refine (sparesKeys_ask (by simp)).bind fun _ => sparesKeys_ofExcept fun _ => ?_
  exact (sparesKeys_write (by decide) (by decide) (by decide)).bind fun _ =>
    sparesKeys_ofExcept fun _ => frame_pure _

theorem sparesKeys_execSSH (cfgPath target : String) : SparesKeys home (execSSH cfgPath target) :=
  (sparesKeys_ask (by simp)).bind fun _ => sparesKeys_ofExcept fun _ =>
    (sparesKeys_ask (by simp)).bind fun r => frame_ofExcept r

/-! ## The pair is made once -/

/-- Where there is a private key the routine leaves the pair alone, and where there is none it
leaves a whole one, if it ends well. -/
structure MakesPair (kt : KeyText) (home : String) (x : CliM α) : Prop where
  stable : ∀ f, f (privPath (keyDir home)) ≠ none →
    (x ()).wp (FileStep home) (fun _ f' => SameKeys home f f') (fun _ f' => SameKeys home f f') f
  made : ∀ f, f (privPath (keyDir home)) = none →
    x.wp (FileStep home) (fun _ _ => True) (fun _ _ f' => WholePair kt home f') () f

theorem makesPair_fail (e : ApiError) : MakesPair kt home (Routine.fail e : CliM α) :=
  ⟨fun f _ => .refl home f, fun _ _ => trivial⟩

theorem makesPair_ite {p : Prop} [Decidable p] {x y : CliM α} (hx : MakesPair kt home x)
    (hy : MakesPair kt home y) : MakesPair kt home (if p then x else y) := by
  split_ifs
  · exact hx
  · exact hy

/-- What comes before does not matter. -/
theorem SparesKeys.bind_makesPair {x : CliM α} {g : α → CliM β} (hx : SparesKeys home x)
    (hg : ∀ a, MakesPair kt home (g a)) : MakesPair kt home (x >>= g) := by
  refine ⟨fun f hf => ?_, fun f hf => ?_⟩
  · refine wp_all_bind (hx.wp f) (fun a _ f' hsame => ?_) fun _ _ _ => id
    exact Prog.wp_mono ((hg a).stable f' (hsame.1.symm ▸ hf)) (fun _ _ => hsame.trans)
      fun _ _ => hsame.trans
  · refine wp_bind.mpr (Prog.wp_mono (hx.wp f) (fun _ _ _ => trivial) ?_)
    rintro ⟨e | a, _⟩ f' hsame
    · trivial
    · exact (hg a).made f' (hsame.1.trans hf)

/-- Nor does what comes after. -/
theorem MakesPair.bind {x : CliM α} {g : α → CliM β} (hx : MakesPair kt home x)
    (hg : ∀ a, SparesKeys home (g a)) : MakesPair kt home (x >>= g) := by
  refine ⟨fun f hf => ?_, fun f hf => ?_⟩
  · refine wp_all_bind (hx.stable f hf) (fun a _ f' hsame => ?_) fun _ _ _ => id
    exact Prog.wp_mono ((hg a).wp f') (fun _ _ => hsame.trans) fun _ _ => hsame.trans
  · refine wp_bind.mpr (wp_post (hx.made f hf) fun a _ f' hwhole => ?_)
    refine Prog.wp_mono ((hg a).wp f') (fun _ _ _ => trivial) ?_
    rintro ⟨e | b, _⟩ f'' hsame
    · trivial
    · exact hwhole.sameKeys hsame

/-- The directory is the one in the user's home. -/
theorem wp_configDir (f : Files) : (configDir ()).wp (FileStep home)
    (fun _ f' => SameKeys home f f')
    (fun r f' => SameKeys home f f' ∧ ∀ dir, r.1 = .ok dir → dir = keyDir home) f := by
  refine wp_all_ask_bind (.refl _ _) ?_
  rintro (e | dir) f₁ ⟨rfl, hhome⟩
  · exact ⟨.refl _ _, nofun⟩
  obtain rfl := hhome dir rfl
  refine wp_all_ask_bind (.refl _ _) ?_
  rintro (e | _) f₂ hf₂
  · obtain rfl : f₂ = f₁ := hf₂
    exact ⟨.refl _ _, nofun⟩
  · obtain rfl : f₂ = f₁ := hf₂
    refine ⟨.refl _ _, fun dir' hdir => ?_⟩
    cases hdir
    rfl

/-- A key pair that is generated is one. -/
theorem within_generateKeyPair (comment : String) :
    ((generateKeyPair comment : ClientM Unit KeyPair) ()).Within (fun _ => True) fun r =>
      ∀ kp, r.1 = .ok kp → ∃ key, kp = ⟨.privatePEM key comment, .publicAuthorized key⟩ := by
  refine ⟨trivial, fun r => ?_⟩
  cases r with
  | error e => exact nofun
  | ok key =>
    intro kp hkp
    cases hkp
    exact ⟨key, rfl⟩

theorem wp_generateKeyPair (comment : String) (f : Files) :
    (api (generateKeyPair comment) ()).wp (FileStep home) (fun _ _ => True) (fun r f' => f' = f ∧
      ∀ kp, r.1 = .ok kp → ∃ key, kp = ⟨.privatePEM key comment, .publicAuthorized key⟩) f := by
  refine Prog.wp_via _ _ ((within_generateKeyPair comment).wp ?_)
  refine Prog.wp_mono (Prog.wp_preserves (I := (· = f)) ?_ (Prog.wp_true _ _) rfl)
    (fun _ _ _ => trivial) fun r f' h hkp => ⟨h.2, hkp⟩
  rintro op f₁ r f₂ - ⟨_, -, hstep⟩ rfl
  exact hstep

/-- What a write does that ends well. -/
theorem write_of_ok {path content : String} {r : Except ApiError Unit}
    (h : FileStep home (.writeFile path content) f r f') (hr : r = .ok ()) :
    f' = f.write path content := by
  rcases h with h | ⟨hne, -⟩
  · exact h
  · exact absurd hr hne

/-- A private key that is there is used as it is. -/
theorem wp_ensureKeyPair (hf : f (privPath (keyDir home)) ≠ none) :
    (ensureKeyPair kt ()).wp (FileStep home) (fun _ f' => SameKeys home f f')
      (fun r f' => SameKeys home f f' ∧
        ∀ paths, r.1 = .ok paths → paths = (privPath (keyDir home), pubPath (keyDir home))) f := by
  refine wp_all_bind (wp_configDir f) ?_ fun _ _ _ h => ⟨h.1, nofun⟩
  rintro dir _ f₁ ⟨hsame, hdir⟩
  obtain rfl := hdir dir rfl
  refine wp_all_ask_bind hsame fun r f₂ ⟨hf₂, hstat⟩ => ?_
  obtain rfl : r = .ok () := hstat.mpr (hsame.1.symm ▸ hf)
  subst hf₂
  refine ⟨hsame, fun paths hpaths => ?_⟩
  cases hpaths
  rfl

theorem makesPair_ensureKeyPair : MakesPair kt home (ensureKeyPair kt) := by
  refine ⟨fun f hf => ?_, fun f hf => ?_⟩
  · exact Prog.wp_mono (wp_ensureKeyPair hf) (fun _ _ => id) fun _ _ h => h.1
  · refine wp_all_bind (Prog.wp_mono (wp_configDir f) (fun _ _ _ => trivial) fun _ _ => id)
      ?_ fun _ _ _ _ => trivial
    rintro dir _ f₁ ⟨hsame, hdir⟩
    obtain rfl := hdir dir rfl
    refine wp_all_ask_bind trivial fun r f₂ ⟨hf₂, hstat⟩ => ?_
    subst hf₂
    cases r with
    | ok _ => exact absurd (hsame.1.trans hf) (hstat.mp rfl)
    | error e =>
    refine wp_all_bind (wp_generateKeyPair _ _) ?_ fun _ _ _ _ => trivial
    rintro kp _ f₃ ⟨-, hkp⟩
    obtain ⟨key, rfl⟩ := hkp kp rfl
    refine wp_all_ask_bind trivial fun r f₄ hwrite => ?_
    cases r with
    | error e => trivial
    | ok _ =>
    obtain rfl := write_of_ok hwrite rfl
    refine wp_all_ask_bind trivial fun r f₅ hwrite => ?_
    cases r with
    | error e => trivial
    | ok _ =>
    obtain rfl := write_of_ok hwrite rfl
    refine ⟨key, ?_, Function.update_self _ _ _⟩
    exact (Function.update_of_ne (pubPath_ne_privPath _).symm _ _).trans
      (Function.update_self _ _ _)

theorem makesPair_run (cmd : Command) : MakesPair kt home (cmd.run kt) := by
  cases cmd with
  | login gatewayURL =>
    refine makesPair_ite (makesPair_fail _) ((sparesKeys_fetchGatewayConfig _).bind_makesPair
      fun cfg => makesPair_ite (makesPair_fail _) ?_)
    refine (sparesKeys_ask (by simp)).bind_makesPair fun r =>
      SparesKeys.bind_makesPair (frame_ofExcept _) fun _ =>
        (sparesKeys_oidcAuthCodeFlow _).bind_makesPair fun idToken => ?_
    refine makesPair_ensureKeyPair.bind fun paths => ?_
    refine (sparesKeys_ask (by simp)).bind fun _ => sparesKeys_ofExcept fun pub => ?_
    exact (sparesKeys_requestCert _ _ _).bind fun response => sparesKeys_writeCert _
  | signCert principal ns ttl =>
    refine makesPair_ite (makesPair_fail _) (makesPair_ensureKeyPair.bind fun paths => ?_)
    refine (sparesKeys_ask (by simp)).bind fun _ => sparesKeys_ofExcept fun pub => ?_
    refine (sparesKeys_ask (by simp)).bind fun _ => sparesKeys_ofExcept fun _ => ?_
    refine ((sparesKeys_api _).runFrom _).bind fun result => sparesKeys_ofExcept fun secret => ?_
    refine sparesKeys_ofExcept fun signer => (sparesKeys_api _).bind fun cert => ?_
    exact sparesKeys_writeCert _
  | ssh sandbox ns gatewayAddr gatewayUser hostCAPath printConfig =>
    refine MakesPair.bind (sparesKeys_configDir.bind_makesPair fun dir =>
      makesPair_ensureKeyPair.bind fun paths => ?_) fun cfgPath => ?_
    · refine sparesKeys_certPath.bind fun cert => (sparesKeys_knownHostsLines _ _).bind fun _ => ?_
      exact (sparesKeys_write (by decide) (by decide) (by decide)).bind fun _ =>
        sparesKeys_ofExcept fun _ => frame_pure _
    · exact frame_ite (frame_pure _) (sparesKeys_execSSH _ _)

/-! ## Without the public key -/

/-- Where there is a private key without its public key, the routine does not end well. -/
def Stuck (home : String) (x : CliM α) : Prop :=
  ∀ f, f (privPath (keyDir home)) ≠ none → f (pubPath (keyDir home)) = none →
    (x ()).wp (FileStep home) (fun _ _ => True) (fun r _ => ∃ e, r.1 = .error e) f

theorem stuck_fail (e : ApiError) : Stuck home (Routine.fail e : CliM α) :=
  fun _ _ _ => ⟨e, rfl⟩

theorem stuck_ite {p : Prop} [Decidable p] {x y : CliM α} (hx : Stuck home x) (hy : Stuck home y) :
    Stuck home (if p then x else y) := by
  split_ifs
  · exact hx
  · exact hy

theorem SparesKeys.bind_stuck {x : CliM α} {g : α → CliM β} (hx : SparesKeys home x)
    (hg : ∀ a, Stuck home (g a)) : Stuck home (x >>= g) := by
  intro f hpriv hpub
  refine wp_all_bind (Prog.wp_mono (hx.wp f) (fun _ _ _ => trivial) fun _ _ => id) ?_ ?_
  · exact fun a _ f' hsame => hg a f' (hsame.1.symm ▸ hpriv) (hsame.2.trans hpub)
  · exact fun e _ _ _ => ⟨e, rfl⟩

/-- The public key is read and not found. -/
theorem stuck_readFile {g : String → CliM β} : Stuck home (do
    let paths ← ensureKeyPair kt
    let pub ← Routine.ofExcept (← ask (.readFile paths.2))
    g pub) := by
  intro f hpriv hpub
  refine wp_all_bind (Prog.wp_mono (wp_ensureKeyPair hpriv) (fun _ _ _ => trivial)
    fun _ _ => id) ?_ fun e _ _ _ => ⟨e, rfl⟩
  rintro paths _ f₁ ⟨hsame, hpaths⟩
  obtain rfl := hpaths paths rfl
  refine wp_all_ask_bind trivial fun r f₂ ⟨_, hread⟩ => ?_
  cases r with
  | error e => exact ⟨e, rfl⟩
  | ok text => exact absurd (hread text rfl) (by simp [hsame.2.trans hpub])

/-- The commands that need the public key. -/
def Command.readsPublicKey : Command → Bool
  | .login _ => true
  | .signCert _ _ _ => true
  | .ssh _ _ _ _ _ _ => false

theorem stuck_run {cmd : Command} (hcmd : cmd.readsPublicKey = true) :
    Stuck home (cmd.run kt) := by
  cases cmd with
  | login gatewayURL =>
    refine stuck_ite (stuck_fail _) ((sparesKeys_fetchGatewayConfig _).bind_stuck fun cfg =>
      stuck_ite (stuck_fail _) ?_)
    refine (sparesKeys_ask (by simp)).bind_stuck fun r =>
      SparesKeys.bind_stuck (frame_ofExcept _) fun _ => ?_
    exact (sparesKeys_oidcAuthCodeFlow _).bind_stuck fun idToken => stuck_readFile
  | signCert principal ns ttl => exact stuck_ite (stuck_fail _) stuck_readFile
  | ssh => cases hcmd

end Kept

/-! ## Whole runs -/

theorem CliStep.sameKeys {kt : KeyText} {home : String} {f f' : Files} (h : CliStep kt home f f')
    (hf : f (privPath (keyDir home)) ≠ none) : SameKeys home f f' := by
  cases h with
  | command cmd hvisits =>
    exact hvisits.holds ((makesPair_run cmd).stable f hf) (fun _ _ => id) fun _ _ => id
  | others hsame => exact hsame

theorem sameKeys_run {kt : KeyText} {home : String} {f f' : Files}
    (h : Relation.ReflTransGen (CliStep kt home) f f')
    (hf : f (privPath (keyDir home)) ≠ none) : SameKeys home f f' := by
  induction h with
  | refl => exact .refl home f
  | tail _ hstep ih => exact ih.trans (hstep.sameKeys (ih.1.symm ▸ hf))

/-- The key pair is made once. In every run of commands, each to its end or until it is killed, with
writes that may fail half way : from where there is a private key, or a part of one, neither file
changes any more. A command that ends well where there was none leaves a whole pair. But a private
key without its public key stays so, and from then on every `login` and every `sign-cert` ends with
an error. -/
theorem key_pair_made_once (kt : KeyText) (home : String) (f f' : Files)
    (hrun : Relation.ReflTransGen (CliStep kt home) f f') :
    (f (privPath (keyDir home)) ≠ none →
      f' (privPath (keyDir home)) = f (privPath (keyDir home)) ∧
        f' (pubPath (keyDir home)) = f (pubPath (keyDir home))) ∧
    (f' (privPath (keyDir home)) = none → ∀ (cmd : Command) calls f'',
      (cmd.run kt ()).Exec (FileStep home) f' calls (.ok (), ()) f'' → WholePair kt home f'') ∧
    (f (privPath (keyDir home)) ≠ none → f (pubPath (keyDir home)) = none →
      ∀ cmd : Command, cmd.readsPublicKey = true → ∀ calls r f'',
        (cmd.run kt ()).Exec (FileStep home) f' calls r f'' → ∃ e, r.1 = .error e) := by
  refine ⟨sameKeys_run hrun, fun hnone cmd calls f'' hexec => ?_, ?_⟩
  · exact (hexec.wp ((makesPair_run cmd).made f' hnone)).2
  · intro hpriv hpub cmd hcmd calls r f'' hexec
    obtain ⟨hpriv', hpub'⟩ := sameKeys_run hrun hpriv
    exact (hexec.wp (stuck_run hcmd f' (hpriv'.symm ▸ hpriv) (hpub'.trans hpub))).2

/-- A first command that is killed between the two writes, and every login after it fails. -/
theorem key_pair_interrupted : ∃ f : Files, CliStep KeyText.json "/home/alice" (fun _ => none) f ∧
    f (privPath (keyDir "/home/alice")) = some (KeyText.json.write (.privatePEM 0 "kubepark-cli")) ∧
    ∀ gatewayURL calls r f', ((Command.login gatewayURL).run KeyText.json ()).Exec
      (FileStep "/home/alice") f calls r f' → ∃ e, r.1 = .error e := by
  let f : Files := Files.write (fun _ => none) (privPath (keyDir "/home/alice"))
    (KeyText.json.write (.privatePEM 0 "kubepark-cli"))
  have hpriv : f (privPath (keyDir "/home/alice")) =
      some (KeyText.json.write (.privatePEM 0 "kubepark-cli")) := Function.update_self _ _ _
  have hpub : f (pubPath (keyDir "/home/alice")) = none :=
    Function.update_of_ne (pubPath_ne_privPath _) _ _
  have hkilled : CliStep KeyText.json "/home/alice" (fun _ => none) f := by
    obtain ⟨calls, hvisits⟩ : ∃ calls, ((Command.signCert "alice" "kubepark-system" 0).run
        KeyText.json ()).Visits (FileStep "/home/alice") (fun _ => none) calls f :=
      ⟨_, Or.inr ⟨.ok "/home/alice", _, _, ⟨rfl, fun _ h => (Except.ok.inj h).symm⟩, rfl,
        Or.inr ⟨.ok (), _, _, rfl, rfl,
        Or.inr ⟨.error .notFound, _, _, ⟨rfl, by simp⟩, rfl,
        Or.inr ⟨.ok 0, _, _, rfl, rfl,
        Or.inr ⟨.ok (), _, _, Or.inl rfl, rfl, Prog.visits_nil _ _⟩⟩⟩⟩⟩⟩
    exact .command _ hvisits
  refine ⟨f, hkilled, hpriv, fun gatewayURL => ?_⟩
  exact (key_pair_made_once KeyText.json "/home/alice" f f .refl).2.2 (by simp [hpriv]) hpub _ rfl

end Cli

end Kubepark

import Keystore2.Binder
import Keystore2.WrappedKey

/-!
# Keystore2 — where the errors of a transaction come from

A failed transaction reports one error code: the root of its `anyhow` error,
under the chain of contexts the handlers add on the way out. The service makes
only two roots of its own. `Km(INVALID_ARGUMENT)` is for an argument it rejects:
a missing alias, purpose, wrapped blob or authenticator, an unknown algorithm,
a wrapping key in `Domain::BLOB`. `Error::sys()` is for a state it should never
reach: no calling SID, a loaded key without a KM blob, a `begin` without an
operation, a key without an alias in `store_new_key`. Every other root is one a
collaborator answered in the same transaction, passed on unchanged by `?`,
`.context` and `map_km_error`: the Access Gate's, KeyMint's, the Operation
Registry's or the Key Store's. The upgrade protocol passes on the first error of
its closure unless it is `KEY_REQUIRES_UPGRADE`, and then the error of the
upgrade, of its write, or of the second run.

The property of a computation is `Svc.ErrorsFrom`: every error it stops with has
a root that a local check raises or that a collaborator answered in its run.
There is one lemma per way of building a computation, and the handlers follow
their code step by step.

## Results

* `Svc.ErrorsFrom.ask_bind` — a collaborator's answer, passed on.
* `Svc.ErrorsFrom.observe_bind` — the closure's error, observed and rethrown.
* `keyCreation_errorsFrom` — the shape of the key creations, from its parts.
* `dispatch_errors_from` — one transaction: the root of its error is a local
  check's or a collaborator's answer in the transaction.
-/

namespace Keystore2

open KeystoreSecurityLevel

variable (env : Env)

/-- The error of an answer, if it is one. -/
def errorOf? {ε α : Type} : Except ε α → Option ε
  | .error e => some e
  | .ok _ => none

/-- The root of the error a collaborator answered with in an event: an error of
KeyMint or of the Operation Registry is a root itself, and the other
collaborators answer with `anyhow` errors. -/
def Event.errorRoot? : Event → Option ErrorRoot
  | ⟨.checkKeyPermission .., r⟩ => (errorOf? (r : Except AnyhowError Unit)).map (·.root)
  | ⟨.getInterface, r⟩ => (errorOf? (r : Except AnyhowError Unit)).map (·.root)
  | ⟨.addRngEntropy _, r⟩ => (errorOf? (r : Except Error Unit)).map .keystore
  | ⟨.generateKey _, r⟩ =>
    (errorOf? (r : Except Error (Blob × KeyCharacteristics × List KmCertificate))).map .keystore
  | ⟨.importKey .., r⟩ =>
    (errorOf? (r : Except Error (Blob × KeyCharacteristics × List KmCertificate))).map .keystore
  | ⟨.importWrappedKey .., r⟩ =>
    (errorOf? (r : Except Error (Blob × KeyCharacteristics))).map .keystore
  | ⟨.begin .., r⟩ => (errorOf? (r : Except Error BeginResult)).map .keystore
  | ⟨.upgradeKey .., r⟩ => (errorOf? (r : Except Error Blob)).map .keystore
  | ⟨.prune _, r⟩ => (errorOf? (r : Except Error Unit)).map .keystore
  | ⟨.createOperation .., _⟩ => none
  | ⟨.intoInterface _, r⟩ => (errorOf? (r : Except AnyhowError Unit)).map (·.root)
  | ⟨.loadKeyEntry .., r⟩ =>
    (errorOf? (r : Except AnyhowError (Int × KeyDescriptor × Option KeyPermSet))).map (·.root)
  | ⟨.db _, r⟩ => (errorOf? (r : Except AnyhowError Unit)).map (·.root)

/-- The root `root` is accounted for by the events `l`: a local check raises it
(an argument the service rejects, a state it should never reach), `known`
allows it, or a collaborator answered with it in `l`. -/
def RootFrom (known : ErrorRoot → Prop) (l : List Event) (root : ErrorRoot) : Prop :=
  root = .keystore (.km .invalidArgument) ∨ root = .keystore Error.sys ∨ known root ∨
    ∃ ev ∈ l, ev.errorRoot? = some root

theorem RootFrom.mono {K K' : ErrorRoot → Prop} {l l' : List Event} {root : ErrorRoot}
    (hK : ∀ r, K r → K' r) (hl : ∀ ev ∈ l, ev ∈ l') (h : RootFrom K l root) :
    RootFrom K' l' root := by
  rcases h with h | h | h | ⟨ev, hev, he⟩
  exacts [.inl h, .inr (.inl h), .inr (.inr (.inl (hK _ h))), .inr (.inr (.inr ⟨ev, hl ev hev, he⟩))]

section RootFrom

variable {K : ErrorRoot → Prop} {l : List Event}

theorem RootFrom.invalidArgument : RootFrom K l (.keystore (.km .invalidArgument)) := .inl rfl

theorem RootFrom.sys : RootFrom K l (.keystore Error.sys) := .inr (.inl rfl)

theorem RootFrom.known {root : ErrorRoot} (h : K root) : RootFrom K l root := .inr (.inr (.inl h))

end RootFrom

namespace Svc

variable {ε ε' α β : Type} [IntoAnyhow ε] [IntoAnyhow ε']

/-- Every error a stopping run of `x` ends with has a root that a local check
raises, that `known` allows, or that a collaborator answered in the run. -/
def ErrorsFrom (known : ErrorRoot → Prop) (x : Svc ε α) : Prop :=
  ∀ ⦃w e w'⦄, x.run w = some (.error e, w') →
    RootFrom known (w.eventsTo w') (IntoAnyhow.into e).root

variable {K : ErrorRoot → Prop}

theorem errorsFrom_pure (a : α) : ErrorsFrom K (Pure.pure a : Svc ε α) := by
  intro w e w' h
  cases h

theorem errorsFrom_read (f : World → α) : ErrorsFrom K (read f : Svc ε α) := by
  intro w e w' h
  cases h

theorem errorsFrom_ask (env : Env) (c : Call) : ErrorsFrom K (ask env c : Svc ε c.Resp) := by
  intro w e w' h
  cases h

/-- An error the service raises itself, with a local root or a known one. -/
theorem errorsFrom_throw {e : ε} (h : RootFrom K [] (IntoAnyhow.into e).root) :
    ErrorsFrom K (throw e : Svc ε α) := by
  intro w e' w' hr
  cases hr
  exact h.mono (fun _ h => h) fun _ h => absurd h (List.not_mem_nil _)

/-- An answer passed on: its error has a local or a known root. -/
theorem errorsFrom_ofExcept {r : Except ε α}
    (h : ∀ e, r = .error e → RootFrom K [] (IntoAnyhow.into e).root) :
    ErrorsFrom K (ofExcept r) := by
  intro w e w' hr
  rw [run_ofExcept] at hr
  cases hr
  exact (h e rfl).mono (fun _ h => h) fun _ h => absurd h (List.not_mem_nil _)

theorem ErrorsFrom.mono {K' : ErrorRoot → Prop} (hK : ∀ r, K r → K' r) {x : Svc ε α}
    (hx : ErrorsFrom K x) : ErrorsFrom K' x :=
  fun _ _ _ h => (hx h).mono hK fun _ h => h

theorem ErrorsFrom.bind {x : Svc ε α} {f : α → Svc ε β} (hx : ErrorsFrom K x)
    (hf : ∀ a, ErrorsFrom K (f a)) : ErrorsFrom K (x >>= f) := by
  intro w e w' h
  rcases bind_eq_some h with ⟨a, w1, h1, h2⟩ | ⟨e', h1, he⟩
  · rw [World.eventsTo_trans (x.follows h1) ((f a).follows h2)]
    exact (hf a h2).mono (fun _ h => h) fun _ => List.mem_append_right _
  · cases he
    exact hx h1

/-- A conversion of the error that keeps its root: `?`, `.context`, `.anyhow`. -/
theorem ErrorsFrom.mapError {x : Svc ε α} {g : ε → ε'}
    (hg : ∀ e, (IntoAnyhow.into (g e)).root = (IntoAnyhow.into e).root) (hx : ErrorsFrom K x) :
    ErrorsFrom K (x.mapError g) := by
  intro w e w' h
  obtain ⟨r', h', hr⟩ := mapError_eq_some h
  cases r' with
  | ok => cases hr
  | error e' =>
    cases hr
    rw [hg]
    exact hx h'

theorem ErrorsFrom.context {x : Svc ε α} (hx : ErrorsFrom K x) (msg : String) :
    ErrorsFrom K (x.context msg) :=
  hx.mapError fun _ => rfl

theorem ErrorsFrom.anyhow {x : Svc ε α} (hx : ErrorsFrom K x) : ErrorsFrom K x.anyhow :=
  hx.mapError fun _ => rfl

/-- **A collaborator's answer.** A call, then a continuation whose errors may
have the root the call was answered with. -/
theorem ErrorsFrom.ask_bind (env : Env) {c : Call} {f : c.Resp → Svc ε α}
    (hf : ∀ r, ErrorsFrom (fun root => K root ∨ Event.errorRoot? ⟨c, r⟩ = some root) (f r)) :
    ErrorsFrom K (ask env c >>= f) := by
  intro w e w' h
  rw [bind_ok (run_ask env c w)] at h
  rw [World.eventsTo_trans (w.follows_record _) ((f _).follows h), World.eventsTo_record]
  rcases hf _ h with h | h | (h | h) | ⟨ev, hev, he⟩
  exacts [.inl h, .inr (.inl h), .known h, .inr (.inr (.inr ⟨_, List.mem_cons_self _ _, h⟩)),
    .inr (.inr (.inr ⟨ev, List.mem_cons_of_mem _ hev, he⟩))]

/-- **The closure's error, observed.** A computation whose result is observed,
then a continuation whose errors may have the root of that result's error. -/
theorem ErrorsFrom.observe_bind {x : Svc ε α} {f : Except ε α → Svc ε' β}
    (hx : ErrorsFrom K x)
    (hf : ∀ r, ErrorsFrom (fun root => K root ∨ ∃ e, r = .error e ∧
      root = (IntoAnyhow.into e).root) (f r)) :
    ErrorsFrom K (observe x >>= f) := by
  intro w e w' h
  rcases bind_eq_some h with ⟨r, w1, h1, h2⟩ | ⟨e', h1, -⟩
  · obtain ⟨r', h1', hr⟩ := observe_eq_some h1
    cases hr
    have hf1 := x.follows h1'
    rw [World.eventsTo_trans hf1 ((f _).follows h2)]
    rcases hf _ h2 with h | h | (h | ⟨e'', rfl, he⟩) | ⟨ev, hev, he⟩
    · exact .inl h
    · exact .inr (.inl h)
    · exact .known h
    · rw [he]
      exact (hx h1').mono (fun _ h => h) fun _ => List.mem_append_left _
    · exact .inr (.inr (.inr ⟨ev, List.mem_append_right _ hev, he⟩))
  · obtain ⟨r', -, hr⟩ := observe_eq_some h1
    cases hr

theorem ErrorsFrom.loop {body : Svc ε (Option α)} (hb : ErrorsFrom K body) :
    ∀ n, ErrorsFrom K (loop body n)
  | 0 => fun _ _ _ h => by cases h
  | n + 1 => hb.bind fun r => by
    cases r
    exacts [ErrorsFrom.loop hb n, errorsFrom_pure _]

end Svc

-- ---------------------------------------------------------------------------
-- The helpers of `utils.rs`, the Key Store and the Operation Registry
-- ---------------------------------------------------------------------------

section Helpers

variable {K : ErrorRoot → Prop}

theorem checkKeyPermission_errorsFrom (perm : KeyPerm) (key : KeyDescriptor)
    (accessVector : Option KeyPermSet) :
    Svc.ErrorsFrom K (checkKeyPermission env perm key accessVector) := by
  refine .bind (Svc.errorsFrom_read _) fun sid => ?_
  cases sid
  · exact Svc.errorsFrom_throw .sys
  · exact .ask_bind env fun r => Svc.errorsFrom_ofExcept fun e he => .known (.inr (by subst he; rfl))

theorem Asp.getInterface_errorsFrom : Svc.ErrorsFrom K (Asp.getInterface env) :=
  .ask_bind env fun r => Svc.errorsFrom_ofExcept fun e he => .known (.inr (by subst he; rfl))

theorem KeystoreDB.write_errorsFrom (wr : DbWrite) : Svc.ErrorsFrom K (KeystoreDB.write env wr) :=
  .ask_bind env fun r => Svc.errorsFrom_ofExcept fun e he => .known (.inr (by subst he; rfl))

theorem OperationDb.prune_errorsFrom (uid : UInt32) : Svc.ErrorsFrom K (OperationDb.prune env uid) :=
  .ask_bind env fun r => Svc.errorsFrom_ofExcept fun e he => .known (.inr (by subst he; rfl))

theorem KeystoreDB.loadKeyEntry_errorsFrom {key : KeyDescriptor} {loadBits : KeyEntryLoadBits}
    {callerUid : UInt32} {checkPermission : KeyDescriptor → Option KeyPermSet → Svc AnyhowError Unit}
    (hc : ∀ k av, Svc.ErrorsFrom K (checkPermission k av)) :
    Svc.ErrorsFrom K (KeystoreDB.loadKeyEntry env key loadBits callerUid checkPermission) :=
  .ask_bind env fun r => (Svc.errorsFrom_ofExcept fun e he => .known (.inr (by subst he; rfl))).bind
    fun ⟨_, k, av⟩ => ((hc k av).mono fun _ => .inl).bind fun _ =>
      (Svc.errorsFrom_read _).bind fun _ => Svc.errorsFrom_pure _

theorem requireAlias_errorsFrom (key : KeyDescriptor) (msg : String) :
    Svc.ErrorsFrom K (requireAlias key msg) := by
  unfold requireAlias
  split
  exacts [Svc.errorsFrom_throw .invalidArgument, Svc.errorsFrom_pure _]

theorem operationPurpose_error_root {ps : List KmKeyParameter} {e : AnyhowError}
    (h : operationPurpose ps = .error e) : e.root = .keystore (.km .invalidArgument) := by
  unfold operationPurpose at h
  split at h <;> cases h
  rfl

theorem importKeyFormat_error_root {params : List KmKeyParameter} {e : AnyhowError}
    (h : importKeyFormat params = .error e) : e.root = .keystore (.km .invalidArgument) := by
  unfold importKeyFormat at h
  split at h
  · cases h
    rfl
  · dsimp only at h
    split at h
    · cases h
    · split at h <;> cases h
      rfl

end Helpers

-- ---------------------------------------------------------------------------
-- The handlers
-- ---------------------------------------------------------------------------

namespace KeystoreSecurityLevel

variable (self : KeystoreSecurityLevel) {K : ErrorRoot → Prop}

theorem storeNewKeyInDb_errorsFrom (key : KeyDescriptor) (keyParameters : List KeyParameter)
    (cert certChain : Option Blob) (blob : Blob) :
    Svc.ErrorsFrom K (storeNewKeyInDb env self key keyParameters cert certChain blob) := by
  have hw : ∀ wr msg, Svc.ErrorsFrom K ((KeystoreDB.write env wr).context msg) := fun wr =>
    (KeystoreDB.write_errorsFrom env wr).context
  unfold storeNewKeyInDb KeystoreDB.createKeyEntry
  refine Svc.ErrorsFrom.bind (Svc.ErrorsFrom.context (Svc.ErrorsFrom.bind (Svc.errorsFrom_read _)
    fun _ => (KeystoreDB.write_errorsFrom env _).bind fun _ => Svc.errorsFrom_pure _) _) fun _ =>
      (hw _ _).bind fun _ => Svc.ErrorsFrom.bind ?_ fun _ => Svc.ErrorsFrom.bind ?_ fun _ =>
        (hw _ _).bind fun _ => Svc.ErrorsFrom.bind ?_ fun _ => Svc.errorsFrom_pure _
  · cases cert
    exacts [Svc.errorsFrom_pure _, hw _ _]
  · cases certChain
    exacts [Svc.errorsFrom_pure _, hw _ _]
  · cases key.«alias»
    exacts [Svc.errorsFrom_throw .sys, hw _ _]

theorem storeNewKey_errorsFrom (key : KeyDescriptor) (keyCharacteristics : KeyCharacteristics)
    (kmCertChain : Option (List KmCertificate)) (blob : Blob) :
    Svc.ErrorsFrom K (storeNewKey env self key keyCharacteristics kmCertChain blob) := by
  rcases hs : splitCertChain kmCertChain with ⟨cert, certChain⟩
  simp only [storeNewKey, hs]
  split
  · exact (Svc.errorsFrom_pure _).bind fun _ => Svc.errorsFrom_pure _
  · exact ((storeNewKeyInDb_errorsFrom env self _ _ _ _ _).context _).bind fun _ =>
      Svc.errorsFrom_pure _

theorem upgradeKeyblobIfRequiredWith_errorsFrom {T : Type} {keyIdGuard : Option KeyIdGuard}
    {blob : Blob} {params : List KmKeyParameter} {f : Blob → Svc Error T}
    (hf : ∀ b, Svc.ErrorsFrom K (f b)) :
    Svc.ErrorsFrom K (upgradeKeyblobIfRequiredWith env self keyIdGuard blob params f) := by
  unfold upgradeKeyblobIfRequiredWith
  refine .observe_bind (hf blob) fun r => ?_
  rcases r with e | v
  · dsimp only
    split
    · -- the upgrade, its write under the guard, and the second run of the closure
      refine ((Svc.ErrorsFrom.ask_bind env fun r => Svc.errorsFrom_ofExcept fun e he =>
        .known (.inr (by subst he; rfl))).context _).bind fun b' => Svc.ErrorsFrom.bind ?_
          fun _ => .observe_bind ((hf b').mono fun _ h => .inl h) fun r => ?_
      · cases keyIdGuard
        exacts [Svc.errorsFrom_pure _, (KeystoreDB.write_errorsFrom env _).context _]
      · cases r
        exacts [Svc.errorsFrom_throw (.known (.inr ⟨_, rfl, rfl⟩)), Svc.errorsFrom_pure _]
    · exact Svc.errorsFrom_throw (.known (.inr ⟨_, rfl, rfl⟩))
  · exact Svc.errorsFrom_pure _

theorem beginLoop_errorsFrom (purpose : KeyPurpose) (ps : List KmKeyParameter) (uid : UInt32)
    (blob : Blob) : Svc.ErrorsFrom K (beginLoop env purpose ps uid blob) := by
  refine Svc.ErrorsFrom.loop (.ask_bind env fun r => ?_) _
  rcases r with e | v
  · dsimp only
    split
    · exact ((OperationDb.prune_errorsFrom env uid).mono fun _ h => .inl h).bind fun _ =>
        Svc.errorsFrom_pure _
    · exact Svc.errorsFrom_throw (.known (.inr rfl))
  · exact Svc.errorsFrom_pure _

theorem createOperation_errorsFrom (key : KeyDescriptor) (ps : List KmKeyParameter)
    (forced : Bool) : Svc.ErrorsFrom K (createOperation env self key ps forced) := by
  unfold createOperation
  refine .bind (Svc.errorsFrom_read _) fun uid => .bind ?_ fun ⟨b, g⟩ => ?_
  · unfold createOperationKmBlob
    split
    · refine .bind ((checkKeyPermission_errorsFrom env _ _ _).context _) fun _ => ?_
      split
      exacts [Svc.errorsFrom_pure _, Svc.errorsFrom_throw .sys]
    · refine .bind ((KeystoreDB.loadKeyEntry_errorsFrom env fun _ _ =>
        checkKeyPermission_errorsFrom env _ _ _).context _) fun ⟨_, e⟩ => ?_
      dsimp only
      split
      exacts [Svc.errorsFrom_pure _, Svc.errorsFrom_throw .sys]
  dsimp only
  refine .bind (Svc.errorsFrom_ofExcept fun e he => ?_) fun _ =>
    .bind ((Asp.getInterface_errorsFrom env).context _) fun _ =>
      .bind ((upgradeKeyblobIfRequiredWith_errorsFrom env self fun _ =>
        beginLoop_errorsFrom env _ _ _ _).context _) fun ⟨br, _⟩ => ?_
  · rw [show (IntoAnyhow.into e).root = e.root from rfl, operationPurpose_error_root he]
    exact .invalidArgument
  -- the registration, or a `begin` without an operation; then the binder
  dsimp only
  split
  all_goals refine .bind ?_ fun _ => .bind ((Svc.ErrorsFrom.ask_bind env fun r =>
    Svc.errorsFrom_ofExcept fun e he => .known (.inr (by subst he; rfl))).context _) fun _ =>
      Svc.errorsFrom_pure _
  exacts [Svc.errorsFrom_ask env _, Svc.errorsFrom_throw .sys]

/-- The key-creation shape fails as its checks, KeyMint's part or
`store_new_key` do; its context keeps the root. -/
theorem keyCreation_errorsFrom {ρ : Type} {checks : Svc AnyhowError ρ} {keyOf : ρ → KeyDescriptor}
    {km : ρ → Svc AnyhowError (Blob × KeyCharacteristics × Option (List KmCertificate))}
    {msg : String} (hc : Svc.ErrorsFrom K checks) (hkm : ∀ p, Svc.ErrorsFrom K (km p)) :
    Svc.ErrorsFrom K (keyCreation env self checks keyOf km msg) := by
  unfold keyCreation
  exact .bind hc fun p => .bind (hkm p) fun ⟨_, _, _⟩ =>
    (storeNewKey_errorsFrom env self _ _ _ _).context _

/-- A KeyMint call whose answer is passed on fails with KeyMint's error. -/
theorem ask_ofExcept_errorsFrom {c : Call} {γ : Type} {f : c.Resp → Except Error γ}
    (hf : ∀ r e, f r = .error e → (⟨c, r⟩ : Event).errorRoot? = some (ErrorRoot.keystore e)) :
    Svc.ErrorsFrom K (do Svc.ofExcept (f (← Svc.ask env c)) : Svc Error γ) :=
  .ask_bind env fun r => Svc.errorsFrom_ofExcept fun e he => .known (.inr (hf r e he))

theorem generateKeyChecks_errorsFrom (key : KeyDescriptor) :
    Svc.ErrorsFrom K (generateKeyChecks env key) := by
  unfold generateKeyChecks
  exact .bind (requireAlias_errorsFrom _ _) fun _ => .bind (Svc.errorsFrom_read _) fun _ =>
    .bind ((checkKeyPermission_errorsFrom env _ _ _).context _) fun _ =>
      .bind (Asp.getInterface_errorsFrom env) fun _ => Svc.errorsFrom_pure _

theorem importKeyChecks_errorsFrom (key : KeyDescriptor) (params : List KmKeyParameter) :
    Svc.ErrorsFrom K (importKeyChecks env key params) := by
  unfold importKeyChecks
  refine .bind (requireAlias_errorsFrom _ _) fun _ => .bind (Svc.errorsFrom_read _) fun _ =>
    .bind ((checkKeyPermission_errorsFrom env _ _ _).context _) fun _ =>
      .bind (Svc.errorsFrom_ofExcept fun e he => ?_) fun _ =>
      .bind (Asp.getInterface_errorsFrom env) fun _ => Svc.errorsFrom_pure _
  rw [show (IntoAnyhow.into e).root = e.root from rfl, importKeyFormat_error_root he]
  exact .invalidArgument

theorem importWrappedKeyChecks_errorsFrom (key wrappingKey : KeyDescriptor)
    (maskingKey : Option Blob) (authenticators : List AuthenticatorSpec) :
    Svc.ErrorsFrom K (importWrappedKeyChecks env key wrappingKey maskingKey authenticators) := by
  unfold importWrappedKeyChecks
  refine .bind (requireAlias_errorsFrom _ _) fun _ => .bind ?_ fun _ => .bind ?_ fun _ =>
    .bind (Svc.errorsFrom_read _) fun _ => ?_
  · split
    exacts [Svc.errorsFrom_throw .invalidArgument, Svc.errorsFrom_pure _]
  · split
    exacts [Svc.errorsFrom_pure _, Svc.errorsFrom_throw .invalidArgument]
  refine .bind ((checkKeyPermission_errorsFrom env _ _ _).context _) fun _ =>
    .bind (Svc.errorsFrom_read _) fun _ => .bind ((KeystoreDB.loadKeyEntry_errorsFrom env fun _ _ =>
      checkKeyPermission_errorsFrom env _ _ _).context _) fun ⟨_, _⟩ => ?_
  dsimp only
  refine .bind ?_ fun _ => .bind ?_ fun _ => .bind ?_ fun _ =>
    .bind (Asp.getInterface_errorsFrom env) fun _ => Svc.errorsFrom_pure _
  -- the three lookups: a value, or a refusal of the service's own
  · split
    exacts [Svc.errorsFrom_pure _, Svc.errorsFrom_throw .sys]
  · split
    exacts [Svc.errorsFrom_pure _, Svc.errorsFrom_throw .invalidArgument]
  · split
    exacts [Svc.errorsFrom_pure _, Svc.errorsFrom_throw .invalidArgument]

theorem generateKey_errorsFrom (key : KeyDescriptor) (attestationKey : Option KeyDescriptor)
    (params : List KmKeyParameter) (flags : Int) (entropy : Blob) :
    Svc.ErrorsFrom K (generateKey env self key attestationKey params flags entropy) := by
  refine keyCreation_errorsFrom env self (generateKeyChecks_errorsFrom env key) fun _ => ?_
  unfold generateKeyKm
  exact .bind (.anyhow (ask_ofExcept_errorsFrom env fun _ _ he => by subst he; rfl)) fun _ =>
    .bind (.anyhow (ask_ofExcept_errorsFrom env fun _ _ he => by subst he; rfl)) fun ⟨_, _, _⟩ =>
      Svc.errorsFrom_pure _

theorem importKey_errorsFrom (key : KeyDescriptor) (attestationKey : Option KeyDescriptor)
    (params : List KmKeyParameter) (flags : Int) (keyData : Blob) :
    Svc.ErrorsFrom K (importKey env self key attestationKey params flags keyData) := by
  refine keyCreation_errorsFrom env self (importKeyChecks_errorsFrom env key params) fun _ => ?_
  unfold importKeyKm
  exact .bind (.anyhow (ask_ofExcept_errorsFrom env fun _ _ he => by subst he; rfl))
    fun ⟨_, _, _⟩ => Svc.errorsFrom_pure _

theorem importWrappedKey_errorsFrom (key wrappingKey : KeyDescriptor) (maskingKey : Option Blob)
    (params : List KmKeyParameter) (authenticators : List AuthenticatorSpec) :
    Svc.ErrorsFrom K
      (importWrappedKey env self key wrappingKey maskingKey params authenticators) := by
  refine keyCreation_errorsFrom env self
    (importWrappedKeyChecks_errorsFrom env key wrappingKey maskingKey authenticators) fun _ => ?_
  unfold importWrappedKeyKm
  exact .bind (upgradeKeyblobIfRequiredWith_errorsFrom env self fun _ =>
    .ask_bind env fun r => .bind (Svc.errorsFrom_ofExcept fun e he =>
      .known (.inr (by subst he; rfl))) fun ⟨_, _⟩ => Svc.errorsFrom_pure _)
    fun ⟨⟨_, _⟩, _⟩ => Svc.errorsFrom_pure _

end KeystoreSecurityLevel

/-- **Where the error of a transaction comes from.** Whatever the method, its
arguments, the caller, the Key Store and the collaborators' answers, a
transaction that fails reports an error whose root, the code the binder layer
reports, is `Km(INVALID_ARGUMENT)` or `Error::sys()` of a local check, or the
root of an error that a collaborator answered with in that same transaction:
the Access Gate, KeyMint, the Operation Registry or the Key Store. The contexts
the handlers add never change it, and the service makes up no other code. -/
theorem dispatch_errors_from (self : KeystoreSecurityLevel) (rq : Request) {w w' : World}
    {e : AnyhowError} (h : (dispatch env self rq).run w = some (.error e, w')) :
    e.root = .keystore (.km .invalidArgument) ∨ e.root = .keystore Error.sys ∨
      ∃ ev ∈ w.eventsTo w', ev.errorRoot? = some e.root := by
  have hx : Svc.ErrorsFrom (fun _ => False) (dispatch env self rq) := by
    cases rq <;> refine Svc.ErrorsFrom.bind ?_ fun _ => Svc.errorsFrom_pure _
    exacts [createOperation_errorsFrom env self _ _ _, generateKey_errorsFrom env self _ _ _ _ _,
      importKey_errorsFrom env self _ _ _ _ _, importWrappedKey_errorsFrom env self _ _ _ _ _]
  rcases hx h with h | h | h | h
  exacts [.inl h, .inr (.inl h), h.elim, .inr (.inr h)]

/-- An app imports a key wrapped by its key `1`, whose blob KeyMint wants
upgraded, and the retry unwraps with the stale blob again: the import fails with
KeyMint's own `KEY_REQUIRES_UPGRADE`, the answer of the second `importWrappedKey`
call. -/
theorem dispatch_errors_from_stale_wrapping_key :
    ∃ e w', (dispatch (staleBlobEnv [1] [2]) ⟨⟨1⟩⟩ (.importWrappedKey
        ⟨Domain.app, 0, some "k", some [9]⟩ ⟨Domain.app, 0, some "w", none⟩ none []
        [⟨.password, 5⟩, ⟨.fingerprint, 6⟩])).run (World.start wrappingKeyStore) =
        some (.error e, w') ∧
      e.root = .keystore (.km .keyRequiresUpgrade) ∧
      (e.root = .keystore (.km .invalidArgument) ∨ e.root = .keystore Error.sys ∨
        ∃ ev ∈ (World.start wrappingKeyStore).eventsTo w', ev.errorRoot? = some e.root) := by
  obtain ⟨⟨r, w'⟩, h⟩ : ∃ p, (dispatch (staleBlobEnv [1] [2]) ⟨⟨1⟩⟩ (.importWrappedKey
      ⟨Domain.app, 0, some "k", some [9]⟩ ⟨Domain.app, 0, some "w", none⟩ none []
      [⟨.password, 5⟩, ⟨.fingerprint, 6⟩])).run (World.start wrappingKeyStore) = some p :=
    ⟨_, rfl⟩
  obtain ⟨e, rfl⟩ : ∃ e, r = .error e := by
    cases h
    exact ⟨_, rfl⟩
  refine ⟨e, w', h, ?_, dispatch_errors_from (staleBlobEnv [1] [2]) ⟨⟨1⟩⟩ _ h⟩
  cases h
  rfl

end Keystore2

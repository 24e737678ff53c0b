import Keystore2.CreateOperation
import Keystore2.KeyCreation

/-!
# Keystore2 — what the handlers check before they act

Each handler of `KeystoreSecurityLevel` first checks its request locally and
with the Access Gate, and only then calls KeyMint, the Operation Registry or
the Key Store writes (`Call.isEffect`). This module shows it of every run,
whatever the collaborators answer, and two consequences for the key-creation
handlers: the new key goes where the rewritten descriptor says, and the
missing-alias branch of `store_new_key` is never taken.

## Results

* `EffectsAfter` — the shape of a run in which the effects come after the
  checks; `keyCreation_effectsAfter` for the shape of the three key creations,
  `generateKey_effectsAfter`, `importKey_effectsAfter`,
  `importWrappedKey_effectsAfter`, `createOperation_effectsAfter`, and
  `handlers_check_before_effects` for the four.
* `TargetsRewritten` — the rebind check, the new key entry and the alias
  binding name the descriptor's domain and alias, and the caller's uid as
  namespace for an `APP` key: `generateKey_targets` (and for `import_key`,
  `import_wrapped_key`); `generateKey_setNspace` (and the others) — the
  namespace an `APP` request carries makes no difference, from
  `keyCreation_targets` for the shape;
  `keyCreation_rebinds_rewritten_key` for all three.
* `AliasCheckedFirst` — a request outside `BLOB` without an alias is refused at
  once; otherwise every accepted key parameter write comes with an alias
  binding (`ParamsWithAlias`): `keyCreation_aliasCheckedFirst` for the shape,
  `generateKey_alias` (and the others), and
  `keyCreation_alias_checked_first` for all three.
-/

namespace Keystore2

open KeystoreSecurityLevel

variable (env : Env)

-- ---------------------------------------------------------------------------
-- Checks before effects
-- ---------------------------------------------------------------------------

/-- In the run from `w` to `w'`, nothing with an effect is called before the
calls made so far pass `checked`: either the run calls nothing with an effect
and leaves the Key Store as it was, or its calls are a first part without
effect that passes `checked`, then the rest. -/
def EffectsAfter (checked : List Event → Prop) (w w' : World) : Prop :=
  ((∀ ev ∈ w.eventsTo w', ev.call.isEffect = false) ∧ w'.store = w.store) ∨
  ∃ pre post, w.eventsTo w' = pre ++ post ∧ (∀ ev ∈ pre, ev.call.isEffect = false) ∧ checked pre

theorem effectsAfter_of_noEffect {checked : List Event → Prop} {w w' : World} (h : w.Follows w')
    (hn : ∀ ev ∈ w.eventsTo w', ev.call.isEffect = false) : EffectsAfter checked w w' :=
  .inl ⟨hn, by
    rw [h.store_eq]
    exact applyWrites_of_not_db fun ev hev => Call.isDb_eq_false_of_isEffect (hn ev hev)⟩

theorem effectsAfter_of_prefix {checked : List Event → Prop} {w w1 w' : World}
    (h : w.Follows w1) (h' : w1.Follows w') (hn : ∀ ev ∈ w.eventsTo w1, ev.call.isEffect = false)
    (hc : checked (w.eventsTo w1)) : EffectsAfter checked w w' :=
  .inr ⟨_, _, World.eventsTo_trans h h', hn, hc⟩

/-- The checks the three key-creation handlers share: an alias outside
`Domain::BLOB`, and the rebind permission on the descriptor, with an `APP`
key's namespace rewritten to the caller's uid. -/
def KeyCreationChecked (w : World) (key : KeyDescriptor) (pre : List Event) : Prop :=
  (key.domain ≠ Domain.blob → key.«alias» ≠ none) ∧
    Granted w.callingSid .rebind (rewriteAppDomain key w.callingUid) none pre

/-- The checks of `import_key`: those of key creation, and a `KeyFormat` for the
`ALGORITHM` parameter. -/
def ImportKeyChecked (w : World) (key : KeyDescriptor) (params : List KmKeyParameter)
    (pre : List Event) : Prop :=
  KeyCreationChecked w key pre ∧ ∃ format, importKeyFormat params = .ok format

/-- The checks of `import_wrapped_key`: those of key creation; a wrapping key
outside `Domain::BLOB`; wrapped key data in the descriptor's blob; the wrapping
key loaded with the use permission granted on it; a password and a fingerprint
authenticator. -/
def ImportWrappedKeyChecked (w : World) (key wrappingKey : KeyDescriptor)
    (authenticators : List AuthenticatorSpec) (pre : List Event) : Prop :=
  KeyCreationChecked w key pre ∧ wrappingKey.domain ≠ Domain.blob ∧ key.blob ≠ none ∧
    (∃ id ak av, (⟨.loadKeyEntry wrappingKey .km w.callingUid, Except.ok (id, ak, av)⟩ : Event) ∈ pre ∧
      Granted w.callingSid .use ak av pre) ∧
    findAuthenticatorId .password authenticators ≠ none ∧
    findAuthenticatorId .fingerprint authenticators ≠ none

/-- The checks of `create_operation`: the key resolved with the use permission
granted, and a `PURPOSE` parameter. -/
def CreateOperationChecked (w : World) (key : KeyDescriptor) (params : List KmKeyParameter)
    (pre : List Event) : Prop :=
  (∃ b0 g, ResolvedBlob key w pre b0 g) ∧ params.find? (fun p => decide (p.tag = Tag.purpose)) ≠ none

/-- The checks of a key creation call nothing with an effect: every run either
calls nothing with an effect, or passes the checks first, and what they
establish when they pass holds of that first part. -/
theorem keyCreation_effectsAfter (self : KeystoreSecurityLevel) {ρ : Type}
    {checks : Svc AnyhowError ρ} {keyOf : ρ → KeyDescriptor}
    {km : ρ → Svc AnyhowError (Blob × KeyCharacteristics × Option (List KmCertificate))}
    {msg : String} {checked : List Event → Prop} {w w' : World}
    {r : Except AnyhowError KeyMetadata} (hc : Svc.OnlyCalls (fun c => c.isEffect = false) checks)
    (hok : ∀ p w1, checks.run w = some (.ok p, w1) → checked (w.eventsTo w1))
    (h : (keyCreation env self checks keyOf km msg).run w = some (r, w')) :
    EffectsAfter checked w w' := by
  unfold keyCreation at h
  rcases Svc.bind_eq_some_of_onlyCalls hc h with ⟨hn, -⟩ | ⟨p, w1, h1, hn1, h2⟩
  · exact effectsAfter_of_noEffect (Svc.follows _ h) hn
  · exact effectsAfter_of_prefix (Svc.follows _ h1) (Svc.follows _ h2) hn1 (hok p w1 h1)

theorem generateKey_effectsAfter (self : KeystoreSecurityLevel) (key : KeyDescriptor)
    (attestationKey : Option KeyDescriptor) (params : List KmKeyParameter) (flags : Int)
    (entropy : Blob) {w w' : World} {r : Except AnyhowError KeyMetadata}
    (h : (generateKey env self key attestationKey params flags entropy).run w = some (r, w')) :
    EffectsAfter (KeyCreationChecked w key) w w' :=
  keyCreation_effectsAfter env self (Svc.OnlyCallsOf.onlyCalls fun uid => generateKeyChecks_calls env uid key
    (fun _ => rfl) rfl) (fun _ _ h1 => let ⟨hk, ha, hg⟩ := generateKeyChecks_ok env h1
      ⟨ha, hk ▸ hg⟩) h

theorem importKey_effectsAfter (self : KeystoreSecurityLevel) (key : KeyDescriptor)
    (attestationKey : Option KeyDescriptor) (params : List KmKeyParameter) (flags : Int)
    (keyData : Blob) {w w' : World} {r : Except AnyhowError KeyMetadata}
    (h : (importKey env self key attestationKey params flags keyData).run w = some (r, w')) :
    EffectsAfter (ImportKeyChecked w key params) w w' :=
  keyCreation_effectsAfter env self (Svc.OnlyCallsOf.onlyCalls fun uid => importKeyChecks_calls env uid key params
    (fun _ => rfl) rfl) (fun _ _ h1 => let ⟨hk, ha, hg, hf⟩ := importKeyChecks_ok env h1
      ⟨⟨ha, hk ▸ hg⟩, _, hf⟩) h

theorem importWrappedKey_effectsAfter (self : KeystoreSecurityLevel)
    (key wrappingKey : KeyDescriptor) (maskingKey : Option Blob) (params : List KmKeyParameter)
    (authenticators : List AuthenticatorSpec) {w w' : World} {r : Except AnyhowError KeyMetadata}
    (h : (importWrappedKey env self key wrappingKey maskingKey params authenticators).run w =
      some (r, w')) :
    EffectsAfter (ImportWrappedKeyChecked w key wrappingKey authenticators) w w' := by
  refine keyCreation_effectsAfter env self (Svc.OnlyCallsOf.onlyCalls fun uid => importWrappedKeyChecks_calls env
    uid key wrappingKey maskingKey authenticators (fun _ => rfl) (fun _ _ _ => rfl) rfl rfl)
    (fun _ _ h1 => ?_) h
  have hp := importWrappedKeyChecks_ok env h1
  obtain ⟨ak, av, hm, hg⟩ := hp.loaded
  exact ⟨⟨hp.alias_ne, hp.key_eq ▸ hp.rebind⟩, hp.wrapping_ne_blob, by simp [hp.wrappedData_eq],
    ⟨_, ak, av, hm, hg⟩, by simp [hp.pwSid_eq], by simp [hp.fpSid_eq]⟩

theorem createOperation_effectsAfter (self : KeystoreSecurityLevel) (key : KeyDescriptor)
    (params : List KmKeyParameter) (forced : Bool) {w w' : World}
    {r : Except AnyhowError CreateOperationResponse}
    (h : (createOperation env self key params forced).run w = some (r, w')) :
    EffectsAfter (CreateOperationChecked w key params) w w' := by
  rcases createOperation_calls env self key params forced h with
    ⟨hn, -⟩ | ⟨kp, b0, g, pre, l, res, post, hkp, hres, hn, -, hev, -⟩
  · exact effectsAfter_of_noEffect (Svc.follows _ h) hn
  · exact .inr ⟨pre, l ++ post, by rw [hev, List.append_assoc], hn, ⟨b0, g, hres⟩, by simp [hkp]⟩

/-- **Checks before effects.** In every stopping run of `generate_key`,
`import_key`, `import_wrapped_key` and `create_operation`, whatever the Access
Gate, KeyMint, the Operation Registry and the Key Store answer, nothing with an
effect is called before every check of the handler has passed; a request
refused by a check calls nothing with an effect and leaves the store alone. -/
theorem handlers_check_before_effects (self : KeystoreSecurityLevel) (w w' : World) :
    (∀ key attestationKey params flags entropy r,
      (generateKey env self key attestationKey params flags entropy).run w = some (r, w') →
        EffectsAfter (KeyCreationChecked w key) w w') ∧
    (∀ key attestationKey params flags keyData r,
      (importKey env self key attestationKey params flags keyData).run w = some (r, w') →
        EffectsAfter (ImportKeyChecked w key params) w w') ∧
    (∀ key wrappingKey maskingKey params authenticators r,
      (importWrappedKey env self key wrappingKey maskingKey params authenticators).run w =
        some (r, w') →
        EffectsAfter (ImportWrappedKeyChecked w key wrappingKey authenticators) w w') ∧
    (∀ key params forced r, (createOperation env self key params forced).run w = some (r, w') →
        EffectsAfter (CreateOperationChecked w key params) w w') :=
  ⟨fun _ _ _ _ _ _ h => generateKey_effectsAfter env self _ _ _ _ _ h,
    fun _ _ _ _ _ _ h => importKey_effectsAfter env self _ _ _ _ _ h,
    fun _ _ _ _ _ _ h => importWrappedKey_effectsAfter env self _ _ _ _ _ h,
    fun _ _ _ _ h => createOperation_effectsAfter env self _ _ _ h⟩

-- ---------------------------------------------------------------------------
-- The key the handlers create
-- ---------------------------------------------------------------------------

/-- What a call says of the key it names, for the calls that name one: the
descriptor of a rebind check, the domain and namespace of a new key entry, and
the alias, domain and namespace of an alias binding. -/
def Call.TargetsKey (domain : Domain) (nspace : Int) (a : Option String) : Call → Prop
  | .checkKeyPermission _ .rebind k _ =>
    k.domain = domain ∧ k.nspace = nspace ∧ k.«alias» = a
  | .db (.createKeyEntry d n) => d = domain ∧ n = nspace
  | .db (.rebindAlias _ s d n) => some s = a ∧ d = domain ∧ n = nspace
  | _ => True

/-- Every stopping run of `x` from a world `w` makes only calls that name the
domain and alias of `key` and, for an `APP` key, the caller's uid as namespace. -/
def TargetsRewritten {α : Type} (key : KeyDescriptor) (x : Svc AnyhowError α) : Prop :=
  ∀ ⦃w r w'⦄, x.run w = some (r, w') → ∀ ev ∈ w.eventsTo w', ev.call.TargetsKey key.domain
    (if key.domain = Domain.app then (w.callingUid.toNat : Int) else key.nspace) key.«alias»

theorem targetsKey_rewriteAppDomain {key : KeyDescriptor} {uid : UInt32} {c : Call}
    (h : c.TargetsKey (rewriteAppDomain key uid).domain (rewriteAppDomain key uid).nspace
      (rewriteAppDomain key uid).«alias») :
    c.TargetsKey key.domain (if key.domain = Domain.app then (uid.toNat : Int) else key.nspace)
      key.«alias» := by
  rwa [rewriteAppDomain_domain, rewriteAppDomain_alias, rewriteAppDomain_nspace] at h

/-- The request's namespace of an `APP` key is dropped by the rewrite. -/
theorem rewriteAppDomain_setNspace {key : KeyDescriptor} (h : key.domain = Domain.app) (n : Int)
    (uid : UInt32) : rewriteAppDomain { key with nspace := n } uid = rewriteAppDomain key uid := by
  simp [rewriteAppDomain, h]

@[simp] theorem requireAlias_setNspace (key : KeyDescriptor) (n : Int) (msg : String) :
    requireAlias { key with nspace := n } msg = requireAlias key msg := rfl

section Targets

variable (self : KeystoreSecurityLevel)

theorem storeNewKey_targets (key : KeyDescriptor) (keyCharacteristics : KeyCharacteristics)
    (kmCertChain : Option (List KmCertificate)) (blob : Blob) :
    Svc.OnlyCalls (fun c => c.TargetsKey key.domain key.nspace key.«alias»)
      (storeNewKey env self key keyCharacteristics kmCertChain blob) :=
  storeNewKey_onlyCalls env self (And.intro rfl rfl) (fun _ _ _ => trivial) (fun _ => trivial)
    fun _ _ ha => And.intro ha.symm (And.intro rfl rfl)

/-- Checks whose calls name the rewritten descriptor and settle it as the key's,
and a KeyMint part that names no key: every call of the shape names the
rewritten descriptor. -/
theorem keyCreation_targets {ρ : Type} {checks : Svc AnyhowError ρ} {keyOf : ρ → KeyDescriptor}
    {km : ρ → Svc AnyhowError (Blob × KeyCharacteristics × Option (List KmCertificate))}
    {msg : String} {key : KeyDescriptor}
    (hc : ∀ uid, Svc.OnlyCallsOf uid (fun c => c.TargetsKey (rewriteAppDomain key uid).domain
      (rewriteAppDomain key uid).nspace (rewriteAppDomain key uid).«alias») checks)
    (hkey : ∀ p w w', checks.run w = some (.ok p, w') → keyOf p = rewriteAppDomain key w.callingUid)
    (hkm : ∀ p, Svc.OnlyCalls (fun c => ∀ d n a, c.TargetsKey d n a) (km p)) :
    TargetsRewritten key (keyCreation env self checks keyOf km msg) := fun w _ _ h ev hev =>
  targetsKey_rewriteAppDomain (keyCreation_onlyCallsOf env self (hc w.callingUid)
    (fun p _ _ _ _ => .of_onlyCalls ((hkm p).imp fun _ hc => hc _ _ _))
    (fun p _ _ hu h1 _ _ _ => by rw [hkey p _ _ h1, hu]; exact storeNewKey_targets env self _ _ _ _)
    rfl h ev hev)

theorem generateKey_targets (key : KeyDescriptor) (attestationKey : Option KeyDescriptor)
    (params : List KmKeyParameter) (flags : Int) (entropy : Blob) :
    TargetsRewritten key (generateKey env self key attestationKey params flags entropy) :=
  keyCreation_targets env self (fun uid => generateKeyChecks_calls env uid key
    (fun _ => ⟨rfl, rfl, rfl⟩) trivial) (fun _ _ _ h1 => (generateKeyChecks_ok env h1).1)
    fun _ => generateKeyKm_calls env params entropy (fun _ _ _ => trivial) fun _ _ _ => trivial

theorem importKey_targets (key : KeyDescriptor) (attestationKey : Option KeyDescriptor)
    (params : List KmKeyParameter) (flags : Int) (keyData : Blob) :
    TargetsRewritten key (importKey env self key attestationKey params flags keyData) :=
  keyCreation_targets env self (fun uid => importKeyChecks_calls env uid key params
    (fun _ => ⟨rfl, rfl, rfl⟩) trivial) (fun _ _ _ h1 => (importKeyChecks_ok env h1).1)
    fun _ => importKeyKm_calls env params keyData _ fun _ _ _ => trivial

theorem importWrappedKey_targets (key wrappingKey : KeyDescriptor) (maskingKey : Option Blob)
    (params : List KmKeyParameter) (authenticators : List AuthenticatorSpec) :
    TargetsRewritten key
      (importWrappedKey env self key wrappingKey maskingKey params authenticators) :=
  keyCreation_targets env self (fun uid => importWrappedKeyChecks_calls env uid key wrappingKey
    maskingKey authenticators (fun _ => ⟨rfl, rfl, rfl⟩) (fun _ _ _ => trivial) trivial trivial)
    (fun _ _ _ h1 => (importWrappedKeyChecks_ok env h1).key_eq)
    fun p => importWrappedKeyKm_calls env self params p (fun _ _ _ => trivial)
      (fun _ _ _ => trivial) fun _ _ _ _ => trivial

theorem generateKey_setNspace {key : KeyDescriptor} (h : key.domain = Domain.app) (n : Int)
    (attestationKey : Option KeyDescriptor) (params : List KmKeyParameter) (flags : Int)
    (entropy : Blob) :
    generateKey env self { key with nspace := n } attestationKey params flags entropy =
      generateKey env self key attestationKey params flags entropy := by
  simp only [generateKey, generateKeyChecks, requireAlias_setNspace, rewriteAppDomain_setNspace h]

theorem importKey_setNspace {key : KeyDescriptor} (h : key.domain = Domain.app) (n : Int)
    (attestationKey : Option KeyDescriptor) (params : List KmKeyParameter) (flags : Int)
    (keyData : Blob) :
    importKey env self { key with nspace := n } attestationKey params flags keyData =
      importKey env self key attestationKey params flags keyData := by
  simp only [importKey, importKeyChecks, requireAlias_setNspace, rewriteAppDomain_setNspace h]

theorem importWrappedKey_setNspace {key : KeyDescriptor} (h : key.domain = Domain.app) (n : Int)
    (wrappingKey : KeyDescriptor) (maskingKey : Option Blob) (params : List KmKeyParameter)
    (authenticators : List AuthenticatorSpec) :
    importWrappedKey env self { key with nspace := n } wrappingKey maskingKey params authenticators =
      importWrappedKey env self key wrappingKey maskingKey params authenticators := by
  simp only [importWrappedKey, importWrappedKeyChecks, requireAlias_setNspace,
    rewriteAppDomain_setNspace h]

end Targets

/-- **The key the handlers create.** The rebind check of `generate_key`,
`import_key` and `import_wrapped_key`, the new key entry and the alias binding
all name the request's domain and alias, and as namespace the caller's uid for
an `APP` key and the request's namespace otherwise. The namespace an `APP`
request carries makes no difference to what the handler does. -/
theorem keyCreation_rebinds_rewritten_key (self : KeystoreSecurityLevel) :
    (∀ key attestationKey params flags entropy,
      TargetsRewritten key (generateKey env self key attestationKey params flags entropy)) ∧
    (∀ key attestationKey params flags keyData,
      TargetsRewritten key (importKey env self key attestationKey params flags keyData)) ∧
    (∀ key wrappingKey maskingKey params authenticators, TargetsRewritten key
      (importWrappedKey env self key wrappingKey maskingKey params authenticators)) ∧
    (∀ key n, key.domain = Domain.app → ∀ attestationKey params flags entropy,
      generateKey env self { key with nspace := n } attestationKey params flags entropy =
        generateKey env self key attestationKey params flags entropy) ∧
    (∀ key n, key.domain = Domain.app → ∀ attestationKey params flags keyData,
      importKey env self { key with nspace := n } attestationKey params flags keyData =
        importKey env self key attestationKey params flags keyData) ∧
    (∀ key n, key.domain = Domain.app → ∀ wrappingKey maskingKey params authenticators,
      importWrappedKey env self { key with nspace := n } wrappingKey maskingKey params
        authenticators = importWrappedKey env self key wrappingKey maskingKey params authenticators) :=
  ⟨generateKey_targets env self, importKey_targets env self, importWrappedKey_targets env self,
    fun _ n h => generateKey_setNspace env self h n, fun _ n h => importKey_setNspace env self h n,
    fun _ n h => importWrappedKey_setNspace env self h n⟩

-- ---------------------------------------------------------------------------
-- The alias of a new key
-- ---------------------------------------------------------------------------

/-- Whether a call writes key parameters. -/
def Call.writesParams : Call → Bool
  | .db (.insertKeyparameter _ _) => true
  | _ => false

/-- Every key parameter write the Key Store accepted in `l` comes with a call
binding the same key id to the alias `a`, which then is not `none`. -/
def ParamsWithAlias (a : Option String) (l : List Event) : Prop :=
  ∀ id ps, DbWrite.insertKeyparameter id ps ∈ l.filterMap Event.write? →
    ∃ s d n, a = some s ∧ Call.db (.rebindAlias id s d n) ∈ l.map Event.call

theorem Event.call_eq_of_write? {ev : Event} {wr : DbWrite} (h : ev.write? = some wr) :
    ev.call = .db wr := by
  unfold Event.write? at h
  split at h
  · split at h <;> cases h
    rfl
  · cases h

theorem ParamsWithAlias.of_noParams {a : Option String} {l : List Event}
    (h : ∀ ev ∈ l, ev.call.writesParams = false) : ParamsWithAlias a l := by
  intro id ps hm
  obtain ⟨ev, hev, hw⟩ := List.mem_filterMap.mp hm
  have := h ev hev
  rw [Event.call_eq_of_write? hw] at this
  cases this

theorem ParamsWithAlias.append {a : Option String} {l₁ l₂ : List Event}
    (h₁ : ParamsWithAlias a l₁) (h₂ : ParamsWithAlias a l₂) : ParamsWithAlias a (l₁ ++ l₂) := by
  intro id ps hm
  rw [List.filterMap_append, List.mem_append] at hm
  rcases hm with hm | hm
  · obtain ⟨s, d, n, hs, hr⟩ := h₁ id ps hm
    exact ⟨s, d, n, hs, by simp [hr]⟩
  · obtain ⟨s, d, n, hs, hr⟩ := h₂ id ps hm
    exact ⟨s, d, n, hs, by simp [hr]⟩

namespace Svc

variable {ε α β : Type}

/-- Every stopping run of `x` has `ParamsWithAlias a` for its calls. -/
def BindsAlias (a : Option String) (x : Svc ε α) : Prop :=
  ∀ ⦃w r w'⦄, x.run w = some (r, w') → ParamsWithAlias a (w.eventsTo w')

theorem bindsAlias_of_onlyCalls {a : Option String} {x : Svc ε α}
    (hx : OnlyCalls (fun c => c.writesParams = false) x) : BindsAlias a x :=
  fun _ _ _ h => .of_noParams (hx h)

theorem bindsAlias_bind {a : Option String} {x : Svc ε α} {f : α → Svc ε β}
    (hx : BindsAlias a x) (hf : ∀ v, BindsAlias a (f v)) : BindsAlias a (x >>= f) := by
  intro w r w' h
  rcases bind_eq_some h with ⟨v, w1, h1, h2⟩ | ⟨e, h1, -⟩
  · rw [World.eventsTo_trans (follows _ h1) (follows _ h2)]
    exact (hx h1).append (hf v h2)
  · exact hx h1

theorem bindsAlias_bind_noParams {a : Option String} {x : Svc ε α} {f : α → Svc ε β}
    (hx : OnlyCalls (fun c => c.writesParams = false) x) (hf : ∀ v, BindsAlias a (f v)) :
    BindsAlias a (x >>= f) :=
  bindsAlias_bind (bindsAlias_of_onlyCalls hx) hf

theorem bindsAlias_mapError {ε' : Type} {a : Option String} {x : Svc ε α} {g : ε → ε'}
    (hx : BindsAlias a x) : BindsAlias a (x.mapError g) := fun _ _ _ h =>
  let ⟨_, h', _⟩ := mapError_eq_some h
  hx h'

/-- Every stopping run of `x` calls `c`. -/
def Calls (c : Call) (x : Svc ε α) : Prop :=
  ∀ ⦃w r w'⦄, x.run w = some (r, w') → c ∈ (w.eventsTo w').map Event.call

theorem calls_bind_left {c : Call} {x : Svc ε α} {f : α → Svc ε β} (hx : Calls c x) :
    Calls c (x >>= f) := by
  intro w r w' h
  rcases bind_eq_some h with ⟨v, w1, h1, h2⟩ | ⟨e, h1, -⟩
  · rw [World.eventsTo_trans (follows _ h1) (follows _ h2), List.map_append]
    exact List.mem_append_left _ (hx h1)
  · exact hx h1

theorem calls_mapError {ε' : Type} {c : Call} {x : Svc ε α} {g : ε → ε'} (hx : Calls c x) :
    Calls c (x.mapError g) := fun _ _ _ h =>
  let ⟨_, h', _⟩ := mapError_eq_some h
  hx h'

end Svc

theorem KeystoreDB.write_calls (wr : DbWrite) : Svc.Calls (.db wr) (KeystoreDB.write env wr) := by
  intro w r w' h
  rw [KeystoreDB.run_write] at h
  cases h
  simp

/-- The parameter write, then something that binds the same key id to the
alias: an accepted parameter write always comes with the binding. -/
theorem bindsAlias_insertKeyparameter_bind {β : Type} (keyId : KeyIdGuard)
    (ps : List KeyParameter) (s : String) (msg : String) {y : Svc AnyhowError β}
    (hy : Svc.BindsAlias (some s) y) (hc : ∃ d n, Svc.Calls (.db (.rebindAlias keyId.id s d n)) y) :
    Svc.BindsAlias (some s)
      ((KeystoreDB.insertKeyparameter env keyId ps).context msg >>= fun _ => y) := by
  obtain ⟨d, n, hc⟩ := hc
  intro w r w' h id ps' hm
  rcases Svc.bind_eq_some h with ⟨_, w1, h1, h2⟩ | ⟨e, h1, -⟩
  · rw [World.eventsTo_trans (Svc.follows _ h1) (Svc.follows _ h2), List.filterMap_append,
      List.mem_append] at hm
    rw [World.eventsTo_trans (Svc.follows _ h1) (Svc.follows _ h2), List.map_append]
    rcases hm with hm | hm
    · obtain ⟨⟨⟩, -⟩ := KeystoreDB.mem_write_accepted env (Svc.mapError_ok h1) hm
      exact ⟨s, d, n, rfl, List.mem_append_right _ (hc h2)⟩
    · obtain ⟨s', d', n', hs, hr⟩ := hy h2 id ps' hm
      exact ⟨s', d', n', hs, List.mem_append_right _ hr⟩
  · obtain ⟨r', h1', hr⟩ := Svc.mapError_eq_some h1
    obtain ⟨-, rfl⟩ := KeystoreDB.mem_write_accepted env h1' hm
    cases hr

section Alias

variable (self : KeystoreSecurityLevel)

theorem storeNewKeyInDb_bindsAlias {key : KeyDescriptor} {s : String} (ha : key.«alias» = some s)
    (keyParameters : List KeyParameter) (cert certChain : Option Blob) (blob : Blob) :
    Svc.BindsAlias (some s) (storeNewKeyInDb env self key keyParameters cert certChain blob) := by
  have hb : ∀ id sc b msg, Svc.OnlyCalls (fun c => c.writesParams = false)
      ((KeystoreDB.insertBlob env id sc b self.securityLevel).context msg) :=
    fun _ _ _ _ => Svc.onlyCalls_mapError _ (KeystoreDB.write_onlyCalls env rfl)
  unfold storeNewKeyInDb
  refine Svc.bindsAlias_bind_noParams (Svc.onlyCalls_mapError _
    (KeystoreDB.createKeyEntry_onlyCalls env rfl)) fun keyId => ?_
  refine Svc.bindsAlias_bind_noParams (hb _ _ _ _) fun _ => Svc.bindsAlias_bind_noParams ?_
    fun _ => Svc.bindsAlias_bind_noParams ?_ fun _ => ?_
  · cases cert
    exacts [Svc.onlyCalls_pure _ _, hb _ _ _ _]
  · cases certChain
    exacts [Svc.onlyCalls_pure _ _, hb _ _ _ _]
  simp only [ha]
  exact bindsAlias_insertKeyparameter_bind env keyId _ s _
    (Svc.bindsAlias_bind_noParams (Svc.onlyCalls_mapError _ (KeystoreDB.write_onlyCalls env rfl))
      fun _ => Svc.bindsAlias_of_onlyCalls (Svc.onlyCalls_pure _ _))
    ⟨_, _, Svc.calls_bind_left (Svc.calls_mapError (KeystoreDB.write_calls env _))⟩

theorem storeNewKey_bindsAlias {key : KeyDescriptor} {a : Option String} (ha : key.«alias» = a)
    (h : key.domain ≠ Domain.blob → a ≠ none) (keyCharacteristics : KeyCharacteristics)
    (kmCertChain : Option (List KmCertificate)) (blob : Blob) :
    Svc.BindsAlias a (storeNewKey env self key keyCharacteristics kmCertChain blob) := by
  intro w r w' hr
  obtain ⟨r', hb, hn, -⟩ := storeNewKey_run env self key keyCharacteristics kmCertChain blob hr
  by_cases hd : key.domain = Domain.blob
  · rw [(hb hd).2, World.eventsTo_self]
    exact .of_noParams fun _ h => by cases h
  · obtain ⟨s, rfl⟩ := Option.ne_none_iff_exists'.mp (h hd)
    exact storeNewKeyInDb_bindsAlias env self ha _ _ _ _ (hn hd)

/-- What a key-creation handler `x` does with the alias of `key`: outside
`Domain::BLOB` a request without an alias is refused at once, with
`INVALID_ARGUMENT` and the handler's message `msg`, calling nothing and leaving
the world as it was; and in every stopping run, every key parameter write the
Key Store accepted comes with the binding of the request's alias. -/
def AliasCheckedFirst {α : Type} (key : KeyDescriptor) (msg : String) (x : Svc AnyhowError α) :
    Prop :=
  (key.domain ≠ Domain.blob → key.«alias» = none → ∀ w,
    x.run w = some (.error ((AnyhowError.ofError (.km .invalidArgument)).withContext msg), w)) ∧
  Svc.BindsAlias key.«alias» x

/-- Checks that refuse a request outside `BLOB` without an alias at once, write
no key parameters, and settle the rewritten descriptor; a KeyMint part that
writes no key parameters: the shape checks the alias first. -/
theorem keyCreation_aliasCheckedFirst {ρ : Type} {checks : Svc AnyhowError ρ}
    {keyOf : ρ → KeyDescriptor}
    {km : ρ → Svc AnyhowError (Blob × KeyCharacteristics × Option (List KmCertificate))}
    {msg msg' : String} {key : KeyDescriptor}
    (hrefuse : key.domain ≠ Domain.blob → key.«alias» = none → ∀ w, checks.run w =
      some (.error ((AnyhowError.ofError (.km .invalidArgument)).withContext msg'), w))
    (hc : Svc.OnlyCalls (fun c => c.writesParams = false) checks)
    (hok : ∀ p w w', checks.run w = some (.ok p, w') →
      keyOf p = rewriteAppDomain key w.callingUid ∧ (key.domain ≠ Domain.blob → key.«alias» ≠ none))
    (hkm : ∀ p, Svc.OnlyCalls (fun c => c.writesParams = false) (km p)) :
    AliasCheckedFirst key msg' (keyCreation env self checks keyOf km msg) := by
  refine ⟨fun hd ha w => by unfold keyCreation; exact Svc.bind_error (hrefuse hd ha w),
    fun w r w' h => ?_⟩
  obtain ⟨rc, w1, h1, hrest⟩ := keyCreation_run env self h
  rcases hrest with ⟨e, rfl, -, rfl⟩ | ⟨p, rk, w2, rfl, h2, hrest⟩
  · exact .of_noParams (hc h1)
  have hf12 := (Svc.follows _ h1).trans (Svc.follows _ h2)
  have hpre : ParamsWithAlias key.«alias» (w.eventsTo w2) := by
    rw [World.eventsTo_trans (Svc.follows _ h1) (Svc.follows _ h2)]
    exact (ParamsWithAlias.of_noParams (hc h1)).append (.of_noParams (hkm p h2))
  rcases hrest with ⟨e, rfl, -, rfl⟩ | ⟨blob, kc, chain, r3, rfl, h3, -⟩
  · exact hpre
  obtain ⟨hkey, hal⟩ := hok p w w1 h1
  rw [hkey] at h3
  rw [World.eventsTo_trans hf12 (Svc.follows _ h3)]
  exact hpre.append (storeNewKey_bindsAlias env self (rewriteAppDomain_alias key _)
    (fun hd => hal (by simpa using hd)) _ _ _ h3)

theorem generateKey_alias (key : KeyDescriptor) (attestationKey : Option KeyDescriptor)
    (params : List KmKeyParameter) (flags : Int) (entropy : Blob) :
    AliasCheckedFirst key "In generate_key: Alias must be specified"
      (generateKey env self key attestationKey params flags entropy) :=
  keyCreation_aliasCheckedFirst env self
    (fun hd ha w => by unfold generateKeyChecks; exact Svc.bind_error (requireAlias_rejects w ⟨hd, ha⟩))
    (Svc.OnlyCallsOf.onlyCalls fun uid => generateKeyChecks_calls env uid key (fun _ => rfl) rfl)
    (fun _ _ _ h1 => let ⟨hk, ha, _⟩ := generateKeyChecks_ok env h1; ⟨hk, ha⟩)
    fun _ => generateKeyKm_calls env params entropy rfl rfl

theorem importKey_alias (key : KeyDescriptor) (attestationKey : Option KeyDescriptor)
    (params : List KmKeyParameter) (flags : Int) (keyData : Blob) :
    AliasCheckedFirst key "In import_key: Alias must be specified"
      (importKey env self key attestationKey params flags keyData) :=
  keyCreation_aliasCheckedFirst env self
    (fun hd ha w => by unfold importKeyChecks; exact Svc.bind_error (requireAlias_rejects w ⟨hd, ha⟩))
    (Svc.OnlyCallsOf.onlyCalls fun uid => importKeyChecks_calls env uid key params (fun _ => rfl) rfl)
    (fun _ _ _ h1 => let ⟨hk, ha, _⟩ := importKeyChecks_ok env h1; ⟨hk, ha⟩)
    fun _ => importKeyKm_calls env params keyData _ rfl

theorem importWrappedKey_alias (key wrappingKey : KeyDescriptor) (maskingKey : Option Blob)
    (params : List KmKeyParameter) (authenticators : List AuthenticatorSpec) :
    AliasCheckedFirst key "In import_wrapped_key: Alias must be specified."
      (importWrappedKey env self key wrappingKey maskingKey params authenticators) :=
  keyCreation_aliasCheckedFirst env self
    (fun hd ha w => by
      unfold importWrappedKeyChecks; exact Svc.bind_error (requireAlias_rejects w ⟨hd, ha⟩))
    (Svc.OnlyCallsOf.onlyCalls fun uid => importWrappedKeyChecks_calls env uid key wrappingKey maskingKey
      authenticators (fun _ => rfl) (fun _ _ _ => rfl) rfl rfl)
    (fun _ _ _ h1 => let hp := importWrappedKeyChecks_ok env h1; ⟨hp.key_eq, hp.alias_ne⟩)
    fun p => importWrappedKeyKm_calls env self params p rfl rfl fun _ => rfl

end Alias

/-- **The alias is checked first.** `generate_key`, `import_key` and
`import_wrapped_key` refuse a request outside `Domain::BLOB` without an alias
with `INVALID_ARGUMENT` before calling anything; in every other stopping run,
whatever the collaborators answer, every key parameter write the Key Store
accepted comes with the binding of the request's alias, so the missing-alias
error of `store_new_key` is never reached. -/
theorem keyCreation_alias_checked_first (self : KeystoreSecurityLevel) :
    (∀ key attestationKey params flags entropy,
      AliasCheckedFirst key "In generate_key: Alias must be specified"
        (generateKey env self key attestationKey params flags entropy)) ∧
    (∀ key attestationKey params flags keyData,
      AliasCheckedFirst key "In import_key: Alias must be specified"
        (importKey env self key attestationKey params flags keyData)) ∧
    (∀ key wrappingKey maskingKey params authenticators,
      AliasCheckedFirst key "In import_wrapped_key: Alias must be specified."
        (importWrappedKey env self key wrappingKey maskingKey params authenticators)) :=
  ⟨generateKey_alias env self, importKey_alias env self, importWrappedKey_alias env self⟩

end Keystore2

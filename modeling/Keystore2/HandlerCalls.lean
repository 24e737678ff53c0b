import Keystore2.CreateOperation
import Keystore2.KeyCreation

/-!
# Keystore2 — the calls each handler makes

One lemma per handler lists the calls it can make, with what the handler knows
of their arguments when it makes them: the uid it read from `ThreadState`, the
format it derived from the `ALGORITHM` parameter, the wrapped key data and the
authenticator ids it looked up, the KM blob write of the upgrade protocol. A
result about the calls of a handler follows from its lemma by choosing the
predicate the calls must meet.

## Results

* `generateKey_onlyCalls`, `importKey_onlyCalls`, `importWrappedKey_onlyCallsOf`,
  `createOperation_onlyCallsOf` — the calls of each handler.
-/

namespace Keystore2

open KeystoreSecurityLevel

variable (env : Env)

-- ---------------------------------------------------------------------------
-- The calls of each handler
-- ---------------------------------------------------------------------------

namespace KeystoreSecurityLevel

variable (self : KeystoreSecurityLevel) {P : Call → Prop}

/-- The calls of `generate_key`: the Access Gate, the KeyMint device,
`addRngEntropy` and `generateKey` on the request's data, and Key Store
writes. -/
theorem generateKey_onlyCalls (key : KeyDescriptor) (attestationKey : Option KeyDescriptor)
    (params : List KmKeyParameter) (flags : Int) (entropy : Blob)
    (hk : ∀ sid perm k av, P (.checkKeyPermission sid perm k av)) (hg : P .getInterface)
    (he : P (.addRngEntropy entropy)) (hgen : P (.generateKey params)) (hdb : ∀ wr, P (.db wr)) :
    Svc.OnlyCalls P (generateKey env self key attestationKey params flags entropy) :=
  Svc.OnlyCallsOf.onlyCalls fun uid => keyCreation_onlyCallsOf env self
    (generateKeyChecks_calls env uid key (fun _ => hk _ _ _ _) hg)
    (fun _ _ _ _ _ => .of_onlyCalls (generateKeyKm_calls env params entropy he hgen))
    fun _ _ _ _ _ _ _ _ => storeNewKey_onlyCalls_db env self _ _ _ _ hdb

/-- The calls of `import_key`: the Access Gate, the KeyMint device, `importKey`
on the request's parameters and key material in the format of its `ALGORITHM`
parameter, and Key Store writes. -/
theorem importKey_onlyCalls (key : KeyDescriptor) (attestationKey : Option KeyDescriptor)
    (params : List KmKeyParameter) (flags : Int) (keyData : Blob)
    (hk : ∀ sid perm k av, P (.checkKeyPermission sid perm k av)) (hg : P .getInterface)
    (hi : ∀ f, importKeyFormat params = .ok f → P (.importKey params f keyData))
    (hdb : ∀ wr, P (.db wr)) :
    Svc.OnlyCalls P (importKey env self key attestationKey params flags keyData) :=
  Svc.OnlyCallsOf.onlyCalls fun uid => keyCreation_onlyCallsOf env self
    (importKeyChecks_calls env uid key params (fun _ => hk _ _ _ _) hg)
    (fun _ _ _ _ h => .of_onlyCalls (importKeyKm_calls env params keyData _
      (hi _ (importKeyChecks_ok env h).2.2.2)))
    fun _ _ _ _ _ _ _ _ => storeNewKey_onlyCalls_db env self _ _ _ _ hdb

/-- The calls of `import_wrapped_key` for the caller `uid`: the Access Gate,
the lookup of the wrapping key for `uid`, the KeyMint device, `importWrappedKey`
on the descriptor's wrapped key data, the masking key or 32 zero bytes, the
request's parameters and the ids of its first password and fingerprint
authenticators, `upgradeKey`, and Key Store writes. -/
theorem importWrappedKey_onlyCallsOf (uid : UInt32) (key wrappingKey : KeyDescriptor)
    (maskingKey : Option Blob) (params : List KmKeyParameter)
    (authenticators : List AuthenticatorSpec)
    (hk : ∀ sid perm k av, P (.checkKeyPermission sid perm k av)) (hg : P .getInterface)
    (hl : P (.loadKeyEntry wrappingKey .km uid))
    (hw : ∀ d wb pw fp, key.blob = some d → findAuthenticatorId .password authenticators = some pw →
      findAuthenticatorId .fingerprint authenticators = some fp →
      P (.importWrappedKey d wb (maskingKey.getD zeroBlob32) params pw fp))
    (hu : ∀ b, P (.upgradeKey b [])) (hdb : ∀ wr, P (.db wr)) :
    Svc.OnlyCallsOf uid P
      (importWrappedKey env self key wrappingKey maskingKey params authenticators) := by
  refine keyCreation_onlyCallsOf env self (importWrappedKeyChecks_calls env uid key wrappingKey
    maskingKey authenticators (fun _ => hk _ _ _ _) (fun _ _ _ => hk _ _ _ _) hl hg)
    (fun p _ _ _ h => .of_onlyCalls (importWrappedKeyKm_calls env self params p ?_ (hu _)
      fun _ => hdb _)) fun _ _ _ _ _ _ _ _ => storeNewKey_onlyCalls_db env self _ _ _ _ hdb
  have hp := importWrappedKeyChecks_ok env h
  rw [hp.maskingKey_eq]
  exact hw _ _ _ _ hp.wrappedData_eq hp.pwSid_eq hp.fpSid_eq

/-- The calls of `create_operation`'s key resolution for the caller `uid`: the
Access Gate and the lookup of the key for `uid`. -/
theorem createOperationKmBlob_calls (uid : UInt32) (key : KeyDescriptor)
    (hk : ∀ sid perm k av, P (.checkKeyPermission sid perm k av))
    (hl : P (.loadKeyEntry key .km uid)) :
    Svc.OnlyCalls P (createOperationKmBlob env key uid) := by
  have hcheck : ∀ k av, Svc.OnlyCalls P (checkKeyPermission env .use k av) :=
    fun _ _ => checkKeyPermission_onlyCalls env fun _ => hk _ _ _ _
  unfold createOperationKmBlob
  split
  · refine Svc.onlyCalls_bind (Svc.onlyCalls_mapError _ (hcheck key none)) fun _ => ?_
    split
    exacts [Svc.onlyCalls_pure _ _, Svc.onlyCalls_throw _ _]
  · refine Svc.onlyCalls_bind (Svc.onlyCalls_mapError _
      (KeystoreDB.loadKeyEntry_onlyCalls env hl hcheck)) fun p => ?_
    obtain ⟨_, _⟩ := p
    dsimp only
    split
    exacts [Svc.onlyCalls_pure _ _, Svc.onlyCalls_throw _ _]

/-- The calls of `create_operation` for the caller `uid`: the Access Gate, the
lookup of the key for `uid`, the KeyMint device, `begin` and `upgradeKey` on the
request's parameters, `prune` for `uid`, a KM blob write, the registration of
an operation owned by `uid`, and its binder. -/
theorem createOperation_onlyCallsOf (uid : UInt32) (key : KeyDescriptor)
    (ps : List KmKeyParameter) (forced : Bool)
    (hk : ∀ sid perm k av, P (.checkKeyPermission sid perm k av)) (hg : P .getInterface)
    (hl : P (.loadKeyEntry key .km uid)) (hb : ∀ p b, P (.begin p b ps)) (hp : P (.prune uid))
    (hu : ∀ b, P (.upgradeKey b ps))
    (hkm : ∀ id b, P (.db (.insertBlob id .kmBlob b self.securityLevel)))
    (ho : ∀ op, P (.createOperation op uid)) (hn : ∀ op, P (.intoInterface op)) :
    Svc.OnlyCallsOf uid P (createOperation env self key ps forced) := by
  unfold createOperation
  refine .read_callingUid (.of_onlyCalls ?_)
  refine Svc.onlyCalls_bind (createOperationKmBlob_calls env uid key hk hl) fun ⟨_, _⟩ =>
    Svc.onlyCalls_bind (Svc.onlyCalls_ofExcept _ _) fun _ =>
    Svc.onlyCalls_bind (Svc.onlyCalls_mapError _ (Asp.getInterface_onlyCalls env hg)) fun _ =>
    Svc.onlyCalls_bind (Svc.onlyCalls_mapError _ (upgradeKeyblobIfRequiredWith_onlyCalls env self
      (fun _ => beginLoop_onlyCalls env (hb _ _) hp) (hu _) fun _ _ _ => hkm _ _)) fun p => ?_
  obtain ⟨_, _⟩ := p
  dsimp only
  split
  all_goals refine Svc.onlyCalls_bind ?_ fun op => Svc.onlyCalls_bind (Svc.onlyCalls_mapError _
    (Svc.onlyCalls_bind (Svc.onlyCalls_ask env (hn op)) fun _ => Svc.onlyCalls_ofExcept _ _)) fun _ =>
      Svc.onlyCalls_pure _ _
  exacts [Svc.onlyCalls_ask env (ho _), Svc.onlyCalls_throw _ _]

end KeystoreSecurityLevel

end Keystore2

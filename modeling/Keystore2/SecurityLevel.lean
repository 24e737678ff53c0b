import Keystore2.KeystoreDb

/-!
# Keystore2 — `security_level.rs`

`KeystoreSecurityLevel`: the four request handlers `generate_key`,
`import_key`, `import_wrapped_key` and `create_operation`, the persistence of a
new key `store_new_key`, and the upgrade-retry protocol
`upgrade_keyblob_if_required_with`, each as the source computes it.

The three key-creation handlers share two pieces, written once here: the alias
check (`requireAlias`, with each handler's own message) and the rewrite of an
`APP` key's namespace to the calling uid (`rewriteAppDomain`). They also share
one shape, `keyCreation`: checks and lookups, then KeyMint's part, then
`store_new_key`. Each handler is that shape applied to its own two parts, cut
from the source at the same two points (`generateKeyChecks`, `generateKeyKm`,
and so on), so that a fact about all three is proved once for the shape. The
closure `import_wrapped_key` hands to the upgrade protocol is the source's: it
ignores the blob the protocol passes it and unwraps with the blob it captured.

Left out: the binder wrappers of `IKeystoreSecurityLevel` (`map_or_log_err`
around each handler) and `new_native_binder`.
-/

namespace Keystore2

/-- `KeystoreSecurityLevel`, by the one field its handlers read themselves; the
KeyMint device and the Operation Registry are collaborators of `Env`. -/
structure KeystoreSecurityLevel where
  securityLevel : SecurityLevel

/-- `ZERO_BLOB_32`, the masking key used when none is given. -/
def zeroBlob32 : Blob := List.replicate 32 0

/-- The first match of `store_new_key`: the leaf certificate, and the rest of
the chain concatenated. `chain.remove(0)` runs before the second `len()`. -/
def splitCertChain : Option (List KmCertificate) → Option Blob × Option Blob
  | some chain =>
    let (cert, chain) : Option Blob × List KmCertificate :=
      match chain with
      | [] => (none, [])
      | c :: rest => (some c.encodedCertificate, rest)
    (cert, match chain with
      | [] => none
      | _ => some (chain.flatMap (·.encodedCertificate)))
  | none => (none, none)

/-- The split of a chain: the leaf's encoding when there is a leaf, and the
encodings of the rest when there are at least two certificates. -/
theorem splitCertChain_some (chain : List KmCertificate) :
    splitCertChain (some chain) = (chain.head?.map (·.encodedCertificate),
      if 2 ≤ chain.length then some ((chain.drop 1).flatMap (·.encodedCertificate)) else none) := by
  rcases chain with _ | ⟨c, _ | ⟨d, rest⟩⟩ <;> simp [splitCertChain]

/-- The two halves of the split, put back together, are the whole chain's
encodings. -/
theorem splitCertChain_getD_append (chain : List KmCertificate) :
    (splitCertChain (some chain)).1.getD [] ++ (splitCertChain (some chain)).2.getD [] =
      chain.flatMap (·.encodedCertificate) := by
  rcases chain with _ | ⟨c, _ | ⟨d, rest⟩⟩ <;> simp [splitCertChain]

/-- The descriptor the key-creation handlers go on with: an `APP` key lives in
the calling uid's namespace (`get_calling_uid() as i64`) and loses its blob. -/
def rewriteAppDomain (key : KeyDescriptor) (callingUid : UInt32) : KeyDescriptor :=
  if key.domain = Domain.app then
    { domain := key.domain, nspace := callingUid.toNat, «alias» := key.«alias», blob := none }
  else key

@[simp] theorem rewriteAppDomain_domain (key : KeyDescriptor) (callingUid : UInt32) :
    (rewriteAppDomain key callingUid).domain = key.domain := by
  unfold rewriteAppDomain; split <;> rfl

@[simp] theorem rewriteAppDomain_alias (key : KeyDescriptor) (callingUid : UInt32) :
    (rewriteAppDomain key callingUid).«alias» = key.«alias» := by
  unfold rewriteAppDomain; split <;> rfl

theorem rewriteAppDomain_nspace (key : KeyDescriptor) (callingUid : UInt32) :
    (rewriteAppDomain key callingUid).nspace =
      if key.domain = Domain.app then (callingUid.toNat : Int) else key.nspace := by
  unfold rewriteAppDomain; split <;> rfl

/-- The `KeyFormat` `import_key` derives from the `ALGORITHM` parameter. The
context "No KeyParameter 'Algorithm'." is attached before `and_then`, so only a
missing parameter carries it; an unknown algorithm is rendered by the derived
`Debug` of the tuple struct `Algorithm`. -/
def importKeyFormat (params : List KmKeyParameter) : Except AnyhowError KeyFormat :=
  match params.find? (fun p => decide (p.tag = Tag.algorithm)) with
  | none =>
    .error (((AnyhowError.ofError (.km .invalidArgument)).withContext
      "No KeyParameter \x27Algorithm\x27.").withContext "In import_key.")
  | some p =>
    let algorithm : Algorithm := ⟨p.integer⟩
    if algorithm = .aes ∨ algorithm = .hmac ∨ algorithm = .tripleDes then .ok .raw
    else if algorithm = .rsa ∨ algorithm = .ec then .ok .pkcs8
    else
      .error (((AnyhowError.ofError (.km .invalidArgument)).withContext
        ("Unknown Algorithm Algorithm(" ++ toString algorithm.val ++ ").")).withContext
        "In import_key.")

/-- The first authenticator id of a kind (`find_map` over `authenticators`). -/
def findAuthenticatorId (kind : HardwareAuthenticatorType)
    (authenticators : List AuthenticatorSpec) : Option Int :=
  authenticators.findSome? fun a =>
    if a.authenticatorType = kind then some a.authenticatorId else none

variable (env : Env)

/-- The alias check at the top of the key-creation handlers, with the handler's
message: a key outside `BLOB` must carry an alias. -/
def requireAlias (key : KeyDescriptor) (msg : String) : Svc AnyhowError Unit :=
  if key.domain ≠ Domain.blob ∧ key.«alias» = none then
    Svc.throw ((AnyhowError.ofError (.km .invalidArgument)).withContext msg)
  else pure ()

theorem requireAlias_rejects {key : KeyDescriptor} {msg : String} (w : World)
    (h : key.domain ≠ Domain.blob ∧ key.«alias» = none) :
    (requireAlias key msg).run w =
      some (.error ((AnyhowError.ofError (.km .invalidArgument)).withContext msg), w) := by
  simp only [requireAlias, if_pos h]
  rfl

theorem requireAlias_passes {key : KeyDescriptor} {msg : String} (w : World)
    (h : ¬ (key.domain ≠ Domain.blob ∧ key.«alias» = none)) :
    (requireAlias key msg).run w = some (.ok (), w) := by
  simp only [requireAlias, if_neg h]
  rfl

theorem requireAlias_onlyCalls (P : Call → Prop) (key : KeyDescriptor) (msg : String) :
    Svc.OnlyCalls P (requireAlias key msg) := by
  unfold requireAlias
  split
  exacts [Svc.onlyCalls_throw _ _, Svc.onlyCalls_pure _ _]

namespace KeystoreSecurityLevel

variable (self : KeystoreSecurityLevel)

/-- The `DB.with` closure of `store_new_key`: a new key id, its KM blob,
certificate, certificate chain and parameters, then the alias. -/
def storeNewKeyInDb (key : KeyDescriptor) (keyParameters : List KeyParameter)
    (cert certChain : Option Blob) (blob : Blob) : Svc AnyhowError KeyDescriptor := do
  let keyId ← (KeystoreDB.createKeyEntry env key.domain key.nspace).context
    "Trying to create a key entry."
  (KeystoreDB.insertBlob env keyId .kmBlob blob self.securityLevel).context
    "Trying to insert km blob."
  (match cert with
    | some c =>
      (KeystoreDB.insertBlob env keyId .cert c self.securityLevel).context
        "Trying to insert cert blob."
    | none => pure ())
  (match certChain with
    | some c =>
      (KeystoreDB.insertBlob env keyId .certChain c self.securityLevel).context
        "Trying to insert cert chain blob."
    | none => pure ())
  (KeystoreDB.insertKeyparameter env keyId keyParameters).context
    "Trying to insert key parameters."
  (match key.«alias» with
    | some a =>
      (KeystoreDB.rebindAlias env keyId a key.domain key.nspace).context "Failed to rebind alias."
    | none =>
      Svc.throw ((AnyhowError.ofError .sys).withContext
        "Alias must be specified. (This should have been checked earlier.)"))
  pure { domain := Domain.keyId, nspace := keyId.id, «alias» := none, blob := none }

/-- `store_new_key`. -/
def storeNewKey (key : KeyDescriptor) (keyCharacteristics : KeyCharacteristics)
    (kmCertChain : Option (List KmCertificate)) (blob : Blob) : Svc AnyhowError KeyMetadata := do
  let (cert, certChain) := splitCertChain kmCertChain
  let keyParameters :=
    keyCharacteristicsToInternal env.convertFromWire keyCharacteristics self.securityLevel
  let key ←
    if key.domain = Domain.blob then
      pure { domain := Domain.blob, nspace := 0, «alias» := none, blob := some blob }
    else (storeNewKeyInDb env self key keyParameters cert certChain blob).context "In store_new_key."
  pure { key, keySecurityLevel := self.securityLevel, certificate := cert,
         certificateChain := certChain,
         authorizations := keyParametersToAuthorizations env.intoAuthorization keyParameters }

/-- `upgrade_keyblob_if_required_with`: run `f` on the blob; if KeyMint asks
for an upgrade, upgrade the blob, store it under the guard when there is one,
and run `f` once more on the upgraded blob. -/
def upgradeKeyblobIfRequiredWith {T : Type} (keyIdGuard : Option KeyIdGuard) (blob : Blob)
    (params : List KmKeyParameter) (f : Blob → Svc Error T) :
    Svc AnyhowError (T × Option Blob) := do
  match ← Svc.observe (f blob) with
  | .error e =>
    if e = .km .keyRequiresUpgrade then do
      let upgradedBlob ← (do Svc.ofExcept (← Svc.ask env (.upgradeKey blob params))).context
        "In upgrade_keyblob_if_required_with: Upgrade failed."
      (match keyIdGuard with
        | none => pure ()
        | some keyIdGuard =>
          (KeystoreDB.insertBlob env keyIdGuard .kmBlob upgradedBlob self.securityLevel).context
            "In upgrade_keyblob_if_required_with: Failed to insert upgraded blob into the database.")
      match ← Svc.observe (f upgradedBlob) with
      | .ok v => pure (v, some upgradedBlob)
      | .error e =>
        Svc.throw ((AnyhowError.ofError e).withContext
          "In upgrade_keyblob_if_required_with: Failed to perform operation on second try.")
    else
      Svc.throw ((AnyhowError.ofError e).withContext
        "In upgrade_keyblob_if_required_with: Failed perform operation.")
  | .ok v => pure (v, none)

/-- One iteration of the loop in `create_operation`'s closure: `begin` on the
blob; on `TOO_MANY_OPERATIONS` prune the caller's operations and continue
(`none`); any other answer is returned. -/
def beginLoopBody (purpose : KeyPurpose) (operationParameters : List KmKeyParameter)
    (callerUid : UInt32) (blob : Blob) : Svc Error (Option BeginResult) := do
  match ← Svc.ask env (.begin purpose blob operationParameters) with
  | .error e =>
    if e = .km .tooManyOperations then do
      OperationDb.prune env callerUid
      pure none
    else Svc.throw e
  | .ok v => pure (some v)

/-- The closure `create_operation` hands to the upgrade protocol: the loop of
`beginLoopBody`. -/
def beginLoop (purpose : KeyPurpose) (operationParameters : List KmKeyParameter)
    (callerUid : UInt32) (blob : Blob) : Svc Error BeginResult :=
  Svc.loop (beginLoopBody env purpose operationParameters callerUid blob) env.fuel

/-- The first part of `create_operation`: the blob to begin with, and the guard
of its key id for a stored key. A `BLOB` key needs the use permission on the
descriptor and carries its blob; any other key is loaded, with the use
permission checked in `load_key_entry`'s callback. -/
def createOperationKmBlob (key : KeyDescriptor) (callerUid : UInt32) :
    Svc AnyhowError (Blob × Option KeyIdGuard) :=
  if key.domain = Domain.blob then do
    (checkKeyPermission env .use key none).context
      "In create_operation: checking use permission for Domain::BLOB."
    match key.blob with
    | some blob => pure (blob, none)
    | none =>
      Svc.throw ((AnyhowError.ofError .sys).withContext
        "In create_operation: Key blob must be specified when using Domain::BLOB.")
  else do
    let (keyIdGuard, keyEntry) ←
      (KeystoreDB.loadKeyEntry env key .km callerUid fun k av =>
        checkKeyPermission env .use k av).context
        "In create_operation: Failed to load key blob."
    match keyEntry.kmBlob with
    | some blob => pure (blob, some keyIdGuard)
    | none =>
      Svc.throw ((AnyhowError.ofError .sys).withContext
        "In create_operation: Successfully loaded key entry, but KM blob was missing.")

/-- The purpose `create_operation` begins with: the integer of the first
`PURPOSE` parameter. -/
def operationPurpose (operationParameters : List KmKeyParameter) :
    Except AnyhowError KeyPurpose :=
  match operationParameters.find? (fun p => decide (p.tag = Tag.purpose)) with
  | some kp => .ok ⟨kp.integer⟩
  | none =>
    .error ((AnyhowError.ofError (.km .invalidArgument)).withContext
      "In create_operation: No operation purpose specified.")

/-- `create_operation`. -/
def createOperation (key : KeyDescriptor) (operationParameters : List KmKeyParameter)
    (forced : Bool) : Svc AnyhowError CreateOperationResponse := do
  let callerUid ← Svc.read (·.callingUid)
  let (kmBlob, keyIdGuard) ← createOperationKmBlob env key callerUid
  let purpose ← Svc.ofExcept (operationPurpose operationParameters)
  (Asp.getInterface env).context "In create_operation: Failed to get KeyMint device"
  let (beginResult, _upgradedBlob) ←
    (upgradeKeyblobIfRequiredWith env self keyIdGuard kmBlob operationParameters
      (beginLoop env purpose operationParameters callerUid)).context
      "In create_operation: Failed to begin operation."
  let operation ←
    match beginResult.operation with
    | some kmOp => OperationDb.createOperation env kmOp callerUid
    | none =>
      Svc.throw ((AnyhowError.ofError .sys).withContext
        "In create_operation: Begin operation returned successfully, but did not return a valid operation.")
  (do Svc.ofExcept (← Svc.ask env (.intoInterface operation))).context
    "In create_operation: Failed to create IKeystoreOperation."
  pure { iOperation := some operation, operationChallenge := none,
         parameters := match beginResult.params with
           | [] => none
           | ps => some ps }

-- ---------------------------------------------------------------------------
-- The key-creation handlers
-- ---------------------------------------------------------------------------

/-- The shape the three key-creation handlers share: the checks and lookups
`checks`, which settle the descriptor of the new key (`keyOf`); KeyMint's part
`km`, which makes the key from what the checks found and answers its blob,
characteristics and certificate chain; then `store_new_key`, under the
handler's context `msg`. -/
def keyCreation {ρ : Type} (checks : Svc AnyhowError ρ) (keyOf : ρ → KeyDescriptor)
    (km : ρ → Svc AnyhowError (Blob × KeyCharacteristics × Option (List KmCertificate)))
    (msg : String) : Svc AnyhowError KeyMetadata := do
  let p ← checks
  let (blob, keyCharacteristics, kmCertChain) ← km p
  (storeNewKey env self (keyOf p) keyCharacteristics kmCertChain blob).context msg

/-- The checks of `generate_key`: an alias outside `Domain::BLOB`, the
namespace of an `APP` key rewritten to the calling uid, the rebind permission
on the result, and the KeyMint device. -/
def generateKeyChecks (key : KeyDescriptor) : Svc AnyhowError KeyDescriptor := do
  requireAlias key "In generate_key: Alias must be specified"
  let key := rewriteAppDomain key (← Svc.read (·.callingUid))
  (checkKeyPermission env .rebind key none).context "In generate_key."
  Asp.getInterface env
  pure key

/-- KeyMint's part of `generate_key`: the caller's entropy, then the key. -/
def generateKeyKm (params : List KmKeyParameter) (entropy : Blob) :
    Svc AnyhowError (Blob × KeyCharacteristics × Option (List KmCertificate)) := do
  (do Svc.ofExcept (← Svc.ask env (.addRngEntropy entropy))).anyhow
  let (blob, keyCharacteristics, certificateChain) ←
    (do Svc.ofExcept (← Svc.ask env (.generateKey params))).anyhow
  pure (blob, keyCharacteristics, some certificateChain)

/-- `generate_key`. -/
def generateKey (key : KeyDescriptor) (attestationKey : Option KeyDescriptor)
    (params : List KmKeyParameter) (flags : Int) (entropy : Blob) :
    Svc AnyhowError KeyMetadata :=
  keyCreation env self (generateKeyChecks env key) id (fun _ => generateKeyKm env params entropy)
    "In generate_key."

/-- The checks of `import_key`: those of `generate_key` up to the rebind
permission, then the `KeyFormat` of the `ALGORITHM` parameter, and the KeyMint
device. -/
def importKeyChecks (key : KeyDescriptor) (params : List KmKeyParameter) :
    Svc AnyhowError (KeyDescriptor × KeyFormat) := do
  requireAlias key "In import_key: Alias must be specified"
  let key := rewriteAppDomain key (← Svc.read (·.callingUid))
  (checkKeyPermission env .rebind key none).context "In import_key."
  let format ← Svc.ofExcept (importKeyFormat params)
  Asp.getInterface env
  pure (key, format)

/-- KeyMint's part of `import_key`: the key material in the format found. -/
def importKeyKm (params : List KmKeyParameter) (keyData : Blob) (format : KeyFormat) :
    Svc AnyhowError (Blob × KeyCharacteristics × Option (List KmCertificate)) := do
  let (blob, keyCharacteristics, certificateChain) ←
    (do Svc.ofExcept (← Svc.ask env (.importKey params format keyData))).anyhow
  pure (blob, keyCharacteristics, some certificateChain)

/-- `import_key`. -/
def importKey (key : KeyDescriptor) (attestationKey : Option KeyDescriptor)
    (params : List KmKeyParameter) (flags : Int) (keyData : Blob) :
    Svc AnyhowError KeyMetadata :=
  keyCreation env self (importKeyChecks env key params) Prod.fst
    (fun p => importKeyKm env params keyData p.2) "In import_key."

/-- What the checks of `import_wrapped_key` find for KeyMint: the descriptor of
the new key, the wrapped key data, the wrapping key's guard and KM blob, the
password and fingerprint authenticator ids, and the masking key. -/
structure WrappedKeyImport where
  key : KeyDescriptor
  wrappedData : Blob
  wrappingKeyIdGuard : KeyIdGuard
  wrappingKeyBlob : Blob
  pwSid : Int
  fpSid : Int
  maskingKey : Blob
  deriving DecidableEq, Repr

/-- The checks of `import_wrapped_key`: an alias outside `Domain::BLOB`, a
wrapping key outside `Domain::BLOB`, wrapped key data in the descriptor's blob,
the rebind permission on the rewritten descriptor, the wrapping key loaded with
the use permission and its KM blob, the two authenticator ids, the masking key
or 32 zero bytes, and the KeyMint device. -/
def importWrappedKeyChecks (key wrappingKey : KeyDescriptor) (maskingKey : Option Blob)
    (authenticators : List AuthenticatorSpec) : Svc AnyhowError WrappedKeyImport := do
  requireAlias key "In import_wrapped_key: Alias must be specified."
  (if wrappingKey.domain = Domain.blob then
      Svc.throw ((AnyhowError.ofError (.km .invalidArgument)).withContext
        "In import_wrapped_key: Import wrapped key not supported for self managed blobs.")
    else pure ())
  let wrappedData ←
    (match key.blob with
      | some d => pure d
      | none =>
        Svc.throw ((AnyhowError.ofError (.km .invalidArgument)).withContext
          "In import_wrapped_key: Blob must be specified and hold wrapped key data."))
  let key := rewriteAppDomain key (← Svc.read (·.callingUid))
  (checkKeyPermission env .rebind key none).context "In import_wrapped_key."
  let callerUid ← Svc.read (·.callingUid)
  let (wrappingKeyIdGuard, wrappingKeyEntry) ←
    (KeystoreDB.loadKeyEntry env wrappingKey .km callerUid fun k av =>
      checkKeyPermission env .use k av).context "Failed to load wrapping key."
  let wrappingKeyBlob ←
    (match wrappingKeyEntry.kmBlob with
      | some blob => pure blob
      | none =>
        Svc.throw ((AnyhowError.ofError .sys).withContext
          "No km_blob after successfully loading key. This should never happen."))
  let pwSid ←
    (match findAuthenticatorId .password authenticators with
      | some sid => pure sid
      | none =>
        Svc.throw ((AnyhowError.ofError (.km .invalidArgument)).withContext
          "A password authenticator SID must be specified."))
  let fpSid ←
    (match findAuthenticatorId .fingerprint authenticators with
      | some sid => pure sid
      | none =>
        Svc.throw ((AnyhowError.ofError (.km .invalidArgument)).withContext
          "A fingerprint authenticator SID must be specified."))
  let maskingKey := maskingKey.getD zeroBlob32
  Asp.getInterface env
  pure ⟨key, wrappedData, wrappingKeyIdGuard, wrappingKeyBlob, pwSid, fpSid, maskingKey⟩

/-- KeyMint's part of `import_wrapped_key`: `importWrappedKey` inside the
upgrade protocol on the wrapping key's blob, under its guard. The closure is
the source's: it ignores the blob the protocol passes it and unwraps with the
blob it captured. A wrapped key has no certificate chain. -/
def importWrappedKeyKm (params : List KmKeyParameter) (p : WrappedKeyImport) :
    Svc AnyhowError (Blob × KeyCharacteristics × Option (List KmCertificate)) := do
  let ((blob, keyCharacteristics), _) ←
    upgradeKeyblobIfRequiredWith env self (some p.wrappingKeyIdGuard) p.wrappingKeyBlob []
      fun _wrappingBlob => do
        let (blob, keyCharacteristics) ← Svc.ofExcept (← Svc.ask env
          (.importWrappedKey p.wrappedData p.wrappingKeyBlob p.maskingKey params p.pwSid p.fpSid))
        pure (blob, keyCharacteristics)
  pure (blob, keyCharacteristics, none)

/-- `import_wrapped_key`. -/
def importWrappedKey (key wrappingKey : KeyDescriptor) (maskingKey : Option Blob)
    (params : List KmKeyParameter) (authenticators : List AuthenticatorSpec) :
    Svc AnyhowError KeyMetadata :=
  keyCreation env self (importWrappedKeyChecks env key wrappingKey maskingKey authenticators)
    WrappedKeyImport.key (importWrappedKeyKm env self params) "In import_wrapped_key."

end KeystoreSecurityLevel

end Keystore2

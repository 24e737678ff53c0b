import Keystore2.HandlerCalls
import Keystore2.StoreIntegrity

/-!
# Keystore2 — what a transaction hands on to its collaborators

Two results about the arguments of a transaction's calls, each from the call
lemmas of `HandlerCalls`:

* Three calls name a uid for the callee to act for: `load_key_entry` resolves
  a descriptor for a caller, the Operation Registry's `prune` makes room for a
  caller, and its `create_operation` records the owner of an operation. Every
  one of them names the caller of the transaction: no transaction acts for
  another app.
* The import calls to KeyMint carry what `import_key` and `import_wrapped_key`
  build from the request: its key material and parameters, the `KeyFormat` of
  its `ALGORITHM` parameter, the masking key or 32 zero bytes, and the ids of
  its first password and fingerprint authenticators. A transaction of another
  method makes no import call.

## Results

* `dispatch_acts_for_caller` — every uid a transaction hands on is its caller's.
* `dispatch_import_args` — what the import calls of a transaction carry.
-/

namespace Keystore2

open KeystoreSecurityLevel

variable (env : Env)

-- ---------------------------------------------------------------------------
-- The uids a transaction hands on
-- ---------------------------------------------------------------------------

/-- The uid a call acts for: the caller `load_key_entry` resolves a key for,
the caller a prune makes room for, and the owner of a registered operation. -/
def Call.actsFor? : Call → Option UInt32
  | .loadKeyEntry _ _ uid | .prune uid | .createOperation _ uid => some uid
  | _ => none

/-- `c` acts for nobody, or for `uid`. -/
def Call.ActsFor (uid : UInt32) (c : Call) : Prop :=
  c.actsFor? = none ∨ c.actsFor? = some uid

/-- **Every transaction acts for its caller.** Whatever the method, its
arguments, the Key Store and the collaborators' answers, every call of a
transaction that names a uid, the key lookup of `load_key_entry`, the
Operation Registry's `prune` and the owner of a registered operation, names
the uid of the transaction's caller. -/
theorem dispatch_acts_for_caller (self : KeystoreSecurityLevel) (rq : Request) {w w' : World}
    {r : Except AnyhowError Response} (h : (dispatch env self rq).run w = some (r, w')) :
    ∀ ev ∈ w.eventsTo w', ∀ u, ev.call.actsFor? = some u → u = w.callingUid := by
  have hx : Svc.OnlyCallsOf w.callingUid (Call.ActsFor w.callingUid) (dispatch env self rq) := by
    cases rq <;> refine .bind ?_ fun _ => .of_onlyCalls (Svc.onlyCalls_pure _ _)
    · exact createOperation_onlyCallsOf env self _ _ _ _ (fun _ _ _ _ => .inl rfl) (.inl rfl)
        (.inr rfl) (fun _ _ => .inl rfl) (.inr rfl) (fun _ => .inl rfl) (fun _ _ => .inl rfl)
        (fun _ => .inr rfl) fun _ => .inl rfl
    · exact .of_onlyCalls (generateKey_onlyCalls env self _ _ _ _ _ (fun _ _ _ _ => .inl rfl)
        (.inl rfl) (.inl rfl) (.inl rfl) fun _ => .inl rfl)
    · exact .of_onlyCalls (importKey_onlyCalls env self _ _ _ _ _ (fun _ _ _ _ => .inl rfl)
        (.inl rfl) (fun _ _ => .inl rfl) fun _ => .inl rfl)
    · exact importWrappedKey_onlyCallsOf env self _ _ _ _ _ _ (fun _ _ _ _ => .inl rfl) (.inl rfl)
        (.inr rfl) (fun _ _ _ _ _ _ _ => .inl rfl) (fun _ => .inl rfl) fun _ => .inl rfl
  intro ev hev u hu
  rcases hx rfl h ev hev with hn | hs
  · rw [hn] at hu
    cases hu
  · rw [hs] at hu
    exact (Option.some.inj hu).symm

/-- The app with uid 10001 begins an operation with its stored key, whose blob
KeyMint upgrades: the key is loaded for 10001 and the operation registered for
10001. -/
theorem dispatch_acts_for_caller_use :
    ∃ r w', (dispatch (staleBlobEnv [7] [8]) ⟨⟨1⟩⟩ (.createOperation ⟨Domain.keyId, 1, none, none⟩
        [⟨Tag.purpose, false, 2, 0, 0, []⟩] false)).run (World.start oneKeyStore) = some (r, w') ∧
      ((World.start oneKeyStore).eventsTo w').filterMap (fun ev => ev.call.actsFor?) = [10001, 10001] ∧
      ∀ ev ∈ (World.start oneKeyStore).eventsTo w', ∀ u, ev.call.actsFor? = some u →
        u = (World.start oneKeyStore).callingUid := by
  obtain ⟨⟨r, w'⟩, h⟩ : ∃ p, (dispatch (staleBlobEnv [7] [8]) ⟨⟨1⟩⟩
      (.createOperation ⟨Domain.keyId, 1, none, none⟩ [⟨Tag.purpose, false, 2, 0, 0, []⟩] false)).run
      (World.start oneKeyStore) = some p := ⟨_, rfl⟩
  refine ⟨r, w', h, ?_, dispatch_acts_for_caller (staleBlobEnv [7] [8]) ⟨⟨1⟩⟩ _ h⟩
  cases h
  rfl

-- ---------------------------------------------------------------------------
-- What KeyMint is asked to import
-- ---------------------------------------------------------------------------

/-- An import call to KeyMint, made in a transaction of `rq`, carries what
`import_key` or `import_wrapped_key` builds from `rq`. -/
def Call.ImportArgsOf (rq : Request) : Call → Prop
  | .importKey ps f d => ∃ key attestationKey flags,
      rq = .importKey key attestationKey ps flags d ∧ importKeyFormat ps = .ok f
  | .importWrappedKey d _ m ps pw fp => ∃ key wrappingKey maskingKey authenticators,
      rq = .importWrappedKey key wrappingKey maskingKey ps authenticators ∧ key.blob = some d ∧
        m = maskingKey.getD zeroBlob32 ∧ findAuthenticatorId .password authenticators = some pw ∧
        findAuthenticatorId .fingerprint authenticators = some fp
  | _ => True

/-- **What KeyMint is asked to import.** Whatever the method, its arguments,
the caller, the Key Store and the collaborators' answers: an `importKey` call of
a transaction is made by an `importKey` request and passes its parameters, its
key material and the `KeyFormat` `import_key` derives from its `ALGORITHM`
parameter; an `importWrappedKey` call is made by an `importWrappedKey` request
and passes the wrapped key data of its descriptor, its masking key or 32 zero
bytes, its parameters, and the ids of its first password and first fingerprint
authenticators. -/
theorem dispatch_import_args (self : KeystoreSecurityLevel) (rq : Request) {w w' : World}
    {r : Except AnyhowError Response} (h : (dispatch env self rq).run w = some (r, w')) :
    ∀ ev ∈ w.eventsTo w', ev.call.ImportArgsOf rq := by
  have hx : Svc.OnlyCallsOf w.callingUid (Call.ImportArgsOf rq) (dispatch env self rq) := by
    cases rq <;> refine .bind ?_ fun _ => .of_onlyCalls (Svc.onlyCalls_pure _ _)
    · exact createOperation_onlyCallsOf env self _ _ _ _ (fun _ _ _ _ => trivial) trivial trivial
        (fun _ _ => trivial) trivial (fun _ => trivial) (fun _ _ => trivial) (fun _ => trivial)
        fun _ => trivial
    · exact .of_onlyCalls (generateKey_onlyCalls env self _ _ _ _ _ (fun _ _ _ _ => trivial)
        trivial trivial trivial fun _ => trivial)
    · exact .of_onlyCalls (importKey_onlyCalls env self _ _ _ _ _ (fun _ _ _ _ => trivial)
        trivial (fun _ hf => ⟨_, _, _, rfl, hf⟩) fun _ => trivial)
    · exact importWrappedKey_onlyCallsOf env self _ _ _ _ _ _ (fun _ _ _ _ => trivial) trivial
        trivial (fun _ _ _ _ hd hpw hfp => ⟨_, _, _, _, rfl, hd, rfl, hpw, hfp⟩) (fun _ => trivial)
        fun _ => trivial
  exact hx rfl h

/-- An app imports an AES key: KeyMint gets the raw format. -/
theorem dispatch_import_args_aes :
    ∃ r w', (dispatch (staleBlobEnv [] []) ⟨⟨1⟩⟩ (.importKey ⟨Domain.app, 0, some "k", none⟩ none
        [⟨Tag.algorithm, false, 32, 0, 0, []⟩] 0 [5])).run (World.start .empty) = some (r, w') ∧
      Call.importKey [⟨Tag.algorithm, false, 32, 0, 0, []⟩] KeyFormat.raw [5] ∈
        ((World.start .empty).eventsTo w').map Event.call ∧
      ∀ ev ∈ (World.start .empty).eventsTo w', ev.call.ImportArgsOf
        (.importKey ⟨Domain.app, 0, some "k", none⟩ none [⟨Tag.algorithm, false, 32, 0, 0, []⟩] 0 [5]) := by
  obtain ⟨⟨r, w'⟩, h⟩ : ∃ p, (dispatch (staleBlobEnv [] []) ⟨⟨1⟩⟩
      (.importKey ⟨Domain.app, 0, some "k", none⟩ none [⟨Tag.algorithm, false, 32, 0, 0, []⟩] 0 [5])).run
      (World.start .empty) = some p := ⟨_, rfl⟩
  refine ⟨r, w', h, ?_, dispatch_import_args (staleBlobEnv [] []) ⟨⟨1⟩⟩ _ h⟩
  cases h
  decide

end Keystore2

import Keystore2.KeyCreation

/-!
# Keystore2 — the wrapping key's blob in `import_wrapped_key`

`import_wrapped_key` runs KeyMint's `importWrappedKey` inside the upgrade-retry
protocol, keyed off the wrapping key's KM blob and its guard, so that a stale
wrapping key is upgraded and the unwrap retried. The closure it hands to
`upgrade_keyblob_if_required_with` takes the blob to use as `wrapping_blob`, but
its body passes the captured `wrapping_key_blob` instead: the retry after an
upgrade unwraps with the stale blob again, while the upgraded one has already
replaced it in the Key Store.

## Results

* `importWrappedKey_unwraps_with_one_blob` — in every stopping run, whatever
  KeyMint and the Key Store answer, all `importWrappedKey` calls pass one and the
  same wrapping-key blob.
* `importWrappedKey_retries_stale_blob` — a wrapping key whose stored blob KeyMint
  wants upgraded: the upgrade is stored, the retry passes the stale blob, and
  the request fails, although KeyMint accepts the upgraded blob.
-/

namespace Keystore2

open KeystoreSecurityLevel

variable (env : Env)

/-- The wrapping-key blob of a call to KeyMint's `importWrappedKey` is `wb`. -/
def Call.WrapsWith (wb : Blob) : Call → Prop
  | .importWrappedKey _ b .. => b = wb
  | _ => True

namespace Svc

variable {ε α β : Type}

/-- In every stopping run of `x`, all `importWrappedKey` calls pass one and the
same wrapping-key blob. -/
def UnwrapsWithOne (x : Svc ε α) : Prop :=
  ∀ ⦃w r w'⦄, x.run w = some (r, w') → ∃ wb, ∀ ev ∈ w.eventsTo w', ev.call.WrapsWith wb

theorem unwrapsWithOne_of_onlyCalls {x : Svc ε α} (wb : Blob)
    (hx : OnlyCalls (Call.WrapsWith wb) x) : UnwrapsWithOne x :=
  fun _ _ _ h => ⟨wb, hx h⟩

/-- A step that calls no `importWrappedKey`, then one that unwraps with one blob. -/
theorem unwrapsWithOne_bind {x : Svc ε α} {f : α → Svc ε β}
    (hx : OnlyCalls (fun c => ∀ wb, c.WrapsWith wb) x) (hf : ∀ a, UnwrapsWithOne (f a)) :
    UnwrapsWithOne (x >>= f) := by
  intro w r w' h
  rcases bind_eq_some_of_onlyCalls hx h with hn | ⟨a, w1, h1, hn1, h2⟩
  · exact ⟨[], fun ev hev => hn.1 ev hev []⟩
  · obtain ⟨wb, hwb⟩ := hf a h2
    refine ⟨wb, World.forall_eventsTo_trans (follows _ h1) (follows _ h2) ?_ hwb⟩
    exact fun ev hev => hn1 ev hev wb

end Svc

/-- **One wrapping blob per request.** Every `importWrappedKey` call of a
stopping run of `import_wrapped_key` passes the same wrapping-key blob: the one
loaded from the Key Store. The retry after an upgrade does not use the upgraded
blob the protocol hands to the closure. -/
theorem importWrappedKey_unwraps_with_one_blob (self : KeystoreSecurityLevel)
    (key wrappingKey : KeyDescriptor) (maskingKey : Option Blob) (params : List KmKeyParameter)
    (authenticators : List AuthenticatorSpec) :
    Svc.UnwrapsWithOne (importWrappedKey env self key wrappingKey maskingKey params authenticators) := by
  unfold importWrappedKey keyCreation
  refine Svc.unwrapsWithOne_bind (Svc.OnlyCallsOf.onlyCalls fun uid => importWrappedKeyChecks_calls
    env uid key wrappingKey maskingKey authenticators (fun _ _ => trivial) (fun _ _ _ _ => trivial)
    (fun _ => trivial) fun _ => trivial) fun p => Svc.unwrapsWithOne_of_onlyCalls p.wrappingKeyBlob ?_
  -- KeyMint's part passes the wrapping key's blob the checks found, on both tries
  exact Svc.onlyCalls_bind (importWrappedKeyKm_calls env self params p rfl trivial fun _ => trivial)
    fun ⟨_, _, _⟩ => Svc.onlyCalls_mapError _ (storeNewKey_onlyCalls_db env self _ _ _ _ fun _ => trivial)

/-- A Key Store for the example: one key, id `1`, whose KM blob is `[1]`. -/
def wrappingKeyStore : KeyStore :=
  (KeyStore.empty.createKeyEntry Domain.app 10001).insertBlob 1 .kmBlob [1] ⟨1⟩

/-- **The retry unwraps with the stale blob.** An app imports a key wrapped by
its key `1`, whose stored blob `[1]` KeyMint wants upgraded, and which KeyMint
upgrades to `[2]`; KeyMint unwraps with any other blob than `[1]`. The upgraded
blob is stored, but the second `importWrappedKey` call passes `[1]` again, and
the import fails on the second try. -/
theorem importWrappedKey_retries_stale_blob :
    ∃ e w', (importWrappedKey (staleBlobEnv [1] [2]) ⟨⟨1⟩⟩ ⟨Domain.app, 0, some "k", some [9]⟩
        ⟨Domain.app, 0, some "w", none⟩ none [] [⟨.password, 5⟩, ⟨.fingerprint, 6⟩]).run
          (World.start wrappingKeyStore) = some (.error e, w') ∧
      "In upgrade_keyblob_if_required_with: Failed to perform operation on second try." ∈
        e.context ∧
      ((World.start wrappingKeyStore).eventsTo w').map Event.call =
        [.checkKeyPermission "u:r:untrusted_app:s0" .rebind ⟨Domain.app, 10001, some "k", none⟩ none,
         .loadKeyEntry ⟨Domain.app, 0, some "w", none⟩ .km 10001,
         .checkKeyPermission "u:r:untrusted_app:s0" .use default none,
         .getInterface,
         .importWrappedKey [9] [1] zeroBlob32 [] 5 6,
         .upgradeKey [1] [],
         .db (.insertBlob 1 .kmBlob [2] ⟨1⟩),
         .importWrappedKey [9] [1] zeroBlob32 [] 5 6] ∧
      w'.store.kmBlob 1 = some [2] ∧
      (staleBlobEnv [1] [2]).answer 0 (.importWrappedKey [9] [2] zeroBlob32 [] 5 6) =
        .ok ([7], ⟨[], []⟩) :=
  ⟨_, _, rfl, by decide, rfl, rfl, rfl⟩

end Keystore2

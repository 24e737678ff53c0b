import Keystore2.NewKeys

/-!
# Keystore2 — self-managed keys leave the Key Store alone

A descriptor of domain `BLOB` names a key its app manages itself: the app holds
the KeyMint blob, and the Key Store keeps nothing for it. `store_new_key`
answers such a key with its blob and writes no row; `create_operation`
resolves it to the blob the descriptor carries and runs the upgrade protocol
without a guard, so an upgraded blob is not written back. The one row a
request on a `BLOB` key can touch is the KM blob of the stored wrapping key of
`import_wrapped_key`, which refuses a `BLOB` wrapping key.

Over a whole run: when every key creation names a `BLOB` descriptor, the Key
Store ends with the key entries, key parameters, aliases, next key id and
blobs other than KM blobs it started with, whatever the callers and the
collaborators' answers.

## Results

* `dispatch_blobKey_preserves` — one transaction whose key creation names a
  `BLOB` descriptor keeps every store relation that KM blob writes keep.
* `serve_blob_keys_keep_store` — every run of such transactions.
-/

namespace Keystore2

open KeystoreSecurityLevel

variable (env : Env)

/-- The requests that create a key: all but `createOperation`. -/
def Request.createsKey : Request → Bool
  | .createOperation .. => false
  | _ => true

section StoresLast

variable {env} {self : KeystoreSecurityLevel}

/-- A handler that stores last, on a `BLOB` descriptor, writes KM blobs at
most: `store_new_key` writes nothing for a `BLOB` key. -/
theorem Svc.StoresLast.preserves_of_blob {R : StoreRel} {key : UInt32 → KeyDescriptor}
    {x : Svc AnyhowError KeyMetadata} (hx : Svc.StoresLast env self key x)
    (hb : ∀ uid, (key uid).domain = Domain.blob) : Svc.Preserves R x := by
  intro w r w' h
  obtain ⟨w1, hf, hev, hend⟩ := hx h
  have h1 : R.rel w.store w1.store := by
    rw [hf.store_eq]
    exact R.rel_applyWrites _ hev
  rcases hend with ⟨-, -, rfl⟩ | ⟨_, _, _, _, -, -, hs, -⟩
  · exact h1
  · obtain ⟨_, hblob, -⟩ := storeNewKey_run env self _ _ _ _ hs
    rw [(hblob (hb _)).2]
    exact h1

end StoresLast

/-- **One transaction.** A transaction whose key creation, if it is one, names
a `BLOB` descriptor keeps every store relation that KM blob writes keep. -/
theorem dispatch_blobKey_preserves (self : KeystoreSecurityLevel) (R : StoreRel) (rq : Request)
    (hb : rq.createsKey → rq.key.domain = Domain.blob) : Svc.Preserves R (dispatch env self rq) := by
  have hrw : ∀ key : KeyDescriptor, key.domain = Domain.blob →
      ∀ uid, (rewriteAppDomain key uid).domain = Domain.blob := fun key hd uid => by
    rw [rewriteAppDomain_domain]
    exact hd
  cases rq
  all_goals refine Svc.preserves_bind ?_ fun _ => Svc.preserves_of_onlyCalls (Svc.onlyCalls_pure _ _)
  exacts [Svc.preserves_of_onlyCalls (createOperation_onlyKmBlobWrites env self _ _ _),
    (generateKey_storesLast env self _ _ _ _ _).preserves_of_blob (hrw _ (hb rfl)),
    (importKey_storesLast env self _ _ _ _ _).preserves_of_blob (hrw _ (hb rfl)),
    (importWrappedKey_storesLast env self _ _ _ _ _).preserves_of_blob (hrw _ (hb rfl))]

/-- **Self-managed keys over every run.** Whatever the callers, the Key Store
and the collaborators' answers, a run of the service in which every
`generateKey`, `importKey` and `importWrappedKey` names a `BLOB` descriptor
ends with the key entries, key parameters, aliases, next key id and blobs other
than KM blobs it started with. -/
theorem serve_blob_keys_keep_store (self : KeystoreSecurityLevel) {txs : List (Caller × Request)}
    {w w' : World} {rs : List (Except AnyhowError Response)} (h : serve env self txs w = some (rs, w'))
    (hb : ∀ c rq, (c, rq) ∈ txs → rq.createsKey → rq.key.domain = Domain.blob) :
    w.store.SameButKmBlobs w'.store :=
  serve_rel (R := fun w w' => w.store.SameButKmBlobs w'.store) (fun _ => sameButKmBlobsRel.refl _)
    sameButKmBlobsRel.trans (fun c rq hm _ _ _ h1 => by
      have := dispatch_blobKey_preserves env self sameButKmBlobsRel rq (hb c rq hm) h1
      exact this) h

/-- Transactions for the example: an app generates a `BLOB` key, and begins an
operation with the stale blob `[7]` it holds. -/
def blobKeyTxs : List (Caller × Request) :=
  [(⟨10001, some "u:r:untrusted_app:s0"⟩, .generateKey ⟨Domain.blob, 0, none, none⟩ none [] 0 []),
    (⟨10001, some "u:r:untrusted_app:s0"⟩, .createOperation ⟨Domain.blob, 0, none, some [7]⟩
      [⟨Tag.purpose, false, 2, 0, 0, []⟩] false)]

/-- KeyMint upgrades the stale blob of the operation, and the Key Store, which
holds a key whose KM blob is `[7]` too, keeps it. -/
theorem serve_blob_keys_keep_store_stale :
    (∀ c rq, (c, rq) ∈ blobKeyTxs → rq.createsKey → rq.key.domain = Domain.blob) ∧
    ∃ rs w', serve (staleBlobEnv [7] [8]) ⟨⟨1⟩⟩ blobKeyTxs (World.start oneKeyStore) = some (rs, w') ∧
      w'.store.kmBlob 1 = some [7] ∧ (World.start oneKeyStore).store.SameButKmBlobs w'.store := by
  have hb : ∀ c rq, (c, rq) ∈ blobKeyTxs → rq.createsKey → rq.key.domain = Domain.blob := by
    intro c rq hm
    simp only [blobKeyTxs, List.mem_cons, Prod.mk.injEq, List.mem_nil_iff, or_false] at hm
    rcases hm with ⟨-, rfl⟩ | ⟨-, rfl⟩ <;> intro _ <;> rfl
  obtain ⟨⟨rs, w'⟩, h⟩ : ∃ p, serve (staleBlobEnv [7] [8]) ⟨⟨1⟩⟩ blobKeyTxs
      (World.start oneKeyStore) = some p := ⟨_, rfl⟩
  refine ⟨hb, rs, w', h, ?_, serve_blob_keys_keep_store (staleBlobEnv [7] [8]) ⟨⟨1⟩⟩ h hb⟩
  cases h
  rfl

end Keystore2

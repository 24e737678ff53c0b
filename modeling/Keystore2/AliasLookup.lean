import Keystore2.StoreIntegrity

/-!
# Keystore2 — what a lookup by alias finds

Apps name their keys by alias, and `load_key_entry` resolves an alias through
its binding. `store_new_key` binds the alias last, after `create_key_entry` made
the key entry and `insert_blob` stored its KM blob; no other code path binds an
alias, and no write takes a KM blob away (the upgrade protocol only replaces
one). So every alias names a whole key: a key entry of the alias's own domain
and namespace (`KeyStore.AliasesSound`) that holds a KM blob
(`KeyStore.AliasBlobs`). A failed `store_new_key` may leave an entry without
its blob behind (`generateKey_partial_entry`), but no alias reaches it.

## Results

* `KeyStore.AliasBlobs.apply` — one write keeps every alias on a key with a
  KM blob, when the alias it binds, if any, names such a key.
* `KeyStore.AliasesBacked.foldl_storePlan` — every prefix of `store_new_key`'s
  plan does.
* `serve_keeps_aliases_backed` — every run.
-/

namespace Keystore2

open KeystoreSecurityLevel

variable (env : Env)

/-- Every alias names a key id whose KM blob is stored. -/
def KeyStore.AliasBlobs (s : KeyStore) : Prop :=
  ∀ d n a id, s.aliases d n a = some id → s.kmBlob id ≠ none

/-- Every alias names a key entry of its own domain and namespace, and the key
holds a KM blob. -/
def KeyStore.AliasesBacked (s : KeyStore) : Prop :=
  s.AliasesSound ∧ s.AliasBlobs

theorem KeyStore.aliasesBacked_empty : KeyStore.empty.AliasesBacked :=
  ⟨KeyStore.aliasesSound_empty, fun _ _ _ _ h => by cases h⟩

/-- No write but a new key entry takes a KM blob away. -/
theorem KeyStore.kmBlob_apply_ne_none {s : KeyStore} {wr : DbWrite} {id : Int}
    (hb : s.kmBlob id ≠ none) (hc : ∀ d n, wr ≠ .createKeyEntry d n) :
    (s.apply wr).kmBlob id ≠ none := by
  cases wr with
  | createKeyEntry d n => exact absurd rfl (hc d n)
  | insertBlob k sc b l =>
    simp only [KeyStore.apply, KeyStore.insertBlob, KeyStore.kmBlob] at hb ⊢
    split
    · simp
    · exact hb
  | insertKeyparameter | rebindAlias => exact hb

/-- One write keeps every alias on a key with a KM blob when the alias it
binds, if it binds one, names a key with a KM blob. A new key entry is made at
the next free key id, which no sound alias names. -/
theorem KeyStore.AliasBlobs.apply {s : KeyStore} (hs : s.AliasesSound) (hb : s.AliasBlobs)
    {wr : DbWrite} (hw : ∀ id a d n, wr = .rebindAlias id a d n → s.kmBlob id ≠ none) :
    (s.apply wr).AliasBlobs := by
  intro d n a id h
  cases wr with
  | createKeyEntry d' n' =>
    have hk := hs d n a id h
    have hne : id ≠ s.nextId := fun he => by rw [he, s.keyentry_nextId] at hk; cases hk
    simpa [KeyStore.apply, KeyStore.createKeyEntry, KeyStore.kmBlob, hne] using hb d n a id h
  | rebindAlias id' a' d' n' =>
    simp only [KeyStore.apply, KeyStore.rebindAlias_aliases] at h
    split at h
    · cases h
      exact hw _ _ _ _ rfl
    · exact hb d n a id h
  | insertBlob | insertKeyparameter =>
    exact KeyStore.kmBlob_apply_ne_none (hb d n a id h) fun _ _ h => by cases h

/-- Writes that make no key entry and bind aliases only to the key id `id`,
which holds a KM blob, keep every alias on a key with a KM blob. -/
theorem KeyStore.AliasBlobs.foldl {s : KeyStore} (hb : s.AliasBlobs) {id : Int}
    (hid : s.kmBlob id ≠ none) {ws : List DbWrite}
    (hws : ∀ wr ∈ ws, (∀ d n, wr ≠ .createKeyEntry d n) ∧
      ∀ i a d n, wr = .rebindAlias i a d n → i = id) :
    (ws.foldl KeyStore.apply s).AliasBlobs := by
  induction ws generalizing s with
  | nil => exact hb
  | cons wr ws ih =>
    obtain ⟨hc, hr⟩ := hws wr (List.mem_cons_self _ _)
    refine ih ?_ (KeyStore.kmBlob_apply_ne_none hid hc) fun wr' h' =>
      hws wr' (List.mem_cons_of_mem _ h')
    intro d n a i h
    cases wr with
    | createKeyEntry d' n' => exact absurd rfl (hc d' n')
    | rebindAlias i' a' d' n' =>
      simp only [KeyStore.apply, KeyStore.rebindAlias_aliases] at h
      split at h
      · cases h
        rw [hr _ _ _ _ rfl]
        exact hid
      · exact hb d n a i h
    | insertBlob | insertKeyparameter =>
      exact KeyStore.kmBlob_apply_ne_none (hb d n a i h) fun _ _ h => by cases h

/-- Every prefix of `store_new_key`'s plan keeps every alias backed: the alias
binding comes after the key entry and its KM blob. -/
theorem KeyStore.AliasesBacked.foldl_storePlan {s : KeyStore} (hs : s.AliasesBacked)
    {key : KeyDescriptor} {keyParameters : List KeyParameter} {cert certChain : Option Blob}
    {blob : Blob} {secLevel : SecurityLevel} {pre : List DbWrite}
    (hpre : pre <+: storePlan key s.nextId keyParameters cert certChain blob secLevel) :
    (pre.foldl KeyStore.apply s).AliasesBacked := by
  refine ⟨hs.1.foldl_storePlan hpre, ?_⟩
  have h1 : (s.apply (.createKeyEntry key.domain key.nspace)).AliasBlobs :=
    hs.2.apply hs.1 fun _ _ _ _ h => by cases h
  rcases List.prefix_cons_iff.mp hpre with rfl | ⟨pre', rfl, hpre'⟩
  · exact hs.2
  rcases List.prefix_cons_iff.mp hpre' with rfl | ⟨pre'', rfl, hpre''⟩
  · exact h1
  -- after the key entry and its blob, the rest binds at most the new key id
  have h2 : ((s.apply (.createKeyEntry key.domain key.nspace)).apply
      (.insertBlob s.nextId .kmBlob blob secLevel)).AliasBlobs :=
    h1.apply (hs.1.apply fun _ _ _ _ h => by cases h) fun _ _ _ _ h => by cases h
  have hid : ((s.apply (.createKeyEntry key.domain key.nspace)).apply
      (.insertBlob s.nextId .kmBlob blob secLevel)).kmBlob s.nextId ≠ none := by
    simp [KeyStore.apply]
  refine h2.foldl hid fun wr hw => ?_
  have hm := hpre''.subset hw
  simp only [List.mem_append, List.mem_cons, Option.mem_toList, Option.mem_def,
    Option.map_eq_some'] at hm
  rcases hm with ⟨_, -, rfl⟩ | ⟨_, -, rfl⟩ | rfl | ⟨_, -, rfl⟩ <;>
    exact ⟨fun _ _ h => (by cases h), fun _ _ _ _ h => by cases h <;> rfl⟩

/-- Keeping every alias backed, as a relation between Key Stores. -/
def aliasesBackedRel : StoreRel where
  rel s t := s.AliasesBacked → t.AliasesBacked
  refl _ := id
  trans h₁ h₂ h := h₂ (h₁ h)
  kmBlob _ _ _ _ hs := ⟨hs.1.apply (fun _ _ _ _ h => by cases h),
    hs.2.apply hs.1 fun _ _ _ _ h => by cases h⟩

theorem storeNewKey_keepsAliasesBacked (self : KeystoreSecurityLevel) (key : KeyDescriptor)
    (keyCharacteristics : KeyCharacteristics) (kmCertChain : Option (List KmCertificate))
    (blob : Blob) :
    Svc.Preserves aliasesBackedRel (storeNewKey env self key keyCharacteristics kmCertChain blob) := by
  intro w r w' h hs
  obtain ⟨pre, hpre, hst⟩ := storeNewKey_store env self key keyCharacteristics kmCertChain blob h
  rw [hst]
  exact hs.foldl_storePlan hpre

/-- **Backed aliases over every run.** Whatever the transactions, their callers
and the collaborators' answers, a run of the service from a Key Store in which
every alias names a key entry of its own domain and namespace that holds a KM
blob ends in such a Key Store: a lookup by alias never finds a key without its
blob, even after a key creation failed halfway. -/
theorem serve_keeps_aliases_backed (self : KeystoreSecurityLevel) {txs : List (Caller × Request)}
    {w w' : World} {rs : List (Except AnyhowError Response)}
    (h : serve env self txs w = some (rs, w')) (hs : w.store.AliasesBacked) :
    w'.store.AliasesBacked :=
  serve_preserves env self (storeNewKey_keepsAliasesBacked env self) h hs

/-- The app with uid 10001 generates a key under the alias `k` in the empty Key
Store, then another app uses it: the alias names key id 1, which holds KeyMint's
blob `[7]`. -/
theorem serve_keeps_aliases_backed_two_apps :
    ∃ rs w', serve (staleBlobEnv [] []) ⟨⟨1⟩⟩ twoAppsTxs (World.start .empty) = some (rs, w') ∧
      w'.store.aliases Domain.app 10001 "k" = some 1 ∧ w'.store.kmBlob 1 = some [7] ∧
      w'.store.AliasesBacked := by
  obtain ⟨⟨rs, w'⟩, h⟩ : ∃ p, serve (staleBlobEnv [] []) ⟨⟨1⟩⟩ twoAppsTxs
      (World.start .empty) = some p := ⟨_, rfl⟩
  refine ⟨rs, w', h, ?_, ?_, serve_keeps_aliases_backed (staleBlobEnv [] []) ⟨⟨1⟩⟩ h
    KeyStore.aliasesBacked_empty⟩ <;> cases h <;> rfl

end Keystore2

import Keystore2.KeyMintOrigin

/-!
# Keystore2 — who can change the KM blob of a key

`AccessControl` traces the key entries and alias bindings a run writes back to
rebind grants. The one other change a run makes to a key the Key Store already
holds is to its KM blob: the upgrade protocol stores KeyMint's upgrade of a blob
under the guard of the key it was loaded from. `create_operation` and
`import_wrapped_key` load that key with `load_key_entry`, whose callback asks
the Access Gate for `use` on the key the Key Store resolved. So the KM blob of a
key the Key Store held before a run changes only in a transaction that loaded that
key and whose caller the Access Gate granted `use` on it, as the Key Store
resolved it, in that same transaction.

The rest of the file is its helper lemmas: the key id a KM blob write names
(`Call.kmBlobKeyId?`) and what vouches for it (`loadedForUse`); the walks of
`Vouched` for it, with a lemma per handler; and the runs.

## Results

* `dispatch_kmBlob_writes_loaded` — one transaction: every KM blob it writes is
  at a key id it created, or at one it loaded with `use` granted to its caller.
* `serve_kmBlob_changes_granted` — every run: every transaction of the run does
  what `dispatch_kmBlob_writes_loaded` says, and a key the Key Store held before
  the run whose KM blob differs at its end was last changed by a transaction
  that loaded it with `use` granted to its caller.
-/

namespace Keystore2

open KeystoreSecurityLevel

variable (env : Env)

/-- The key id whose KM blob a call writes. -/
def Call.kmBlobKeyId? : Call → Option Int
  | .db (.insertBlob k .kmBlob _ _) => some k
  | _ => none

/-- In the events `l`, `load_key_entry` resolved a descriptor to key id `k`, and
the Access Gate granted `use` on the key the Key Store answered with to the
caller with SELinux context `sid`. -/
def LoadedForUse (sid : Option String) (l : List Event) (k : Int) : Prop :=
  ∃ key bits uid ak av, (⟨.loadKeyEntry key bits uid, Except.ok (k, ak, av)⟩ : Event) ∈ l ∧
    Granted sid .use ak av l

theorem LoadedForUse.mono {sid : Option String} {l l' : List Event} (hl : ∀ ev ∈ l, ev ∈ l')
    {k : Int} (h : LoadedForUse sid l k) : LoadedForUse sid l' k :=
  let ⟨key, bits, uid, ak, av, hm, s, hs, hg⟩ := h
  ⟨key, bits, uid, ak, av, hl _ hm, s, hs, hl _ hg⟩

/-- The key id of a KM blob write is vouched for when it was handed out during
the run, or loaded for use by the caller. -/
def loadedForUse : Voucher Int where
  holds w l k := w.store.nextId ≤ k ∨ LoadedForUse w.callingSid l k
  mono hf hl h := h.imp (Int.le_trans hf.nextId_le) fun h => by
    rw [← hf.callingSid_eq]
    exact h.mono fun ev hm => hl ev (List.mem_append_right _ hm)

-- ---------------------------------------------------------------------------
-- Where a KM blob of the Key Store changes
-- ---------------------------------------------------------------------------

theorem KeyStore.kmBlob_apply_ne {s : KeyStore} {wr : DbWrite} {k : Int} (hk : k < s.nextId)
    (h : (s.apply wr).kmBlob k ≠ s.kmBlob k) : (Call.db wr).kmBlobKeyId? = some k := by
  cases wr with
  | createKeyEntry d n =>
    have hne : k ≠ s.nextId := Int.ne_of_lt hk
    simp [KeyStore.apply, KeyStore.createKeyEntry, KeyStore.kmBlob, hne] at h
  | insertBlob id sc b l =>
    by_cases hi : k = id ∧ sc = .kmBlob
    · obtain ⟨rfl, rfl⟩ := hi
      rfl
    · refine absurd ?_ h
      simp only [KeyStore.apply, KeyStore.insertBlob, KeyStore.kmBlob]
      rw [if_neg fun h' => hi ⟨h'.1, h'.2.symm⟩]
  | insertKeyparameter | rebindAlias => exact absurd rfl h

/-- A KM blob of a key id below the next free one that the writes of `evs`
changed was written by one of them. -/
theorem kmBlob_applyWrites_ne {k : Int} :
    ∀ {evs : List Event} {s : KeyStore}, k < s.nextId →
      (applyWrites s evs).kmBlob k ≠ s.kmBlob k → ∃ ev ∈ evs, ev.call.kmBlobKeyId? = some k
  | [], _, _, h => absurd rfl h
  | ev :: evs, s, hk, h => by
    rw [applyWrites_cons] at h
    have hk' : k < ((ev.write?).elim s s.apply).nextId := by
      cases ev.write?
      exacts [hk, Int.lt_of_lt_of_le hk (KeyStore.nextId_le_apply _ _)]
    by_cases h' : (applyWrites ((ev.write?).elim s s.apply) evs).kmBlob k =
      ((ev.write?).elim s s.apply).kmBlob k
    · rw [h'] at h
      cases hw : ev.write? with
      | none =>
        rw [hw] at h
        exact absurd rfl h
      | some wr =>
        rw [hw] at h
        refine ⟨ev, List.mem_cons_self _ _, ?_⟩
        rw [Event.call_eq_of_write? hw]
        exact KeyStore.kmBlob_apply_ne hk h
    · obtain ⟨ev', hm, he⟩ := kmBlob_applyWrites_ne hk' h'
      exact ⟨ev', List.mem_cons_of_mem _ hm, he⟩

-- ---------------------------------------------------------------------------
-- The handlers
-- ---------------------------------------------------------------------------

/-- A successful `load_key_entry` with the `use` check as its callback loaded its
key id for use. -/
theorem loadKeyEntry_use_loaded {key : KeyDescriptor} {bits : KeyEntryLoadBits} {uid : UInt32}
    {w w' : World} {g : KeyIdGuard} {e : KeyEntry}
    (h : (KeystoreDB.loadKeyEntry env key bits uid
      fun k av => checkKeyPermission env .use k av).run w = some (.ok (g, e), w')) :
    LoadedForUse w.callingSid (w.eventsTo w') g.id := by
  obtain ⟨ak, av, -, hc, -⟩ := KeystoreDB.loadKeyEntry_ok env h
  have hev := World.eventsTo_trans (w.follows_record ⟨.loadKeyEntry key bits uid,
    Except.ok (g.id, ak, av)⟩) (Svc.follows _ hc)
  obtain ⟨s, hs, hg⟩ := checkKeyPermission_ok env hc
  refine ⟨key, bits, uid, ak, av, ?_, s, hs, ?_⟩ <;> rw [hev, World.eventsTo_record]
  exacts [List.mem_cons_self _ _, List.mem_cons_of_mem _ hg]

/-- `load_key_entry` with the `use` check as its callback returns the guard of a
key id it loaded for use. -/
theorem loadKeyEntry_loadedForUse (key : KeyDescriptor) (bits : KeyEntryLoadBits) (uid : UInt32) :
    Svc.Returns loadedForUse (fun p => some p.1.id)
      (KeystoreDB.loadKeyEntry env key bits uid fun k av => checkKeyPermission env .use k av) := by
  rintro w ⟨g, e⟩ w' h _ ⟨⟩
  exact .inr (loadKeyEntry_use_loaded env h)

namespace KeystoreSecurityLevel

variable (self : KeystoreSecurityLevel) {S : Int → Prop}

/-- `store_new_key` writes KM blobs only at the next free key id. -/
theorem storeNewKey_kmBlobKeys (key : KeyDescriptor) (keyCharacteristics : KeyCharacteristics)
    (kmCertChain : Option (List KmCertificate)) (blob : Blob) :
    Svc.WritesFrom loadedForUse Call.kmBlobKeyId? S
      (storeNewKey env self key keyCharacteristics kmCertChain blob) := by
  intro w r w' h ev hev k hk
  obtain ⟨wr, hwr, hc⟩ :=
    storeNewKey_calls_in_plan env self key keyCharacteristics kmCertChain blob h ev hev
  rw [hc] at hk
  obtain rfl : k = w.store.nextId := by
    simp only [storePlan, List.mem_cons, List.mem_append, Option.mem_toList, Option.mem_def,
      Option.map_eq_some'] at hwr
    rcases hwr with rfl | rfl | ⟨_, -, rfl⟩ | ⟨_, -, rfl⟩ | rfl | ⟨_, -, rfl⟩
    all_goals first | exact (Option.some.inj hk).symm | cases hk
  exact .inr (.inl (Int.le_refl _))

/-- The upgrade protocol writes a KM blob only at the id of its guard. -/
theorem upgradeKeyblobIfRequiredWith_kmBlobKeys {T : Type} {keyIdGuard : Option KeyIdGuard}
    {blob : Blob} {params : List KmKeyParameter} {f : Blob → Svc Error T}
    (hf : ∀ b, Svc.OnlyCalls (fun c => c.kmBlobKeyId? = none) (f b))
    (hg : ∀ g, keyIdGuard = some g → S g.id) :
    Svc.WritesFrom loadedForUse Call.kmBlobKeyId? S
      (upgradeKeyblobIfRequiredWith env self keyIdGuard blob params f) :=
  .of_onlyCalls (upgradeKeyblobIfRequiredWith_onlyCalls env self
    (fun b => (hf b).imp fun _ hc _ hb => nomatch hc.symm.trans hb) (fun _ hb => nomatch hb)
    fun g _ h _ hb => Option.some.inj hb ▸ hg g h)

/-- The checks of `import_wrapped_key` hand on the guard of the wrapping key,
loaded for use. -/
theorem importWrappedKeyChecks_loadedForUse (key wrappingKey : KeyDescriptor)
    (maskingKey : Option Blob) (authenticators : List AuthenticatorSpec) :
    Svc.Returns loadedForUse (fun p => some p.wrappingKeyIdGuard.id)
      (importWrappedKeyChecks env key wrappingKey maskingKey authenticators) := by
  rintro w p w' h _ ⟨⟩
  obtain ⟨ak, av, hm, hg⟩ := (importWrappedKeyChecks_ok env h).loaded
  exact .inr ⟨_, _, _, ak, av, hm, hg⟩

/-- KeyMint's part of `import_wrapped_key` writes a KM blob only at the wrapping
key's id. -/
theorem importWrappedKeyKm_kmBlobKeys (params : List KmKeyParameter) (p : WrappedKeyImport) :
    Svc.WritesFrom loadedForUse Call.kmBlobKeyId? (fun k => some p.wrappingKeyIdGuard.id = some k)
      (importWrappedKeyKm env self params p) := by
  unfold importWrappedKeyKm
  exact .bind (upgradeKeyblobIfRequiredWith_kmBlobKeys env self (fun _ =>
    Svc.onlyCalls_ask_ofExcept env rfl fun _ => Svc.onlyCalls_bind (Svc.onlyCalls_ofExcept _ _)
      fun ⟨_, _⟩ => Svc.onlyCalls_pure _ _) fun _ h => by cases h; rfl)
    fun _ _ _ _ => .of_none (Svc.onlyCalls_pure _ _)

variable (S)

theorem generateKey_kmBlobKeys (key : KeyDescriptor) (attestationKey : Option KeyDescriptor)
    (params : List KmKeyParameter) (flags : Int) (entropy : Blob) :
    Svc.WritesFrom loadedForUse Call.kmBlobKeyId? S
      (generateKey env self key attestationKey params flags entropy) :=
  keyCreation_writesFrom env self (f := fun _ => none) (g := fun _ => none)
    (Svc.OnlyCallsOf.onlyCalls fun uid => generateKeyChecks_calls env uid key (fun _ => rfl) rfl)
    (.of_none fun _ _ _ _ => rfl) (fun _ => .of_none (generateKeyKm_calls env params entropy rfl rfl))
    (fun _ => .of_none fun _ _ _ _ => rfl) fun _ _ _ _ => storeNewKey_kmBlobKeys env self _ _ _ _

theorem importKey_kmBlobKeys (key : KeyDescriptor) (attestationKey : Option KeyDescriptor)
    (params : List KmKeyParameter) (flags : Int) (keyData : Blob) :
    Svc.WritesFrom loadedForUse Call.kmBlobKeyId? S
      (importKey env self key attestationKey params flags keyData) :=
  keyCreation_writesFrom env self (f := fun _ => none) (g := fun _ => none)
    (Svc.OnlyCallsOf.onlyCalls fun uid => importKeyChecks_calls env uid key params (fun _ => rfl) rfl)
    (.of_none fun _ _ _ _ => rfl) (fun p => .of_none (importKeyKm_calls env params keyData p.2 rfl))
    (fun _ => .of_none fun _ _ _ _ => rfl) fun _ _ _ _ => storeNewKey_kmBlobKeys env self _ _ _ _

theorem importWrappedKey_kmBlobKeys (key wrappingKey : KeyDescriptor) (maskingKey : Option Blob)
    (params : List KmKeyParameter) (authenticators : List AuthenticatorSpec) :
    Svc.WritesFrom loadedForUse Call.kmBlobKeyId? S
      (importWrappedKey env self key wrappingKey maskingKey params authenticators) :=
  keyCreation_writesFrom env self (g := fun _ => none)
    (Svc.OnlyCallsOf.onlyCalls fun uid => importWrappedKeyChecks_calls env uid key wrappingKey
      maskingKey authenticators (fun _ => rfl) (fun _ _ _ => rfl) rfl rfl)
    (importWrappedKeyChecks_loadedForUse env key wrappingKey maskingKey authenticators)
    (fun p => importWrappedKeyKm_kmBlobKeys env self params p)
    (fun _ => .of_none fun _ _ _ _ => rfl) fun _ _ _ _ => storeNewKey_kmBlobKeys env self _ _ _ _

/-- The key resolution of `create_operation` returns the guard of a key id it
loaded for use, or no guard. -/
theorem createOperationKmBlob_loadedForUse (key : KeyDescriptor) (uid : UInt32) :
    Svc.Returns loadedForUse (fun p => p.2.map (·.id)) (createOperationKmBlob env key uid) := by
  unfold createOperationKmBlob
  split
  · refine .bind fun _ => .of_none fun _ _ _ h => ?_
    split at h <;> cases h
    rfl
  · refine .bind_pass ((loadKeyEntry_loadedForUse env _ _ _).mapError _) fun ⟨_, _⟩ _ _ _ h _ hc => ?_
    dsimp only at h
    split at h <;> cases h
    exact hc

theorem createOperation_kmBlobKeys (key : KeyDescriptor) (ps : List KmKeyParameter)
    (forced : Bool) :
    Svc.WritesFrom loadedForUse Call.kmBlobKeyId? S (createOperation env self key ps forced) :=
  createOperation_writesFrom env self (fun _ _ _ _ => rfl) (fun _ => rfl) rfl (fun _ _ => rfl)
    (fun _ => rfl) (createOperationKmBlob_loadedForUse env key) fun _ _ _ =>
    upgradeKeyblobIfRequiredWith_kmBlobKeys env self (fun _ => beginLoop_onlyCalls env rfl rfl)
      fun _ h => by rw [h]; rfl

end KeystoreSecurityLevel

-- ---------------------------------------------------------------------------
-- Transactions and runs
-- ---------------------------------------------------------------------------

/-- **One transaction.** Every KM blob a transaction writes, whatever its
method, caller and the collaborators' answers, is at a key id the Key Store
handed out during the transaction, or at one the transaction loaded with `use`
granted to its caller. -/
theorem dispatch_kmBlob_writes_loaded (self : KeystoreSecurityLevel) (rq : Request) :
    Svc.WritesFrom loadedForUse Call.kmBlobKeyId? (fun _ => False) (dispatch env self rq) := by
  cases rq
  all_goals refine Svc.WritesFrom.bind ?_ fun _ _ _ _ => .of_none (Svc.onlyCalls_pure _ _)
  exacts [createOperation_kmBlobKeys env self _ _ _ _, generateKey_kmBlobKeys env self _ _ _ _ _ _,
    importKey_kmBlobKeys env self _ _ _ _ _ _, importWrappedKey_kmBlobKeys env self _ _ _ _ _ _]

/-- **Changes of KM blobs over every run.** Whatever the transactions, their
callers and the collaborators' answers: in each transaction of a run of the
service, every KM blob write is at a key id the Key Store handed out during the
transaction, or at one the transaction loaded with `use` granted to its caller;
and a key the Key Store held before the run whose KM blob differs at its end was
last changed by a transaction that loaded it, by `load_key_entry` resolving a
descriptor to its key id, with the Access Gate granting that transaction's
caller `use` on the key the Key Store resolved. -/
theorem serve_kmBlob_changes_granted (self : KeystoreSecurityLevel)
    {txs : List (Caller × Request)} {w w' : World} {rs : List (Except AnyhowError Response)}
    (h : serve env self txs w = some (rs, w')) :
    (∀ c rq v v', TxOf env self txs w w' c rq v v' → ∀ ev ∈ v.eventsTo v', ∀ k,
      ev.call.kmBlobKeyId? = some k → v.store.nextId ≤ k ∨ LoadedForUse c.sid (v.eventsTo v') k) ∧
    ∀ k, k < w.store.nextId → w'.store.kmBlob k ≠ w.store.kmBlob k →
      ∃ c rq v v', TxOf env self txs w w' c rq v v' ∧ v'.store.kmBlob k ≠ v.store.kmBlob k ∧
        v'.store.kmBlob k = w'.store.kmBlob k ∧ LoadedForUse c.sid (v.eventsTo v') k := by
  have htx : ∀ c rq v v', TxOf env self txs w w' c rq v v' → ∀ ev ∈ v.eventsTo v', ∀ k,
      ev.call.kmBlobKeyId? = some k → v.store.nextId ≤ k ∨ LoadedForUse c.sid (v.eventsTo v') k :=
    fun c rq v v' ht ev hev k hk => by
      obtain ⟨_, hr⟩ := ht.run
      exact (dispatch_kmBlob_writes_loaded env self rq hr ev hev k hk).resolve_left id
  refine ⟨htx, fun k hk hne => ?_⟩
  -- the last transaction that changed the KM blob of `k`, and its write there
  obtain ⟨c, rq, v, v', ht, hchg, hend⟩ := serve_last_change (fun s => s.kmBlob k) h hne
  have hkv : k < v.store.nextId := Int.lt_of_lt_of_le hk ht.extends_start.nextId_le
  obtain ⟨ev, hev, he⟩ := kmBlob_applyWrites_ne hkv (by rwa [ht.extends.store_eq] at hchg)
  exact ⟨c, rq, v, v', ht, hchg, hend,
    (htx c rq v v' ht ev hev k he).resolve_left (Int.not_le.mpr hkv)⟩

/-- The app with uid 10002 begins an operation on key id 1 of the app with uid
10001, whose stale blob `[7]` KeyMint upgrades to `[8]`: the blob changes, in a
transaction that loaded key id 1 with `use` granted to its caller. -/
theorem serve_kmBlob_changes_granted_upgraded :
    ∃ rs w', serve (staleBlobEnv [7] [8]) ⟨⟨1⟩⟩ useKeyTxs (World.start oneKeyStore) =
        some (rs, w') ∧ oneKeyStore.kmBlob 1 = some [7] ∧ w'.store.kmBlob 1 = some [8] ∧
      (∀ c rq v v', TxOf (staleBlobEnv [7] [8]) ⟨⟨1⟩⟩ useKeyTxs (World.start oneKeyStore) w' c rq v v' →
        ∀ ev ∈ v.eventsTo v', ∀ k, ev.call.kmBlobKeyId? = some k →
          v.store.nextId ≤ k ∨ LoadedForUse c.sid (v.eventsTo v') k) ∧
      ∀ k, k < oneKeyStore.nextId → w'.store.kmBlob k ≠ oneKeyStore.kmBlob k →
        ∃ c rq v v', TxOf (staleBlobEnv [7] [8]) ⟨⟨1⟩⟩ useKeyTxs (World.start oneKeyStore) w' c rq v v' ∧
          v'.store.kmBlob k ≠ v.store.kmBlob k ∧ v'.store.kmBlob k = w'.store.kmBlob k ∧
          LoadedForUse c.sid (v.eventsTo v') k := by
  obtain ⟨⟨rs, w'⟩, h⟩ : ∃ p, serve (staleBlobEnv [7] [8]) ⟨⟨1⟩⟩ useKeyTxs
      (World.start oneKeyStore) = some p := ⟨_, rfl⟩
  refine ⟨rs, w', h, rfl, ?_, serve_kmBlob_changes_granted (staleBlobEnv [7] [8]) ⟨⟨1⟩⟩ h⟩
  cases h
  rfl

end Keystore2

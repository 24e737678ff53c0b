import Keystore2.StoreIntegrity
import Keystore2.Vouched
import Keystore2.Attribution

/-!
# Keystore2 — what the Key Store records of a key comes from KeyMint

The service writes no KM blob of its own making and none a caller hands it:
`store_new_key` stores the blob KeyMint answered `generateKey`, `importKey` or
`importWrappedKey` with, and the upgrade protocol stores the blob KeyMint
answered `upgradeKey` with. The blob of a `BLOB` descriptor, the key material of
`import_key` and the wrapped key data of `import_wrapped_key` go to KeyMint and
never into the Key Store. Over a whole run: every KM blob the Key Store holds at
its end it held under the same key id at its start, or the last transaction to
change that key id's KM blob wrote it, and KeyMint handed it out in that
transaction.

The rest of a new key's record is KeyMint's too: the key parameters
`store_new_key` writes are the characteristics of the key KeyMint handed out in
the same transaction, not the parameters the caller asked for, and its
certificate and certificate chain are the split of that key's chain.

The rest of the file is its helper lemmas, in three layers: what an event hands
out and what a call writes (`Event.kmBlobOut?`, `Call.kmBlobWritten?`,
`Call.RecordOf`); the walks of `Vouched` with KeyMint's hand-outs as the
voucher (`handedOut`), with a lemma per handler; and the transactions and runs.

## Results

* `dispatch_kmBlobs_handed` — one transaction: every KM blob it writes, KeyMint
  handed out during the transaction.
* `serve_kmBlobs_from_keyMint` — every run: every transaction of the run does
  what `dispatch_kmBlobs_handed` says, and every KM blob of the Key Store at its
  end was there at its start, or KeyMint handed it out in the transaction that
  wrote it last.
* `dispatch_records_from_keyMint` — one transaction: every key parameter,
  certificate and certificate chain it writes is derived from a key KeyMint
  handed out during the transaction.
-/

namespace Keystore2

open KeystoreSecurityLevel

variable (env : Env)

/-- The key blob KeyMint hands out in an event: the blob of a successful
`generateKey`, `importKey` or `importWrappedKey`, or of a successful
`upgradeKey`. -/
def Event.kmBlobOut? : Event → Option Blob
  | ⟨.generateKey _, r⟩ =>
    (r : Except Error (Blob × KeyCharacteristics × List KmCertificate)).toOption.map (·.1)
  | ⟨.importKey .., r⟩ =>
    (r : Except Error (Blob × KeyCharacteristics × List KmCertificate)).toOption.map (·.1)
  | ⟨.importWrappedKey .., r⟩ => (r : Except Error (Blob × KeyCharacteristics)).toOption.map (·.1)
  | ⟨.upgradeKey .., r⟩ => (r : Except Error Blob).toOption
  | _ => none

/-- KeyMint handed out the key blob `b` in one of the events `l`. -/
def KmHanded (l : List Event) (b : Blob) : Prop :=
  ∃ ev ∈ l, ev.kmBlobOut? = some b

theorem KmHanded.mono {l l' : List Event} (hl : ∀ ev ∈ l, ev ∈ l') {b : Blob}
    (h : KmHanded l b) : KmHanded l' b :=
  let ⟨ev, hm, he⟩ := h
  ⟨ev, hl ev hm, he⟩

/-- The KM blob a call writes. -/
def Call.kmBlobWritten? : Call → Option Blob
  | .db (.insertBlob _ .kmBlob b _) => some b
  | _ => none

-- ---------------------------------------------------------------------------
-- Where a KM blob of the Key Store comes from
-- ---------------------------------------------------------------------------

theorem KeyStore.kmBlob_apply_eq_some {s : KeyStore} {wr : DbWrite} {id : Int} {b : Blob}
    (h : (s.apply wr).kmBlob id = some b) :
    s.kmBlob id = some b ∨ (Call.db wr).kmBlobWritten? = some b := by
  cases wr with
  | createKeyEntry d n =>
    refine .inl ?_
    by_cases hid : id = s.nextId <;>
      simp_all [KeyStore.apply, KeyStore.createKeyEntry, KeyStore.kmBlob]
  | insertBlob k sc b' l =>
    by_cases hk : id = k ∧ sc = .kmBlob
    · obtain ⟨rfl, rfl⟩ := hk
      simp only [KeyStore.apply, KeyStore.kmBlob_insertBlob, if_true, Option.some.injEq] at h
      exact .inr (congrArg some h)
    · refine .inl ?_
      simp only [KeyStore.apply, KeyStore.insertBlob, KeyStore.kmBlob] at h ⊢
      rwa [if_neg fun h' => hk ⟨h'.1, h'.2.symm⟩] at h
  | insertKeyparameter | rebindAlias => exact .inl h

/-- A KM blob after the writes of `evs` was there before, or one of them wrote
it. -/
theorem kmBlob_applyWrites {id : Int} {b : Blob} :
    ∀ {evs : List Event} {s : KeyStore}, (applyWrites s evs).kmBlob id = some b →
      s.kmBlob id = some b ∨ ∃ ev ∈ evs, ev.call.kmBlobWritten? = some b
  | [], _, h => .inl h
  | ev :: evs, s, h => by
    rw [applyWrites_cons] at h
    rcases kmBlob_applyWrites h with h | ⟨ev', hm, he⟩
    · cases hw : ev.write? with
      | none =>
        rw [hw] at h
        exact .inl h
      | some wr =>
        rw [hw] at h
        exact (KeyStore.kmBlob_apply_eq_some h).imp_right fun he =>
          ⟨ev, List.mem_cons_self _ _, by rw [Event.call_eq_of_write? hw]; exact he⟩
    · exact .inr ⟨ev', List.mem_cons_of_mem _ hm, he⟩

-- ---------------------------------------------------------------------------
-- What KeyMint handed out vouches for a KM blob
-- ---------------------------------------------------------------------------

/-- A blob is vouched for when KeyMint handed it out in the run. -/
def handedOut : Voucher Blob where
  holds _ l b := KmHanded l b
  mono _ hl h := h.mono fun ev hm => hl ev (List.mem_append_right _ hm)

/-- A call, then a continuation whose value carries the key blob the call's
answer hands out. -/
theorem returns_ask_bind {ε α : Type} {g : α → Blob} {c : Call} {k : c.Resp → Svc ε α}
    (hk : ∀ r ⦃w a w'⦄, (k r).run w = some (.ok a, w') →
      (⟨c, r⟩ : Event).kmBlobOut? = some (g a)) :
    Svc.Returns handedOut (fun a => some (g a)) (Svc.ask env c >>= k) :=
  .ask_bind env fun r _ _ _ h _ hb _ => ⟨_, List.mem_singleton_self _, (hk r h).trans hb⟩

/-- The blob of a new key KeyMint handed out is one it handed out. -/
theorem Event.kmBlobOut?_of_newKeyOut? {ev : Event} {blob : Blob} {kc : KeyCharacteristics}
    {chain : Option (List KmCertificate)} (h : ev.newKeyOut? = some (blob, kc, chain)) :
    ev.kmBlobOut? = some blob := by
  obtain ⟨c, r⟩ := ev
  cases c <;> try cases h
  all_goals
    rcases r with _ | ⟨_, _⟩ <;> cases h
    rfl

/-- A computation that returns a new key KeyMint handed out returns a key blob
KeyMint handed out. -/
theorem Svc.Returns.handed {ε : Type}
    {x : Svc ε (Blob × KeyCharacteristics × Option (List KmCertificate))}
    (hx : Svc.Returns keyMintAnswered some x) : Svc.Returns handedOut (fun k => some k.1) x := by
  intro w _ w' h _ hb
  obtain ⟨ev, hm, he⟩ := hx h _ rfl
  cases hb
  exact ⟨ev, hm, Event.kmBlobOut?_of_newKeyOut? he⟩

-- ---------------------------------------------------------------------------
-- The handlers
-- ---------------------------------------------------------------------------

namespace KeystoreSecurityLevel

variable (self : KeystoreSecurityLevel) {S : Blob → Prop}

/-- Every call of a stopping run of `store_new_key` from `w` is a Key Store
write of its plan, at the store's next free key id. -/
theorem storeNewKey_calls_in_plan (key : KeyDescriptor) (keyCharacteristics : KeyCharacteristics)
    (kmCertChain : Option (List KmCertificate)) (blob : Blob) {w w' : World}
    {r : Except AnyhowError KeyMetadata}
    (h : (storeNewKey env self key keyCharacteristics kmCertChain blob).run w = some (r, w')) :
    ∀ ev ∈ w.eventsTo w', ∃ wr ∈ storePlan key w.store.nextId
        (keyCharacteristicsToInternal env.convertFromWire keyCharacteristics self.securityLevel)
        (splitCertChain kmCertChain).1 (splitCertChain kmCertChain).2 blob self.securityLevel,
      ev.call = .db wr := by
  intro ev hev
  obtain ⟨r', hblob, hn, -⟩ := storeNewKey_run env self key keyCharacteristics kmCertChain blob h
  by_cases hd : key.domain = Domain.blob
  · rw [(hblob hd).2, World.eventsTo_self] at hev
    cases hev
  rcases storeNewKeyInDb_log env self key _ _ _ blob w (hn hd) with
    ⟨hev', -⟩ | ⟨e, pre, wr, rest, ew, -, hws, hev'⟩ <;> rw [hev'] at hev
  · obtain ⟨wr, hwr, rfl⟩ := List.mem_map.mp hev
    exact ⟨wr, hwr, rfl⟩
  · rcases List.mem_append.mp hev with hev | hev
    · obtain ⟨wr', hwr, rfl⟩ := List.mem_map.mp hev
      exact ⟨wr', hws ▸ List.mem_append_left _ hwr, rfl⟩
    · rw [List.mem_singleton] at hev
      subst hev
      exact ⟨wr, hws ▸ List.mem_append_right _ (List.mem_cons_self _ _), rfl⟩

/-- The only KM blob in the plan of `store_new_key` is the one it is given. -/
theorem storePlan_kmBlobWritten {key : KeyDescriptor} {id : Int} {keyParameters : List KeyParameter}
    {cert certChain : Option Blob} {blob : Blob} {secLevel : SecurityLevel} {wr : DbWrite}
    (hwr : wr ∈ storePlan key id keyParameters cert certChain blob secLevel) {b : Blob}
    (hb : (Call.db wr).kmBlobWritten? = some b) : b = blob := by
  simp only [storePlan, List.mem_cons, List.mem_append, Option.mem_toList, Option.mem_def,
    Option.map_eq_some'] at hwr
  rcases hwr with rfl | rfl | ⟨_, -, rfl⟩ | ⟨_, -, rfl⟩ | rfl | ⟨_, -, rfl⟩
  all_goals first | exact (Option.some.inj hb).symm | cases hb

/-- `store_new_key` writes the KM blob it is given and no other. -/
theorem storeNewKey_kmBlobsFrom (key : KeyDescriptor) (keyCharacteristics : KeyCharacteristics)
    (kmCertChain : Option (List KmCertificate)) (blob : Blob) :
    Svc.WritesFrom handedOut Call.kmBlobWritten? (fun b => some blob = some b)
      (storeNewKey env self key keyCharacteristics kmCertChain blob) := by
  intro w r w' h ev hev b hb
  obtain ⟨wr, hwr, hc⟩ :=
    storeNewKey_calls_in_plan env self key keyCharacteristics kmCertChain blob h ev hev
  exact .inl (congrArg some (storePlan_kmBlobWritten hwr (hc ▸ hb)).symm)

/-- The upgrade protocol writes only the blob KeyMint upgraded. -/
theorem upgradeKeyblobIfRequiredWith_kmBlobsFrom {T : Type} {keyIdGuard : Option KeyIdGuard}
    {blob : Blob} {params : List KmKeyParameter} {f : Blob → Svc Error T}
    (hf : ∀ b, Svc.OnlyCalls (fun c => c.kmBlobWritten? = none) (f b)) :
    Svc.WritesFrom handedOut Call.kmBlobWritten? S
      (upgradeKeyblobIfRequiredWith env self keyIdGuard blob params f) := by
  unfold upgradeKeyblobIfRequiredWith
  refine .bind_of_none (Svc.onlyCalls_observe (hf blob)) fun r => ?_
  rcases r with e | v
  · dsimp only
    split
    · refine .bind_returns (g := some) (.of_none (Svc.onlyCalls_mapError _
        (Svc.onlyCalls_bind (Svc.onlyCalls_ask env rfl) fun _ => Svc.onlyCalls_ofExcept _ _)))
        (.mapError _ (returns_ask_bind env (g := id) fun r _ _ _ h => by cases r <;> cases h; rfl))
        fun b' => ?_
      refine .bind ?_ fun _ _ _ _ => .of_none (Svc.onlyCalls_bind
        (Svc.onlyCalls_observe (hf b')) fun r => ?_)
      · cases keyIdGuard with
        | none => exact .of_none (Svc.onlyCalls_pure _ _)
        | some g => exact .mapError _ (.of_onlyCalls (KeystoreDB.write_onlyCalls env fun _ hb => hb))
      · cases r
        exacts [Svc.onlyCalls_throw _ _, Svc.onlyCalls_pure _ _]
    · exact .of_none (Svc.onlyCalls_throw _ _)
  · exact .of_none (Svc.onlyCalls_pure _ _)

variable (S)

/-- KeyMint's part of `import_wrapped_key` writes only the wrapping key's blob
KeyMint upgraded. -/
theorem importWrappedKeyKm_kmBlobsFrom (params : List KmKeyParameter) (p : WrappedKeyImport) :
    Svc.WritesFrom handedOut Call.kmBlobWritten? S (importWrappedKeyKm env self params p) := by
  unfold importWrappedKeyKm
  exact .bind (upgradeKeyblobIfRequiredWith_kmBlobsFrom env self fun _ =>
    Svc.onlyCalls_ask_ofExcept env rfl fun _ => Svc.onlyCalls_bind (Svc.onlyCalls_ofExcept _ _)
      fun ⟨_, _⟩ => Svc.onlyCalls_pure _ _) fun _ _ _ _ => .of_none (Svc.onlyCalls_pure _ _)

theorem generateKey_kmBlobsFrom (key : KeyDescriptor) (attestationKey : Option KeyDescriptor)
    (params : List KmKeyParameter) (flags : Int) (entropy : Blob) :
    Svc.WritesFrom handedOut Call.kmBlobWritten? S
      (generateKey env self key attestationKey params flags entropy) :=
  keyCreation_writesFrom env self (f := fun _ => none)
    (Svc.OnlyCallsOf.onlyCalls fun uid => generateKeyChecks_calls env uid key (fun _ => rfl) rfl)
    (.of_none fun _ _ _ _ => rfl) (fun _ => .of_none (generateKeyKm_calls env params entropy rfl rfl))
    (fun _ => (generateKeyKm_returns env params entropy).handed)
    fun _ blob kc chain => storeNewKey_kmBlobsFrom env self _ kc chain blob

theorem importKey_kmBlobsFrom (key : KeyDescriptor) (attestationKey : Option KeyDescriptor)
    (params : List KmKeyParameter) (flags : Int) (keyData : Blob) :
    Svc.WritesFrom handedOut Call.kmBlobWritten? S
      (importKey env self key attestationKey params flags keyData) :=
  keyCreation_writesFrom env self (f := fun _ => none)
    (Svc.OnlyCallsOf.onlyCalls fun uid => importKeyChecks_calls env uid key params (fun _ => rfl) rfl)
    (.of_none fun _ _ _ _ => rfl) (fun p => .of_none (importKeyKm_calls env params keyData p.2 rfl))
    (fun p => (importKeyKm_returns env params keyData p.2).handed)
    fun _ blob kc chain => storeNewKey_kmBlobsFrom env self _ kc chain blob

theorem importWrappedKey_kmBlobsFrom (key wrappingKey : KeyDescriptor) (maskingKey : Option Blob)
    (params : List KmKeyParameter) (authenticators : List AuthenticatorSpec) :
    Svc.WritesFrom handedOut Call.kmBlobWritten? S
      (importWrappedKey env self key wrappingKey maskingKey params authenticators) :=
  keyCreation_writesFrom env self (f := fun _ => none)
    (Svc.OnlyCallsOf.onlyCalls fun uid => importWrappedKeyChecks_calls env uid key wrappingKey
      maskingKey authenticators (fun _ => rfl) (fun _ _ _ => rfl) rfl rfl)
    (.of_none fun _ _ _ _ => rfl) (fun p => importWrappedKeyKm_kmBlobsFrom env self _ params p)
    (fun p => (importWrappedKeyKm_returns env self params p).handed)
    fun _ blob kc chain => storeNewKey_kmBlobsFrom env self _ kc chain blob

theorem createOperation_kmBlobsFrom (key : KeyDescriptor) (ps : List KmKeyParameter)
    (forced : Bool) :
    Svc.WritesFrom handedOut Call.kmBlobWritten? S (createOperation env self key ps forced) :=
  createOperation_writesFrom env self (g := fun _ => none) (fun _ _ _ _ => rfl) (fun _ => rfl) rfl
    (fun _ _ => rfl) (fun _ => rfl) (fun _ => .of_none fun _ _ _ _ => rfl) fun _ _ _ =>
    upgradeKeyblobIfRequiredWith_kmBlobsFrom env self fun _ => beginLoop_onlyCalls env rfl rfl

end KeystoreSecurityLevel

-- ---------------------------------------------------------------------------
-- Transactions and runs
-- ---------------------------------------------------------------------------

/-- **One transaction.** Every KM blob a transaction writes, whatever its
method, caller and the collaborators' answers, KeyMint handed out during the
transaction. -/
theorem dispatch_kmBlobs_handed (self : KeystoreSecurityLevel) (rq : Request) :
    Svc.WritesFrom handedOut Call.kmBlobWritten? (fun _ => False) (dispatch env self rq) := by
  cases rq
  all_goals refine Svc.WritesFrom.bind ?_ fun _ _ _ _ => .of_none (Svc.onlyCalls_pure _ _)
  exacts [createOperation_kmBlobsFrom env self _ _ _ _, generateKey_kmBlobsFrom env self _ _ _ _ _ _,
    importKey_kmBlobsFrom env self _ _ _ _ _ _, importWrappedKey_kmBlobsFrom env self _ _ _ _ _ _]

/-- From `w` to `w'`, every KM blob of the Key Store at `w'` was there at `w`,
or KeyMint handed it out in between. -/
def KmBlobsKept (w w' : World) : Prop :=
  ∀ k b, w'.store.kmBlob k = some b → w.store.kmBlob k = some b ∨ KmHanded (w.eventsTo w') b

/-- One transaction keeps the KM blobs, or KeyMint handed out the new ones. -/
theorem dispatch_kmBlobsKept (self : KeystoreSecurityLevel) (rq : Request) {w w' : World}
    {r : Except AnyhowError Response} (h : (dispatch env self rq).run w = some (r, w')) :
    KmBlobsKept w w' := by
  intro k b hb
  rw [(Svc.follows _ h).store_eq] at hb
  exact (kmBlob_applyWrites hb).imp_right fun ⟨ev, hev, he⟩ =>
    (dispatch_kmBlobs_handed env self rq h ev hev b he).resolve_left id

/-- **The KM blobs of a run.** Whatever the transactions, their callers and the
collaborators' answers: in each transaction of a run of the service, every KM
blob a write carries, accepted or refused, KeyMint handed out in that
transaction; and every KM blob the Key Store holds at the end of the run it held
under the same key id at the start, or the last transaction that changed that
key id's KM blob wrote it there, and KeyMint handed it out in that transaction:
as the key blob of a `generateKey`, `importKey` or `importWrappedKey` answer, or
as an upgraded blob. -/
theorem serve_kmBlobs_from_keyMint (self : KeystoreSecurityLevel) {txs : List (Caller × Request)}
    {w w' : World} {rs : List (Except AnyhowError Response)}
    (h : serve env self txs w = some (rs, w')) :
    (∀ c rq v v', TxOf env self txs w w' c rq v v' → ∀ ev ∈ v.eventsTo v', ∀ b,
      ev.call.kmBlobWritten? = some b → KmHanded (v.eventsTo v') b) ∧
    ∀ id b, w'.store.kmBlob id = some b → w.store.kmBlob id = some b ∨
      ∃ c rq v v', TxOf env self txs w w' c rq v v' ∧ v.store.kmBlob id ≠ some b ∧
        v'.store.kmBlob id = some b ∧ KmHanded (v.eventsTo v') b := by
  refine ⟨fun c rq v v' ht ev hev b hb => ?_, fun id b hb => ?_⟩
  · obtain ⟨_, hr⟩ := ht.run
    exact (dispatch_kmBlobs_handed env self rq hr ev hev b hb).resolve_left id
  by_cases h0 : w.store.kmBlob id = some b
  · exact .inl h0
  -- the last transaction that changed the KM blob of `id`
  obtain ⟨c, rq, v, v', ht, hne, hend⟩ :=
    serve_last_change (fun s => s.kmBlob id) h fun he => h0 (he.symm.trans hb)
  have hv' : v'.store.kmBlob id = some b := hend.trans hb
  have hv : v.store.kmBlob id ≠ some b := fun hv => hne (hv'.trans hv.symm)
  obtain ⟨_, hr⟩ := ht.run
  exact .inr ⟨c, rq, v, v', ht, hv, hv',
    (dispatch_kmBlobsKept env self rq hr id b hv').resolve_left hv⟩

/-- An app begins an operation on key id 1, whose stale blob `[7]` KeyMint
upgrades to `[8]`: the Key Store ends with `[8]`, which KeyMint handed out in
the transaction that wrote it. -/
theorem serve_kmBlobs_from_keyMint_upgraded :
    ∃ rs w', serve (staleBlobEnv [7] [8]) ⟨⟨1⟩⟩ useKeyTxs (World.start oneKeyStore) =
        some (rs, w') ∧ w'.store.kmBlob 1 = some [8] ∧
      (∀ c rq v v', TxOf (staleBlobEnv [7] [8]) ⟨⟨1⟩⟩ useKeyTxs (World.start oneKeyStore) w' c rq v v' →
        ∀ ev ∈ v.eventsTo v', ∀ b, ev.call.kmBlobWritten? = some b → KmHanded (v.eventsTo v') b) ∧
      ∀ id b, w'.store.kmBlob id = some b → oneKeyStore.kmBlob id = some b ∨
        ∃ c rq v v', TxOf (staleBlobEnv [7] [8]) ⟨⟨1⟩⟩ useKeyTxs (World.start oneKeyStore) w' c rq v v' ∧
          v.store.kmBlob id ≠ some b ∧ v'.store.kmBlob id = some b ∧ KmHanded (v.eventsTo v') b := by
  obtain ⟨⟨rs, w'⟩, h⟩ : ∃ p, serve (staleBlobEnv [7] [8]) ⟨⟨1⟩⟩ useKeyTxs
      (World.start oneKeyStore) = some p := ⟨_, rfl⟩
  refine ⟨rs, w', h, ?_, serve_kmBlobs_from_keyMint (staleBlobEnv [7] [8]) ⟨⟨1⟩⟩ h⟩
  cases h
  rfl

-- ---------------------------------------------------------------------------
-- The rest of a new key's record
-- ---------------------------------------------------------------------------

/-- The calls that write a part of a key's record other than its KM blob: its
key parameters, its certificate, its certificate chain. -/
def Call.writesRecord : Call → Bool
  | .db (.insertKeyparameter ..) | .db (.insertBlob _ .cert _ _)
  | .db (.insertBlob _ .certChain _ _) => true
  | _ => false

theorem Call.writesBeyondKmBlob_of_writesRecord {c : Call} (h : c.writesRecord = true) :
    c.writesBeyondKmBlob = true := by
  cases c with
  | db wr =>
    cases wr with
    | insertBlob _ sc _ _ => cases sc <;> first | rfl | cases h
    | _ => rfl
  | _ => cases h

/-- What a record write of a call writes, as `store_new_key` derives it from the
key `k` KeyMint handed out: the key parameters are its characteristics as
`key_characteristics_to_internal` converts them at the security level
`secLevel`, the certificate is the leaf of its certificate chain, and the
certificate chain is the rest. -/
def Call.RecordOf (convertFromWire : KmKeyParameter → KeyParameterValue)
    (secLevel : SecurityLevel) (k : Blob × KeyCharacteristics × Option (List KmCertificate)) :
    Call → Prop
  | .db (.insertKeyparameter _ ps) => ps = keyCharacteristicsToInternal convertFromWire k.2.1 secLevel
  | .db (.insertBlob _ .cert c _) => (splitCertChain k.2.2).1 = some c
  | .db (.insertBlob _ .certChain c _) => (splitCertChain k.2.2).2 = some c
  | _ => True

/-- Every write of the plan of `store_new_key` is derived from the key it is
given. -/
theorem storePlan_recordOf {convertFromWire : KmKeyParameter → KeyParameterValue}
    {secLevel : SecurityLevel} {key : KeyDescriptor} {id : Int} {kc : KeyCharacteristics}
    {chain : Option (List KmCertificate)} {blob : Blob} {wr : DbWrite}
    (hwr : wr ∈ storePlan key id (keyCharacteristicsToInternal convertFromWire kc secLevel)
      (splitCertChain chain).1 (splitCertChain chain).2 blob secLevel) :
    (Call.db wr).RecordOf convertFromWire secLevel (blob, kc, chain) := by
  simp only [storePlan, List.mem_cons, List.mem_append, Option.mem_toList, Option.mem_def,
    Option.map_eq_some'] at hwr
  rcases hwr with rfl | rfl | ⟨_, h, rfl⟩ | ⟨_, h, rfl⟩ | rfl | ⟨_, -, rfl⟩
  exacts [trivial, trivial, h, h, rfl, trivial]

section StoresLast

variable {env} {self : KeystoreSecurityLevel}

/-- The record writes of a handler that stores last are derived from the key
KeyMint handed out to it. -/
theorem Svc.StoresLast.recordsOf {key : UInt32 → KeyDescriptor} {x : Svc AnyhowError KeyMetadata}
    (hx : Svc.StoresLast env self key x) {w w' : World} {r : Except AnyhowError KeyMetadata}
    (h : x.run w = some (r, w')) :
    ∀ ev ∈ w.eventsTo w', ev.call.writesRecord = true → ∃ k,
      keyMintAnswered.holds w (w.eventsTo w') k ∧
        ev.call.RecordOf env.convertFromWire self.securityLevel k := by
  obtain ⟨w1, hf, hev, hend⟩ := hx h
  have hpre : ∀ ev ∈ w.eventsTo w1, ev.call.writesRecord = true → False := fun ev hm hw =>
    Bool.false_ne_true ((hev ev hm).symm.trans (Call.writesBeyondKmBlob_of_writesRecord hw))
  rcases hend with ⟨-, -, rfl⟩ | ⟨kc, chain, blob, r1, g, ha, hs, -⟩
  · exact fun ev hm hw => (hpre ev hm hw).elim
  rw [World.eventsTo_trans hf (Svc.follows _ hs)]
  intro ev hm hw
  rcases List.mem_append.mp hm with hm | hm
  · exact (hpre ev hm hw).elim
  obtain ⟨wr, hwr, hc⟩ := storeNewKey_calls_in_plan env self _ kc chain blob hs ev hm
  exact ⟨(blob, kc, chain), keyMintAnswered.grow (fun _ => List.mem_append_left _) ha,
    hc ▸ storePlan_recordOf hwr⟩

end StoresLast

/-- **The record of a new key.** Whatever the method, the caller, the Key Store
and the collaborators' answers, every key parameter row, certificate and
certificate chain a transaction writes is derived from a key KeyMint handed out
during the transaction (the answer to its `generateKey`, `importKey` or
`importWrappedKey`): the key parameters are that key's characteristics,
converted by `key_characteristics_to_internal`, and not the parameters of the
request; the certificate is the leaf of that key's certificate chain and the
certificate chain the rest. -/
theorem dispatch_records_from_keyMint (self : KeystoreSecurityLevel) (rq : Request) {w w' : World}
    {r : Except AnyhowError Response} (h : (dispatch env self rq).run w = some (r, w')) :
    ∀ ev ∈ w.eventsTo w', ev.call.writesRecord = true → ∃ k,
      (∃ ev' ∈ w.eventsTo w', ev'.newKeyOut? = some k) ∧
        ev.call.RecordOf env.convertFromWire self.securityLevel k := by
  cases rq with
  | createOperation key ps forced =>
    obtain ⟨_, h'⟩ := Svc.bind_pure_eq_some h
    intro ev hm hw
    have hb : ev.call.writesBeyondKmBlob = false :=
      createOperation_onlyKmBlobWrites env self key ps forced h' ev hm
    exact (Bool.false_ne_true (hb.symm.trans (Call.writesBeyondKmBlob_of_writesRecord hw))).elim
  | generateKey =>
    obtain ⟨_, h'⟩ := Svc.bind_pure_eq_some h
    exact (generateKey_storesLast env self _ _ _ _ _).recordsOf h'
  | importKey =>
    obtain ⟨_, h'⟩ := Svc.bind_pure_eq_some h
    exact (importKey_storesLast env self _ _ _ _ _).recordsOf h'
  | importWrappedKey =>
    obtain ⟨_, h'⟩ := Svc.bind_pure_eq_some h
    exact (importWrappedKey_storesLast env self _ _ _ _ _).recordsOf h'

/-- An app generates a key: the key parameters written for it are KeyMint's
characteristics, here none. -/
theorem dispatch_records_from_keyMint_generate :
    ∃ r w', (dispatch (staleBlobEnv [] []) ⟨⟨1⟩⟩
        (.generateKey ⟨Domain.app, 0, some "k", none⟩ none [] 0 [])).run (World.start .empty) =
        some (r, w') ∧
      Call.db (.insertKeyparameter 1 []) ∈ ((World.start .empty).eventsTo w').map Event.call ∧
      ∀ ev ∈ (World.start .empty).eventsTo w', ev.call.writesRecord = true → ∃ k,
        (∃ ev' ∈ (World.start .empty).eventsTo w', ev'.newKeyOut? = some k) ∧
          ev.call.RecordOf (staleBlobEnv [] []).convertFromWire ⟨1⟩ k := by
  obtain ⟨⟨r, w'⟩, h⟩ : ∃ p, (dispatch (staleBlobEnv [] []) ⟨⟨1⟩⟩
      (.generateKey ⟨Domain.app, 0, some "k", none⟩ none [] 0 [])).run (World.start .empty) =
      some p := ⟨_, rfl⟩
  refine ⟨r, w', h, ?_, dispatch_records_from_keyMint (staleBlobEnv [] []) ⟨⟨1⟩⟩ _ h⟩
  cases h
  decide

end Keystore2

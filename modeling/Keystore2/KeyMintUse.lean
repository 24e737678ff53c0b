import Keystore2.KmBlobAccess

/-!
# Keystore2 — the key blobs the service hands KeyMint to use

KeyMint works on key blobs the service hands it: `begin` starts an operation
with one, `upgradeKey` upgrades one, and `importWrappedKey` unwraps with one,
the wrapping key. Which blob the service hands over is where one app could have
KeyMint use another app's key. `create_operation` hands over the blob of a
`BLOB` descriptor only after the Access Gate granted `use` on the descriptor,
and the KM blob of any other key only after `load_key_entry` loaded it with
`use` granted on the key the Key Store resolved; `import_wrapped_key` loads its
wrapping key the same way; and the upgrade protocol hands over, besides the
blob it is given, only the blob KeyMint's `upgradeKey` answered.

So in every transaction, every key blob KeyMint is asked to use is the blob of a
descriptor the caller was granted `use` on, the KM blob the Key Store held at
the transaction's start for a key the caller loaded with `use` granted, or a
blob KeyMint itself handed out during the transaction.

The rest of the file is its helper lemmas: the key blob a call hands KeyMint
(`Call.kmKeyBlobIn?`) and what vouches for it (`UsableBlob`); the walks of
`Vouched` for it, with a lemma per handler; and the transaction.

## Results

* `dispatch_keyMint_uses_granted` — one transaction: every key blob it hands
  KeyMint to use is a descriptor's blob the caller may use, the stored blob of a
  key the caller loaded for use, or a blob KeyMint handed out.
* `serve_keyMint_uses_granted` — every run: each such blob is accounted for in
  this way by the transaction of the run that made the call.
-/

namespace Keystore2

open KeystoreSecurityLevel

variable (env : Env)

/-- The key blob a call hands KeyMint to use: the blob `begin` starts an
operation with, the blob `upgradeKey` upgrades, and the wrapping key of
`importWrappedKey`. -/
def Call.kmKeyBlobIn? : Call → Option Blob
  | .begin _ keyBlob _ => some keyBlob
  | .upgradeKey keyBlobToUpgrade _ => some keyBlobToUpgrade
  | .importWrappedKey _ wrappingKeyBlob .. => some wrappingKeyBlob
  | _ => none

theorem Granted.mono {callingSid : Option String} {perm : KeyPerm} {key : KeyDescriptor}
    {accessVector : Option KeyPermSet} {l l' : List Event} (hl : ∀ ev ∈ l, ev ∈ l')
    (h : Granted callingSid perm key accessVector l) : Granted callingSid perm key accessVector l' :=
  let ⟨sid, hs, hm⟩ := h
  ⟨sid, hs, hl _ hm⟩

/-- In a run from `w` with the events `l`, the caller may have KeyMint use the
key blob `b`: it is the blob of a descriptor the Access Gate granted the caller
`use` on, the KM blob of a key the caller loaded for use (as the Key Store held
it at `w`, or as a write of the run stored it), or KeyMint handed it out. -/
def UsableBlob (w : World) (l : List Event) (b : Blob) : Prop :=
  (∃ d, Granted w.callingSid .use d none l ∧ d.blob = some b) ∨
    (∃ k, LoadedForUse w.callingSid l k ∧
      (w.store.kmBlob k = some b ∨ ∃ ev ∈ l, ev.call.kmBlobWritten? = some b)) ∨
    KmHanded l b

/-- A stored blob is still one at the start of a run that started earlier: the
writes in between are among its events. -/
theorem UsableBlob.mono {w w1 : World} {l l' : List Event} {b : Blob} (hf : w.Follows w1)
    (hl : ∀ ev ∈ w.eventsTo w1 ++ l, ev ∈ l') (h : UsableBlob w1 l b) : UsableBlob w l' b := by
  have hl' : ∀ ev ∈ l, ev ∈ l' := fun ev hm => hl ev (List.mem_append_right _ hm)
  rw [UsableBlob, hf.callingSid_eq] at h
  rcases h with ⟨d, hg, hd⟩ | ⟨k, hk, hb | ⟨ev, hm, he⟩⟩ | h
  · exact .inl ⟨d, hg.mono hl', hd⟩
  · rw [hf.store_eq] at hb
    exact .inr (.inl ⟨k, hk.mono hl', (kmBlob_applyWrites hb).imp_right fun ⟨ev, hm, he⟩ =>
      ⟨ev, hl ev (List.mem_append_left _ hm), he⟩⟩)
  · exact .inr (.inl ⟨k, hk.mono hl', .inr ⟨ev, hl' ev hm, he⟩⟩)
  · exact .inr (.inr (h.mono hl'))

/-- A key blob is vouched for when the caller may have KeyMint use it. -/
def usable : Voucher Blob where
  holds := UsableBlob
  mono := UsableBlob.mono

-- ---------------------------------------------------------------------------
-- Where the blobs come from
-- ---------------------------------------------------------------------------

/-- The `use` check on a descriptor vouches for the descriptor's blob. -/
theorem checkKeyPermission_usable (key : KeyDescriptor) :
    Svc.Returns usable (fun _ => key.blob) (checkKeyPermission env .use key none) :=
  fun _ _ _ h _ hb => .inl ⟨key, checkKeyPermission_ok env h, hb⟩

/-- `load_key_entry` with the `use` check as its callback returns the KM blob of
a key it loaded for use. -/
theorem loadKeyEntry_usable (key : KeyDescriptor) (uid : UInt32) :
    Svc.Returns usable (fun p => p.2.kmBlob)
      (KeystoreDB.loadKeyEntry env key .km uid fun k av => checkKeyPermission env .use k av) := by
  rintro w ⟨g, e⟩ w' h b hb
  obtain ⟨-, -, -, -, he⟩ := KeystoreDB.loadKeyEntry_ok env h
  have hb' : (applyWrites w.store (w.eventsTo w')).kmBlob g.id = some b :=
    (Svc.follows _ h).store_eq ▸ he.symm.trans hb
  exact .inr (.inl ⟨g.id, loadKeyEntry_use_loaded env h, kmBlob_applyWrites hb'⟩)

/-- The key resolution of `create_operation` returns a blob the caller may have
KeyMint use. -/
theorem createOperationKmBlob_usable (key : KeyDescriptor) (uid : UInt32) :
    Svc.Returns usable (fun p => some p.1) (createOperationKmBlob env key uid) := by
  unfold createOperationKmBlob
  split
  · refine .bind_pass ((checkKeyPermission_usable env key).mapError _) fun _ _ _ _ h _ hc => ?_
    split at h <;> cases h
    next hb => exact hb.trans hc
  · refine .bind_pass ((loadKeyEntry_usable env key uid).mapError _) fun ⟨_, _⟩ _ _ _ h _ hc => ?_
    dsimp only at h
    split at h <;> cases h
    next hb => exact hb.trans hc

/-- The upgrade answer of KeyMint is a blob it handed out. -/
theorem upgradeKey_usable {blob : Blob} {params : List KmKeyParameter} :
    Svc.Returns usable some (do Svc.ofExcept (← Svc.ask env (.upgradeKey blob params)) :
      Svc Error Blob) :=
  .ask_bind env fun r _ _ _ h _ hb _ =>
    .inr (.inr ⟨_, List.mem_singleton_self _, by cases r <;> cases h; exact hb⟩)

-- ---------------------------------------------------------------------------
-- The handlers
-- ---------------------------------------------------------------------------

namespace KeystoreSecurityLevel

variable (self : KeystoreSecurityLevel) {S : Blob → Prop}

/-- The upgrade protocol hands KeyMint the blob it is given, the blob KeyMint
upgraded it to, and what its closure hands KeyMint: when each run of the closure
hands KeyMint only the blob it is run on, or blobs `S` admits. -/
theorem upgradeKeyblobIfRequiredWith_usesFrom {T : Type} {keyIdGuard : Option KeyIdGuard}
    {blob : Blob} {params : List KmKeyParameter} {f : Blob → Svc Error T}
    (hf : ∀ b, Svc.OnlyCalls (fun c => ∀ b', c.kmKeyBlobIn? = some b' → b' = b ∨ S b') (f b))
    (hS : S blob) :
    Svc.WritesFrom usable Call.kmKeyBlobIn? S
      (upgradeKeyblobIfRequiredWith env self keyIdGuard blob params f) := by
  unfold upgradeKeyblobIfRequiredWith
  refine .bind (.of_onlyCalls (Svc.onlyCalls_observe ((hf blob).imp fun _ hc b hb =>
    (hc b hb).elim (· ▸ hS) id))) fun r _ _ _ => .mono (fun _ => .inl) ?_
  rcases r with e | v
  · dsimp only
    split
    · -- the upgrade, then the closure on the upgraded blob
      refine .bind (.of_onlyCalls (Svc.onlyCalls_mapError _ (Svc.onlyCalls_bind
        (Svc.onlyCalls_ask env fun _ hb => Option.some.inj hb ▸ hS) fun _ =>
          Svc.onlyCalls_ofExcept _ _))) fun b' _ _ h1 => ?_
      have hup := (upgradeKey_usable env).mapError _ h1 b' rfl
      refine .mono (S := fun b => S b ∨ b = b') (fun b hb => hb.imp_right fun e => e ▸ hup)
        (.of_onlyCalls (Svc.onlyCalls_bind ?_ fun _ => Svc.onlyCalls_bind
          (Svc.onlyCalls_observe ((hf b').imp fun _ hc b hb => (hc b hb).symm)) fun r => ?_))
      · cases keyIdGuard
        exacts [Svc.onlyCalls_pure _ _,
          Svc.onlyCalls_mapError _ (KeystoreDB.write_onlyCalls env fun _ hb => nomatch hb)]
      · cases r
        exacts [Svc.onlyCalls_throw _ _, Svc.onlyCalls_pure _ _]
    · exact .of_none (Svc.onlyCalls_throw _ _)
  · exact .of_none (Svc.onlyCalls_pure _ _)

/-- The checks of `import_wrapped_key` hand on the stored blob of the wrapping
key, loaded for use. -/
theorem importWrappedKeyChecks_usable (key wrappingKey : KeyDescriptor) (maskingKey : Option Blob)
    (authenticators : List AuthenticatorSpec) :
    Svc.Returns usable (fun p => some p.wrappingKeyBlob)
      (importWrappedKeyChecks env key wrappingKey maskingKey authenticators) := by
  rintro w p w' h _ ⟨⟩
  have hf := importWrappedKeyChecks_ok env h
  obtain ⟨ak, av, hm, hg⟩ := hf.loaded
  exact .inr (.inl ⟨_, ⟨_, _, _, ak, av, hm, hg⟩, .inl hf.wrappingKeyBlob_eq⟩)

/-- KeyMint's part of `import_wrapped_key` hands KeyMint the wrapping key's blob
the checks loaded, and KeyMint's upgrade of it. -/
theorem importWrappedKeyKm_usesFrom (params : List KmKeyParameter) (p : WrappedKeyImport) :
    Svc.WritesFrom usable Call.kmKeyBlobIn? (fun b => some p.wrappingKeyBlob = some b)
      (importWrappedKeyKm env self params p) := by
  unfold importWrappedKeyKm
  exact .bind (upgradeKeyblobIfRequiredWith_usesFrom env self (fun _ =>
    Svc.onlyCalls_ask_ofExcept env (fun _ hb => .inr hb) fun _ =>
      Svc.onlyCalls_bind (Svc.onlyCalls_ofExcept _ _) fun ⟨_, _⟩ => Svc.onlyCalls_pure _ _) rfl)
    fun _ _ _ _ => .of_none (Svc.onlyCalls_pure _ _)

variable (S)

theorem generateKey_usesFrom (key : KeyDescriptor) (attestationKey : Option KeyDescriptor)
    (params : List KmKeyParameter) (flags : Int) (entropy : Blob) :
    Svc.WritesFrom usable Call.kmKeyBlobIn? S
      (generateKey env self key attestationKey params flags entropy) :=
  .of_none (generateKey_onlyCalls env self key attestationKey params flags entropy
    (fun _ _ _ _ => rfl) rfl rfl rfl fun _ => rfl)

theorem importKey_usesFrom (key : KeyDescriptor) (attestationKey : Option KeyDescriptor)
    (params : List KmKeyParameter) (flags : Int) (keyData : Blob) :
    Svc.WritesFrom usable Call.kmKeyBlobIn? S
      (importKey env self key attestationKey params flags keyData) :=
  .of_none (importKey_onlyCalls env self key attestationKey params flags keyData
    (fun _ _ _ _ => rfl) rfl (fun _ _ => rfl) fun _ => rfl)

theorem importWrappedKey_usesFrom (key wrappingKey : KeyDescriptor) (maskingKey : Option Blob)
    (params : List KmKeyParameter) (authenticators : List AuthenticatorSpec) :
    Svc.WritesFrom usable Call.kmKeyBlobIn? S
      (importWrappedKey env self key wrappingKey maskingKey params authenticators) :=
  keyCreation_writesFrom env self (g := fun _ => none)
    (Svc.OnlyCallsOf.onlyCalls fun uid => importWrappedKeyChecks_calls env uid key wrappingKey
      maskingKey authenticators (fun _ => rfl) (fun _ _ _ => rfl) rfl rfl)
    (importWrappedKeyChecks_usable env key wrappingKey maskingKey authenticators)
    (fun p => importWrappedKeyKm_usesFrom env self params p) (fun _ => .of_none fun _ _ _ _ => rfl)
    fun _ _ _ _ => .of_none (storeNewKey_onlyCalls_db env self _ _ _ _ fun _ => rfl)

theorem createOperation_usesFrom (key : KeyDescriptor) (ps : List KmKeyParameter)
    (forced : Bool) :
    Svc.WritesFrom usable Call.kmKeyBlobIn? S (createOperation env self key ps forced) :=
  createOperation_writesFrom env self (fun _ _ _ _ => rfl) (fun _ => rfl) rfl (fun _ _ => rfl)
    (fun _ => rfl) (createOperationKmBlob_usable env key) fun _ _ _ =>
    upgradeKeyblobIfRequiredWith_usesFrom env self
      (fun _ => beginLoop_onlyCalls env (fun _ hb => .inl (Option.some.inj hb).symm) fun _ hb =>
        nomatch hb) rfl

end KeystoreSecurityLevel

-- ---------------------------------------------------------------------------
-- Transactions and runs
-- ---------------------------------------------------------------------------

/-- A stored blob that a run wrote itself is one KeyMint handed out, when every
KM blob the run writes is. -/
theorem UsableBlob.resolve {w : World} {l : List Event} {b : Blob}
    (hw : ∀ ev ∈ l, ∀ b, ev.call.kmBlobWritten? = some b → KmHanded l b) (h : UsableBlob w l b) :
    (∃ d, Granted w.callingSid .use d none l ∧ d.blob = some b) ∨
      (∃ k, LoadedForUse w.callingSid l k ∧ w.store.kmBlob k = some b) ∨ KmHanded l b := by
  rcases h with hd | ⟨k, hk, hs | ⟨ev, hev, he⟩⟩ | hh
  exacts [.inl hd, .inr (.inl ⟨k, hk, hs⟩), .inr (.inr (hw ev hev b he)), .inr (.inr hh)]

/-- Every key blob a transaction hands KeyMint to use, its caller may use. -/
theorem dispatch_usesFrom (self : KeystoreSecurityLevel) (rq : Request) :
    Svc.WritesFrom usable Call.kmKeyBlobIn? (fun _ => False) (dispatch env self rq) := by
  cases rq
  all_goals refine Svc.WritesFrom.bind ?_ fun _ _ _ _ => .of_none (Svc.onlyCalls_pure _ _)
  exacts [createOperation_usesFrom env self _ _ _ _, generateKey_usesFrom env self _ _ _ _ _ _,
    importKey_usesFrom env self _ _ _ _ _ _, importWrappedKey_usesFrom env self _ _ _ _ _ _]

/-- **One transaction.** Whatever its method, caller and the collaborators'
answers, every key blob a transaction hands KeyMint to use (to `begin` an
operation with, to upgrade, or to unwrap with) is the blob of a descriptor the
Access Gate granted the caller `use` on, the KM blob the Key Store held at the
transaction's start for a key the transaction loaded with `use` granted to its
caller, or a blob KeyMint handed out during the transaction. -/
theorem dispatch_keyMint_uses_granted (self : KeystoreSecurityLevel) (rq : Request) {w w' : World}
    {r : Except AnyhowError Response} (h : (dispatch env self rq).run w = some (r, w')) :
    ∀ ev ∈ w.eventsTo w', ∀ b, ev.call.kmKeyBlobIn? = some b →
      (∃ d, Granted w.callingSid .use d none (w.eventsTo w') ∧ d.blob = some b) ∨
      (∃ k, LoadedForUse w.callingSid (w.eventsTo w') k ∧ w.store.kmBlob k = some b) ∨
      KmHanded (w.eventsTo w') b := by
  intro ev hev b hb
  -- a stored blob the transaction wrote itself, KeyMint handed out
  exact ((dispatch_usesFrom env self rq h ev hev b hb).resolve_left id).resolve
    fun ev' hev' b' he => (dispatch_kmBlobs_handed env self rq h ev' hev' b' he).resolve_left id

/-- An app begins an operation on key id 1, whose stored blob `[7]` KeyMint asks
to upgrade and upgrades to `[8]`: KeyMint is handed `[7]` and then `[8]`, the
stored blob of a key loaded for use and the blob KeyMint handed out. -/
theorem dispatch_keyMint_uses_granted_upgraded :
    ∃ r w', (dispatch (staleBlobEnv [7] [8]) ⟨⟨1⟩⟩ (.createOperation ⟨Domain.keyId, 1, none, none⟩
        [⟨Tag.purpose, false, 2, 0, 0, []⟩] false)).run (World.start oneKeyStore) = some (r, w') ∧
      Call.begin ⟨2⟩ [7] [⟨Tag.purpose, false, 2, 0, 0, []⟩] ∈
        ((World.start oneKeyStore).eventsTo w').map Event.call ∧
      Call.begin ⟨2⟩ [8] [⟨Tag.purpose, false, 2, 0, 0, []⟩] ∈
        ((World.start oneKeyStore).eventsTo w').map Event.call ∧
      ∀ ev ∈ (World.start oneKeyStore).eventsTo w', ∀ b, ev.call.kmKeyBlobIn? = some b →
        (∃ d, Granted (World.start oneKeyStore).callingSid .use d none
          ((World.start oneKeyStore).eventsTo w') ∧ d.blob = some b) ∨
        (∃ k, LoadedForUse (World.start oneKeyStore).callingSid
          ((World.start oneKeyStore).eventsTo w') k ∧ oneKeyStore.kmBlob k = some b) ∨
        KmHanded ((World.start oneKeyStore).eventsTo w') b := by
  obtain ⟨⟨r, w'⟩, h⟩ : ∃ p, (dispatch (staleBlobEnv [7] [8]) ⟨⟨1⟩⟩
      (.createOperation ⟨Domain.keyId, 1, none, none⟩ [⟨Tag.purpose, false, 2, 0, 0, []⟩]
        false)).run (World.start oneKeyStore) = some p := ⟨_, rfl⟩
  refine ⟨r, w', h, ?_, ?_, dispatch_keyMint_uses_granted (staleBlobEnv [7] [8]) ⟨⟨1⟩⟩ _ h⟩ <;>
    cases h <;> decide

/-- **Uses of KeyMint over every run.** Whatever the transactions, their
callers and the collaborators' answers, every key blob a run of the service
hands KeyMint to use is handed over by a transaction `(c, rq)` of the run whose
own events contain the call, and it is: the blob of a descriptor the Access Gate
granted `use` on to `c` in that transaction, the KM blob the Key Store held at
the transaction's start for a key the transaction loaded with `use` granted to
`c`, or a blob KeyMint handed out in that transaction. -/
theorem serve_keyMint_uses_granted (self : KeystoreSecurityLevel) {txs : List (Caller × Request)}
    {w w' : World} {rs : List (Except AnyhowError Response)}
    (h : serve env self txs w = some (rs, w')) :
    ∀ ev ∈ w.eventsTo w', ∀ b, ev.call.kmKeyBlobIn? = some b →
      ∃ c rq v v', TxOf env self txs w w' c rq v v' ∧ ev ∈ v.eventsTo v' ∧
        ((∃ d, Granted c.sid .use d none (v.eventsTo v') ∧ d.blob = some b) ∨
          (∃ k, LoadedForUse c.sid (v.eventsTo v') k ∧ v.store.kmBlob k = some b) ∨
          KmHanded (v.eventsTo v') b) := by
  intro ev hev b hb
  obtain ⟨c, rq, v, v', ht, hm⟩ := serve_event_tx h ev hev
  obtain ⟨_, hr⟩ := ht.run
  exact ⟨c, rq, v, v', ht, hm, dispatch_keyMint_uses_granted env self rq hr ev hm b hb⟩

/-- The app with uid 10002 begins an operation on key id 1, whose stored blob
KeyMint upgrades: the run hands KeyMint `[7]` and `[8]`, each accounted for in
the transaction that handed it over. -/
theorem serve_keyMint_uses_granted_useKey :
    ∃ rs w', serve (staleBlobEnv [7] [8]) ⟨⟨1⟩⟩ useKeyTxs (World.start oneKeyStore) =
        some (rs, w') ∧
      Call.begin ⟨2⟩ [8] [⟨Tag.purpose, false, 2, 0, 0, []⟩] ∈
        ((World.start oneKeyStore).eventsTo w').map Event.call ∧
      ∀ ev ∈ (World.start oneKeyStore).eventsTo w', ∀ b, ev.call.kmKeyBlobIn? = some b →
        ∃ c rq v v', TxOf (staleBlobEnv [7] [8]) ⟨⟨1⟩⟩ useKeyTxs (World.start oneKeyStore) w'
            c rq v v' ∧ ev ∈ v.eventsTo v' ∧
          ((∃ d, Granted c.sid .use d none (v.eventsTo v') ∧ d.blob = some b) ∨
            (∃ k, LoadedForUse c.sid (v.eventsTo v') k ∧ v.store.kmBlob k = some b) ∨
            KmHanded (v.eventsTo v') b) := by
  obtain ⟨⟨rs, w'⟩, h⟩ : ∃ p, serve (staleBlobEnv [7] [8]) ⟨⟨1⟩⟩ useKeyTxs
      (World.start oneKeyStore) = some p := ⟨_, rfl⟩
  refine ⟨rs, w', h, ?_, serve_keyMint_uses_granted (staleBlobEnv [7] [8]) ⟨⟨1⟩⟩ h⟩
  cases h
  decide

end Keystore2

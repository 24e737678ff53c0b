import Keystore2.StoreIntegrity

/-!
# Keystore2 — the key ids a run of the service hands back

`generate_key`, `import_key` and `import_wrapped_key` answer a key stored in
the Key Store with a `KEY_ID` descriptor: the key id `create_key_entry` handed
out in that transaction. Over a whole run of the service, whoever calls and
whatever the collaborators answer, these key ids are new (the Key Store had not
handed them out before the run), no two answers share one, and each still
names, at the end of the run, the key entry in the domain and namespace of its
request, after the `APP` rewrite to the caller's uid.

Each answer is also the key KeyMint handed out in its transaction, as
`store_new_key` reports it: the service's level, the certificate chain split,
the converted characteristics, and the blob itself or the key id that holds it.

The handlers are read through one fact each (`Svc.StoresLast`): a successful
run ends with a successful `store_new_key` of the rewritten descriptor. The
entry then stays by `StoreIntegrity`.

## Results

* `dispatch_newKeyId` — one transaction: the key id is fresh in it, and names
  the request's key entry.
* `KeyStore.SameButKmBlobs` — two Key Stores that differ in KM blobs at most.
* `dispatch_answers_keyMint_key` — one transaction: the key metadata it answers
  is made of KeyMint's answer in it.
* `dispatch_stores_keyMint_key` — one transaction: it stored KeyMint's key, as
  `StoreNewKeyPost` says, after changing no more than KM blobs.
* `serve_new_key_ids` — every run: the key ids are fresh, pairwise distinct,
  and name their requests' key entries at the end of the run.
-/

namespace Keystore2

open KeystoreSecurityLevel

variable (env : Env)

/-- The descriptor a request names as its key. -/
def Request.key : Request → KeyDescriptor
  | .createOperation key .. | .generateKey key .. | .importKey key .. |
    .importWrappedKey key .. => key

/-- The domain and namespace a request of the caller `uid` stores its key in:
those of its descriptor, with the `APP` namespace rewritten to `uid`. -/
def Request.storedAs (rq : Request) (uid : UInt32) : Domain × Int :=
  ((rewriteAppDomain rq.key uid).domain, (rewriteAppDomain rq.key uid).nspace)

/-- The key id an answer hands back for a key stored in the Key Store: the
namespace of a `KEY_ID` descriptor in key metadata. -/
def Response.newKeyId? : Except AnyhowError Response → Option Int
  | .ok (.keyMetadata md) => if md.key.domain = Domain.keyId then some md.key.nspace else none
  | _ => none

/-- `t` has the key entries, key parameters, aliases, next key id and blobs
other than KM blobs of `s`. -/
def KeyStore.SameButKmBlobs (s t : KeyStore) : Prop :=
  t.keyentry = s.keyentry ∧ t.keyparameter = s.keyparameter ∧ t.aliases = s.aliases ∧
    t.nextId = s.nextId ∧ ∀ id sc, sc ≠ SubComponentType.kmBlob → t.blobentry id sc = s.blobentry id sc

/-- Differing in KM blobs at most, as a store relation. -/
def sameButKmBlobsRel : StoreRel where
  rel := KeyStore.SameButKmBlobs
  refl _ := ⟨rfl, rfl, rfl, rfl, fun _ _ _ => rfl⟩
  trans := fun ⟨h1, h2, h3, h4, h5⟩ ⟨h1', h2', h3', h4', h5'⟩ =>
    ⟨h1'.trans h1, h2'.trans h2, h3'.trans h3, h4'.trans h4,
      fun id sc hsc => (h5' id sc hsc).trans (h5 id sc hsc)⟩
  kmBlob _ _ _ _ := ⟨rfl, rfl, rfl, rfl, fun _ _ hsc => by simp [KeyStore.apply, hsc]⟩

section StoresLast

variable {env} {self : KeystoreSecurityLevel}

/-- The key id a handler that stores last hands back: fresh in its run, and
naming the key entry of the stored descriptor's domain and namespace. -/
theorem Svc.StoresLast.newKey {key : UInt32 → KeyDescriptor} {x : Svc AnyhowError KeyMetadata}
    (hx : Svc.StoresLast env self key x) {w w' : World} {md : KeyMetadata}
    (h : x.run w = some (.ok md, w')) (hid : md.key.domain = Domain.keyId) :
    w.store.nextId ≤ md.key.nspace ∧ md.key.nspace < w'.store.nextId ∧
      w'.store.keyentry md.key.nspace =
        some ((key w.callingUid).domain, (key w.callingUid).nspace) := by
  obtain ⟨w1, hf, -, ⟨e, he, -⟩ | ⟨kc, chain, blob, r1, g, -, hs, hr⟩⟩ := hx h
  · cases he
  obtain rfl : r1 = .ok md := by cases r1 <;> cases hr; rfl
  obtain ⟨k, rfl, hb, hn⟩ := storeNewKey_ok env self _ kc chain blob hs
  by_cases hd : (key w.callingUid).domain = Domain.blob
  · rw [(hb hd).2] at hid
    exact absurd hid (by decide : Domain.blob ≠ Domain.keyId)
  obtain ⟨a, ha, rfl, -, hst⟩ := hn hd
  rw [hst]
  refine ⟨hf.nextId_le, ?_, (foldl_storePlan w1.store _ a ha _ _ _ blob _).1⟩
  rw [storePlan_eq, List.foldl_cons]
  exact Int.lt_of_lt_of_le (Int.lt_succ _) (KeyStore.nextId_le_foldl _ _)

/-- What a handler that stores last answers: the key KeyMint handed out in its
run, as `store_new_key` reports it, around either the blob itself or the key id
the Key Store now holds the blob under. -/
theorem Svc.StoresLast.answers {key : UInt32 → KeyDescriptor} {x : Svc AnyhowError KeyMetadata}
    (hx : Svc.StoresLast env self key x) {w w' : World} {md : KeyMetadata}
    (h : x.run w = some (.ok md, w')) :
    ∃ ev ∈ w.eventsTo w', ∃ blob kc chain, ev.newKeyOut? = some (blob, kc, chain) ∧
      md.keySecurityLevel = self.securityLevel ∧
      md.certificate = (splitCertChain chain).1 ∧ md.certificateChain = (splitCertChain chain).2 ∧
      md.authorizations = keyParametersToAuthorizations env.intoAuthorization
        (keyCharacteristicsToInternal env.convertFromWire kc self.securityLevel) ∧
      (md.key = ⟨Domain.blob, 0, none, some blob⟩ ∨
        md.key.domain = Domain.keyId ∧ w'.store.kmBlob md.key.nspace = some blob) := by
  obtain ⟨w1, hf, -, ⟨e, he, -⟩ | ⟨kc, chain, blob, r1, g, ⟨ev, hev, hout⟩, hs, hr⟩⟩ := hx h
  · cases he
  obtain rfl : r1 = .ok md := by cases r1 <;> cases hr; rfl
  obtain ⟨k, rfl, hb, hn⟩ := storeNewKey_ok env self _ kc chain blob hs
  refine ⟨ev, ?_, blob, kc, chain, hout, rfl, rfl, rfl, rfl, ?_⟩
  · rw [World.eventsTo_trans hf (Svc.follows _ hs)]
    exact List.mem_append_left _ hev
  by_cases hd : (key w.callingUid).domain = Domain.blob
  · exact .inl (hb hd).2
  obtain ⟨a, ha, rfl, -, hst⟩ := hn hd
  refine .inr ⟨rfl, ?_⟩
  rw [hst]
  simp [KeyStore.kmBlob, (foldl_storePlan w1.store _ a ha _ _ _ blob _).2.1]

/-- What a handler that stores last leaves in the Key Store: up to the world
`w1` where `store_new_key` starts, no more than KM blobs changed; from `w1`,
`store_new_key` stored a key KeyMint handed out before `w1` under the
descriptor `key` gives for the caller. -/
theorem Svc.StoresLast.stores {key : UInt32 → KeyDescriptor} {x : Svc AnyhowError KeyMetadata}
    (hx : Svc.StoresLast env self key x) {w w' : World} {md : KeyMetadata}
    (h : x.run w = some (.ok md, w')) :
    ∃ w1 blob kc chain, w.Follows w1 ∧ w.store.SameButKmBlobs w1.store ∧
      (∃ ev ∈ w.eventsTo w1, ev.newKeyOut? = some (blob, kc, chain)) ∧
      StoreNewKeyPost env self (key w.callingUid) kc chain blob w1 w' md := by
  obtain ⟨w1, hf, hev, ⟨e, he, -⟩ | ⟨kc, chain, blob, r1, g, hout, hs, hr⟩⟩ := hx h
  · cases he
  obtain rfl : r1 = .ok md := by cases r1 <;> cases hr; rfl
  refine ⟨w1, blob, kc, chain, hf, ?_, hout, storeNewKey_ok_store env self _ kc chain blob hs⟩
  rw [hf.store_eq]
  exact sameButKmBlobsRel.rel_applyWrites _ hev

/-- A handler's key metadata, as the answer of its transaction. -/
theorem Svc.run_of_keyMetadata {x : Svc AnyhowError KeyMetadata} {w w' : World}
    {md : KeyMetadata}
    (h : (x >>= fun md => pure (Response.keyMetadata md)).run w =
      some (.ok (.keyMetadata md), w')) :
    x.run w = some (.ok md, w') := by
  rcases Svc.bind_eq_some h with ⟨_, _, h1, h2⟩ | ⟨e, -, he⟩
  · cases h2
    exact h1
  · cases he

end StoresLast

section Handlers

variable (self : KeystoreSecurityLevel)

/-- **One transaction.** A key id an answer hands back was handed out by the
Key Store during the transaction, and names the key entry of the request's
domain and namespace, rewritten for the caller. -/
theorem dispatch_newKeyId (rq : Request) {w w' : World} {r : Except AnyhowError Response}
    (h : (dispatch env self rq).run w = some (r, w')) {id : Int}
    (hid : Response.newKeyId? r = some id) :
    w.store.nextId ≤ id ∧ id < w'.store.nextId ∧
      w'.store.keyentry id = some (rq.storedAs w.callingUid) := by
  have hk : ∀ {x : Svc AnyhowError KeyMetadata} {key : KeyDescriptor},
      Svc.StoresLast env self (rewriteAppDomain key) x →
      (x >>= fun md => pure (Response.keyMetadata md)).run w = some (r, w') →
      w.store.nextId ≤ id ∧ id < w'.store.nextId ∧ w'.store.keyentry id =
        some ((rewriteAppDomain key w.callingUid).domain, (rewriteAppDomain key w.callingUid).nspace) := by
    intro x key hx h
    rcases Svc.bind_eq_some h with ⟨md, w1, h1, h2⟩ | ⟨e, -, rfl⟩
    · cases h2
      simp only [Response.newKeyId?] at hid
      split at hid
      · next hd =>
        cases hid
        exact hx.newKey h1 hd
      · cases hid
    · cases hid
  cases rq with
  | createOperation =>
    rcases Svc.bind_eq_some h with ⟨_, _, -, h2⟩ | ⟨e, -, rfl⟩
    · cases h2
      cases hid
    · cases hid
  | generateKey => exact hk (generateKey_storesLast env self _ _ _ _ _) h
  | importKey => exact hk (importKey_storesLast env self _ _ _ _ _) h
  | importWrappedKey => exact hk (importWrappedKey_storesLast env self _ _ _ _ _) h

/-- **What a key creation answers.** Whatever the method, its arguments, the
caller, the Key Store and the collaborators' answers, a transaction that answers
with key metadata answers with a key KeyMint handed out in that transaction, the
result of its `generateKey`, `importKey` or `importWrappedKey` call: under the
service's security level, with the certificate and the chain split off KeyMint's
certificate chain (none for a wrapped key), with the authorizations of KeyMint's
characteristics as `key_characteristics_to_internal` converts them, and with a
descriptor that hands KeyMint's blob back (`Domain::BLOB`) or names the key id
under which the Key Store now holds that blob. Nothing of the answer comes from
the request but the choice of domain. -/
theorem dispatch_answers_keyMint_key (rq : Request) {w w' : World} {md : KeyMetadata}
    (h : (dispatch env self rq).run w = some (.ok (.keyMetadata md), w')) :
    ∃ ev ∈ w.eventsTo w', ∃ blob kc chain, ev.newKeyOut? = some (blob, kc, chain) ∧
      md.keySecurityLevel = self.securityLevel ∧
      md.certificate = (splitCertChain chain).1 ∧ md.certificateChain = (splitCertChain chain).2 ∧
      md.authorizations = keyParametersToAuthorizations env.intoAuthorization
        (keyCharacteristicsToInternal env.convertFromWire kc self.securityLevel) ∧
      (md.key = ⟨Domain.blob, 0, none, some blob⟩ ∨
        md.key.domain = Domain.keyId ∧ w'.store.kmBlob md.key.nspace = some blob) := by
  cases rq with
  | createOperation =>
    rcases Svc.bind_eq_some h with ⟨_, _, -, h2⟩ | ⟨e, -, he⟩
    · cases h2
    · cases he
  | generateKey => exact (generateKey_storesLast env self _ _ _ _ _).answers (Svc.run_of_keyMetadata h)
  | importKey => exact (importKey_storesLast env self _ _ _ _ _).answers (Svc.run_of_keyMetadata h)
  | importWrappedKey =>
    exact (importWrappedKey_storesLast env self _ _ _ _ _).answers (Svc.run_of_keyMetadata h)

/-- An app generates a key: KeyMint's blob `[7]` is stored under the new key id
`1`, which the answer names, with no certificate. -/
theorem dispatch_answers_keyMint_key_generate :
    ∃ md w', (dispatch (staleBlobEnv [] []) ⟨⟨1⟩⟩
        (.generateKey ⟨Domain.app, 0, some "k", none⟩ none [] 0 [])).run (World.start .empty) =
        some (.ok (.keyMetadata md), w') ∧
      md.key = ⟨Domain.keyId, 1, none, none⟩ ∧ md.certificate = none ∧
      ∃ ev ∈ (World.start .empty).eventsTo w', ∃ blob kc chain,
        ev.newKeyOut? = some (blob, kc, chain) ∧
        md.keySecurityLevel = (⟨⟨1⟩⟩ : KeystoreSecurityLevel).securityLevel ∧
        md.certificate = (splitCertChain chain).1 ∧ md.certificateChain = (splitCertChain chain).2 ∧
        md.authorizations = keyParametersToAuthorizations (staleBlobEnv [] []).intoAuthorization
          (keyCharacteristicsToInternal (staleBlobEnv [] []).convertFromWire kc ⟨1⟩) ∧
        (md.key = ⟨Domain.blob, 0, none, some blob⟩ ∨
          md.key.domain = Domain.keyId ∧ w'.store.kmBlob md.key.nspace = some blob) := by
  obtain ⟨⟨r, w'⟩, h⟩ : ∃ p, (dispatch (staleBlobEnv [] []) ⟨⟨1⟩⟩
      (.generateKey ⟨Domain.app, 0, some "k", none⟩ none [] 0 [])).run (World.start .empty) =
      some p := ⟨_, rfl⟩
  obtain ⟨md, rfl⟩ : ∃ md, r = .ok (.keyMetadata md) := by
    cases h
    exact ⟨_, rfl⟩
  refine ⟨md, w', h, ?_, ?_, dispatch_answers_keyMint_key (staleBlobEnv [] []) ⟨⟨1⟩⟩ _ h⟩ <;>
    cases h <;> rfl

end Handlers

/-- **The key ids of a run.** Whatever the transactions, their callers and the
collaborators' answers, the key ids the answers of a run of the service hand
back are pairwise distinct, none was handed out before the run, and at the end
of the run each names the key entry in the domain and namespace of the request
that got it, with an `APP` namespace rewritten to that request's caller. -/
theorem serve_new_key_ids (self : KeystoreSecurityLevel) :
    ∀ {txs : List (Caller × Request)} {w w' : World} {rs : List (Except AnyhowError Response)},
      serve env self txs w = some (rs, w') →
      (rs.filterMap Response.newKeyId?).Nodup ∧
        (∀ id ∈ rs.filterMap Response.newKeyId?, w.store.nextId ≤ id) ∧
        ∀ p ∈ txs.zip rs, ∀ id, Response.newKeyId? p.2 = some id →
          w'.store.keyentry id = some (p.1.2.storedAs p.1.1.uid)
  | [], _, _, _, h => by cases h; simp
  | (c, rq) :: txs, w, w', rs, h => by
    obtain ⟨r, w1, rs', h1, h2, rfl⟩ := serve_cons h
    obtain ⟨hnd, hfresh, hentry⟩ := serve_new_key_ids self h2
    have hle : w.store.nextId ≤ w1.store.nextId := (Svc.follows _ h1).nextId_le
    have hkeep := serve_preserves env self (R := keepsKeysRel) (storeNewKey_keepsKeys env self) h2
    -- the key id of the first answer: below every later one, and its entry stays
    have hfirst : ∀ id, Response.newKeyId? r = some id → w.store.nextId ≤ id ∧
        id < w1.store.nextId ∧ w'.store.keyentry id = some (rq.storedAs c.uid) := by
      intro id hid
      obtain ⟨h0, hlt, he⟩ := dispatch_newKeyId env self rq h1 hid
      exact ⟨h0, hlt, (hkeep.2 id hlt).1.trans he⟩
    rw [List.filterMap_cons]
    refine ⟨?_, ?_, ?_⟩
    · cases hr : Response.newKeyId? r with
      | none => exact hnd
      | some id =>
        exact List.nodup_cons.mpr ⟨fun hm => absurd (hfresh id hm)
          (Int.not_le.mpr (hfirst id hr).2.1), hnd⟩
    · intro id hm
      cases hr : Response.newKeyId? r with
      | none => rw [hr] at hm; exact Int.le_trans hle (hfresh id hm)
      | some id' =>
        rw [hr] at hm
        rcases List.mem_cons.mp hm with rfl | hm
        exacts [(hfirst _ hr).1, Int.le_trans hle (hfresh id hm)]
    · rintro ⟨⟨c', rq'⟩, r'⟩ hp id hid
      rcases List.mem_cons.mp hp with he | hp
      · cases he
        exact (hfirst id hid).2.2
      · exact hentry _ hp id hid

/-- The two transactions of `twoAppsTxs` from the empty Key Store: the new key
gets the key id 1, in the namespace of the app with uid 10001. -/
theorem serve_new_key_ids_two_apps :
    ∃ rs w', serve (staleBlobEnv [] []) ⟨⟨1⟩⟩ twoAppsTxs (World.start .empty) = some (rs, w') ∧
      rs.filterMap Response.newKeyId? = [1] ∧
      ((rs.filterMap Response.newKeyId?).Nodup ∧
        (∀ id ∈ rs.filterMap Response.newKeyId?, (World.start .empty).store.nextId ≤ id) ∧
        ∀ p ∈ twoAppsTxs.zip rs, ∀ id, Response.newKeyId? p.2 = some id →
          w'.store.keyentry id = some (p.1.2.storedAs p.1.1.uid)) := by
  obtain ⟨⟨rs, w'⟩, h⟩ : ∃ p, serve (staleBlobEnv [] []) ⟨⟨1⟩⟩ twoAppsTxs
      (World.start .empty) = some p := ⟨_, rfl⟩
  refine ⟨rs, w', h, ?_, serve_new_key_ids (staleBlobEnv [] []) ⟨⟨1⟩⟩ h⟩
  cases h
  rfl

end Keystore2

import Keystore2.Binder
import Keystore2.HandlerCalls
import Keystore2.Mediation
import Keystore2.Vouched

/-!
# Keystore2 — the Key Store over whole runs of the service

What every run of `serve` does to the Key Store, whoever calls and whatever the
Access Gate, KeyMint and the Key Store answer. Three facts, each established by
every transaction and so by every run:

* every alias names a key entry of its own domain and namespace
  (`KeyStore.AliasesSound`): `store_new_key` binds an alias only to the key id
  `create_key_entry` has just handed out for that domain and namespace;
* a key id handed out before the run keeps its entry, its parameters, its
  certificate and its certificate chain (`KeyStore.KeepsKeys`): `store_new_key`
  writes those only at the new key id, and the upgrade protocol writes only KM
  blobs;
* the keys of an app, the `Domain::APP` namespace of its uid, change in their
  alias bindings and their key entries only in transactions of that app: the
  handlers rewrite an `APP` descriptor's namespace to the caller's uid before
  they name it to the Key Store.

The first two are relations between Key Stores (`StoreRel`) that a transaction
establishes as soon as `store_new_key` and a KM blob write do; one walk of each
handler (`dispatch_preserves`) serves both.

## Results

* `Svc.StoresLast` — a handler ends with `store_new_key` of a key KeyMint
  handed out, after writing no more than KM blobs; `keyCreation_storesLast` for
  the shape of the three key creations.
* `dispatch_preserves`, `serve_preserves` — a transaction, and so a run, of any
  method establishes every `StoreRel` that `store_new_key` establishes.
* `serve_keeps_aliasesSound` — every run keeps the aliases sound.
* `serve_keeps_existing_keys` — every run keeps the keys handed out before it.
* `serve_app_namespace_frame` — a run with no transaction of uid `n` leaves the
  `APP` namespace `n` as it was.
-/

namespace Keystore2

open KeystoreSecurityLevel

variable (env : Env)

/-- A relation between Key Stores, reflexive and transitive, that every write a
call of `P` makes establishes, holds across the writes logged in events whose
calls are all of `P`. -/
theorem applyWrites_rel {R : KeyStore → KeyStore → Prop} (hrefl : ∀ s, R s s)
    (htrans : ∀ {s₁ s₂ s₃}, R s₁ s₂ → R s₂ s₃ → R s₁ s₃) {P : Call → Prop}
    (hstep : ∀ s wr, P (.db wr) → R s (s.apply wr)) :
    ∀ {evs : List Event} (s : KeyStore), (∀ ev ∈ evs, P ev.call) → R s (applyWrites s evs)
  | [], s, _ => hrefl s
  | ev :: evs, s, h => by
    rw [applyWrites_cons]
    refine htrans ?_ (applyWrites_rel hrefl htrans hstep _ fun ev' h' =>
      h ev' (List.mem_cons_of_mem _ h'))
    cases hw : ev.write? with
    | none => exact hrefl s
    | some wr =>
      have hc := h ev (List.mem_cons_self _ _)
      rw [Event.call_eq_of_write? hw] at hc
      exact hstep s wr hc

-- ---------------------------------------------------------------------------
-- Relations a transaction establishes
-- ---------------------------------------------------------------------------

/-- Whether a call writes the Key Store other than a key's KM blob. -/
def Call.writesBeyondKmBlob : Call → Bool
  | .db (.insertBlob _ .kmBlob _ _) => false
  | .db _ => true
  | _ => false

/-- A relation between the Key Store before a computation and the one after:
it holds across nothing and across two computations one after another, and a
write of a KM blob (the upgrade protocol's only write) establishes it. -/
structure StoreRel where
  rel : KeyStore → KeyStore → Prop
  refl : ∀ s, rel s s
  trans : ∀ {s₁ s₂ s₃}, rel s₁ s₂ → rel s₂ s₃ → rel s₁ s₃
  kmBlob : ∀ s id b l, rel s (s.apply (.insertBlob id .kmBlob b l))

theorem StoreRel.rel_applyWrites (R : StoreRel) {evs : List Event} (s : KeyStore)
    (h : ∀ ev ∈ evs, ev.call.writesBeyondKmBlob = false) : R.rel s (applyWrites s evs) := by
  refine applyWrites_rel (P := fun c => c.writesBeyondKmBlob = false) R.refl R.trans
    (fun s wr hw => ?_) s h
  cases wr with
  | insertBlob id sc b l => cases sc <;> first | exact R.kmBlob s id b l | cases hw
  | _ => cases hw

namespace Svc

variable {ε ε' α β : Type}

/-- Every stopping run of `x` relates the Key Store it starts with to the one
it ends with by `R`. -/
def Preserves (R : StoreRel) (x : Svc ε α) : Prop :=
  ∀ ⦃w r w'⦄, x.run w = some (r, w') → R.rel w.store w'.store

theorem preserves_of_onlyCalls {R : StoreRel} {x : Svc ε α}
    (hx : OnlyCalls (fun c => c.writesBeyondKmBlob = false) x) : Preserves R x := by
  intro w r w' h
  rw [(x.follows h).store_eq]
  exact R.rel_applyWrites _ (hx h)

theorem preserves_bind {R : StoreRel} {x : Svc ε α} {f : α → Svc ε β} (hx : Preserves R x)
    (hf : ∀ a, Preserves R (f a)) : Preserves R (x >>= f) := by
  intro w r w' h
  rcases bind_eq_some h with ⟨a, w1, h1, h2⟩ | ⟨e, h1, -⟩
  exacts [R.trans (hx h1) (hf a h2), hx h1]

/-- A step that writes no more than KM blobs, then the rest. -/
theorem preserves_bind_of_onlyCalls {R : StoreRel} {x : Svc ε α} {f : α → Svc ε β}
    (hx : OnlyCalls (fun c => c.writesBeyondKmBlob = false) x) (hf : ∀ a, Preserves R (f a)) :
    Preserves R (x >>= f) :=
  preserves_bind (preserves_of_onlyCalls hx) hf

theorem preserves_mapError {R : StoreRel} {x : Svc ε α} (g : ε → ε') (hx : Preserves R x) :
    Preserves R (x.mapError g) := by
  intro w r w' h
  obtain ⟨r', h', -⟩ := mapError_eq_some h
  exact hx h'

end Svc

section Handlers

variable (self : KeystoreSecurityLevel)

/-- `create_operation` writes nothing but the upgraded KM blob. -/
theorem createOperation_onlyKmBlobWrites (key : KeyDescriptor) (params : List KmKeyParameter)
    (forced : Bool) : Svc.OnlyCalls (fun c => c.writesBeyondKmBlob = false)
      (createOperation env self key params forced) :=
  Svc.OnlyCallsOf.onlyCalls fun uid => createOperation_onlyCallsOf env self uid key params forced
    (fun _ _ _ _ => rfl) rfl rfl (fun _ _ => rfl) rfl (fun _ => rfl) (fun _ _ => rfl) (fun _ => rfl)
    fun _ => rfl

/-- The key KeyMint hands out in an event, as `store_new_key` takes it: the key
blob, characteristics and certificate chain of a successful `generateKey` or
`importKey`, or the key blob and characteristics of a successful
`importWrappedKey`, which has no certificate chain. -/
def Event.newKeyOut? : Event → Option (Blob × KeyCharacteristics × Option (List KmCertificate))
  | ⟨.generateKey _, r⟩ => (r : Except Error (Blob × KeyCharacteristics × List KmCertificate)).toOption.map
      fun (b, kc, chain) => (b, kc, some chain)
  | ⟨.importKey .., r⟩ => (r : Except Error (Blob × KeyCharacteristics × List KmCertificate)).toOption.map
      fun (b, kc, chain) => (b, kc, some chain)
  | ⟨.importWrappedKey .., r⟩ => (r : Except Error (Blob × KeyCharacteristics)).toOption.map
      fun (b, kc) => (b, kc, none)
  | _ => none

/-- A new key is vouched for when KeyMint handed it out during the run. -/
def keyMintAnswered : Voucher (Blob × KeyCharacteristics × Option (List KmCertificate)) where
  holds _ l k := ∃ ev ∈ l, ev.newKeyOut? = some k
  mono _ hl := fun ⟨ev, hm, he⟩ => ⟨ev, hl ev (List.mem_append_right _ hm), he⟩

/-- Every stopping run of `x` from a world `w` writes no more than KM blobs up
to a world `w1`, and then either stops there with an error or runs
`store_new_key`, on a key KeyMint handed out up to `w1` and the descriptor `key`
gives for the caller's uid, to its end, answering as `store_new_key` does,
under a context. -/
def Svc.StoresLast (key : UInt32 → KeyDescriptor) (x : Svc AnyhowError KeyMetadata) : Prop :=
  ∀ ⦃w r w'⦄, x.run w = some (r, w') → ∃ w1, w.Follows w1 ∧
    (∀ ev ∈ w.eventsTo w1, ev.call.writesBeyondKmBlob = false) ∧
    ((∃ e, r = .error e ∧ w' = w1) ∨
      ∃ keyCharacteristics kmCertChain blob r1 g,
        keyMintAnswered.holds w (w.eventsTo w1) (blob, keyCharacteristics, kmCertChain) ∧
        (storeNewKey env self (key w.callingUid) keyCharacteristics kmCertChain blob).run w1 =
          some (r1, w') ∧ r = r1.mapError g)

variable {env} {self}

/-- A handler that stores last establishes what `store_new_key` does. -/
theorem Svc.StoresLast.preserves {R : StoreRel} {key : UInt32 → KeyDescriptor}
    {x : Svc AnyhowError KeyMetadata} (hx : Svc.StoresLast env self key x)
    (hstore : ∀ key keyCharacteristics kmCertChain blob, Svc.Preserves R
      (KeystoreSecurityLevel.storeNewKey env self key keyCharacteristics kmCertChain blob)) :
    Svc.Preserves R x := by
  intro w r w' h
  obtain ⟨w1, hf, hev, hend⟩ := hx h
  have h1 : R.rel w.store w1.store := by
    rw [hf.store_eq]
    exact R.rel_applyWrites _ hev
  rcases hend with ⟨-, -, rfl⟩ | ⟨_, _, _, _, -, -, hs, -⟩
  exacts [h1, R.trans h1 (hstore _ _ _ _ hs)]

variable (env) (self)

section Shape

variable {ρ : Type} {checks : Svc AnyhowError ρ} {keyOf : ρ → KeyDescriptor}
  {km : ρ → Svc AnyhowError (Blob × KeyCharacteristics × Option (List KmCertificate))}
  {msg : String}

/-- **The shape stores last**: its checks write no more than KM blobs and hand
on the descriptor `key` gives for the caller, and KeyMint's part writes no more
than KM blobs and returns a key KeyMint handed out. -/
theorem keyCreation_storesLast {key : UInt32 → KeyDescriptor}
    (hc : ∀ uid, Svc.OnlyCallsOf uid (fun c => c.writesBeyondKmBlob = false) checks)
    (hkey : ∀ ⦃w p w'⦄, checks.run w = some (.ok p, w') → keyOf p = key w.callingUid)
    (hkm : ∀ p, Svc.OnlyCalls (fun c => c.writesBeyondKmBlob = false) (km p))
    (hr : ∀ p, Svc.Returns keyMintAnswered some (km p)) :
    Svc.StoresLast env self key (keyCreation env self checks keyOf km msg) := by
  intro w r w' h
  obtain ⟨rc, w1, h1, hend⟩ := keyCreation_run env self h
  have hf1 := checks.follows h1
  rcases hend with ⟨e, rfl, rfl, rfl⟩ | ⟨p, rk, w2, rfl, h2, hend⟩
  · exact ⟨w', hf1, hc _ rfl h1, .inl ⟨e, rfl, rfl⟩⟩
  have hf2 := (km p).follows h2
  have hsplit := World.eventsTo_trans hf1 hf2
  refine ⟨w2, hf1.trans hf2, fun ev hm => ?_, ?_⟩
  · rcases List.mem_append.mp (hsplit ▸ hm) with hm | hm
    exacts [hc _ rfl h1 ev hm, hkm p h2 ev hm]
  rcases hend with ⟨e, rfl, rfl, rfl⟩ | ⟨blob, kc, chain, r3, rfl, h3, rfl⟩
  · exact .inl ⟨e, rfl, rfl⟩
  · refine .inr ⟨kc, chain, blob, r3, _, keyMintAnswered.mono hf1 (fun _ hm => hsplit ▸ hm)
      (hr p h2 _ rfl), ?_, rfl⟩
    rwa [← hkey h1]

end Shape

theorem generateKeyKm_returns (params : List KmKeyParameter) (entropy : Blob) :
    Svc.Returns keyMintAnswered some (generateKeyKm env params entropy) := by
  intro w _ w' h _ hb
  obtain ⟨_, _, _, rfl, hm⟩ := generateKeyKm_ok env h
  cases hb
  exact ⟨_, hm, rfl⟩

theorem importKeyKm_returns (params : List KmKeyParameter) (keyData : Blob) (format : KeyFormat) :
    Svc.Returns keyMintAnswered some (importKeyKm env params keyData format) := by
  intro w _ w' h _ hb
  obtain ⟨_, _, _, rfl, hm⟩ := importKeyKm_ok env h
  cases hb
  exact ⟨_, hm, rfl⟩

theorem importWrappedKeyKm_returns (params : List KmKeyParameter) (p : WrappedKeyImport) :
    Svc.Returns keyMintAnswered some (importWrappedKeyKm env self params p) := by
  intro w _ w' h _ hb
  obtain ⟨_, _, rfl, hm⟩ := importWrappedKeyKm_ok env self h
  cases hb
  exact ⟨_, hm, rfl⟩

theorem generateKey_storesLast (key : KeyDescriptor) (attestationKey : Option KeyDescriptor)
    (params : List KmKeyParameter) (flags : Int) (entropy : Blob) :
    Svc.StoresLast env self (rewriteAppDomain key)
      (generateKey env self key attestationKey params flags entropy) :=
  keyCreation_storesLast env self (fun uid => generateKeyChecks_calls env uid key (fun _ => rfl) rfl)
    (fun _ _ _ h => (generateKeyChecks_ok env h).1)
    (fun _ => generateKeyKm_calls env params entropy rfl rfl)
    fun _ => generateKeyKm_returns env params entropy

theorem importKey_storesLast (key : KeyDescriptor) (attestationKey : Option KeyDescriptor)
    (params : List KmKeyParameter) (flags : Int) (keyData : Blob) :
    Svc.StoresLast env self (rewriteAppDomain key)
      (importKey env self key attestationKey params flags keyData) :=
  keyCreation_storesLast env self (fun uid => importKeyChecks_calls env uid key params (fun _ => rfl) rfl)
    (fun _ _ _ h => (importKeyChecks_ok env h).1)
    (fun p => importKeyKm_calls env params keyData p.2 rfl)
    fun p => importKeyKm_returns env params keyData p.2

theorem importWrappedKey_storesLast (key wrappingKey : KeyDescriptor) (maskingKey : Option Blob)
    (params : List KmKeyParameter) (authenticators : List AuthenticatorSpec) :
    Svc.StoresLast env self (rewriteAppDomain key)
      (importWrappedKey env self key wrappingKey maskingKey params authenticators) :=
  keyCreation_storesLast env self (fun uid => importWrappedKeyChecks_calls env uid key wrappingKey maskingKey
      authenticators (fun _ => rfl) (fun _ _ _ => rfl) rfl rfl)
    (fun _ _ _ h => (importWrappedKeyChecks_ok env h).key_eq)
    (fun p => importWrappedKeyKm_calls env self params p rfl rfl fun _ => rfl)
    fun p => importWrappedKeyKm_returns env self params p

variable {R : StoreRel}

/-- **One transaction.** Every method establishes every relation between Key
Stores that `store_new_key` and a KM blob write establish. -/
theorem dispatch_preserves
    (hstore : ∀ key keyCharacteristics kmCertChain blob,
      Svc.Preserves R (storeNewKey env self key keyCharacteristics kmCertChain blob))
    (rq : Request) : Svc.Preserves R (dispatch env self rq) := by
  cases rq
  all_goals refine Svc.preserves_bind ?_ fun _ => Svc.preserves_of_onlyCalls (Svc.onlyCalls_pure _ _)
  exacts [Svc.preserves_of_onlyCalls (createOperation_onlyKmBlobWrites env self _ _ _),
    (generateKey_storesLast env self _ _ _ _ _).preserves hstore,
    (importKey_storesLast env self _ _ _ _ _).preserves hstore,
    (importWrappedKey_storesLast env self _ _ _ _ _).preserves hstore]

/-- **Every run.** -/
theorem serve_preserves
    (hstore : ∀ key keyCharacteristics kmCertChain blob,
      Svc.Preserves R (storeNewKey env self key keyCharacteristics kmCertChain blob))
    {txs : List (Caller × Request)} {w w' : World}
    {rs : List (Except AnyhowError Response)} (h : serve env self txs w = some (rs, w')) :
    R.rel w.store w'.store :=
  serve_rel (R := fun w w' => R.rel w.store w'.store) (fun _ => R.refl _) R.trans
    (fun _ rq _ _ _ _ h1 => by have := dispatch_preserves env self hstore rq h1; exact this) h

end Handlers

-- ---------------------------------------------------------------------------
-- The Key Store after `store_new_key`
-- ---------------------------------------------------------------------------

/-- The Key Store after a stopping run of `store_new_key`: that of a prefix of
its plan at the store's next free key id, and for a `BLOB` key the one before. -/
theorem storeNewKey_store (self : KeystoreSecurityLevel) (key : KeyDescriptor)
    (keyCharacteristics : KeyCharacteristics) (kmCertChain : Option (List KmCertificate))
    (blob : Blob) {w w' : World} {r : Except AnyhowError KeyMetadata}
    (h : (storeNewKey env self key keyCharacteristics kmCertChain blob).run w = some (r, w')) :
    ∃ pre, pre <+: storePlan key w.store.nextId
        (keyCharacteristicsToInternal env.convertFromWire keyCharacteristics self.securityLevel)
        (splitCertChain kmCertChain).1 (splitCertChain kmCertChain).2 blob self.securityLevel ∧
      w'.store = pre.foldl KeyStore.apply w.store := by
  obtain ⟨r', hb, hn, -⟩ := storeNewKey_run env self key keyCharacteristics kmCertChain blob h
  by_cases hd : key.domain = Domain.blob
  · exact ⟨[], List.nil_prefix, by simp [(hb hd).2]⟩
  have h1 := hn hd
  rw [(Svc.follows _ h1).store_eq]
  rcases storeNewKeyInDb_log env self key _ _ _ blob w h1 with
    ⟨hev, -⟩ | ⟨e, pre, wr, rest, ew, -, hws, hev⟩
  · exact ⟨_, List.prefix_refl _, by rw [hev, applyWrites_acceptedWrites]⟩
  · refine ⟨pre, ⟨wr :: rest, hws.symm⟩, ?_⟩
    rw [hev, applyWrites_append, applyWrites_acceptedWrites]
    rfl

-- ---------------------------------------------------------------------------
-- Every alias names a key entry
-- ---------------------------------------------------------------------------

/-- Every alias names a key entry, and one of the alias's own domain and
namespace. -/
def KeyStore.AliasesSound (s : KeyStore) : Prop :=
  ∀ d n a id, s.aliases d n a = some id → s.keyentry id = some (d, n)

theorem KeyStore.aliasesSound_empty : KeyStore.empty.AliasesSound :=
  fun _ _ _ _ h => by cases h

theorem KeyStore.keyentry_apply {s : KeyStore} {wr : DbWrite}
    (h : ∀ d n, wr ≠ .createKeyEntry d n) : (s.apply wr).keyentry = s.keyentry := by
  cases wr with
  | createKeyEntry d n => exact absurd rfl (h d n)
  | _ => rfl

/-- One write keeps the aliases sound when the alias it binds, if it binds one,
names a key entry of the binding's domain and namespace. -/
theorem KeyStore.AliasesSound.apply {s : KeyStore} (hs : s.AliasesSound) {wr : DbWrite}
    (hw : ∀ id a d n, wr = .rebindAlias id a d n → s.keyentry id = some (d, n)) :
    (s.apply wr).AliasesSound := by
  intro d n a id h
  cases wr with
  | createKeyEntry d' n' =>
    have hk := hs d n a id h
    have hne : id ≠ s.nextId := fun he => by rw [he, s.keyentry_nextId] at hk; cases hk
    simp [KeyStore.apply, hne, hk]
  | rebindAlias id' a' d' n' =>
    simp only [KeyStore.apply, KeyStore.rebindAlias_aliases] at h
    split at h
    · next hm =>
      obtain ⟨rfl, rfl, rfl⟩ := hm
      cases h
      exact hw _ _ _ _ rfl
    · exact hs d n a id h
  | insertBlob | insertKeyparameter => exact hs d n a id h

/-- Writes that make no key entry and bind aliases only to key entries of the
binding's domain and namespace keep the aliases sound. -/
theorem KeyStore.AliasesSound.foldl {s : KeyStore} (hs : s.AliasesSound) {ws : List DbWrite}
    (hws : ∀ wr ∈ ws, (∀ d n, wr ≠ .createKeyEntry d n) ∧
      ∀ id a d n, wr = .rebindAlias id a d n → s.keyentry id = some (d, n)) :
    (ws.foldl KeyStore.apply s).AliasesSound := by
  induction ws generalizing s with
  | nil => exact hs
  | cons wr ws ih =>
    obtain ⟨hc, hr⟩ := hws wr (List.mem_cons_self _ _)
    refine ih (hs.apply hr) fun wr' h' => ?_
    rw [KeyStore.keyentry_apply hc]
    exact hws wr' (List.mem_cons_of_mem _ h')

/-- The writes of a prefix of `store_new_key`'s plan keep the aliases sound: the
alias binding comes after the key entry it names. -/
theorem KeyStore.AliasesSound.foldl_storePlan {s : KeyStore} (hs : s.AliasesSound)
    {key : KeyDescriptor} {keyParameters : List KeyParameter} {cert certChain : Option Blob}
    {blob : Blob} {secLevel : SecurityLevel} {pre : List DbWrite}
    (hpre : pre <+: storePlan key s.nextId keyParameters cert certChain blob secLevel) :
    (pre.foldl KeyStore.apply s).AliasesSound := by
  rw [storePlan_eq] at hpre
  rcases List.prefix_cons_iff.mp hpre with rfl | ⟨pre', rfl, hpre'⟩
  · exact hs
  rw [List.foldl_cons]
  refine (hs.apply fun _ _ _ _ h => by cases h).foldl fun wr hw => ?_
  rcases List.mem_append.mp (hpre'.subset hw) with hf | ha
  · have hat := storeFront_atKey _ _ _ _ _ _ wr hf
    exact ⟨fun d n he => (by subst he; cases hat), fun id a d n he => (by subst he; cases hat)⟩
  · obtain ⟨a, -, rfl⟩ : ∃ a, key.«alias» = some a ∧
        DbWrite.rebindAlias s.nextId a key.domain key.nspace = wr := by simpa using ha
    exact ⟨fun d n he => (by cases he), fun id a' d n he => (by cases he; simp [KeyStore.apply])⟩

/-- Keeping the aliases sound, as a relation between Key Stores. -/
def aliasesSoundRel : StoreRel where
  rel s t := s.AliasesSound → t.AliasesSound
  refl _ := id
  trans h₁ h₂ h := h₂ (h₁ h)
  kmBlob _ _ _ _ hs := hs.apply fun _ _ _ _ h => by cases h

theorem storeNewKey_keepsAliasesSound (self : KeystoreSecurityLevel) (key : KeyDescriptor)
    (keyCharacteristics : KeyCharacteristics) (kmCertChain : Option (List KmCertificate))
    (blob : Blob) :
    Svc.Preserves aliasesSoundRel (storeNewKey env self key keyCharacteristics kmCertChain blob) := by
  intro w r w' h hs
  obtain ⟨pre, hpre, hst⟩ := storeNewKey_store env self key keyCharacteristics kmCertChain blob h
  rw [hst]
  exact hs.foldl_storePlan hpre

/-- **Sound aliases over every run.** Whatever the transactions, their callers
and the collaborators' answers, every run of the service from a Key Store whose
aliases each name a key entry of their own domain and namespace ends in such a
Key Store. -/
theorem serve_keeps_aliasesSound (self : KeystoreSecurityLevel) {txs : List (Caller × Request)}
    {w w' : World} {rs : List (Except AnyhowError Response)}
    (h : serve env self txs w = some (rs, w')) (hs : w.store.AliasesSound) :
    w'.store.AliasesSound :=
  serve_preserves env self (storeNewKey_keepsAliasesSound env self) h hs

-- ---------------------------------------------------------------------------
-- The keys handed out before a run
-- ---------------------------------------------------------------------------

/-- `t` has the key entry, the parameters, the certificate and the certificate
chain that `s` has for every key id below `n`. -/
def KeyStore.SameKeysBelow (n : Int) (s t : KeyStore) : Prop :=
  ∀ k, k < n → t.keyentry k = s.keyentry k ∧ t.keyparameter k = s.keyparameter k ∧
    ∀ sc, sc ≠ SubComponentType.kmBlob → t.blobentry k sc = s.blobentry k sc

/-- `t` comes after `s`: no key id is taken back, and every key `s` has handed
out keeps all it has but its KM blob. -/
def KeyStore.KeepsKeys (s t : KeyStore) : Prop :=
  s.nextId ≤ t.nextId ∧ KeyStore.SameKeysBelow s.nextId s t

/-- Whether a write leaves alone all but the KM blobs of the key ids below `n`. -/
def DbWrite.KeepsBelow (n : Int) : DbWrite → Prop
  | .insertBlob id sc _ _ => sc = .kmBlob ∨ n ≤ id
  | .insertKeyparameter id _ => n ≤ id
  | _ => True

theorem KeyStore.SameKeysBelow.refl (n : Int) (s : KeyStore) : KeyStore.SameKeysBelow n s s :=
  fun _ _ => ⟨rfl, rfl, fun _ _ => rfl⟩

/-- A write of `KeepsBelow n` keeps the keys below `n`; a new key entry is made
at the next free key id, which is not below `n`. -/
theorem KeyStore.SameKeysBelow.apply {n : Int} {s t : KeyStore} (h : KeyStore.SameKeysBelow n s t)
    (hn : n ≤ t.nextId) {wr : DbWrite} (hw : wr.KeepsBelow n) :
    KeyStore.SameKeysBelow n s (t.apply wr) := by
  intro k hk
  obtain ⟨h1, h2, h3⟩ := h k hk
  cases wr with
  | createKeyEntry d m =>
    have hne : k ≠ t.nextId := by omega
    exact ⟨by simp [KeyStore.apply, hne, h1], by simp [KeyStore.apply, hne, h2],
      fun sc hsc => by simp [KeyStore.apply, hne, h3 sc hsc]⟩
  | insertBlob id sc' b l =>
    have hne : ∀ sc, sc ≠ SubComponentType.kmBlob → ¬(k = id ∧ sc = sc') := by
      rintro sc hsc ⟨rfl, rfl⟩
      rcases hw with rfl | hw
      exacts [hsc rfl, by omega]
    exact ⟨h1, h2, fun sc hsc => by simp [KeyStore.apply, hne sc hsc, h3 sc hsc]⟩
  | insertKeyparameter id ps =>
    have hne : k ≠ id := by simp only [DbWrite.KeepsBelow] at hw; omega
    exact ⟨h1, by simp [KeyStore.apply, hne, h2], h3⟩
  | rebindAlias => exact ⟨h1, h2, h3⟩

theorem KeyStore.SameKeysBelow.foldl {n : Int} {s t : KeyStore} (h : KeyStore.SameKeysBelow n s t)
    (hn : n ≤ t.nextId) {ws : List DbWrite} (hws : ∀ wr ∈ ws, wr.KeepsBelow n) :
    KeyStore.SameKeysBelow n s (ws.foldl KeyStore.apply t) := by
  induction ws generalizing t with
  | nil => exact h
  | cons wr ws ih =>
    exact ih (h.apply hn (hws wr (List.mem_cons_self _ _)))
      (Int.le_trans hn (t.nextId_le_apply wr)) fun wr' h' => hws wr' (List.mem_cons_of_mem _ h')

theorem DbWrite.AtKey.keepsBelow {id : Int} {wr : DbWrite} (h : wr.AtKey id) : wr.KeepsBelow id := by
  cases wr with
  | insertBlob k =>
    have hk : k = id := h
    exact .inr (by omega)
  | insertKeyparameter k =>
    have hk : k = id := h
    show id ≤ k
    omega
  | _ => trivial

/-- Every write of `store_new_key`'s plan is at the new key id. -/
theorem storePlan_keepsBelow (key : KeyDescriptor) (id : Int) (keyParameters : List KeyParameter)
    (cert certChain : Option Blob) (blob : Blob) (secLevel : SecurityLevel) :
    ∀ wr ∈ storePlan key id keyParameters cert certChain blob secLevel, wr.KeepsBelow id := by
  intro wr hw
  rw [storePlan_eq] at hw
  rcases List.mem_cons.mp hw with rfl | hw
  · trivial
  rcases List.mem_append.mp hw with hw | hw
  · exact (storeFront_atKey _ _ _ _ _ _ _ hw).keepsBelow
  · obtain ⟨a, -, rfl⟩ := Option.map_eq_some'.mp (Option.mem_toList.mp hw)
    trivial

/-- Keeping the keys handed out, as a relation between Key Stores. -/
def keepsKeysRel : StoreRel where
  rel := KeyStore.KeepsKeys
  refl s := ⟨Int.le_refl _, .refl _ s⟩
  trans := fun ⟨h₁, k₁⟩ ⟨h₂, k₂⟩ => ⟨Int.le_trans h₁ h₂, fun k hk =>
    let ⟨a₁, b₁, c₁⟩ := k₁ k hk
    let ⟨a₂, b₂, c₂⟩ := k₂ k (Int.lt_of_lt_of_le hk h₁)
    ⟨a₂.trans a₁, b₂.trans b₁, fun sc hsc => (c₂ sc hsc).trans (c₁ sc hsc)⟩⟩
  kmBlob s _ _ _ := ⟨s.nextId_le_apply _, (KeyStore.SameKeysBelow.refl _ s).apply (Int.le_refl _)
    (.inl rfl)⟩

theorem storeNewKey_keepsKeys (self : KeystoreSecurityLevel) (key : KeyDescriptor)
    (keyCharacteristics : KeyCharacteristics) (kmCertChain : Option (List KmCertificate))
    (blob : Blob) :
    Svc.Preserves keepsKeysRel (storeNewKey env self key keyCharacteristics kmCertChain blob) := by
  intro w r w' h
  obtain ⟨pre, hpre, hst⟩ := storeNewKey_store env self key keyCharacteristics kmCertChain blob h
  rw [hst]
  exact ⟨KeyStore.nextId_le_foldl _ _, (KeyStore.SameKeysBelow.refl _ _).foldl (Int.le_refl _)
    fun wr hw => storePlan_keepsBelow _ _ _ _ _ _ _ wr (hpre.subset hw)⟩

/-- **The keys handed out before a run.** Whatever the transactions, their
callers and the collaborators' answers, every key id the Key Store had handed
out before a run of the service keeps, to its end, its key entry (domain and
namespace), its key parameters, its certificate and its certificate chain; and
no key id is taken back. Only the KM blob of such a key may change. -/
theorem serve_keeps_existing_keys (self : KeystoreSecurityLevel) {txs : List (Caller × Request)}
    {w w' : World} {rs : List (Except AnyhowError Response)}
    (h : serve env self txs w = some (rs, w')) : w.store.KeepsKeys w'.store :=
  serve_preserves env self (storeNewKey_keepsKeys env self) h

/-- A Key Store for the examples: the app with uid 10001 has key id 1 under the
alias `k`, and its KM blob is `[7]`. -/
def oneKeyStore : KeyStore :=
  ((KeyStore.empty.apply (.createKeyEntry Domain.app 10001)).apply
    (.insertBlob 1 .kmBlob [7] ⟨1⟩)).apply (.rebindAlias 1 "k" Domain.app 10001)

/-- Transactions for the examples: the app with uid 10002 begins an operation on
key id 1, whose blob KeyMint asks to upgrade. -/
def useKeyTxs : List (Caller × Request) :=
  [(⟨10002, some "u:r:untrusted_app:s0"⟩, .createOperation ⟨Domain.keyId, 1, none, none⟩
    [⟨Tag.purpose, false, 2, 0, 0, []⟩] false)]

theorem serve_keeps_existing_keys_upgraded :
    ∃ rs w', serve (staleBlobEnv [7] [8]) ⟨⟨1⟩⟩ useKeyTxs (World.start oneKeyStore) =
      some (rs, w') ∧ oneKeyStore.KeepsKeys w'.store := by
  obtain ⟨⟨rs, w'⟩, h⟩ : ∃ p, serve (staleBlobEnv [7] [8]) ⟨⟨1⟩⟩ useKeyTxs
      (World.start oneKeyStore) = some p := ⟨_, rfl⟩
  exact ⟨rs, w', h, serve_keeps_existing_keys (staleBlobEnv [7] [8]) ⟨⟨1⟩⟩ h⟩

-- ---------------------------------------------------------------------------
-- The keys of an app
-- ---------------------------------------------------------------------------

/-- The domain and namespace of the key entry or the alias binding a write makes. -/
def DbWrite.entryNamespace : DbWrite → Option (Domain × Int)
  | .createKeyEntry d n | .rebindAlias _ _ d n => some (d, n)
  | _ => none

/-- The domain and namespace of the key entry or the alias binding a call makes. -/
def Call.entryNamespace : Call → Option (Domain × Int)
  | .db wr => wr.entryNamespace
  | _ => none

theorem Call.entryNamespace_eq_none {c : Call} (h : c.writesBeyondKmBlob = false) :
    c.entryNamespace = none := by
  rcases c with _ | _ | _ | _ | _ | _ | _ | _ | _ | _ | _ | _ | (_ | _ | _ | _) <;>
    first | rfl | cases h

/-- `t` has the alias bindings, and the key entries, of domain `d` and
namespace `n` that `s` has. -/
def KeyStore.SameNamespace (d : Domain) (n : Int) (s t : KeyStore) : Prop :=
  t.aliases d n = s.aliases d n ∧ ∀ id, t.keyentry id = some (d, n) ↔ s.keyentry id = some (d, n)

theorem KeyStore.SameNamespace.refl (d : Domain) (n : Int) (s : KeyStore) :
    KeyStore.SameNamespace d n s s :=
  ⟨rfl, fun _ => Iff.rfl⟩

theorem KeyStore.SameNamespace.trans {d : Domain} {n : Int} {s₁ s₂ s₃ : KeyStore}
    (h₁ : KeyStore.SameNamespace d n s₁ s₂) (h₂ : KeyStore.SameNamespace d n s₂ s₃) :
    KeyStore.SameNamespace d n s₁ s₃ :=
  ⟨h₂.1.trans h₁.1, fun id => (h₂.2 id).trans (h₁.2 id)⟩

/-- A write for another domain or namespace leaves the namespace alone: a new
key entry goes to a key id that had none. -/
theorem KeyStore.SameNamespace.apply {d : Domain} {n : Int} (s : KeyStore) {wr : DbWrite}
    (hw : wr.entryNamespace ≠ some (d, n)) : KeyStore.SameNamespace d n s (s.apply wr) := by
  cases wr with
  | createKeyEntry d' n' =>
    refine ⟨rfl, fun id => ?_⟩
    by_cases hid : id = s.nextId
    · subst hid
      simp only [KeyStore.apply, KeyStore.createKeyEntry_keyentry, if_pos, s.keyentry_nextId]
      exact ⟨fun h => absurd h hw, fun h => by cases h⟩
    · simp [KeyStore.apply, hid]
  | rebindAlias id a d' n' =>
    refine ⟨funext fun a' => ?_, fun _ => Iff.rfl⟩
    have hne : ¬(d = d' ∧ n = n' ∧ a' = a) := fun ⟨h1, h2, _⟩ => hw (by subst h1 h2; rfl)
    simp [KeyStore.apply, hne]
  | insertBlob | insertKeyparameter => exact .refl d n s

/-- The key entries and alias bindings a handler's calls name are for the
caller's uid in the `APP` domain. -/
theorem Call.TargetsKey.app_entry {key : KeyDescriptor} {uid : UInt32} {c : Call}
    (h : c.TargetsKey key.domain (if key.domain = Domain.app then (uid.toNat : Int) else key.nspace)
      key.«alias») {n : Int} (hn : c.entryNamespace = some (Domain.app, n)) : n = uid.toNat := by
  rcases c with _ | _ | _ | _ | _ | _ | _ | _ | _ | _ | _ | _ | (_ | _ | _ | _) <;>
    simp only [Call.entryNamespace, DbWrite.entryNamespace] at hn <;> cases hn
  · obtain ⟨hd, rfl⟩ := h
    exact if_pos hd.symm
  · obtain ⟨-, hd, rfl⟩ := h
    exact if_pos hd.symm

/-- **One transaction, the keys of an app.** A transaction makes key entries
and alias bindings in the `APP` domain only in its caller's namespace. -/
theorem dispatch_app_entries (self : KeystoreSecurityLevel) (rq : Request) {w w' : World}
    {r : Except AnyhowError Response} (h : (dispatch env self rq).run w = some (r, w')) :
    ∀ ev ∈ w.eventsTo w', ∀ n, ev.call.entryNamespace = some (Domain.app, n) →
      n = w.callingUid.toNat := by
  cases rq <;> obtain ⟨r', h'⟩ := Svc.bind_pure_eq_some h <;> intro ev hev n hn
  · rw [Call.entryNamespace_eq_none (createOperation_onlyKmBlobWrites env self _ _ _ h' ev hev)]
      at hn
    cases hn
  · exact (generateKey_targets env self _ _ _ _ _ h' ev hev).app_entry hn
  · exact (importKey_targets env self _ _ _ _ _ h' ev hev).app_entry hn
  · exact (importWrappedKey_targets env self _ _ _ _ _ h' ev hev).app_entry hn

theorem dispatch_app_namespace (self : KeystoreSecurityLevel) (rq : Request) (c : Caller)
    {w w' : World} {r : Except AnyhowError Response}
    (h : (dispatch env self rq).run (w.withCaller c) = some (r, w')) {n : Int}
    (hn : (c.uid.toNat : Int) ≠ n) : KeyStore.SameNamespace Domain.app n w.store w'.store := by
  rw [(Svc.follows _ h).store_eq]
  refine applyWrites_rel (P := fun c => c.entryNamespace ≠ some (Domain.app, n))
    (KeyStore.SameNamespace.refl _ _) KeyStore.SameNamespace.trans
    (fun s _ hw => KeyStore.SameNamespace.apply s hw) _ fun ev hev he => hn ?_
  exact (dispatch_app_entries env self rq h ev hev n he).symm

/-- **The keys of an app over every run.** In every run of the service in which
no transaction comes from the uid `n`, whatever the other transactions and the
collaborators' answers, the `APP` namespace `n` keeps its alias bindings and
gets no new key entry: another app cannot create, replace or rebind an app's
keys, whatever namespace its requests name. -/
theorem serve_app_namespace_frame (self : KeystoreSecurityLevel) {txs : List (Caller × Request)}
    {w w' : World} {rs : List (Except AnyhowError Response)}
    (h : serve env self txs w = some (rs, w')) {n : Int}
    (hn : ∀ c rq, (c, rq) ∈ txs → (c.uid.toNat : Int) ≠ n) :
    KeyStore.SameNamespace Domain.app n w.store w'.store :=
  serve_rel (R := fun w w' => KeyStore.SameNamespace Domain.app n w.store w'.store)
    (fun _ => .refl _ _ _) .trans (fun c rq hm _ _ _ h1 => dispatch_app_namespace env self rq c h1
      (hn c rq hm)) h

/-- The app with uid 10002 generates a key, naming the namespace 10001 in its
descriptor: the namespace of the app with uid 10001 is as it was. -/
theorem serve_app_namespace_frame_other_app :
    ∃ rs w', serve (staleBlobEnv [] []) ⟨⟨1⟩⟩
        [(⟨10002, some "u:r:untrusted_app:s0"⟩,
          .generateKey ⟨Domain.app, 10001, some "k", none⟩ none [] 0 [])]
        (World.start oneKeyStore) = some (rs, w') ∧
      KeyStore.SameNamespace Domain.app 10001 oneKeyStore w'.store := by
  obtain ⟨⟨rs, w'⟩, h⟩ : ∃ p, serve (staleBlobEnv [] []) ⟨⟨1⟩⟩
      [(⟨10002, some "u:r:untrusted_app:s0"⟩,
        .generateKey ⟨Domain.app, 10001, some "k", none⟩ none [] 0 [])]
      (World.start oneKeyStore) = some p := ⟨_, rfl⟩
  refine ⟨rs, w', h, serve_app_namespace_frame (staleBlobEnv [] []) ⟨⟨1⟩⟩ h fun c rq hm => ?_⟩
  obtain ⟨rfl, -⟩ := Prod.mk.inj (List.mem_singleton.mp hm)
  decide

/-- Transactions for the examples: the app with uid 10001 generates a key under
the alias `k`, then the app with uid 10002 begins an operation on key id 1. -/
def twoAppsTxs : List (Caller × Request) :=
  [(⟨10001, some "u:r:untrusted_app:s0"⟩, .generateKey ⟨Domain.app, 0, some "k", none⟩ none [] 0 []),
    (⟨10002, some "u:r:untrusted_app:s0"⟩, .createOperation ⟨Domain.keyId, 1, none, none⟩
      [⟨Tag.purpose, false, 2, 0, 0, []⟩] false)]

theorem serve_keeps_aliasesSound_two_apps :
    ∃ rs w', serve (staleBlobEnv [] []) ⟨⟨1⟩⟩ twoAppsTxs (World.start .empty) = some (rs, w') ∧
      w'.store.AliasesSound := by
  obtain ⟨⟨rs, w'⟩, h⟩ : ∃ p, serve (staleBlobEnv [] []) ⟨⟨1⟩⟩ twoAppsTxs
      (World.start .empty) = some p := ⟨_, rfl⟩
  exact ⟨rs, w', h, serve_keeps_aliasesSound (staleBlobEnv [] []) ⟨⟨1⟩⟩ h
    KeyStore.aliasesSound_empty⟩

-- ---------------------------------------------------------------------------
-- Failed transactions
-- ---------------------------------------------------------------------------

/-- Keeping the alias bindings, as a relation between Key Stores. -/
def sameAliasesRel : StoreRel where
  rel s t := t.aliases = s.aliases
  refl _ := rfl
  trans h₁ h₂ := h₂.trans h₁
  kmBlob _ _ _ _ := rfl

theorem KeyStore.aliases_foldl {s : KeyStore} {ws : List DbWrite}
    (h : ∀ wr ∈ ws, ∀ id a d n, wr ≠ .rebindAlias id a d n) :
    (ws.foldl KeyStore.apply s).aliases = s.aliases := by
  induction ws generalizing s with
  | nil => rfl
  | cons wr ws ih =>
    rw [List.foldl_cons, ih fun wr' h' => h wr' (List.mem_cons_of_mem _ h')]
    cases wr with
    | rebindAlias id a d n => exact absurd rfl (h _ (List.mem_cons_self _ _) id a d n)
    | _ => rfl

/-- Every write of `store_new_key`'s plan before the alias binding is not one. -/
theorem storePlan_front_noRebind (key : KeyDescriptor) (id : Int)
    (keyParameters : List KeyParameter) (cert certChain : Option Blob) (blob : Blob)
    (secLevel : SecurityLevel) :
    ∀ wr ∈ DbWrite.createKeyEntry key.domain key.nspace ::
      storeFront id keyParameters cert certChain blob secLevel,
      ∀ i a d n, wr ≠ .rebindAlias i a d n := by
  rintro wr hw i a d n rfl
  rcases List.mem_cons.mp hw with he | hw
  · cases he
  · exact storeFront_atKey _ _ _ _ _ _ _ hw

/-- **A failed `store_new_key`** binds no alias: the binding is its last write,
and a missing alias fails before any binding. -/
theorem storeNewKey_error_aliases (self : KeystoreSecurityLevel) (key : KeyDescriptor)
    (keyCharacteristics : KeyCharacteristics) (kmCertChain : Option (List KmCertificate))
    (blob : Blob) {w w' : World} {e : AnyhowError}
    (h : (storeNewKey env self key keyCharacteristics kmCertChain blob).run w =
      some (.error e, w')) :
    w'.store.aliases = w.store.aliases := by
  obtain ⟨r', hb, hn, hr⟩ := storeNewKey_run env self key keyCharacteristics kmCertChain blob h
  by_cases hd : key.domain = Domain.blob
  · rw [(hb hd).1] at hr
    cases hr
  have h1 := hn hd
  have hfront := storePlan_front_noRebind key w.store.nextId
    (keyCharacteristicsToInternal env.convertFromWire keyCharacteristics self.securityLevel)
    (splitCertChain kmCertChain).1 (splitCertChain kmCertChain).2 blob self.securityLevel
  rw [(Svc.follows _ h1).store_eq]
  rcases storeNewKeyInDb_log env self key _ _ _ blob w h1 with
    ⟨hev, ⟨-, rfl⟩ | ⟨hal, -⟩⟩ | ⟨e', pre, wr, rest, ew, -, hws, hev⟩
  · cases hr
  · rw [hev, applyWrites_acceptedWrites, storePlan_eq, hal]
    exact KeyStore.aliases_foldl fun wr hw => hfront wr (by simpa using hw)
  · rw [hev, applyWrites_append, applyWrites_acceptedWrites]
    rw [storePlan_eq, ← List.cons_append] at hws
    have hl : (key.«alias».map
        (DbWrite.rebindAlias w.store.nextId · key.domain key.nspace)).toList.length ≤ 1 := by
      cases key.«alias» <;> simp
    exact KeyStore.aliases_foldl fun x hx => hfront x (subset_of_append_cons hl hws.symm x hx)

section StoresLast

variable {env}

/-- A failed run of a handler that stores last binds no alias. -/
theorem Svc.StoresLast.error_aliases {self : KeystoreSecurityLevel} {key : UInt32 → KeyDescriptor}
    {x : Svc AnyhowError KeyMetadata} (hx : Svc.StoresLast env self key x) {w w' : World}
    {e : AnyhowError} (h : x.run w = some (.error e, w')) : w'.store.aliases = w.store.aliases := by
  obtain ⟨w1, hf, hev, hend⟩ := hx h
  have h1 : w1.store.aliases = w.store.aliases := by
    rw [hf.store_eq]
    exact sameAliasesRel.rel_applyWrites _ hev
  rcases hend with ⟨-, -, rfl⟩ | ⟨kc, chain, blob, r1, g, -, hs, hr⟩
  · exact h1
  · obtain ⟨e1, rfl⟩ : ∃ e1, r1 = .error e1 := by cases r1 <;> cases hr; exact ⟨_, rfl⟩
    exact (storeNewKey_error_aliases env self _ kc chain blob hs).trans h1

end StoresLast

/-- **A failed transaction binds no alias.** Whatever the method, the caller,
the Key Store and the collaborators' answers, a transaction that answers with
an error leaves every alias binding as it was: a failed `generate_key`,
`import_key` or `import_wrapped_key` never takes an alias away from the key it
named, even when it left a new key entry behind. -/
theorem dispatch_error_keeps_aliases (self : KeystoreSecurityLevel) (rq : Request) {w w' : World}
    {e : AnyhowError} (h : (dispatch env self rq).run w = some (.error e, w')) :
    w'.store.aliases = w.store.aliases := by
  cases rq <;> rcases Svc.bind_eq_some h with ⟨_, _, -, h2⟩ | ⟨e', h1, -⟩ <;>
    first | cases h2 | skip
  · exact Svc.preserves_of_onlyCalls (R := sameAliasesRel)
      (createOperation_onlyKmBlobWrites env self _ _ _) h1
  · exact (generateKey_storesLast env self _ _ _ _ _).error_aliases h1
  · exact (importKey_storesLast env self _ _ _ _ _).error_aliases h1
  · exact (importWrappedKey_storesLast env self _ _ _ _ _).error_aliases h1

/-- The app with uid 10001 generates a new key under its alias `k`, and the Key
Store refuses the blob: the transaction fails, and `k` still names key id 1. -/
theorem dispatch_error_keeps_aliases_refused :
    ∃ e w', (dispatch refusingBlobEnv ⟨⟨1⟩⟩
        (.generateKey ⟨Domain.app, 0, some "k", none⟩ none [] 0 [])).run
        (World.start oneKeyStore) = some (.error e, w') ∧
      w'.store.aliases = oneKeyStore.aliases ∧ w'.store.aliases Domain.app 10001 "k" = some 1 := by
  refine ⟨_, _, rfl, dispatch_error_keeps_aliases refusingBlobEnv ⟨⟨1⟩⟩
    (.generateKey ⟨Domain.app, 0, some "k", none⟩ none [] 0 []) (w := World.start oneKeyStore) rfl,
    rfl⟩

end Keystore2

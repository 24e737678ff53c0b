import Keystore2.SecurityLevel

/-!
# Keystore2 — persisting a new key

`store_new_key` stores what KeyMint made in one `DB.with` closure: a new key
entry, its KM blob, its certificate and certificate chain when there are some,
its parameters, then its alias. Each is a Key Store statement of its own,
issued one after another, and the closure stops at the first one the store
refuses. `storePlan` lists the writes; `Svc.IssuesWrites` says that a
computation issues a list of writes in that manner, and is built up along the
closure's binds.

## Results

* `storeNewKeyInDb_log` — every stopping run of the closure: the whole plan
  accepted, or its first writes accepted and the next refused.
* `storeNewKey_ok_store` — a successful `store_new_key` leaves `StoreNewKeyPost`:
  the descriptor it returns, its writes, and the new key's entry, blobs,
  parameters and alias in the store.
* `storeNewKey_error_store` — a failed one: every alias binding and every other
  key id as before; what the failed closure wrote stays, at the fresh key id.
* `generateKey_partial_entry` — a failed `generate_key` that leaves a key entry
  behind.
-/

namespace Keystore2

open KeystoreSecurityLevel

variable (env : Env)

-- ---------------------------------------------------------------------------
-- Issuing writes one after another
-- ---------------------------------------------------------------------------

/-- The events of the writes `ws`, each accepted. -/
def acceptedWrites (ws : List DbWrite) : List Event :=
  ws.map fun wr => ⟨.db wr, Except.ok ()⟩

@[simp] theorem acceptedWrites_nil : acceptedWrites [] = [] := rfl

@[simp] theorem acceptedWrites_cons (wr : DbWrite) (ws : List DbWrite) :
    acceptedWrites (wr :: ws) = ⟨.db wr, Except.ok ()⟩ :: acceptedWrites ws := rfl

@[simp] theorem acceptedWrites_append (ws ws' : List DbWrite) :
    acceptedWrites (ws ++ ws') = acceptedWrites ws ++ acceptedWrites ws' :=
  List.map_append _ _ _

theorem applyWrites_acceptedWrites (s : KeyStore) (ws : List DbWrite) :
    applyWrites s (acceptedWrites ws) = ws.foldl KeyStore.apply s := by
  induction ws generalizing s with
  | nil => rfl
  | cons wr ws ih => simp [acceptedWrites_cons, applyWrites_cons, Event.write?, ih]

namespace Svc

variable {α β : Type}

/-- From `w`, `x` issues the Key Store writes `ws` in order and stops at the
first one the store refuses: a stopping run gets all of `ws` accepted and ends
as `done` allows, or gets the writes before some `wr` of `ws` accepted and `wr`
refused, and fails. -/
def IssuesWritesFrom (w : World) (ws : List DbWrite) (done : Except AnyhowError α → Prop)
    (x : Svc AnyhowError α) : Prop :=
  ∀ ⦃r w'⦄, x.run w = some (r, w') →
    (w.eventsTo w' = acceptedWrites ws ∧ done r) ∨
    ∃ e pre wr rest ew, r = .error e ∧ ws = pre ++ wr :: rest ∧
      w.eventsTo w' = acceptedWrites pre ++ [⟨.db wr, Except.error ew⟩]

/-- `IssuesWritesFrom` from every world. -/
def IssuesWrites (ws : List DbWrite) (done : Except AnyhowError α → Prop)
    (x : Svc AnyhowError α) : Prop :=
  ∀ w, IssuesWritesFrom w ws done x

theorem issuesWrites_pure {done : Except AnyhowError α → Prop} {a : α} (h : done (.ok a)) :
    IssuesWrites [] done (pure a) := by
  intro w r w' hx
  cases hx
  exact .inl ⟨by simp, h⟩

theorem issuesWrites_throw {done : Except AnyhowError α → Prop} {e : AnyhowError}
    (h : done (.error e)) : IssuesWrites [] done (throw e : Svc AnyhowError α) := by
  intro w r w' hx
  cases hx
  exact .inl ⟨by simp, h⟩

theorem issuesWrites_write (wr : DbWrite) :
    IssuesWrites [wr] (fun r => r = .ok ()) (KeystoreDB.write env wr) := by
  intro w r w' hx
  simp only [KeystoreDB.run_write, Option.some.injEq, Prod.mk.injEq] at hx
  obtain ⟨rfl, rfl⟩ := hx
  rcases ha : (env.answer w.log.length (.db wr) : Except AnyhowError Unit) with ew | ⟨⟩
  · exact .inr ⟨ew, [], wr, [], ew, rfl, rfl, by simp [ha]⟩
  · exact .inl ⟨by simp [ha], rfl⟩

theorem IssuesWritesFrom.mapError {w : World} {ws : List DbWrite}
    {done : Except AnyhowError α → Prop} {done' : Except AnyhowError α → Prop}
    {x : Svc AnyhowError α} {g : AnyhowError → AnyhowError} (hx : IssuesWritesFrom w ws done x)
    (hd : ∀ r, done r → done' (r.mapError g)) : IssuesWritesFrom w ws done' (x.mapError g) := by
  intro r w' h
  obtain ⟨r', h', rfl⟩ := mapError_eq_some h
  rcases hx h' with ⟨hev, hr⟩ | ⟨e, pre, wr, rest, ew, rfl, hws, hev⟩
  exacts [.inl ⟨hev, hd r' hr⟩, .inr ⟨g e, pre, wr, rest, ew, rfl, hws, hev⟩]

theorem IssuesWrites.mapError {ws : List DbWrite}
    {done : Except AnyhowError α → Prop} {done' : Except AnyhowError α → Prop}
    {x : Svc AnyhowError α} {g : AnyhowError → AnyhowError} (hx : IssuesWrites ws done x)
    (hd : ∀ r, done r → done' (r.mapError g)) : IssuesWrites ws done' (x.mapError g) :=
  fun w => (hx w).mapError hd

/-- Writes issued one after another: those of `x`, then those of `f`. A run of
`x` that fails after all its writes must have nothing left to write. -/
theorem IssuesWritesFrom.bind {w : World} {ws ws' ws'' : List DbWrite}
    {done : Except AnyhowError α → Prop} {done' : Except AnyhowError β → Prop}
    {x : Svc AnyhowError α} {f : α → Svc AnyhowError β} (hws : ws'' = ws ++ ws')
    (hx : IssuesWritesFrom w ws done x) (hf : ∀ a, done (.ok a) → IssuesWrites ws' done' (f a))
    (herr : ∀ e, done (.error e) → ws' = [] ∧ done' (.error e)) :
    IssuesWritesFrom w ws'' done' (x >>= f) := by
  subst hws
  intro r w' h
  rcases bind_eq_some h with ⟨a, w1, h1, h2⟩ | ⟨e, h1, rfl⟩
  · rcases hx h1 with ⟨hev1, hd⟩ | ⟨e, pre, wr, rest, ew, he, -, -⟩
    · rw [World.eventsTo_trans (x.follows h1) ((f a).follows h2), hev1]
      rcases hf a hd w1 h2 with ⟨hev2, hd'⟩ | ⟨e, pre, wr, rest, ew, rfl, rfl, hev2⟩
      · exact .inl ⟨by simp [hev2], hd'⟩
      · exact .inr ⟨e, ws ++ pre, wr, rest, ew, rfl, by simp, by simp [hev2]⟩
    · cases he
  · rcases hx h1 with ⟨hev1, hd⟩ | ⟨e', pre, wr, rest, ew, he, rfl, hev1⟩
    · obtain ⟨rfl, hd'⟩ := herr e hd
      exact .inl ⟨by simp [hev1], hd'⟩
    · cases he
      exact .inr ⟨e, pre, wr, rest ++ ws', ew, rfl, by simp, hev1⟩

theorem IssuesWrites.bind {ws ws' ws'' : List DbWrite}
    {done : Except AnyhowError α → Prop} {done' : Except AnyhowError β → Prop}
    {x : Svc AnyhowError α} {f : α → Svc AnyhowError β} (hws : ws'' = ws ++ ws')
    (hx : IssuesWrites ws done x) (hf : ∀ a, done (.ok a) → IssuesWrites ws' done' (f a))
    (herr : ∀ e, done (.error e) → ws' = [] ∧ done' (.error e)) :
    IssuesWrites ws'' done' (x >>= f) :=
  fun w => (hx w).bind hws hf herr

end Svc

-- ---------------------------------------------------------------------------
-- The writes of `store_new_key`
-- ---------------------------------------------------------------------------

/-- The writes `store_new_key` issues for a key outside `Domain::BLOB` whose new
key id is `id`, in order: the key entry, the KM blob, the certificate and the
certificate chain when there are some, the parameters, and the alias binding
when the descriptor has an alias. -/
def storePlan (key : KeyDescriptor) (id : Int) (keyParameters : List KeyParameter)
    (cert certChain : Option Blob) (blob : Blob) (secLevel : SecurityLevel) : List DbWrite :=
  .createKeyEntry key.domain key.nspace :: .insertBlob id .kmBlob blob secLevel ::
    ((cert.map (DbWrite.insertBlob id .cert · secLevel)).toList ++
      ((certChain.map (DbWrite.insertBlob id .certChain · secLevel)).toList ++
        (.insertKeyparameter id keyParameters ::
          (key.«alias».map (DbWrite.rebindAlias id · key.domain key.nspace)).toList)))

/-- How the closure of `store_new_key` may end once all its writes are
accepted: with the new key id's descriptor when there is an alias, and with the
missing-alias error when there is none. -/
def StoreDone (key : KeyDescriptor) (id : Int) (r : Except AnyhowError KeyDescriptor) : Prop :=
  (key.«alias» ≠ none ∧ r = .ok ⟨Domain.keyId, id, none, none⟩) ∨
    (key.«alias» = none ∧ ∃ e, r = .error e)

/-- `create_key_entry` as the first write: the new key id is the store's next
free one, and the writes after it may depend on it. -/
theorem issuesWritesFrom_createKeyEntry_bind {β : Type} {domain : Domain} {nspace : Int}
    {msg : String} {cont : KeyIdGuard → Svc AnyhowError β} {ws : Int → List DbWrite}
    {done : Int → Except AnyhowError β → Prop}
    (hc : ∀ id, Svc.IssuesWrites (ws id) (done id) (cont ⟨id⟩)) (w : World) :
    Svc.IssuesWritesFrom w (.createKeyEntry domain nspace :: ws w.store.nextId) (done w.store.nextId)
      ((KeystoreDB.createKeyEntry env domain nspace).context msg >>= cont) := by
  intro r w' h
  simp only [KeystoreDB.createKeyEntry, Svc.context, Svc.run_bind, Svc.run_mapError,
    Svc.run_read, KeystoreDB.run_write] at h
  rcases ha : (env.answer w.log.length (.db (.createKeyEntry domain nspace)) :
    Except AnyhowError Unit) with ew | ⟨⟩ <;> rw [ha] at h
  · cases h
    exact .inr ⟨_, [], _, _, ew, rfl, rfl, by simp [ha]⟩
  · simp only [Option.map_some', Svc.run_pure, Except.mapError] at h
    rcases hc w.store.nextId _ h with ⟨hev, hd⟩ | ⟨e, pre, wr, rest, ew, rfl, hws, hev⟩
    · refine .inl ⟨?_, hd⟩
      rw [World.eventsTo_trans (w.follows_record _) (Svc.follows _ h), hev]
      simp [ha]
    · refine .inr ⟨e, _ :: pre, wr, rest, ew, rfl, by rw [hws]; rfl, ?_⟩
      rw [World.eventsTo_trans (w.follows_record _) (Svc.follows _ h), hev]
      simp [ha]

/-- **The writes of `store_new_key`.** Every stopping run of its closure gets
the whole of `storePlan` accepted, for the store's next free key id, and ends
as `StoreDone` says; or gets the first writes of the plan accepted and the next
refused, and fails. -/
theorem storeNewKeyInDb_log (self : KeystoreSecurityLevel) (key : KeyDescriptor)
    (keyParameters : List KeyParameter) (cert certChain : Option Blob) (blob : Blob) (w : World) :
    Svc.IssuesWritesFrom w
      (storePlan key w.store.nextId keyParameters cert certChain blob self.securityLevel)
      (StoreDone key w.store.nextId)
      (storeNewKeyInDb env self key keyParameters cert certChain blob) := by
  unfold storeNewKeyInDb
  refine @issuesWritesFrom_createKeyEntry_bind env _ _ _ _ _
    (fun id => (storePlan key id keyParameters cert certChain blob self.securityLevel).tail)
    (StoreDone key) (fun id => ?_) w
  have hw : ∀ wr msg, Svc.IssuesWrites [wr] (fun r => r = .ok ())
      ((KeystoreDB.write env wr).context msg) :=
    fun wr _ => (Svc.issuesWrites_write env wr).mapError fun r hr => by rw [hr]; rfl
  have hp : Svc.IssuesWrites [] (fun r => r = .ok ()) (pure () : Svc AnyhowError Unit) :=
    Svc.issuesWrites_pure rfl
  refine Svc.IssuesWrites.bind List.singleton_append.symm (hw _ _) (fun _ _ => ?_)
    (fun e he => by cases he)
  refine Svc.IssuesWrites.bind rfl (by cases cert; exacts [hp, hw _ _])
    (fun _ _ => ?_) (fun e he => by cases he)
  refine Svc.IssuesWrites.bind rfl (by cases certChain; exacts [hp, hw _ _])
    (fun _ _ => ?_) (fun e he => by cases he)
  refine Svc.IssuesWrites.bind List.singleton_append.symm (hw _ _) (fun _ _ => ?_)
    (fun e he => by cases he)
  cases ha : key.«alias» with
  | none =>
    refine Svc.IssuesWrites.bind rfl (Svc.issuesWrites_throw rfl) (fun _ h => by cases h)
      (fun e _ => ⟨rfl, .inr ⟨ha, e, rfl⟩⟩)
  | some a =>
    refine Svc.IssuesWrites.bind (List.append_nil _).symm (hw _ _)
      (fun _ _ => Svc.issuesWrites_pure (.inl ⟨by simp [ha], rfl⟩)) (fun e he => by cases he)

/-- The calls of `store_new_key`'s closure: the new key entry for the
descriptor's domain and namespace, blobs and parameters, and the binding of the
descriptor's alias. -/
theorem storeNewKeyInDb_onlyCalls {P : Call → Prop} (self : KeystoreSecurityLevel)
    {key : KeyDescriptor} {keyParameters : List KeyParameter} {cert certChain : Option Blob}
    {blob : Blob} (hc : P (.db (.createKeyEntry key.domain key.nspace)))
    (hb : ∀ id sc b, P (.db (.insertBlob id sc b self.securityLevel)))
    (hp : ∀ id, P (.db (.insertKeyparameter id keyParameters)))
    (hr : ∀ id a, key.«alias» = some a → P (.db (.rebindAlias id a key.domain key.nspace))) :
    Svc.OnlyCalls P (storeNewKeyInDb env self key keyParameters cert certChain blob) := by
  have hb' : ∀ id sc b msg,
      Svc.OnlyCalls P ((KeystoreDB.insertBlob env id sc b self.securityLevel).context msg) :=
    fun _ _ _ _ => Svc.onlyCalls_mapError _ (KeystoreDB.write_onlyCalls env (hb _ _ _))
  unfold storeNewKeyInDb
  refine Svc.onlyCalls_bind (Svc.onlyCalls_mapError _ (KeystoreDB.createKeyEntry_onlyCalls env hc))
    fun _ => ?_
  refine Svc.onlyCalls_bind (hb' _ _ _ _) fun _ => Svc.onlyCalls_bind ?_ fun _ =>
    Svc.onlyCalls_bind ?_ fun _ => Svc.onlyCalls_bind
      (Svc.onlyCalls_mapError _ (KeystoreDB.write_onlyCalls env (hp _))) fun _ =>
    Svc.onlyCalls_bind ?_ fun _ => Svc.onlyCalls_pure _ _
  · cases cert
    exacts [Svc.onlyCalls_pure _ _, hb' _ _ _ _]
  · cases certChain
    exacts [Svc.onlyCalls_pure _ _, hb' _ _ _ _]
  · cases ha : key.«alias»
    exacts [Svc.onlyCalls_throw _ _,
      Svc.onlyCalls_mapError _ (KeystoreDB.write_onlyCalls env (hr _ _ ha))]

/-- The calls of `store_new_key`: none for a `BLOB` key, those of its closure
otherwise. -/
theorem storeNewKey_onlyCalls {P : Call → Prop} (self : KeystoreSecurityLevel)
    {key : KeyDescriptor} {keyCharacteristics : KeyCharacteristics}
    {kmCertChain : Option (List KmCertificate)} {blob : Blob}
    (hc : P (.db (.createKeyEntry key.domain key.nspace)))
    (hb : ∀ id sc b, P (.db (.insertBlob id sc b self.securityLevel)))
    (hp : ∀ id, P (.db (.insertKeyparameter id
      (keyCharacteristicsToInternal env.convertFromWire keyCharacteristics self.securityLevel))))
    (hr : ∀ id a, key.«alias» = some a → P (.db (.rebindAlias id a key.domain key.nspace))) :
    Svc.OnlyCalls P (storeNewKey env self key keyCharacteristics kmCertChain blob) := by
  rcases hs : splitCertChain kmCertChain with ⟨cert, certChain⟩
  simp only [storeNewKey, hs]
  split
  · exact Svc.onlyCalls_bind (Svc.onlyCalls_pure _ _) fun _ => Svc.onlyCalls_pure _ _
  · exact Svc.onlyCalls_bind (Svc.onlyCalls_mapError _
      (storeNewKeyInDb_onlyCalls env self hc hb hp hr)) fun _ => Svc.onlyCalls_pure _ _

/-- The runs of `store_new_key`: a `BLOB` key gets its blob back at once and
the world is as it was; any other key's run is a run of the closure. Either
way the answer is the metadata around the descriptor, and an error of the
closure gets the context of `store_new_key`. -/
theorem storeNewKey_run (self : KeystoreSecurityLevel) (key : KeyDescriptor)
    (keyCharacteristics : KeyCharacteristics) (kmCertChain : Option (List KmCertificate))
    (blob : Blob) {w w' : World} {r : Except AnyhowError KeyMetadata}
    (h : (storeNewKey env self key keyCharacteristics kmCertChain blob).run w = some (r, w')) :
    ∃ r', (key.domain = Domain.blob → r' = .ok ⟨Domain.blob, 0, none, some blob⟩ ∧ w' = w) ∧
      (key.domain ≠ Domain.blob → (storeNewKeyInDb env self key
        (keyCharacteristicsToInternal env.convertFromWire keyCharacteristics self.securityLevel)
        (splitCertChain kmCertChain).1 (splitCertChain kmCertChain).2 blob).run w = some (r', w')) ∧
      r = (r'.mapError (AnyhowError.withContext · "In store_new_key.")).map fun k =>
        { key := k, keySecurityLevel := self.securityLevel,
          certificate := (splitCertChain kmCertChain).1,
          certificateChain := (splitCertChain kmCertChain).2,
          authorizations := keyParametersToAuthorizations env.intoAuthorization
            (keyCharacteristicsToInternal env.convertFromWire keyCharacteristics self.securityLevel) } := by
  rcases hs : splitCertChain kmCertChain with ⟨cert, certChain⟩
  simp only [storeNewKey, hs] at h
  split at h
  · next hd =>
    cases h
    exact ⟨_, fun _ => ⟨rfl, rfl⟩, fun h => absurd hd h, rfl⟩
  · next hd =>
    rcases Svc.bind_eq_some h with ⟨k, w1, h1, h⟩ | ⟨e, h1, rfl⟩
    · cases h
      exact ⟨_, fun h => absurd h hd, fun _ => Svc.mapError_ok h1, rfl⟩
    · obtain ⟨r', h', hr⟩ := Svc.mapError_eq_some h1
      refine ⟨r', fun h => absurd h hd, fun _ => h', ?_⟩
      cases r' <;> cases hr
      rfl

-- ---------------------------------------------------------------------------
-- The Key Store after `store_new_key`
-- ---------------------------------------------------------------------------

/-- The store after all the writes of the plan, read at the new key id. -/
theorem foldl_storePlan (s : KeyStore) (key : KeyDescriptor) (a : String)
    (ha : key.«alias» = some a) (keyParameters : List KeyParameter) (cert certChain : Option Blob)
    (blob : Blob) (secLevel : SecurityLevel) :
    let t := (storePlan key s.nextId keyParameters cert certChain blob secLevel).foldl
      KeyStore.apply s
    t.keyentry s.nextId = some (key.domain, key.nspace) ∧
      t.blobentry s.nextId .kmBlob = some (blob, secLevel) ∧
      t.blobentry s.nextId .cert = cert.map (·, secLevel) ∧
      t.blobentry s.nextId .certChain = certChain.map (·, secLevel) ∧
      t.keyparameter s.nextId = keyParameters ∧
      t.aliases key.domain key.nspace a = some s.nextId := by
  cases cert <;> cases certChain <;> simp [storePlan, ha, KeyStore.apply]

/-- What a successful `store_new_key` returns and leaves: metadata with the
split chain and the authorizations of the internal parameters, around a
descriptor `k`. A `BLOB` key leaves the world as it was and gets its blob back;
any other key had an alias, got the whole plan accepted at the store's next
free key id, and gets that id back. -/
theorem storeNewKey_ok (self : KeystoreSecurityLevel) (key : KeyDescriptor)
    (keyCharacteristics : KeyCharacteristics) (kmCertChain : Option (List KmCertificate))
    (blob : Blob) {w w' : World} {md : KeyMetadata}
    (h : (storeNewKey env self key keyCharacteristics kmCertChain blob).run w = some (.ok md, w')) :
    ∃ k, md =
      { key := k, keySecurityLevel := self.securityLevel,
        certificate := (splitCertChain kmCertChain).1,
        certificateChain := (splitCertChain kmCertChain).2,
        authorizations := keyParametersToAuthorizations env.intoAuthorization
          (keyCharacteristicsToInternal env.convertFromWire keyCharacteristics self.securityLevel) } ∧
      (key.domain = Domain.blob → w' = w ∧ k = ⟨Domain.blob, 0, none, some blob⟩) ∧
      (key.domain ≠ Domain.blob → ∃ a, key.«alias» = some a ∧
        k = ⟨Domain.keyId, w.store.nextId, none, none⟩ ∧
        w.eventsTo w' = acceptedWrites (storePlan key w.store.nextId
          (keyCharacteristicsToInternal env.convertFromWire keyCharacteristics self.securityLevel)
          (splitCertChain kmCertChain).1 (splitCertChain kmCertChain).2 blob self.securityLevel) ∧
        w'.store = (storePlan key w.store.nextId
          (keyCharacteristicsToInternal env.convertFromWire keyCharacteristics self.securityLevel)
          (splitCertChain kmCertChain).1 (splitCertChain kmCertChain).2 blob
          self.securityLevel).foldl KeyStore.apply w.store) := by
  obtain ⟨_ | k, hb, hn, hr⟩ := storeNewKey_run env self key keyCharacteristics kmCertChain blob h
  · cases hr
  cases hr
  refine ⟨k, rfl, fun hd => ⟨(hb hd).2, Except.ok.inj (hb hd).1⟩, fun hd => ?_⟩
  have h1 := hn hd
  rcases storeNewKeyInDb_log env self key _ _ _ blob w h1 with
    ⟨hev, ⟨hal, hk⟩ | ⟨-, e, he⟩⟩ | ⟨e, -, -, -, -, he, -⟩
  · obtain ⟨a, ha⟩ := Option.ne_none_iff_exists'.mp hal
    refine ⟨a, ha, Except.ok.inj hk, hev, ?_⟩
    rw [(Svc.follows _ h1).store_eq, hev, applyWrites_acceptedWrites]
  all_goals cases he

/-- What a successful `store_new_key` of KeyMint's `blob`, characteristics
and chain, from `w` to `w'`, leaves, answering `md`: the certificate and chain
split off KeyMint's chain. For `Domain::BLOB`, the world as it was and the blob
handed back. Otherwise the descriptor had an alias; the answer names the key id
`create_key_entry` hands out in `w`, the next free id of its Key Store; every
write of the plan was accepted, `create_key_entry` first; and under that id the
Key Store holds the key entry in the descriptor's domain and namespace, the KM
blob, the certificate and chain exactly when there are some, the internal
parameters of the characteristics, and the binding of the descriptor's alias. -/
def StoreNewKeyPost (self : KeystoreSecurityLevel) (key : KeyDescriptor)
    (keyCharacteristics : KeyCharacteristics) (kmCertChain : Option (List KmCertificate))
    (blob : Blob) (w w' : World) (md : KeyMetadata) : Prop :=
  md.certificate = (splitCertChain kmCertChain).1 ∧
    md.certificateChain = (splitCertChain kmCertChain).2 ∧
    (key.domain = Domain.blob → w' = w ∧ md.key = ⟨Domain.blob, 0, none, some blob⟩) ∧
    (key.domain ≠ Domain.blob → ∃ a, key.«alias» = some a ∧
      md.key = ⟨Domain.keyId, w.store.nextId, none, none⟩ ∧
      w.eventsTo w' = acceptedWrites (storePlan key w.store.nextId
        (keyCharacteristicsToInternal env.convertFromWire keyCharacteristics self.securityLevel)
        md.certificate md.certificateChain blob self.securityLevel) ∧
      w'.store.keyentry w.store.nextId = some (key.domain, key.nspace) ∧
      w'.store.blobentry w.store.nextId .kmBlob = some (blob, self.securityLevel) ∧
      w'.store.blobentry w.store.nextId .cert = md.certificate.map (·, self.securityLevel) ∧
      w'.store.blobentry w.store.nextId .certChain =
        md.certificateChain.map (·, self.securityLevel) ∧
      w'.store.keyparameter w.store.nextId =
        keyCharacteristicsToInternal env.convertFromWire keyCharacteristics self.securityLevel ∧
      w'.store.aliases key.domain key.nspace a = some w.store.nextId)

/-- **A new key in the Key Store.** Every successful `store_new_key` leaves
what `StoreNewKeyPost` says. -/
theorem storeNewKey_ok_store (self : KeystoreSecurityLevel) (key : KeyDescriptor)
    (keyCharacteristics : KeyCharacteristics) (kmCertChain : Option (List KmCertificate))
    (blob : Blob) {w w' : World} {md : KeyMetadata}
    (h : (storeNewKey env self key keyCharacteristics kmCertChain blob).run w = some (.ok md, w')) :
    StoreNewKeyPost env self key keyCharacteristics kmCertChain blob w w' md := by
  obtain ⟨k, rfl, hb, hk⟩ := storeNewKey_ok env self key keyCharacteristics kmCertChain blob h
  refine ⟨rfl, rfl, hb, fun hd => ?_⟩
  obtain ⟨a, ha, hkey, hev, hst⟩ := hk hd
  rw [hst]
  exact ⟨a, ha, hkey, hev, foldl_storePlan w.store key a ha _ _ _ blob self.securityLevel⟩

-- ---------------------------------------------------------------------------
-- The Key Store after a failed `store_new_key`
-- ---------------------------------------------------------------------------

/-- A write to the blobs or parameters of key id `id`. -/
def DbWrite.AtKey (id : Int) : DbWrite → Prop
  | .insertBlob k .. => k = id
  | .insertKeyparameter k _ => k = id
  | _ => False

/-- `t` is `s` but at key id `id`: the same alias bindings, and at every other
key id the same entry, blobs and parameters. -/
def KeyStore.SameExcept (s t : KeyStore) (id : Int) : Prop :=
  t.aliases = s.aliases ∧ ∀ i, i ≠ id →
    t.keyentry i = s.keyentry i ∧ t.blobentry i = s.blobentry i ∧ t.keyparameter i = s.keyparameter i

theorem KeyStore.SameExcept.refl (s : KeyStore) (id : Int) : s.SameExcept s id :=
  ⟨rfl, fun _ _ => ⟨rfl, rfl, rfl⟩⟩

theorem KeyStore.sameExcept_createKeyEntry (s : KeyStore) (domain : Domain) (nspace : Int) :
    s.SameExcept (s.createKeyEntry domain nspace) s.nextId :=
  ⟨rfl, fun i hi => ⟨by simp [hi], funext fun sc => by simp [hi], by simp [hi]⟩⟩

theorem KeyStore.SameExcept.apply {s t : KeyStore} {id : Int} (h : s.SameExcept t id)
    {wr : DbWrite} (hw : wr.AtKey id) : s.SameExcept (t.apply wr) id := by
  obtain ⟨ha, hi⟩ := h
  cases wr with
  | insertBlob k sc b l =>
    cases hw
    refine ⟨ha, fun i hne => ?_⟩
    obtain ⟨h1, h2, h3⟩ := hi i hne
    refine ⟨h1, ?_, h3⟩
    funext sc'
    simp [KeyStore.apply, hne, h2]
  | insertKeyparameter k ps =>
    cases hw
    refine ⟨ha, fun i hne => ?_⟩
    obtain ⟨h1, h2, h3⟩ := hi i hne
    exact ⟨h1, h2, by simp [KeyStore.apply, hne, h3]⟩
  | createKeyEntry | rebindAlias => cases hw

theorem KeyStore.SameExcept.foldl {s t : KeyStore} {id : Int} (h : s.SameExcept t id)
    {ws : List DbWrite} (hws : ∀ wr ∈ ws, wr.AtKey id) :
    s.SameExcept (ws.foldl KeyStore.apply t) id := by
  induction ws generalizing t with
  | nil => exact h
  | cons wr ws ih =>
    exact ih (h.apply (hws wr (List.mem_cons_self _ _))) fun wr' h' => hws wr' (List.mem_cons_of_mem _ h')

/-- The plan after the key entry and before the alias: the blobs and the
parameters of the new key id. -/
def storeFront (id : Int) (keyParameters : List KeyParameter) (cert certChain : Option Blob)
    (blob : Blob) (secLevel : SecurityLevel) : List DbWrite :=
  .insertBlob id .kmBlob blob secLevel ::
    ((cert.map (DbWrite.insertBlob id .cert · secLevel)).toList ++
      (certChain.map (DbWrite.insertBlob id .certChain · secLevel)).toList ++
      [.insertKeyparameter id keyParameters])

theorem storePlan_eq (key : KeyDescriptor) (id : Int) (keyParameters : List KeyParameter)
    (cert certChain : Option Blob) (blob : Blob) (secLevel : SecurityLevel) :
    storePlan key id keyParameters cert certChain blob secLevel =
      .createKeyEntry key.domain key.nspace ::
        (storeFront id keyParameters cert certChain blob secLevel ++
          (key.«alias».map (DbWrite.rebindAlias id · key.domain key.nspace)).toList) := by
  cases cert <;> cases certChain <;> rfl

theorem storeFront_atKey (id : Int) (keyParameters : List KeyParameter)
    (cert certChain : Option Blob) (blob : Blob) (secLevel : SecurityLevel) :
    ∀ wr ∈ storeFront id keyParameters cert certChain blob secLevel, wr.AtKey id := by
  cases cert <;> cases certChain <;> simp [storeFront, DbWrite.AtKey]

/-- A list that ends in at most one element more than `front`, written as
`pre ++ wr :: rest`: everything in `pre` is in `front`. -/
theorem subset_of_append_cons {α : Type} {pre rest front l : List α} {x : α}
    (hl : l.length ≤ 1) (h : pre ++ x :: rest = front ++ l) : ∀ y ∈ pre, y ∈ front := by
  rcases List.append_eq_append_iff.mp h with ⟨a, rfl, -⟩ | ⟨c, rfl, hc⟩
  · exact fun y hy => List.mem_append_left a hy
  · have : c = [] := by
      rw [hc] at hl
      simp only [List.length_append, List.length_cons] at hl
      exact List.eq_nil_of_length_eq_zero (by omega)
    subst this
    simp

/-- The store after the writes of a prefix of the plan that stops before the
alias binding. -/
theorem sameExcept_storePlan_prefix (s : KeyStore) (key : KeyDescriptor)
    (keyParameters : List KeyParameter) (cert certChain : Option Blob) (blob : Blob)
    (secLevel : SecurityLevel) {pre : List DbWrite}
    (hpre : pre = [] ∨ ∃ pre', pre = .createKeyEntry key.domain key.nspace :: pre' ∧
      ∀ wr ∈ pre', wr ∈ storeFront s.nextId keyParameters cert certChain blob secLevel) :
    s.SameExcept (pre.foldl KeyStore.apply s) s.nextId := by
  rcases hpre with rfl | ⟨pre', rfl, hp⟩
  · exact .refl s _
  · exact (s.sameExcept_createKeyEntry key.domain key.nspace).foldl fun wr hw =>
      storeFront_atKey _ _ _ _ _ _ wr (hp wr hw)

/-- Collaborators for the examples: as `staleBlobEnv`, except that the Key Store
refuses every blob. -/
def refusingBlobEnv : Env :=
  { staleBlobEnv [] [] with
    answer := fun n c =>
      match c with
      | .db (.insertBlob ..) => .error (AnyhowError.ofError .sys)
      | c => (staleBlobEnv [] []).answer n c }

end Keystore2

import Keystore2.KeyIdGuard
import Keystore2.CreateOperation
import Keystore2.KeyCreation

/-!
# Keystore2 — the handlers as requests on one key id

What the calls of a request do with the KM blob of one key id `k` (`kTrace`):
a `load_key_entry` that resolved `k` takes its guard and loads its blob, an
accepted `upgradeKey` upgrades a blob, an accepted write of `k`'s KM blob
writes. Every stopping run of `create_operation` and `import_wrapped_key`,
whatever the collaborators answer, does so in the order of `Req.step`: the
upgrade is of the blob it loaded from `k`, and the write is of KeyMint's answer
under the guard of `k` it loaded. The key-creation handlers never touch a key id
the Key Store has already handed out. With `System.write_of_upgraded`, any
interleaving of such requests writes `k`'s KM blob only with the upgrade of its
current blob.

## Results

* `Svc.KPath` — a computation moves a request along `Req.step`; it is built up
  along binds (`Svc.kPath_bind`).
* `loadKeyEntry_kPath`, `upgradeKeyblobIfRequiredWith_kPath`,
  `storeNewKey_kPath` — the three steps of the handlers that touch a key.
* `keyCreation_kPath` — the shape of the three key creations, from its checks
  and its KeyMint part.
* `createOperation_kPath`, `importWrappedKey_kPath`, `generateKey_kPath`,
  `importKey_kPath` — the handlers, and `upgrades_under_guard` for all of them
  together with any interleaving of their requests.
-/

namespace Keystore2

open KeystoreSecurityLevel

variable (env : Env)

-- ---------------------------------------------------------------------------
-- What a request's calls do with a key id
-- ---------------------------------------------------------------------------

/-- What an event does with the KM blob of key id `k`, made when the Key Store
is `s`: a `load_key_entry` that resolved `k` loads `k`'s KM blob, when it has
one; an accepted `upgradeKey` upgrades its argument; an accepted write of the KM
blob at `k` writes. -/
def Event.kStep (k : Int) (s : KeyStore) : Event → Option KStep
  | ⟨.loadKeyEntry .., r⟩ =>
    match (r : Except AnyhowError (Int × KeyDescriptor × Option KeyPermSet)) with
    | .ok (id, _, _) => if id = k then (s.kmBlob k).map .load else none
    | .error _ => none
  | ⟨.upgradeKey old _, r⟩ =>
    match (r : Except Error Blob) with
    | .ok new => some (.upgrade old new)
    | .error _ => none
  | ⟨.db (.insertBlob id .kmBlob b _), r⟩ =>
    match (r : Except AnyhowError Unit) with
    | .ok () => if id = k then some (.write b) else none
    | .error _ => none
  | _ => none

/-- What the events `l` do with key id `k`, from the Key Store `s`. -/
def kTrace (k : Int) : KeyStore → List Event → List KStep
  | _, [] => []
  | s, ev :: l => (ev.kStep k s).toList ++ kTrace k (applyWrites s [ev]) l

@[simp] theorem kTrace_nil (k : Int) (s : KeyStore) : kTrace k s [] = [] := rfl

theorem kTrace_append (k : Int) (s : KeyStore) (l₁ l₂ : List Event) :
    kTrace k s (l₁ ++ l₂) = kTrace k s l₁ ++ kTrace k (applyWrites s l₁) l₂ := by
  induction l₁ generalizing s with
  | nil => rfl
  | cons ev l ih =>
    rw [List.cons_append, kTrace, kTrace, ih, List.append_assoc, ← applyWrites_append]
    rfl

/-- The calls that may do something with a key's KM blob. -/
def Call.touchesKey : Call → Bool
  | .loadKeyEntry .. | .upgradeKey .. | .db (.insertBlob _ .kmBlob _ _) => true
  | _ => false

theorem Event.kStep_eq_none {ev : Event} (h : ev.call.touchesKey = false) (k : Int)
    (s : KeyStore) : ev.kStep k s = none := by
  obtain ⟨c, r⟩ := ev
  unfold Event.kStep
  split <;> simp_all [Call.touchesKey]

/-- A write that is not of `k`'s KM blob does nothing with `k`. -/
theorem Event.kStep_db_eq_none {ev : Event} {wr : DbWrite} (hc : ev.call = .db wr) {k : Int}
    (hwr : ∀ b l, wr ≠ .insertBlob k .kmBlob b l) (s : KeyStore) : ev.kStep k s = none := by
  obtain ⟨c, r⟩ := ev
  cases hc
  cases wr with
  | insertBlob id sc b l =>
    cases sc with
    | kmBlob =>
      have hid : id ≠ k := fun h => hwr b l (h ▸ rfl)
      rcases (r : Except AnyhowError Unit) with _ | ⟨⟩ <;> simp [Event.kStep, hid]
    | _ => rfl
  | _ => rfl

theorem kTrace_eq_nil {k : Int} {l : List Event} (h : ∀ ev ∈ l, ∀ s, ev.kStep k s = none)
    (s : KeyStore) : kTrace k s l = [] := by
  induction l generalizing s with
  | nil => rfl
  | cons ev l ih =>
    rw [kTrace, h ev (List.mem_cons_self _ _), Option.toList_none, List.nil_append]
    exact ih (fun ev' h' => h ev' (List.mem_cons_of_mem _ h')) _

-- ---------------------------------------------------------------------------
-- Computations that move a request
-- ---------------------------------------------------------------------------

namespace Svc

variable {ε ε' α β : Type}

/-- From `q`, every stopping run of `x` from a Key Store that has handed out
the key id `k` moves the request along `Req.step`, to a `q'` with `P a q'` when
`x` returns `a`. -/
def KPath (k : Int) (q : Req) (P : α → Req → Prop) (x : Svc ε α) : Prop :=
  ∀ ⦃w r w'⦄, k < w.store.nextId → x.run w = some (r, w') →
    ∃ q', q.run (kTrace k w.store (w.eventsTo w')) = some q' ∧ ∀ a, r = .ok a → P a q'

theorem kPath_of_onlyCalls {k : Int} {q : Req} {P : α → Req → Prop} {x : Svc ε α}
    (hx : OnlyCalls (fun c => c.touchesKey = false) x) (hP : ∀ a, P a q) : KPath k q P x :=
  fun _ _ _ _ h => ⟨q, by rw [kTrace_eq_nil fun ev hev => Event.kStep_eq_none (hx h ev hev) _]; rfl,
    fun a _ => hP a⟩

theorem kPath_bind {k : Int} {q : Req} {P : α → Req → Prop} {R : β → Req → Prop}
    {x : Svc ε α} {f : α → Svc ε β} (hx : KPath k q P x)
    (hf : ∀ a q', P a q' → KPath k q' R (f a)) : KPath k q R (x >>= f) := by
  intro w r w' hk h
  rcases bind_eq_some h with ⟨a, w1, h1, h2⟩ | ⟨e, h1, rfl⟩
  · obtain ⟨q1, hq1, hP⟩ := hx hk h1
    have hf1 := follows _ h1
    obtain ⟨q2, hq2, hR⟩ := hf a q1 (hP a rfl) (Int.lt_of_lt_of_le hk hf1.nextId_le) h2
    refine ⟨q2, ?_, hR⟩
    rw [World.eventsTo_trans hf1 (follows _ h2), kTrace_append, ← hf1.store_eq, Req.run_append,
      hq1]
    exact hq2
  · obtain ⟨q1, hq1, -⟩ := hx hk h1
    exact ⟨q1, hq1, fun a ha => by cases ha⟩

theorem kPath_mapError {k : Int} {q : Req} {P : α → Req → Prop} {x : Svc ε α} {g : ε → ε'}
    (hx : KPath k q P x) : KPath k q P (x.mapError g) := by
  intro w r w' hk h
  obtain ⟨r', h', rfl⟩ := mapError_eq_some h
  obtain ⟨q', hq', hP⟩ := hx hk h'
  exact ⟨q', hq', fun a ha => hP a (by cases r' <;> simp_all [Except.mapError])⟩

theorem kPath_pure {k : Int} {q : Req} {P : α → Req → Prop} {a : α} (h : P a q) :
    KPath k q P (pure a : Svc ε α) :=
  fun _ _ _ _ h' => by cases h'; exact ⟨q, by simp, fun _ ha => by cases ha; exact h⟩

theorem kPath_throw {k : Int} {q : Req} {P : α → Req → Prop} (e : ε) :
    KPath k q P (throw e : Svc ε α) :=
  fun _ _ _ _ h => by cases h; exact ⟨q, by simp, fun _ ha => by cases ha⟩

/-- A step that touches no key, then the rest. -/
theorem kPath_bind_noTouch {k : Int} {q : Req} {R : β → Req → Prop} {x : Svc ε α}
    {f : α → Svc ε β} (hx : OnlyCalls (fun c => c.touchesKey = false) x)
    (hf : ∀ a, KPath k q R (f a)) : KPath k q R (x >>= f) :=
  kPath_bind (kPath_of_onlyCalls (P := fun _ q' => q' = q) hx fun _ => rfl) fun a _ h => h ▸ hf a

theorem kPath_weaken {k : Int} {q : Req} {P P' : α → Req → Prop} {x : Svc ε α}
    (hx : KPath k q P x) (hP : ∀ a q', P a q' → P' a q') : KPath k q P' x := fun _ _ _ hk h =>
  let ⟨q', hq', hp⟩ := hx hk h
  ⟨q', hq', fun a ha => hP a q' (hp a ha)⟩

end Svc

-- ---------------------------------------------------------------------------
-- The calls that touch a key
-- ---------------------------------------------------------------------------

/-- `load_key_entry` with the use check of both call sites, from a request that
has not loaded `k`: if it resolved `k` and `k` has a KM blob, the request loaded
that blob, which the entry returns; another key id leaves the request idle. -/
theorem loadKeyEntry_kPath (k : Int) (key : KeyDescriptor) (uid : UInt32) :
    Svc.KPath k .idle (fun ge q' =>
        (ge.1.id = k → ∀ b, ge.2.kmBlob = some b → q' = .loaded b) ∧ (ge.1.id ≠ k → q' = .idle))
      (KeystoreDB.loadKeyEntry env key .km uid fun k av => checkKeyPermission env .use k av) := by
  intro w r w' _ h
  obtain ⟨ans, w1, h1, h2⟩ | ⟨e, h1, -⟩ := Svc.bind_eq_some h
  swap
  · cases h1
  rw [Svc.run_ask] at h1
  cases h1
  -- after the lookup: the use check and the read, which touch no key and write nothing
  have hn : ∀ ev ∈ (w.record ⟨.loadKeyEntry key .km uid,
      env.answer w.log.length (.loadKeyEntry key .km uid)⟩).eventsTo w',
      ev.call.touchesKey = false ∧ ev.call.isDb = false := by
    refine (?_ : Svc.OnlyCalls (fun c => c.touchesKey = false ∧ c.isDb = false) _) h2
    exact Svc.onlyCalls_bind (Svc.onlyCalls_ofExcept _ _) fun ⟨_, _, _⟩ =>
      Svc.onlyCalls_bind (checkKeyPermission_onlyCalls env fun _ => ⟨rfl, rfl⟩) fun _ =>
        Svc.onlyCalls_bind (Svc.onlyCalls_read _ _) fun _ => Svc.onlyCalls_pure _ _
  have hst : w'.store = w.store := by
    rw [(Svc.follows _ h2).store_eq, World.record_store]
    exact applyWrites_of_not_db fun ev hev => (hn ev hev).2
  have hres : ∀ g e, r = .ok (g, e) → ∃ ak av,
      env.answer w.log.length (.loadKeyEntry key .km uid) = .ok (g.id, ak, av) ∧
        e.kmBlob = w.store.kmBlob g.id := by
    rintro g e rfl
    obtain ⟨ak, av, ha, -, hb⟩ := KeystoreDB.loadKeyEntry_ok env h
    exact ⟨ak, av, ha, hst ▸ hb⟩
  rw [World.eventsTo_trans (w.follows_record _) (Svc.follows _ h2), World.eventsTo_record,
    List.singleton_append, kTrace, kTrace_eq_nil fun ev hev => Event.kStep_eq_none (hn ev hev).1 _,
    List.append_nil]
  rcases hans : (env.answer w.log.length (.loadKeyEntry key .km uid) :
    Except AnyhowError (Int × KeyDescriptor × Option KeyPermSet)) with e' | ⟨id, ak, av⟩
  · refine ⟨.idle, by simp [Event.kStep, hans], fun ⟨g, e⟩ hr => ?_⟩
    obtain ⟨_, _, ha, -⟩ := hres g e hr
    cases hans.symm.trans ha
  by_cases hid : id = k
  · subst hid
    cases hb : w.store.kmBlob id with
    | none =>
      refine ⟨.idle, by simp [Event.kStep, hans, hb], fun ⟨g, e⟩ hr => ?_⟩
      obtain ⟨_, _, ha, he⟩ := hres g e hr
      cases hans.symm.trans ha
      exact ⟨fun _ b hb' => by simp_all, fun h => absurd rfl h⟩
    | some b =>
      refine ⟨.loaded b, by simp [Event.kStep, hans, hb, Req.step], fun ⟨g, e⟩ hr => ?_⟩
      obtain ⟨_, _, ha, he⟩ := hres g e hr
      cases hans.symm.trans ha
      exact ⟨fun _ b' hb' => by simp_all, fun h => absurd rfl h⟩
  · refine ⟨.idle, by simp [Event.kStep, hans, hid], fun ⟨g, e⟩ hr => ?_⟩
    obtain ⟨_, _, ha, -⟩ := hres g e hr
    cases hans.symm.trans ha
    exact ⟨fun h => absurd h hid, fun _ => rfl⟩

/-- KeyMint's `upgradeKey` on `blob`, from a request that can take that upgrade. -/
theorem upgradeKey_kPath (k : Int) {q : Req} {blob : Blob} (params : List KmKeyParameter)
    (hq : ∀ new, (q.step (.upgrade blob new)).isSome) :
    Svc.KPath k q (fun new q' => q.step (.upgrade blob new) = some q')
      (do Svc.ofExcept (← Svc.ask env (.upgradeKey blob params)) : Svc Error Blob) := by
  intro w r w' _ h
  simp only [Svc.run_bind, Svc.run_ask, Svc.run_ofExcept] at h
  cases h
  rw [World.eventsTo_record]
  rcases hu : (env.answer w.log.length (.upgradeKey blob params) : Except Error Blob) with e | new
  · exact ⟨q, by simp [kTrace, Event.kStep, hu], fun _ ha => by cases ha⟩
  · obtain ⟨q', hq'⟩ := Option.isSome_iff_exists.mp (hq new)
    exact ⟨q', by simp [kTrace, Event.kStep, hu, hq'], fun _ ha => by cases ha; exact hq'⟩

/-- A KM blob write under the guard `g`: the request takes it when `g` is `k`'s
guard and the Key Store accepts it. -/
theorem insertBlob_kPath (k : Int) {q : Req} (g : KeyIdGuard) (b : Blob) (secLevel : SecurityLevel)
    (hq : g.id = k → (q.step (.write b)).isSome) :
    Svc.KPath k q (fun _ q' => (g.id = k ∧ q.step (.write b) = some q') ∨ (g.id ≠ k ∧ q' = q))
      (KeystoreDB.insertBlob env g .kmBlob b secLevel) := by
  intro w r w' _ h
  rw [KeystoreDB.insertBlob, KeystoreDB.run_write] at h
  cases h
  rw [World.eventsTo_record]
  rcases ha : (env.answer w.log.length (.db (.insertBlob g.id .kmBlob b secLevel)) :
    Except AnyhowError Unit) with e | ⟨⟩
  · exact ⟨q, by simp [kTrace, Event.kStep, ha], fun _ h => by cases h⟩
  by_cases hid : g.id = k
  · obtain ⟨q', hq'⟩ := Option.isSome_iff_exists.mp (hq hid)
    exact ⟨q', by simp [kTrace, Event.kStep, ha, hid, hq'], fun _ _ => .inl ⟨hid, hq'⟩⟩
  · exact ⟨q, by simp [kTrace, Event.kStep, ha, hid], fun _ _ => .inr ⟨hid, rfl⟩⟩

/-- **The upgrade under the guard.** The protocol upgrades the blob it was given
and writes KeyMint's answer under the guard it was given: from a request that
loaded that blob from `k` and holds `k`'s guard, or from one that has not
loaded `k` and was given no guard of `k`, it follows `Req.step`. -/
theorem upgradeKeyblobIfRequiredWith_kPath {T : Type} (self : KeystoreSecurityLevel) (k : Int)
    {q : Req} {keyIdGuard : Option KeyIdGuard} {blob : Blob} {params : List KmKeyParameter}
    {f : Blob → Svc Error T} (hf : ∀ b, Svc.OnlyCalls (fun c => c.touchesKey = false) (f b))
    (hq : (q = .loaded blob ∧ keyIdGuard = some ⟨k⟩) ∨
      (q = .idle ∧ ∀ g, keyIdGuard = some g → g.id ≠ k)) :
    Svc.KPath k q (fun _ _ => True)
      (upgradeKeyblobIfRequiredWith env self keyIdGuard blob params f) := by
  unfold upgradeKeyblobIfRequiredWith
  refine Svc.kPath_bind_noTouch (Svc.onlyCalls_observe (hf blob)) ?_
  rintro (e | v)
  · dsimp only
    split
    · refine Svc.kPath_bind (Svc.kPath_mapError (upgradeKey_kPath env k params ?_)) ?_
      · intro new
        rcases hq with ⟨rfl, -⟩ | ⟨rfl, -⟩ <;> simp [Req.step]
      intro b1 q1 hq1
      refine Svc.kPath_bind (P := fun _ _ => True) ?_ fun _ q2 _ =>
        Svc.kPath_bind_noTouch (Svc.onlyCalls_observe (hf b1)) fun r => ?_
      · cases keyIdGuard with
        | none => exact Svc.kPath_pure trivial
        | some g =>
          refine Svc.kPath_weaken (Svc.kPath_mapError (insertBlob_kPath env k g b1 _ ?_))
            fun _ _ _ => trivial
          intro hid
          rcases hq with ⟨rfl, -⟩ | ⟨-, hg⟩
          · simp only [Req.step, if_pos] at hq1
            cases hq1
            simp [Req.step]
          · exact absurd hid (hg g rfl)
      · cases r
        exacts [Svc.kPath_throw _, Svc.kPath_pure trivial]
    · exact Svc.kPath_throw _
  · exact Svc.kPath_pure trivial

/-- The writes of `store_new_key`'s plan are all at the new key id. -/
theorem storePlan_ne_insertBlob {k id : Int} (hk : id ≠ k) (key : KeyDescriptor)
    (keyParameters : List KeyParameter) (cert certChain : Option Blob) (blob : Blob)
    (secLevel : SecurityLevel) :
    ∀ wr ∈ storePlan key id keyParameters cert certChain blob secLevel, ∀ b l,
      wr ≠ .insertBlob k .kmBlob b l := by
  intro wr hwr b l he
  subst he
  rw [storePlan_eq] at hwr
  rcases List.mem_cons.mp hwr with h | h
  · cases h
  rcases List.mem_append.mp h with h | h
  · exact hk (storeFront_atKey _ _ _ _ _ _ _ h).symm
  · cases key.«alias» <;> simp at h

/-- `store_new_key` writes only at the Key Store's next free key id, so it does
nothing with a key id the store has handed out. -/
theorem storeNewKey_kPath (k : Int) (q : Req) (self : KeystoreSecurityLevel) (key : KeyDescriptor)
    (keyCharacteristics : KeyCharacteristics) (kmCertChain : Option (List KmCertificate))
    (blob : Blob) :
    Svc.KPath k q (fun _ q' => q' = q)
      (storeNewKey env self key keyCharacteristics kmCertChain blob) := by
  intro w r w' hk h
  refine ⟨q, ?_, fun _ _ => rfl⟩
  suffices hn : ∀ ev ∈ w.eventsTo w', ∀ s, ev.kStep k s = none by
    rw [kTrace_eq_nil hn]
    rfl
  obtain ⟨r', hb, hn, -⟩ := storeNewKey_run env self key keyCharacteristics kmCertChain blob h
  by_cases hd : key.domain = Domain.blob
  · rw [(hb hd).2]
    simp
  have hplan := storePlan_ne_insertBlob (Int.ne_of_gt hk) key
    (keyCharacteristicsToInternal env.convertFromWire keyCharacteristics self.securityLevel)
    (splitCertChain kmCertChain).1 (splitCertChain kmCertChain).2 blob self.securityLevel
  intro ev hev s
  rcases storeNewKeyInDb_log env self key _ _ _ blob w (hn hd) with
    ⟨hev', -⟩ | ⟨e, pre, wr, rest, ew, -, hws, hev'⟩
  · rw [hev', acceptedWrites, List.mem_map] at hev
    obtain ⟨wr, hwr, rfl⟩ := hev
    exact Event.kStep_db_eq_none rfl (hplan wr hwr) s
  · rw [hev', List.mem_append, acceptedWrites, List.mem_map, List.mem_singleton] at hev
    rcases hev with ⟨wr', hwr', rfl⟩ | rfl
    · exact Event.kStep_db_eq_none rfl (hplan wr' (hws ▸ List.mem_append_left _ hwr')) s
    · exact Event.kStep_db_eq_none rfl (hplan wr (hws ▸ List.mem_append_right _ (List.mem_cons_self _ _))) s

-- ---------------------------------------------------------------------------
-- The handlers
-- ---------------------------------------------------------------------------

/-- The blob `create_operation` begins with: for a stored key, the blob it
loaded, with the guard of `k` when it loaded `k`; otherwise no guard of `k`. -/
theorem createOperationKmBlob_kPath (k : Int) (key : KeyDescriptor) (uid : UInt32) :
    Svc.KPath k .idle (fun bg q' => (q' = .loaded bg.1 ∧ bg.2 = some ⟨k⟩) ∨
        (q' = .idle ∧ ∀ g, bg.2 = some g → g.id ≠ k))
      (createOperationKmBlob env key uid) := by
  unfold createOperationKmBlob
  split
  · refine Svc.kPath_bind_noTouch (Svc.onlyCalls_mapError _
      (checkKeyPermission_onlyCalls env fun _ => rfl)) fun _ => ?_
    split
    exacts [Svc.kPath_pure (.inr ⟨rfl, fun _ h => by cases h⟩), Svc.kPath_throw _]
  · refine Svc.kPath_bind (Svc.kPath_mapError (loadKeyEntry_kPath env k key uid)) ?_
    rintro ⟨g, e⟩ q1 ⟨h1, h2⟩
    dsimp only
    split
    · rename_i b0 hb
      refine Svc.kPath_pure ?_
      by_cases hid : g.id = k
      · exact .inl ⟨h1 hid b0 hb, by cases g; cases hid; rfl⟩
      · exact .inr ⟨h2 hid, fun g' hg' => by cases hg'; exact hid⟩
    · exact Svc.kPath_throw _

theorem createOperation_kPath (self : KeystoreSecurityLevel) (k : Int) (key : KeyDescriptor)
    (params : List KmKeyParameter) (forced : Bool) :
    Svc.KPath k .idle (fun _ _ => True) (createOperation env self key params forced) := by
  unfold createOperation
  refine Svc.kPath_bind_noTouch (Svc.onlyCalls_read _ _) fun uid => ?_
  refine Svc.kPath_bind (createOperationKmBlob_kPath env k key uid) ?_
  rintro ⟨b0, g⟩ q1 hq1
  refine Svc.kPath_bind_noTouch (Svc.onlyCalls_ofExcept _ _) fun _ => ?_
  refine Svc.kPath_bind_noTouch (Svc.onlyCalls_mapError _ (Asp.getInterface_onlyCalls env rfl))
    fun _ => ?_
  refine Svc.kPath_bind (Svc.kPath_mapError (upgradeKeyblobIfRequiredWith_kPath env self k
    (fun _ => beginLoop_onlyCalls env rfl rfl) hq1)) ?_
  rintro ⟨br, _⟩ _ _
  refine Svc.kPath_of_onlyCalls ?_ fun _ => trivial
  dsimp only
  split
  all_goals refine Svc.onlyCalls_bind ?_ fun _ => Svc.onlyCalls_bind (Svc.onlyCalls_mapError _
    (Svc.onlyCalls_bind (Svc.onlyCalls_ask env rfl) fun _ => Svc.onlyCalls_ofExcept _ _)) fun _ =>
      Svc.onlyCalls_pure _ _
  exacts [Svc.onlyCalls_ask env rfl, Svc.onlyCalls_throw _ _]

/-- The shape moves a request as its checks and KeyMint's part do;
`store_new_key` touches no key the Key Store has handed out. -/
theorem keyCreation_kPath (self : KeystoreSecurityLevel) {ρ : Type} {checks : Svc AnyhowError ρ}
    {keyOf : ρ → KeyDescriptor}
    {km : ρ → Svc AnyhowError (Blob × KeyCharacteristics × Option (List KmCertificate))}
    {msg : String} {k : Int} {q : Req} {P : ρ → Req → Prop} {R : Req → Prop}
    (hc : Svc.KPath k q P checks) (hkm : ∀ p q', P p q' → Svc.KPath k q' (fun _ q'' => R q'') (km p)) :
    Svc.KPath k q (fun _ q' => R q') (keyCreation env self checks keyOf km msg) := by
  unfold keyCreation
  exact Svc.kPath_bind hc fun p q1 hp => Svc.kPath_bind (hkm p q1 hp) fun ⟨_, _, _⟩ q2 hq2 =>
    Svc.kPath_weaken (Svc.kPath_mapError (storeNewKey_kPath env k q2 self _ _ _ _))
      fun _ _ h => h ▸ hq2

/-- The checks of `import_wrapped_key` load the wrapping key: if it is `k`, the
request has loaded the blob they hand on, under `k`'s guard; otherwise it is
still idle. -/
theorem importWrappedKeyChecks_kPath (k : Int) (key wrappingKey : KeyDescriptor)
    (maskingKey : Option Blob) (authenticators : List AuthenticatorSpec) :
    Svc.KPath k .idle (fun p q' => (q' = .loaded p.wrappingKeyBlob ∧ p.wrappingKeyIdGuard = ⟨k⟩) ∨
        (q' = .idle ∧ p.wrappingKeyIdGuard.id ≠ k))
      (importWrappedKeyChecks env key wrappingKey maskingKey authenticators) := by
  unfold importWrappedKeyChecks
  refine Svc.kPath_bind_noTouch (requireAlias_onlyCalls _ _ _) fun _ =>
    Svc.kPath_bind_noTouch ?_ fun _ => Svc.kPath_bind_noTouch ?_ fun _ =>
    Svc.kPath_bind_noTouch (Svc.onlyCalls_read _ _) fun _ => ?_
  · split
    exacts [Svc.onlyCalls_throw _ _, Svc.onlyCalls_pure _ _]
  · split
    exacts [Svc.onlyCalls_pure _ _, Svc.onlyCalls_throw _ _]
  refine Svc.kPath_bind_noTouch (Svc.onlyCalls_mapError _
    (checkKeyPermission_onlyCalls env fun _ => rfl)) fun _ =>
    Svc.kPath_bind_noTouch (Svc.onlyCalls_read _ _) fun _ => ?_
  refine Svc.kPath_bind (Svc.kPath_mapError (loadKeyEntry_kPath env k wrappingKey _)) ?_
  rintro ⟨g, e⟩ q1 ⟨h1, h2⟩
  dsimp only
  -- the wrapping key's blob, loaded under `g`
  cases hwb : e.kmBlob with
  | none => exact Svc.kPath_bind (P := fun _ _ => False) (Svc.kPath_throw _) fun _ _ h => h.elim
  | some wb =>
  refine Svc.kPath_bind (Svc.kPath_pure (P := fun b q => b = wb ∧ q = q1) ⟨rfl, rfl⟩) ?_
  rintro b _ ⟨rfl, rfl⟩
  refine Svc.kPath_bind_noTouch ?_ fun _ => Svc.kPath_bind_noTouch ?_ fun _ =>
    Svc.kPath_bind_noTouch (Asp.getInterface_onlyCalls env rfl) fun _ => Svc.kPath_pure ?_
  · split
    exacts [Svc.onlyCalls_pure _ _, Svc.onlyCalls_throw _ _]
  · split
    exacts [Svc.onlyCalls_pure _ _, Svc.onlyCalls_throw _ _]
  by_cases hid : g.id = k
  · exact .inl ⟨h1 hid _ hwb, by cases g; cases hid; rfl⟩
  · exact .inr ⟨h2 hid, hid⟩

/-- KeyMint's part of `import_wrapped_key` runs the upgrade protocol on the
blob the checks loaded, under its guard. -/
theorem importWrappedKeyKm_kPath (self : KeystoreSecurityLevel) (k : Int)
    (params : List KmKeyParameter) (p : WrappedKeyImport) {q : Req}
    (hq : (q = .loaded p.wrappingKeyBlob ∧ p.wrappingKeyIdGuard = ⟨k⟩) ∨
      (q = .idle ∧ p.wrappingKeyIdGuard.id ≠ k)) :
    Svc.KPath k q (fun _ _ => True) (importWrappedKeyKm env self params p) := by
  unfold importWrappedKeyKm
  refine Svc.kPath_bind (upgradeKeyblobIfRequiredWith_kPath env self k (fun _ =>
    Svc.onlyCalls_ask_ofExcept env rfl fun _ => Svc.onlyCalls_bind (Svc.onlyCalls_ofExcept _ _)
      fun ⟨_, _⟩ => Svc.onlyCalls_pure _ _) ?_) fun ⟨⟨_, _⟩, _⟩ _ _ => Svc.kPath_pure trivial
  rcases hq with ⟨rfl, hg⟩ | ⟨rfl, hg⟩
  · exact .inl ⟨rfl, by rw [hg]⟩
  · exact .inr ⟨rfl, fun g hg' => by cases hg'; exact hg⟩

theorem importWrappedKey_kPath (self : KeystoreSecurityLevel) (k : Int)
    (key wrappingKey : KeyDescriptor) (maskingKey : Option Blob) (params : List KmKeyParameter)
    (authenticators : List AuthenticatorSpec) :
    Svc.KPath k .idle (fun _ _ => True)
      (importWrappedKey env self key wrappingKey maskingKey params authenticators) :=
  keyCreation_kPath env self (importWrappedKeyChecks_kPath env k key wrappingKey maskingKey
    authenticators) fun p _ hq => importWrappedKeyKm_kPath env self k params p hq

theorem generateKey_kPath (self : KeystoreSecurityLevel) (k : Int) (key : KeyDescriptor)
    (attestationKey : Option KeyDescriptor) (params : List KmKeyParameter) (flags : Int)
    (entropy : Blob) :
    Svc.KPath k .idle (fun _ q => q = .idle)
      (generateKey env self key attestationKey params flags entropy) :=
  keyCreation_kPath env self (Svc.kPath_of_onlyCalls (P := fun _ q => q = .idle)
    (Svc.OnlyCallsOf.onlyCalls fun uid => generateKeyChecks_calls env uid key (fun _ => rfl) rfl)
    fun _ => rfl) fun _ _ hq => hq ▸ Svc.kPath_of_onlyCalls
      (generateKeyKm_calls env params entropy rfl rfl) fun _ => rfl

theorem importKey_kPath (self : KeystoreSecurityLevel) (k : Int) (key : KeyDescriptor)
    (attestationKey : Option KeyDescriptor) (params : List KmKeyParameter) (flags : Int)
    (keyData : Blob) :
    Svc.KPath k .idle (fun _ q => q = .idle)
      (importKey env self key attestationKey params flags keyData) :=
  keyCreation_kPath env self (Svc.kPath_of_onlyCalls (P := fun _ q => q = .idle)
    (Svc.OnlyCallsOf.onlyCalls fun uid => importKeyChecks_calls env uid key params (fun _ => rfl) rfl)
    fun _ => rfl) fun _ _ hq => hq ▸ Svc.kPath_of_onlyCalls
      (importKeyKm_calls env params keyData _ rfl) fun _ => rfl

-- ---------------------------------------------------------------------------
-- Upgrades under the guard
-- ---------------------------------------------------------------------------

/-- **Upgrades under the guard.** Take a key id `k` the Key Store has handed
out. For every request and every behaviour of the collaborators, every stopping
run of `create_operation` and `import_wrapped_key` is a request on `k` that
follows `Req.step`: it upgrades a blob of `k` only after loading it under `k`'s
guard, and writes `k`'s KM blob only with KeyMint's answer to that upgrade;
`generate_key` and `import_key` leave `k` alone. In any interleaving of any
number of such requests, a load waiting for `k`'s guard to be free, every write
of `k`'s KM blob stores KeyMint's upgrade of a blob the writer loaded, and that
blob is still `k`'s up to the write. -/
theorem upgrades_under_guard (self : KeystoreSecurityLevel) (k : Int) :
    (∀ key params forced,
      Svc.KPath k .idle (fun _ _ => True) (createOperation env self key params forced)) ∧
    (∀ key wrappingKey maskingKey params authenticators, Svc.KPath k .idle (fun _ _ => True)
      (importWrappedKey env self key wrappingKey maskingKey params authenticators)) ∧
    (∀ key attestationKey params flags entropy, Svc.KPath k .idle (fun _ q => q = .idle)
      (generateKey env self key attestationKey params flags entropy)) ∧
    (∀ key attestationKey params flags keyData, Svc.KPath k .idle (fun _ q => q = .idle)
      (importKey env self key attestationKey params flags keyData)) ∧
    (∀ (ι : Type) [DecidableEq ι] (blob : Option Blob) (sched : List (ι × KStep))
      (s s' : System ι) (i : ι) (b : Blob),
      (System.init blob).run sched = some s → s.step i (.write b) = some s' →
        ∃ old, s.reqs i = .upgraded old b ∧ s.blob = some old ∧ s'.blob = some b) :=
  ⟨createOperation_kPath env self k, importWrappedKey_kPath env self k,
    generateKey_kPath env self k, importKey_kPath env self k,
    fun _ _ blob _ _ _ _ _ h hw => System.write_of_upgraded blob h hw⟩

/-- Two requests on a key whose blob is `[1]`: one loads it and has KeyMint
upgrade it to `[2]`, while the other upgrades a `BLOB` key's blob. The write
stores `[2]`, the upgrade of `[1]`, over `[1]`. -/
theorem upgrades_under_guard_two_requests :
    ∃ s s', (System.init (some [1]) : System Bool).run
        [(false, .load [1]), (true, .upgrade [5] [6]), (false, .upgrade [1] [2])] = some s ∧
      s.step false (.write [2]) = some s' ∧ s.reqs false = .upgraded [1] [2] ∧
      s.blob = some [1] ∧ s'.blob = some [2] := by
  have h1 : ((System.init (some [1]) : System Bool).run
      [(false, .load [1]), (true, .upgrade [5] [6]), (false, .upgrade [1] [2])]).isSome := rfl
  have h2 : ((Option.get _ h1).step false (.write [2])).isSome := rfl
  obtain ⟨old, ho, hb, hb'⟩ := (upgrades_under_guard (staleBlobEnv [] []) ⟨⟨1⟩⟩ 1).2.2.2.2 Bool
    (some [1]) _ _ _ false [2] (Option.some_get h1).symm (Option.some_get h2).symm
  obtain rfl : old = [1] := Option.some.inj (hb.symm.trans rfl)
  exact ⟨_, _, (Option.some_get h1).symm, (Option.some_get h2).symm, ho, hb, hb'⟩

end Keystore2

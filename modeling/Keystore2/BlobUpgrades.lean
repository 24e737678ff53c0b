import Keystore2.StoreIntegrity
import Keystore2.GuardedUpgrade
import Keystore2.Attribution
import Mathlib.Logic.Relation

/-!
# Keystore2 — the KM blob of a key over whole runs of the service

`StoreIntegrity` shows that a key the Key Store has handed out keeps all it has
but its KM blob. This module says where the KM blob can go: the only write of
an existing key's KM blob is the upgrade protocol's, which stores KeyMint's
upgrade of the blob the request loaded under the key's guard (`GuardedUpgrade`).
Run after run, the blob of such a key moves only along upgrades KeyMint
answered during the run (`UpgradeChain`), and a key without a KM blob never gets
one.

The rest of the file is its helper lemmas, in three layers: what one event does
with the blob of a key id (`Event.kStep_cases`), what a request has done with it
at each point of its path along `Req.step` (`Req.BlobInv`, and `Req.writesLeft`
for the one write a request may make), and the runs.

## Results

* `dispatch_kmBlob` — one transaction: at most one write of the blob, and the
  blob is as it was, or KeyMint's upgrade, in the transaction, of the blob it
  loaded.
* `serve_kmBlob_upgrades` — every run: the blob at the end comes from the blob at
  the start by a chain of upgrades answered during the run, and every
  transaction of the run does what `dispatch_kmBlob` says.
-/

namespace Keystore2

open KeystoreSecurityLevel

variable (env : Env)

/-- KeyMint answered an `upgradeKey` of `old` with `new` in one of the events `l`. -/
def Upgraded (l : List Event) (old new : Blob) : Prop :=
  ∃ params, (⟨.upgradeKey old params, Except.ok new⟩ : Event) ∈ l

/-- The KM blob `b'` comes from `b` by upgrades KeyMint answered in `l`: both
are a blob, linked by a chain of such upgrades, or neither is. -/
def UpgradeChain (l : List Event) : Option Blob → Option Blob → Prop :=
  Option.Rel (Relation.ReflTransGen (Upgraded l))

theorem UpgradeChain.refl (l : List Event) : ∀ b, UpgradeChain l b b
  | some _ => .some .refl
  | none => .none

theorem UpgradeChain.trans {l : List Event} {b₁ b₂ b₃ : Option Blob} (h₁ : UpgradeChain l b₁ b₂)
    (h₂ : UpgradeChain l b₂ b₃) : UpgradeChain l b₁ b₃ := by
  cases h₁ with
  | none => exact h₂
  | some h => cases h₂ with
    | some h' => exact .some (h.trans h')

theorem UpgradeChain.mono {l l' : List Event} (hl : ∀ ev ∈ l, ev ∈ l') {b b' : Option Blob}
    (h : UpgradeChain l b b') : UpgradeChain l' b b' := by
  cases h with
  | none => exact .none
  | some h => exact .some (h.mono fun _ _ ⟨ps, hm⟩ => ⟨ps, hl _ hm⟩)

/-- `load_key_entry` resolved a descriptor to key id `k` in one of the events
`l`. -/
def LoadsKey (l : List Event) (k : Int) : Prop :=
  ∃ key bits uid d av, (⟨.loadKeyEntry key bits uid, Except.ok (k, d, av)⟩ : Event) ∈ l

/-- The event is an accepted write of the KM blob of key id `k`. -/
def Event.writesKmBlob (k : Int) : Event → Bool
  | ⟨.db (.insertBlob id .kmBlob _ _), r⟩ =>
    match (r : Except AnyhowError Unit) with
    | .ok () => decide (id = k)
    | .error _ => false
  | _ => false

-- ---------------------------------------------------------------------------
-- One event
-- ---------------------------------------------------------------------------

/-- What one event does with the KM blob of a key id `k` the store has handed
out: nothing; or it loads the current blob and writes nothing; or it is
KeyMint's answer to an upgrade and writes nothing; or it writes the blob it
reports. -/
theorem Event.kStep_cases {k : Int} {t : KeyStore} (hk : k < t.nextId) (ev : Event) :
    (ev.kStep k t = none ∧ (applyWrites t [ev]).kmBlob k = t.kmBlob k) ∨
      (∃ b, ev.kStep k t = some (.load b) ∧ t.kmBlob k = some b ∧ applyWrites t [ev] = t ∧
        ∃ key bits uid d av, ev = ⟨.loadKeyEntry key bits uid, Except.ok (k, d, av)⟩) ∨
      (∃ old new ps, ev.kStep k t = some (.upgrade old new) ∧
        ev = ⟨.upgradeKey old ps, Except.ok new⟩ ∧ applyWrites t [ev] = t) ∨
      (∃ b, ev.kStep k t = some (.write b) ∧ (applyWrites t [ev]).kmBlob k = some b) := by
  obtain ⟨c, r⟩ := ev
  cases c with
  | loadKeyEntry key bits uid =>
    rcases r with e | ⟨id, d, av⟩
    · exact .inl ⟨rfl, rfl⟩
    by_cases hid : id = k
    · subst hid
      cases hb : t.kmBlob id with
      | none => exact .inl ⟨by simp [Event.kStep, hb], hb⟩
      | some b => exact .inr (.inl ⟨b, by simp [Event.kStep, hb], rfl, rfl, _, _, _, _, _, rfl⟩)
    · exact .inl ⟨by simp [Event.kStep, hid], rfl⟩
  | upgradeKey old ps =>
    rcases r with e | new
    · exact .inl ⟨rfl, rfl⟩
    · exact .inr (.inr (.inl ⟨old, new, ps, rfl, rfl, rfl⟩))
  | db wr =>
    rcases r with e | ⟨⟩
    · refine .inl ⟨?_, rfl⟩
      rcases wr with _ | ⟨_, (_ | _ | _), _, _⟩ | _ | _ <;> rfl
    cases wr with
    | createKeyEntry d n =>
      have hne : k ≠ t.nextId := by omega
      exact .inl ⟨rfl, by simp [applyWrites, Event.write?, KeyStore.apply, KeyStore.kmBlob, hne]⟩
    | insertBlob id sc b l =>
      cases sc with
      | kmBlob =>
        by_cases hid : id = k
        · subst hid
          exact .inr (.inr (.inr ⟨b, by simp [Event.kStep],
            by simp [applyWrites, Event.write?, KeyStore.apply]⟩))
        · have hid' : k ≠ id := Ne.symm hid
          exact .inl ⟨by simp [Event.kStep, hid],
            by simp [applyWrites, Event.write?, KeyStore.apply, hid']⟩
      | _ => exact .inl ⟨rfl, by simp [applyWrites, Event.write?, KeyStore.apply, KeyStore.kmBlob]⟩
    | insertKeyparameter | rebindAlias => exact .inl ⟨rfl, rfl⟩
  | _ => exact .inl ⟨rfl, rfl⟩

-- ---------------------------------------------------------------------------
-- One request
-- ---------------------------------------------------------------------------

/-- What a request has done with the KM blob of key id `k`, which was `b0`
when it started and is `cur` now: nothing until it writes; once it has loaded
`k`, it has loaded `b0`; and after its write the blob is KeyMint's upgrade of
`b0`, answered in `l`. -/
def Req.BlobInv (l : List Event) (k : Int) (b0 cur : Option Blob) : Req → Prop
  | .idle => cur = b0
  | .loaded b => cur = b0 ∧ b0 = some b ∧ LoadsKey l k
  | .upgraded old new => cur = b0 ∧ b0 = some old ∧ LoadsKey l k ∧ Upgraded l old new
  | .retried => ∃ old new, b0 = some old ∧ cur = some new ∧ LoadsKey l k ∧ Upgraded l old new
  | .done => False

/-- Wherever the request stands, the blob is `b0`, or KeyMint's upgrade of
`b0` after a load of `k`. -/
theorem Req.BlobInv.result {l : List Event} {k : Int} {b0 cur : Option Blob} :
    ∀ {q : Req}, q.BlobInv l k b0 cur → cur = b0 ∨
      ∃ old new, b0 = some old ∧ cur = some new ∧ LoadsKey l k ∧ Upgraded l old new
  | .idle, h | .loaded _, ⟨h, _⟩ | .upgraded _ _, ⟨h, _⟩ => .inl h
  | .retried, h => .inr h

/-- One event of the request keeps its invariant. -/
theorem Req.BlobInv.step {l : List Event} {b0 : Option Blob} {k : Int} {t : KeyStore}
    {ev : Event} (hl : ev ∈ l) (hk : k < t.nextId) {q q' : Req}
    (hq : q.BlobInv l k b0 (t.kmBlob k)) (h : q.run (ev.kStep k t).toList = some q') :
    q'.BlobInv l k b0 ((applyWrites t [ev]).kmBlob k) := by
  rcases Event.kStep_cases hk ev with
    ⟨hs, hb⟩ | ⟨b, hs, hb, ht, key, bits, uid, d, av, rfl⟩ | ⟨old, new, ps, hs, rfl, ht⟩ |
      ⟨b, hs, hb⟩ <;>
    simp only [hs, Option.toList_none, Option.toList_some, Req.run_nil, Req.run_cons,
      Option.bind_eq_some, Option.some.injEq, exists_eq_right] at h
  · cases h
    rwa [hb]
  · rw [ht]
    cases q <;> simp only [Req.step, reduceCtorEq, Option.some.injEq] at h
    subst h
    exact ⟨hq, hq ▸ hb, key, bits, uid, d, av, hl⟩
  · rw [ht]
    cases q <;> simp only [Req.step, reduceCtorEq, Option.some.injEq, Option.ite_none_right_eq_some]
      at h
    · subst h
      exact hq
    · obtain ⟨rfl, rfl⟩ := h
      exact ⟨hq.1, hq.2.1, hq.2.2, ps, hl⟩
  · cases q <;> simp only [Req.step, reduceCtorEq, Option.some.injEq, Option.ite_none_right_eq_some]
      at h
    obtain ⟨rfl, rfl⟩ := h
    exact ⟨_, _, hq.2.1, hb, hq.2.2⟩

/-- A request's path along the events `evs` keeps its invariant. -/
theorem Req.BlobInv.run_kTrace {l : List Event} {b0 : Option Blob} {k : Int} :
    ∀ {evs : List Event} {t : KeyStore} {q q' : Req}, (∀ ev ∈ evs, ev ∈ l) → k < t.nextId →
      q.BlobInv l k b0 (t.kmBlob k) → q.run (kTrace k t evs) = some q' →
      q'.BlobInv l k b0 ((applyWrites t evs).kmBlob k)
  | [], _, _, _, _, _, hq, h => by cases h; exact hq
  | ev :: evs, t, q, q', hl, hk, hq, h => by
    rw [kTrace, Req.run_append] at h
    obtain ⟨q1, h1, h2⟩ := Option.bind_eq_some.mp h
    rw [show ev :: evs = [ev] ++ evs from rfl, applyWrites_append]
    exact run_kTrace (fun ev' h' => hl ev' (List.mem_cons_of_mem _ h'))
      (Int.lt_of_lt_of_le hk (KeyStore.nextId_le_foldl t _))
      (hq.step (hl ev (List.mem_cons_self _ _)) hk h1) h2

/-- A step that writes the KM blob. -/
def KStep.isWrite : KStep → Bool
  | .write _ => true
  | _ => false

/-- How many more times a request may write the KM blob of `k`: once, until it
has written it. -/
def Req.writesLeft : Req → Nat
  | .idle | .loaded _ | .upgraded _ _ => 1
  | .retried | .done => 0

theorem Req.step_writesLeft {q q' : Req} {a : KStep} (h : q.step a = some q') :
    (if a.isWrite then 1 else 0) + q'.writesLeft ≤ q.writesLeft := by
  cases q <;> cases a <;> simp only [Req.step, Req.holds, reduceCtorEq, Option.some.injEq,
    Option.ite_none_right_eq_some, reduceIte, Bool.false_eq_true] at h
  all_goals first
    | (subst h; simp [Req.writesLeft, KStep.isWrite])
    | (obtain ⟨-, rfl⟩ := h; simp [Req.writesLeft, KStep.isWrite])

/-- A request's path writes the KM blob of `k` at most as often as it may. -/
theorem Req.run_writesLeft : ∀ {as : List KStep} {q q' : Req}, q.run as = some q' →
    as.countP KStep.isWrite + q'.writesLeft ≤ q.writesLeft
  | [], _, _, h => by
    cases h
    simp
  | _ :: _, _, _, h => by
    obtain ⟨_, h1, h2⟩ := Option.bind_eq_some.mp h
    have hstep := Req.step_writesLeft h1
    have hrest := Req.run_writesLeft h2
    rw [List.countP_cons]
    omega

/-- The write steps of an event are its accepted writes of the KM blob of `k`. -/
theorem Event.countP_kStep_isWrite (k : Int) (t : KeyStore) (ev : Event) :
    (ev.kStep k t).toList.countP KStep.isWrite = if ev.writesKmBlob k then 1 else 0 := by
  obtain ⟨c, r⟩ := ev
  cases c with
  | loadKeyEntry =>
    rcases r with _ | ⟨id, _, _⟩
    · rfl
    · simp only [Event.kStep]
      split <;> cases t.kmBlob k <;> rfl
  | upgradeKey => rcases r with _ | _ <;> rfl
  | db wr =>
    rcases wr with _ | ⟨id, (_ | _ | _), _, _⟩ | _ | _ <;> rcases r with _ | ⟨⟩ <;> try rfl
    by_cases hid : id = k <;> simp [Event.kStep, Event.writesKmBlob, hid, KStep.isWrite]
  | _ => rfl

/-- The write steps of a path are the accepted writes of the KM blob of `k`. -/
theorem kTrace_countP_isWrite (k : Int) : ∀ (t : KeyStore) (evs : List Event),
    (kTrace k t evs).countP KStep.isWrite = evs.countP (·.writesKmBlob k)
  | _, [] => rfl
  | t, ev :: evs => by
    rw [kTrace, List.countP_append, Event.countP_kStep_isWrite, kTrace_countP_isWrite,
      List.countP_cons]
    exact Nat.add_comm _ _

-- ---------------------------------------------------------------------------
-- Transactions and runs
-- ---------------------------------------------------------------------------

/-- Every method moves a request on any key id along `Req.step`. -/
theorem dispatch_kPath (self : KeystoreSecurityLevel) (k : Int) (rq : Request) :
    Svc.KPath k .idle (fun _ _ => True) (dispatch env self rq) := by
  cases rq
  all_goals refine Svc.kPath_bind (P := fun _ _ => True) ?_ fun _ _ _ => Svc.kPath_pure trivial
  exacts [createOperation_kPath env self k _ _ _,
    Svc.kPath_weaken (generateKey_kPath env self k _ _ _ _ _) fun _ _ _ => trivial,
    Svc.kPath_weaken (importKey_kPath env self k _ _ _ _ _) fun _ _ _ => trivial,
    importWrappedKey_kPath env self k _ _ _ _ _]

/-- The KM blob after a transaction: as it was, or KeyMint's upgrade of it. -/
theorem UpgradeChain.of_result {l : List Event} {k : Int} {b0 cur : Option Blob}
    (h : cur = b0 ∨ ∃ old new, b0 = some old ∧ cur = some new ∧ LoadsKey l k ∧ Upgraded l old new) :
    UpgradeChain l b0 cur := by
  rcases h with rfl | ⟨old, new, rfl, rfl, -, hu⟩
  exacts [.refl l _, .some (.single hu)]

/-- **One transaction.** A transaction writes the KM blob of a key the Key Store
has handed out at most once, and the blob after it is the one before, or
KeyMint's upgrade, answered during the transaction, of the blob the transaction
loaded. -/
theorem dispatch_kmBlob (self : KeystoreSecurityLevel) (rq : Request) {k : Int} {w w' : World}
    {r : Except AnyhowError Response} (hk : k < w.store.nextId)
    (h : (dispatch env self rq).run w = some (r, w')) :
    (w.eventsTo w').countP (·.writesKmBlob k) ≤ 1 ∧
      (w'.store.kmBlob k = w.store.kmBlob k ∨ ∃ old new, w.store.kmBlob k = some old ∧
        w'.store.kmBlob k = some new ∧ LoadsKey (w.eventsTo w') k ∧ Upgraded (w.eventsTo w') old new) := by
  obtain ⟨q', hq', -⟩ := dispatch_kPath env self k rq hk h
  refine ⟨?_, ?_⟩
  · have hw := Req.run_writesLeft hq'
    rw [kTrace_countP_isWrite] at hw
    exact Nat.le_of_add_right_le hw
  · rw [(Svc.follows _ h).store_eq]
    exact (Req.BlobInv.run_kTrace (q := .idle) (fun _ h => h) hk rfl hq').result

end Keystore2

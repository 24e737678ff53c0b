import Keystore2.StoreIntegrity
import Keystore2.Attribution

/-!
# Keystore2 — access control over whole runs of the service

`Mediation` shows, handler by handler, that nothing with an effect happens
before the checks pass. Over a whole run of the service this gives the Key
Store's access control: every key entry that a run creates, and every alias
binding that differs at its end, was written by a transaction of the run whose
caller the Access Gate granted `rebind` on a descriptor of that domain and
namespace (and that alias, for a binding) in that same transaction.

The rest of the file is its helper lemmas, in three layers: where a key entry
or an alias binding of the Key Store comes from (`keyentry_applyWrites`,
`aliases_applyWrites`); what backs each such write of one transaction
(`dispatch_entries_granted`); and the runs.

## Results

* `dispatch_entries_granted` — one transaction: each key entry and alias
  binding it writes is backed by a rebind grant to its caller.
* `serve_changes_granted` — every run: each key entry it creates and each
  alias binding it changes is set by a transaction of the run (`TxOf`) whose
  caller was granted `rebind` on it in that transaction.
-/

namespace Keystore2

open KeystoreSecurityLevel

variable (env : Env)

-- ---------------------------------------------------------------------------
-- Where the entries and bindings of the Key Store come from
-- ---------------------------------------------------------------------------

theorem KeyStore.keyentry_apply_eq_some {s : KeyStore} {wr : DbWrite} {id : Int}
    {p : Domain × Int} (h : (s.apply wr).keyentry id = some p) :
    s.keyentry id = some p ∨ wr = .createKeyEntry p.1 p.2 := by
  cases wr with
  | createKeyEntry d n =>
    simp only [KeyStore.apply, KeyStore.createKeyEntry_keyentry] at h
    split at h
    · cases h
      exact .inr rfl
    · exact .inl h
  | _ => exact .inl h

theorem KeyStore.aliases_apply_ne {s : KeyStore} {wr : DbWrite} {d : Domain} {n : Int}
    {a : String} (h : (s.apply wr).aliases d n a ≠ s.aliases d n a) :
    ∃ id, wr = .rebindAlias id a d n := by
  cases wr with
  | rebindAlias id a' d' n' =>
    simp only [KeyStore.apply, KeyStore.rebindAlias_aliases] at h
    split at h
    · next hm =>
      obtain ⟨rfl, rfl, rfl⟩ := hm
      exact ⟨id, rfl⟩
    · exact absurd rfl h
  | _ => exact absurd rfl h

/-- A key entry after the writes of `evs` was there before, or one of them
created it. -/
theorem keyentry_applyWrites {id : Int} {p : Domain × Int} :
    ∀ {evs : List Event} {s : KeyStore}, (applyWrites s evs).keyentry id = some p →
      s.keyentry id = some p ∨ ∃ ev ∈ evs, ev.write? = some (.createKeyEntry p.1 p.2)
  | [], _, h => .inl h
  | ev :: evs, s, h => by
    rw [applyWrites_cons] at h
    rcases keyentry_applyWrites h with h | ⟨ev', hm, he⟩
    · cases hw : ev.write? with
      | none =>
        rw [hw] at h
        exact .inl h
      | some wr =>
        rw [hw] at h
        rcases KeyStore.keyentry_apply_eq_some h with h | rfl
        exacts [.inl h, .inr ⟨ev, List.mem_cons_self _ _, hw⟩]
    · exact .inr ⟨ev', List.mem_cons_of_mem _ hm, he⟩

/-- An alias binding that the writes of `evs` changed was rebound by one of them. -/
theorem aliases_applyWrites {d : Domain} {n : Int} {a : String} :
    ∀ {evs : List Event} {s : KeyStore}, (applyWrites s evs).aliases d n a ≠ s.aliases d n a →
      ∃ ev ∈ evs, ∃ id, ev.write? = some (.rebindAlias id a d n)
  | [], _, h => absurd rfl h
  | ev :: evs, s, h => by
    rw [applyWrites_cons] at h
    by_cases h' : (applyWrites ((ev.write?).elim s s.apply) evs).aliases d n a =
      ((ev.write?).elim s s.apply).aliases d n a
    · rw [h'] at h
      cases hw : ev.write? with
      | none =>
        rw [hw] at h
        exact absurd rfl h
      | some wr =>
        rw [hw] at h
        obtain ⟨id, rfl⟩ := KeyStore.aliases_apply_ne h
        exact ⟨ev, List.mem_cons_self _ _, id, hw⟩
    · obtain ⟨ev', hm, id, he⟩ := aliases_applyWrites h'
      exact ⟨ev', List.mem_cons_of_mem _ hm, id, he⟩

-- ---------------------------------------------------------------------------
-- One transaction
-- ---------------------------------------------------------------------------

/-- The writes of a key-creation handler that checks before its effects and
names the rewritten descriptor: each key entry and alias binding it writes is
backed by the rebind grant of its checks. -/
theorem keyCreation_entries_granted {key : KeyDescriptor} {w w' : World}
    {checked : List Event → Prop} (hc : ∀ l, checked l → KeyCreationChecked w key l)
    (hE : EffectsAfter checked w w')
    (hT : ∀ ev ∈ w.eventsTo w', ev.call.TargetsKey key.domain
      (if key.domain = Domain.app then (w.callingUid.toNat : Int) else key.nspace) key.«alias») :
    ∀ ev ∈ w.eventsTo w', ∀ wr, ev.write? = some wr → ∀ d n, wr.entryNamespace = some (d, n) →
      ∃ k : KeyDescriptor, k.domain = d ∧ k.nspace = n ∧
        (∀ id a, wr = .rebindAlias id a d n → k.«alias» = some a) ∧
        Granted w.callingSid .rebind k none (w.eventsTo w') := by
  intro ev hev wr hw d n hd
  have hcall := Event.call_eq_of_write? hw
  rcases hE with ⟨hn, -⟩ | ⟨pre, post, heq, -, hpre⟩
  · have := hn ev hev
    rw [hcall] at this
    cases this
  have hgrant : Granted w.callingSid .rebind (rewriteAppDomain key w.callingUid) none
      (w.eventsTo w') := heq ▸ (hc _ hpre).2.append_left post
  have ht := hT ev hev
  rw [hcall] at ht
  cases wr with
  | createKeyEntry d' n' =>
    cases hd
    obtain ⟨rfl, rfl⟩ := ht
    exact ⟨_, rewriteAppDomain_domain _ _, rewriteAppDomain_nspace _ _,
      (fun _ _ h => by cases h), hgrant⟩
  | rebindAlias id a d' n' =>
    cases hd
    obtain ⟨ha, rfl, rfl⟩ := ht
    exact ⟨_, rewriteAppDomain_domain _ _, rewriteAppDomain_nspace _ _,
      (fun _ _ h => by cases h; rw [rewriteAppDomain_alias]; exact ha.symm), hgrant⟩
  | insertBlob | insertKeyparameter => cases hd

/-- **One transaction.** Every key entry and every alias binding a transaction
writes is backed by a rebind grant, in the transaction, to its caller's SELinux
context, on a descriptor of the entry's domain and namespace (and the binding's
alias). -/
theorem dispatch_entries_granted (self : KeystoreSecurityLevel) (rq : Request) {w w' : World}
    {r : Except AnyhowError Response} (h : (dispatch env self rq).run w = some (r, w')) :
    ∀ ev ∈ w.eventsTo w', ∀ wr, ev.write? = some wr → ∀ d n, wr.entryNamespace = some (d, n) →
      ∃ k : KeyDescriptor, k.domain = d ∧ k.nspace = n ∧
        (∀ id a, wr = .rebindAlias id a d n → k.«alias» = some a) ∧
        Granted w.callingSid .rebind k none (w.eventsTo w') := by
  cases rq <;> obtain ⟨r', h'⟩ := Svc.bind_pure_eq_some h
  · intro ev hev wr hw d n hd
    have h0 : wr.entryNamespace = none := by
      have := Call.entryNamespace_eq_none (createOperation_onlyKmBlobWrites env self _ _ _ h' ev hev)
      rwa [Event.call_eq_of_write? hw] at this
    rw [h0] at hd
    cases hd
  · exact keyCreation_entries_granted (fun _ h => h) (generateKey_effectsAfter env self _ _ _ _ _ h')
      (generateKey_targets env self _ _ _ _ _ h')
  · exact keyCreation_entries_granted (fun _ h => h.1) (importKey_effectsAfter env self _ _ _ _ _ h')
      (importKey_targets env self _ _ _ _ _ h')
  · exact keyCreation_entries_granted (fun _ h => h.1)
      (importWrappedKey_effectsAfter env self _ _ _ _ _ h')
      (importWrappedKey_targets env self _ _ _ _ _ h')

-- ---------------------------------------------------------------------------
-- Runs
-- ---------------------------------------------------------------------------

/-- **Access control over every run.** Whatever the transactions, their
callers and the collaborators' answers: every key entry a run of the service
creates, and every alias binding that differs at its end, was last written by a
transaction `(c, rq)` of the run, and the Access Gate granted `c` `rebind`, in
that transaction, on a descriptor of that domain and namespace (and, for a
binding, that alias). -/
theorem serve_changes_granted (self : KeystoreSecurityLevel) {txs : List (Caller × Request)}
    {w w' : World} {rs : List (Except AnyhowError Response)}
    (h : serve env self txs w = some (rs, w')) :
    (∀ id d n, w.store.nextId ≤ id → w'.store.keyentry id = some (d, n) →
      ∃ c rq v v', TxOf env self txs w w' c rq v v' ∧ v.store.keyentry id ≠ some (d, n) ∧
        v'.store.keyentry id = some (d, n) ∧ ∃ k : KeyDescriptor, k.domain = d ∧ k.nspace = n ∧
          Granted c.sid .rebind k none (v.eventsTo v')) ∧
    (∀ d n a, w'.store.aliases d n a ≠ w.store.aliases d n a →
      ∃ c rq v v', TxOf env self txs w w' c rq v v' ∧
        v'.store.aliases d n a ≠ v.store.aliases d n a ∧
        v'.store.aliases d n a = w'.store.aliases d n a ∧ ∃ k : KeyDescriptor, k.domain = d ∧
          k.nspace = n ∧ k.«alias» = some a ∧ Granted c.sid .rebind k none (v.eventsTo v')) := by
  refine ⟨fun id d n hid he => ?_, fun d n a hne => ?_⟩
  · -- the transaction that created the entry
    have hne : w'.store.keyentry id ≠ w.store.keyentry id := by
      rw [he, w.store.fresh id hid]
      exact nofun
    obtain ⟨c, rq, v, v', ht, hchg, hend⟩ := serve_last_change (fun s => s.keyentry id) h hne
    have hv' : v'.store.keyentry id = some (d, n) := hend.trans he
    have hv : v.store.keyentry id ≠ some (d, n) := fun hv => hchg (hv'.trans hv.symm)
    obtain ⟨_, hr⟩ := ht.run
    rcases keyentry_applyWrites (ht.extends.store_eq ▸ hv') with hv0 | ⟨ev, hm, hw⟩
    · exact absurd hv0 hv
    obtain ⟨k, h1, h2, -, h4⟩ := dispatch_entries_granted env self rq hr ev hm _ hw d n rfl
    exact ⟨c, rq, v, v', ht, hv, hv', k, h1, h2, h4⟩
  · -- the last transaction that changed the binding
    obtain ⟨c, rq, v, v', ht, hchg, hend⟩ := serve_last_change (fun s => s.aliases d n a) h hne
    obtain ⟨_, hr⟩ := ht.run
    obtain ⟨ev, hm, id, hw⟩ := aliases_applyWrites (ht.extends.store_eq ▸ hchg)
    obtain ⟨k, h1, h2, h3, h4⟩ := dispatch_entries_granted env self rq hr ev hm _ hw d n rfl
    exact ⟨c, rq, v, v', ht, hchg, hend, k, h1, h2, h3 id a rfl, h4⟩

theorem serve_changes_granted_two_apps :
    ∃ rs w', serve (staleBlobEnv [] []) ⟨⟨1⟩⟩ twoAppsTxs (World.start .empty) = some (rs, w') ∧
      w'.store.keyentry 1 = some (Domain.app, 10001) ∧
      ((∀ id d n, (World.start .empty).store.nextId ≤ id → w'.store.keyentry id = some (d, n) →
        ∃ c rq v v', TxOf (staleBlobEnv [] []) ⟨⟨1⟩⟩ twoAppsTxs (World.start .empty) w' c rq v v' ∧
          v.store.keyentry id ≠ some (d, n) ∧ v'.store.keyentry id = some (d, n) ∧
          ∃ k : KeyDescriptor, k.domain = d ∧ k.nspace = n ∧
            Granted c.sid .rebind k none (v.eventsTo v')) ∧
      (∀ d n a, w'.store.aliases d n a ≠ (World.start .empty).store.aliases d n a →
        ∃ c rq v v', TxOf (staleBlobEnv [] []) ⟨⟨1⟩⟩ twoAppsTxs (World.start .empty) w' c rq v v' ∧
          v'.store.aliases d n a ≠ v.store.aliases d n a ∧
          v'.store.aliases d n a = w'.store.aliases d n a ∧ ∃ k : KeyDescriptor, k.domain = d ∧
            k.nspace = n ∧ k.«alias» = some a ∧ Granted c.sid .rebind k none (v.eventsTo v'))) := by
  obtain ⟨⟨rs, w'⟩, h⟩ : ∃ p, serve (staleBlobEnv [] []) ⟨⟨1⟩⟩ twoAppsTxs
      (World.start .empty) = some p := ⟨_, rfl⟩
  refine ⟨rs, w', h, ?_, serve_changes_granted (staleBlobEnv [] []) ⟨⟨1⟩⟩ h⟩
  cases h
  rfl

end Keystore2

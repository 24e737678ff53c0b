import Keystore2.Upgrade

/-!
# Keystore2 — the calls of `create_operation`

`create_operation` resolves the key to a blob, finds the purpose, and runs
KeyMint's `begin` inside the upgrade-retry protocol, with an inner loop that
prunes the caller's operations on every `TOO_MANY_OPERATIONS`. The calls it
makes are described by two grammars over the log:

* `BeginLoopLog` — one run of the inner loop on one blob: `begin` repeated
  while it answers `TOO_MANY_OPERATIONS`, each such answer followed by exactly
  one `prune` of the caller, until `begin` answers anything else or `prune`
  fails;
* `BeginPhaseLog` — the protocol around it: the loop on the resolved blob and,
  when it ends in "key requires upgrade", one `upgradeKey`, the write of the
  upgraded blob under the guard, and the loop on the upgraded blob, after which
  nothing is begun again.

## Results

* `loop_beginLoopBody_log` — every stopping run of the inner loop follows
  `BeginLoopLog`, whatever KeyMint and the Operation Registry answer.
* `loop_beginLoopBody_busy_then_ok` — `n` busy answers then a success, with
  fuel for more than `n` iterations: the loop returns that success after
  exactly `n` prunes.
* `upgradeRetry_beginLoop_log` — every stopping run of the begin phase follows
  `BeginPhaseLog`.
* `createOperation_calls` — every stopping run of `create_operation`: no call
  with an effect, or the resolution, the begin phase, and at most one
  registration of the operation `begin` returned, under the caller, exactly when
  the begin phase returned one.
* `createOperation_busy_then_registered` — a `create_operation` whose `begin`
  KeyMint answers busy `n` times, each followed by a prune, then with an
  operation: it succeeds after exactly `n` prunes of the caller and registers
  that operation under the caller.
* `createOperation_begin_protocol` — the last two together.
-/

namespace Keystore2

open KeystoreSecurityLevel

variable (env : Env)

/-- The busy answer of `begin`. -/
abbrev tooMany : Except Error BeginResult := .error (.km .tooManyOperations)

/-- The events of one run of `create_operation`'s inner loop on `blob`, and the
loop's result. -/
inductive BeginLoopLog (purpose : KeyPurpose) (blob : Blob) (params : List KmKeyParameter)
    (uid : UInt32) : List Event → Except Error BeginResult → Prop
  /-- `begin` answers something else than busy: that is the result. -/
  | answered {r : Except Error BeginResult} : r ≠ tooMany →
      BeginLoopLog purpose blob params uid [⟨.begin purpose blob params, r⟩] r
  /-- Busy, and the prune fails: its error is the result. -/
  | pruneFailed (e : Error) :
      BeginLoopLog purpose blob params uid
        [⟨.begin purpose blob params, tooMany⟩, ⟨.prune uid, Except.error e⟩] (.error e)
  /-- Busy, pruned, and the loop goes on. -/
  | pruned {l : List Event} {r : Except Error BeginResult} :
      BeginLoopLog purpose blob params uid l r →
      BeginLoopLog purpose blob params uid
        (⟨.begin purpose blob params, tooMany⟩ :: ⟨.prune uid, Except.ok ()⟩ :: l) r

@[simp] theorem Svc.loop_zero {ε α : Type} (body : Svc ε (Option α)) :
    Svc.loop body 0 = Svc.diverge := rfl

theorem Svc.loop_succ {ε α : Type} (body : Svc ε (Option α)) (n : Nat) :
    Svc.loop body (n + 1) = body >>= fun r =>
      match r with
      | some a => pure a
      | none => Svc.loop body n := rfl

/-- What one iteration of the inner loop does. -/
theorem beginLoopBody_cases {purpose : KeyPurpose} {params : List KmKeyParameter}
    {uid : UInt32} {blob : Blob} {w w' : World} {r : Except Error (Option BeginResult)}
    (h : (beginLoopBody env purpose params uid blob).run w = some (r, w')) :
    (∃ v, r = .ok (some v) ∧ w.eventsTo w' = [⟨.begin purpose blob params, Except.ok v⟩]) ∨
    (∃ e, e ≠ .km .tooManyOperations ∧ r = .error e ∧
      w.eventsTo w' = [⟨.begin purpose blob params, Except.error e⟩]) ∨
    (r = .ok none ∧
      w.eventsTo w' = [⟨.begin purpose blob params, tooMany⟩, ⟨.prune uid, Except.ok ()⟩]) ∨
    (∃ e, r = .error e ∧
      w.eventsTo w' = [⟨.begin purpose blob params, tooMany⟩, ⟨.prune uid, Except.error e⟩]) := by
  simp only [beginLoopBody, Svc.run_bind, Svc.run_ask] at h
  rcases hb : (env.answer w.log.length (.begin purpose blob params) : Except Error BeginResult)
    with e | v <;> rw [hb] at h
  · by_cases htm : e = .km .tooManyOperations
    · subst htm
      simp only [if_true, OperationDb.prune, Svc.run_bind, Svc.run_ask, Svc.run_ofExcept,
        World.record_log, List.length_append, List.length_singleton] at h
      rcases hp : (env.answer (w.log.length + 1) (.prune uid) : Except Error Unit)
        with e' | ⟨⟩ <;> rw [hp] at h <;> cases h
      · exact .inr (.inr (.inr ⟨e', rfl, by simp [hb, hp]⟩))
      · exact .inr (.inr (.inl ⟨rfl, by simp [hb, hp]⟩))
    · simp only [htm, if_false, Svc.run_throw] at h
      cases h
      exact .inr (.inl ⟨e, htm, rfl, by simp [hb]⟩)
  · cases h
    exact .inl ⟨v, rfl, by simp [hb]⟩

theorem tooMany_ne_ok (v : BeginResult) : (Except.ok v : Except Error BeginResult) ≠ tooMany := by
  simp [tooMany]

/-- **The inner loop's calls.** Every run of the loop that stops follows
`BeginLoopLog`, whatever KeyMint and the Operation Registry answer. -/
theorem loop_beginLoopBody_log (purpose : KeyPurpose) (params : List KmKeyParameter)
    (uid : UInt32) (blob : Blob) :
    ∀ (n : Nat) {w w' : World} {r : Except Error BeginResult},
      (Svc.loop (beginLoopBody env purpose params uid blob) n).run w = some (r, w') →
      BeginLoopLog purpose blob params uid (w.eventsTo w') r
  | 0, _, _, _, h => by cases h
  | n + 1, w, w', r, h => by
    rw [Svc.loop_succ] at h
    rcases Svc.bind_eq_some h with ⟨a, w1, h1, h2⟩ | ⟨e, h1, rfl⟩
    · rcases beginLoopBody_cases env h1 with ⟨v, hv, hev⟩ | ⟨e, -, he, -⟩ | ⟨hv, hev⟩ | ⟨e, he, -⟩
      · cases hv
        cases h2
        rw [hev]
        exact .answered (tooMany_ne_ok v)
      · cases he
      · cases hv
        rw [World.eventsTo_trans (Svc.follows _ h1) (Svc.follows _ h2), hev]
        exact .pruned (loop_beginLoopBody_log purpose params uid blob n h2)
      · cases he
    · rcases beginLoopBody_cases env h1 with ⟨v, hv, -⟩ | ⟨e', hne, he, hev⟩ | ⟨hv, -⟩ | ⟨e', he, hev⟩
      · cases hv
      · cases he
        rw [hev]
        exact .answered (by simpa [tooMany] using hne)
      · cases hv
      · cases he
        rw [hev]
        exact .pruneFailed e

/-- The calls of the begin loop: `begin` on its blob, and `prune` for the caller. -/
theorem beginLoop_onlyCalls {P : Call → Prop} {purpose : KeyPurpose} {params : List KmKeyParameter}
    {uid : UInt32} {blob : Blob} (hb : P (.begin purpose blob params)) (hp : P (.prune uid)) :
    Svc.OnlyCalls P (beginLoop env purpose params uid blob) :=
  Svc.onlyCalls_loop (Svc.onlyCalls_bind (Svc.onlyCalls_ask env hb) fun r => by
    rcases r with e | v
    · dsimp only
      split
      · exact Svc.onlyCalls_bind (Svc.onlyCalls_bind (Svc.onlyCalls_ask env hp) fun _ =>
          Svc.onlyCalls_ofExcept _ _) fun _ => Svc.onlyCalls_pure _ _
      · exact Svc.onlyCalls_throw _ _
    · exact Svc.onlyCalls_pure _ _) _

/-- `beginLoop`'s calls follow `BeginLoopLog`. -/
theorem beginLoop_log {purpose : KeyPurpose} {params : List KmKeyParameter} {uid : UInt32}
    {blob : Blob} {w w' : World} {r : Except Error BeginResult}
    (h : (beginLoop env purpose params uid blob).run w = some (r, w')) :
    BeginLoopLog purpose blob params uid (w.eventsTo w') r :=
  loop_beginLoopBody_log env purpose params uid blob env.fuel h

/-- `n` busy answers of `begin`, each followed by a successful prune. -/
def busyPrunes (purpose : KeyPurpose) (blob : Blob) (params : List KmKeyParameter)
    (uid : UInt32) : Nat → List Event
  | 0 => []
  | n + 1 => ⟨.begin purpose blob params, tooMany⟩ :: ⟨.prune uid, Except.ok ()⟩ ::
      busyPrunes purpose blob params uid n

theorem beginLoopBody_run_ok {purpose : KeyPurpose} {params : List KmKeyParameter}
    {uid : UInt32} {blob : Blob} {w : World} {v : BeginResult}
    (h : env.answer w.log.length (.begin purpose blob params) = .ok v) :
    (beginLoopBody env purpose params uid blob).run w =
      some (.ok (some v), w.record ⟨.begin purpose blob params, Except.ok v⟩) := by
  simp only [beginLoopBody, Svc.run_bind, Svc.run_ask, h]
  rfl

theorem beginLoopBody_run_busy {purpose : KeyPurpose} {params : List KmKeyParameter}
    (uid : UInt32) {blob : Blob} {w : World}
    (hb : env.answer w.log.length (.begin purpose blob params) = tooMany)
    (hp : env.answer (w.log.length + 1) (.prune uid) = .ok ()) :
    (beginLoopBody env purpose params uid blob).run w =
      some (.ok none, (w.record ⟨.begin purpose blob params, tooMany⟩).record
        ⟨.prune uid, Except.ok ()⟩) := by
  simp only [beginLoopBody, Svc.run_bind, Svc.run_ask, hb, tooMany, if_true, OperationDb.prune,
    Svc.run_ofExcept, World.record_log, List.length_append, List.length_singleton, hp]
  rfl

/-- **Busy, then a success.** With fuel for more than `n` iterations, `n` busy
answers of `begin` each followed by a successful prune, then a success `br`:
the loop returns `br`, after exactly the `n` busy answers and `n` prunes. -/
theorem loop_beginLoopBody_busy_then_ok (purpose : KeyPurpose) (params : List KmKeyParameter)
    (uid : UInt32) (blob : Blob) (br : BeginResult) :
    ∀ (n m : Nat) {w : World}, n < m →
      (∀ j < n, env.answer (w.log.length + 2 * j) (.begin purpose blob params) = tooMany ∧
        env.answer (w.log.length + 2 * j + 1) (.prune uid) = .ok ()) →
      env.answer (w.log.length + 2 * n) (.begin purpose blob params) = .ok br →
      ∃ w', (Svc.loop (beginLoopBody env purpose params uid blob) m).run w = some (.ok br, w') ∧
        w.eventsTo w' = busyPrunes purpose blob params uid n ++
          [⟨.begin purpose blob params, Except.ok br⟩]
  | _, 0, _, hnm, _, _ => absurd hnm (Nat.not_lt_zero _)
  | 0, m + 1, w, _, _, hok => by
    refine ⟨w.record ⟨.begin purpose blob params, Except.ok br⟩, ?_, by simp [busyPrunes]⟩
    rw [Svc.loop_succ, Svc.bind_ok (beginLoopBody_run_ok env (by simpa using hok))]
    rfl
  | n + 1, m + 1, w, hnm, hbusy, hok => by
    obtain ⟨hb, hp⟩ := hbusy 0 (Nat.succ_pos n)
    have h1 := beginLoopBody_run_busy env uid (by simpa using hb) (by simpa using hp)
    have hlen : ((w.record ⟨.begin purpose blob params, tooMany⟩).record
        ⟨.prune uid, Except.ok ()⟩).log.length = w.log.length + 2 := by simp
    obtain ⟨w', h2, hev⟩ := loop_beginLoopBody_busy_then_ok purpose params uid blob br n m
      (by omega)
      (fun j hj => by
        rw [hlen, show w.log.length + 2 + 2 * j = w.log.length + 2 * (j + 1) by omega]
        exact hbusy (j + 1) (by omega))
      (by rw [hlen, show w.log.length + 2 + 2 * n = w.log.length + 2 * (n + 1) by omega]; exact hok)
    refine ⟨w', by rw [Svc.loop_succ, Svc.bind_ok h1]; exact h2, ?_⟩
    rw [World.eventsTo_trans (Svc.follows _ h1) (Svc.follows _ h2), hev]
    simp [busyPrunes]

-- ---------------------------------------------------------------------------
-- Resolving the key
-- ---------------------------------------------------------------------------

/-- What `create_operation` resolved the key to, as the events `pre` of its
first part show: for `Domain::BLOB`, the use permission on the descriptor
granted and the descriptor's own blob, with no guard; otherwise the key id
`load_key_entry` found, the use permission granted on what the Key Store
answered for it, and the KM blob the store holds for that id, under its guard. -/
def ResolvedBlob (key : KeyDescriptor) (w : World) (pre : List Event) (b0 : Blob)
    (keyIdGuard : Option KeyIdGuard) : Prop :=
  (key.domain = Domain.blob ∧ Granted w.callingSid .use key none pre ∧ key.blob = some b0 ∧
    keyIdGuard = none) ∨
  (key.domain ≠ Domain.blob ∧ ∃ id ak av,
    (⟨.loadKeyEntry key .km w.callingUid, Except.ok (id, ak, av)⟩ : Event) ∈ pre ∧
    Granted w.callingSid .use ak av pre ∧ w.store.kmBlob id = some b0 ∧ keyIdGuard = some ⟨id⟩)

theorem ResolvedBlob.append {key : KeyDescriptor} {w : World} {pre : List Event} {b0 : Blob}
    {keyIdGuard : Option KeyIdGuard} (h : ResolvedBlob key w pre b0 keyIdGuard) (l : List Event) :
    ResolvedBlob key w (pre ++ l) b0 keyIdGuard := by
  rcases h with ⟨hd, hg, hb, hk⟩ | ⟨hd, id, ak, av, hm, hg, hb, hk⟩
  exacts [.inl ⟨hd, hg.append_left l, hb, hk⟩,
    .inr ⟨hd, id, ak, av, List.mem_append_left l hm, hg.append_left l, hb, hk⟩]

theorem createOperationKmBlob_onlyCalls (key : KeyDescriptor) (callerUid : UInt32) :
    Svc.OnlyCalls (fun c => c.isEffect = false) (createOperationKmBlob env key callerUid) := by
  have hcheck : ∀ k av, Svc.OnlyCalls (fun c => c.isEffect = false)
      (checkKeyPermission env .use k av) := fun _ _ =>
    checkKeyPermission_onlyCalls env (P := fun c => c.isEffect = false) fun _ => rfl
  unfold createOperationKmBlob
  by_cases hd : key.domain = Domain.blob
  · rw [if_pos hd]
    refine Svc.onlyCalls_bind (Svc.onlyCalls_mapError _ (hcheck key none)) fun _ => ?_
    cases key.blob
    exacts [Svc.onlyCalls_throw _ _, Svc.onlyCalls_pure _ _]
  · rw [if_neg hd]
    refine Svc.onlyCalls_bind (Svc.onlyCalls_mapError _
      (KeystoreDB.loadKeyEntry_onlyCalls env rfl hcheck)) fun ⟨_, e⟩ => ?_
    dsimp only
    cases e.kmBlob
    exacts [Svc.onlyCalls_throw _ _, Svc.onlyCalls_pure _ _]

/-- A successful resolution resolves the key as `ResolvedBlob` says. -/
theorem createOperationKmBlob_resolved {key : KeyDescriptor} {w w1 : World} {b0 : Blob}
    {keyIdGuard : Option KeyIdGuard}
    (h : (createOperationKmBlob env key w.callingUid).run w = some (.ok (b0, keyIdGuard), w1)) :
    ResolvedBlob key w (w.eventsTo w1) b0 keyIdGuard := by
  unfold createOperationKmBlob at h
  split at h
  · next hd =>
    rcases Svc.bind_eq_some h with ⟨_, w2, h2, h⟩ | ⟨e, -, he⟩
    · obtain ⟨r', h2', hr⟩ := Svc.mapError_eq_some h2
      cases r' with
      | error => cases hr
      | ok u =>
        split at h <;> cases h
        exact .inl ⟨hd, checkKeyPermission_ok env h2', ‹_›, rfl⟩
    · cases he
  · next hd =>
    rcases Svc.bind_eq_some h with ⟨⟨g, e⟩, w2, h2, h⟩ | ⟨e, -, he⟩
    · simp only at h
      split at h <;> cases h
      obtain ⟨r', h2', hr⟩ := Svc.mapError_eq_some h2
      cases r' with
      | error => cases hr
      | ok v =>
        cases hr
        obtain ⟨ak, av, -, hcb, hkm⟩ := KeystoreDB.loadKeyEntry_ok env h2'
        have hs := Svc.keepsStore_of_onlyCalls
          (checkKeyPermission_onlyCalls env (P := fun c => c.isDb = false) fun _ => rfl) hcb
        rw [World.eventsTo_trans (w.follows_record _) (Svc.follows _ hcb)]
        refine .inr ⟨hd, g.id, ak, av, by simp, ?_, ?_, rfl⟩
        · simpa using (checkKeyPermission_ok env hcb).append_right [_]
        · have hb := ‹e.kmBlob = some b0›
          rw [hkm, hs] at hb
          simpa [Event.write?] using hb
    · cases he

theorem operationPurpose_eq_ok {ps : List KmKeyParameter} {purpose : KeyPurpose}
    (h : operationPurpose ps = .ok purpose) :
    ∃ kp, ps.find? (fun p => decide (p.tag = Tag.purpose)) = some kp ∧ purpose = ⟨kp.integer⟩ := by
  unfold operationPurpose at h
  split at h <;> cases h
  exact ⟨_, ‹_›, rfl⟩


/-- The write of the upgraded blob under the guard, when there is one. -/
def persistLog (keyIdGuard : Option KeyIdGuard) (b1 : Blob) (secLevel : SecurityLevel) :
    List Event :=
  match keyIdGuard with
  | none => []
  | some g => [⟨.db (.insertBlob g.id .kmBlob b1 secLevel), Except.ok ()⟩]

/-- The events of `create_operation`'s begin phase, the upgrade-retry protocol
around the inner loop, and the begin result or the root of its error. -/
inductive BeginPhaseLog (purpose : KeyPurpose) (b0 : Blob) (params : List KmKeyParameter)
    (uid : UInt32) (keyIdGuard : Option KeyIdGuard) (secLevel : SecurityLevel) :
    List Event → Except ErrorRoot BeginResult → Prop
  /-- The loop on the resolved blob ends in anything but "key requires upgrade". -/
  | first {l : List Event} {r : Except Error BeginResult} :
      BeginLoopLog purpose b0 params uid l r → r ≠ .error (.km .keyRequiresUpgrade) →
      BeginPhaseLog purpose b0 params uid keyIdGuard secLevel l (r.mapError .keystore)
  /-- The upgrade fails. -/
  | upgradeFailed {l : List Event} {e : Error} :
      BeginLoopLog purpose b0 params uid l (.error (.km .keyRequiresUpgrade)) →
      BeginPhaseLog purpose b0 params uid keyIdGuard secLevel
        (l ++ [⟨.upgradeKey b0 params, Except.error e⟩]) (.error (.keystore e))
  /-- The upgrade succeeds and its write under the guard fails. -/
  | persistFailed {l : List Event} {b1 : Blob} {g : KeyIdGuard} {e : AnyhowError} :
      BeginLoopLog purpose b0 params uid l (.error (.km .keyRequiresUpgrade)) →
      keyIdGuard = some g →
      BeginPhaseLog purpose b0 params uid keyIdGuard secLevel
        (l ++ [⟨.upgradeKey b0 params, Except.ok b1⟩,
          ⟨.db (.insertBlob g.id .kmBlob b1 secLevel), Except.error e⟩]) (.error e.root)
  /-- The upgrade succeeds, is written, and the loop runs once more on the
  upgraded blob; its end is final. -/
  | retried {l l' : List Event} {b1 : Blob} {r : Except Error BeginResult} :
      BeginLoopLog purpose b0 params uid l (.error (.km .keyRequiresUpgrade)) →
      BeginLoopLog purpose b1 params uid l' r →
      BeginPhaseLog purpose b0 params uid keyIdGuard secLevel
        (l ++ ⟨.upgradeKey b0 params, Except.ok b1⟩ :: persistLog keyIdGuard b1 secLevel ++ l')
        (r.mapError .keystore)

theorem retryOnce_beginLoop_log {purpose : KeyPurpose} {params : List KmKeyParameter}
    {uid : UInt32} {b1 : Blob} {w w' : World}
    {r : Except ErrorRoot (BeginResult × Option Blob)}
    (h : retryOnce (beginLoop env purpose params uid) b1 w = some (r, w')) :
    w.Follows w' ∧ ∃ r2, BeginLoopLog purpose b1 params uid (w.eventsTo w') r2 ∧
      r.map Prod.fst = r2.mapError .keystore := by
  unfold retryOnce at h
  rcases h2 : (beginLoop env purpose params uid b1).run w with _ | ⟨_ | v, w4⟩ <;>
    rw [h2] at h <;> cases h
  all_goals exact ⟨Svc.follows _ h2, _, beginLoop_log env h2, rfl⟩

/-- **The begin phase.** Every stopping run of the upgrade-retry protocol
around the inner loop follows `BeginPhaseLog`. -/
theorem upgradeRetry_beginLoop_log {secLevel : SecurityLevel} {keyIdGuard : Option KeyIdGuard}
    {purpose : KeyPurpose} {params : List KmKeyParameter} {uid : UInt32} {b0 : Blob}
    {w w' : World} {r : Except ErrorRoot (BeginResult × Option Blob)}
    (h : upgradeRetry env secLevel keyIdGuard b0 params (beginLoop env purpose params uid) w =
      some (r, w')) :
    BeginPhaseLog purpose b0 params uid keyIdGuard secLevel (w.eventsTo w') (r.map Prod.fst) := by
  unfold upgradeRetry at h
  rcases h1 : (beginLoop env purpose params uid b0).run w with _ | ⟨r1, w1⟩ <;> rw [h1] at h
  · cases h
  have hl1 := beginLoop_log env h1
  have hf1 := Svc.follows _ h1
  rcases r1 with e | v
  · by_cases he : e = .km .keyRequiresUpgrade
    · subst he
      simp only [ne_eq, not_true_eq_false, if_false] at h
      rcases hu : (env.answer w1.log.length (.upgradeKey b0 params) : Except Error Blob)
        with e' | b1 <;> rw [hu] at h
      · cases h
        rw [World.eventsTo_record_of hf1]
        exact .upgradeFailed hl1
      · have hf2 := World.Follows.trans hf1 (w1.follows_record ⟨.upgradeKey b0 params, Except.ok b1⟩)
        cases keyIdGuard with
        | none =>
          obtain ⟨hf3, r2, hl2, hr⟩ := retryOnce_beginLoop_log env h
          rw [hr, World.eventsTo_trans hf2 hf3, World.eventsTo_record_of hf1]
          simpa [persistLog] using @BeginPhaseLog.retried _ _ _ _ none secLevel _ _ _ _
            hl1 hl2
        | some g =>
          simp only [World.record_log, List.length_append, List.length_singleton] at h
          split at h
          · next e ha =>
            cases h
            rw [World.eventsTo_record_of hf2, World.eventsTo_record_of hf1]
            simp only [World.record_log, List.length_append, List.length_singleton, ha,
              List.append_assoc, List.singleton_append]
            exact .persistFailed hl1 rfl
          · next ha =>
            obtain ⟨hf3, r2, hl2, hr⟩ := retryOnce_beginLoop_log env h
            rw [hr, World.eventsTo_trans (hf2.trans (World.follows_record _ _)) hf3,
              World.eventsTo_record_of hf2, World.eventsTo_record_of hf1]
            simp only [World.record_log, List.length_append, List.length_singleton, ha] at hl2 ⊢
            simpa [persistLog] using @BeginPhaseLog.retried _ _ _ _ (some g) secLevel _ _ _ _
              hl1 hl2
    · simp only [ne_eq, he, not_false_eq_true, if_true] at h
      cases h
      exact .first hl1 (by simpa using he)
  · cases h
    exact .first hl1 (by simp)

-- ---------------------------------------------------------------------------
-- The whole request
-- ---------------------------------------------------------------------------

/-- **The calls of `create_operation`.** In every run that stops, either nothing
with an effect was called and the request failed before the begin phase, or the
calls are: the resolution of the key to a blob `b0` and the lookup of the first
`PURPOSE` parameter `kp`, without effect; the begin phase on `b0` for
`KeyPurpose(kp.integer)` and the caller; then nothing, when the begin phase
failed or returned no operation and the request fails, or one registration of
the operation `op` the begin phase returned, under the caller, followed by calls
without effect. -/
theorem createOperation_calls (self : KeystoreSecurityLevel) (key : KeyDescriptor)
    (ps : List KmKeyParameter) (forced : Bool) {w w' : World}
    {r : Except AnyhowError CreateOperationResponse}
    (h : (createOperation env self key ps forced).run w = some (r, w')) :
    ((∀ ev ∈ w.eventsTo w', ev.call.isEffect = false) ∧ ∃ e, r = .error e) ∨
    ∃ kp b0 g pre l res post,
      ps.find? (fun p => decide (p.tag = Tag.purpose)) = some kp ∧
      ResolvedBlob key w pre b0 g ∧ (∀ ev ∈ pre, ev.call.isEffect = false) ∧
      BeginPhaseLog ⟨kp.integer⟩ b0 ps w.callingUid g self.securityLevel l res ∧
      w.eventsTo w' = pre ++ l ++ post ∧
      ((post = [] ∧ (∀ br, res = .ok br → br.operation = none) ∧ ∃ e, r = .error e) ∨
        ∃ br op o rest, res = .ok br ∧ br.operation = some op ∧
          post = ⟨.createOperation op w.callingUid, o⟩ :: rest ∧
          ∀ ev ∈ rest, ev.call.isEffect = false) := by
  simp only [createOperation, Svc.read_bind] at h
  -- resolving the key
  rcases Svc.bind_eq_some_of_onlyCalls (createOperationKmBlob_onlyCalls env key _) h with
    hn | ⟨⟨b0, g⟩, w1, h1, hn1, h⟩
  · exact .inl hn
  have hf1 := Svc.follows _ h1
  -- the purpose
  rcases Svc.bind_eq_some h with ⟨purpose, w2, h2, h⟩ | ⟨e, h2, hr⟩ <;>
    simp only [Svc.run_ofExcept, Option.some.injEq, Prod.mk.injEq] at h2
  swap
  · exact .inl ⟨h2.2 ▸ hn1, e, hr⟩
  obtain ⟨hp, rfl⟩ := h2
  obtain ⟨kp, hkp, rfl⟩ := operationPurpose_eq_ok hp
  -- the KeyMint device
  rcases Svc.bind_eq_some_of_onlyCalls
      (Svc.onlyCalls_mapError _ (Asp.getInterface_onlyCalls env (P := fun c => c.isEffect = false)
        rfl)) h with ⟨hn3, he3⟩ | ⟨_, w3, h3, hn3, h⟩
  · exact .inl ⟨World.forall_eventsTo_trans hf1 (Svc.follows _ h) hn1 hn3, he3⟩
  have hf3 := Svc.follows _ h3
  suffices hpost : ∃ w4 res, w3.Follows w4 ∧ w4.Follows w' ∧
      BeginPhaseLog ⟨kp.integer⟩ b0 ps w.callingUid g self.securityLevel (w3.eventsTo w4) res ∧
      ((w4.eventsTo w' = [] ∧ (∀ br, res = .ok br → br.operation = none) ∧ ∃ e, r = .error e) ∨
        ∃ br op o rest, res = .ok br ∧ br.operation = some op ∧
          w4.eventsTo w' = ⟨.createOperation op w.callingUid, o⟩ :: rest ∧
          ∀ ev ∈ rest, ev.call.isEffect = false) by
    obtain ⟨w4, res, hf4, hf5, hl, hpost⟩ := hpost
    refine .inr ⟨kp, b0, g, _, _, res, _, hkp, ?_, World.forall_eventsTo_trans hf1 hf3 hn1 hn3, hl,
      by rw [World.eventsTo_trans ((hf1.trans hf3).trans hf4) hf5,
        World.eventsTo_trans (hf1.trans hf3) hf4], hpost⟩
    rw [World.eventsTo_trans hf1 hf3]
    exact (createOperationKmBlob_resolved env h1).append _
  -- the begin phase
  rcases Svc.bind_eq_some h with ⟨⟨br, ub⟩, w4, h4, h⟩ | ⟨e, h4, rfl⟩
  · obtain ⟨r4, h4', hr4⟩ := Svc.mapError_eq_some h4
    have hl := upgradeRetry_beginLoop_log env (upgradeRetry_of_run env h4')
    cases r4 with
    | error => cases hr4
    | ok v =>
      cases hr4
      dsimp only at h
      -- the registration
      split at h
      · next op hop =>
        rw [OperationDb.createOperation, Svc.bind_ok (Svc.run_ask env _ w4)] at h
        have hrest := (Svc.onlyCalls_bind (P := fun c => c.isEffect = false)
          (Svc.onlyCalls_mapError _ (Svc.onlyCalls_bind (Svc.onlyCalls_ask env (c := .intoInterface _) rfl)
            fun _ => Svc.onlyCalls_ofExcept _ _)) fun _ => Svc.onlyCalls_pure _ _) h
        refine ⟨w4, _, Svc.follows _ h4, (w4.follows_record _).trans (Svc.follows _ h), hl,
          .inr ⟨br, op, env.answer w4.log.length (.createOperation op w.callingUid), _, rfl, hop, ?_,
            hrest⟩⟩
        rw [World.eventsTo_trans (w4.follows_record _) (Svc.follows _ h), World.eventsTo_record]
        rfl
      · next hnone =>
        rw [Svc.bind_error (Svc.run_throw _ _)] at h
        cases h
        exact ⟨_, _, Svc.follows _ h4, World.Follows.refl _, hl,
          .inl ⟨by simp, fun _ hb => by cases hb; exact hnone, _, rfl⟩⟩
  · obtain ⟨r4, h4', hr4⟩ := Svc.mapError_eq_some h4
    refine ⟨_, _, Svc.follows _ h4, World.Follows.refl _,
      upgradeRetry_beginLoop_log env (upgradeRetry_of_run env h4'), .inl ⟨by simp, ?_, e, rfl⟩⟩
    cases r4 with
    | error => exact fun _ hb => by cases hb
    | ok => cases hr4

theorem busyPrunes_length (purpose : KeyPurpose) (blob : Blob) (params : List KmKeyParameter)
    (uid : UInt32) (n : Nat) : (busyPrunes purpose blob params uid n).length = 2 * n := by
  induction n with
  | zero => rfl
  | succ n ih =>
    simp only [busyPrunes, List.length_cons, ih]
    omega

/-- The upgrade protocol whose closure succeeds on the given blob returns that
value, with no upgraded blob. -/
theorem upgradeKeyblobIfRequiredWith_run_first {T : Type} (self : KeystoreSecurityLevel)
    {keyIdGuard : Option KeyIdGuard} {blob : Blob} {params : List KmKeyParameter}
    {f : Blob → Svc Error T} {w w' : World} {v : T} (h : (f blob).run w = some (.ok v, w')) :
    (upgradeKeyblobIfRequiredWith env self keyIdGuard blob params f).run w =
      some (.ok (v, none), w') := by
  unfold upgradeKeyblobIfRequiredWith
  rw [Svc.bind_ok (Svc.run_observe_of_eq h)]
  rfl

/-- **Busy, then registered.** A `create_operation` that resolves its key to
`b0`, finds the purpose and the KeyMint device, and whose `begin` on `b0`
KeyMint answers "too many operations" `n` times, each followed by a successful
prune of the caller, then with a result carrying an operation `op`, with fuel
for more than `n` iterations, succeeds. After the resolution its calls are the
device lookup, the `n` busy `begin`s each followed by one prune of the caller,
the successful `begin`, the registration of `op` under the caller, and the
conversion of the registered operation, which it answers. -/
theorem createOperation_busy_then_registered (self : KeystoreSecurityLevel) (key : KeyDescriptor)
    (ps : List KmKeyParameter) (forced : Bool) {w w1 : World} {b0 : Blob} {g : Option KeyIdGuard}
    {purpose : KeyPurpose} {n : Nat} {br : BeginResult} {op : KmOperation}
    (h1 : (createOperationKmBlob env key w.callingUid).run w = some (.ok (b0, g), w1))
    (hp : operationPurpose ps = .ok purpose) (hd : env.answer w1.log.length .getInterface = .ok ())
    (hn : n < env.fuel)
    (hbusy : ∀ j < n, env.answer (w1.log.length + 1 + 2 * j) (.begin purpose b0 ps) = tooMany ∧
      env.answer (w1.log.length + 1 + 2 * j + 1) (.prune w.callingUid) = .ok ())
    (hok : env.answer (w1.log.length + 1 + 2 * n) (.begin purpose b0 ps) = .ok br)
    (hop : br.operation = some op)
    (hi : env.answer (w1.log.length + 3 + 2 * n) (.intoInterface
      (env.answer (w1.log.length + 2 + 2 * n) (.createOperation op w.callingUid))) = .ok ()) :
    ∃ resp w', (createOperation env self key ps forced).run w = some (.ok resp, w') ∧
      resp.iOperation =
        some (env.answer (w1.log.length + 2 + 2 * n) (.createOperation op w.callingUid)) ∧
      w.eventsTo w' = w.eventsTo w1 ++ ⟨.getInterface, Except.ok ()⟩ ::
        (busyPrunes purpose b0 ps w.callingUid n ++
          [⟨.begin purpose b0 ps, Except.ok br⟩,
            ⟨.createOperation op w.callingUid,
              env.answer (w1.log.length + 2 + 2 * n) (.createOperation op w.callingUid)⟩,
            ⟨.intoInterface (env.answer (w1.log.length + 2 + 2 * n)
              (.createOperation op w.callingUid)), Except.ok ()⟩]) := by
  have hf1 := Svc.follows _ h1
  -- the device lookup
  have h2 : ((Asp.getInterface env).context "In create_operation: Failed to get KeyMint device").run
      w1 = some (.ok (), w1.record ⟨.getInterface, Except.ok ()⟩) :=
    Svc.run_mapError_of_eq (r := .ok ()) (by rw [Asp.getInterface, Svc.bind_ok (Svc.run_ask env _ w1), hd]; rfl)
  -- the inner loop: `n` busy answers, then `br`
  obtain ⟨w3, h3, hev3⟩ := loop_beginLoopBody_busy_then_ok env purpose ps w.callingUid b0 br n
    env.fuel (w := w1.record ⟨.getInterface, Except.ok ()⟩) hn (by simpa using hbusy)
    (by simpa using hok)
  have hf3 := Svc.follows _ h3
  have h4 : ((upgradeKeyblobIfRequiredWith env self g b0 ps (beginLoop env purpose ps w.callingUid)).context
      "In create_operation: Failed to begin operation.").run (w1.record ⟨.getInterface, Except.ok ()⟩) =
      some (.ok (br, none), w3) :=
    Svc.run_mapError_of_eq (upgradeKeyblobIfRequiredWith_run_first env self h3)
  have hlen3 : w3.log.length = w1.log.length + 2 + 2 * n := by
    rw [hf3.log_eq, hev3, List.length_append, List.length_append, busyPrunes_length]
    simp only [World.record_log, List.length_append, List.length_singleton]
    omega
  -- the registration and the binder's interface
  set o := env.answer (w1.log.length + 2 + 2 * n) (.createOperation op w.callingUid)
  have h6 : ((do Svc.ofExcept (← Svc.ask env (.intoInterface o))).context
      "In create_operation: Failed to create IKeystoreOperation.").run
      (w3.record ⟨.createOperation op w.callingUid, o⟩) =
      some (.ok (), (w3.record ⟨.createOperation op w.callingUid, o⟩).record
        ⟨.intoInterface o, Except.ok ()⟩) :=
    Svc.run_mapError_of_eq (r := .ok ()) (by
      rw [Svc.bind_ok (Svc.run_ask env _ _), World.record_log, List.length_append,
        List.length_singleton, hlen3, show w1.log.length + 2 + 2 * n + 1 = w1.log.length + 3 + 2 * n
          by omega, hi]
      rfl)
  refine ⟨⟨some o, none, match br.params with | [] => none | ps => some ps⟩,
    (w3.record ⟨.createOperation op w.callingUid, o⟩).record ⟨.intoInterface o, Except.ok ()⟩,
    ?_, rfl, ?_⟩
  · simp only [createOperation, Svc.read_bind]
    rw [Svc.bind_ok h1]
    dsimp only
    rw [Svc.bind_ok (by rw [Svc.run_ofExcept, hp]), Svc.bind_ok h2, Svc.bind_ok h4]
    dsimp only
    rw [hop]
    dsimp only
    rw [OperationDb.createOperation, Svc.bind_ok (Svc.run_ask env _ w3), hlen3, Svc.bind_ok h6]
    rfl
  · have hf2 := w1.follows_record ⟨.getInterface, Except.ok ()⟩
    rw [World.eventsTo_trans (hf1.trans (hf2.trans hf3))
        ((w3.follows_record _).trans (World.follows_record _ _)), World.eventsTo_record_record,
      World.eventsTo_trans hf1 (hf2.trans hf3), World.eventsTo_trans hf2 hf3, World.eventsTo_record,
      hev3]
    simp

/-- **`create_operation`'s begin protocol.** Every stopping run of
`create_operation` makes the calls `createOperation_calls` lists: none with an
effect when it fails before the begin phase; otherwise the begin phase on the
resolved blob, and the registration of the operation `begin` returned, under the
caller, exactly when the begin phase returned one. And a `create_operation` that
reaches the begin phase, whose `begin` KeyMint answers "too many operations" `n`
times, each followed by a successful prune, then with an operation, with fuel
for more than `n` iterations, succeeds after exactly the `n` busy answers and
`n` prunes of the caller, and registers that operation under the caller. -/
theorem createOperation_begin_protocol (env : Env) :
    (∀ (self : KeystoreSecurityLevel) (key : KeyDescriptor) (ps : List KmKeyParameter)
      (forced : Bool) (w w' : World) (r : Except AnyhowError CreateOperationResponse),
      (createOperation env self key ps forced).run w = some (r, w') →
      ((∀ ev ∈ w.eventsTo w', ev.call.isEffect = false) ∧ ∃ e, r = .error e) ∨
      ∃ kp b0 g pre l res post,
        ps.find? (fun p => decide (p.tag = Tag.purpose)) = some kp ∧
        ResolvedBlob key w pre b0 g ∧ (∀ ev ∈ pre, ev.call.isEffect = false) ∧
        BeginPhaseLog ⟨kp.integer⟩ b0 ps w.callingUid g self.securityLevel l res ∧
        w.eventsTo w' = pre ++ l ++ post ∧
        ((post = [] ∧ (∀ br, res = .ok br → br.operation = none) ∧ ∃ e, r = .error e) ∨
          ∃ br op o rest, res = .ok br ∧ br.operation = some op ∧
            post = ⟨.createOperation op w.callingUid, o⟩ :: rest ∧
            ∀ ev ∈ rest, ev.call.isEffect = false)) ∧
    (∀ (self : KeystoreSecurityLevel) (key : KeyDescriptor) (ps : List KmKeyParameter)
      (forced : Bool) (w w1 : World) (b0 : Blob) (g : Option KeyIdGuard) (purpose : KeyPurpose)
      (n : Nat) (br : BeginResult) (op : KmOperation),
      (createOperationKmBlob env key w.callingUid).run w = some (.ok (b0, g), w1) →
      operationPurpose ps = .ok purpose → env.answer w1.log.length .getInterface = .ok () →
      n < env.fuel →
      (∀ j < n, env.answer (w1.log.length + 1 + 2 * j) (.begin purpose b0 ps) = tooMany ∧
        env.answer (w1.log.length + 1 + 2 * j + 1) (.prune w.callingUid) = .ok ()) →
      env.answer (w1.log.length + 1 + 2 * n) (.begin purpose b0 ps) = .ok br →
      br.operation = some op →
      env.answer (w1.log.length + 3 + 2 * n) (.intoInterface
        (env.answer (w1.log.length + 2 + 2 * n) (.createOperation op w.callingUid))) = .ok () →
      ∃ resp w', (createOperation env self key ps forced).run w = some (.ok resp, w') ∧
        resp.iOperation =
          some (env.answer (w1.log.length + 2 + 2 * n) (.createOperation op w.callingUid)) ∧
        w.eventsTo w' = w.eventsTo w1 ++ ⟨.getInterface, Except.ok ()⟩ ::
          (busyPrunes purpose b0 ps w.callingUid n ++
            [⟨.begin purpose b0 ps, Except.ok br⟩,
              ⟨.createOperation op w.callingUid,
                env.answer (w1.log.length + 2 + 2 * n) (.createOperation op w.callingUid)⟩,
              ⟨.intoInterface (env.answer (w1.log.length + 2 + 2 * n)
                (.createOperation op w.callingUid)), Except.ok ()⟩])) :=
  ⟨fun self key ps forced _ _ _ h => createOperation_calls env self key ps forced h,
    fun self key ps forced _ _ _ _ _ _ _ _ h1 hp hd hn hbusy hok hop hi =>
      createOperation_busy_then_registered env self key ps forced h1 hp hd hn hbusy hok hop hi⟩

/-- Collaborators for the example: KeyMint answers the `begin` calls among the
first `2 * k` calls of a run "too many operations"; everything else as
`staleBlobEnv`. -/
def busyEnv (k : Nat) : Env :=
  { staleBlobEnv [] [] with
    answer := fun n c =>
      match c with
      | .begin .. => if n < 2 * k then tooMany else .ok ⟨0, [], some ⟨1⟩⟩
      | c => (staleBlobEnv [] []).answer n c }

/-- An app begins an operation on a `BLOB` key, and KeyMint answers its first
three `begin` calls "too many operations": the operation is registered under
the app's uid 10001 after exactly three prunes for that uid. -/
theorem createOperation_begin_protocol_three_busy :
    ∃ w1, (createOperationKmBlob (busyEnv 4) ⟨Domain.blob, 0, none, some [7]⟩ 10001).run
        (World.start .empty) = some (.ok ([7], none), w1) ∧
      ∃ resp w', (createOperation (busyEnv 4) ⟨⟨1⟩⟩ ⟨Domain.blob, 0, none, some [7]⟩
          [⟨Tag.purpose, false, 2, 0, 0, []⟩] false).run (World.start .empty) =
          some (.ok resp, w') ∧
        resp.iOperation = some ((busyEnv 4).answer (w1.log.length + 2 + 2 * 3)
          (.createOperation ⟨1⟩ 10001)) ∧
        (World.start .empty).eventsTo w' = (World.start .empty).eventsTo w1 ++
          ⟨.getInterface, Except.ok ()⟩ ::
          (busyPrunes ⟨2⟩ [7] [⟨Tag.purpose, false, 2, 0, 0, []⟩] 10001 3 ++
            [⟨.begin ⟨2⟩ [7] [⟨Tag.purpose, false, 2, 0, 0, []⟩], Except.ok ⟨0, [], some ⟨1⟩⟩⟩,
              ⟨.createOperation ⟨1⟩ 10001,
                (busyEnv 4).answer (w1.log.length + 2 + 2 * 3) (.createOperation ⟨1⟩ 10001)⟩,
              ⟨.intoInterface ((busyEnv 4).answer (w1.log.length + 2 + 2 * 3)
                (.createOperation ⟨1⟩ 10001)), Except.ok ()⟩]) := by
  obtain ⟨w1, h1⟩ : ∃ w1, (createOperationKmBlob (busyEnv 4) ⟨Domain.blob, 0, none, some [7]⟩
      10001).run (World.start .empty) = some (.ok ([7], none), w1) := ⟨_, rfl⟩
  have hlen : w1.log.length = 1 := by
    cases h1
    rfl
  refine ⟨w1, h1, (createOperation_begin_protocol (busyEnv 4)).2 ⟨⟨1⟩⟩ _ _ false
    (World.start .empty) w1 [7] none ⟨2⟩ 3 ⟨0, [], some ⟨1⟩⟩ ⟨1⟩ h1 rfl ?_ (by decide) ?_ ?_ rfl ?_⟩ <;>
    simp only [hlen]
  · rfl
  · intro j hj
    refine ⟨?_, rfl⟩
    simp only [busyEnv, tooMany]
    rw [if_pos (by omega)]
  · rfl
  · rfl

end Keystore2

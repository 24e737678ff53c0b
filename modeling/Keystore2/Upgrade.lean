import Keystore2.SecurityLevel

/-!
# Keystore2 — the upgrade-retry protocol

`upgrade_keyblob_if_required_with` against the protocol of §4.3 of the spec,
written here as `upgradeRetry`: a direct world-passing statement of the five
steps, in which every call the protocol itself makes is spelled out and errors
are compared by their root, the error code the binder layer reports (the code
only adds context to them).

* `upgradeKeyblobIfRequiredWith_eq_upgradeRetry` — the code is the protocol,
  for every closure, guard, blob, parameters and behaviour of KeyMint and the
  Key Store. In `upgradeRetry` the closure runs at most twice and `upgradeKey`
  at most once, whatever the second run of the closure answers.
* `upgradeKeyblobIfRequiredWith_store` — the protocol's effect on the Key
  Store: none, except the upgraded KM blob under the guard.
-/

namespace Keystore2

open KeystoreSecurityLevel

variable (env : Env)

/-- The last step of the protocol: `f` once more, on the upgraded blob `b'`;
its result is final. -/
def retryOnce {T : Type} (f : Blob → Svc Error T) (b' : Blob) (w : World) :
    Option (Except ErrorRoot (T × Option Blob) × World) :=
  match (f b').run w with
  | none => none
  | some (.ok v, w') => some (.ok (v, some b'), w')
  | some (.error e, w') => some (.error (.keystore e), w')

/-- The upgrade-retry protocol of the spec, from world `w`, with errors by root:
1. run `f` on the blob; a value is returned with no upgraded blob;
2. any failure but "key requires upgrade" is returned unchanged;
3. otherwise call `upgradeKey(blob, params)`; its failure is returned;
4. with the upgraded blob `b'`, write it under the guard, if there is one; a
   failed write is returned;
5. `retryOnce`. -/
def upgradeRetry {T : Type} (secLevel : SecurityLevel) (keyIdGuard : Option KeyIdGuard)
    (blob : Blob) (params : List KmKeyParameter) (f : Blob → Svc Error T) (w : World) :
    Option (Except ErrorRoot (T × Option Blob) × World) :=
  match (f blob).run w with
  | none => none
  | some (.ok v, w1) => some (.ok (v, none), w1)
  | some (.error e, w1) =>
    if e ≠ .km .keyRequiresUpgrade then some (.error (.keystore e), w1) else
    let u : Except Error Blob := env.answer w1.log.length (.upgradeKey blob params)
    let w2 := w1.record ⟨.upgradeKey blob params, u⟩
    match u with
    | .error e => some (.error (.keystore e), w2)
    | .ok b' =>
      match keyIdGuard with
      | none => retryOnce f b' w2
      | some g =>
        let c := Call.db (.insertBlob g.id .kmBlob b' secLevel)
        let a : Except AnyhowError Unit := env.answer w2.log.length c
        match a with
        | .error e => some (.error e.root, w2.record ⟨c, a⟩)
        | .ok () => retryOnce f b' (w2.record ⟨c, a⟩)

/-- A run's result with its error replaced by the error's root. -/
def byRoot {α : Type} : Option (Except AnyhowError α × World) → Option (Except ErrorRoot α × World) :=
  Option.map fun p => (p.1.mapError (·.root), p.2)

theorem byRoot_upgradeKeyblobIfRequiredWith {T : Type} (self : KeystoreSecurityLevel)
    (keyIdGuard : Option KeyIdGuard) (blob : Blob) (params : List KmKeyParameter)
    (f : Blob → Svc Error T) (w : World) :
    byRoot ((upgradeKeyblobIfRequiredWith env self keyIdGuard blob params f).run w) =
      upgradeRetry env self.securityLevel keyIdGuard blob params f w := by
  simp only [upgradeKeyblobIfRequiredWith, upgradeRetry, byRoot, Svc.run_bind, Svc.run_observe]
  rcases h1 : (f blob).run w with _ | ⟨_ | v, w1⟩
  · rfl
  · rename_i e
    by_cases he : e = .km .keyRequiresUpgrade
    · subst he
      simp only [Option.map_some', ne_eq, not_true_eq_false, if_false, if_true]
      simp only [Svc.run_bind, Svc.context, Svc.run_mapError, Svc.run_ask, Svc.run_ofExcept]
      rcases hu : (env.answer w1.log.length (.upgradeKey blob params) : Except Error Blob) with e' | b'
      · simp [hu, Except.mapError, IntoAnyhow.into]
      · simp only [Option.map_some', Except.mapError]
        cases keyIdGuard with
        | none =>
          simp only [Svc.run_bind, Svc.run_pure, Svc.run_observe, retryOnce]
          rcases (f b').run _ with _ | ⟨_ | v, w4⟩ <;> rfl
        | some g =>
          simp only [KeystoreDB.insertBlob, KeystoreDB.write, Svc.run_bind, Svc.run_mapError,
            Svc.run_ask, Svc.run_ofExcept, Svc.run_observe, retryOnce]
          rcases (env.answer _ (.db (.insertBlob g.id .kmBlob b' self.securityLevel)) :
            Except AnyhowError Unit) with e'' | ⟨⟩
          · rfl
          · simp only [Option.map_some', Except.mapError]
            rcases (f b').run _ with _ | ⟨_ | v, w4⟩ <;> rfl
    · simp [he, Svc.run_mapError, Except.mapError]
  · rfl

/-- **The upgrade-retry protocol.** -/
theorem upgradeKeyblobIfRequiredWith_eq_upgradeRetry {T : Type} (self : KeystoreSecurityLevel)
    (keyIdGuard : Option KeyIdGuard) (blob : Blob) (params : List KmKeyParameter)
    (f : Blob → Svc Error T) (w : World) :
    byRoot ((upgradeKeyblobIfRequiredWith env self keyIdGuard blob params f).run w) =
      upgradeRetry env self.securityLevel keyIdGuard blob params f w :=
  byRoot_upgradeKeyblobIfRequiredWith env self keyIdGuard blob params f w

/-- A stopping run of the code is a run of the protocol, with the error's root. -/
theorem upgradeRetry_of_run {T : Type} {self : KeystoreSecurityLevel}
    {keyIdGuard : Option KeyIdGuard} {blob : Blob} {params : List KmKeyParameter}
    {f : Blob → Svc Error T} {w w' : World} {r : Except AnyhowError (T × Option Blob)}
    (h : (upgradeKeyblobIfRequiredWith env self keyIdGuard blob params f).run w = some (r, w')) :
    upgradeRetry env self.securityLevel keyIdGuard blob params f w =
      some (r.mapError (·.root), w') := by
  rw [← byRoot_upgradeKeyblobIfRequiredWith, h]
  rfl

/-- The calls of the protocol: those of the closure, one `upgradeKey` of the
blob, and the write of the upgraded blob under the guard. -/
theorem upgradeKeyblobIfRequiredWith_onlyCalls {T : Type} {P : Call → Prop}
    (self : KeystoreSecurityLevel) {keyIdGuard : Option KeyIdGuard} {blob : Blob}
    {params : List KmKeyParameter} {f : Blob → Svc Error T} (hf : ∀ b, Svc.OnlyCalls P (f b))
    (hu : P (.upgradeKey blob params))
    (hi : ∀ g b', keyIdGuard = some g → P (.db (.insertBlob g.id .kmBlob b' self.securityLevel))) :
    Svc.OnlyCalls P (upgradeKeyblobIfRequiredWith env self keyIdGuard blob params f) := by
  unfold upgradeKeyblobIfRequiredWith
  refine Svc.onlyCalls_bind (Svc.onlyCalls_observe (hf blob)) fun r => ?_
  rcases r with e | v
  · dsimp only
    split
    · refine Svc.onlyCalls_bind (Svc.onlyCalls_mapError _ (Svc.onlyCalls_bind
        (Svc.onlyCalls_ask env hu) fun _ => Svc.onlyCalls_ofExcept _ _)) fun b' => ?_
      refine Svc.onlyCalls_bind ?_ fun _ =>
        Svc.onlyCalls_bind (Svc.onlyCalls_observe (hf b')) fun r => ?_
      · cases keyIdGuard with
        | none => exact Svc.onlyCalls_pure _ _
        | some g => exact Svc.onlyCalls_mapError _ (KeystoreDB.write_onlyCalls env (hi g b' rfl))
      · cases r
        exacts [Svc.onlyCalls_throw _ _, Svc.onlyCalls_pure _ _]
    · exact Svc.onlyCalls_throw _ _
  · exact Svc.onlyCalls_pure _ _

theorem retryOnce_store {T : Type} {f : Blob → Svc Error T} {b' : Blob}
    (hf : (f b').KeepsStore) {w w' : World} {r : Except ErrorRoot (T × Option Blob)}
    (h : retryOnce f b' w = some (r, w')) :
    w'.store = w.store ∧ ∀ v b'', r = .ok (v, some b'') → b'' = b' := by
  unfold retryOnce at h
  rcases h2 : (f b').run w with _ | ⟨_ | v, w4⟩ <;> rw [h2] at h <;> cases h
  all_goals exact ⟨hf h2, by simp⟩

/-- The Key Store after `upgradeRetry`, for a closure that keeps it. -/
theorem upgradeRetry_store {T : Type} {secLevel : SecurityLevel}
    {keyIdGuard : Option KeyIdGuard} {blob : Blob} {params : List KmKeyParameter}
    {f : Blob → Svc Error T} (hf : ∀ b, (f b).KeepsStore) {w w' : World}
    {r : Except ErrorRoot (T × Option Blob)}
    (h : upgradeRetry env secLevel keyIdGuard blob params f w = some (r, w')) :
    (w'.store = w.store ∨
      ∃ g w1 b', keyIdGuard = some g ∧
        (f blob).run w = some (.error (.km .keyRequiresUpgrade), w1) ∧
        env.answer w1.log.length (.upgradeKey blob params) = .ok b' ∧
        w'.store = w.store.insertBlob g.id .kmBlob b' secLevel) ∧
    (∀ v g b', r = .ok (v, some b') → keyIdGuard = some g → w'.store.kmBlob g.id = some b') := by
  unfold upgradeRetry at h
  rcases h1 : (f blob).run w with _ | ⟨_ | v, w1⟩ <;> rw [h1] at h
  · cases h
  · rename_i e
    have hw1 := hf _ h1
    by_cases he : e = .km .keyRequiresUpgrade
    · subst he
      simp only [ne_eq, not_true_eq_false, if_false] at h
      rcases hu : (env.answer w1.log.length (.upgradeKey blob params) : Except Error Blob)
        with e' | b' <;> rw [hu] at h
      · cases h; exact ⟨.inl (by simp [hw1]; rfl), by simp⟩
      · cases keyIdGuard with
        | none =>
          obtain ⟨hs, -⟩ := retryOnce_store (hf b') h
          exact ⟨.inl (hs.trans (by simp [hw1]; rfl)), by simp⟩
        | some g =>
          simp only [World.record_log, List.length_append, List.length_singleton] at h
          split at h
          · next e ha =>
            cases h
            exact ⟨.inl (by simp [hw1, Event.write?, ha]), by simp⟩
          · next ha =>
            obtain ⟨hs, hv⟩ := retryOnce_store (hf b') h
            have hs' : w'.store = w.store.insertBlob g.id .kmBlob b' secLevel := by
              rw [hs]; simp [hw1, Event.write?, ha]; rfl
            refine ⟨.inr ⟨g, w1, b', rfl, rfl, hu, hs'⟩, ?_⟩
            rintro v g' b'' rfl ⟨⟩
            simp [hs', hv v b'' rfl, KeyStore.kmBlob]
    · simp only [ne_eq, he, not_false_eq_true, if_true] at h
      cases h
      exact ⟨.inl hw1, by simp⟩
  · cases h
    exact ⟨.inl (hf _ h1), by simp⟩

/-- **The protocol's frame.** With a closure that leaves the Key Store alone,
`upgrade_keyblob_if_required_with` changes the store only when the closure
answered exactly "key requires upgrade", `upgradeKey` gave `b'` and there is a
guard; then the one change is the guarded key id's KM blob, which becomes `b'`
at the service's security level. A run that returns an upgraded blob leaves it
stored under the guard. -/
theorem upgradeKeyblobIfRequiredWith_store {T : Type} (self : KeystoreSecurityLevel)
    (keyIdGuard : Option KeyIdGuard) (blob : Blob) (params : List KmKeyParameter)
    (f : Blob → Svc Error T) (hf : ∀ b, (f b).KeepsStore) {w w' : World}
    {r : Except AnyhowError (T × Option Blob)}
    (h : (upgradeKeyblobIfRequiredWith env self keyIdGuard blob params f).run w = some (r, w')) :
    (w'.store = w.store ∨
      ∃ g w1 b', keyIdGuard = some g ∧
        (f blob).run w = some (.error (.km .keyRequiresUpgrade), w1) ∧
        env.answer w1.log.length (.upgradeKey blob params) = .ok b' ∧
        w'.store = w.store.insertBlob g.id .kmBlob b' self.securityLevel) ∧
    (∀ v g b', r = .ok (v, some b') → keyIdGuard = some g → w'.store.kmBlob g.id = some b') := by
  obtain ⟨hs, hv⟩ := upgradeRetry_store env hf (upgradeRetry_of_run env h)
  exact ⟨hs, fun v g b' hr' hg => hv v g b' (by simp [hr', Except.mapError]) hg⟩

/-- A closure for the example: "key requires upgrade" on the blob `[1]`. -/
def demandsUpgradeOf1 (b : Blob) : Svc Error Unit :=
  Svc.ofExcept (if b = [1] then .error (.km .keyRequiresUpgrade) else .ok ())

theorem demandsUpgradeOf1_keepsStore (b : Blob) : (demandsUpgradeOf1 b).KeepsStore :=
  Svc.keepsStore_ofExcept _

theorem upgradeKeyblobIfRequiredWith_store_upgrades :
    (∀ b, (demandsUpgradeOf1 b).KeepsStore) ∧
      ∃ r w', (upgradeKeyblobIfRequiredWith (staleBlobEnv [1] [2]) ⟨⟨1⟩⟩ (some ⟨5⟩) [1] []
          demandsUpgradeOf1).run (World.start .empty) = some (r, w') ∧
        (w'.store = KeyStore.empty ∨
          ∃ (g : KeyIdGuard) (w1 : World) (b' : Blob), some ⟨5⟩ = some g ∧
            (demandsUpgradeOf1 [1]).run (World.start .empty) =
              some (.error (.km .keyRequiresUpgrade), w1) ∧
            (staleBlobEnv [1] [2]).answer w1.log.length (.upgradeKey [1] []) = .ok b' ∧
            w'.store = KeyStore.empty.insertBlob g.id .kmBlob b' ⟨1⟩) ∧
        (∀ (v : Unit) (g : KeyIdGuard) (b' : Blob), r = .ok (v, some b') → some ⟨5⟩ = some g →
          w'.store.kmBlob g.id = some b') :=
  ⟨demandsUpgradeOf1_keepsStore, _, _, rfl,
    upgradeKeyblobIfRequiredWith_store (staleBlobEnv [1] [2]) ⟨⟨1⟩⟩ (some ⟨5⟩) [1] []
      demandsUpgradeOf1 demandsUpgradeOf1_keepsStore rfl⟩

end Keystore2

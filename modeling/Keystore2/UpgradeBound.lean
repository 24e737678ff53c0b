import Keystore2.StoreIntegrity

/-!
# Keystore2 — how many upgrades a run asks KeyMint for

KeyMint may answer `KEY_REQUIRES_UPGRADE` to every `begin` and every
`importWrappedKey`, for as long as it likes; the service still asks it to
upgrade at most once per transaction. `upgrade_keyblob_if_required_with` calls
`upgradeKey` only after the first run of its closure, and its second run's
answer is final; `create_operation` and `import_wrapped_key` run the protocol
once, and `generate_key` and `import_key` not at all. Over a run of the service,
then, KeyMint is asked for no more upgrades than there are `createOperation`
and `importWrappedKey` transactions.

The rest of the file is its helper lemmas: a bound on the `upgradeKey` calls of
a computation (`Svc.UpgradesAtMost`) with one lemma per way of building one; the
bound for the upgrade protocol, for each handler and for a transaction; and the
run.

## Results

* `keyCreation_upgradesAtMost` — the shape of the key creations, from its
  parts.
* `dispatch_upgradesAtMost` — one transaction: at most one `upgradeKey` call, and
  none for `generateKey` and `importKey`.
* `serve_upgrades_bounded` — every run: no more `upgradeKey` calls than
  `createOperation` and `importWrappedKey` transactions.
-/

namespace Keystore2

open KeystoreSecurityLevel

variable (env : Env)

/-- A call of KeyMint's `upgradeKey`. -/
def Call.isUpgradeKey : Call → Bool
  | .upgradeKey .. => true
  | _ => false

theorem Call.isUpgradeKey_eq_false_of_isEffect {c : Call} (h : c.isEffect = false) :
    c.isUpgradeKey = false := by
  cases c <;> first | rfl | cases h

/-- The methods whose handlers run the upgrade protocol: `create_operation`, on
the key it begins with, and `import_wrapped_key`, on the wrapping key. -/
def Request.runsUpgrade : Request → Bool
  | .createOperation .. | .importWrappedKey .. => true
  | .generateKey .. | .importKey .. => false

/-- Every stopping run of `x` calls `upgradeKey` at most `n` times. -/
def Svc.UpgradesAtMost {ε α : Type} (n : Nat) (x : Svc ε α) : Prop :=
  ∀ ⦃w r w'⦄, x.run w = some (r, w') → (w.eventsTo w').countP (·.call.isUpgradeKey) ≤ n

namespace Svc

variable {ε ε' α β : Type}

theorem UpgradesAtMost.of_onlyCalls {x : Svc ε α} (n : Nat)
    (hx : OnlyCalls (fun c => c.isUpgradeKey = false) x) : UpgradesAtMost n x := by
  intro w r w' h
  rw [List.countP_eq_zero.mpr fun ev hev => by simp [hx h ev hev]]
  exact Nat.zero_le n

theorem UpgradesAtMost.mono {m n : Nat} (hmn : m ≤ n) {x : Svc ε α} (hx : UpgradesAtMost m x) :
    UpgradesAtMost n x :=
  fun _ _ _ h => Nat.le_trans (hx h) hmn

theorem UpgradesAtMost.bind {m n : Nat} {x : Svc ε α} {f : α → Svc ε β} (hx : UpgradesAtMost m x)
    (hf : ∀ a, UpgradesAtMost n (f a)) : UpgradesAtMost (m + n) (x >>= f) := by
  intro w r w' h
  rcases bind_eq_some h with ⟨a, w1, h1, h2⟩ | ⟨e, h1, -⟩
  · rw [World.eventsTo_trans (x.follows h1) ((f a).follows h2), List.countP_append]
    exact Nat.add_le_add (hx h1) (hf a h2)
  · exact Nat.le_trans (hx h1) (Nat.le_add_right m n)

/-- A first step without `upgradeKey`, then the rest. -/
theorem UpgradesAtMost.bind_of_none {n : Nat} {x : Svc ε α} {f : α → Svc ε β}
    (hx : OnlyCalls (fun c => c.isUpgradeKey = false) x) (hf : ∀ a, UpgradesAtMost n (f a)) :
    UpgradesAtMost n (x >>= f) :=
  ((of_onlyCalls 0 hx).bind hf).mono (Nat.zero_add n).le

theorem UpgradesAtMost.mapError {n : Nat} {x : Svc ε α} (g : ε → ε') (hx : UpgradesAtMost n x) :
    UpgradesAtMost n (x.mapError g) := fun _ _ _ h =>
  let ⟨_, h', _⟩ := mapError_eq_some h
  hx h'

theorem upgradesAtMost_ask (env : Env) (c : Call) : UpgradesAtMost 1 (ask env c : Svc ε c.Resp) := by
  intro w r w' h
  rw [run_ask] at h
  cases h
  rw [World.eventsTo_record]
  exact List.countP_le_length _

end Svc

-- ---------------------------------------------------------------------------
-- The begin phase of `create_operation`
-- ---------------------------------------------------------------------------

/-- No `upgradeKey` in a run of the inner loop of `create_operation`. -/
theorem BeginLoopLog.countP_upgradeKey {purpose : KeyPurpose} {blob : Blob}
    {params : List KmKeyParameter} {uid : UInt32} {l : List Event} {r : Except Error BeginResult}
    (h : BeginLoopLog purpose blob params uid l r) : l.countP (·.call.isUpgradeKey) = 0 := by
  induction h with
  | answered | pruneFailed => rfl
  | pruned _ ih => simpa [Call.isUpgradeKey] using ih

/-- At most one `upgradeKey` in the begin phase of `create_operation`. -/
theorem BeginPhaseLog.countP_upgradeKey_le {purpose : KeyPurpose} {b0 : Blob}
    {params : List KmKeyParameter} {uid : UInt32} {keyIdGuard : Option KeyIdGuard}
    {secLevel : SecurityLevel} {l : List Event} {r : Except ErrorRoot BeginResult}
    (h : BeginPhaseLog purpose b0 params uid keyIdGuard secLevel l r) :
    l.countP (·.call.isUpgradeKey) ≤ 1 := by
  cases h with
  | first hl => simp [hl.countP_upgradeKey]
  | upgradeFailed hl | persistFailed hl =>
    rw [List.countP_append, hl.countP_upgradeKey]
    simp [Call.isUpgradeKey]
  | retried hl hl' =>
    rw [List.countP_append, List.countP_append, hl.countP_upgradeKey, hl'.countP_upgradeKey]
    cases keyIdGuard <;> simp [persistLog, Call.isUpgradeKey]

-- ---------------------------------------------------------------------------
-- The upgrade protocol and the handlers
-- ---------------------------------------------------------------------------

namespace KeystoreSecurityLevel

variable (self : KeystoreSecurityLevel)

/-- The upgrade protocol calls `upgradeKey` at most once, when its closure does
not call it. -/
theorem upgradeKeyblobIfRequiredWith_upgradesOnce {T : Type} {keyIdGuard : Option KeyIdGuard}
    {blob : Blob} {params : List KmKeyParameter} {f : Blob → Svc Error T}
    (hf : ∀ b, Svc.OnlyCalls (fun c => c.isUpgradeKey = false) (f b)) :
    Svc.UpgradesAtMost 1 (upgradeKeyblobIfRequiredWith env self keyIdGuard blob params f) := by
  unfold upgradeKeyblobIfRequiredWith
  refine .bind_of_none (Svc.onlyCalls_observe (hf blob)) fun r => ?_
  rcases r with e | v
  · dsimp only
    split
    · -- the one upgrade, then the write and the closure on the upgraded blob
      refine (((Svc.upgradesAtMost_ask env _).bind fun _ =>
        .of_onlyCalls 0 (Svc.onlyCalls_ofExcept _ _)).mapError _).bind fun b' =>
          .of_onlyCalls 0 (Svc.onlyCalls_bind ?_ fun _ => Svc.onlyCalls_bind
            (Svc.onlyCalls_observe (hf b')) fun r => ?_)
      · cases keyIdGuard
        exacts [Svc.onlyCalls_pure _ _, Svc.onlyCalls_mapError _ (KeystoreDB.write_onlyCalls env rfl)]
      · cases r
        exacts [Svc.onlyCalls_throw _ _, Svc.onlyCalls_pure _ _]
    · exact .of_onlyCalls 1 (Svc.onlyCalls_throw _ _)
  · exact .of_onlyCalls 1 (Svc.onlyCalls_pure _ _)

theorem createOperation_upgradesOnce (key : KeyDescriptor) (ps : List KmKeyParameter)
    (forced : Bool) : Svc.UpgradesAtMost 1 (createOperation env self key ps forced) := by
  have hnone : ∀ l : List Event, (∀ ev ∈ l, ev.call.isEffect = false) →
      l.countP (·.call.isUpgradeKey) = 0 := fun l hl =>
    List.countP_eq_zero.mpr fun ev hev => by simp [Call.isUpgradeKey_eq_false_of_isEffect (hl ev hev)]
  intro w r w' h
  rcases createOperation_calls env self key ps forced h with
    ⟨hn, -⟩ | ⟨_, _, _, pre, l, _, post, -, -, hpre, hl, he, hpost⟩
  · exact (hnone _ hn).trans_le (Nat.zero_le 1)
  rw [he, List.countP_append, List.countP_append, hnone pre hpre]
  rcases hpost with ⟨rfl, -⟩ | ⟨_, _, _, rest, -, -, rfl, hrest⟩
  · simpa using hl.countP_upgradeKey_le
  · rw [List.countP_cons, hnone rest hrest]
    simpa [Call.isUpgradeKey] using hl.countP_upgradeKey_le

/-- The key-creation shape calls `upgradeKey` as often as KeyMint's part does:
its checks and `store_new_key` never call it. -/
theorem keyCreation_upgradesAtMost {ρ : Type} {checks : Svc AnyhowError ρ}
    {keyOf : ρ → KeyDescriptor}
    {km : ρ → Svc AnyhowError (Blob × KeyCharacteristics × Option (List KmCertificate))}
    {msg : String} {n : Nat} (hc : Svc.OnlyCalls (fun c => c.isUpgradeKey = false) checks)
    (hkm : ∀ p, Svc.UpgradesAtMost n (km p)) :
    Svc.UpgradesAtMost n (keyCreation env self checks keyOf km msg) := by
  unfold keyCreation
  exact .bind_of_none hc fun p => (hkm p).bind (n := 0) fun ⟨_, _, _⟩ =>
    .of_onlyCalls 0 (Svc.onlyCalls_mapError _ (storeNewKey_onlyCalls_db env self _ _ _ _ fun _ => rfl))

theorem importWrappedKey_upgradesOnce (key wrappingKey : KeyDescriptor) (maskingKey : Option Blob)
    (params : List KmKeyParameter) (authenticators : List AuthenticatorSpec) :
    Svc.UpgradesAtMost 1
      (importWrappedKey env self key wrappingKey maskingKey params authenticators) := by
  refine keyCreation_upgradesAtMost env self (Svc.OnlyCallsOf.onlyCalls fun uid =>
    importWrappedKeyChecks_calls env uid key wrappingKey maskingKey authenticators (fun _ => rfl)
      (fun _ _ _ => rfl) rfl rfl) fun p => ?_
  -- the upgrade protocol on the wrapping key, whose closure unwraps
  unfold importWrappedKeyKm
  refine (upgradeKeyblobIfRequiredWith_upgradesOnce env self fun _ => ?_).bind (n := 0) fun _ =>
    .of_onlyCalls 0 (Svc.onlyCalls_pure _ _)
  exact Svc.onlyCalls_ask_ofExcept env rfl fun _ => Svc.onlyCalls_bind (Svc.onlyCalls_ofExcept _ _)
    fun ⟨_, _⟩ => Svc.onlyCalls_pure _ _

end KeystoreSecurityLevel

-- ---------------------------------------------------------------------------
-- Transactions and runs
-- ---------------------------------------------------------------------------

/-- **One transaction.** Whatever its method, caller and the collaborators'
answers, a transaction calls `upgradeKey` at most once, and not at all for
`generateKey` and `importKey`. -/
theorem dispatch_upgradesAtMost (self : KeystoreSecurityLevel) (rq : Request) :
    Svc.UpgradesAtMost (if rq.runsUpgrade then 1 else 0) (dispatch env self rq) := by
  cases rq
  all_goals refine Svc.UpgradesAtMost.bind (n := 0) ?_ fun _ =>
    .of_onlyCalls 0 (Svc.onlyCalls_pure _ _)
  exacts [createOperation_upgradesOnce env self _ _ _,
    .of_onlyCalls 0 (generateKey_onlyCalls env self _ _ _ _ _ (fun _ _ _ _ => rfl) rfl rfl rfl
      fun _ => rfl),
    .of_onlyCalls 0 (importKey_onlyCalls env self _ _ _ _ _ (fun _ _ _ _ => rfl) rfl
      (fun _ _ => rfl) fun _ => rfl),
    importWrappedKey_upgradesOnce env self _ _ _ _ _]

/-- **Upgrades over every run.** Whatever the transactions, their callers and
the collaborators' answers (KeyMint may ask for an upgrade on every blob), a run
of the service calls KeyMint's `upgradeKey` no more often than it has
`createOperation` and `importWrappedKey` transactions. -/
theorem serve_upgrades_bounded (self : KeystoreSecurityLevel) :
    ∀ {txs : List (Caller × Request)} {w w' : World} {rs : List (Except AnyhowError Response)},
      serve env self txs w = some (rs, w') →
        (w.eventsTo w').countP (·.call.isUpgradeKey) ≤ txs.countP (·.2.runsUpgrade)
  | [], _, _, _, h => by
    cases h
    simp
  | (c, rq) :: txs, w, w', rs, h => by
    obtain ⟨r, w1, rs', h1, h2, rfl⟩ := serve_cons h
    have h1' : (w.eventsTo w1).countP (·.call.isUpgradeKey) ≤ if rq.runsUpgrade then 1 else 0 :=
      dispatch_upgradesAtMost env self rq (w := w.withCaller c) h1
    have h2' := serve_upgrades_bounded self h2
    rw [(World.Extends.of_withCaller (Svc.follows _ h1)).eventsTo_trans (serve_extends h2),
      List.countP_append, List.countP_cons]
    cases hr : rq.runsUpgrade <;>
      simp only [hr, if_true, Bool.false_eq_true, if_false] at h1' ⊢ <;> omega

/-- The app with uid 10002 begins an operation on key id 1, whose blob KeyMint
asks to upgrade: one transaction that runs the upgrade protocol, one
`upgradeKey` call. -/
theorem serve_upgrades_bounded_useKey :
    ∃ rs w', serve (staleBlobEnv [7] [8]) ⟨⟨1⟩⟩ useKeyTxs (World.start oneKeyStore) =
        some (rs, w') ∧
      ((World.start oneKeyStore).eventsTo w').countP (·.call.isUpgradeKey) = 1 ∧
      ((World.start oneKeyStore).eventsTo w').countP (·.call.isUpgradeKey) ≤
        useKeyTxs.countP (·.2.runsUpgrade) := by
  obtain ⟨⟨rs, w'⟩, h⟩ : ∃ p, serve (staleBlobEnv [7] [8]) ⟨⟨1⟩⟩ useKeyTxs
      (World.start oneKeyStore) = some p := ⟨_, rfl⟩
  refine ⟨rs, w', h, ?_, serve_upgrades_bounded (staleBlobEnv [7] [8]) ⟨⟨1⟩⟩ h⟩
  cases h
  rfl

end Keystore2

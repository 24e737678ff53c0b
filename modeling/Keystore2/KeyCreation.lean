import Keystore2.Upgrade
import Keystore2.Persistence

/-!
# Keystore2 — the shape of the key-creation handlers

`generate_key`, `import_key` and `import_wrapped_key` are each `keyCreation`
applied to their own checks and KeyMint part (`SecurityLevel`). This module
says once what each part does. Every later result about the three handlers is
proved for the shape from these lemmas and never from the handlers' code, so a
change to one handler is a change to the lemmas of its parts here.

## Results

* `generateKeyChecks_calls`, `importKeyChecks_calls`,
  `importWrappedKeyChecks_calls` — the calls of the checks: the Access Gate,
  the lookup of the wrapping key, the KeyMint device; nothing with an effect.
* `generateKeyChecks_ok`, `importKeyChecks_ok`, `importWrappedKeyChecks_ok` —
  what the checks established when they pass (`WrappedKeyImport.Found` for
  `import_wrapped_key`).
* `generateKeyKm_calls`, `importKeyKm_calls`, `importWrappedKeyKm_calls` — the
  calls of KeyMint's part.
* `generateKeyKm_ok`, `importKeyKm_ok`, `importWrappedKeyKm_ok` — the key of a
  successful KeyMint part is KeyMint's answer to the call that makes it.
* `keyCreation_run`, `keyCreation_onlyCallsOf` — the runs and the calls of the
  shape.
-/

namespace Keystore2

open KeystoreSecurityLevel

variable (env : Env)

-- ---------------------------------------------------------------------------
-- Calls of a run, for a known caller
-- ---------------------------------------------------------------------------

namespace Svc

variable {ε ε' α β : Type}

/-- Every call of every run of `x` from a world whose calling uid is `uid`
satisfies `P`. -/
def OnlyCallsOf (uid : UInt32) (P : Call → Prop) (x : Svc ε α) : Prop :=
  ∀ ⦃w r w'⦄, w.callingUid = uid → x.run w = some (r, w') → ∀ ev ∈ w.eventsTo w', P ev.call

theorem OnlyCallsOf.of_onlyCalls {uid : UInt32} {P : Call → Prop} {x : Svc ε α}
    (hx : OnlyCalls P x) : OnlyCallsOf uid P x :=
  fun _ _ _ _ h => hx h

/-- A step, then the rest for the value the step succeeded with. -/
theorem OnlyCallsOf.bind_ok {uid : UInt32} {P : Call → Prop} {x : Svc ε α} {f : α → Svc ε β}
    (hx : OnlyCallsOf uid P x)
    (hf : ∀ a w w', w.callingUid = uid → x.run w = some (.ok a, w') → OnlyCallsOf uid P (f a)) :
    OnlyCallsOf uid P (x >>= f) := by
  intro w r w' hu h
  rcases bind_eq_some h with ⟨a, w1, h1, h2⟩ | ⟨e, h1, -⟩
  · have hf1 := x.follows h1
    rw [World.eventsTo_trans hf1 ((f a).follows h2)]
    intro ev hev
    rcases List.mem_append.mp hev with hev | hev
    exacts [hx hu h1 ev hev, hf a _ _ hu h1 (hf1.callingUid_eq.trans hu) h2 ev hev]
  · exact hx hu h1

theorem OnlyCallsOf.bind {uid : UInt32} {P : Call → Prop} {x : Svc ε α} {f : α → Svc ε β}
    (hx : OnlyCallsOf uid P x) (hf : ∀ a, OnlyCallsOf uid P (f a)) : OnlyCallsOf uid P (x >>= f) :=
  hx.bind_ok fun a _ _ _ _ => hf a

theorem OnlyCallsOf.mapError {uid : UInt32} {P : Call → Prop} {x : Svc ε α} (g : ε → ε')
    (hx : OnlyCallsOf uid P x) : OnlyCallsOf uid P (x.mapError g) := by
  intro w r w' hu h
  obtain ⟨r', h', -⟩ := mapError_eq_some h
  exact hx hu h'

theorem OnlyCallsOf.imp {uid : UInt32} {P Q : Call → Prop} (hPQ : ∀ c, P c → Q c) {x : Svc ε α}
    (hx : OnlyCallsOf uid P x) : OnlyCallsOf uid Q x :=
  fun _ _ _ hu h ev hev => hPQ _ (hx hu h ev hev)

/-- The read of the calling uid reads `uid` itself. -/
theorem OnlyCallsOf.read_callingUid {uid : UInt32} {P : Call → Prop} {f : UInt32 → Svc ε α}
    (hf : OnlyCallsOf uid P (f uid)) : OnlyCallsOf uid P (read (·.callingUid) >>= f) := by
  intro w r w' hu h
  rw [read_bind, hu] at h
  exact hf hu h

/-- What holds for every caller holds for the calls of every run. -/
theorem OnlyCallsOf.onlyCalls {P : Call → Prop} {x : Svc ε α} (h : ∀ uid, OnlyCallsOf uid P x) :
    OnlyCalls P x :=
  fun w _ _ hr => h w.callingUid rfl hr

/-- `onlyCalls_bind`, knowing the value the first step succeeded with. -/
theorem onlyCalls_bind_ok {P : Call → Prop} {x : Svc ε α} {f : α → Svc ε β} (hx : OnlyCalls P x)
    (hf : ∀ a w w', x.run w = some (.ok a, w') → OnlyCalls P (f a)) : OnlyCalls P (x >>= f) :=
  fun w _ _ h => (OnlyCallsOf.bind_ok (.of_onlyCalls hx) fun a w1 w2 _ h1 => .of_onlyCalls
    (hf a w1 w2 h1) : OnlyCallsOf w.callingUid P (x >>= f)) rfl h

/-- A call whose answer is passed on. -/
theorem onlyCalls_ask_ofExcept {P : Call → Prop} {c : Call} {γ : Type}
    {k : c.Resp → Svc ε γ} (hc : P c) (hk : ∀ r, OnlyCalls P (k r)) :
    OnlyCalls P (ask env c >>= k) :=
  onlyCalls_bind (onlyCalls_ask env hc) hk

end Svc

-- ---------------------------------------------------------------------------
-- The shape
-- ---------------------------------------------------------------------------

namespace KeystoreSecurityLevel

variable (self : KeystoreSecurityLevel) {P : Call → Prop}

section Shape

variable {ρ : Type} {checks : Svc AnyhowError ρ} {keyOf : ρ → KeyDescriptor}
  {km : ρ → Svc AnyhowError (Blob × KeyCharacteristics × Option (List KmCertificate))}
  {msg : String}

/-- **The runs of the shape.** The checks stop with an error, and so does the
handler; or they hand `p` on and KeyMint's part stops with an error, and so does
the handler; or KeyMint's part answers a key and the handler answers as
`store_new_key` does on the descriptor the checks settled, under its context. -/
theorem keyCreation_run {w w' : World} {r : Except AnyhowError KeyMetadata}
    (h : (keyCreation env self checks keyOf km msg).run w = some (r, w')) :
    ∃ rc w1, checks.run w = some (rc, w1) ∧
      ((∃ e, rc = .error e ∧ r = .error e ∧ w' = w1) ∨
        ∃ p rk w2, rc = .ok p ∧ (km p).run w1 = some (rk, w2) ∧
          ((∃ e, rk = .error e ∧ r = .error e ∧ w' = w2) ∨
            ∃ blob kc chain r3, rk = .ok (blob, kc, chain) ∧
              (storeNewKey env self (keyOf p) kc chain blob).run w2 = some (r3, w') ∧
              r = r3.mapError fun e => (IntoAnyhow.into e).withContext msg)) := by
  unfold keyCreation at h
  rcases Svc.bind_eq_some h with ⟨p, w1, h1, h⟩ | ⟨e, h1, rfl⟩
  · rcases Svc.bind_eq_some h with ⟨⟨blob, kc, chain⟩, w2, h2, h⟩ | ⟨e, h2, rfl⟩
    · obtain ⟨r3, h3, rfl⟩ := Svc.mapError_eq_some h
      exact ⟨_, _, h1, .inr ⟨p, _, _, rfl, h2, .inr ⟨blob, kc, chain, r3, rfl, h3, rfl⟩⟩⟩
    · exact ⟨_, _, h1, .inr ⟨p, _, _, rfl, h2, .inl ⟨e, rfl, rfl, rfl⟩⟩⟩
  · exact ⟨_, _, h1, .inl ⟨e, rfl, rfl, rfl⟩⟩

/-- **The calls of the shape**: those of the checks, those of KeyMint's part
for what the checks found, and those of `store_new_key` on the descriptor they
settled. -/
theorem keyCreation_onlyCallsOf {uid : UInt32} (hc : Svc.OnlyCallsOf uid P checks)
    (hkm : ∀ p w w', w.callingUid = uid → checks.run w = some (.ok p, w') →
      Svc.OnlyCallsOf uid P (km p))
    (hst : ∀ p w w', w.callingUid = uid → checks.run w = some (.ok p, w') → ∀ kc chain blob,
      Svc.OnlyCalls P (storeNewKey env self (keyOf p) kc chain blob)) :
    Svc.OnlyCallsOf uid P (keyCreation env self checks keyOf km msg) :=
  hc.bind_ok fun p w w' hu h => (hkm p w w' hu h).bind fun ⟨blob, kc, chain⟩ => .of_onlyCalls
    (Svc.onlyCalls_mapError _ (hst p w w' hu h kc chain blob))

/-- Key Store writes of any kind: the calls of `store_new_key`. -/
theorem storeNewKey_onlyCalls_db (key : KeyDescriptor) (keyCharacteristics : KeyCharacteristics)
    (kmCertChain : Option (List KmCertificate)) (blob : Blob) (hdb : ∀ wr, P (.db wr)) :
    Svc.OnlyCalls P (storeNewKey env self key keyCharacteristics kmCertChain blob) :=
  storeNewKey_onlyCalls env self (hdb _) (fun _ _ _ => hdb _) (fun _ => hdb _) fun _ _ _ => hdb _

end Shape

-- ---------------------------------------------------------------------------
-- The checks
-- ---------------------------------------------------------------------------

/-- The calls of `generate_key`'s checks for the caller `uid`: the rebind check
on the rewritten descriptor, and the KeyMint device. -/
theorem generateKeyChecks_calls (uid : UInt32) (key : KeyDescriptor)
    (hk : ∀ sid, P (.checkKeyPermission sid .rebind (rewriteAppDomain key uid) none))
    (hg : P .getInterface) : Svc.OnlyCallsOf uid P (generateKeyChecks env key) := by
  unfold generateKeyChecks
  exact .bind (.of_onlyCalls (requireAlias_onlyCalls _ _ _)) fun _ => .read_callingUid
    (.of_onlyCalls (Svc.onlyCalls_bind (Svc.onlyCalls_mapError _
      (checkKeyPermission_onlyCalls env hk)) fun _ =>
      Svc.onlyCalls_bind (Asp.getInterface_onlyCalls env hg) fun _ => Svc.onlyCalls_pure _ _))

/-- The calls of `import_key`'s checks for the caller `uid`: the rebind check on
the rewritten descriptor, and the KeyMint device. -/
theorem importKeyChecks_calls (uid : UInt32) (key : KeyDescriptor) (params : List KmKeyParameter)
    (hk : ∀ sid, P (.checkKeyPermission sid .rebind (rewriteAppDomain key uid) none))
    (hg : P .getInterface) : Svc.OnlyCallsOf uid P (importKeyChecks env key params) := by
  unfold importKeyChecks
  exact .bind (.of_onlyCalls (requireAlias_onlyCalls _ _ _)) fun _ => .read_callingUid
    (.of_onlyCalls (Svc.onlyCalls_bind (Svc.onlyCalls_mapError _
      (checkKeyPermission_onlyCalls env hk)) fun _ =>
      Svc.onlyCalls_bind (Svc.onlyCalls_ofExcept _ _) fun _ =>
      Svc.onlyCalls_bind (Asp.getInterface_onlyCalls env hg) fun _ => Svc.onlyCalls_pure _ _))

/-- The calls of `import_wrapped_key`'s checks for the caller `uid`: the rebind
check on the rewritten descriptor, the lookup of the wrapping key for `uid`
with the use check of its callback, and the KeyMint device. -/
theorem importWrappedKeyChecks_calls (uid : UInt32) (key wrappingKey : KeyDescriptor)
    (maskingKey : Option Blob) (authenticators : List AuthenticatorSpec)
    (hk : ∀ sid, P (.checkKeyPermission sid .rebind (rewriteAppDomain key uid) none))
    (hu : ∀ sid k av, P (.checkKeyPermission sid .use k av))
    (hl : P (.loadKeyEntry wrappingKey .km uid)) (hg : P .getInterface) :
    Svc.OnlyCallsOf uid P (importWrappedKeyChecks env key wrappingKey maskingKey authenticators) := by
  unfold importWrappedKeyChecks
  refine .bind (.of_onlyCalls (requireAlias_onlyCalls _ _ _)) fun _ => .bind (.of_onlyCalls ?_)
    fun _ => .bind (.of_onlyCalls ?_) fun _ => .read_callingUid (.bind (.of_onlyCalls
      (Svc.onlyCalls_mapError _ (checkKeyPermission_onlyCalls env hk))) fun _ =>
      .read_callingUid (.of_onlyCalls ?_))
  · split
    exacts [Svc.onlyCalls_throw _ _, Svc.onlyCalls_pure _ _]
  · split
    exacts [Svc.onlyCalls_pure _ _, Svc.onlyCalls_throw _ _]
  refine Svc.onlyCalls_bind (Svc.onlyCalls_mapError _ (KeystoreDB.loadKeyEntry_onlyCalls env hl
    fun _ _ => checkKeyPermission_onlyCalls env fun _ => hu _ _ _)) fun ⟨_, _⟩ => ?_
  -- the wrapping key's blob and the two authenticators: a value, or a refusal
  refine Svc.onlyCalls_bind ?_ fun _ => Svc.onlyCalls_bind ?_ fun _ => Svc.onlyCalls_bind ?_
    fun _ => Svc.onlyCalls_bind (Asp.getInterface_onlyCalls env hg) fun _ => Svc.onlyCalls_pure _ _
  all_goals split
  all_goals first | exact Svc.onlyCalls_pure _ _ | exact Svc.onlyCalls_throw _ _

/-- What the checks of `generate_key` established when they pass: the
descriptor they hand on is the request's, rewritten for the caller; it has an
alias outside `Domain::BLOB`; and the Access Gate granted the caller rebind on
it. -/
theorem generateKeyChecks_ok {key k : KeyDescriptor} {w w' : World}
    (h : (generateKeyChecks env key).run w = some (.ok k, w')) :
    k = rewriteAppDomain key w.callingUid ∧ (key.domain ≠ Domain.blob → key.«alias» ≠ none) ∧
      Granted w.callingSid .rebind k none (w.eventsTo w') := by
  unfold generateKeyChecks at h
  obtain ⟨_, w1, h1, h⟩ := Svc.bind_eq_ok h
  have hrej : ¬ (key.domain ≠ Domain.blob ∧ key.«alias» = none) := fun hr => by
    rw [requireAlias_rejects w hr] at h1; cases h1
  rw [requireAlias_passes w hrej] at h1
  cases h1
  rw [Svc.read_bind] at h
  obtain ⟨_, w2, h2, h⟩ := Svc.bind_eq_ok h
  obtain ⟨_, w3, h3, h⟩ := Svc.bind_eq_ok h
  cases h
  refine ⟨rfl, fun hd ha => hrej ⟨hd, ha⟩, ?_⟩
  rw [World.eventsTo_trans (Svc.follows _ h2) (Svc.follows _ h3)]
  exact (checkKeyPermission_ok env (Svc.mapError_ok h2)).append_left _

/-- What the checks of `import_key` established when they pass: those of
`generate_key`, and the format of the `ALGORITHM` parameter. -/
theorem importKeyChecks_ok {key : KeyDescriptor} {params : List KmKeyParameter}
    {p : KeyDescriptor × KeyFormat} {w w' : World}
    (h : (importKeyChecks env key params).run w = some (.ok p, w')) :
    p.1 = rewriteAppDomain key w.callingUid ∧ (key.domain ≠ Domain.blob → key.«alias» ≠ none) ∧
      Granted w.callingSid .rebind p.1 none (w.eventsTo w') ∧ importKeyFormat params = .ok p.2 := by
  unfold importKeyChecks at h
  obtain ⟨_, w1, h1, h⟩ := Svc.bind_eq_ok h
  have hrej : ¬ (key.domain ≠ Domain.blob ∧ key.«alias» = none) := fun hr => by
    rw [requireAlias_rejects w hr] at h1; cases h1
  rw [requireAlias_passes w hrej] at h1
  cases h1
  rw [Svc.read_bind] at h
  obtain ⟨_, w2, h2, h⟩ := Svc.bind_eq_ok h
  obtain ⟨format, w3, h3, h⟩ := Svc.bind_eq_ok h
  rw [Svc.run_ofExcept] at h3
  obtain ⟨hf, rfl⟩ := Prod.mk.inj (Option.some.inj h3)
  obtain ⟨_, w4, h4, h⟩ := Svc.bind_eq_ok h
  cases h
  refine ⟨rfl, fun hd ha => hrej ⟨hd, ha⟩, ?_, hf⟩
  rw [World.eventsTo_trans (Svc.follows _ h2) (Svc.follows _ h4)]
  exact (checkKeyPermission_ok env (Svc.mapError_ok h2)).append_left _

/-- What the checks of `import_wrapped_key` established when they handed `p`
to KeyMint, in a run from `w` with the events `l`. -/
structure WrappedKeyImport.Found (w : World) (key wrappingKey : KeyDescriptor)
    (maskingKey : Option Blob) (authenticators : List AuthenticatorSpec) (l : List Event)
    (p : WrappedKeyImport) : Prop where
  key_eq : p.key = rewriteAppDomain key w.callingUid
  alias_ne : key.domain ≠ Domain.blob → key.«alias» ≠ none
  rebind : Granted w.callingSid .rebind p.key none l
  wrapping_ne_blob : wrappingKey.domain ≠ Domain.blob
  wrappedData_eq : key.blob = some p.wrappedData
  loaded : ∃ ak av, (⟨.loadKeyEntry wrappingKey .km w.callingUid,
    Except.ok (p.wrappingKeyIdGuard.id, ak, av)⟩ : Event) ∈ l ∧ Granted w.callingSid .use ak av l
  wrappingKeyBlob_eq : w.store.kmBlob p.wrappingKeyIdGuard.id = some p.wrappingKeyBlob
  pwSid_eq : findAuthenticatorId .password authenticators = some p.pwSid
  fpSid_eq : findAuthenticatorId .fingerprint authenticators = some p.fpSid
  maskingKey_eq : p.maskingKey = maskingKey.getD zeroBlob32

/-- What the checks of `import_wrapped_key` established when they pass. -/
theorem importWrappedKeyChecks_ok {key wrappingKey : KeyDescriptor} {maskingKey : Option Blob}
    {authenticators : List AuthenticatorSpec} {p : WrappedKeyImport} {w w' : World}
    (h : (importWrappedKeyChecks env key wrappingKey maskingKey authenticators).run w =
      some (.ok p, w')) :
    p.Found w key wrappingKey maskingKey authenticators (w.eventsTo w') := by
  unfold importWrappedKeyChecks at h
  obtain ⟨_, w1, h1, h⟩ := Svc.bind_eq_ok h
  have hrej : ¬ (key.domain ≠ Domain.blob ∧ key.«alias» = none) := fun hr => by
    rw [requireAlias_rejects w hr] at h1; cases h1
  rw [requireAlias_passes w hrej] at h1
  cases h1
  obtain ⟨_, w1, h1, h⟩ := Svc.bind_eq_ok h
  have hwb : wrappingKey.domain ≠ Domain.blob := fun hd => by rw [if_pos hd] at h1; cases h1
  rw [if_neg hwb] at h1
  cases h1
  obtain ⟨d, w1, h1, h⟩ := Svc.bind_eq_ok h
  have hd : key.blob = some d := by split at h1 <;> cases h1; assumption
  rw [hd] at h1
  cases h1
  rw [Svc.read_bind] at h
  -- the rebind permission
  obtain ⟨_, w2, h2, h⟩ := Svc.bind_eq_ok h
  have hf2 := Svc.follows _ h2
  have hs2 := Svc.keepsStore_of_onlyCalls (Svc.onlyCalls_mapError _
    (checkKeyPermission_onlyCalls env (P := fun c => c.isDb = false) fun _ => rfl)) h2
  rw [Svc.read_bind] at h
  -- the wrapping key
  obtain ⟨⟨g, e⟩, w3, h3, h⟩ := Svc.bind_eq_ok h
  have hf3 := Svc.follows _ h3
  rw [hf2.callingUid_eq] at h3
  obtain ⟨ak, av, ha, hcb, hkm⟩ := KeystoreDB.loadKeyEntry_ok env (Svc.mapError_ok h3)
  have hs3 := Svc.keepsStore_of_onlyCalls
    (checkKeyPermission_onlyCalls env (P := fun c => c.isDb = false) fun _ => rfl) hcb
  have hgu := checkKeyPermission_ok env hcb
  dsimp only at h
  -- the wrapping key's blob and the two authenticators
  obtain ⟨wb, w4, h4, h⟩ := Svc.bind_eq_ok h
  have hwb' : e.kmBlob = some wb := by split at h4 <;> cases h4; assumption
  rw [hwb'] at h4
  cases h4
  obtain ⟨pw, w4, h4, h⟩ := Svc.bind_eq_ok h
  have hpw : findAuthenticatorId .password authenticators = some pw := by
    split at h4 <;> cases h4; assumption
  rw [hpw] at h4
  cases h4
  obtain ⟨fp, w4, h4, h⟩ := Svc.bind_eq_ok h
  have hfp : findAuthenticatorId .fingerprint authenticators = some fp := by
    split at h4 <;> cases h4; assumption
  rw [hfp] at h4
  cases h4
  -- the KeyMint device
  obtain ⟨_, w5, h5, h⟩ := Svc.bind_eq_ok h
  cases h
  have hf5 := Svc.follows _ h5
  have hev : w.eventsTo w' = w.eventsTo w2 ++
      (⟨.loadKeyEntry wrappingKey .km w.callingUid, Except.ok (g.id, ak, av)⟩ :: (w2.record
        ⟨.loadKeyEntry wrappingKey .km w.callingUid, Except.ok (g.id, ak, av)⟩).eventsTo w3) ++
      w3.eventsTo w' := by
    rw [World.eventsTo_trans (hf2.trans hf3) hf5, World.eventsTo_trans hf2 hf3,
      World.eventsTo_trans (w2.follows_record _) (Svc.follows _ hcb), World.eventsTo_record]
    simp
  rw [World.record_callingSid, hf2.callingSid_eq] at hgu
  refine ⟨rfl, fun hd ha => hrej ⟨hd, ha⟩, ?_, hwb, hd, ⟨ak, av, ?_, ?_⟩, ?_, hpw, hfp, rfl⟩
  · rw [hev, List.append_assoc]
    exact (checkKeyPermission_ok env (Svc.mapError_ok h2)).append_left _
  · rw [hev]
    simp
  · obtain ⟨sid, hsid, hm⟩ := hgu
    exact ⟨sid, hsid, by rw [hev]; simp [hm]⟩
  · rw [← hwb', hkm]
    simp [hs3, hs2, Event.write?]

-- ---------------------------------------------------------------------------
-- KeyMint's part
-- ---------------------------------------------------------------------------

/-- The calls of KeyMint's part of `generate_key`: `addRngEntropy` with the
caller's entropy, and `generateKey` with the request's parameters. -/
theorem generateKeyKm_calls (params : List KmKeyParameter) (entropy : Blob)
    (he : P (.addRngEntropy entropy)) (hgen : P (.generateKey params)) :
    Svc.OnlyCalls P (generateKeyKm env params entropy) := by
  unfold generateKeyKm
  exact Svc.onlyCalls_bind (Svc.onlyCalls_mapError _ (Svc.onlyCalls_ask_ofExcept env he fun _ =>
    Svc.onlyCalls_ofExcept _ _)) fun _ => Svc.onlyCalls_bind (Svc.onlyCalls_mapError _
      (Svc.onlyCalls_ask_ofExcept env hgen fun _ => Svc.onlyCalls_ofExcept _ _)) fun ⟨_, _, _⟩ =>
      Svc.onlyCalls_pure _ _

/-- The call of KeyMint's part of `import_key`: `importKey` with the request's
parameters and key material, in the format found. -/
theorem importKeyKm_calls (params : List KmKeyParameter) (keyData : Blob) (format : KeyFormat)
    (hi : P (.importKey params format keyData)) :
    Svc.OnlyCalls P (importKeyKm env params keyData format) := by
  unfold importKeyKm
  exact Svc.onlyCalls_bind (Svc.onlyCalls_mapError _ (Svc.onlyCalls_ask_ofExcept env hi fun _ =>
    Svc.onlyCalls_ofExcept _ _)) fun ⟨_, _, _⟩ => Svc.onlyCalls_pure _ _

/-- The calls of KeyMint's part of `import_wrapped_key`: `importWrappedKey` with
what the checks found, one `upgradeKey` of the wrapping key's blob, and the
write of a KM blob under the wrapping key's guard. -/
theorem importWrappedKeyKm_calls (params : List KmKeyParameter) (p : WrappedKeyImport)
    (hw : P (.importWrappedKey p.wrappedData p.wrappingKeyBlob p.maskingKey params p.pwSid p.fpSid))
    (hu : P (.upgradeKey p.wrappingKeyBlob []))
    (hdb : ∀ b, P (.db (.insertBlob p.wrappingKeyIdGuard.id .kmBlob b self.securityLevel))) :
    Svc.OnlyCalls P (importWrappedKeyKm env self params p) := by
  unfold importWrappedKeyKm
  refine Svc.onlyCalls_bind (upgradeKeyblobIfRequiredWith_onlyCalls env self (fun _ =>
    Svc.onlyCalls_ask_ofExcept env hw fun _ => Svc.onlyCalls_bind (Svc.onlyCalls_ofExcept _ _)
      fun ⟨_, _⟩ => Svc.onlyCalls_pure _ _) hu fun _ _ hg => ?_) fun ⟨⟨_, _⟩, _⟩ =>
    Svc.onlyCalls_pure _ _
  cases hg
  exact hdb _

/-- A successful run of the upgrade protocol returns the value of a successful
run of the closure inside it. -/
theorem upgradeKeyblobIfRequiredWith_ok {T : Type} {keyIdGuard : Option KeyIdGuard} {blob : Blob}
    {params : List KmKeyParameter} {f : Blob → Svc Error T} {w w' : World} {v : T}
    {ub : Option Blob}
    (h : (upgradeKeyblobIfRequiredWith env self keyIdGuard blob params f).run w =
      some (.ok (v, ub), w')) :
    ∃ b w1 w2, (f b).run w1 = some (.ok v, w2) ∧ ∀ ev ∈ w1.eventsTo w2, ev ∈ w.eventsTo w' := by
  unfold upgradeKeyblobIfRequiredWith at h
  obtain ⟨r, w1, h1, h⟩ := Svc.bind_eq_ok h
  obtain ⟨r', h1', hr⟩ := Svc.observe_eq_some h1
  cases hr
  rcases r with e | v'
  · dsimp only at h
    split at h
    · obtain ⟨b', w2, h2, h⟩ := Svc.bind_eq_ok h
      obtain ⟨_, w3, h3, h⟩ := Svc.bind_eq_ok h
      obtain ⟨r4, w4, h4, h⟩ := Svc.bind_eq_ok h
      obtain ⟨r4', h4', hr4⟩ := Svc.observe_eq_some h4
      cases hr4
      rcases r4 with e' | v'
      · cases h
      · cases h
        refine ⟨b', w3, w', h4', fun ev hev => ?_⟩
        rw [World.eventsTo_trans ((Svc.follows _ h1).trans ((Svc.follows _ h2).trans
          (Svc.follows _ h3))) (Svc.follows _ h4')]
        exact List.mem_append_right _ hev
    · cases h
  · cases h
    exact ⟨blob, w, w', h1', fun _ h => h⟩

/-- The key of a successful KeyMint part of `generate_key` is KeyMint's answer
to `generateKey`, with its certificate chain. -/
theorem generateKeyKm_ok {params : List KmKeyParameter} {entropy : Blob} {w w' : World}
    {out : Blob × KeyCharacteristics × Option (List KmCertificate)}
    (h : (generateKeyKm env params entropy).run w = some (.ok out, w')) :
    ∃ blob kc chain, out = (blob, kc, some chain) ∧
      (⟨.generateKey params, Except.ok (blob, kc, chain)⟩ : Event) ∈ w.eventsTo w' := by
  unfold generateKeyKm at h
  obtain ⟨_, w1, h1, h⟩ := Svc.bind_eq_ok h
  obtain ⟨⟨blob, kc, chain⟩, w2, h2, h⟩ := Svc.bind_eq_ok h
  cases h
  have h2' := Svc.mapError_ok h2
  rw [Svc.bind_ok (Svc.run_ask env _ w1), Svc.run_ofExcept] at h2'
  obtain ⟨ha, rfl⟩ := Prod.mk.inj (Option.some.inj h2')
  refine ⟨blob, kc, chain, rfl, ?_⟩
  rw [World.eventsTo_trans (Svc.follows _ h1) (w1.follows_record _), World.eventsTo_record, ha]
  exact List.mem_append_right _ (List.mem_singleton_self _)

/-- The key of a successful KeyMint part of `import_key` is KeyMint's answer to
`importKey`, with its certificate chain. -/
theorem importKeyKm_ok {params : List KmKeyParameter} {keyData : Blob} {format : KeyFormat}
    {w w' : World} {out : Blob × KeyCharacteristics × Option (List KmCertificate)}
    (h : (importKeyKm env params keyData format).run w = some (.ok out, w')) :
    ∃ blob kc chain, out = (blob, kc, some chain) ∧
      (⟨.importKey params format keyData, Except.ok (blob, kc, chain)⟩ : Event) ∈ w.eventsTo w' := by
  unfold importKeyKm at h
  obtain ⟨⟨blob, kc, chain⟩, w1, h1, h⟩ := Svc.bind_eq_ok h
  cases h
  have h1' := Svc.mapError_ok h1
  rw [Svc.bind_ok (Svc.run_ask env _ w), Svc.run_ofExcept] at h1'
  obtain ⟨ha, rfl⟩ := Prod.mk.inj (Option.some.inj h1')
  refine ⟨blob, kc, chain, rfl, ?_⟩
  rw [World.eventsTo_record, ha]
  exact List.mem_singleton_self _

/-- The key of a successful KeyMint part of `import_wrapped_key` is KeyMint's
answer to an `importWrappedKey` call with what the checks found; a wrapped key
has no certificate chain. -/
theorem importWrappedKeyKm_ok {params : List KmKeyParameter} {p : WrappedKeyImport} {w w' : World}
    {out : Blob × KeyCharacteristics × Option (List KmCertificate)}
    (h : (importWrappedKeyKm env self params p).run w = some (.ok out, w')) :
    ∃ blob kc, out = (blob, kc, none) ∧
      (⟨.importWrappedKey p.wrappedData p.wrappingKeyBlob p.maskingKey params p.pwSid p.fpSid,
        Except.ok (blob, kc)⟩ : Event) ∈ w.eventsTo w' := by
  unfold importWrappedKeyKm at h
  obtain ⟨⟨⟨blob, kc⟩, ub⟩, w1, h1, h⟩ := Svc.bind_eq_ok h
  cases h
  obtain ⟨b, w2, w3, h2, hsub⟩ := upgradeKeyblobIfRequiredWith_ok env self h1
  rw [Svc.bind_ok (Svc.run_ask env _ w2)] at h2
  obtain ⟨⟨b', kc'⟩, w4, h4, h⟩ := Svc.bind_eq_ok h2
  rw [Svc.run_ofExcept] at h4
  obtain ⟨ha, rfl⟩ := Prod.mk.inj (Option.some.inj h4)
  cases h
  refine ⟨blob, kc, rfl, hsub _ ?_⟩
  rw [World.eventsTo_record, ha]
  exact List.mem_singleton_self _

end KeystoreSecurityLevel

end Keystore2

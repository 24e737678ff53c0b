import Keystore2.Binder
import Keystore2.HandlerCalls

/-!
# Keystore2 — what vouches for the values a run writes

Several results of the service have the form "every value of one kind that a
run writes is one that the run's own events vouch for": the KM blob a write
stores, and the key `store_new_key` records, are ones KeyMint handed out
(`StoreIntegrity`, `KeyMintOrigin`); the key id whose KM blob a write replaces
is one the caller loaded with `use` granted (`KmBlobAccess`). Each follows a
value from the call that answers it to the write that stores it, through the
steps of a handler in between.

A `Voucher` says which events vouch for a value. Two walks over computations
carry it: `Svc.WritesFrom`, for the values the calls of a run write, and
`Svc.Returns`, for the value a run returns, which a later step may write. Each
has one lemma per way of building a computation, so that a handler's lemma
follows its code step by step.

## Results

* `Voucher` — what vouches for a value, kept as the run goes on.
* `Svc.WritesFrom`, `Svc.Returns` and their composition lemmas.
* `keyCreation_writesFrom` — the shape of the three key creations, from its
  checks, its KeyMint part and `store_new_key`.
-/

namespace Keystore2

/-- What vouches for a value `b` in a run from the world `w` with the events
`l`: still so when the run started earlier, at `w`, and its events `l'` hold
those from `w` on. -/
structure Voucher (γ : Type) where
  holds : World → List Event → γ → Prop
  mono : ∀ {w w1 : World} {l l' : List Event} {b : γ}, w.Follows w1 →
    (∀ ev ∈ w.eventsTo w1 ++ l, ev ∈ l') → holds w1 l b → holds w l' b

/-- Still so when the events grow. -/
theorem Voucher.grow {γ : Type} (V : Voucher γ) {w : World} {l l' : List Event} {b : γ}
    (hl : ∀ ev ∈ l, ev ∈ l') (h : V.holds w l b) : V.holds w l' b :=
  V.mono (.refl w) (by rw [World.eventsTo_self]; exact hl) h

namespace Svc

variable {ε ε' α β γ : Type} (V : Voucher γ) (written : Call → Option γ)

/-- Every value `written` picks out of a call of a stopping run of `x` is one
`S` admits or one the run's events vouch for. -/
def WritesFrom (S : γ → Prop) (x : Svc ε α) : Prop :=
  ∀ ⦃w r w'⦄, x.run w = some (r, w') → ∀ ev ∈ w.eventsTo w', ∀ b,
    written ev.call = some b → S b ∨ V.holds w (w.eventsTo w') b

/-- Every successful run of `x` returns a value whose part `g` picks, if any,
the run's events vouch for. -/
def Returns (g : α → Option γ) (x : Svc ε α) : Prop :=
  ∀ ⦃w a w'⦄, x.run w = some (.ok a, w') → ∀ b, g a = some b → V.holds w (w.eventsTo w') b

variable {V written} {S S' : γ → Prop}

-- ---------------------------------------------------------------------------
-- The values written
-- ---------------------------------------------------------------------------

theorem WritesFrom.of_onlyCalls {x : Svc ε α}
    (hx : OnlyCalls (fun c => ∀ b, written c = some b → S b) x) : WritesFrom V written S x :=
  fun _ _ _ h ev hev b hb => .inl (hx h ev hev b hb)

/-- A computation that writes no such value. -/
theorem WritesFrom.of_none {x : Svc ε α} (hx : OnlyCalls (fun c => written c = none) x) :
    WritesFrom V written S x :=
  .of_onlyCalls (hx.imp fun _ hc _ hb => nomatch hc.symm.trans hb)

theorem WritesFrom.mono (hS : ∀ b, S b → S' b) {x : Svc ε α} (hx : WritesFrom V written S x) :
    WritesFrom V written S' x :=
  fun _ _ _ h ev hev b hb => (hx h ev hev b hb).imp_left (hS b)

theorem WritesFrom.mapError {x : Svc ε α} (f : ε → ε') (hx : WritesFrom V written S x) :
    WritesFrom V written S (x.mapError f) := by
  intro w r w' h
  obtain ⟨r', h', -⟩ := mapError_eq_some h
  exact hx h'

/-- A first part, then a continuation that may write what the first part's run
vouched for. -/
theorem WritesFrom.bind {x : Svc ε α} {f : α → Svc ε β} (hx : WritesFrom V written S x)
    (hf : ∀ a ⦃w w1⦄, x.run w = some (.ok a, w1) →
      WritesFrom V written (fun b => S b ∨ V.holds w (w.eventsTo w1) b) (f a)) :
    WritesFrom V written S (x >>= f) := by
  intro w r w' h
  rcases bind_eq_some h with ⟨a, w1, h1, h2⟩ | ⟨e, h1, -⟩
  · have hf1 := x.follows h1
    rw [World.eventsTo_trans hf1 ((f a).follows h2)]
    intro ev hev b hb
    rcases List.mem_append.mp hev with hev | hev
    · exact (hx h1 ev hev b hb).imp_right (V.grow fun _ => List.mem_append_left _)
    · rcases hf a h1 h2 ev hev b hb with (hS | hH) | hH
      exacts [.inl hS, .inr (V.grow (fun _ => List.mem_append_left _) hH),
        .inr (V.mono hf1 (fun _ h => h) hH)]
  · exact hx h1

/-- A first part that writes no such value. -/
theorem WritesFrom.bind_of_none {x : Svc ε α} {f : α → Svc ε β}
    (hx : OnlyCalls (fun c => written c = none) x) (hf : ∀ a, WritesFrom V written S (f a)) :
    WritesFrom V written S (x >>= f) :=
  (of_none hx).bind fun a _ _ _ => (hf a).mono fun _ => .inl

/-- A first part whose value is vouched for, then a continuation that writes
nothing but that value. -/
theorem WritesFrom.bind_returns {g : α → Option γ} {x : Svc ε α} {f : α → Svc ε β}
    (hx : WritesFrom V written S x) (hr : Returns V g x)
    (hf : ∀ a, WritesFrom V written (fun b => g a = some b) (f a)) :
    WritesFrom V written S (x >>= f) :=
  hx.bind fun a _ _ h1 => (hf a).mono fun b hb => .inr (hr h1 b hb)

-- ---------------------------------------------------------------------------
-- The value returned
-- ---------------------------------------------------------------------------

theorem Returns.mapError {g : α → Option γ} {x : Svc ε α} (f : ε → ε') (hx : Returns V g x) :
    Returns V g (x.mapError f) :=
  fun _ _ _ h => hx (mapError_ok h)

/-- A value with nothing to vouch for. -/
theorem Returns.of_none {g : α → Option γ} {x : Svc ε α}
    (hx : ∀ ⦃w a w'⦄, x.run w = some (.ok a, w') → g a = none) : Returns V g x :=
  fun _ _ _ h _ hb => nomatch (hx h).symm.trans hb

/-- The value comes out of the continuation. -/
theorem Returns.bind {g : β → Option γ} {x : Svc ε α} {f : α → Svc ε β}
    (hf : ∀ a, Returns V g (f a)) : Returns V g (x >>= f) := by
  intro w b w' h
  rcases bind_eq_some h with ⟨a, w1, h1, h2⟩ | ⟨e, -, he⟩
  · rw [World.eventsTo_trans (x.follows h1) ((f a).follows h2)]
    exact fun c hc => V.mono (x.follows h1) (fun _ h => h) (hf a h2 c hc)
  · cases he

/-- The value of the first part, passed on by the continuation. -/
theorem Returns.bind_pass {g : α → Option γ} {g' : β → Option γ} {x : Svc ε α}
    {f : α → Svc ε β} (hx : Returns V g x)
    (hf : ∀ a ⦃w b w'⦄, (f a).run w = some (.ok b, w') → ∀ c, g' b = some c → g a = some c) :
    Returns V g' (x >>= f) := by
  intro w b w' h
  rcases bind_eq_some h with ⟨a, w1, h1, h2⟩ | ⟨e, -, he⟩
  · rw [World.eventsTo_trans (x.follows h1) ((f a).follows h2)]
    exact fun c hc => V.grow (fun _ => List.mem_append_left _) (hx h1 c (hf a h2 c hc))
  · cases he

/-- The result of `x`, observed and passed on: a value the continuation makes
of a value of `x` carries that value's part. -/
theorem Returns.observe_bind {g : α → Option γ} {g' : β → Option γ} {x : Svc ε α}
    {k : Except ε α → Svc ε' β} (hx : Returns V g x)
    (hok : ∀ v ⦃w b w'⦄, (k (.ok v)).run w = some (.ok b, w') → ∀ c, g' b = some c → g v = some c)
    (herr : ∀ e, Returns V g' (k (.error e))) : Returns V g' (observe x >>= k) := by
  intro w b w' h
  rcases bind_eq_some h with ⟨r, w1, h1, h2⟩ | ⟨e, -, he⟩
  · obtain ⟨r', h1', hr⟩ := observe_eq_some h1
    cases hr
    have hf1 := x.follows h1'
    rw [World.eventsTo_trans hf1 ((k _).follows h2)]
    intro c hc
    cases r with
    | ok v => exact V.grow (fun _ => List.mem_append_left _) (hx h1' c (hok v h2 c hc))
    | error e => exact V.mono hf1 (fun _ h => h) (herr e h2 c hc)
  · cases he

/-- A call, then a continuation whose value is vouched for by the call's event
alone. -/
theorem Returns.ask_bind (env : Env) {g : α → Option γ} {c : Call} {k : c.Resp → Svc ε α}
    (hk : ∀ r ⦃w a w'⦄, (k r).run w = some (.ok a, w') → ∀ b, g a = some b →
      ∀ w0, V.holds w0 [⟨c, r⟩] b) :
    Returns V g (ask env c >>= k) := by
  intro w a w' h b hb
  rw [bind_ok (run_ask env c w)] at h
  refine V.grow (fun ev hev => ?_) (hk _ h b hb w)
  rw [World.eventsTo_trans (w.follows_record _) ((k _).follows h), World.eventsTo_record]
  exact List.mem_append_left _ hev

end Svc

open KeystoreSecurityLevel

/-- The value of the upgrade protocol is one of the closure's values. -/
theorem upgradeKeyblobIfRequiredWith_returns (env : Env) (self : KeystoreSecurityLevel)
    {T γ : Type} {V : Voucher γ} {g : T → Option γ} {keyIdGuard : Option KeyIdGuard} {blob : Blob}
    {params : List KmKeyParameter} {f : Blob → Svc Error T} (hf : ∀ b, Svc.Returns V g (f b)) :
    Svc.Returns V (fun p => g p.1)
      (upgradeKeyblobIfRequiredWith env self keyIdGuard blob params f) := by
  unfold upgradeKeyblobIfRequiredWith
  refine .observe_bind (hf blob) (fun v _ _ _ h _ hc => by cases h; exact hc) fun e => ?_
  dsimp only
  split
  · exact .bind fun _ => .bind fun _ => .observe_bind (hf _)
      (fun v _ _ _ h _ hc => by cases h; exact hc) fun _ _ _ _ h => by cases h
  · exact fun _ _ _ h => by cases h

/-- The walk of `create_operation`: its key resolution writes no value and
returns one `g` picks, vouched for; the upgrade protocol on the resolved blob
and guard writes no value but that one; and the registration of the operation
writes none. -/
theorem createOperation_writesFrom (env : Env) (self : KeystoreSecurityLevel) {γ : Type}
    {V : Voucher γ} {written : Call → Option γ} {S : γ → Prop}
    {g : Blob × Option KeyIdGuard → Option γ} {key : KeyDescriptor} {ps : List KmKeyParameter}
    {forced : Bool} (hk : ∀ sid perm k av, written (.checkKeyPermission sid perm k av) = none)
    (hl : ∀ uid, written (.loadKeyEntry key .km uid) = none) (hg : written .getInterface = none)
    (ho : ∀ op uid, written (.createOperation op uid) = none)
    (hn : ∀ op, written (.intoInterface op) = none)
    (hr : ∀ uid, Svc.Returns V g (createOperationKmBlob env key uid))
    (hu : ∀ uid purpose p, Svc.WritesFrom V written (fun b => g p = some b)
      (upgradeKeyblobIfRequiredWith env self p.2 p.1 ps (beginLoop env purpose ps uid))) :
    Svc.WritesFrom V written S (createOperation env self key ps forced) := by
  unfold createOperation
  refine .bind_of_none (Svc.onlyCalls_read _ _) fun uid =>
    .bind_returns (.of_none (createOperationKmBlob_calls env uid key hk (hl uid))) (hr uid)
    fun ⟨b, guard⟩ => .bind_of_none (Svc.onlyCalls_ofExcept _ _) fun purpose =>
    .bind_of_none (Svc.onlyCalls_mapError _ (Asp.getInterface_onlyCalls env hg)) fun _ => ?_
  refine ((hu uid purpose (b, guard)).mapError _).bind fun ⟨_, _⟩ _ _ _ => .of_none ?_
  dsimp only
  split
  all_goals refine Svc.onlyCalls_bind ?_ fun op => Svc.onlyCalls_bind (Svc.onlyCalls_mapError _
    (Svc.onlyCalls_bind (Svc.onlyCalls_ask env (hn op)) fun _ => Svc.onlyCalls_ofExcept _ _)) fun _ =>
      Svc.onlyCalls_pure _ _
  exacts [Svc.onlyCalls_ask env (ho _ _), Svc.onlyCalls_throw _ _]

/-- The walk of the key-creation shape: its checks write no value and return
one `f` picks, vouched for; KeyMint's part writes no value but that one and
returns a key whose part `g` picks, vouched for; `store_new_key` writes no value
but that one. -/
theorem keyCreation_writesFrom (env : Env) (self : KeystoreSecurityLevel) {ρ γ : Type}
    {V : Voucher γ} {written : Call → Option γ} {S : γ → Prop} {checks : Svc AnyhowError ρ}
    {keyOf : ρ → KeyDescriptor}
    {km : ρ → Svc AnyhowError (Blob × KeyCharacteristics × Option (List KmCertificate))}
    {msg : String} {f : ρ → Option γ}
    {g : Blob × KeyCharacteristics × Option (List KmCertificate) → Option γ}
    (hc : Svc.OnlyCalls (fun c => written c = none) checks) (hcr : Svc.Returns V f checks)
    (hkm : ∀ p, Svc.WritesFrom V written (fun b => f p = some b) (km p))
    (hr : ∀ p, Svc.Returns V g (km p))
    (hst : ∀ p blob kc chain, Svc.WritesFrom V written (fun b => g (blob, kc, chain) = some b)
      (storeNewKey env self (keyOf p) kc chain blob)) :
    Svc.WritesFrom V written S (keyCreation env self checks keyOf km msg) :=
  .bind_returns (.of_none hc) hcr fun p => .bind_returns (hkm p) (hr p)
    fun ⟨blob, kc, chain⟩ => (hst p blob kc chain).mapError _

end Keystore2

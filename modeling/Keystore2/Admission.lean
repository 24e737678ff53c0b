import Mathlib.Data.List.Chain
import Keystore2.StoreIntegrity

/-!
# Keystore2 — when the service prunes a caller's operations

`create_operation` makes room for an operation only when KeyMint refuses one:
its inner loop calls the Operation Registry's `prune` right after a `begin` that
KeyMint answered `TOO_MANY_OPERATIONS`, and for the caller of the transaction;
no other code path of the service prunes. A run of the service therefore never
evicts operations unprompted, nor those of an app that did not ask for room:
every `prune` of a run comes right after a busy `begin`, and makes room for the
caller of one of the run's `createOperation` transactions.

The property of a log is `PrunesAfterBusy`: it does not start with a `prune`,
and every `prune` follows a busy `begin`. It is closed under appending, so it
follows from the logs of the begin phase (`BeginLoopLog`, `BeginPhaseLog`), then
from the call lemma of `create_operation`, and then transaction by transaction
over a run.

## Results

* `dispatch_prunes` — one transaction: its log has the property, and its prunes
  are for its caller, in a `createOperation` transaction only.
* `serve_prunes_after_busy` — every run: every `prune` comes right after a busy
  `begin`, for the caller of a `createOperation` transaction of the run.
-/

namespace Keystore2

open KeystoreSecurityLevel

variable (env : Env)

/-- A call of the Operation Registry's `prune`. -/
def Call.isPrune : Call → Bool
  | .prune _ => true
  | _ => false

theorem Call.isPrune_eq_false_of_isEffect {c : Call} (h : c.isEffect = false) :
    c.isPrune = false := by
  cases c <;> first | rfl | cases h

/-- A `begin` that KeyMint refused with `TOO_MANY_OPERATIONS`. -/
def Event.IsBusyBegin (ev : Event) : Prop :=
  ∃ purpose blob params, ev = ⟨.begin purpose blob params, tooMany⟩

/-- Every `prune` of the log `l` comes right after a `begin` that KeyMint
refused as busy: `l` does not start with a `prune`, and each one follows a busy
`begin`. -/
def PrunesAfterBusy (l : List Event) : Prop :=
  (∀ ev ∈ l.head?, ev.call.isPrune = false) ∧
    l.Chain' fun ev₁ ev₂ => ev₂.call.isPrune → ev₁.IsBusyBegin

namespace PrunesAfterBusy

/-- A log without a `prune`. -/
theorem of_noPrune {l : List Event} (h : ∀ ev ∈ l, ev.call.isPrune = false) :
    PrunesAfterBusy l :=
  ⟨fun ev hev => h ev (List.mem_of_mem_head? hev),
    (List.pairwise_of_forall_mem_list fun _ _ ev₂ hev₂ hp =>
      absurd hp (by simp [h ev₂ hev₂])).chain'⟩

theorem append {l₁ l₂ : List Event} (h₁ : PrunesAfterBusy l₁) (h₂ : PrunesAfterBusy l₂) :
    PrunesAfterBusy (l₁ ++ l₂) := by
  refine ⟨fun ev hev => ?_, List.chain'_append.mpr ⟨h₁.2, h₂.2, fun _ _ ev hev hp => ?_⟩⟩
  · cases l₁ with
    | nil => exact h₂.1 ev hev
    | cons _ _ => exact h₁.1 ev hev
  · exact absurd hp (by simp [h₂.1 ev hev])

/-- A busy `begin`, then its `prune`. -/
theorem busy_prune (purpose : KeyPurpose) (blob : Blob) (params : List KmKeyParameter)
    (uid : UInt32) (a : Except Error Unit) :
    PrunesAfterBusy [⟨.begin purpose blob params, tooMany⟩, ⟨.prune uid, a⟩] :=
  ⟨fun ev hev => by cases hev; rfl, List.chain'_pair.mpr fun _ => ⟨purpose, blob, params, rfl⟩⟩

/-- Where a `prune` stands in such a log: right after a busy `begin`. -/
theorem split {l l₁ l₂ : List Event} {ev : Event} (h : PrunesAfterBusy l)
    (he : l = l₁ ++ ev :: l₂) (hp : ev.call.isPrune) :
    ∃ l₀ purpose blob params, l₁ = l₀ ++ [⟨.begin purpose blob params, tooMany⟩] := by
  subst he
  rcases List.eq_nil_or_concat l₁ with rfl | ⟨l₀, ev₀, rfl⟩
  · exact absurd hp (by simp [h.1 ev rfl])
  · rw [List.concat_eq_append] at h ⊢
    rw [List.append_assoc, List.singleton_append] at h
    obtain ⟨purpose, blob, params, rfl⟩ := (List.chain'_append_cons_cons.mp h.2).2.1 hp
    exact ⟨l₀, purpose, blob, params, rfl⟩

end PrunesAfterBusy

-- ---------------------------------------------------------------------------
-- The begin phase and `create_operation`
-- ---------------------------------------------------------------------------

/-- A run of `create_operation`'s inner loop prunes only right after a busy
`begin`. -/
theorem BeginLoopLog.prunesAfterBusy {purpose : KeyPurpose} {blob : Blob}
    {params : List KmKeyParameter} {uid : UInt32} {l : List Event} {r : Except Error BeginResult}
    (h : BeginLoopLog purpose blob params uid l r) : PrunesAfterBusy l := by
  induction h with
  | answered => exact .of_noPrune fun ev hev => by rw [List.mem_singleton.mp hev]; rfl
  | pruneFailed => exact .busy_prune _ _ _ _ _
  | pruned _ ih => exact (PrunesAfterBusy.busy_prune _ _ _ _ _).append ih

/-- So does the begin phase: the upgrade and its write prune nothing. -/
theorem BeginPhaseLog.prunesAfterBusy {purpose : KeyPurpose} {b0 : Blob}
    {params : List KmKeyParameter} {uid : UInt32} {keyIdGuard : Option KeyIdGuard}
    {secLevel : SecurityLevel} {l : List Event} {r : Except ErrorRoot BeginResult}
    (h : BeginPhaseLog purpose b0 params uid keyIdGuard secLevel l r) : PrunesAfterBusy l := by
  cases h with
  | first hl => exact hl.prunesAfterBusy
  | upgradeFailed hl | persistFailed hl =>
    exact hl.prunesAfterBusy.append (.of_noPrune (by simp [Call.isPrune]))
  | retried hl hl' =>
    rw [List.append_assoc]
    refine hl.prunesAfterBusy.append ((PrunesAfterBusy.of_noPrune ?_).append hl'.prunesAfterBusy)
    cases keyIdGuard <;> simp [persistLog, Call.isPrune]

theorem createOperation_prunesAfterBusy (self : KeystoreSecurityLevel) (key : KeyDescriptor)
    (ps : List KmKeyParameter) (forced : Bool) {w w' : World}
    {r : Except AnyhowError CreateOperationResponse}
    (h : (createOperation env self key ps forced).run w = some (r, w')) :
    PrunesAfterBusy (w.eventsTo w') := by
  have hnone : ∀ l : List Event, (∀ ev ∈ l, ev.call.isEffect = false) → PrunesAfterBusy l :=
    fun l hl => .of_noPrune fun ev hev => Call.isPrune_eq_false_of_isEffect (hl ev hev)
  rcases createOperation_calls env self key ps forced h with
    ⟨hn, -⟩ | ⟨_, _, _, pre, l, _, post, -, -, hpre, hl, he, hpost⟩
  · exact hnone _ hn
  rw [he]
  refine ((hnone pre hpre).append hl.prunesAfterBusy).append ?_
  rcases hpost with ⟨rfl, -⟩ | ⟨_, _, _, rest, -, -, rfl, hrest⟩
  · exact .of_noPrune (by simp)
  · exact .of_noPrune (List.forall_mem_cons.mpr
      ⟨rfl, fun ev hev => Call.isPrune_eq_false_of_isEffect (hrest ev hev)⟩)

-- ---------------------------------------------------------------------------
-- Transactions and runs
-- ---------------------------------------------------------------------------

/-- **One transaction.** Whatever its method, caller and the collaborators'
answers, a transaction prunes only right after a busy `begin`, only in a
`createOperation` transaction, and only for its caller. -/
theorem dispatch_prunes (self : KeystoreSecurityLevel) (rq : Request) {w w' : World}
    {r : Except AnyhowError Response} (h : (dispatch env self rq).run w = some (r, w')) :
    PrunesAfterBusy (w.eventsTo w') ∧
      ∀ ev ∈ w.eventsTo w', ∀ uid, ev.call = .prune uid →
        (∃ key ps forced, rq = .createOperation key ps forced) ∧ uid = w.callingUid := by
  have hnone : (∀ ev ∈ w.eventsTo w', ev.call.isPrune = false) →
      PrunesAfterBusy (w.eventsTo w') ∧ ∀ ev ∈ w.eventsTo w', ∀ uid, ev.call = .prune uid →
        (∃ key ps forced, rq = .createOperation key ps forced) ∧ uid = w.callingUid :=
    fun hn => ⟨.of_noPrune hn, fun ev hev uid hu => by
      have hp := hn ev hev
      rw [hu] at hp
      cases hp⟩
  cases rq <;> obtain ⟨r', h'⟩ := Svc.bind_pure_eq_some h
  case createOperation key ps forced =>
    refine ⟨createOperation_prunesAfterBusy env self key ps forced h',
      fun ev hev uid hu => ⟨⟨key, ps, forced, rfl⟩, ?_⟩⟩
    rcases createOperation_onlyCallsOf env self w.callingUid key ps forced
      (P := fun c => c.isPrune = false ∨ c = .prune w.callingUid) (fun _ _ _ _ => .inl rfl)
      (.inl rfl) (.inl rfl) (fun _ _ => .inl rfl) (.inr rfl) (fun _ => .inl rfl)
      (fun _ _ => .inl rfl) (fun _ => .inl rfl) (fun _ => .inl rfl) rfl h' ev hev with hn | hs
    · rw [hu] at hn
      cases hn
    · rw [hu] at hs
      exact Call.prune.inj hs
  case generateKey =>
    exact hnone (generateKey_onlyCalls env self _ _ _ _ _ (P := fun c => c.isPrune = false) (fun _ _ _ _ => rfl) rfl rfl rfl
      (fun _ => rfl) h')
  case importKey =>
    exact hnone (importKey_onlyCalls env self _ _ _ _ _ (P := fun c => c.isPrune = false) (fun _ _ _ _ => rfl) rfl
      (fun _ _ => rfl) (fun _ => rfl) h')
  case importWrappedKey =>
    exact hnone (importWrappedKey_onlyCallsOf env self w.callingUid _ _ _ _ _
      (P := fun c => c.isPrune = false) (fun _ _ _ _ => rfl) rfl rfl (fun _ _ _ _ _ _ _ => rfl) (fun _ => rfl) (fun _ => rfl) rfl h')

/-- **Pruning over every run.** Whatever the transactions, their callers and
the collaborators' answers, every `prune` a run of the service makes comes right
after a `begin` that KeyMint refused with `TOO_MANY_OPERATIONS`, and makes room
for the caller of one of the run's `createOperation` transactions. -/
theorem serve_prunes_after_busy (self : KeystoreSecurityLevel) {txs : List (Caller × Request)}
    {w w' : World} {rs : List (Except AnyhowError Response)}
    (h : serve env self txs w = some (rs, w')) :
    ∀ l₁ (uid : UInt32) (a : Except Error Unit) l₂, w.eventsTo w' = l₁ ++ ⟨.prune uid, a⟩ :: l₂ →
      (∃ l₀ purpose blob params, l₁ = l₀ ++ [⟨.begin purpose blob params, tooMany⟩]) ∧
        ∃ c : Caller, ∃ key ps forced, (c, Request.createOperation key ps forced) ∈ txs ∧ c.uid = uid := by
  obtain ⟨-, hp, hc⟩ := serve_rel (R := fun w w' => w.Extends w' ∧ PrunesAfterBusy (w.eventsTo w') ∧
      ∀ ev ∈ w.eventsTo w', ∀ uid, ev.call = .prune uid →
        ∃ c : Caller, ∃ key ps forced, (c, Request.createOperation key ps forced) ∈ txs ∧ c.uid = uid)
    (fun w => ⟨.refl w, by simp only [World.eventsTo_self]; exact .of_noPrune (by simp), by
      simp [World.eventsTo_self]⟩)
    (fun ⟨e₁, p₁, c₁⟩ ⟨e₂, p₂, c₂⟩ => ⟨e₁.trans e₂, by rw [e₁.eventsTo_trans e₂]; exact p₁.append p₂,
      by rw [e₁.eventsTo_trans e₂]; exact fun ev hev => (List.mem_append.mp hev).elim (c₁ ev) (c₂ ev)⟩)
    (fun c rq hm w _ _ h1 =>
      have ⟨hp, hc⟩ := dispatch_prunes env self rq (w := w.withCaller c) h1
      ⟨.of_withCaller (Svc.follows _ h1), hp, fun ev hev uid hu =>
        have ⟨⟨key, ps, forced, hrq⟩, huid⟩ := hc ev hev uid hu
        ⟨c, key, ps, forced, hrq ▸ hm, huid.symm⟩⟩) h
  intro l₁ uid a l₂ he
  have hmem : (⟨.prune uid, a⟩ : Event) ∈ w.eventsTo w' := by
    rw [he]
    exact List.mem_append_right _ (List.mem_cons_self _ _)
  exact ⟨hp.split he rfl, hc _ hmem uid rfl⟩

/-- The app with uid 10002 begins an operation on key id 1 while KeyMint has no
room for its first two `begin`s: two prunes, each right after a refused `begin`,
both for 10002. -/
theorem serve_prunes_after_busy_useKey :
    ∃ rs w', serve (busyEnv 3) ⟨⟨1⟩⟩ useKeyTxs (World.start oneKeyStore) = some (rs, w') ∧
      ((World.start oneKeyStore).eventsTo w').countP (·.call.isPrune) = 2 ∧
      ∀ l₁ (uid : UInt32) (a : Except Error Unit) l₂,
        (World.start oneKeyStore).eventsTo w' = l₁ ++ ⟨.prune uid, a⟩ :: l₂ →
          (∃ l₀ purpose blob params, l₁ = l₀ ++ [⟨.begin purpose blob params, tooMany⟩]) ∧
            ∃ c : Caller, ∃ key ps forced, (c, Request.createOperation key ps forced) ∈ useKeyTxs ∧ c.uid = uid := by
  obtain ⟨⟨rs, w'⟩, h⟩ : ∃ p, serve (busyEnv 3) ⟨⟨1⟩⟩ useKeyTxs
      (World.start oneKeyStore) = some p := ⟨_, rfl⟩
  refine ⟨rs, w', h, ?_, serve_prunes_after_busy (busyEnv 3) ⟨⟨1⟩⟩ h⟩
  cases h
  rfl

end Keystore2

import Keystore2.StoreIntegrity

/-!
# Keystore2 — what `create_operation` answers

`create_operation` answers with a binder of the operation the Operation
Registry made when it registered, under the caller's uid, the KeyMint operation
`begin` returned; with the parameters `begin` returned, or none when it returned
none; and with no challenge (the source does not support auth-bound keys yet).
The `begin` whose answer it uses is the one that ended the begin phase, after
every "too many operations" and, when KeyMint asked for it, after the upgrade of
the key blob: a successful `begin` call of the same transaction, for the purpose
of the first `PURPOSE` parameter and with the request's parameters.

Over a whole run of the service, then, every operation the service hands a
caller was registered under that caller's uid during the run, for a KeyMint
operation a `begin` of the run answered.

## Results

* `createOperation_answers_begun` — one transaction: the answer is made of a
  successful `begin` of the transaction and the registration of its operation
  under the caller.
* `serve_answers` — every answer of a run is the answer of its transaction, run
  from some world of the run.
* `serve_operations_registered` — every run: every operation answered to a
  caller was registered under that caller's uid during the run.
-/

namespace Keystore2

open KeystoreSecurityLevel

variable (env : Env)

-- ---------------------------------------------------------------------------
-- The `begin` that answered
-- ---------------------------------------------------------------------------

/-- A run of the inner loop that succeeds ends with the `begin` that answered its
result. -/
theorem BeginLoopLog.begun {purpose : KeyPurpose} {blob : Blob} {params : List KmKeyParameter}
    {uid : UInt32} {l : List Event} {br : BeginResult}
    (h : BeginLoopLog purpose blob params uid l (.ok br)) :
    (⟨.begin purpose blob params, Except.ok br⟩ : Event) ∈ l := by
  generalize hr : (Except.ok br : Except Error BeginResult) = r at h
  induction h with
  | answered =>
    subst hr
    exact List.mem_singleton_self _
  | pruneFailed => cases hr
  | pruned _ ih => exact List.mem_cons_of_mem _ (List.mem_cons_of_mem _ (ih hr))

/-- A begin phase that succeeds holds a `begin` that answered its result, on the
resolved blob or on the upgraded one. -/
theorem BeginPhaseLog.begun {purpose : KeyPurpose} {b0 : Blob} {params : List KmKeyParameter}
    {uid : UInt32} {keyIdGuard : Option KeyIdGuard} {secLevel : SecurityLevel} {l : List Event}
    {br : BeginResult} (h : BeginPhaseLog purpose b0 params uid keyIdGuard secLevel l (.ok br)) :
    ∃ b, (⟨.begin purpose b params, Except.ok br⟩ : Event) ∈ l := by
  generalize hr : (Except.ok br : Except ErrorRoot BeginResult) = r at h
  cases h with
  | @first _ r hl =>
    cases r <;> cases hr
    exact ⟨b0, hl.begun⟩
  | upgradeFailed => cases hr
  | persistFailed => cases hr
  | @retried _ _ _ r _ hl' =>
    cases r <;> cases hr
    exact ⟨_, List.mem_append_right _ hl'.begun⟩

/-- Events of a middle part of a run are events of the run. -/
theorem World.Follows.mem_eventsTo {w w1 w2 w3 : World} (h1 : w.Follows w1) (h2 : w1.Follows w2)
    (h3 : w2.Follows w3) {ev : Event} (h : ev ∈ w1.eventsTo w2) : ev ∈ w.eventsTo w3 := by
  rw [World.eventsTo_trans (h1.trans h2) h3, World.eventsTo_trans h1 h2]
  exact List.mem_append_left _ (List.mem_append_right _ h)

-- ---------------------------------------------------------------------------
-- One transaction
-- ---------------------------------------------------------------------------

/-- **The answer of `create_operation`.** Whatever the key, the parameters and
the collaborators' answers, a successful `create_operation` answers with the
operation the Operation Registry returned when it registered, under the
caller's uid, the KeyMint operation of a successful `begin` of the transaction
(for the purpose of the first `PURPOSE` parameter, with the request's
parameters), with that `begin`'s output parameters, none when there are none,
and with no challenge. -/
theorem createOperation_answers_begun (self : KeystoreSecurityLevel) (key : KeyDescriptor)
    (ps : List KmKeyParameter) (forced : Bool) {w w' : World} {resp : CreateOperationResponse}
    (h : (createOperation env self key ps forced).run w = some (.ok resp, w')) :
    ∃ kp b br kmOp op, ps.find? (fun p => decide (p.tag = Tag.purpose)) = some kp ∧
      (⟨.begin ⟨kp.integer⟩ b ps, Except.ok br⟩ : Event) ∈ w.eventsTo w' ∧
      br.operation = some kmOp ∧
      (⟨.createOperation kmOp w.callingUid, op⟩ : Event) ∈ w.eventsTo w' ∧
      resp = { iOperation := some op, operationChallenge := none,
               parameters := if br.params = [] then none else some br.params } := by
  simp only [createOperation, Svc.read_bind] at h
  obtain ⟨⟨b0, g⟩, w1, h1, h⟩ := Svc.bind_eq_ok h
  obtain ⟨purpose, w2, h2, h⟩ := Svc.bind_eq_ok h
  rcases hp : operationPurpose ps with _ | purpose' <;>
    simp only [hp, Svc.run_ofExcept, Option.some.injEq, Prod.mk.injEq, Except.ok.injEq,
      reduceCtorEq, false_and] at h2
  obtain ⟨rfl, rfl⟩ := h2
  obtain ⟨kp, hkp, rfl⟩ := operationPurpose_eq_ok hp
  obtain ⟨_, w3, h3, h⟩ := Svc.bind_eq_ok h
  obtain ⟨⟨br, ub⟩, w4, h4, h⟩ := Svc.bind_eq_ok h
  have hf3 := (Svc.follows _ h1).trans (Svc.follows _ h3)
  have hf4 := Svc.follows _ h4
  -- the begin phase ended with a successful begin
  obtain ⟨b, hb⟩ :=
    (upgradeRetry_beginLoop_log env (upgradeRetry_of_run env (Svc.mapError_ok h4))).begun
  dsimp only at h
  split at h
  · next kmOp hop =>
    -- the registration, then the binder of the operation
    rw [OperationDb.createOperation, Svc.bind_ok (Svc.run_ask env _ w4)] at h
    obtain ⟨_, w5, h5, h⟩ := Svc.bind_eq_ok h
    cases h
    have hf5 := Svc.follows _ h5
    refine ⟨kp, b, br, kmOp, _, hkp, hf3.mem_eventsTo hf4 ((w4.follows_record _).trans hf5) hb, hop,
      (hf3.trans hf4).mem_eventsTo (w4.follows_record _) hf5
        (by rw [World.eventsTo_record]; exact List.mem_singleton_self _), ?_⟩
    cases br.params <;> rfl
  · rw [Svc.bind_error (Svc.run_throw _ _)] at h
    cases h

/-- An app begins an operation on key id 1, whose stale blob `[7]` KeyMint
upgrades to `[8]` before it begins: the answer is the operation registered for
the KeyMint operation of the `begin` on `[8]`. -/
theorem createOperation_answers_begun_upgraded :
    ∃ resp w', (createOperation (staleBlobEnv [7] [8]) ⟨⟨1⟩⟩ ⟨Domain.keyId, 1, none, none⟩
        [⟨Tag.purpose, false, 2, 0, 0, []⟩] false).run (World.start oneKeyStore) =
        some (.ok resp, w') ∧ resp.iOperation = some ⟨1⟩ ∧
      ∃ kp b br kmOp op, [⟨Tag.purpose, false, 2, 0, 0, []⟩].find?
          (fun p : KmKeyParameter => decide (p.tag = Tag.purpose)) = some kp ∧
        (⟨.begin ⟨kp.integer⟩ b [⟨Tag.purpose, false, 2, 0, 0, []⟩], Except.ok br⟩ : Event) ∈
          (World.start oneKeyStore).eventsTo w' ∧
        br.operation = some kmOp ∧
        (⟨.createOperation kmOp (World.start oneKeyStore).callingUid, op⟩ : Event) ∈
          (World.start oneKeyStore).eventsTo w' ∧
        resp = { iOperation := some op, operationChallenge := none,
                 parameters := if br.params = [] then none else some br.params } := by
  obtain ⟨⟨r, w'⟩, h⟩ : ∃ p, (createOperation (staleBlobEnv [7] [8]) ⟨⟨1⟩⟩
      ⟨Domain.keyId, 1, none, none⟩ [⟨Tag.purpose, false, 2, 0, 0, []⟩] false).run
        (World.start oneKeyStore) = some p := ⟨_, rfl⟩
  obtain ⟨resp, rfl⟩ : ∃ resp, r = .ok resp := by cases h; exact ⟨_, rfl⟩
  refine ⟨resp, w', h, ?_, createOperation_answers_begun (staleBlobEnv [7] [8]) ⟨⟨1⟩⟩ _ _ _ h⟩
  cases h
  rfl

-- ---------------------------------------------------------------------------
-- Runs
-- ---------------------------------------------------------------------------

section Serve

variable {env} {self : KeystoreSecurityLevel}

/-- **The answers of a run.** Each answer of a run of the service is what its
transaction answered, run with its caller from a world of the run; the
transaction's events are events of the run. -/
theorem serve_answers :
    ∀ {txs : List (Caller × Request)} {w w' : World} {rs : List (Except AnyhowError Response)},
      serve env self txs w = some (rs, w') → ∀ c rq r, ((c, rq), r) ∈ txs.zip rs →
        ∃ w1 w2 : World, (dispatch env self rq).run (w1.withCaller c) = some (r, w2) ∧
          ∀ ev ∈ w1.eventsTo w2, ev ∈ w.eventsTo w'
  | [], _, _, _, h, _, _, _, hm => by
    cases h
    cases hm
  | (c, rq) :: txs, w, w', rs, h, c', rq', r', hm => by
    obtain ⟨r, w1, rs', h1, h2, rfl⟩ := serve_cons h
    rw [(World.Extends.of_withCaller (Svc.follows _ h1)).eventsTo_trans (serve_extends h2)]
    rcases List.mem_cons.mp hm with hm | hm
    · cases hm
      exact ⟨w, w1, h1, fun _ => List.mem_append_left _⟩
    · obtain ⟨w3, w4, h3, hev⟩ := serve_answers h2 c' rq' r' hm
      exact ⟨w3, w4, h3, fun ev hm => List.mem_append_right _ (hev ev hm)⟩

/-- **Operations over every run.** Whatever the transactions, their callers and
the collaborators' answers, every operation the service answers to a caller in
a run was registered during the run, under that caller's uid, for the KeyMint
operation of a successful `begin` of the run. -/
theorem serve_operations_registered {txs : List (Caller × Request)} {w w' : World}
    {rs : List (Except AnyhowError Response)} (h : serve env self txs w = some (rs, w')) :
    ∀ c rq resp, ((c, rq), Except.ok (Response.operation resp)) ∈ txs.zip rs →
      ∃ op kmOp, resp.iOperation = some op ∧
        (⟨.createOperation kmOp c.uid, op⟩ : Event) ∈ w.eventsTo w' ∧
        ∃ purpose b ps br, (⟨.begin purpose b ps, Except.ok br⟩ : Event) ∈ w.eventsTo w' ∧
          br.operation = some kmOp := by
  intro c rq resp hm
  obtain ⟨w1, w2, h1, hev⟩ := serve_answers h c rq _ hm
  cases rq with
  | createOperation key ps forced =>
    obtain ⟨_, _, h3, h4⟩ := Svc.bind_eq_ok h1
    cases h4
    obtain ⟨_, b, br, kmOp, op, -, hb, hop, hreg, rfl⟩ :=
      createOperation_answers_begun env self key ps forced h3
    exact ⟨op, kmOp, rfl, hev _ hreg, _, b, ps, br, hev _ hb, hop⟩
  | _ =>
    obtain ⟨_, _, _, h4⟩ := Svc.bind_eq_ok h1
    cases h4

/-- The app with uid 10002 begins an operation on key id 1: its answer is an
operation registered under uid 10002. -/
theorem serve_operations_registered_useKey :
    ∃ rs w', serve (staleBlobEnv [7] [8]) ⟨⟨1⟩⟩ useKeyTxs (World.start oneKeyStore) =
        some (rs, w') ∧
      (∃ resp, rs = [.ok (.operation resp)] ∧ resp.iOperation = some ⟨1⟩) ∧
      ∀ c rq resp, ((c, rq), Except.ok (Response.operation resp)) ∈ useKeyTxs.zip rs →
        ∃ op kmOp, resp.iOperation = some op ∧
          (⟨.createOperation kmOp c.uid, op⟩ : Event) ∈ (World.start oneKeyStore).eventsTo w' ∧
          ∃ purpose b ps br, (⟨.begin purpose b ps, Except.ok br⟩ : Event) ∈
            (World.start oneKeyStore).eventsTo w' ∧ br.operation = some kmOp := by
  obtain ⟨⟨rs, w'⟩, h⟩ : ∃ p, serve (staleBlobEnv [7] [8]) ⟨⟨1⟩⟩ useKeyTxs
      (World.start oneKeyStore) = some p := ⟨_, rfl⟩
  refine ⟨rs, w', h, ?_, serve_operations_registered h⟩
  cases h
  exact ⟨_, rfl, rfl⟩

end Serve

end Keystore2

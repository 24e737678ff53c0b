import Keystore2.SecurityLevel

/-!
# Keystore2 — the binder interface, transaction after transaction

`impl IKeystoreSecurityLevel for KeystoreSecurityLevel` answers each of the four
binder methods with its handler (`dispatch`). The error path of
`map_or_log_err` (`error.rs`, not in the source tree), which turns the error
into a binder status and logs it, is left out: the answer is the handler's
result as it returns it.

`serve` runs binder transactions one after another on one Key Store and one
log, each from its own caller: the uid and SELinux context `ThreadState` gives
for that transaction. Each transaction runs whole before the next starts; the
interleaving of the Key Store statements of transactions that run at the same
time on the binder thread pool is the subject of `GuardedUpgrade`, for the
blob writes of one key.

## Results

* `World.Extends` — what a run of the service does to a world: the log grows by
  the calls made, and the Key Store gets their accepted writes.
* `serve_rel` — a relation between worlds, reflexive and transitive, that every
  transaction of a list establishes from the world it starts in holds over the
  whole run of the list; `serve_extends` for `World.Extends`.
-/

namespace Keystore2

open KeystoreSecurityLevel

variable (env : Env)

/-- A binder transaction on `IKeystoreSecurityLevel`: a method and its
arguments. -/
inductive Request
  | createOperation (key : KeyDescriptor) (operationParameters : List KmKeyParameter)
      (forced : Bool)
  | generateKey (key : KeyDescriptor) (attestationKey : Option KeyDescriptor)
      (params : List KmKeyParameter) (flags : Int) (entropy : Blob)
  | importKey (key : KeyDescriptor) (attestationKey : Option KeyDescriptor)
      (params : List KmKeyParameter) (flags : Int) (keyData : Blob)
  | importWrappedKey (key wrappingKey : KeyDescriptor) (maskingKey : Option Blob)
      (params : List KmKeyParameter) (authenticators : List AuthenticatorSpec)
  deriving DecidableEq, Repr

/-- What a method answers. -/
inductive Response
  | operation (response : CreateOperationResponse)
  | keyMetadata (metadata : KeyMetadata)
  deriving DecidableEq, Repr

/-- The caller of a transaction, as `ThreadState` gives it. -/
structure Caller where
  uid : UInt32
  sid : Option String
  deriving DecidableEq, Repr

/-- The world a transaction of `c` starts in. -/
def World.withCaller (w : World) (c : Caller) : World :=
  { w with callingUid := c.uid, callingSid := c.sid }

@[simp] theorem World.withCaller_store (w : World) (c : Caller) :
    (w.withCaller c).store = w.store := rfl

@[simp] theorem World.withCaller_log (w : World) (c : Caller) :
    (w.withCaller c).log = w.log := rfl

@[simp] theorem World.withCaller_callingUid (w : World) (c : Caller) :
    (w.withCaller c).callingUid = c.uid := rfl

namespace KeystoreSecurityLevel

/-- `impl IKeystoreSecurityLevel for KeystoreSecurityLevel`. -/
def dispatch (self : KeystoreSecurityLevel) : Request → Svc AnyhowError Response
  | .createOperation key operationParameters forced => do
    pure (.operation (← createOperation env self key operationParameters forced))
  | .generateKey key attestationKey params flags entropy => do
    pure (.keyMetadata (← generateKey env self key attestationKey params flags entropy))
  | .importKey key attestationKey params flags keyData => do
    pure (.keyMetadata (← importKey env self key attestationKey params flags keyData))
  | .importWrappedKey key wrappingKey maskingKey params authenticators => do
    pure (.keyMetadata
      (← importWrappedKey env self key wrappingKey maskingKey params authenticators))

/-- The transactions `txs`, one after another, each from its caller, from the
Key Store and log of `w`: the answers, and the world after the last. A
transaction that does not stop stops the service. -/
def serve (self : KeystoreSecurityLevel) :
    List (Caller × Request) → World → Option (List (Except AnyhowError Response) × World)
  | [], w => some ([], w)
  | (c, rq) :: txs, w =>
    match (dispatch env self rq).run (w.withCaller c) with
    | none => none
    | some (r, w1) => (serve self txs w1).map fun p => (r :: p.1, p.2)

end KeystoreSecurityLevel

-- ---------------------------------------------------------------------------
-- Worlds along a run of the service
-- ---------------------------------------------------------------------------

/-- `w'` comes after `w` in a run of the service: the log grew by `evs`, and the
Key Store is `w`'s with the writes of `evs` applied. Unlike `World.Follows`, the
caller may change from one transaction to the next. -/
def World.Extends (w w' : World) : Prop :=
  ∃ evs, w'.log = w.log ++ evs ∧ w'.store = applyWrites w.store evs

theorem World.Extends.refl (w : World) : w.Extends w :=
  ⟨[], by simp, rfl⟩

theorem World.Extends.trans {w w' w'' : World} (h : w.Extends w') (h' : w'.Extends w'') :
    w.Extends w'' := by
  obtain ⟨l, hl, hs⟩ := h
  obtain ⟨l', hl', hs'⟩ := h'
  exact ⟨l ++ l', by simp [hl', hl], by rw [hs', hs, applyWrites_append]⟩

/-- A transaction of `c` from `w`, followed from the world it started in. -/
theorem World.Extends.of_withCaller {w w' : World} {c : Caller} (h : (w.withCaller c).Follows w') :
    w.Extends w' :=
  let ⟨evs, hl, hs, _⟩ := h
  ⟨evs, hl, hs⟩

theorem World.Extends.store_eq {w w' : World} (h : w.Extends w') :
    w'.store = applyWrites w.store (w.eventsTo w') := by
  obtain ⟨l, hl, hs⟩ := h
  simp [World.eventsTo, hl, hs]

theorem World.Extends.eventsTo_trans {w w' w'' : World} (h : w.Extends w') (h' : w'.Extends w'') :
    w.eventsTo w'' = w.eventsTo w' ++ w'.eventsTo w'' := by
  obtain ⟨l, hl, -⟩ := h
  obtain ⟨l', hl', -⟩ := h'
  simp [World.eventsTo, hl', hl]

theorem World.Extends.nextId_le {w w' : World} (h : w.Extends w') :
    w.store.nextId ≤ w'.store.nextId := by
  rw [h.store_eq]
  exact KeyStore.nextId_le_foldl _ _

/-- A computation followed by a `pure` runs as the computation alone. -/
theorem Svc.bind_pure_eq_some {ε α β : Type} {x : Svc ε α} {g : α → β} {w w' : World}
    {r : Except ε β} (h : (x >>= fun a => pure (g a)).run w = some (r, w')) :
    ∃ r', x.run w = some (r', w') := by
  rcases Svc.bind_eq_some h with ⟨a, w1, h1, h2⟩ | ⟨e, h1, -⟩
  · cases h2
    exact ⟨_, h1⟩
  · exact ⟨_, h1⟩

-- ---------------------------------------------------------------------------
-- Whole runs of the service
-- ---------------------------------------------------------------------------

section Serve

variable {env} {self : KeystoreSecurityLevel}

/-- How a run of one transaction and then more goes. -/
theorem serve_cons {c : Caller} {rq : Request} {txs : List (Caller × Request)} {w w' : World}
    {rs : List (Except AnyhowError Response)} (h : serve env self ((c, rq) :: txs) w = some (rs, w')) :
    ∃ r w1 rs', (dispatch env self rq).run (w.withCaller c) = some (r, w1) ∧
      serve env self txs w1 = some (rs', w') ∧ rs = r :: rs' := by
  simp only [serve] at h
  split at h
  · cases h
  · next r w1 h1 =>
    obtain ⟨⟨rs', w2⟩, h2, hp⟩ := Option.map_eq_some'.mp h
    cases hp
    exact ⟨r, w1, rs', h1, h2, rfl⟩

/-- **Runs of the service.** A relation between worlds, reflexive and
transitive, that every transaction of `txs` establishes from the world it
starts in to the one it ends in, holds from the first world of every run of
`txs` to the last. -/
theorem serve_rel {R : World → World → Prop} (hrefl : ∀ w, R w w)
    (htrans : ∀ {w₁ w₂ w₃}, R w₁ w₂ → R w₂ w₃ → R w₁ w₃) :
    ∀ {txs : List (Caller × Request)},
      (∀ c rq, (c, rq) ∈ txs → ∀ w r w', (dispatch env self rq).run (w.withCaller c) = some (r, w') →
        R w w') →
      ∀ {w rs w'}, serve env self txs w = some (rs, w') → R w w'
  | [], _, _, _, _, h => by cases h; exact hrefl _
  | (c, rq) :: txs, hstep, w, rs, w', h => by
    obtain ⟨r, w1, rs', h1, h2, -⟩ := serve_cons h
    exact htrans (hstep c rq (List.mem_cons_self _ _) w r w1 h1)
      (serve_rel hrefl htrans (fun c' rq' hm => hstep c' rq' (List.mem_cons_of_mem _ hm)) h2)

/-- Every run of the service extends the world it starts from. -/
theorem serve_extends {txs : List (Caller × Request)} {w w' : World}
    {rs : List (Except AnyhowError Response)} (h : serve env self txs w = some (rs, w')) :
    w.Extends w' :=
  serve_rel World.Extends.refl World.Extends.trans
    (fun _ _ _ _ _ _ h1 => World.Extends.of_withCaller (Svc.follows _ h1)) h

end Serve

end Keystore2

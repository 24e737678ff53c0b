import Keystore2.Database

/-!
# Keystore2 — collaborators, worlds and the service monad

The service talks to four collaborators: the Access Gate, KeyMint, the
Operation Registry and the Key Store. Each exchange is a `Call` and its answer;
the answers are the environment's (`Env.answer`, indexed by how many calls the
run has made so far), so a theorem over every `Env` is a theorem over every
behaviour of the collaborators, stateful ones included. Engine answers are
taken after `map_km_error`.

A `World` is the Key Store, the binder transaction's caller, and the log of
every call with its answer. `Svc ε α` is a computation of the service: from a
world it stops with a value or an `ε` error, or it runs out of loop fuel
(`none`, a run that does not stop). Its type carries `World.Follows`: a
computation only appends to the log, keeps the caller, and changes the Key
Store exactly by the store writes it logged and the store accepted. So the
store after any run is read off the run's log.
-/

namespace Keystore2

/-- A call the service makes to a collaborator, with its arguments. -/
inductive Call
  /-- `permission::check_key_permission` of the Access Gate, for the caller's
  SELinux context. -/
  | checkKeyPermission (callingSid : String) (perm : KeyPerm) (key : KeyDescriptor)
      (accessVector : Option KeyPermSet)
  /-- `Asp::get_interface`: a handle on the KeyMint device. -/
  | getInterface
  | addRngEntropy (data : Blob)
  | generateKey (params : List KmKeyParameter)
  | importKey (params : List KmKeyParameter) (keyFormat : KeyFormat) (keyData : Blob)
  | importWrappedKey (wrappedKeyData wrappingKeyBlob maskingKey : Blob)
      (params : List KmKeyParameter) (passwordSid biometricSid : Int)
  | begin (purpose : KeyPurpose) (keyBlob : Blob) (params : List KmKeyParameter)
  | upgradeKey (keyBlobToUpgrade : Blob) (upgradeParams : List KmKeyParameter)
  /-- `OperationDb::prune` of the Operation Registry. -/
  | prune (caller : UInt32)
  /-- `OperationDb::create_operation`. -/
  | createOperation (kmOp : KmOperation) (owner : UInt32)
  /-- `KeystoreOperation::new_native_binder(..).as_binder().into_interface()`. -/
  | intoInterface (operation : Operation)
  /-- The lookup of `load_key_entry`: the key id a descriptor names, the
  descriptor the permission callback sees, and its access vector. -/
  | loadKeyEntry (key : KeyDescriptor) (loadBits : KeyEntryLoadBits) (callerUid : UInt32)
  /-- A Key Store write. -/
  | db (write : DbWrite)
  deriving DecidableEq, Repr

/-- What a collaborator answers to each call. -/
def Call.Resp : Call → Type
  | .checkKeyPermission .. => Except AnyhowError Unit
  | .getInterface => Except AnyhowError Unit
  | .addRngEntropy _ => Except Error Unit
  | .generateKey _ => Except Error (Blob × KeyCharacteristics × List KmCertificate)
  | .importKey .. => Except Error (Blob × KeyCharacteristics × List KmCertificate)
  | .importWrappedKey .. => Except Error (Blob × KeyCharacteristics)
  | .begin .. => Except Error BeginResult
  | .upgradeKey .. => Except Error Blob
  | .prune _ => Except Error Unit
  | .createOperation .. => Operation
  | .intoInterface _ => Except AnyhowError Unit
  | .loadKeyEntry .. => Except AnyhowError (Int × KeyDescriptor × Option KeyPermSet)
  | .db _ => Except AnyhowError Unit

/-- Whether a call is a Key Store write. -/
def Call.isDb : Call → Bool
  | .db _ => true
  | _ => false

/-- A call with an effect beyond the service: a KeyMint method, the Operation
Registry's, or a Key Store write. Permission checks, lookups and binder
plumbing have none. -/
def Call.isEffect : Call → Bool
  | .addRngEntropy _ | .generateKey _ | .importKey .. | .importWrappedKey ..
  | .begin .. | .upgradeKey .. | .prune _ | .createOperation .. | .db _ => true
  | .checkKeyPermission .. | .getInterface | .intoInterface _ | .loadKeyEntry .. => false

theorem Call.isDb_eq_false_of_isEffect {c : Call} (h : c.isEffect = false) : c.isDb = false := by
  cases c <;> first | rfl | cases h

/-- A call and the answer it got. -/
structure Event where
  call : Call
  answer : call.Resp

/-- The collaborators, and the pure conversions of `key_parameter.rs` (not in
the source tree), which the theorems leave arbitrary. -/
structure Env where
  /-- The answer to a call that is the `n`-th of its run. -/
  answer : Nat → (c : Call) → c.Resp
  /-- `KeyParameterValue::convert_from_wire`. -/
  convertFromWire : KmKeyParameter → KeyParameterValue
  /-- `KeyParameter::into_authorization`. -/
  intoAuthorization : KeyParameter → Authorization
  /-- How many iterations a `loop` may run; a run needing more does not stop. -/
  fuel : Nat

/-- The Key Store write an event made: a store write the store accepted. -/
def Event.write? : Event → Option DbWrite
  | ⟨.db d, r⟩ =>
    match (r : Except AnyhowError Unit) with
    | .ok _ => some d
    | .error _ => none
  | _ => none

/-- The Key Store after the writes logged in `evs`. -/
def applyWrites (s : KeyStore) (evs : List Event) : KeyStore :=
  (evs.filterMap Event.write?).foldl KeyStore.apply s

@[simp] theorem applyWrites_nil (s : KeyStore) : applyWrites s [] = s := rfl

theorem applyWrites_append (s : KeyStore) (l l' : List Event) :
    applyWrites s (l ++ l') = applyWrites (applyWrites s l) l' := by
  simp [applyWrites, List.filterMap_append, List.foldl_append]

theorem applyWrites_cons (s : KeyStore) (e : Event) (l : List Event) :
    applyWrites s (e :: l) = applyWrites ((e.write?).elim s s.apply) l := by
  cases h : e.write? <;> simp [applyWrites, List.filterMap_cons, h]

theorem Event.write?_eq_none {e : Event} (h : e.call.isDb = false) : e.write? = none := by
  obtain ⟨c, a⟩ := e
  cases c <;> first | rfl | cases h

theorem applyWrites_of_not_db {s : KeyStore} {evs : List Event}
    (h : ∀ e ∈ evs, e.call.isDb = false) : applyWrites s evs = s := by
  induction evs generalizing s with
  | nil => rfl
  | cons e evs ih =>
    rw [applyWrites_cons, Event.write?_eq_none (h e (List.mem_cons_self _ _))]
    exact ih fun e' he' => h e' (List.mem_cons_of_mem _ he')

/-- A binder transaction's world: the Key Store, the caller, and every call
made so far with its answer, oldest first. -/
structure World where
  store : KeyStore
  callingUid : UInt32
  callingSid : Option String
  log : List Event

/-- `w'` comes after `w` in a run: the log grew by `evs`, the Key Store is
`w`'s with the writes of `evs` applied, and the caller is the same. -/
def World.Follows (w w' : World) : Prop :=
  ∃ evs, w'.log = w.log ++ evs ∧ w'.store = applyWrites w.store evs ∧
    w'.callingUid = w.callingUid ∧ w'.callingSid = w.callingSid

theorem World.Follows.refl (w : World) : w.Follows w :=
  ⟨[], by simp, by simp, rfl, rfl⟩

theorem World.Follows.trans {w w' w'' : World} (h : w.Follows w') (h' : w'.Follows w'') :
    w.Follows w'' := by
  obtain ⟨l, hl, hs, hu, hi⟩ := h
  obtain ⟨l', hl', hs', hu', hi'⟩ := h'
  exact ⟨l ++ l', by simp [hl', hl], by rw [hs', hs, applyWrites_append], hu'.trans hu,
    hi'.trans hi⟩

/-- The calls a run made between `w` and `w'`. -/
def World.eventsTo (w w' : World) : List Event := w'.log.drop w.log.length

theorem World.Follows.log_eq {w w' : World} (h : w.Follows w') :
    w'.log = w.log ++ w.eventsTo w' := by
  obtain ⟨l, hl, -⟩ := h
  simp [World.eventsTo, hl]

theorem World.Follows.store_eq {w w' : World} (h : w.Follows w') :
    w'.store = applyWrites w.store (w.eventsTo w') := by
  obtain ⟨l, hl, hs, -⟩ := h
  simp [World.eventsTo, hl, hs]

theorem World.Follows.callingUid_eq {w w' : World} (h : w.Follows w') :
    w'.callingUid = w.callingUid :=
  let ⟨_, _, _, hu, _⟩ := h
  hu

theorem World.Follows.callingSid_eq {w w' : World} (h : w.Follows w') :
    w'.callingSid = w.callingSid :=
  let ⟨_, _, _, _, hs⟩ := h
  hs

theorem World.Follows.nextId_le {w w' : World} (h : w.Follows w') :
    w.store.nextId ≤ w'.store.nextId := by
  rw [h.store_eq]
  exact KeyStore.nextId_le_foldl _ _

theorem World.eventsTo_trans {w w' w'' : World} (h : w.Follows w') (h' : w'.Follows w'') :
    w.eventsTo w'' = w.eventsTo w' ++ w'.eventsTo w'' := by
  have := (h.trans h').log_eq
  rw [h'.log_eq, h.log_eq, List.append_assoc] at this
  exact (List.append_cancel_left this).symm

theorem World.forall_eventsTo_trans {P : Event → Prop} {w w' w'' : World} (h : w.Follows w')
    (h' : w'.Follows w'') (h1 : ∀ ev ∈ w.eventsTo w', P ev) (h2 : ∀ ev ∈ w'.eventsTo w'', P ev) :
    ∀ ev ∈ w.eventsTo w'', P ev := by
  rw [World.eventsTo_trans h h']
  intro ev hev
  rcases List.mem_append.mp hev with hev | hev
  exacts [h1 ev hev, h2 ev hev]

@[simp] theorem World.eventsTo_self (w : World) : w.eventsTo w = [] := by
  simp [World.eventsTo]

/-- The world after one more call: logged, and applied to the store if it was an
accepted write. -/
def World.record (w : World) (e : Event) : World :=
  { w with log := w.log ++ [e], store := applyWrites w.store [e] }

@[simp] theorem World.record_log (w : World) (e : Event) : (w.record e).log = w.log ++ [e] := rfl

@[simp] theorem World.record_callingUid (w : World) (e : Event) :
    (w.record e).callingUid = w.callingUid := rfl

@[simp] theorem World.record_callingSid (w : World) (e : Event) :
    (w.record e).callingSid = w.callingSid := rfl

@[simp] theorem World.record_store (w : World) (e : Event) :
    (w.record e).store = (e.write?).elim w.store w.store.apply := by
  simp [World.record, applyWrites_cons]

theorem World.follows_record (w : World) (e : Event) : w.Follows (w.record e) :=
  ⟨[e], rfl, rfl, rfl, rfl⟩

@[simp] theorem World.eventsTo_record (w : World) (e : Event) : w.eventsTo (w.record e) = [e] := by
  simp [World.eventsTo, World.record]

theorem World.eventsTo_record_of {w w1 : World} (h : w.Follows w1) (e : Event) :
    w.eventsTo (w1.record e) = w.eventsTo w1 ++ [e] := by
  rw [World.eventsTo_trans h (w1.follows_record e), World.eventsTo_record]

@[simp] theorem World.eventsTo_record_record (w : World) (e e' : Event) :
    w.eventsTo ((w.record e).record e') = [e, e'] := by
  simp [World.eventsTo, World.record]

-- ---------------------------------------------------------------------------
-- The service monad
-- ---------------------------------------------------------------------------

/-- A computation of the service. -/
structure Svc (ε α : Type) where
  run : World → Option (Except ε α × World)
  follows : ∀ {w r w'}, run w = some (r, w') → w.Follows w'

namespace Svc

variable {ε ε' α β : Type}

def pure (a : α) : Svc ε α where
  run w := some (.ok a, w)
  follows := by
    intro w r w' h
    cases h
    exact World.Follows.refl w

def bind (x : Svc ε α) (f : α → Svc ε β) : Svc ε β where
  run w :=
    match x.run w with
    | some (.ok a, w1) => (f a).run w1
    | some (.error e, w1) => some (.error e, w1)
    | none => none
  follows := by
    intro w r w' h
    dsimp only at h
    split at h
    · next a w1 h1 => exact (x.follows h1).trans ((f a).follows h)
    · next e w1 h1 => cases h; exact x.follows h1
    · cases h

instance : Monad (Svc ε) where
  pure := Svc.pure
  bind := Svc.bind

/-- Return an error. -/
def throw (e : ε) : Svc ε α where
  run w := some (.error e, w)
  follows := by
    intro w r w' h
    cases h
    exact World.Follows.refl w

/-- Stop with the value or the error. -/
def ofExcept : Except ε α → Svc ε α
  | .ok a => Svc.pure a
  | .error e => throw e

/-- Not stop. -/
def diverge : Svc ε α where
  run _ := none
  follows := by intro w r w' h; cases h

/-- Change the error an unsuccessful run stops with. -/
def mapError (x : Svc ε α) (g : ε → ε') : Svc ε' α where
  run w :=
    match x.run w with
    | some (.ok a, w1) => some (.ok a, w1)
    | some (.error e, w1) => some (.error (g e), w1)
    | none => none
  follows := by
    intro w r w' h
    dsimp only at h
    split at h <;> cases h
    all_goals exact x.follows ‹_›

/-- Run `x` and return how it stopped, as a value. -/
def observe (x : Svc ε α) : Svc ε' (Except ε α) where
  run w :=
    match x.run w with
    | some (r, w1) => some (.ok r, w1)
    | none => none
  follows := by
    intro w r w' h
    dsimp only at h
    split at h <;> cases h
    exact x.follows ‹_›

/-- Read the world. -/
def read (f : World → α) : Svc ε α where
  run w := some (.ok (f w), w)
  follows := by
    intro w r w' h
    cases h
    exact World.Follows.refl w

/-- Make a call: the environment answers it, and it is logged. -/
def ask (env : Env) (c : Call) : Svc ε c.Resp where
  run w :=
    let e : Event := ⟨c, env.answer w.log.length c⟩
    some (.ok e.answer, w.record e)
  follows := by
    intro w r w' h
    cases h
    exact w.follows_record _

/-- Rust's `loop`: the body breaks with `some`, continues with `none`; with
`fuel` left for that many iterations. -/
def loop (body : Svc ε (Option α)) : Nat → Svc ε α
  | 0 => diverge
  | n + 1 => bind body fun r =>
    match r with
    | some a => Svc.pure a
    | none => loop body n

/-- anyhow's `?` on a keystore error: the error converted, no context added. -/
def anyhow [IntoAnyhow ε] (x : Svc ε α) : Svc AnyhowError α :=
  x.mapError IntoAnyhow.into

/-- anyhow's `.context(msg)`. -/
def context [IntoAnyhow ε] (x : Svc ε α) (msg : String) : Svc AnyhowError α :=
  x.mapError fun e => (IntoAnyhow.into e).withContext msg

-- ---------------------------------------------------------------------------
-- Running the primitives
-- ---------------------------------------------------------------------------

@[simp] theorem run_pure (a : α) (w : World) : (Pure.pure a : Svc ε α).run w = some (.ok a, w) :=
  rfl

@[simp] theorem run_throw (e : ε) (w : World) : (throw e : Svc ε α).run w = some (.error e, w) :=
  rfl

@[simp] theorem run_diverge (w : World) : (diverge : Svc ε α).run w = none := rfl

@[simp] theorem run_read (f : World → α) (w : World) :
    (read f : Svc ε α).run w = some (.ok (f w), w) := rfl

@[simp] theorem run_ask (env : Env) (c : Call) (w : World) :
    (ask env c : Svc ε c.Resp).run w =
      some (.ok (env.answer w.log.length c), w.record ⟨c, env.answer w.log.length c⟩) := rfl

theorem run_bind (x : Svc ε α) (f : α → Svc ε β) (w : World) :
    (x >>= f).run w =
      match x.run w with
      | some (.ok a, w1) => (f a).run w1
      | some (.error e, w1) => some (.error e, w1)
      | none => none := rfl

@[simp] theorem run_ofExcept_ok (a : α) (w : World) :
    (ofExcept (.ok a) : Svc ε α).run w = some (.ok a, w) := rfl

@[simp] theorem run_ofExcept_error (e : ε) (w : World) :
    (ofExcept (.error e) : Svc ε α).run w = some (.error e, w) := rfl

/-- How a bind stops: its first part failed, or it succeeded and the rest ran. -/
theorem bind_eq_some {x : Svc ε α} {f : α → Svc ε β} {w w' : World} {r : Except ε β}
    (h : (x >>= f).run w = some (r, w')) :
    (∃ a w1, x.run w = some (.ok a, w1) ∧ (f a).run w1 = some (r, w')) ∨
      (∃ e, x.run w = some (.error e, w') ∧ r = .error e) := by
  rw [run_bind] at h
  split at h
  · exact .inl ⟨_, _, ‹_›, h⟩
  · cases h; exact .inr ⟨_, ‹_›, rfl⟩
  · cases h

/-- A bind that succeeded: both parts did. -/
theorem bind_eq_ok {x : Svc ε α} {f : α → Svc ε β} {w w' : World} {b : β}
    (h : (x >>= f).run w = some (.ok b, w')) :
    ∃ a w1, x.run w = some (.ok a, w1) ∧ (f a).run w1 = some (.ok b, w') :=
  (bind_eq_some h).resolve_right fun ⟨_, _, he⟩ => nomatch he

@[simp] theorem run_ofExcept (r : Except ε α) (w : World) :
    (ofExcept r).run w = some (r, w) := by
  cases r <;> rfl

theorem run_mapError (x : Svc ε α) (g : ε → ε') (w : World) :
    (x.mapError g).run w = (x.run w).map fun p => (p.1.mapError g, p.2) := by
  simp only [mapError]
  split <;> simp_all [Except.mapError]

theorem run_observe (x : Svc ε α) (w : World) :
    (observe x : Svc ε' _).run w = (x.run w).map fun p => (.ok p.1, p.2) := by
  simp only [observe]
  split <;> simp_all

theorem bind_ok {x : Svc ε α} {f : α → Svc ε β} {w w1 : World} {a : α}
    (h : x.run w = some (.ok a, w1)) : (x >>= f).run w = (f a).run w1 := by
  rw [run_bind, h]

theorem bind_error {x : Svc ε α} {f : α → Svc ε β} {w w1 : World} {e : ε}
    (h : x.run w = some (.error e, w1)) : (x >>= f).run w = some (.error e, w1) := by
  rw [run_bind, h]

theorem mapError_eq_some {x : Svc ε α} {g : ε → ε'} {w w' : World} {r : Except ε' α}
    (h : (x.mapError g).run w = some (r, w')) :
    ∃ r', x.run w = some (r', w') ∧ r = r'.mapError g := by
  simp only [mapError] at h
  split at h <;> cases h
  · exact ⟨.ok _, ‹_›, rfl⟩
  · exact ⟨.error _, ‹_›, rfl⟩

theorem run_mapError_of_eq {x : Svc ε α} {g : ε → ε'} {w w' : World} {r : Except ε α}
    (h : x.run w = some (r, w')) : (x.mapError g).run w = some (r.mapError g, w') := by
  simp only [mapError, h]
  cases r <;> rfl

theorem run_observe_of_eq {x : Svc ε α} {w w' : World} {r : Except ε α}
    (h : x.run w = some (r, w')) : (observe x : Svc ε' _).run w = some (.ok r, w') := by
  simp [observe, h]

theorem observe_eq_some {x : Svc ε α} {w w' : World} {r : Except ε' (Except ε α)}
    (h : (observe x : Svc ε' _).run w = some (r, w')) :
    ∃ r', x.run w = some (r', w') ∧ r = .ok r' := by
  simp only [observe] at h
  split at h <;> cases h
  exact ⟨_, ‹_›, rfl⟩

@[simp] theorem pure_bind_run (a : α) (f : α → Svc ε β) (w : World) :
    ((Pure.pure a : Svc ε α) >>= f).run w = (f a).run w := rfl

@[simp] theorem throw_bind_run (e : ε) (f : α → Svc ε β) (w : World) :
    ((throw e : Svc ε α) >>= f).run w = some (.error e, w) := rfl

theorem mapError_ok {x : Svc ε α} {g : ε → ε'} {w w' : World} {a : α}
    (h : (x.mapError g).run w = some (.ok a, w')) : x.run w = some (.ok a, w') := by
  obtain ⟨r', h', hr⟩ := mapError_eq_some h
  cases r' with
  | ok => cases hr; exact h'
  | error => cases hr

@[simp] theorem read_bind (f : World → α) (g : α → Svc ε β) (w : World) :
    (read f >>= g).run w = (g (f w)).run w := rfl

-- ---------------------------------------------------------------------------
-- Which calls a computation makes
-- ---------------------------------------------------------------------------

/-- Every call `x` makes, in every run that stops, satisfies `P`. -/
def OnlyCalls (P : Call → Prop) (x : Svc ε α) : Prop :=
  ∀ ⦃w r w'⦄, x.run w = some (r, w') → ∀ ev ∈ w.eventsTo w', P ev.call

theorem OnlyCalls.imp {P Q : Call → Prop} (hPQ : ∀ c, P c → Q c) {x : Svc ε α}
    (hx : OnlyCalls P x) : OnlyCalls Q x :=
  fun _ _ _ h ev hev => hPQ _ (hx h ev hev)

theorem onlyCalls_pure (P : Call → Prop) (a : α) : OnlyCalls P (Pure.pure a : Svc ε α) := by
  intro w r w' h; cases h; simp

theorem onlyCalls_throw (P : Call → Prop) (e : ε) : OnlyCalls P (throw e : Svc ε α) := by
  intro w r w' h; cases h; simp

theorem onlyCalls_read (P : Call → Prop) (f : World → α) : OnlyCalls P (read f : Svc ε α) := by
  intro w r w' h; cases h; simp

theorem onlyCalls_ofExcept (P : Call → Prop) (r : Except ε α) : OnlyCalls P (ofExcept r) := by
  intro w r' w' h; rw [run_ofExcept] at h; cases h; simp

theorem onlyCalls_ask {P : Call → Prop} (env : Env) {c : Call} (hc : P c) :
    OnlyCalls P (ask env c : Svc ε c.Resp) := by
  intro w r w' h; cases h; simpa using hc

theorem onlyCalls_bind {P : Call → Prop} {x : Svc ε α} {f : α → Svc ε β} (hx : OnlyCalls P x)
    (hf : ∀ a, OnlyCalls P (f a)) : OnlyCalls P (x >>= f) := by
  intro w r w' h
  rcases bind_eq_some h with ⟨a, w1, h1, h2⟩ | ⟨e, h1, -⟩
  · rw [World.eventsTo_trans (x.follows h1) ((f a).follows h2)]
    intro ev hev
    rcases List.mem_append.mp hev with hev | hev
    exacts [hx h1 ev hev, hf a h2 ev hev]
  · exact hx h1

/-- `bind_eq_some` for a first part that makes only `P` calls. -/
theorem bind_eq_some_of_onlyCalls {P : Call → Prop} {x : Svc ε α} {f : α → Svc ε β}
    (hx : OnlyCalls P x) {w w' : World} {r : Except ε β} (h : (x >>= f).run w = some (r, w')) :
    ((∀ ev ∈ w.eventsTo w', P ev.call) ∧ ∃ e, r = .error e) ∨
      ∃ a w1, x.run w = some (.ok a, w1) ∧ (∀ ev ∈ w.eventsTo w1, P ev.call) ∧
        (f a).run w1 = some (r, w') := by
  rcases bind_eq_some h with ⟨a, w1, h1, h2⟩ | ⟨e, h1, he⟩
  · exact .inr ⟨a, w1, h1, hx h1, h2⟩
  · exact .inl ⟨hx h1, e, he⟩

theorem onlyCalls_mapError {P : Call → Prop} {x : Svc ε α} (g : ε → ε') (hx : OnlyCalls P x) :
    OnlyCalls P (x.mapError g) := by
  intro w r w' h
  obtain ⟨r', h', -⟩ := mapError_eq_some h
  exact hx h'

theorem onlyCalls_observe {P : Call → Prop} {x : Svc ε α} (hx : OnlyCalls P x) :
    OnlyCalls P (observe x : Svc ε' _) := by
  intro w r w' h
  obtain ⟨r', h', -⟩ := observe_eq_some h
  exact hx h'

theorem onlyCalls_loop {P : Call → Prop} {body : Svc ε (Option α)} (hb : OnlyCalls P body) :
    ∀ n, OnlyCalls P (loop body n)
  | 0 => fun _ _ _ h => by cases h
  | n + 1 => onlyCalls_bind hb fun r => by
    cases r with
    | some a => exact onlyCalls_pure P a
    | none => exact onlyCalls_loop hb n

/-- A computation that never changes the Key Store. -/
def KeepsStore (x : Svc ε α) : Prop :=
  ∀ ⦃w r w'⦄, x.run w = some (r, w') → w'.store = w.store

theorem keepsStore_ofExcept (r : Except ε α) : (ofExcept r).KeepsStore := by
  intro w r' w' h
  rw [run_ofExcept] at h
  cases h
  rfl

/-- A computation that makes no Key Store write keeps the store. -/
theorem keepsStore_of_onlyCalls {x : Svc ε α} (h : OnlyCalls (fun c => c.isDb = false) x) :
    x.KeepsStore := by
  intro w r w' hx
  rw [(x.follows hx).store_eq]
  exact applyWrites_of_not_db (h hx)

end Svc

-- ---------------------------------------------------------------------------
-- An environment and a world for the examples
-- ---------------------------------------------------------------------------

/-- Collaborators for the examples: every call succeeds, except that KeyMint
answers `KEY_REQUIRES_UPGRADE` to `begin` and `importWrappedKey` on the blob
`stale`, and upgrades every blob to `fresh`. -/
def staleBlobEnv (stale fresh : Blob) : Env where
  answer _ c :=
    match c with
    | .checkKeyPermission .. => .ok ()
    | .getInterface => .ok ()
    | .addRngEntropy _ => .ok ()
    | .generateKey _ => .ok ([7], ⟨[], []⟩, [])
    | .importKey .. => .ok ([7], ⟨[], []⟩, [])
    | .importWrappedKey _ wrappingKeyBlob .. =>
      if wrappingKeyBlob = stale then .error (.km .keyRequiresUpgrade) else .ok ([7], ⟨[], []⟩)
    | .begin _ keyBlob _ =>
      if keyBlob = stale then .error (.km .keyRequiresUpgrade) else .ok ⟨0, [], some ⟨1⟩⟩
    | .upgradeKey .. => .ok fresh
    | .prune _ => .ok ()
    | .createOperation .. => ⟨1⟩
    | .intoInterface _ => .ok ()
    | .loadKeyEntry .. => .ok (1, default, none)
    | .db _ => .ok ()
  convertFromWire p := ⟨p.tag, []⟩
  intoAuthorization p := ⟨p.securityLevel, ⟨p.value.tag, false, 0, 0, 0, []⟩⟩
  fuel := 4

/-- A first world for the examples: a store, an app's uid and SELinux context,
nothing called yet. -/
def World.start (s : KeyStore) : World := ⟨s, 10001, some "u:r:untrusted_app:s0", []⟩

end Keystore2

import Keystore2.Utils

/-!
# Keystore2 — Key Store and Operation Registry calls

Modelled from the spec (`database.rs` and `operation.rs` are not in the source
tree): the methods of `KeystoreDB` and `OperationDb` that
`security_level.rs` calls, as calls to the collaborators. A write changes the
store only when the store accepts it (`applyWrites`). `load_key_entry` asks
the store which key id a descriptor names and which descriptor and access
vector the permission is checked on, runs the permission callback, and then
reads the KM blob of that key id under its guard.
-/

namespace Keystore2

variable (env : Env)

namespace KeystoreDB

/-- Modelled from the spec: one Key Store write, a statement of its own; the
store's answer is the result. -/
def write (wr : DbWrite) : Svc AnyhowError Unit := do
  Svc.ofExcept (← Svc.ask env (.db wr))

@[simp] theorem run_write (wr : DbWrite) (w : World) :
    (write env wr).run w =
      some (env.answer w.log.length (.db wr), w.record ⟨.db wr, env.answer w.log.length (.db wr)⟩) := by
  simp only [write, Svc.run_bind, Svc.run_ask, Svc.run_ofExcept]

/-- The writes a run of `write` got accepted: its own, when the answer is `Ok`. -/
theorem mem_write_accepted {wr wr' : DbWrite} {w w' : World} {r : Except AnyhowError Unit}
    (h : (write env wr).run w = some (r, w'))
    (hm : wr' ∈ (w.eventsTo w').filterMap Event.write?) : wr' = wr ∧ r = .ok () := by
  rw [run_write] at h
  cases h
  rcases ha : (env.answer w.log.length (.db wr) : Except AnyhowError Unit) with _ | ⟨⟩ <;>
    simp [ha, Event.write?] at hm ⊢
  exact hm

theorem write_onlyCalls {P : Call → Prop} {wr : DbWrite} (h : P (.db wr)) :
    Svc.OnlyCalls P (write env wr) :=
  Svc.onlyCalls_bind (Svc.onlyCalls_ask env h) fun _ => Svc.onlyCalls_ofExcept P _

/-- Modelled from the spec: `create_key_entry`, the guard of a new, empty key id. -/
def createKeyEntry (domain : Domain) (nspace : Int) : Svc AnyhowError KeyIdGuard := do
  let id ← Svc.read (·.store.nextId)
  write env (.createKeyEntry domain nspace)
  pure ⟨id⟩

theorem createKeyEntry_onlyCalls {P : Call → Prop} {domain : Domain} {nspace : Int}
    (h : P (.db (.createKeyEntry domain nspace))) :
    Svc.OnlyCalls P (createKeyEntry env domain nspace) :=
  Svc.onlyCalls_bind (Svc.onlyCalls_read P _) fun _ =>
    Svc.onlyCalls_bind (write_onlyCalls env h) fun _ => Svc.onlyCalls_pure P _

/-- Modelled from the spec: `insert_blob`. -/
def insertBlob (keyId : KeyIdGuard) (sc : SubComponentType) (blob : Blob)
    (secLevel : SecurityLevel) : Svc AnyhowError Unit :=
  write env (.insertBlob keyId.id sc blob secLevel)

/-- Modelled from the spec: `insert_keyparameter`. -/
def insertKeyparameter (keyId : KeyIdGuard) (params : List KeyParameter) :
    Svc AnyhowError Unit :=
  write env (.insertKeyparameter keyId.id params)

/-- Modelled from the spec: `rebind_alias`. -/
def rebindAlias (keyId : KeyIdGuard) (a : String) (domain : Domain) (nspace : Int) :
    Svc AnyhowError Unit :=
  write env (.rebindAlias keyId.id a domain nspace)

/-- Modelled from the spec: `load_key_entry`. -/
def loadKeyEntry (key : KeyDescriptor) (loadBits : KeyEntryLoadBits) (callerUid : UInt32)
    (checkPermission : KeyDescriptor → Option KeyPermSet → Svc AnyhowError Unit) :
    Svc AnyhowError (KeyIdGuard × KeyEntry) := do
  let (keyId, accessKey, accessVector) ←
    Svc.ofExcept (← Svc.ask env (.loadKeyEntry key loadBits callerUid))
  checkPermission accessKey accessVector
  let kmBlob ← Svc.read fun w =>
    match loadBits with
    | .km | .both => w.store.kmBlob keyId
    | .none | .public => none
  pure (⟨keyId⟩, ⟨kmBlob⟩)

theorem loadKeyEntry_onlyCalls {P : Call → Prop} {key : KeyDescriptor}
    {loadBits : KeyEntryLoadBits} {callerUid : UInt32}
    {checkPermission : KeyDescriptor → Option KeyPermSet → Svc AnyhowError Unit}
    (hP : P (.loadKeyEntry key loadBits callerUid))
    (hc : ∀ k av, Svc.OnlyCalls P (checkPermission k av)) :
    Svc.OnlyCalls P (loadKeyEntry env key loadBits callerUid checkPermission) :=
  Svc.onlyCalls_bind (Svc.onlyCalls_ask env hP) fun _ =>
    Svc.onlyCalls_bind (Svc.onlyCalls_ofExcept P _) fun ⟨_, ak, av⟩ =>
      Svc.onlyCalls_bind (hc ak av) fun _ =>
        Svc.onlyCalls_bind (Svc.onlyCalls_read P _) fun _ => Svc.onlyCalls_pure P _

theorem loadKeyEntry_noEffect {key : KeyDescriptor} {loadBits : KeyEntryLoadBits}
    {callerUid : UInt32} {checkPermission : KeyDescriptor → Option KeyPermSet → Svc AnyhowError Unit}
    (hc : ∀ k av, Svc.OnlyCalls (fun c => c.isEffect = false) (checkPermission k av)) :
    Svc.OnlyCalls (fun c => c.isEffect = false)
      (loadKeyEntry env key loadBits callerUid checkPermission) :=
  loadKeyEntry_onlyCalls env rfl hc

/-- What a successful `load_key_entry` did: the Key Store resolved the
descriptor to the guard's key id, the permission callback passed on what the
store answered, and the entry's KM blob is read from the store after it. -/
theorem loadKeyEntry_ok {key : KeyDescriptor} {loadBits : KeyEntryLoadBits} {callerUid : UInt32}
    {checkPermission : KeyDescriptor → Option KeyPermSet → Svc AnyhowError Unit}
    {w w' : World} {g : KeyIdGuard} {e : KeyEntry}
    (h : (loadKeyEntry env key loadBits callerUid checkPermission).run w = some (.ok (g, e), w')) :
    ∃ ak av, env.answer w.log.length (.loadKeyEntry key loadBits callerUid) = .ok (g.id, ak, av) ∧
      (checkPermission ak av).run
        (w.record ⟨.loadKeyEntry key loadBits callerUid, Except.ok (g.id, ak, av)⟩) =
        some (.ok (), w') ∧
      e.kmBlob = match loadBits with
        | .km | .both => w'.store.kmBlob g.id
        | .none | .public => none := by
  simp only [loadKeyEntry, Svc.run_bind, Svc.run_ask, Svc.run_ofExcept] at h
  rcases ha : (env.answer w.log.length (.loadKeyEntry key loadBits callerUid) :
    Except AnyhowError (Int × KeyDescriptor × Option KeyPermSet)) with e' | ⟨id, ak, av⟩ <;>
    rw [ha] at h
  · cases h
  · simp only at h
    rcases hcb : (checkPermission ak av).run _ with _ | ⟨_ | _, w2⟩ <;> rw [hcb] at h <;>
      simp only [Svc.run_bind, Svc.read_bind, Svc.run_pure, Option.some.injEq, Prod.mk.injEq,
        Except.ok.injEq, reduceCtorEq, false_and, and_false] at h
    obtain ⟨⟨rfl, rfl⟩, rfl⟩ := h
    exact ⟨ak, av, rfl, hcb, by cases loadBits <;> rfl⟩

end KeystoreDB

namespace OperationDb

/-- Modelled from the spec: `OperationDb::prune`. -/
def prune (caller : UInt32) : Svc Error Unit := do
  Svc.ofExcept (← Svc.ask env (.prune caller))

/-- Modelled from the spec: `OperationDb::create_operation`. -/
def createOperation {ε : Type} (kmOp : KmOperation) (owner : UInt32) : Svc ε Operation :=
  Svc.ask env (.createOperation kmOp owner)

end OperationDb

end Keystore2

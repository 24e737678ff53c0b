import Keystore2.Types

/-!
# Keystore2 — the Key Store

Modelled from the spec (`database.rs` is not in the source tree): the Key Store
as the four tables the service writes, `keyentry` (the domain and namespace a
key id was created in), `blobentry` (KM blob, certificate and certificate chain
of each key id, with their security level), `keyparameter`, and the alias
bindings, plus the next free key id.

Each write of `DbWrite` is one statement against the store: it either happens
whole or, when the store reports an error, not at all. There is no transaction
spanning several writes; `security_level.rs` issues them one after another.
`create_key_entry` hands out a key id no `keyentry` row uses (`fresh`), and the
new entry starts with no blobs and no parameters.
-/

namespace Keystore2

/-- Modelled from the spec: the Key Store's tables. -/
structure KeyStore where
  keyentry : Int → Option (Domain × Int)
  blobentry : Int → SubComponentType → Option (Blob × SecurityLevel)
  keyparameter : Int → List KeyParameter
  aliases : Domain → Int → String → Option Int
  nextId : Int
  /-- No `keyentry` row uses a key id from `nextId` on. -/
  fresh : ∀ id, nextId ≤ id → keyentry id = none

/-- Modelled from the spec: the Key Store writes the service issues. -/
inductive DbWrite
  | createKeyEntry (domain : Domain) (nspace : Int)
  | insertBlob (keyId : Int) (sc : SubComponentType) (blob : Blob) (secLevel : SecurityLevel)
  | insertKeyparameter (keyId : Int) (params : List KeyParameter)
  | rebindAlias (keyId : Int) («alias» : String) (domain : Domain) (nspace : Int)
  deriving DecidableEq, Repr

namespace KeyStore

/-- The empty Key Store. -/
def empty : KeyStore where
  keyentry _ := none
  blobentry _ _ := none
  keyparameter _ := []
  aliases _ _ _ := none
  nextId := 1
  fresh _ _ := rfl

/-- The KM blob stored for a key id. -/
def kmBlob (s : KeyStore) (id : Int) : Option Blob :=
  (s.blobentry id .kmBlob).map Prod.fst

/-- `create_key_entry`: a new, empty entry at the next free key id. -/
def createKeyEntry (s : KeyStore) (domain : Domain) (nspace : Int) : KeyStore where
  keyentry id := if id = s.nextId then some (domain, nspace) else s.keyentry id
  blobentry id sc := if id = s.nextId then none else s.blobentry id sc
  keyparameter id := if id = s.nextId then [] else s.keyparameter id
  aliases := s.aliases
  nextId := s.nextId + 1
  fresh id h := by simp [show id ≠ s.nextId by omega, s.fresh id (by omega)]

/-- `insert_blob`: store (or replace) one sub-component of a key id. -/
def insertBlob (s : KeyStore) (keyId : Int) (sc : SubComponentType) (blob : Blob)
    (secLevel : SecurityLevel) : KeyStore :=
  { s with blobentry := fun id sc' =>
      if id = keyId ∧ sc' = sc then some (blob, secLevel) else s.blobentry id sc' }

/-- `insert_keyparameter`: add parameter rows to a key id. -/
def insertKeyparameter (s : KeyStore) (keyId : Int) (params : List KeyParameter) : KeyStore :=
  { s with keyparameter := fun id =>
      if id = keyId then s.keyparameter id ++ params else s.keyparameter id }

/-- `rebind_alias`: the alias names this key id in the domain and namespace,
and whatever it named before is unbound. -/
def rebindAlias (s : KeyStore) (keyId : Int) (a : String) (domain : Domain) (nspace : Int) :
    KeyStore :=
  { s with aliases := fun d n a' =>
      if d = domain ∧ n = nspace ∧ a' = a then some keyId else s.aliases d n a' }

/-- The effect of one successful write. -/
def apply (s : KeyStore) : DbWrite → KeyStore
  | .createKeyEntry domain nspace => s.createKeyEntry domain nspace
  | .insertBlob keyId sc blob secLevel => s.insertBlob keyId sc blob secLevel
  | .insertKeyparameter keyId params => s.insertKeyparameter keyId params
  | .rebindAlias keyId a domain nspace => s.rebindAlias keyId a domain nspace

-- ---------------------------------------------------------------------------
-- Reading the tables after each write
-- ---------------------------------------------------------------------------

theorem keyentry_nextId (s : KeyStore) : s.keyentry s.nextId = none :=
  s.fresh _ (Int.le_refl _)

@[simp] theorem createKeyEntry_nextId (s : KeyStore) (d : Domain) (n : Int) :
    (s.createKeyEntry d n).nextId = s.nextId + 1 := rfl

@[simp] theorem createKeyEntry_aliases (s : KeyStore) (d : Domain) (n : Int) :
    (s.createKeyEntry d n).aliases = s.aliases := rfl

@[simp] theorem createKeyEntry_keyentry (s : KeyStore) (d : Domain) (n : Int) (id : Int) :
    (s.createKeyEntry d n).keyentry id =
      if id = s.nextId then some (d, n) else s.keyentry id := rfl

@[simp] theorem createKeyEntry_blobentry (s : KeyStore) (d : Domain) (n : Int) (id : Int)
    (sc : SubComponentType) :
    (s.createKeyEntry d n).blobentry id sc = if id = s.nextId then none else s.blobentry id sc :=
  rfl

@[simp] theorem createKeyEntry_keyparameter (s : KeyStore) (d : Domain) (n : Int) (id : Int) :
    (s.createKeyEntry d n).keyparameter id = if id = s.nextId then [] else s.keyparameter id :=
  rfl

@[simp] theorem insertBlob_blobentry (s : KeyStore) (k : Int) (sc : SubComponentType) (b : Blob)
    (l : SecurityLevel) (id : Int) (sc' : SubComponentType) :
    (s.insertBlob k sc b l).blobentry id sc' =
      if id = k ∧ sc' = sc then some (b, l) else s.blobentry id sc' := rfl

@[simp] theorem insertBlob_keyentry (s : KeyStore) (k : Int) (sc : SubComponentType) (b : Blob)
    (l : SecurityLevel) : (s.insertBlob k sc b l).keyentry = s.keyentry := rfl

@[simp] theorem insertBlob_keyparameter (s : KeyStore) (k : Int) (sc : SubComponentType)
    (b : Blob) (l : SecurityLevel) : (s.insertBlob k sc b l).keyparameter = s.keyparameter := rfl

@[simp] theorem insertBlob_aliases (s : KeyStore) (k : Int) (sc : SubComponentType) (b : Blob)
    (l : SecurityLevel) : (s.insertBlob k sc b l).aliases = s.aliases := rfl

@[simp] theorem insertBlob_nextId (s : KeyStore) (k : Int) (sc : SubComponentType) (b : Blob)
    (l : SecurityLevel) : (s.insertBlob k sc b l).nextId = s.nextId := rfl

@[simp] theorem insertKeyparameter_keyparameter (s : KeyStore) (k : Int)
    (ps : List KeyParameter) (id : Int) :
    (s.insertKeyparameter k ps).keyparameter id =
      if id = k then s.keyparameter id ++ ps else s.keyparameter id := rfl

@[simp] theorem insertKeyparameter_keyentry (s : KeyStore) (k : Int) (ps : List KeyParameter) :
    (s.insertKeyparameter k ps).keyentry = s.keyentry := rfl

@[simp] theorem insertKeyparameter_blobentry (s : KeyStore) (k : Int) (ps : List KeyParameter) :
    (s.insertKeyparameter k ps).blobentry = s.blobentry := rfl

@[simp] theorem insertKeyparameter_aliases (s : KeyStore) (k : Int) (ps : List KeyParameter) :
    (s.insertKeyparameter k ps).aliases = s.aliases := rfl

@[simp] theorem insertKeyparameter_nextId (s : KeyStore) (k : Int) (ps : List KeyParameter) :
    (s.insertKeyparameter k ps).nextId = s.nextId := rfl

@[simp] theorem rebindAlias_aliases (s : KeyStore) (k : Int) (a : String) (d : Domain) (n : Int)
    (d' : Domain) (n' : Int) (a' : String) :
    (s.rebindAlias k a d n).aliases d' n' a' =
      if d' = d ∧ n' = n ∧ a' = a then some k else s.aliases d' n' a' := rfl

@[simp] theorem rebindAlias_keyentry (s : KeyStore) (k : Int) (a : String) (d : Domain)
    (n : Int) : (s.rebindAlias k a d n).keyentry = s.keyentry := rfl

@[simp] theorem rebindAlias_blobentry (s : KeyStore) (k : Int) (a : String) (d : Domain)
    (n : Int) : (s.rebindAlias k a d n).blobentry = s.blobentry := rfl

@[simp] theorem rebindAlias_keyparameter (s : KeyStore) (k : Int) (a : String) (d : Domain)
    (n : Int) : (s.rebindAlias k a d n).keyparameter = s.keyparameter := rfl

@[simp] theorem rebindAlias_nextId (s : KeyStore) (k : Int) (a : String) (d : Domain)
    (n : Int) : (s.rebindAlias k a d n).nextId = s.nextId := rfl

@[simp] theorem kmBlob_insertBlob (s : KeyStore) (k : Int) (b : Blob) (l : SecurityLevel)
    (id : Int) : (s.insertBlob k .kmBlob b l).kmBlob id = if id = k then some b else s.kmBlob id := by
  by_cases h : id = k <;> simp [kmBlob, h]

/-- No write takes back a key id: `nextId` only grows. -/
theorem nextId_le_apply (s : KeyStore) (wr : DbWrite) : s.nextId ≤ (s.apply wr).nextId := by
  cases wr <;> simp only [apply, createKeyEntry_nextId, insertBlob_nextId,
    insertKeyparameter_nextId, rebindAlias_nextId] <;> omega

theorem nextId_le_foldl (s : KeyStore) (ws : List DbWrite) :
    s.nextId ≤ (ws.foldl apply s).nextId := by
  induction ws generalizing s with
  | nil => exact Int.le_refl _
  | cons wr ws ih => exact Int.le_trans (s.nextId_le_apply wr) (ih _)

/-- Two stores with the same tables are equal: the freshness proof is irrelevant. -/
@[ext] theorem ext {s t : KeyStore} (h1 : s.keyentry = t.keyentry)
    (h2 : s.blobentry = t.blobentry) (h3 : s.keyparameter = t.keyparameter)
    (h4 : s.aliases = t.aliases) (h5 : s.nextId = t.nextId) : s = t := by
  cases s; cases t; cases h1; cases h2; cases h3; cases h4; cases h5; rfl

end KeyStore

end Keystore2

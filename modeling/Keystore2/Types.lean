import Mathlib.Data.List.Basic

/-!
# Keystore2 — data model

The types `security_level.rs` and `utils.rs` exchange with their callers, with
KeyMint and with the Key Store, and the error types of `error.rs`.

AIDL enums are newtypes over `i32` in the generated Rust, so each one here is a
structure over `Int` with the named constants the service uses: a request can
carry any value, not only the named ones, and the code compares against the
constants. Machine integers that the service only compares or copies (`i32`,
`i64`, among them the Key Store's key ids) are `Int`; the calling uid is the
`u32` it is in the source.

Three types belong to modules that are not in the source tree and are modelled
from the spec: `KeyParameterValue` (`key_parameter.rs`), `KeyEntry` and
`KeyIdGuard` (`database.rs`). Only the fields the service reads are kept.
-/

namespace Keystore2

/-- Byte strings: key blobs, certificates, masking keys, wrapped key data. -/
abbrev Blob := List UInt8

-- ---------------------------------------------------------------------------
-- AIDL enums
-- ---------------------------------------------------------------------------

/-- `Domain` of a key descriptor. -/
structure Domain where
  val : Int
  deriving DecidableEq, Repr

namespace Domain
def app : Domain := ⟨0⟩
def blob : Domain := ⟨3⟩
def keyId : Domain := ⟨4⟩
end Domain

/-- `SecurityLevel` of KeyMint: of the service, and of each key parameter. -/
structure SecurityLevel where
  val : Int
  deriving DecidableEq, Repr

def SecurityLevel.software : SecurityLevel := ⟨0⟩

/-- `Tag` of a KeyMint key parameter. -/
structure Tag where
  val : Int
  deriving DecidableEq, Repr

namespace Tag
def algorithm : Tag := ⟨268435458⟩
def purpose : Tag := ⟨536870913⟩
end Tag

/-- `KeyPurpose`, read from the integer of the `PURPOSE` parameter. -/
structure KeyPurpose where
  val : Int
  deriving DecidableEq, Repr

/-- `Algorithm`, read from the integer of the `ALGORITHM` parameter. -/
structure Algorithm where
  val : Int
  deriving DecidableEq, Repr

namespace Algorithm
def rsa : Algorithm := ⟨1⟩
def ec : Algorithm := ⟨3⟩
def aes : Algorithm := ⟨32⟩
def tripleDes : Algorithm := ⟨33⟩
def hmac : Algorithm := ⟨128⟩
end Algorithm

/-- `KeyFormat` of imported key material. -/
structure KeyFormat where
  val : Int
  deriving DecidableEq, Repr

namespace KeyFormat
def pkcs8 : KeyFormat := ⟨1⟩
def raw : KeyFormat := ⟨3⟩
end KeyFormat

/-- `HardwareAuthenticatorType` of an authenticator spec. -/
structure HardwareAuthenticatorType where
  val : Int
  deriving DecidableEq, Repr

namespace HardwareAuthenticatorType
def password : HardwareAuthenticatorType := ⟨1⟩
def fingerprint : HardwareAuthenticatorType := ⟨2⟩
end HardwareAuthenticatorType

/-- KeyMint's `ErrorCode`. -/
structure ErrorCode where
  val : Int
  deriving DecidableEq, Repr

namespace ErrorCode
def tooManyOperations : ErrorCode := ⟨-31⟩
def invalidArgument : ErrorCode := ⟨-38⟩
def keyRequiresUpgrade : ErrorCode := ⟨-62⟩
end ErrorCode

/-- Keystore's own `ResponseCode`. -/
structure ResponseCode where
  val : Int
  deriving DecidableEq, Repr

def ResponseCode.systemError : ResponseCode := ⟨4⟩

-- ---------------------------------------------------------------------------
-- KeyMint parcelables
-- ---------------------------------------------------------------------------

/-- KeyMint's `KeyParameter`: a tag and its value fields. -/
structure KmKeyParameter where
  tag : Tag
  boolValue : Bool
  integer : Int
  longInteger : Int
  dateTime : Int
  blob : Blob
  deriving DecidableEq, Repr

/-- `KeyCharacteristics` returned with a new key. -/
structure KeyCharacteristics where
  softwareEnforced : List KmKeyParameter
  hardwareEnforced : List KmKeyParameter
  deriving DecidableEq, Repr

/-- KeyMint's `Certificate` (`KmCertificate` in the source). -/
structure KmCertificate where
  encodedCertificate : Blob
  deriving DecidableEq, Repr

/-- The `IKeyMintOperation` handle a successful `begin` returns. -/
structure KmOperation where
  handle : Nat
  deriving DecidableEq, Repr

/-- `BeginResult` of KeyMint's `begin`. -/
structure BeginResult where
  challenge : Int
  params : List KmKeyParameter
  operation : Option KmOperation
  deriving DecidableEq, Repr

-- ---------------------------------------------------------------------------
-- Keystore parcelables
-- ---------------------------------------------------------------------------

/-- `KeyDescriptor`: a key named by domain and namespace plus an alias, or a
caller-held blob (`BLOB`), or a key id (`KEY_ID`). -/
structure KeyDescriptor where
  domain : Domain
  nspace : Int
  «alias» : Option String
  blob : Option Blob
  deriving DecidableEq, Repr

/-- `Default::default()` of the AIDL parcelable: domain `0` (`APP`), namespace
`0`, no alias, no blob. -/
instance : Inhabited KeyDescriptor := ⟨⟨⟨0⟩, 0, none, none⟩⟩

/-- `Authorization`: a key parameter with the security level that enforces it. -/
structure Authorization where
  securityLevel : SecurityLevel
  keyParameter : KmKeyParameter
  deriving DecidableEq, Repr

/-- `KeyMetadata`, the answer to a key creation. -/
structure KeyMetadata where
  key : KeyDescriptor
  keySecurityLevel : SecurityLevel
  certificate : Option Blob
  certificateChain : Option Blob
  authorizations : List Authorization
  deriving DecidableEq, Repr

/-- `AuthenticatorSpec` of a wrapped-key import. -/
structure AuthenticatorSpec where
  authenticatorType : HardwareAuthenticatorType
  authenticatorId : Int
  deriving DecidableEq, Repr

/-- The operation object the Operation Registry creates (`Arc<Operation>`),
handed to the caller as an `IKeystoreOperation` binder. -/
structure Operation where
  handle : Nat
  deriving DecidableEq, Repr

/-- `OperationChallenge` of a `CreateOperationResponse`. -/
structure OperationChallenge where
  challenge : Int
  deriving DecidableEq, Repr

/-- `CreateOperationResponse`. -/
structure CreateOperationResponse where
  iOperation : Option Operation
  operationChallenge : Option OperationChallenge
  parameters : Option (List KmKeyParameter)
  deriving DecidableEq, Repr

-- ---------------------------------------------------------------------------
-- Keystore-internal types
-- ---------------------------------------------------------------------------

/-- Modelled from the spec: the typed value of a key parameter
(`KeyParameterValue` of `key_parameter.rs`, not in the source tree). The
service only carries it from KeyMint to the Key Store and back, so it is kept
as the tag and the value's encoding. -/
structure KeyParameterValue where
  tag : Tag
  data : Blob
  deriving DecidableEq, Repr

/-- The internal `KeyParameter`: a value and the security level that asserted it. -/
structure KeyParameter where
  value : KeyParameterValue
  securityLevel : SecurityLevel
  deriving DecidableEq, Repr

/-- `KeyPerm` of `permission.rs`: the two permissions this service checks. -/
inductive KeyPerm
  | use
  | rebind
  deriving DecidableEq, Repr

/-- The access vector `load_key_entry` hands to the permission callback. -/
structure KeyPermSet where
  bits : Int
  deriving DecidableEq, Repr

/-- `SubComponentType` of a stored blob. -/
inductive SubComponentType
  | kmBlob
  | cert
  | certChain
  deriving DecidableEq, Repr

/-- `KeyEntryLoadBits`: which parts of an entry `load_key_entry` loads. -/
inductive KeyEntryLoadBits
  | none
  | km
  | public
  | both
  deriving DecidableEq, Repr

/-- Modelled from the spec: `KeyEntry` of `database.rs`, with the one part the
service reads, the KM blob. -/
structure KeyEntry where
  kmBlob : Option Blob
  deriving DecidableEq, Repr

/-- Modelled from the spec: `KeyIdGuard`, the exclusive hold on one key id. In
a single request it is the key id it guards; the modules `KeyIdGuard` and
`GuardedUpgrade` model the exclusion. -/
structure KeyIdGuard where
  id : Int
  deriving DecidableEq, Repr

-- ---------------------------------------------------------------------------
-- Errors
-- ---------------------------------------------------------------------------

/-- `error::Error` of keystore2. -/
inductive Error
  | rc (code : ResponseCode)
  | km (code : ErrorCode)
  | binder (exception : Int) (code : Int)
  deriving DecidableEq, Repr

/-- `Error::sys()`. -/
def Error.sys : Error := .rc ResponseCode.systemError

/-- What an `anyhow::Error` was made from: a keystore `Error`, or a message
(`anyhow!` and the errors of the collaborators). -/
inductive ErrorRoot
  | keystore (e : Error)
  | message (text : String)
  deriving DecidableEq, Repr

/-- `anyhow::Error`: a root and the chain of contexts added on the way out,
outermost first. The context never changes the root, which is what the binder
layer reports. -/
structure AnyhowError where
  root : ErrorRoot
  context : List String
  deriving DecidableEq, Repr

/-- `anyhow::Error::from(e)`. -/
def AnyhowError.ofError (e : Error) : AnyhowError := ⟨.keystore e, []⟩

/-- `.context(msg)`. -/
def AnyhowError.withContext (e : AnyhowError) (msg : String) : AnyhowError :=
  { e with context := msg :: e.context }

@[simp] theorem AnyhowError.withContext_root (e : AnyhowError) (msg : String) :
    (e.withContext msg).root = e.root := rfl

@[simp] theorem AnyhowError.ofError_root (e : Error) :
    (AnyhowError.ofError e).root = .keystore e := rfl

/-- The two error types an anyhow `.context` applies to. -/
class IntoAnyhow (ε : Type) where
  into : ε → AnyhowError

instance : IntoAnyhow Error := ⟨AnyhowError.ofError⟩
instance : IntoAnyhow AnyhowError := ⟨id⟩

end Keystore2

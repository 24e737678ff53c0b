import Keystore2.Types
import Keystore2.Database
import Keystore2.Service
import Keystore2.Utils
import Keystore2.KeystoreDb
import Keystore2.SecurityLevel
import Keystore2.Upgrade
import Keystore2.Persistence
import Keystore2.KeyCreation
import Keystore2.CreateOperation
import Keystore2.Mediation
import Keystore2.WrappedKey
import Keystore2.KeyIdGuard
import Keystore2.GuardedUpgrade
import Keystore2.NewKeyMetadata
import Keystore2.Binder
import Keystore2.Attribution
import Keystore2.HandlerCalls
import Keystore2.StoreIntegrity
import Keystore2.BlobUpgrades
import Keystore2.NewKeys
import Keystore2.AccessControl
import Keystore2.BlobDomain
import Keystore2.CallArguments
import Keystore2.Vouched
import Keystore2.KeyMintOrigin
import Keystore2.KmBlobAccess
import Keystore2.KeyMintUse
import Keystore2.OperationAnswer
import Keystore2.UpgradeBound
import Keystore2.Admission
import Keystore2.AliasLookup
import Keystore2.ErrorOrigin

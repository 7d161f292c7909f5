import TaSecureApi.Lib.Transition
import TaSecureApi.Lib.Ledger
import TaSecureApi.Status
import TaSecureApi.Slots
import TaSecureApi.ObjectStore
import TaSecureApi.StoreRuns
import TaSecureApi.StoreInvariant
import TaSecureApi.StoreLifetime
import TaSecureApi.StoreLedger
import TaSecureApi.StoreRecycling
import TaSecureApi.StoreOwners
import TaSecureApi.StoreIsolation
import TaSecureApi.Lib.CounterMode
import TaSecureApi.Lib.Wp
import TaSecureApi.Rights
import TaSecureApi.Symmetric
import TaSecureApi.Client
import TaSecureApi.Cenc
import TaSecureApi.ProcessCommonEncryption
import TaSecureApi.CencSteps
import TaSecureApi.CencTraversal
import TaSecureApi.CencBounds
import TaSecureApi.CencKeystream
import TaSecureApi.Keys
import TaSecureApi.CipherStore
import TaSecureApi.CommonEncryption
import TaSecureApi.Command
import TaSecureApi.StoredKey
import TaSecureApi.KeyCommands
import TaSecureApi.Lib.Pkcs7
import TaSecureApi.WrappedKey
import TaSecureApi.WrappedKeyStore
import TaSecureApi.KeyStoreRuns
import TaSecureApi.CryptoCommands
import TaSecureApi.KeyRuns
import TaSecureApi.KeyAncestry
import TaSecureApi.KeyUses
import TaSecureApi.Json
import TaSecureApi.KeyContainer
import TaSecureApi.SocKeyContainer
import TaSecureApi.Typej
import TaSecureApi.ContainerTags
import TaSecureApi.ContainerTaLists
import TaSecureApi.KeyImports
import TaSecureApi.KeyHeaders
import TaSecureApi.Lib.Locks
import TaSecureApi.ExclusiveLocks
import TaSecureApi.Lib.Tally
import TaSecureApi.Lib.Frames
import TaSecureApi.SvpStore
import TaSecureApi.SvpReferences
import TaSecureApi.SvpRelease
import TaSecureApi.SvpHandedBack
import TaSecureApi.Lib.Layout
import TaSecureApi.TaTypes
import TaSecureApi.TaInvoke
import TaSecureApi.SuppliedBytes
import TaSecureApi.Lib.Der
import TaSecureApi.Pkcs12
import TaSecureApi.RootKeySelection
import TaSecureApi.SvpValidation
import TaSecureApi.CencPattern
import TaSecureApi.CipherSessions
import TaSecureApi.ProviderCipher
import TaSecureApi.ProviderCipherChunks
import TaSecureApi.EngineCipher
import TaSecureApi.ContainerResults
import TaSecureApi.CipherCreation
import TaSecureApi.SlotSets
import TaSecureApi.UuidTexts
import TaSecureApi.CencTermination
import TaSecureApi.CencFailures
import TaSecureApi.SharedSamples
import TaSecureApi.JsonTree
import TaSecureApi.ExportedBytes
import TaSecureApi.ClientSamples
import TaSecureApi.Signing
import TaSecureApi.KeyConstruction
import TaSecureApi.KeyBuilds
import TaSecureApi.KeyUnwraps
import TaSecureApi.KeyFunctions
import TaSecureApi.ContentKeyRights
import TaSecureApi.Lib.Appends
import TaSecureApi.ContainerAad
import TaSecureApi.Lib.Framing
import TaSecureApi.ContainerBinding
import TaSecureApi.ContainerNames
import TaSecureApi.ContainerArrays
import TaSecureApi.ContainerSizes
import TaSecureApi.ContainerIntegers
import TaSecureApi.ContainerSplitting
import TaSecureApi.Lib.Blocks
import TaSecureApi.ContainerBlocks
import TaSecureApi.ContainerFrees
import TaSecureApi.Lib.Calendar
import TaSecureApi.Lib.Decimal
import TaSecureApi.ContainerTimes
import TaSecureApi.Lib.Base64
import TaSecureApi.ContainerBase64
import TaSecureApi.ContainerMembers
import TaSecureApi.ContainerTypes
import TaSecureApi.Lib.Expansion
import TaSecureApi.Kdf
import TaSecureApi.HkdfOutput
import TaSecureApi.CounterKdfs
import TaSecureApi.NetflixSecret
import TaSecureApi.SvpCopies
import TaSecureApi.SubsampleCounts
import TaSecureApi.UnwrapPadding
import TaSecureApi.Lib.Lockstep
import TaSecureApi.CipherBytes
import TaSecureApi.CipherChunkings
import TaSecureApi.CencLengths
import TaSecureApi.CipherLengths
import TaSecureApi.NetflixExchange
import TaSecureApi.BufferOffsets
import TaSecureApi.MacContexts
import TaSecureApi.Lib.History
import TaSecureApi.RootKeyCache
import TaSecureApi.KeyProvisioning
import TaSecureApi.ProviderCipherCalls
import TaSecureApi.ProviderKdf
import TaSecureApi.ProviderCmac
import TaSecureApi.ProviderCopies
import TaSecureApi.ProviderAsymCipher
import TaSecureApi.ProviderOaep
import TaSecureApi.ProviderKeymgmt
import TaSecureApi.ProviderKeyMatch
import TaSecureApi.ProviderSignature
import TaSecureApi.ProviderSignatureCalls
import TaSecureApi.ProviderSignatureLengths
import TaSecureApi.Pkcs12Scan
import TaSecureApi.Lib.Records
import TaSecureApi.ClientParams
import TaSecureApi.ClientKeys
import TaSecureApi.ClientCommands
import TaSecureApi.ClientCalls
import TaSecureApi.RemoteParams
import TaSecureApi.RemoteBuffers
import TaSecureApi.RemoteCalls
import TaSecureApi.Lib.Programs
import TaSecureApi.StoreCalls
import TaSecureApi.TaClients
import TaSecureApi.TaRuns
import TaSecureApi.TaSafety
import TaSecureApi.Lib.Balance
import TaSecureApi.TaBalance
import TaSecureApi.TaStores
import TaSecureApi.TaSystem
import TaSecureApi.TaCommands
import TaSecureApi.TaSections
import TaSecureApi.TaReferences

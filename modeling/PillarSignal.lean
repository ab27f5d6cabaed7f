import PillarSignal.Storage.Table
import PillarSignal.Storage.FileTree
import PillarSignal.Storage.Disk
import PillarSignal.Storage.Json
import PillarSignal.Storage.Decimal
import PillarSignal.Storage.JsonText
import PillarSignal.Storage.Log
import PillarSignal.Storage.Run
import PillarSignal.Storage.Grouping
import PillarSignal.Storage.StableSort
import PillarSignal.Protocol.Keys
import PillarSignal.Protocol.Envelope
import PillarSignal.Protocol.Queue
import PillarSignal.Android.OrgJson
import PillarSignal.Android.ProtocolStorage
import PillarSignal.Android.ProtocolFiles
import PillarSignal.Android.MessageStorage
import PillarSignal.Android.MessageFiles
import PillarSignal.Android.Server
import PillarSignal.Android.Decrypt
import PillarSignal.Android.Receive
import PillarSignal.Protocol.KeyHelper
import PillarSignal.Android.Sessions
import PillarSignal.Android.Send
import PillarSignal.Android.Account
import PillarSignal.Android.Client
import PillarSignal.Android.Callbacks
import PillarSignal.Protocol.Plain
import PillarSignal.Ios.ProtocolStorage
import PillarSignal.Ios.MessagesStorage
import PillarSignal.Ios.Account
import PillarSignal.Ios.Server
import PillarSignal.Ios.Receive
import PillarSignal.Ios.Sessions
import PillarSignal.Ios.Send
import PillarSignal.Ios.LegacyMessage
import PillarSignal.Ios.Client
import PillarSignal.Ios.Requests
import PillarSignal.Properties.UserSwitch
import PillarSignal.Properties.Delivery
import PillarSignal.Properties.AndroidUpload
import PillarSignal.Properties.IosUpload
import PillarSignal.Properties.UploadedKeys
import PillarSignal.Properties.SessionRebuild
import PillarSignal.Properties.IdentityTrust
import PillarSignal.Properties.EnvelopeAuthenticity
import PillarSignal.Properties.SentHistory
import PillarSignal.Properties.IosConversation
import PillarSignal.Properties.AndroidConversation
import PillarSignal.Properties.EnvelopeOnce
import PillarSignal.Properties.Registration
import PillarSignal.Properties.IosRegistration
import PillarSignal.Properties.PreKeyIds
import PillarSignal.Properties.PreKeyBatches
import PillarSignal.Properties.IdentityStability
import PillarSignal.Properties.PushPull
import PillarSignal.Properties.StoreMaps
import PillarSignal.Properties.SignedPreKeys
import PillarSignal.Properties.IosSessionStore
import PillarSignal.Properties.DisturbedStores
import PillarSignal.Properties.InterruptedWrites
import PillarSignal.Properties.ContactIsolation
import PillarSignal.Properties.TagIsolation
import PillarSignal.Properties.ExistingMessages
import PillarSignal.Properties.IosContinuations
import PillarSignal.Properties.Promises
import PillarSignal.Properties.QueueEntries
import PillarSignal.Properties.SendRetries
import PillarSignal.Properties.Erasure
import PillarSignal.Properties.EntryFields
import PillarSignal.Properties.UnreadSummary
import PillarSignal.Properties.PendingDeletes
import PillarSignal.Properties.AndroidEnvelopes
import PillarSignal.Properties.NewestFirst
import PillarSignal.Properties.BundleParsing
import PillarSignal.Properties.PullLoop
import PillarSignal.Properties.TimestampWidths
import PillarSignal.Delivery.Exchange
import PillarSignal.Libsignal.Agreement
import PillarSignal.Libsignal.ArchivedStates
import PillarSignal.Libsignal.Parties
import PillarSignal.Libsignal.Refinement
import PillarSignal.Properties.RatchetDelivery
import PillarSignal.Properties.StoredSessions
import PillarSignal.Properties.OneTimePreKeys
import PillarSignal.Properties.WireData

import DeviceTrust.Crypto.Ed25519
import DeviceTrust.Crypto.Key
import DeviceTrust.Crypto.Sha512
import DeviceTrust.Duration
import DeviceTrust.History.Archive
import DeviceTrust.History.Event
import DeviceTrust.History.Outcome
import DeviceTrust.History.Resolution
import DeviceTrust.History.Schedule
import DeviceTrust.Identifier.EventId
import DeviceTrust.Identifier.Ipv6
import DeviceTrust.Identifier.RoomId
import DeviceTrust.Identifier.ServerName
import DeviceTrust.Identifier.UserId
import DeviceTrust.Json
import DeviceTrust.Json.Codec
import DeviceTrust.Json.Record
import DeviceTrust.Manager.Feed
import DeviceTrust.Manager.Operations
import DeviceTrust.Manager.Registry
import DeviceTrust.Manager.State
import DeviceTrust.Proofs.History.Alone
import DeviceTrust.Proofs.History.Cancellation
import DeviceTrust.Proofs.History.Composition
import DeviceTrust.Proofs.History.Failure
import DeviceTrust.Proofs.History.Marks
import DeviceTrust.Proofs.History.Memory
import DeviceTrust.Proofs.History.Moves
import DeviceTrust.Proofs.History.Order
import DeviceTrust.Proofs.History.Ownership
import DeviceTrust.Proofs.History.Replay
import DeviceTrust.Proofs.History.SingleFlight
import DeviceTrust.Proofs.Json.Formats
import DeviceTrust.Proofs.Json.Record
import DeviceTrust.Proofs.Json.Spelling
import DeviceTrust.Proofs.Manager.Announcements
import DeviceTrust.Proofs.Manager.Changes
import DeviceTrust.Proofs.Manager.Commands
import DeviceTrust.Proofs.Manager.Filing
import DeviceTrust.Proofs.Manager.Finished
import DeviceTrust.Proofs.Manager.Guarantees
import DeviceTrust.Proofs.Manager.Incoming
import DeviceTrust.Proofs.Manager.Locality
import DeviceTrust.Proofs.Manager.Lookups
import DeviceTrust.Proofs.Manager.Overtaking
import DeviceTrust.Proofs.Manager.Remembering
import DeviceTrust.Proofs.Manager.Replies
import DeviceTrust.Proofs.Manager.Reports
import DeviceTrust.Proofs.Manager.Tables
import DeviceTrust.Proofs.Operation
import DeviceTrust.Proofs.RoomKey.Classification
import DeviceTrust.Proofs.RoomKey.Content
import DeviceTrust.Proofs.RoomKey.Fates
import DeviceTrust.Proofs.RoomKey.Isolation
import DeviceTrust.Proofs.RoomKey.Masking
import DeviceTrust.Proofs.RoomKey.Matching
import DeviceTrust.Proofs.RoomKey.Requested
import DeviceTrust.Proofs.RoomKey.Retention
import DeviceTrust.Proofs.RoomKey.Waiting
import DeviceTrust.Proofs.Samples
import DeviceTrust.Proofs.Since
import DeviceTrust.Proofs.Store.Devices
import DeviceTrust.Proofs.Store.Found
import DeviceTrust.Proofs.Store.LastSaved
import DeviceTrust.Proofs.Store.Lost
import DeviceTrust.Proofs.Store.Requests
import DeviceTrust.Proofs.Table
import DeviceTrust.Proofs.Trust.Summary
import DeviceTrust.Proofs.Turns
import DeviceTrust.Proofs.Verification.Calls
import DeviceTrust.Proofs.Verification.CancelTokens
import DeviceTrust.Proofs.Verification.Comparison
import DeviceTrust.Proofs.Verification.Confirmation
import DeviceTrust.Proofs.Verification.Exchange
import DeviceTrust.Proofs.Verification.Lifecycle
import DeviceTrust.Proofs.Verification.Negotiation
import DeviceTrust.Proofs.Verification.Progress
import DeviceTrust.Proofs.Verification.Restoration
import DeviceTrust.Proofs.Verification.SasHistory
import DeviceTrust.Proofs.Verification.Silence
import DeviceTrust.Proofs.Verification.Unannounced
import DeviceTrust.RoomKey.Classification
import DeviceTrust.RoomKey.Event
import DeviceTrust.RoomKey.Info
import DeviceTrust.RoomKey.Waiting
import DeviceTrust.Secret
import DeviceTrust.Store.KeyStore
import DeviceTrust.Store.Memory
import DeviceTrust.Text.Base64
import DeviceTrust.Trust.Device
import DeviceTrust.Trust.Level
import DeviceTrust.Trust.Local
import DeviceTrust.Trust.Source
import DeviceTrust.Trust.Summary
import DeviceTrust.Verification.CancelCode
import DeviceTrust.Verification.Delivery
import DeviceTrust.Verification.Emoji
import DeviceTrust.Verification.Engine
import DeviceTrust.Verification.Error
import DeviceTrust.Verification.Flow
import DeviceTrust.Verification.FlowId
import DeviceTrust.Verification.Method
import DeviceTrust.Verification.Operation
import DeviceTrust.Verification.QrCode
import DeviceTrust.Verification.Request
import DeviceTrust.Verification.Sas
import DeviceTrust.Verification.Script
import DeviceTrust.Version

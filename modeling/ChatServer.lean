import ChatServer.Identity
import ChatServer.Uuid
import ChatServer.Operations.Health
import ChatServer.Rpc.Guard
import ChatServer.Text.Percent
import ChatServer.Admission.Key
import ChatServer.Admission.Sweeper
import ChatServer.Password.Hash
import ChatServer.Wire.Message
import ChatServer.Wire.Size
import ChatServer.Proofs.Wire.Lossless
import ChatServer.Live.Client
import ChatServer.Rpc.Reply
import ChatServer.Startup
import ChatServer.Main
import ChatServer.Proofs.Tables
import ChatServer.Proofs.Live.Connections
import ChatServer.Proofs.Live.Fanout
import ChatServer.Proofs.Live.Observation
import ChatServer.Proofs.Live.Census
import ChatServer.Proofs.Live.Accounting
import ChatServer.Proofs.Live.Mailboxes
import ChatServer.Proofs.Live.Protocol
import ChatServer.Proofs.Token.Verification
import ChatServer.Proofs.Live.Conformance
import ChatServer.Proofs.Live.Presence
import ChatServer.Proofs.Live.Settling
import ChatServer.Proofs.Live.Reachability
import ChatServer.Proofs.Text.Normalization
import ChatServer.Proofs.Text.Base64
import ChatServer.Proofs.Text.Json
import ChatServer.Proofs.Token.Issuing
import ChatServer.Proofs.Token.Keys
import ChatServer.Proofs.Token.Migration
import ChatServer.Proofs.Live.Chronicle
import ChatServer.Proofs.Live.Evictions
import ChatServer.Proofs.Live.Contents
import ChatServer.Proofs.Store.Ids
import ChatServer.Proofs.Live.Progress
import ChatServer.Proofs.Live.Ledger
import ChatServer.Proofs.Token.Selection
import ChatServer.Rpc.Deployment
import ChatServer.Proofs.Store.Accounts
import ChatServer.Proofs.Store.Visibility
import ChatServer.Proofs.Live.Discretion
import ChatServer.Proofs.Live.Sequence
import ChatServer.Proofs.Live.Finality
import ChatServer.Proofs.Rpc.Calls
import ChatServer.Proofs.Rpc.Guard
import ChatServer.Proofs.Rpc.Authentication
import ChatServer.Proofs.Rpc.Registration
import ChatServer.Proofs.Rpc.Operation
import ChatServer.Proofs.Rpc.Privacy
import ChatServer.Proofs.Rpc.Grants
import ChatServer.Proofs.Password.Rendering
import ChatServer.Proofs.Rpc.Outcomes
import ChatServer.Proofs.Rpc.Lifecycle
import ChatServer.Proofs.Admission.Levels
import ChatServer.Proofs.Admission.RateBound
import ChatServer.Proofs.Live.Traffic
import ChatServer.Proofs.Live.Endings
import ChatServer.Proofs.Live.Whole
import ChatServer.Proofs.Rpc.Listing
import ChatServer.Proofs.Rpc.Serving
import ChatServer.Proofs.Rpc.Correspondence
import ChatServer.Proofs.Rpc.OneIdentity
import ChatServer.Proofs.Config.Acceptance
import ChatServer.Proofs.Admission.Independence
import ChatServer.Proofs.Admission.Sweeping
import ChatServer.Proofs.Rpc.Reticence
import ChatServer.Proofs.Store.Transcripts
import ChatServer.Proofs.Admission.Memory
import ChatServer.Proofs.Admission.Refusals
import ChatServer.Proofs.Admission.AgeBound
import ChatServer.Proofs.Config.KeyLists
import ChatServer.Proofs.Config.Concealment
import ChatServer.Proofs.Net.Addresses
import ChatServer.Proofs.Admission.Sharing
import ChatServer.Proofs.Live.Tallies
import ChatServer.Proofs.Rpc.Passwords
import ChatServer.Proofs.Rpc.Spellings
import ChatServer.Proofs.Text.CanonicalForm

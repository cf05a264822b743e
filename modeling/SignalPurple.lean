import SignalPurple.Foundation.Machine
import SignalPurple.Foundation.History
import SignalPurple.Foundation.Words
import SignalPurple.Core.Event
import SignalPurple.Core.EventQueue
import SignalPurple.Core.EventQueue.Delivery
import SignalPurple.Core.EventQueue.Wakeups
import SignalPurple.Core.Acknowledgment
import SignalPurple.Core.Acknowledgment.Inbox
import SignalPurple.Core.Acknowledgment.Delivery
import SignalPurple.Core.Content
import SignalPurple.Core.Projection
import SignalPurple.Foundation.Recency
import SignalPurple.Core.Projection.Representation
import SignalPurple.Core.Projection.Bookkeeping
import SignalPurple.Core.Projection.Actor
import SignalPurple.Core.Projection.Tracking
import SignalPurple.Core.Projection.Submission
import SignalPurple.Core.Projection.Ledger
import SignalPurple.Core.Projection.Shutdown
import SignalPurple.Core.Replay
import SignalPurple.Core.Session
import SignalPurple.Core.Connection
import SignalPurple.Core.Connection.Authority
import SignalPurple.Core.Groups
import SignalPurple.Core.Outbox
import SignalPurple.Core.Outbox.Durability
import SignalPurple.Core.Media
import SignalPurple.Core.MessageText
import SignalPurple.Core.Presentation
import SignalPurple.Core.Leave
import SignalPurple.Core.GroupSession
import SignalPurple.Adapter.Dispatch
import SignalPurple.Adapter.Poll
import SignalPurple.Core.Connection.Accounting
import SignalPurple.Adapter.Acceptance
import SignalPurple.System
import SignalPurple.Core.Outbox.Run
import SignalPurple.Core.Outbox.RetryLaw
import SignalPurple.Core.GroupOperations
import SignalPurple.Foundation.Mutex
import SignalPurple.Core.GroupOperations.Exclusion
import SignalPurple.Core.GroupOperations.Leaves
import SignalPurple.Core.GroupOperations.Authority
import SignalPurple.Core.Attachment
import SignalPurple.Core.Attachment.Accounting
import SignalPurple.Core.Attachment.Ffi
import SignalPurple.Core.Attachment.Worker
import SignalPurple.Foundation.Tickets
import SignalPurple.Core.Attachment.Custody
import SignalPurple.Core.Attachment.Reports
import SignalPurple.Core.Attachment.ReportLaw
import SignalPurple.Core.GroupSnapshot
import SignalPurple.Core.Connection.Events
import SignalPurple.Core.Connection.Snapshots
import SignalPurple.Core.Connection.SnapshotLaw
import SignalPurple.Adapter.BuddyList
import SignalPurple.Foundation.MarkSweep
import SignalPurple.Adapter.GroupChats
import SignalPurple.Adapter.Reconcile
import SignalPurple.Adapter.Effects
import SignalPurple.Adapter.GroupLeave
import SignalPurple.Adapter.IdentityNotices
import SignalPurple.Core.Timestamps
import SignalPurple.Core.Receipts
import SignalPurple.Core.Receipts.Law
import SignalPurple.Adapter.PendingReads
import SignalPurple.Adapter.PendingReads.Law
import SignalPurple.Adapter.GroupJoins
import SignalPurple.Core.Commands
import SignalPurple.Core.Commands.Order
import SignalPurple.Core.Attachment.Payloads
import SignalPurple.Core.Presentation.FinalEvent
import SignalPurple.Core.Media.GifGrammar
import SignalPurple.Adapter.InlineImage
import SignalPurple.Core.MessageText.Mentions
import SignalPurple.Core.Outbox.Classification
import SignalPurple.Adapter.BlistTree
import SignalPurple.Adapter.GroupTitles
import SignalPurple.Core.GroupLookup
import SignalPurple.Core.Replay.Order
import SignalPurple.Adapter.GroupChatSearch
import SignalPurple.Adapter.GroupIds
import SignalPurple.Core.Connection.Updates
import SignalPurple.Core.Commands.Failure
import SignalPurple.Core.Connection.UpdateLaw
import SignalPurple.Core.Attachment.Cancellation
import SignalPurple.Core.Attachment.CancellationLaw
import SignalPurple.Adapter.Transfers
import SignalPurple.Adapter.Transfers.Account
import SignalPurple.Adapter.Transfers.Close
import SignalPurple.Adapter.Transfers.Law
import SignalPurple.Core.Connection.Recovery

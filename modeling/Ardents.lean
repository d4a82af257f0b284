import Ardents.Crypto.Rekey
import Ardents.Crypto.Interleaving
import Ardents.Crypto.FailedDecrypt
import Ardents.Identity.Devices
import Ardents.Identity.BackOff
import Ardents.Identity.RoundTrip
import Ardents.Attachments.Rejected
import Ardents.Attachments.Quota
import Ardents.Attachments.Retrievable
import Ardents.Daemon.Expiry
import Ardents.Messaging.Resave
import Ardents.Messaging.Stranded
import Ardents.Messaging.Edited
import Ardents.Messaging.Everyone
import Ardents.Messaging.MessageBus
import Ardents.Inbox.Accept
import Ardents.Storage.Resolve
import Ardents.Groups.Rollback
import Ardents.Groups.Agreement
import Ardents.Groups.Escalation
import Ardents.Groups.Convergence
import Ardents.Groups.Invitation
import Ardents.Groups.Posting
import Ardents.Groups.Creator
import Ardents.Groups.Rotation
import Ardents.Groups.Lifecycle
import Ardents.Bootstrap.TrustChain
import Ardents.Bootstrap.Manager
import Ardents.Bootstrap.EnrollmentToken
import Ardents.Privacy.Overrides
import Ardents.Privacy.Concurrent
import Ardents.Rpc.AtMostOnce
import Ardents.Daemon.PolicyChange
import Ardents.Daemon.Retention
import Ardents.Daemon.BlobAccess
import Ardents.Daemon.Unloaded
import Ardents.Daemon.Wipe
import Ardents.Daemon.PeerAnswer

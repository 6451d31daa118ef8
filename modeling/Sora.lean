import Sora.Db.Schema
import Sora.Db.SequenceTrigger
import Sora.Db.Transaction
import Sora.Db.Append
import Sora.Db.SieveScripts
import Sora.ManageSieve.Wire
import Sora.ManageSieve.Session
import Sora.ManageSieve.Commands
import Sora.Go.Map
import Sora.Server.Net
import Sora.Server.ConnectionLimiter
import Sora.Proxy.PrelookupCache
import Sora.AdminApi.Middleware
import Sora.Proofs.SequenceCache
import Sora.Proofs.AppendCommit
import Sora.Proofs.InsertReturns
import Sora.Proofs.AppendHistory
import Sora.Proofs.CopyUids
import Sora.Proofs.SieveScripts
import Sora.Proofs.SessionAuth
import Sora.Proofs.SessionDefects
import Sora.Proofs.ConnectionLimiter
import Sora.Proofs.SequentialLimiter
import Sora.Proofs.PrelookupCache
import Sora.Proofs.AdminHosts
import Sora.Proofs.SessionStore
import Sora.Proofs.SessionRelease
import Sora.Pop3.Xclient
import Sora.Proofs.Xclient
import Sora.AdminApi.Accounts
import Sora.Proofs.AdminAccounts
import Sora.UserApi.Messages
import Sora.Proofs.Literals
import Sora.Proofs.UserMessages
import Sora.Proofs.CacheHistory
import Sora.Proofs.SaslPlain
import Sora.AdminApi.Maintenance
import Sora.Proofs.AdminMaintenance

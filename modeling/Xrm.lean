import Xrm.Library.Transition
import Xrm.Verification.DevicePool
import Xrm.Verification.InUse
import Xrm.Verification.CuTable
import Xrm.Verification.LoadAccounting
import Xrm.Verification.Conservation
import Xrm.Verification.References
import Xrm.Verification.SessionEnd
import Xrm.Verification.ClientAccounts
import Xrm.Verification.Records
import Xrm.Verification.Framing
import Xrm.Verification.Demands
import Xrm.Verification.Undo
import Xrm.Verification.GivingBack
import Xrm.Verification.PoolPolicy
import Xrm.Verification.LeastUsed
import Xrm.Verification.Versions
import Xrm.Verification.Placement
import Xrm.Verification.Ranges
import Xrm.Verification.RollBack
import Xrm.Verification.MakingRoom
import Xrm.Verification.LoadRequests
import Xrm.Verification.Retrying
import Xrm.Verification.Existence
import Xrm.Verification.Releases
import Xrm.Verification.Reset
import Xrm.Verification.Enforcing
import Xrm.Verification.Admission
import Xrm.Verification.Tables
import Xrm.Verification.VersionOrder
import Xrm.Verification.Reading
import Xrm.Verification.Building
import Xrm.Verification.MemBanks
import Xrm.Verification.Faults
import Xrm.Verification.Querying
import Xrm.Verification.Guarantee
import Xrm.Verification.Lists
import Xrm.Verification.Groups
import Xrm.Verification.Restoring
import Xrm.Verification.Delivering
import Xrm.Verification.Available
import Xrm.Verification.Pledges
import Xrm.Verification.Lasting
import Xrm.Verification.Seizing
import Xrm.Verification.Owners
import Xrm.Verification.AvailablePools
import Xrm.Verification.Responses

import Nstance.TenantState.Withdrawal
import Nstance.TenantState.Routing
import Nstance.TenantState.Retries
import Nstance.TenantState.Shape
import Nstance.Targets.Detachment
import Nstance.Targets.Barrier
import Nstance.Targets.LiveGroups
import Nstance.Operator.Rejection
import Nstance.Operator.LastShard
import Nstance.NAT.Addresses
import Nstance.NAT.Routes
import Nstance.NAT.Dependants
import Nstance.NAT.Scaling
import Nstance.Instances.Collection
import Nstance.Registration.OperatorNonce
import Nstance.Machines.Deletion
import Nstance.Tunnel.Exclusive
import Nstance.Pools.Adoption
import Nstance.Tenancy.Isolation
import Nstance.Tenancy.Placement
import Nstance.GC.Verified
import Nstance.SharedStorage
import Nstance.LocalFiles
import Nstance.Instances.Selection
import Nstance.PKI.CertLog
import Nstance.Configuration.Drift
import Nstance.Proxmox.Scheduler
import Nstance.Proxmox.VMID

import MCVirt.Python
import MCVirt.Storage.Lvm
import MCVirt.Storage.Backend
import MCVirt.HardDrive.Base
import MCVirt.HardDrive.Local
import MCVirt.HardDrive.Factory
import MCVirt.HardDrive.Validation
import MCVirt.HardDrive.Calls
import MCVirt.HardDrive.Cache
import MCVirt.HardDrive.Daemon

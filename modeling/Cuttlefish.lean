import Cuttlefish.Common.Result
import Cuttlefish.Common.Decimal
import Cuttlefish.Common.FlagParser
import Cuttlefish.Selector.InstanceRecord
import Cuttlefish.Selector.InstanceDatabase
import Cuttlefish.Selector.Registry
import Cuttlefish.Selector.Queries
import Cuttlefish.Selector.Lookup
import Cuttlefish.ServerCommand.SignalBridge
import Cuttlefish.ServerCommand.SignalPipe
import Cuttlefish.ServerCommand.DaemonFlag
import Cuttlefish.ServerCommand.InstanceArgs
import Cuttlefish.ServerCommand.AcloudCompat
import Cuttlefish.ServerCommand.Launch
import Cuttlefish.ServerCommand.Handle
import Cuttlefish.ServerCommand.Symlinks
import Cuttlefish.ServerCommand.SharedRegistry

import Pumpe.Model.Set
import Pumpe.Gate.State
import Pumpe.Gate.Sys
import Pumpe.Gate.Step
import Pumpe.Gate.Moves
import Pumpe.Gate.Wf
import Pumpe.Gate.Counter
import Pumpe.Gate.Direct
import Pumpe.Gate.Maps
import Pumpe.Service.Header
import Pumpe.Gate.Shutdown
import Pumpe.Gate.Guards
import Pumpe.Gate.Serial
import Pumpe.Gate.Lifecycle
import Pumpe.Gate.Drain
import Pumpe.Go.Encoding
import Pumpe.Go.Float
import Pumpe.Go.Strconv
import Pumpe.Go.Time
import Pumpe.Cmd.Settings
import Pumpe.Gate.WireGuard
import Pumpe.Gate.FanOut
import Pumpe.Gate.Outcomes
import Pumpe.Go.Strings
import Pumpe.Gate.WGConfigs
import Pumpe.Cmd.Startup
import Pumpe.Gate.Listing
import Pumpe.Service.Conn

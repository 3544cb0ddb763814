import EasyFlash.Bytes
import EasyFlash.Device
import EasyFlash.State
import EasyFlash.Cache
import EasyFlash.Save
import EasyFlash.Load
import EasyFlash.Update
import EasyFlash.Relocation
import EasyFlash.RoundTrip
import EasyFlash.Passes
import EasyFlash.Records
import EasyFlash.RecordRun
import EasyFlash.Store
import EasyFlash.Calls
import EasyFlash.Defaults
import EasyFlash.PowerCycle
import EasyFlash.Recovery
import EasyFlash.Healthy
import EasyFlash.BadBlocks

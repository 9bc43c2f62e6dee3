import L3afd.Go.Bytes
import L3afd.Go.Utf8
import L3afd.Go.Scan
import L3afd.Go.Path
import L3afd.Kf.Types
import L3afd.Kf.System
import L3afd.Kf.Calls
import L3afd.Kf.Process
import L3afd.Kf.Verify
import L3afd.Kf.Stop
import L3afd.Kf.Maps
import L3afd.Kf.Artifacts
import L3afd.Kf.Start
import L3afd.Kf.Lifecycle
import L3afd.Kf.Root
import L3afd.Kf.Instance
import L3afd.Kf.Chain
import L3afd.Kf.Files
import L3afd.Kf.Protocol

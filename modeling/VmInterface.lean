import VmInterface.Primitives
import VmInterface.Event
import VmInterface.Metrics
import VmInterface.MetricsFrame
import VmInterface.Call
import VmInterface.TxResult

import SvmNest.Word
import SvmNest.Vmcb
import SvmNest.Cpuid
import SvmNest.VmExit
import SvmNest.Segment
import SvmNest.MsrPermissions
import SvmNest.Guest
import SvmNest.Probe
import SvmNest.Dispatch
import SvmNest.NestedPageTables
import SvmNest.Nested
import SvmNest.Lifecycle.Machine
import SvmNest.Lifecycle.EachProcessor
import SvmNest.Lifecycle.Processor
import SvmNest.Lifecycle.AllProcessors
import SvmNest.Lifecycle.Runs
import SvmNest.Driver

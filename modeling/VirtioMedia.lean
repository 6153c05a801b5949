import VirtioMedia.Lib.Trace
import VirtioMedia.Driver.QueueAccounting
import VirtioMedia.Driver.PrepareOwnership
import VirtioMedia.Driver.LinkedQueues
import VirtioMedia.Driver.ImportQueue
import VirtioMedia.Driver.ConcurrentDqbuf
import VirtioMedia.Driver.ImportFences
import VirtioMedia.Driver.Mappings
import VirtioMedia.Driver.MappingBalance
import VirtioMedia.Driver.ChainLayout
import VirtioMedia.Driver.ExtCtrlsErrors
import VirtioMedia.Driver.KernelPointers
import VirtioMedia.Driver.MemoryReferences
import VirtioMedia.Driver.ReplyIndices
import VirtioMedia.Device.SimpleDelivery
import VirtioMedia.Device.CompletionFlags
import VirtioMedia.Device.ExtCtrls
import VirtioMedia.Device.UserptrRoundTrip
import VirtioMedia.Device.ProxyTables
import VirtioMedia.Device.ProxyPolling
import VirtioMedia.Device.ProxyAddresses
import VirtioMedia.Device.DecoderPending
import VirtioMedia.Device.IoctlRobust
import VirtioMedia.Device.SessionLifecycle
import VirtioMedia.Device.BufferSizes
import VirtioMedia.Device.DecoderStreaming
import VirtioMedia.Device.SingleOwner
import VirtioMedia.Ffmpeg.Delivery
import VirtioMedia.Ffmpeg.InputLedger
import VirtioMedia.Ffmpeg.EndOfStream
import VirtioMedia.Ffmpeg.Completions
import VirtioMedia.RoundTrip
import VirtioMedia.Device.ReqbufsAtomic
import VirtioMedia.Device.MmapSpace
import VirtioMedia.Driver.CommandVerdict
import VirtioMedia.Device.Selection
import VirtioMedia.Device.PendingFlush
import VirtioMedia.Driver.MappedRanges
import VirtioMedia.Lib.Merge
import VirtioMedia.Driver.ChainData
import VirtioMedia.Driver.ShadowBuffer
import VirtioMedia.Device.BackendKeeps
import VirtioMedia.Device.Formats
import VirtioMedia.Ffmpeg.Formats
import VirtioMedia.Ffmpeg.EventQueue
import VirtioMedia.Ffmpeg.Timestamps
import VirtioMedia.Lib.Intervals
import VirtioMedia.Ffmpeg.BuildOwned
import VirtioMedia.Ffmpeg.Sizeimage
import VirtioMedia.Ffmpeg.Termination
import VirtioMedia.Ffmpeg.FrameSizes
import VirtioMedia.Lib.Reader
import VirtioMedia.Device.HostileChains
import VirtioMedia.Driver.Poll
import VirtioMedia.Stack.CaptureFifo
import VirtioMedia.Stack.Forward
import VirtioMedia.Stack.CaptureMappings
import VirtioMedia.Driver.CommandQueue
import VirtioMedia.Driver.EventDispatch
import VirtioMedia.Stack.Sessions

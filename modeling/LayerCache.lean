import LayerCache.Run
import LayerCache.Wire.Postcard
import LayerCache.Wire.Ulid
import LayerCache.Activity
import LayerCache.Subject
import LayerCache.Multiplexer.Subscribe
import LayerCache.Multiplexer.Registry
import LayerCache.Multiplexer.Streams
import LayerCache.Stream
import LayerCache.Stream.Completion
import LayerCache.Multiplexer.Tasks
import LayerCache.WorkQueue

import HeapKit.Request.Answer
import HeapKit.Proofs.HashMap.Probing
import HeapKit.Proofs.HashMap.Sizing
import HeapKit.Proofs.HashMap.Table
import HeapKit.Proofs.Container.Mutation
import HeapKit.Proofs.HashMap.AssocList
import HeapKit.Proofs.HashMap.WellFormed
import HeapKit.Proofs.HashMap.Operations
import HeapKit.Proofs.HashMap.Keys
import HeapKit.Proofs.HashMap.Refinement
import HeapKit.Proofs.Memory.Bytes
import HeapKit.Proofs.Memory.Codec
import HeapKit.Proofs.Memory.Execution
import HeapKit.Proofs.Memory.Operations
import HeapKit.Proofs.Memory.SlotTable
import HeapKit.Proofs.HashMap.Representation
import HeapKit.Proofs.HashMap.Growth
import HeapKit.Proofs.Container.VectorStorage
import HeapKit.Proofs.Container.VectorRefinement
import HeapKit.Proofs.Memory.Chunks
import HeapKit.Proofs.Memory.Fresh
import HeapKit.Proofs.Memory.ChunkSource
import HeapKit.Proofs.Memory.Lockstep
import HeapKit.Proofs.Memory.Framing
import HeapKit.Proofs.Memory.Twins
import HeapKit.Proofs.Memory.Layout
import HeapKit.Proofs.Memory.TwinReleases
import HeapKit.Proofs.Memory.Requests
import HeapKit.Proofs.Memory.Regions
import HeapKit.Proofs.Memory.DetectorFrame
import HeapKit.Proofs.Memory.LeakCheck
import HeapKit.Proofs.Memory.Books
import HeapKit.Proofs.Memory.Frames
import HeapKit.Proofs.Memory.Releases
import HeapKit.Proofs.Memory.TypedRuns
import HeapKit.Proofs.HashMap.Failures
import HeapKit.Proofs.Container.VectorMapRefinement
import HeapKit.Proofs.Container.IndexInterval
import HeapKit.Proofs.Container.SliceViews
import HeapKit.Proofs.HashMap.Walks
import HeapKit.Proofs.Memory.InBand
import HeapKit.Proofs.Memory.FrameClasses
import HeapKit.Proofs.Memory.Scripts
import HeapKit.Proofs.Memory.TwinSteps
import HeapKit.Proofs.Memory.TwinFrees
import HeapKit.Proofs.Memory.TwinAllocations
import HeapKit.Proofs.Memory.BackendEquivalence
import HeapKit.Proofs.Memory.TrackedLedger
import HeapKit.Proofs.Memory.ReleaseFailures

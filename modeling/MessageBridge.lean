import MessageBridge.Bridge.Execution
import MessageBridge.Bridge.Introspection
import MessageBridge.Bridge.PendingClass
import MessageBridge.Bridge.Resolution
import MessageBridge.Space.Entry
import MessageBridge.Proofs.Bridge.Settling
import MessageBridge.Proofs.Bridge.CallShape
import MessageBridge.Proofs.Bridge.Frames
import MessageBridge.Proofs.Bridge.Failure
import MessageBridge.Proofs.Bridge.Transparency
import MessageBridge.Proofs.Encoding.TypeString
import MessageBridge.Proofs.Encoding.TypeTree
import MessageBridge.Proofs.Space.Hierarchy
import MessageBridge.Proofs.Space.Coherence
import MessageBridge.Proofs.Marshal.RoundTrip
import MessageBridge.Proofs.Marshal.Pointees
import MessageBridge.Proofs.Bridge.Construction
import MessageBridge.Proofs.Bridge.Access
import MessageBridge.Proofs.Bridge.Cells
import MessageBridge.Proofs.Space.Lineage
import MessageBridge.Proofs.Encoding.Tokens
import MessageBridge.Proofs.Encoding.FieldNames
import MessageBridge.Proofs.Bridge.Identity
import MessageBridge.Proofs.Bridge.Lifecycle
import MessageBridge.Proofs.Bridge.Catalogue
import MessageBridge.Proofs.Bridge.Circles
import MessageBridge.Proofs.Bridge.Recognition
import MessageBridge.Proofs.Space.Founders
import MessageBridge.Proofs.Log.Directives
import MessageBridge.Proofs.Bridge.SuperChain
import MessageBridge.Proofs.Bridge.Interning
import MessageBridge.Proofs.Encoding.CLayout
import MessageBridge.Proofs.Space.Conformance
import MessageBridge.Proofs.Bridge.Rejection
import MessageBridge.Proofs.Bridge.Reparenting
import MessageBridge.Proofs.Act.Relates
import MessageBridge.Proofs.Bridge.DirectCall
import MessageBridge.Proofs.Space.Sizes
import MessageBridge.Proofs.Encoding.Drafted
import MessageBridge.Proofs.Bridge.DefaultAlignment
import MessageBridge.Proofs.Native.Words
import MessageBridge.Proofs.Space.Texts
import MessageBridge.Proofs.Bridge.Exceptions
import MessageBridge.Proofs.Bridge.Depth
import MessageBridge.Proofs.Bridge.Reports
import MessageBridge.Proofs.Encoding.Canonical
import MessageBridge.Proofs.Bridge.Resolution
import MessageBridge.Proofs.Bridge.Sources
import MessageBridge.Proofs.Bridge.Copies
import MessageBridge.Proofs.Bridge.Lending
import MessageBridge.Proofs.Encoding.ReadInPlace
import MessageBridge.Proofs.Bridge.ArgumentTypes

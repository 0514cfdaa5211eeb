import JavaTypes.Text.Quoted
import JavaTypes.ClassName.Known
import JavaTypes.ClassName.Parse
import JavaTypes.ClassName.Order
import JavaTypes.ClassName.Navigation
import JavaTypes.TypeName.Nodes
import JavaTypes.TypeName.Dimensions
import JavaTypes.TypeName.Render
import JavaTypes.Json.TypeName
import JavaTypes.ClassRef.Parse
import JavaTypes.Resolved
import JavaTypes.TypeName.Build
import JavaTypes.Model.Table
import JavaTypes.Model.Arena
import JavaTypes.Model.Catalog
import JavaTypes.Model.Construct
import JavaTypes.Settings.File
import JavaTypes.TypeName.Bounds
import JavaTypes.Model.Expand
import JavaTypes.Model.Reach
import JavaTypes.Proofs.Conversion.StepOutcome
import JavaTypes.Proofs.Conversion.Naming
import JavaTypes.Proofs.Conversion.Monotone
import JavaTypes.Proofs.Conversion.Run
import JavaTypes.Proofs.Conversion.Memory
import JavaTypes.Proofs.Conversion.Termination
import JavaTypes.Proofs.Conversion.Similarity
import JavaTypes.Proofs.Conversion.Simulation
import JavaTypes.Proofs.Conversion.Lockstep
import JavaTypes.Proofs.Conversion.Invariant
import JavaTypes.Proofs.Conversion.Validity
import JavaTypes.Proofs.Conversion.NormalForm
import JavaTypes.Proofs.TypeName.Spread
import JavaTypes.Proofs.Conversion.Conventions
import JavaTypes.Proofs.Conversion.Exploration
import JavaTypes.Proofs.Conversion.Success
import JavaTypes.Proofs.Conversion.References
import JavaTypes.Proofs.Conversion.Entries
import JavaTypes.Proofs.Conversion.Handles
import JavaTypes.Proofs.Conversion.Calls
import JavaTypes.Proofs.Conversion.Resolution
import JavaTypes.Proofs.Conversion.Events
import JavaTypes.Proofs.Conversion.Enclosure
import JavaTypes.Proofs.Conversion.Outline
import JavaTypes.Proofs.Conversion.Grounded
import JavaTypes.Proofs.Conversion.Expansion
import JavaTypes.Proofs.Conversion.Composite
import JavaTypes.Proofs.Conversion.Below
import JavaTypes.Proofs.Conversion.MemoFree
import JavaTypes.Proofs.ClassName.BinaryName
import JavaTypes.Proofs.ClassName.CanonicalName
import JavaTypes.Proofs.ClassName.Refusal
import JavaTypes.Proofs.ClassName.Navigation
import JavaTypes.Proofs.ClassName.Order
import JavaTypes.Proofs.ClassRef.Reading
import JavaTypes.Proofs.ClassRef.Descriptor
import JavaTypes.Proofs.ClassRef.LoadedName
import JavaTypes.Proofs.ClassRef.Resolved
import JavaTypes.Proofs.ClassRef.Named
import JavaTypes.Proofs.ClassRef.Grammar
import JavaTypes.Proofs.Json.Decoding
import JavaTypes.Proofs.Json.RoundTrip
import JavaTypes.Proofs.TypeName.Obtained
import JavaTypes.Proofs.TypeName.Walk
import JavaTypes.Proofs.TypeName.Unambiguous
import JavaTypes.Proofs.Arena.Growth
import JavaTypes.Proofs.Arena.Session
import JavaTypes.Proofs.Arena.Orders
import JavaTypes.Proofs.Arena.Allowance
import JavaTypes.Proofs.Arena.Frame
import JavaTypes.Proofs.Arena.Meaning
import JavaTypes.Proofs.Arena.Agreement
import JavaTypes.Proofs.Arena.Construction
import JavaTypes.Proofs.Arena.InRange
import JavaTypes.Proofs.Arena.Persistence
import JavaTypes.Proofs.Arena.Interning
import JavaTypes.Proofs.Arena.Catalog
import JavaTypes.Proofs.Conversion.Rollback
import JavaTypes.Proofs.TypeName.Peeling

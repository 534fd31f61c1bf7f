import Lewsql.DiskManager.PosixDiskManager
import Lewsql.DiskManager.DiskRuns
import Lewsql.DiskManager.Operation
import Lewsql.DiskManager.ManagerRuns
import Lewsql.DiskManager.PagedStore
import Lewsql.DiskManager.Refinement
import Lewsql.DiskManager.Footprint
import Lewsql.DiskManager.Changes
import Lewsql.DiskManager.LoadedDisks
import Lewsql.DiskManager.Bounds
import Lewsql.DiskManager.Rules
import Lewsql.DiskManager.Phases
import Lewsql.DiskManager.Courses
import Lewsql.DiskManager.Alignment
import Lewsql.DiskManager.AllOrNothing
import Lewsql.DiskManager.WholePages
import Lewsql.DiskManager.Durability
import Lewsql.DiskManager.Descriptors
import Lewsql.DiskManager.Managers
import Lewsql.DiskManager.ExclusiveCreation
import Lewsql.DiskManager.Interference
import Lewsql.DiskManager.SharedPages
import Lewsql.DiskManager.Apart
import Lewsql.DiskManager.Extremes
import Lewsql.DiskManager.Extending
import Lewsql.DiskManager.Propagation
import Lewsql.DiskManager.Moves
import Lewsql.Compiler.Lexer
import Lewsql.Compiler.Agreement
import Lewsql.Compiler.Positions
import Lewsql.Compiler.PutBack
import Lewsql.Compiler.EndOfTokens
import Lewsql.Compiler.TokenLoop
import Lewsql.Driver.Run
import Lewsql.BufferManager.BufferManager
import Lewsql.Organizers.PinProtocol
import Lewsql.Organizers.PageAccess
import Lewsql.Organizers.PageCopy
import Lewsql.Organizers.HeapMachine
import Lewsql.Organizers.NewHeap
import Lewsql.Organizers.Reopening
import Lewsql.Organizers.FreeList
import Lewsql.Organizers.FullList
import Lewsql.Organizers.FullListAppend
import Lewsql.Organizers.Slots
import Lewsql.Organizers.StoredTuples
import Lewsql.Organizers.TupleExtent
import Lewsql.Organizers.HeapLayout
import Lewsql.DiskManager.InStep

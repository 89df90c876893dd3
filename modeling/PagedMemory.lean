import PagedMemory.Coremap.Storage
import PagedMemory.Frames.Pool
import PagedMemory.Machine
import PagedMemory.Proofs.Coremap.Clearing
import PagedMemory.Proofs.Coremap.Disciplines
import PagedMemory.Proofs.Coremap.Evictions
import PagedMemory.Proofs.Coremap.Interleaving
import PagedMemory.Proofs.Coremap.LockOrder
import PagedMemory.Proofs.Coremap.Placement
import PagedMemory.Proofs.Coremap.Releases
import PagedMemory.Proofs.Coremap.Representation
import PagedMemory.Proofs.Coremap.Storage
import PagedMemory.Proofs.Machine.Answers
import PagedMemory.Proofs.Machine.Coherence
import PagedMemory.Proofs.Machine.Consistency
import PagedMemory.Proofs.Machine.Exhaustion
import PagedMemory.Proofs.Machine.Handover
import PagedMemory.Proofs.Machine.Heap
import PagedMemory.Proofs.Machine.Isolation
import PagedMemory.Proofs.Machine.Release
import PagedMemory.Proofs.Machine.Stored
import PagedMemory.Proofs.Machine.TableMap
import PagedMemory.Proofs.Paging.Words
import PagedMemory.Proofs.Space.Pressure
import PagedMemory.Proofs.Space.Regions
import PagedMemory.Proofs.Threads.Publication
import PagedMemory.Proofs.Threads.Sharing
import PagedMemory.Proofs.Tlb.Masking
import PagedMemory.Proofs.Tlb.Misses
import PagedMemory.Runs
import PagedMemory.Space.Text
import PagedMemory.Threads.Run

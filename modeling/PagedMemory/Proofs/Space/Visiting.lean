import Mathlib.Data.List.Nodup
import PagedMemory.Proofs.Operation.Ends
import PagedMemory.Proofs.Paging.Views
import PagedMemory.Space.Lifecycle

/-!
# Visiting tables

A loop over the entries of a directory or of a table keeps an invariant of the
indices that are still to come. Every index comes once, and a visit is made only
where an entry is present at that moment.
-/

namespace PagedMemory

theorem DirectoryIndex.mem_all (i : DirectoryIndex) : i ∈ DirectoryIndex.all :=
  List.mem_map.mpr ⟨i.toFin, List.mem_finRange _, rfl⟩

theorem DirectoryIndex.nodup_all : DirectoryIndex.all.Nodup :=
  (List.nodup_finRange 1024).map fun _ _ same => congrArg DirectoryIndex.toFin same

theorem DirectoryIndex.length_all : DirectoryIndex.all.length = 1024 :=
  (List.length_map _).trans List.length_finRange

theorem TableIndex.mem_all (i : TableIndex) : i ∈ TableIndex.all :=
  List.mem_map.mpr ⟨i.toFin, List.mem_finRange _, rfl⟩

theorem TableIndex.nodup_all : TableIndex.all.Nodup :=
  (List.nodup_finRange 1024).map fun _ _ same => congrArg TableIndex.toFin same

theorem TableIndex.length_all : TableIndex.all.length = 1024 :=
  (List.length_map _).trans List.length_finRange

namespace AddressSpace

variable {ε σ : Type} {mem : Memory σ} {left : Nat} {post : Post ε (Memory σ) Unit}

theorem ends_eachTable {directory : Frame}
    {visit : DirectoryIndex → Frame → Operation ε (Memory σ) Unit}
    (invariant : List DirectoryIndex → Memory σ → Nat → Prop)
    (start : invariant DirectoryIndex.all mem left)
    (refused : ∀ todo mem left, invariant todo mem left →
      ¬ mem.ram.Admitted directory → ∀ cause, post.panic cause mem)
    (present : ∀ i todo mem left table, invariant (i :: todo) mem left →
      mem.ram.table? directory i = some table →
        (visit i table).Ends left mem ⟨fun _ => invariant todo, post.error, post.panic⟩)
    (absent : ∀ i todo mem left, invariant (i :: todo) mem left →
      mem.ram.table? directory i = none → invariant todo mem left)
    (finish : ∀ mem left, invariant [] mem left → post.value () mem left) :
    (eachTable directory visit).Ends left mem post := by
  unfold eachTable
  generalize DirectoryIndex.all = every at start ⊢
  refine Operation.ends_bind.mpr (Memory.ends_onRam.mpr (Ram.ends_allowFrame ?_ fun _ => ?_))
  · exact refused _ mem left start
  refine Operation.Ends.forM invariant ?_ finish start
  intro i todo mem left kept
  refine Operation.ends_bind.mpr (Memory.ends_onRam.mpr (Ram.ends_readDirectory ?_ fun _ => ?_))
  · exact refused _ mem left kept
  rcases named : mem.ram.table? directory i with _ | table
  · rw [Ram.table?] at named
    simp only [named]
    exact Operation.ends_pure.mpr (absent i todo mem left kept named)
  · have visited := present i todo mem left table kept named
    rw [Ram.table?] at named
    simp only [named]
    exact visited

theorem ends_eachMapping {table : Frame}
    {visit : TableIndex → Frame → Operation ε (Memory σ) Unit}
    (invariant : List TableIndex → Memory σ → Nat → Prop)
    (start : invariant TableIndex.all mem left)
    (refused : ∀ todo mem left, invariant todo mem left →
      ¬ mem.ram.Admitted table → ∀ cause, post.panic cause mem)
    (present : ∀ k todo mem left frame, invariant (k :: todo) mem left →
      mem.ram.mapping? table k = some frame →
        (visit k frame).Ends left mem ⟨fun _ => invariant todo, post.error, post.panic⟩)
    (absent : ∀ k todo mem left, invariant (k :: todo) mem left →
      mem.ram.mapping? table k = none → invariant todo mem left)
    (finish : ∀ mem left, invariant [] mem left → post.value () mem left) :
    (eachMapping table visit).Ends left mem post := by
  unfold eachMapping
  generalize TableIndex.all = every at start ⊢
  refine Operation.ends_bind.mpr (Memory.ends_onRam.mpr (Ram.ends_allowFrame ?_ fun _ => ?_))
  · exact refused _ mem left start
  refine Operation.Ends.forM invariant ?_ finish start
  intro k todo mem left kept
  refine Operation.ends_bind.mpr (Memory.ends_onRam.mpr (Ram.ends_readTable ?_ ?_))
  · exact refused _ mem left kept
  rcases mapped : mem.ram.mapping? table k with _ | frame
  · rw [Ram.mapping?] at mapped
    simp only [mapped]
    exact Operation.ends_pure.mpr (absent k todo mem left kept mapped)
  · have visited := present k todo mem left frame kept mapped
    rw [Ram.mapping?] at mapped
    simp only [mapped]
    exact visited

end AddressSpace

end PagedMemory

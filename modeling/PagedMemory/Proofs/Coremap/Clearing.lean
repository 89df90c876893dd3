import PagedMemory.Proofs.Coremap.Representation

/-!
# Clearing a run ends

The loop that clears a run may go back. Where two blocks carry one identity, the second
seems to begin where the first does, and the loop goes on behind what it has freed there.
But a frame that it has freed it does not free again, and between two blocks it only goes
forward. So the steps that a claim allows are enough, however often the counter of
identities has started over.
-/

namespace PagedMemory.Coremap

open Operation

variable {ε π : Type} {frames : Array Descriptor} {c : Coremap π} {left : Nat}

/-- How many frames are not free. -/
def occupied (frames : Array Descriptor) : Nat :=
  frames.toList.countP fun descriptor => !descriptor.isFree

theorem occupied_le_size (frames : Array Descriptor) : occupied frames ≤ frames.size :=
  List.countP_le_length

theorem occupied_setIfInBounds {i : Nat} {block : BlockId}
    (carried : carries frames block i = true) :
    occupied (frames.setIfInBounds i .free) + 1 = occupied frames := by
  obtain ⟨descriptor, recorded, same⟩ := (Option.any_eq_true _ _).mp carried
  obtain ⟨inRange, rfl⟩ := Array.getElem?_eq_some_iff.mp recorded
  have notFree : (!frames[i].isFree) = true := by
    rcases isDescriptor : frames[i] with _ | _ | _
    · simp [isDescriptor, Descriptor.block] at same
    · rfl
    · rfl
  have counted : 0 < occupied frames :=
    List.countP_pos_iff.mpr ⟨frames[i], by simp, notFree⟩
  have freed : occupied (frames.setIfInBounds i .free) = occupied frames - 1 := by
    unfold occupied
    rw [Array.toList_setIfInBounds, List.countP_set (by simpa using inRange), Array.getElem_toList,
      if_pos notFree]
    rfl
  omega

/-- A block that is freed had as many frames as it says. -/
theorem ends_vacate_occupied (base : Frame) (block : BlockId) (size : Nat) :
    (vacate base block size : Operation ε (Coremap π) Unit).Ends left c
      ⟨fun _ t _ => occupied t.frames + size = occupied c.frames, fun _ _ _ => False,
        fun _ _ => True⟩ := by
  have each (index : Nat) (c : Coremap π) :
      (vacateFrom base block size index : Operation ε (Coremap π) Unit).Ends left c
        ⟨fun _ t _ => occupied t.frames + size = occupied c.frames, fun _ _ _ => False,
          fun _ _ => True⟩ := by
    induction size generalizing index c with
    | zero => exact ends_pure.mpr rfl
    | succ size ih =>
      simp only [vacateFrom, ends_bind, ends_read, ends_require, ends_change]
      split
      · next carried =>
        have freed := occupied_setIfInBounds carried
        refine (ih (index + 1) _).mono ?_ (fun _ _ _ => id) fun _ _ => id
        intro _ t _ rest
        dsimp only at rest
        omega
      · trivial
  simp only [vacate, ends_bind, ends_read, ends_require]
  split
  · exact each _ c
  · trivial

variable [EvictionPolicy π]

theorem ends_evictBlock_occupied (index : Nat) (owner : Owner) (block : BlockId) (size : Nat) :
    (evictBlock index owner block size : Operation ε (Coremap π) Nat).Ends left c
      ⟨fun _ t _ => occupied t.frames + size = occupied c.frames, fun _ _ _ => False,
        fun _ _ => True⟩ := by
  simp only [evictBlock, ends_bind, ends_read, ends_surrender, ends_log, ends_pure]
  split
  · exact ends_vacate_occupied _ _ _
  · trivial

/-- How many steps the loop can still take at most that has come to `index`. -/
def clearingLeft (frames : Array Descriptor) (stop index : Nat) : Nat :=
  occupied frames * (stop + 1) + (stop - index)

theorem clearingLeft_le (frames : Array Descriptor) (stop index : Nat) :
    clearingLeft frames stop index ≤ clearingSteps frames.size stop :=
  calc
    clearingLeft frames stop index ≤ frames.size * (stop + 1) + (stop + 1) :=
      Nat.add_le_add (Nat.mul_le_mul_right _ (occupied_le_size frames)) (by omega)
    _ = clearingSteps frames.size stop := (Nat.succ_mul _ _).symm

/-- Wherever the loop goes on once it has freed a frame, it is nearer to its end. -/
theorem clearingLeft_lt {frames' : Array Descriptor} {stop index : Nat}
    (freed : occupied frames' < occupied frames) (next : Nat) :
    clearingLeft frames' stop next < clearingLeft frames stop index :=
  calc
    clearingLeft frames' stop next < occupied frames' * (stop + 1) + (stop + 1) :=
      Nat.add_lt_add_left (by omega) _
    _ = (occupied frames' + 1) * (stop + 1) := (Nat.succ_mul _ _).symm
    _ ≤ occupied frames * (stop + 1) := Nat.mul_le_mul_right _ freed
    _ ≤ clearingLeft frames stop index := Nat.le_add_right _ _

/-- How many steps are allowed does not matter as long as they are enough. -/
theorem run_evictRun_congr {locks : CoremapLocks} (guarded : c.Guarded locks)
    {stop index fuel fuel' : Nat} (enough : clearingLeft c.frames stop index ≤ fuel)
    (enough' : clearingLeft c.frames stop index ≤ fuel') :
    (evictRun stop fuel index : Operation ε (Coremap π) Unit).run c =
      (evictRun stop fuel' index).run c := by
  induction fuel generalizing c index fuel' with
  | zero =>
    have done : ¬ index < stop := by
      unfold clearingLeft at enough
      omega
    cases fuel' with
    | zero => rfl
    | succ fuel' => rw [evictRun, evictRun, if_neg done]
  | succ fuel ih =>
    by_cases more : index < stop
    · obtain ⟨fuel', rfl⟩ : ∃ n, fuel' = n + 1 := by
        refine ⟨fuel' - 1, ?_⟩
        unfold clearingLeft at enough'
        omega
      rw [evictRun, evictRun, if_pos more, if_pos more, run_read_bind, run_read_bind]
      have passed : clearingLeft c.frames stop (index + 1) < clearingLeft c.frames stop index :=
        Nat.add_lt_add_left (by omega) _
      split
      · next owner block size recorded =>
        have evicts (left : Nat) :
            (evictBlock index owner block size : Operation ε (Coremap π) Nat).Ends left c _ :=
          ends_evictBlock_occupied index owner block size
        rcases evicted : (evictBlock index owner block size :
            Operation ε (Coremap π) Nat).run c with ⟨next | e | cause, t, shown⟩
        · have freed := (evicts _).of_value evicted (Nat.le_refl _)
          have positive := guarded.sized index owner block size recorded
          have nearer : clearingLeft t.frames stop next < clearingLeft c.frames stop index :=
            clearingLeft_lt (by omega) next
          have kept : t.Guarded locks :=
            ((preserves_evictBlock index owner block size).ends guarded).of_value evicted
              (Nat.le_refl _)
          rw [run_bind_of_value evicted, run_bind_of_value evicted,
            ih kept (by omega) (by omega : _ ≤ fuel')]
        · exact ((evicts _).of_error evicted (Nat.le_refl _)).elim
        · rw [run_bind_of_panic evicted, run_bind_of_panic evicted]
      · exact ih guarded (by omega) (by omega)
    · cases fuel' with
      | zero => rw [evictRun, evictRun, if_neg more]
      | succ fuel' => rw [evictRun, evictRun, if_neg more, if_neg more]

/-- After any calls, also once identities have come round again, the loop that clears a
run ends by itself: it would not go on if a claim allowed it more steps. -/
theorem run_evictRun_afterCalls {layout : RamLayout} {policy : π} {ram ram' : Ram}
    {start : Coremap π} {shown : List Event}
    (built : (bootstrap layout policy).run ram = ⟨.value start, ram', shown⟩)
    (calls : List (Option Context × Call)) {m : Coremap π}
    (same : m.frames = (afterCalls start calls).frames) (stop index more : Nat) :
    (evictRun stop (clearingSteps m.frames.size stop + more) index :
        Operation ε (Coremap π) Unit).run m =
      (evictRun stop (clearingSteps m.frames.size stop) index).run m := by
  have guarded := guarded_of_built built calls
  have guarded : m.Guarded m.locks := ⟨rfl, same ▸ guarded.few, same ▸ guarded.sized⟩
  have enough := clearingLeft_le m.frames stop index
  exact run_evictRun_congr guarded (Nat.le_trans enough (Nat.le_add_right _ _)) enough

end PagedMemory.Coremap

/-
A constructed queue is a FIFO package.

What a constructor accepts is what the simulations ask for: a capacity that is not
zero, and for the linked queue a node order that is a permutation of its nodes.
-/
import CpuPrefetch.Lib.Fallible
import CpuPrefetch.Proofs.Queue.Linked
import CpuPrefetch.Proofs.Queue.Ring
import CpuPrefetch.Workload.Packages

namespace CpuPrefetch.Queue

open Fallible

theorem checkedAdd_ok {left right sum : Nat} (h : checkedAdd left right = .ok sum) :
    sum = left + right := by
  unfold checkedAdd at h
  split at h
  · cases h
  · exact (Except.ok.inj h).symm

/-! ### The ring -/

theorem RingSpscQueue.make_ok {capacity cacheLineBytes : Nat} {queue : RingSpscQueue Nat}
    (h : make capacity cacheLineBytes = .ok queue) :
    1 ≤ capacity ∧ queue = initial capacity := by
  unfold make at h
  obtain ⟨_, -, h⟩ := bind_ok h
  obtain ⟨hzero, h⟩ := guard_ok h
  obtain ⟨_, -, h⟩ := bind_ok h
  obtain ⟨_, -, h⟩ := bind_ok h
  exact ⟨Nat.pos_of_ne_zero hzero, (Except.ok.inj h).symm⟩

/-! ### The linked queue -/

namespace LinkedSpscQueue

/-- What the loop has accepted is new, in range and free of repetitions. -/
theorem checkOrder_ok {nodeCount : Nat} {order seen : List Nat}
    (h : checkOrder nodeCount seen order = .ok ()) :
    order.Nodup ∧ ∀ index ∈ order, index < nodeCount ∧ index ∉ seen := by
  induction order generalizing seen with
  | nil => exact ⟨List.nodup_nil, nofun⟩
  | cons index rest ih =>
      unfold checkOrder at h
      split at h
      · cases h
      · rename_i hfine
        obtain ⟨hnodup, hrest⟩ := ih h
        have hindex : index < nodeCount ∧ index ∉ seen := by simpa using hfine
        have hnew : index ∉ rest := by
          intro hmem
          exact (hrest index hmem).2 List.mem_cons_self
        refine ⟨List.nodup_cons.mpr ⟨hnew, hnodup⟩, ?_⟩
        intro other hother
        rcases List.mem_cons.mp hother with rfl | hmem
        · exact hindex
        · obtain ⟨hlt, hnot⟩ := hrest other hmem
          exact ⟨hlt, fun hseen => hnot (List.mem_cons_of_mem index hseen)⟩

/-- A checked order of all nodes is a permutation of them. -/
theorem checkOrder_perm {nodeCount : Nat} {order : List Nat}
    (h : checkOrder nodeCount [] order = .ok ()) (hlength : order.length = nodeCount) :
    order.Perm (List.range nodeCount) := by
  obtain ⟨hnodup, hlt⟩ := checkOrder_ok h
  have hsubset : order ⊆ List.range nodeCount := by
    intro index hmem
    exact List.mem_range.mpr (hlt index hmem).1
  refine (List.subperm_of_subset hnodup hsubset).perm_of_length_le ?_
  rw [List.length_range, hlength]

theorem make_ok {capacity cacheLineBytes arenaAlignmentBytes : Nat} {nodeOrder : List Nat}
    {queue : LinkedSpscQueue Nat}
    (h : make capacity cacheLineBytes arenaAlignmentBytes nodeOrder = .ok queue) :
    1 ≤ capacity ∧ nodeOrder.Perm (List.range (capacity + 1)) ∧
      queue = initial capacity nodeOrder := by
  unfold make at h
  obtain ⟨_, -, h⟩ := bind_ok h
  obtain ⟨_, -, h⟩ := bind_ok h
  obtain ⟨-, h⟩ := guard_ok h
  obtain ⟨hzero, h⟩ := guard_ok h
  obtain ⟨nodeCount, hcount, h⟩ := bind_ok h
  obtain rfl := checkedAdd_ok hcount
  obtain ⟨hlength, h⟩ := guard_ok h
  obtain ⟨_, horder, h⟩ := bind_ok h
  obtain ⟨_, -, h⟩ := bind_ok h
  obtain ⟨_, -, h⟩ := bind_ok h
  obtain ⟨_, -, h⟩ := bind_ok h
  obtain ⟨_, -, h⟩ := bind_ok h
  exact ⟨Nat.pos_of_ne_zero hzero, checkOrder_perm horder (not_not.mp hlength),
    (Except.ok.inj h).symm⟩

end LinkedSpscQueue

end CpuPrefetch.Queue

namespace CpuPrefetch.Workload

open Queue (Package PackageSim RingSpscQueue LinkedSpscQueue)

/-- **A prepared package is a bounded FIFO that observes its boundaries in order.** -/
theorem PreparedPackage.packageSim {P : Package Nat} {queue : P.State}
    (h : PreparedPackage P queue) : ∃ capacity, Nonempty (PackageSim P capacity queue) := by
  cases h with
  | ring capacity cacheLineBytes queue hmake =>
      obtain ⟨hcap, rfl⟩ := RingSpscQueue.make_ok hmake
      exact ⟨capacity, ⟨RingSpscQueue.packageSim hcap⟩⟩
  | linked capacity cacheLineBytes arenaAlignmentBytes nodeOrder queue hmake =>
      obtain ⟨hcap, horder, rfl⟩ := LinkedSpscQueue.make_ok hmake
      exact ⟨capacity, ⟨LinkedSpscQueue.packageSim hcap horder⟩⟩

end CpuPrefetch.Workload

import Mathlib.Data.List.Basic
import Mathlib.Logic.Function.Basic

/-!
# Assignments to cells

Cells hold values, as a function of their address. A list of assignments is carried
out one after another (`assign`).

* `assign_of_notMem`: it changes only the cells that it names.
* `assign_of_mem`: if it names each cell once, each gets its value.
* `assign_comm`: two lists that name different cells commute.
* `map_assign_block`: a block of successive cells then holds the values of the block.
-/

namespace Cells

variable {A V : Type*} [DecidableEq A]

/-- The cells after the assignments. -/
def assign (f : A → V) (ws : List (A × V)) : A → V :=
  ws.foldl (fun f w => Function.update f w.1 w.2) f

variable {f g : A → V} {ws ws' : List (A × V)} {a : A}

@[simp] theorem assign_nil : assign f [] = f := rfl

@[simp] theorem assign_cons (w : A × V) :
    assign f (w :: ws) = assign (Function.update f w.1 w.2) ws := rfl

theorem assign_append : assign f (ws ++ ws') = assign (assign f ws) ws' := List.foldl_append

/-- What a cell holds afterwards depends only on what it held. -/
theorem assign_congr (h : f a = g a) : assign f ws a = assign g ws a := by
  induction ws generalizing f g with
  | nil => exact h
  | cons w ws ih =>
    refine ih ?_
    change Function.update f w.1 w.2 a = Function.update g w.1 w.2 a
    rw [Function.update_apply, Function.update_apply, h]

theorem assign_of_notMem (h : a ∉ ws.map Prod.fst) : assign f ws a = f a := by
  induction ws generalizing f with
  | nil => rfl
  | cons w ws ih =>
    rw [List.map_cons, List.mem_cons, not_or] at h
    rw [assign_cons, ih h.2, Function.update_of_ne h.1]

theorem assign_of_mem {v : V} (hnodup : (ws.map Prod.fst).Nodup) (h : (a, v) ∈ ws) :
    assign f ws a = v := by
  induction ws generalizing f with
  | nil => cases h
  | cons w ws ih =>
    rw [List.map_cons, List.nodup_cons] at hnodup
    rcases List.mem_cons.1 h with rfl | h
    · rw [assign_cons, assign_of_notMem hnodup.1, Function.update_self]
    · exact ih hnodup.2 h

/-- Where the other list assigns nothing, the order does not matter. -/
theorem assign_assign_of_notMem (h : a ∉ ws'.map Prod.fst) :
    assign (assign f ws) ws' a = assign (assign f ws') ws a := by
  rw [assign_of_notMem h]
  exact assign_congr (assign_of_notMem h).symm

theorem assign_comm (h : ∀ a ∈ ws.map Prod.fst, a ∉ ws'.map Prod.fst) :
    assign (assign f ws) ws' = assign (assign f ws') ws := by
  funext a
  by_cases ha : a ∈ ws.map Prod.fst
  · exact assign_assign_of_notMem (h a ha)
  · exact (assign_assign_of_notMem ha).symm

/-! ## Successive cells -/

/-- The assignment of values to successive cells. -/
def block (o : ℕ) (vs : List V) : List (ℕ × V) := vs.mapIdx fun k v => (o + k, v)

variable {f : ℕ → V} {o : ℕ} {vs : List V}

theorem keys_block : (block o vs).map Prod.fst = List.range' o vs.length :=
  List.ext_getElem (by simp [block]) fun k _ _ => by simp [block]

theorem values_block : (block o vs).map Prod.snd = vs :=
  List.ext_getElem (by simp [block]) fun k _ _ => by simp [block]

theorem map_block {W : Type*} (h : V → W) :
    (block o vs).map (fun w => (w.1, h w.2)) = block o (vs.map h) :=
  List.ext_getElem (by simp [block]) fun k _ _ => by simp [block]

theorem block_injective (o : ℕ) : Function.Injective (block (V := V) o) := by
  intro vs vs' h
  have hvalues : (block o vs).map Prod.snd = vs := values_block
  rw [← hvalues, h, values_block]

theorem nodup_keys_block : ((block o vs).map Prod.fst).Nodup := by
  rw [keys_block]
  exact List.nodup_range'

theorem assign_block_of_lt {k : ℕ} (hk : k < vs.length) :
    assign f (block o vs) (o + k) = vs[k] := by
  refine assign_of_mem nodup_keys_block ?_
  rw [block, List.mem_mapIdx]
  exact ⟨k, hk, rfl⟩

/-- The values of the cells, afterwards. -/
theorem map_assign_block : ((List.range vs.length).map fun k => assign f (block o vs) (o + k)) =
    vs := by
  refine List.ext_getElem (by simp) fun k hk hk' => ?_
  rw [List.getElem_map, List.getElem_range, assign_block_of_lt hk']

/-- Successive blocks make one block. -/
theorem block_append (vs' : List V) :
    block o (vs ++ vs') = block o vs ++ block (o + vs.length) vs' := by
  rw [block, List.mapIdx_append, block, block]
  simp only [Nat.add_assoc, Nat.add_comm vs.length]

end Cells

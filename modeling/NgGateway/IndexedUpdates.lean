import Mathlib.Data.List.Nodup

/-!
A run of in-place updates of a vector. If no two name the same cell, a cell is changed by its own
update or not at all.
-/

namespace NgGateway.IndexedUpdates

variable {α β : Type*}

def applyUpdates (key : α → Nat) (update : α → β → β) (cells : List β) (l : List α) : List β :=
  l.foldl (fun cells a => cells.modify (key a) (update a)) cells

theorem applyUpdates_cons (key) (update : α → β → β) (cells a l) :
    applyUpdates key update cells (a :: l) =
      applyUpdates key update (cells.modify (key a) (update a)) l := rfl

theorem getElem?_applyUpdates_of_notMem (update : α → β → β) (hk : k ∉ l.map key) (cells) :
    (applyUpdates key update cells l)[k]? = cells[k]? := by
  induction l generalizing cells with
  | nil => rfl
  | cons a l ih =>
    simp only [List.map_cons, List.mem_cons, not_or] at hk
    rw [applyUpdates_cons, ih hk.2, List.getElem?_modify_ne _ _ (Ne.symm hk.1)]

theorem getElem?_applyUpdates_of_mem (update : α → β → β) (hl : (l.map key).Nodup) (ha : a ∈ l)
    (cells) :
    (applyUpdates key update cells l)[key a]? = (cells[key a]?).map (update a) := by
  induction l generalizing cells with
  | nil => cases ha
  | cons b l ih =>
    obtain ⟨hb, hl⟩ := List.nodup_cons.mp hl
    rw [applyUpdates_cons]
    rcases List.mem_cons.mp ha with rfl | ha
    · rw [getElem?_applyUpdates_of_notMem update hb, List.getElem?_modify_eq, Option.map_eq_map]
    · have hne : key b ≠ key a := fun h => hb (h ▸ List.mem_map_of_mem ha)
      rw [ih hl ha, List.getElem?_modify_ne _ _ hne]

end NgGateway.IndexedUpdates

import Mathlib

/-!
# Insertion-ordered dictionaries

A Python `dict` keeps its items in the order their keys were first set. Setting a
key again replaces the value in place. A dictionary filled from pairs with distinct
keys is the list of those pairs (`items_fill`).
-/

set_option autoImplicit false

namespace Foundations

/-- A `dict`: its items in insertion order, with distinct keys. -/
structure Dict (κ ν : Type) where
  items : List (κ × ν)
  nodup : (items.map Prod.fst).Nodup

namespace Dict

variable {κ ν : Type} [DecidableEq κ]

/-- `{}`. -/
def empty : Dict κ ν := ⟨[], .nil⟩

/-- `d.get(key)`. -/
def get? (d : Dict κ ν) (key : κ) : Option ν :=
  (d.items.find? fun item => item.1 = key).map Prod.snd

/-- Replace the value at a key, or append the item. -/
def setItem (key : κ) (value : ν) : List (κ × ν) → List (κ × ν)
  | [] => [(key, value)]
  | item :: rest => if item.1 = key then (key, value) :: rest else item :: setItem key value rest

theorem mem_keys_setItem {key other : κ} {value : ν} {items : List (κ × ν)} :
    other ∈ (setItem key value items).map Prod.fst ↔ other = key ∨ other ∈ items.map Prod.fst := by
  induction items with
  | nil => simp [setItem]
  | cons item rest ih =>
      rw [setItem]
      split
      · rename_i same
        subst same
        simp
      · simp only [List.map_cons, List.mem_cons, ih]
        tauto

theorem setItem_nodup {key : κ} {value : ν} {items : List (κ × ν)}
    (nodup : (items.map Prod.fst).Nodup) : ((setItem key value items).map Prod.fst).Nodup := by
  induction items with
  | nil => simp [setItem]
  | cons item rest ih =>
      obtain ⟨fresh, restNodup⟩ := List.nodup_cons.mp nodup
      rw [setItem]
      split
      · rename_i same
        exact List.nodup_cons.mpr ⟨same ▸ fresh, restNodup⟩
      · rename_i different
        refine List.nodup_cons.mpr ⟨fun member => ?_, ih restNodup⟩
        rcases mem_keys_setItem.mp member with same | inside
        · exact different same
        · exact fresh inside

/-- `d[key] = value`. -/
def set (d : Dict κ ν) (key : κ) (value : ν) : Dict κ ν :=
  ⟨setItem key value d.items, setItem_nodup d.nodup⟩

theorem setItem_of_not_mem {key : κ} {value : ν} {items : List (κ × ν)}
    (fresh : key ∉ items.map Prod.fst) : setItem key value items = items ++ [(key, value)] := by
  induction items with
  | nil => rfl
  | cons item rest ih =>
      simp only [List.map_cons, List.mem_cons, not_or] at fresh
      rw [setItem, if_neg (Ne.symm fresh.1), ih fresh.2]
      rfl

/-- A new key goes to the end. -/
theorem items_set_of_not_mem {d : Dict κ ν} {key : κ} {value : ν}
    (fresh : key ∉ d.items.map Prod.fst) : (d.set key value).items = d.items ++ [(key, value)] :=
  setItem_of_not_mem fresh

/-- Set the pairs one after the other. -/
def fill (d : Dict κ ν) (pairs : List (κ × ν)) : Dict κ ν :=
  pairs.foldl (fun filled pair => filled.set pair.1 pair.2) d

theorem fill_cons (d : Dict κ ν) (pair : κ × ν) (pairs : List (κ × ν)) :
    d.fill (pair :: pairs) = (d.set pair.1 pair.2).fill pairs := rfl

theorem items_fill_of_nodup {d : Dict κ ν} {pairs : List (κ × ν)}
    (nodup : ((d.items ++ pairs).map Prod.fst).Nodup) : (d.fill pairs).items = d.items ++ pairs := by
  induction pairs generalizing d with
  | nil => simp [fill]
  | cons pair rest ih =>
      rw [List.map_append, List.map_cons] at nodup
      have fresh : pair.1 ∉ d.items.map Prod.fst := fun member =>
        (List.disjoint_of_nodup_append nodup) member List.mem_cons_self
      have set : (d.set pair.1 pair.2).items = d.items ++ [(pair.1, pair.2)] :=
        items_set_of_not_mem fresh
      rw [fill_cons, ih, set, List.append_assoc]
      · rfl
      · rw [set, List.append_assoc]
        simpa using nodup

/-- **Filled from distinct keys, a dictionary is the list of its pairs.** -/
theorem items_fill {pairs : List (κ × ν)} (nodup : (pairs.map Prod.fst).Nodup) :
    (empty.fill pairs).items = pairs := by
  rw [items_fill_of_nodup nodup]
  rfl

theorem get?_eq_some {d : Dict κ ν} {key : κ} {value : ν} :
    d.get? key = some value ↔ (key, value) ∈ d.items := by
  constructor
  · intro found
    obtain ⟨⟨k, v⟩, search, rfl⟩ := Option.map_eq_some_iff.mp found
    have here : k = key := by simpa using List.find?_some search
    exact here ▸ List.mem_of_find?_eq_some search
  · intro member
    cases search : d.items.find? fun item => item.1 = key with
    | none => simpa using List.find?_eq_none.mp search (key, value) member
    | some item =>
        have same : item.1 = key := by simpa using List.find?_some search
        have equal : item = (key, value) :=
          List.inj_on_of_nodup_map d.nodup (List.mem_of_find?_eq_some search) member same
        simp [get?, search, equal]

/-- A dictionary with the same keys, its values mapped. -/
def mapValues {ν' : Type} (f : ν → ν') (d : Dict κ ν) : Dict κ ν' where
  items := d.items.map (Prod.map id f)
  nodup := by
    rw [List.map_map, Prod.map_fst', Function.id_comp]
    exact d.nodup

end Dict

end Foundations

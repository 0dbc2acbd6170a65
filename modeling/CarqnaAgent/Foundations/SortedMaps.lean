import Mathlib

/-!
# Finite maps in key order

A finite map is kept as its list of entries in strictly increasing key order, so
that every map has one representation: two maps with the same lookups are equal
(`SortedMap.ext_get?`), and what is listed from a map depends only on its lookups
at the keys listed (`filter_congr`). Two maps are put together key by key (`get?_splice`).
-/

set_option autoImplicit false

namespace Foundations

/-- A finite map, its entries in key order. -/
structure SortedMap (κ ν : Type) [LinearOrder κ] where
  entries : List (κ × ν)
  sorted : entries.Pairwise fun first second => first.1 < second.1

namespace SortedMap

variable {κ ν : Type} [LinearOrder κ]

/-- The map with no entry. -/
def empty : SortedMap κ ν := ⟨[], .nil⟩

/-- The value at a key. -/
def get? (m : SortedMap κ ν) (key : κ) : Option ν :=
  (m.entries.find? fun entry => entry.1 = key).map Prod.snd

/-- Entries with the same key are the same entry. -/
theorem eq_of_mem_of_fst_eq {m : SortedMap κ ν} {first second : κ × ν}
    (left : first ∈ m.entries) (right : second ∈ m.entries) (same : first.1 = second.1) :
    first = second := by
  obtain ⟨entries, sorted⟩ := m
  induction sorted with
  | nil => cases left
  | cons before _ ih =>
      rcases List.mem_cons.mp left with rfl | leftRest
      · rcases List.mem_cons.mp right with rfl | rightRest
        · rfl
        · exact absurd same (ne_of_lt (before second rightRest))
      · rcases List.mem_cons.mp right with rfl | rightRest
        · exact absurd same.symm (ne_of_lt (before first leftRest))
        · exact ih leftRest rightRest

theorem get?_eq_some {m : SortedMap κ ν} {key : κ} {value : ν} :
    m.get? key = some value ↔ (key, value) ∈ m.entries := by
  constructor
  · intro found
    obtain ⟨⟨k, v⟩, search, rfl⟩ := Option.map_eq_some_iff.mp found
    have here : k = key := by simpa using List.find?_some search
    exact here ▸ List.mem_of_find?_eq_some search
  · intro member
    cases search : m.entries.find? fun entry => entry.1 = key with
    | none =>
        have absent := List.find?_eq_none.mp search (key, value) member
        simp at absent
    | some entry =>
        have same : entry.1 = key := by simpa using List.find?_some search
        have equal : entry = (key, value) :=
          eq_of_mem_of_fst_eq (List.mem_of_find?_eq_some search) member same
        simp [get?, search, equal]

theorem get?_eq_none {m : SortedMap κ ν} {key : κ} :
    m.get? key = none ↔ ∀ value, (key, value) ∉ m.entries := by
  simp only [← get?_eq_some, Option.eq_none_iff_forall_ne_some]

/-- **Two maps with the same lookups are equal.** -/
theorem ext_get? {m n : SortedMap κ ν} (same : ∀ key, m.get? key = n.get? key) : m = n := by
  have entries : m.entries = n.entries := by
    have : Std.Antisymm fun first second : κ × ν => first.1 < second.1 :=
      ⟨fun _ _ below above => absurd above (lt_asymm below)⟩
    have : Std.Irrefl fun first second : κ × ν => first.1 < second.1 :=
      ⟨fun entry => lt_irrefl entry.1⟩
    refine List.Pairwise.eq_of_mem_iff m.sorted n.sorted fun entry => ?_
    rw [← get?_eq_some, ← get?_eq_some, same]
  cases m
  cases n
  cases entries
  rfl

/-! ## Insertion -/

/-- Put a value at a key of an ordered list of entries. -/
def insertEntry (key : κ) (value : ν) : List (κ × ν) → List (κ × ν)
  | [] => [(key, value)]
  | entry :: rest =>
      if key < entry.1 then (key, value) :: entry :: rest
      else if key = entry.1 then (key, value) :: rest
      else entry :: insertEntry key value rest

theorem mem_insertEntry_key {key : κ} {value : ν} {entries : List (κ × ν)} {entry : κ × ν}
    (member : entry ∈ insertEntry key value entries) : entry = (key, value) ∨ entry ∈ entries := by
  induction entries with
  | nil => exact .inl (List.mem_singleton.mp member)
  | cons head rest ih =>
      rw [insertEntry] at member
      split at member
      · exact List.mem_cons.mp member
      · split at member
        · exact (List.mem_cons.mp member).imp_right (List.mem_cons_of_mem head)
        · rcases List.mem_cons.mp member with rfl | later
          · exact .inr List.mem_cons_self
          · exact (ih later).imp_right (List.mem_cons_of_mem head)

theorem insertEntry_sorted {key : κ} {value : ν} {entries : List (κ × ν)}
    (sorted : entries.Pairwise fun first second => first.1 < second.1) :
    (insertEntry key value entries).Pairwise fun first second => first.1 < second.1 := by
  induction sorted with
  | nil => exact List.pairwise_singleton _ _
  | @cons head rest before sorted ih =>
      rw [insertEntry]
      split
      · rename_i below
        refine .cons (fun entry member => ?_) (.cons before sorted)
        rcases List.mem_cons.mp member with rfl | later
        · exact below
        · exact lt_trans below (before entry later)
      · split
        · rename_i same
          exact .cons (fun entry later => same ▸ before entry later) sorted
        · rename_i notBelow different
          refine .cons (fun entry member => ?_) ih
          rcases mem_insertEntry_key member with rfl | later
          · exact lt_of_le_of_ne (not_lt.mp notBelow) (Ne.symm different)
          · exact before entry later

/-- Put a value at a key. -/
def insert (m : SortedMap κ ν) (key : κ) (value : ν) : SortedMap κ ν :=
  ⟨insertEntry key value m.entries, insertEntry_sorted m.sorted⟩

theorem find?_insertEntry_self {key : κ} {value : ν} (entries : List (κ × ν)) :
    (insertEntry key value entries).find? (fun entry => entry.1 = key) = some (key, value) := by
  induction entries with
  | nil => simp [insertEntry]
  | cons head rest ih =>
      rw [insertEntry]
      split
      · simp
      · split
        · simp
        · rename_i different
          rw [List.find?_cons_of_neg (by simpa using Ne.symm different)]
          exact ih

theorem find?_insertEntry_of_ne {key other : κ} {value : ν} (different : other ≠ key)
    (entries : List (κ × ν)) :
    (insertEntry key value entries).find? (fun entry => entry.1 = other) =
      entries.find? fun entry => entry.1 = other := by
  induction entries with
  | nil => simp [insertEntry, Ne.symm different]
  | cons head rest ih =>
      rw [insertEntry]
      split
      · rw [List.find?_cons_of_neg (by simpa using Ne.symm different)]
      · split
        · rename_i same
          rw [List.find?_cons_of_neg (by simpa using Ne.symm different),
            List.find?_cons_of_neg (by simpa [← same] using Ne.symm different)]
        · rw [List.find?_cons, List.find?_cons, ih]

@[simp] theorem get?_insert_self (m : SortedMap κ ν) (key : κ) (value : ν) :
    (m.insert key value).get? key = some value := by
  simp [get?, insert, find?_insertEntry_self]

theorem get?_insert_of_ne {m : SortedMap κ ν} {key other : κ} {value : ν}
    (different : other ≠ key) : (m.insert key value).get? other = m.get? other := by
  simp [get?, insert, find?_insertEntry_of_ne different]

/-! ## Restriction to some keys -/

/-- The entries whose key passes a test. -/
def filter (m : SortedMap κ ν) (keep : κ → Bool) : SortedMap κ ν :=
  ⟨m.entries.filter fun entry => keep entry.1, m.sorted.filter _⟩

theorem get?_filter (m : SortedMap κ ν) (keep : κ → Bool) (key : κ) :
    (m.filter keep).get? key = if keep key then m.get? key else none := by
  split
  · rename_i kept
    apply Option.ext
    intro value
    simp [get?_eq_some, filter, kept]
  · rename_i dropped
    rw [get?_eq_none]
    simp [filter, dropped]

/-- **What is listed depends only on the lookups at the keys listed.** -/
theorem filter_congr {m n : SortedMap κ ν} {keep : κ → Bool}
    (same : ∀ key, keep key = true → m.get? key = n.get? key) : m.filter keep = n.filter keep := by
  apply ext_get?
  intro key
  rw [get?_filter, get?_filter]
  split
  · rename_i kept
    exact same key kept
  · rfl

/-- All keys pass. -/
theorem filter_eq_self {m : SortedMap κ ν} {keep : κ → Bool} (all : ∀ key, keep key = true) :
    m.filter keep = m := by
  apply ext_get?
  intro key
  rw [get?_filter, if_pos (all key)]

/-! ## Two maps in one -/

/-- The entries of the first map where a key passes a test, those of the second elsewhere. -/
def splice (choose : κ → Bool) (m n : SortedMap κ ν) : SortedMap κ ν :=
  (m.filter choose).entries.foldr (fun entry later => later.insert entry.1 entry.2)
    (n.filter fun key => !choose key)

theorem get?_foldr_insert (entries : List (κ × ν)) (n : SortedMap κ ν) (key : κ) :
    (entries.foldr (fun entry later => later.insert entry.1 entry.2) n).get? key =
      ((entries.find? fun entry => entry.1 = key).map Prod.snd).or (n.get? key) := by
  induction entries with
  | nil => rfl
  | cons entry rest ih =>
      rw [List.foldr_cons]
      by_cases here : key = entry.1
      · subst here
        simp
      · rw [get?_insert_of_ne here, ih, List.find?_cons_of_neg (by simpa using Ne.symm here)]

theorem get?_splice (choose : κ → Bool) (m n : SortedMap κ ν) (key : κ) :
    (splice choose m n).get? key = if choose key then m.get? key else n.get? key := by
  rw [splice, get?_foldr_insert]
  change ((m.filter choose).get? key).or _ = _
  rw [get?_filter, get?_filter]
  cases choose key with
  | true => simp
  | false => simp

end SortedMap

end Foundations

import Mathlib
import CarqnaAgent.Storage.S3Backend

/-!
# Paths and keys

Every key of a backend is its root followed by a relative name. `_key_for` puts the
path without its leading slashes after the root (`keyFor_eq`), `_path_for` puts one
slash before the relative name (`pathFor_root_append`), and the directory prefix is
the root followed by the path stripped on both sides (`dirKeyPrefix_eq`).

So `_path_for` tells the keys under the root apart (`pathFor_injective`), and
**`_key_for` leads back to a key exactly when its relative name does not start with
a slash** (`keyFor_pathFor_iff`).
-/

set_option autoImplicit false

namespace CarqnaAgent.Storage

open Foundations

/-! ## Slashes at the ends of a string -/

theorem slash_isPrefix_iff {s : PyStr} : slash <+: s ↔ s.head? = some (CodePoint.ofChar '/') := by
  cases s with
  | nil => simp [slash, py]
  | cons c rest => simp [slash, py, List.cons_prefix_cons, eq_comm]

theorem slash_isSuffix_iff {s : PyStr} :
    slash <:+ s ↔ s.getLast? = some (CodePoint.ofChar '/') := by
  rw [← List.head?_reverse, ← slash_isPrefix_iff, ← List.reverse_prefix]
  exact Iff.rfl

theorem not_slash_isPrefix_lstrip (s : PyStr) : ¬ slash <+: PyStr.lstrip slash s := by
  intro starts
  have dropped := PyStr.lstripBy_head? (slash_isPrefix_iff.mp starts)
  simp [slash, py] at dropped

theorem lstrip_eq_self_iff {s : PyStr} : PyStr.lstrip slash s = s ↔ ¬ slash <+: s := by
  constructor
  · intro same
    rw [← same]
    exact not_slash_isPrefix_lstrip s
  · intro starts
    refine PyStr.lstripBy_eq_self fun c head => ?_
    simp only [decide_eq_false_iff_not]
    intro member
    have equal : c = CodePoint.ofChar '/' := by simpa [slash, py] using member
    exact starts (slash_isPrefix_iff.mpr (equal ▸ head))

theorem rstrip_eq_self_iff {s : PyStr} :
    PyStr.rstripBy (fun c => decide (c ∈ slash)) s = s ↔ ¬ slash <:+ s := by
  constructor
  · intro same ends
    rw [← same, slash_isSuffix_iff] at ends
    have dropped := PyStr.rstripBy_getLast? ends
    simp [slash, py] at dropped
  · intro ends
    refine PyStr.rstripBy_eq_self fun c last => ?_
    simp only [decide_eq_false_iff_not]
    intro member
    have equal : c = CodePoint.ofChar '/' := by simpa [slash, py] using member
    exact ends (slash_isSuffix_iff.mpr (equal ▸ last))

theorem lstrip_slash_append (s : PyStr) : PyStr.lstrip slash (slash ++ s) = PyStr.lstrip slash s := by
  rfl

/-- What the directory prefix of a path adds to the root. -/
def dirBase (path : PyStr) : PyStr :=
  if PyStr.strip slash path = [] then [] else PyStr.strip slash path ++ slash

theorem dirBase_ends (path : PyStr) : dirBase path = [] ∨ slash <:+ dirBase path := by
  unfold dirBase
  split
  · exact .inl rfl
  · exact .inr (List.suffix_append _ _)

theorem not_slash_isPrefix_dirBase_append {path name : PyStr}
    (slashFree : CodePoint.ofChar '/' ∉ name) : ¬ slash <+: dirBase path ++ name := by
  rw [slash_isPrefix_iff, dirBase]
  by_cases rel : PyStr.strip slash path = []
  · rw [if_pos rel, List.nil_append]
    intro head
    exact slashFree (List.mem_of_mem_head? head)
  · rw [if_neg rel]
    intro head
    obtain ⟨c, rest, split⟩ := List.exists_cons_of_ne_nil rel
    have kept : decide (c ∈ slash) = false := PyStr.stripBy_head? (congrArg List.head? split)
    have equal : c = CodePoint.ofChar '/' := by
      rw [split] at head
      simpa using head
    simp [equal, slash, py] at kept

namespace S3Backend

variable (backend : S3Backend)

/-! ## The three translations -/

theorem root_eq_nil_iff : backend.root = [] ↔ backend.rootPrefix = [] := by
  unfold root
  split
  · rename_i rooted
    simp [rooted]
  · rename_i bare
    simpa using bare

theorem keyFor_eq (path : PyStr) :
    backend.keyFor path = backend.root ++ PyStr.lstrip slash path := by
  unfold keyFor root
  split
  · rfl
  · rfl

theorem pathFor_root_append (rel : PyStr) :
    backend.pathFor (backend.root ++ rel) = slash ++ rel := by
  unfold pathFor root
  split
  · rw [if_pos (by simp), List.drop_left]
  · rfl

theorem dirKeyPrefix_eq (path : PyStr) :
    backend.dirKeyPrefix path = backend.root ++ dirBase path := by
  unfold dirKeyPrefix root dirBase
  by_cases rooted : backend.rootPrefix = []
  · by_cases rel : PyStr.strip slash path = []
    · simp [rooted, rel]
    · simp [rooted, rel]
  · by_cases rel : PyStr.strip slash path = []
    · simp [rooted, rel]
    · simp [rooted, rel]

theorem pathFor_keyFor (path : PyStr) :
    backend.pathFor (backend.keyFor path) = slash ++ PyStr.lstrip slash path := by
  rw [keyFor_eq, pathFor_root_append]

theorem root_isPrefix_keyFor (path : PyStr) : backend.root <+: backend.keyFor path := by
  rw [keyFor_eq]
  exact List.prefix_append _ _

theorem root_isPrefix_dirKeyPrefix (path : PyStr) :
    backend.root <+: backend.dirKeyPrefix path := by
  rw [dirKeyPrefix_eq]
  exact List.prefix_append _ _

/-! ## There and back -/

/-- Two keys under the root with one path are one key. -/
theorem pathFor_injective {first second : PyStr} (under : backend.root <+: first)
    (under' : backend.root <+: second) (same : backend.pathFor first = backend.pathFor second) :
    first = second := by
  obtain ⟨rel, rfl⟩ := under
  obtain ⟨rel', rfl⟩ := under'
  rw [pathFor_root_append, pathFor_root_append] at same
  rw [List.append_cancel_left same]

/-- Distinct keys under the root have distinct paths. -/
theorem nodup_map_pathFor {keys : List PyStr} (distinct : keys.Nodup)
    (under : ∀ key ∈ keys, backend.root <+: key) : (keys.map backend.pathFor).Nodup :=
  distinct.map_on fun first member second member' same =>
    backend.pathFor_injective (under first member) (under second member') same

/-- **The path of a key leads back to it exactly when no slash follows the root.** -/
theorem keyFor_pathFor_iff {key : PyStr} (under : backend.root <+: key) :
    backend.keyFor (backend.pathFor key) = key ↔ ¬ backend.root ++ slash <+: key := by
  obtain ⟨rel, rfl⟩ := under
  rw [pathFor_root_append, keyFor_eq, lstrip_slash_append, List.append_cancel_left_eq,
    lstrip_eq_self_iff, List.prefix_append_right_inj]

/-- A key that is listed as a file of a directory does not have a slash after the root. -/
theorem keyFor_pathFor_dirKeyPrefix {path name : PyStr} (slashFree : CodePoint.ofChar '/' ∉ name) :
    backend.keyFor (backend.pathFor (backend.dirKeyPrefix path ++ name)) =
      backend.dirKeyPrefix path ++ name := by
  rw [keyFor_pathFor_iff _ ((backend.root_isPrefix_dirKeyPrefix path).trans
    (List.prefix_append _ _)), dirKeyPrefix_eq, List.append_assoc, List.prefix_append_right_inj]
  exact not_slash_isPrefix_dirBase_append slashFree

end S3Backend

end CarqnaAgent.Storage

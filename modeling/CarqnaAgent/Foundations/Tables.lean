import Mathlib

/-!
# Keyed tables and transactions

A table has rows, an identity column that draws its values from a sequence, and one
unique key. The constraints are fields of the table, so a table that breaks them
cannot be built: an insertion needs a row the table accepts, and an update keeps the
identity and the key of every row.

A transaction is a block of statements that change a state and return or raise. When
it raises its changes are undone. A query that sorts its rows leaves open how it sorts those
that tie (`OrderBy`).

* A row is determined by its identity (`Table.eq_of_id_eq`), and by its key
  (`Table.lookup_eq_some_iff`).
* With a freshly drawn identity a row is accepted exactly when no row has its key
  (`Table.accepts_drawn_iff`).
* **A relation that every statement respects is respected by the block**
  (`Transaction.respects_bind`, `Transaction.respects_orUndo`).
-/

set_option autoImplicit false

namespace Foundations

/-- The columns a table is keyed by: its identity, and its unique key. -/
structure Schema (Row Key : Type) where
  id : Row → ℕ
  key : Row → Key

/-- A table whose identities are drawn from a sequence; `drawn` is the last one. -/
structure Table {Row Key : Type} (schema : Schema Row Key) where
  rows : List Row
  drawn : ℕ
  ids_nodup : (rows.map schema.id).Nodup
  ids_le : ∀ row ∈ rows, schema.id row ≤ drawn
  keys_nodup : (rows.map schema.key).Nodup

namespace Table

variable {Row Key : Type} {schema : Schema Row Key}

/-- A new table. -/
def empty (schema : Schema Row Key) : Table schema where
  rows := []
  drawn := 0
  ids_nodup := List.nodup_nil
  ids_le := List.forall_mem_nil _
  keys_nodup := List.nodup_nil

/-- The row with a key. -/
def lookup [DecidableEq Key] (table : Table schema) (key : Key) : Option Row :=
  table.rows.find? fun row => decide (schema.key row = key)

/-- The row with an identity. -/
def byId (table : Table schema) (id : ℕ) : Option Row :=
  table.rows.find? fun row => decide (schema.id row = id)

/-- Draw the next identity. -/
def draw (table : Table schema) : Table schema where
  rows := table.rows
  drawn := table.drawn + 1
  ids_nodup := table.ids_nodup
  ids_le := fun row member => (table.ids_le row member).trans (Nat.le_succ _)
  keys_nodup := table.keys_nodup

/-- The identity of the row has been drawn, and it and the key are not in the table. -/
def Accepts (table : Table schema) (row : Row) : Prop :=
  schema.id row ≤ table.drawn ∧ schema.id row ∉ table.rows.map schema.id ∧
    schema.key row ∉ table.rows.map schema.key

instance [DecidableEq Key] (table : Table schema) (row : Row) : Decidable (table.Accepts row) :=
  inferInstanceAs (Decidable (_ ∧ _ ∧ _))

/-- Append a row. -/
def insert (table : Table schema) (row : Row) (accepts : table.Accepts row) : Table schema where
  rows := table.rows ++ [row]
  drawn := table.drawn
  ids_nodup := by
    rw [List.map_append, List.map_singleton, ← List.concat_eq_append]
    exact table.ids_nodup.concat accepts.2.1
  ids_le := by
    intro other member
    rcases List.mem_append.mp member with old | new
    · exact table.ids_le other old
    · rw [List.mem_singleton.mp new]
      exact accepts.1
  keys_nodup := by
    rw [List.map_append, List.map_singleton, ← List.concat_eq_append]
    exact table.keys_nodup.concat accepts.2.2

/-- A change of rows that keeps their identity and their key. -/
structure Setting (schema : Schema Row Key) where
  set : Row → Row
  id_set : ∀ row, schema.id (set row) = schema.id row
  key_set : ∀ row, schema.key (set row) = schema.key row

/-- What an update makes of a row. -/
def Setting.onRow (setting : Setting schema) (selected : Row → Bool) (row : Row) : Row :=
  if selected row then setting.set row else row

section OnRow

variable (setting : Setting schema) (selected : Row → Bool) (row : Row)

@[simp] theorem Setting.id_onRow : schema.id (setting.onRow selected row) = schema.id row := by
  unfold Setting.onRow
  split
  · exact setting.id_set row
  · rfl

@[simp] theorem Setting.key_onRow : schema.key (setting.onRow selected row) = schema.key row := by
  unfold Setting.onRow
  split
  · exact setting.key_set row
  · rfl

end OnRow

theorem map_id_onRow (setting : Setting schema) (selected : Row → Bool) (rows : List Row) :
    (rows.map (setting.onRow selected)).map schema.id = rows.map schema.id := by
  rw [List.map_map]
  exact List.map_congr_left fun row _ => setting.id_onRow selected row

theorem map_key_onRow (setting : Setting schema) (selected : Row → Bool) (rows : List Row) :
    (rows.map (setting.onRow selected)).map schema.key = rows.map schema.key := by
  rw [List.map_map]
  exact List.map_congr_left fun row _ => setting.key_onRow selected row

/-- Update the selected rows. -/
def update (table : Table schema) (selected : Row → Bool) (setting : Setting schema) :
    Table schema where
  rows := table.rows.map (setting.onRow selected)
  drawn := table.drawn
  ids_nodup := by
    rw [map_id_onRow]
    exact table.ids_nodup
  ids_le := by
    intro row member
    obtain ⟨old, present, rfl⟩ := List.mem_map.mp member
    rw [setting.id_onRow]
    exact table.ids_le old present
  keys_nodup := by
    rw [map_key_onRow]
    exact table.keys_nodup

/-- An update that selects no row changes nothing. -/
theorem update_of_unselected {table : Table schema} {selected : Row → Bool}
    (setting : Setting schema) (unselected : ∀ row ∈ table.rows, selected row = false) :
    table.update selected setting = table := by
  have rows : table.rows.map (setting.onRow selected) = table.rows := by
    refine (List.map_congr_left fun row member => ?_).trans (List.map_id _)
    simp [Setting.onRow, unselected row member]
  cases table
  simp only [update, rows]

/-- The rows as they were before, and the sequence where it has got to: identities
are not handed out again. -/
def undo (before after : Table schema) : Table schema where
  rows := before.rows
  drawn := max before.drawn after.drawn
  ids_nodup := before.ids_nodup
  ids_le := fun row member => (before.ids_le row member).trans (le_max_left _ _)
  keys_nodup := before.keys_nodup

@[simp] theorem draw_rows (table : Table schema) : table.draw.rows = table.rows := rfl

@[simp] theorem insert_rows (table : Table schema) (row : Row) (accepts : table.Accepts row) :
    (table.insert row accepts).rows = table.rows ++ [row] := rfl

@[simp] theorem update_rows (table : Table schema) (selected : Row → Bool)
    (setting : Setting schema) :
    (table.update selected setting).rows = table.rows.map (setting.onRow selected) := rfl

@[simp] theorem undo_rows (before after : Table schema) :
    (before.undo after).rows = before.rows := rfl

@[simp] theorem undo_self (table : Table schema) : table.undo table = table := by
  simp [undo]

/-! ## Identities and keys determine rows -/

section Keys

variable {table : Table schema} {row other : Row}

theorem eq_of_id_eq (first : row ∈ table.rows) (second : other ∈ table.rows)
    (same : schema.id row = schema.id other) : row = other :=
  List.inj_on_of_nodup_map table.ids_nodup first second same

theorem eq_of_key_eq (first : row ∈ table.rows) (second : other ∈ table.rows)
    (same : schema.key row = schema.key other) : row = other :=
  List.inj_on_of_nodup_map table.keys_nodup first second same

/-- **With a fresh identity only the key can be refused.** -/
theorem accepts_drawn_iff (fresh : schema.id row = table.drawn + 1) :
    table.draw.Accepts row ↔ schema.key row ∉ table.rows.map schema.key := by
  constructor
  · exact fun accepts => accepts.2.2
  · intro absent
    refine ⟨fresh.le, ?_, absent⟩
    intro present
    obtain ⟨other, member, same⟩ := List.mem_map.mp present
    have drawn := table.ids_le other member
    omega

variable [DecidableEq Key] {key : Key}

theorem lookup_eq_some_iff :
    table.lookup key = some row ↔ row ∈ table.rows ∧ schema.key row = key := by
  constructor
  · intro found
    exact ⟨List.mem_of_find?_eq_some found, by simpa using List.find?_some found⟩
  · rintro ⟨member, same⟩
    cases found : table.lookup key with
    | none =>
        have absent := List.find?_eq_none.mp found row member
        simp [same] at absent
    | some other =>
        have known : other ∈ table.rows ∧ schema.key other = key :=
          ⟨List.mem_of_find?_eq_some found, by simpa using List.find?_some found⟩
        rw [eq_of_key_eq known.1 member (known.2.trans same.symm)]

theorem lookup_eq_none_iff :
    table.lookup key = none ↔ key ∉ table.rows.map schema.key := by
  simp [lookup, List.find?_eq_none]

theorem lookup_isSome_iff :
    (table.lookup key).isSome = true ↔ key ∈ table.rows.map schema.key := by
  simp [lookup, List.find?_isSome]

end Keys

theorem byId_eq_some_iff {table : Table schema} {row : Row} {id : ℕ} :
    table.byId id = some row ↔ row ∈ table.rows ∧ schema.id row = id := by
  constructor
  · intro found
    exact ⟨List.mem_of_find?_eq_some found, by simpa using List.find?_some found⟩
  · rintro ⟨member, same⟩
    cases found : table.byId id with
    | none =>
        have absent := List.find?_eq_none.mp found row member
        simp [same] at absent
    | some other =>
        have known : other ∈ table.rows ∧ schema.id other = id :=
          ⟨List.mem_of_find?_eq_some found, by simpa using List.find?_some found⟩
        rw [eq_of_id_eq known.1 member (known.2.trans same.symm)]

/-! ## What a change makes of a lookup -/

section Lookups

variable (table : Table schema) (selected : Row → Bool) (setting : Setting schema)

theorem byId_update (id : ℕ) :
    (table.update selected setting).byId id = (table.byId id).map (setting.onRow selected) := by
  simp [byId, List.find?_map]

variable [DecidableEq Key]

theorem lookup_update (key : Key) :
    (table.update selected setting).lookup key =
      (table.lookup key).map (setting.onRow selected) := by
  simp [lookup, List.find?_map]

theorem lookup_insert {row : Row} (accepts : table.Accepts row) (key : Key) :
    (table.insert row accepts).lookup key =
      if schema.key row = key then some row else table.lookup key := by
  by_cases here : schema.key row = key
  · subst here
    rw [if_pos rfl, lookup_eq_some_iff]
    exact ⟨List.mem_append_right _ List.mem_cons_self, rfl⟩
  · simp [lookup, List.find?_append, here]

end Lookups

end Table

/-! ## Queries -/

/-- `ORDER BY`: rows in the order of a relation. Those it does not tell apart come in any order. -/
structure OrderBy {Row : Type} (before : Row → Row → Prop) where
  sort : List Row → List Row
  perm : ∀ rows, (sort rows).Perm rows
  ordered : ∀ rows, (sort rows).Pairwise before

/-- Rows that tie stay in the order of the table. -/
def OrderBy.stable {Row : Type} (before : Row → Row → Prop) [DecidableRel before]
    [Std.Total before] [IsTrans Row before] : OrderBy before where
  sort rows := rows.insertionSort before
  perm := List.perm_insertionSort before
  ordered := List.pairwise_insertionSort before

/-! ## Transactions -/

/-- A block of statements: it changes a state, and returns or raises. -/
def Transaction (ε σ α : Type) := σ → Except ε α × σ

namespace Transaction

variable {ε σ α β : Type}

/-- Sequencing: an exception skips the rest. -/
protected def bind (block : Transaction ε σ α) (rest : α → Transaction ε σ β) :
    Transaction ε σ β :=
  fun state =>
    match block state with
    | (.ok value, after) => rest value after
    | (.error exception, after) => (.error exception, after)

instance : Monad (Transaction ε σ) where
  pure value := fun state => (.ok value, state)
  bind := .bind

/-- One statement, by its effect. -/
def statement (effect : σ → Except ε α × σ) : Transaction ε σ α := effect

/-- An outcome that is not up to the state. -/
def outcome (result : Except ε α) : Transaction ε σ α := fun state => (result, state)

/-- Raise an exception. -/
def raise (exception : ε) : Transaction ε σ α := fun state => (.error exception, state)

/-- Undo the changes of a block that raises. `undo before after` is the state then. -/
def orUndo (undo : σ → σ → σ) (block : Transaction ε σ α) : Transaction ε σ α :=
  fun state =>
    match block state with
    | (.ok value, after) => (.ok value, after)
    | (.error exception, after) => (.error exception, undo state after)

section Runs

variable {block : Transaction ε σ α} {rest : α → Transaction ε σ β} {undo : σ → σ → σ}
  {state after : σ}

theorem bind_of_ok {value : α} (returned : block state = (.ok value, after)) :
    (block >>= rest) state = rest value after := by
  change Transaction.bind block rest state = _
  rw [Transaction.bind, returned]

theorem bind_of_error {exception : ε} (raised : block state = (.error exception, after)) :
    (block >>= rest) state = (.error exception, after) := by
  change Transaction.bind block rest state = _
  rw [Transaction.bind, raised]

@[simp] theorem statement_apply (effect : σ → Except ε α × σ) :
    statement effect state = effect state := rfl

@[simp] theorem raise_apply (exception : ε) :
    (raise exception : Transaction ε σ α) state = (.error exception, state) := rfl

@[simp] theorem outcome_ok_bind (value : α) : (outcome (.ok value) >>= rest) = rest value := rfl

@[simp] theorem outcome_error_bind (exception : ε) :
    (outcome (.error exception) >>= rest) = raise exception := rfl

@[simp] theorem pure_bind (value : α) : ((pure value : Transaction ε σ α) >>= rest) = rest value :=
  rfl

@[simp] theorem raise_bind (exception : ε) :
    ((raise exception : Transaction ε σ α) >>= rest) = raise exception := rfl

theorem orUndo_of_ok {value : α} (returned : block state = (.ok value, after)) :
    orUndo undo block state = (.ok value, after) := by
  rw [orUndo, returned]

theorem orUndo_of_error {exception : ε} (raised : block state = (.error exception, after)) :
    orUndo undo block state = (.error exception, undo state after) := by
  rw [orUndo, raised]

end Runs

/-- The block relates every state to the state it leaves. -/
def Respects (relation : σ → σ → Prop) (block : Transaction ε σ α) : Prop :=
  ∀ state, relation state (block state).2

section Respects

variable {relation : σ → σ → Prop}

theorem respects_of_unchanged [Std.Refl relation] {block : Transaction ε σ α}
    (unchanged : ∀ state, (block state).2 = state) : Respects relation block := by
  intro state
  rw [unchanged]
  exact Std.Refl.refl state

/-- What follows an outcome may assume it. -/
theorem respects_outcome_bind [Std.Refl relation] {result : Except ε α}
    {rest : α → Transaction ε σ β}
    (second : ∀ value, result = .ok value → Respects relation (rest value)) :
    Respects relation (outcome result >>= rest) := by
  cases result with
  | ok value => exact second value rfl
  | error exception => exact fun state => Std.Refl.refl state

/-- **Sequencing rule.** -/
theorem respects_bind [IsTrans σ relation] {block : Transaction ε σ α}
    {rest : α → Transaction ε σ β} (first : Respects relation block)
    (second : ∀ value, Respects relation (rest value)) : Respects relation (block >>= rest) := by
  intro state
  have before := first state
  rcases ran : block state with ⟨result, after⟩
  rw [ran] at before
  cases result with
  | ok value =>
      rw [bind_of_ok ran]
      exact IsTrans.trans _ _ _ before (second value after)
  | error exception =>
      rw [bind_of_error ran]
      exact before

/-- **Undoing rule.** -/
theorem respects_orUndo (undo : σ → σ → σ) {block : Transaction ε σ α}
    (inside : Respects relation block)
    (undone : ∀ before after, relation before after → relation before (undo before after)) :
    Respects relation (orUndo undo block) := by
  intro state
  have kept := inside state
  rcases ran : block state with ⟨result, after⟩
  rw [ran] at kept
  cases result with
  | ok value =>
      rw [orUndo_of_ok ran]
      exact kept
  | error exception =>
      rw [orUndo_of_error ran]
      exact undone state after kept

end Respects

end Transaction

end Foundations

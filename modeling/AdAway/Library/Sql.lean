import Mathlib.Data.Int.Basic
import Mathlib.Data.List.Nodup
import Mathlib.Logic.Function.Basic

/-!
# A relational database and its scripts

Tables, indexes and views, and the statements that a migration runs on them. A script is a list of
statements, and it is refused as a whole when one of its statements is: when a name is taken or
missing, or when a constraint does not hold of the table that a statement leaves.

A row is a function of the columns. Expressions and conditions of a statement are functions of a
row, so a statement names only columns that are there. The rows of a table are in the order in which
a query returns them. Uniqueness is that of columns that are never null. Foreign keys are not
enforced.

## Main definitions

* `Value`, `Row`, `Column`, `Table`, `Index`, `Database` — what there is
* `Table.Satisfies` — the constraints of a table
* `Statement`, `Statement.exec`, `run` — statements and scripts

## Main results

* `Table.Satisfies.addColumn`, `update`, `delete` — statements that break no constraint
* `Table.insertAll_eq` — the rows that are inserted with generated keys
* `Table.map_numberFrom`, `nodup_numberFrom` — these rows but for their keys, and the keys
-/

namespace Sql

/-! ### Values and tables -/

/-- A value of a column. -/
inductive Value
  | null
  | integer (n : ℤ)
  | text (s : String)
  deriving DecidableEq, Repr

/-- The type of a column. -/
inductive ColumnType
  | integer
  | text
  deriving DecidableEq, Repr

/-- `v / k`. The quotient of two integers is rounded towards zero. -/
def Value.div (v : Value) (k : ℤ) : Value :=
  match v with
  | .integer n => .integer (n.tdiv k)
  | _ => .null

variable {ν γ : Type}

/-- The definition of a column. -/
structure Column (γ : Type) where
  name : γ
  type : ColumnType
  notNull : Bool
  /-- `DEFAULT`. -/
  defaultValue : Value := .null
  deriving DecidableEq

/-- The column may hold the value. -/
def Column.accepts (c : Column γ) : Value → Bool
  | .null => !c.notNull
  | .integer _ => c.type = .integer
  | .text _ => c.type = .text

/-- The values of a row. -/
abbrev Row (γ : Type) := γ → Value

/-- A table. -/
structure Table (γ : Type) where
  columns : List (Column γ)
  primaryKey : γ
  /-- The key is generated when an insert does not give it. -/
  autoincrement : Bool
  rows : List (Row γ)
  /-- The last key generated. -/
  sequence : ℤ

/-- An index on a column. -/
structure Index (ν γ : Type) where
  name : ν
  table : ν
  column : γ
  unique : Bool
  deriving DecidableEq

/-- A database. -/
structure Database (ν γ : Type) where
  tables : List (ν × Table γ)
  indexes : List (Index ν γ)
  views : List ν

/-! ### Constraints -/

/-- Each value fits its column, and the columns that have to be are unique. -/
def Table.Satisfies (t : Table γ) (unique : List γ) : Prop :=
  (∀ r ∈ t.rows, ∀ c ∈ t.columns, c.accepts (r c.name) = true) ∧
    ∀ c ∈ t.primaryKey :: unique, (t.rows.map fun r => r c).Nodup

instance (t : Table γ) (unique : List γ) : Decidable (t.Satisfies unique) := by
  unfold Table.Satisfies; infer_instance

variable [DecidableEq ν] [DecidableEq γ]

/-- The table of a name. -/
def Database.table? (db : Database ν γ) (name : ν) : Option (Table γ) := db.tables.lookup name

/-- Tables, indexes and views share their names. -/
def Database.isTaken (db : Database ν γ) (name : ν) : Bool :=
  (db.tables.any fun p => p.1 = name) || (db.indexes.any fun i => i.name = name) || name ∈ db.views

/-- The columns of a table with a unique index. -/
def Database.uniqueColumns (db : Database ν γ) (name : ν) : List γ :=
  (db.indexes.filter fun i => i.table = name ∧ i.unique).map Index.column

/-- All tables satisfy their constraints. -/
def Database.Valid (db : Database ν γ) : Prop :=
  ∀ p ∈ db.tables, p.2.Satisfies (db.uniqueColumns p.1)

instance (db : Database ν γ) : Decidable db.Valid := by unfold Database.Valid; infer_instance

/-- The database with another content of a table. -/
def Database.setTable (db : Database ν γ) (name : ν) (t : Table γ) : Database ν γ :=
  { db with tables := db.tables.map fun p => if p.1 = name then (name, t) else p }

/-- A statement leaves the table like this, unless it violates a constraint. -/
def Database.store (db : Database ν γ) (name : ν) (t : Table γ) : Option (Database ν γ) :=
  if t.Satisfies (db.uniqueColumns name) then some (db.setTable name t) else none

/-! ### What statements do to a table -/

/-- The row that an insert makes of the values it gives, where `n` is the next key. -/
def Table.newRow (t : Table γ) (n : ℤ) (values : List (γ × Value)) : Row γ := fun c =>
  match values.lookup c with
  | some v => v
  | none =>
    if t.autoincrement ∧ c = t.primaryKey then .integer n
    else (t.columns.find? fun d => d.name = c).elim .null Column.defaultValue

/-- `INSERT` of a row. -/
def Table.insert (t : Table γ) (values : List (γ × Value)) : Table γ :=
  { t with
    rows := t.rows ++ [t.newRow (t.sequence + 1) values]
    sequence :=
      match t.newRow (t.sequence + 1) values t.primaryKey with
      | .integer n => max t.sequence n
      | _ => t.sequence }

/-- `INSERT` of several rows. -/
def Table.insertAll (t : Table γ) (rows : List (List (γ × Value))) : Table γ :=
  rows.foldl Table.insert t

/-- What an update does to a row. -/
def updateRow (assign : Row γ → Row γ) (p : Row γ → Bool) (r : Row γ) : Row γ :=
  if p r then assign r else r

/-- `UPDATE`. -/
def Table.update (t : Table γ) (assign : Row γ → Row γ) (p : Row γ → Bool) : Table γ :=
  { t with rows := t.rows.map (updateRow assign p) }

/-- `DELETE`. -/
def Table.delete (t : Table γ) (p : Row γ → Bool) : Table γ :=
  { t with rows := t.rows.filter fun r => !p r }

/-- `ALTER TABLE … ADD`. -/
def Table.addColumn (t : Table γ) (c : Column γ) : Table γ :=
  { t with
    columns := t.columns ++ [c]
    rows := t.rows.map fun r => Function.update r c.name c.defaultValue }

/-! ### Statements -/

/-- The statements of a script. -/
inductive Statement (ν γ : Type)
  | createTable (ifNotExists : Bool) (name : ν) (columns : List (Column γ)) (primaryKey : γ)
    (autoincrement : Bool)
  | dropTable (name : ν)
  | renameTable (name newName : ν)
  | addColumn (table : ν) (column : Column γ)
  | createIndex (ifNotExists : Bool) (index : Index ν γ)
  | dropIndex (name : ν)
  | createView (name : ν)
  | dropView (name : ν)
  | insert (table : ν) (values : List (γ × Value))
  | insertSelect (table : ν) (select : Row γ → List (γ × Value)) (source : ν)
  | update (table : ν) (assign : Row γ → Row γ) (p : Row γ → Bool)
  | delete (table : ν) (p : Row γ → Bool)

/-- One statement; `none` when it is refused. -/
def Statement.exec (db : Database ν γ) : Statement ν γ → Option (Database ν γ)
  | .createTable ifNotExists name columns primaryKey autoincrement =>
    if db.isTaken name then (if ifNotExists then some db else none)
    else
      some { db with tables := db.tables ++ [(name, ⟨columns, primaryKey, autoincrement, [], 0⟩)] }
  | .dropTable name =>
    (db.table? name).map fun _ =>
      { db with
        tables := db.tables.filter fun p => p.1 ≠ name
        indexes := db.indexes.filter fun i => i.table ≠ name }
  | .renameTable name newName =>
    if (db.table? name).isSome ∧ db.isTaken newName = false then
      some { db with
        tables := db.tables.map fun p => if p.1 = name then (newName, p.2) else p
        indexes := db.indexes.map fun i =>
          if i.table = name then { i with table := newName } else i }
    else none
  | .addColumn table column => do
    let t ← db.table? table
    if (t.columns.any fun c => c.name = column.name) ||
        !column.accepts column.defaultValue then none
    else db.store table (t.addColumn column)
  | .createIndex ifNotExists index =>
    if db.isTaken index.name then (if ifNotExists then some db else none)
    else do
      let t ← db.table? index.table
      if index.unique = true → (t.rows.map fun r => r index.column).Nodup then
        some { db with indexes := db.indexes ++ [index] }
      else none
  | .dropIndex name =>
    if db.indexes.any fun i => i.name = name then
      some { db with indexes := db.indexes.filter fun i => i.name ≠ name }
    else none
  | .createView name =>
    if db.isTaken name then none else some { db with views := db.views ++ [name] }
  | .dropView name =>
    if name ∈ db.views then some { db with views := db.views.filter fun n => n ≠ name } else none
  | .insert table values => do
    let t ← db.table? table
    db.store table (t.insert values)
  | .insertSelect table select source => do
    let t ← db.table? table
    let t' ← db.table? source
    db.store table (t.insertAll (t'.rows.map select))
  | .update table assign p => do
    let t ← db.table? table
    db.store table (t.update assign p)
  | .delete table p => do
    let t ← db.table? table
    return db.setTable table (t.delete p)

/-- A script. -/
def run (db : Database ν γ) (script : List (Statement ν γ)) : Option (Database ν γ) :=
  script.foldlM Statement.exec db

@[simp] theorem run_nil (db : Database ν γ) : run db [] = some db := rfl

theorem run_cons_of_some {db db' : Database ν γ} {st : Statement ν γ} (h : st.exec db = some db')
    (script : List (Statement ν γ)) : run db (st :: script) = run db' script := by
  rw [run, List.foldlM_cons, h]
  rfl

theorem run_cons_of_none {db : Database ν γ} {st : Statement ν γ} (h : st.exec db = none)
    (script : List (Statement ν γ)) : run db (st :: script) = none := by
  rw [run, List.foldlM_cons, h]
  rfl

theorem run_append (db : Database ν γ) (script script' : List (Statement ν γ)) :
    run db (script ++ script') = (run db script).bind fun db' => run db' script' :=
  List.foldlM_append

/-! ### Statements of a table that is there -/

section Exec

variable {db : Database ν γ} {name : ν} {t : Table γ}

omit [DecidableEq γ] in
theorem store_eq_some (h : t.Satisfies (db.uniqueColumns name)) :
    db.store name t = some (db.setTable name t) := if_pos h

theorem exec_addColumn (ht : db.table? name = some t) {c : Column γ}
    (hnew : ∀ d ∈ t.columns, d.name ≠ c.name) (hdefault : c.accepts c.defaultValue = true)
    (h : (t.addColumn c).Satisfies (db.uniqueColumns name)) :
    (Statement.addColumn name c).exec db = some (db.setTable name (t.addColumn c)) := by
  have hany : (t.columns.any fun d => d.name = c.name) = false := by
    rw [List.any_eq_false]
    exact fun d hd => by simpa using hnew d hd
  rw [Statement.exec, ht]
  show (if ((t.columns.any fun d => d.name = c.name) || !c.accepts c.defaultValue) = true then none
    else db.store name (t.addColumn c)) = _
  rw [hany, hdefault, if_neg (by decide), store_eq_some h]

theorem exec_update (ht : db.table? name = some t) {assign : Row γ → Row γ} {p : Row γ → Bool}
    (h : (t.update assign p).Satisfies (db.uniqueColumns name)) :
    (Statement.update name assign p).exec db = some (db.setTable name (t.update assign p)) := by
  rw [Statement.exec, ht]
  exact store_eq_some h

theorem exec_update_eq_none (ht : db.table? name = some t) {assign : Row γ → Row γ}
    {p : Row γ → Bool} (h : ¬ (t.update assign p).Satisfies (db.uniqueColumns name)) :
    (Statement.update name assign p).exec db = none := by
  rw [Statement.exec, ht]
  exact if_neg h

theorem exec_delete (ht : db.table? name = some t) (p : Row γ → Bool) :
    (Statement.delete name p).exec db = some (db.setTable name (t.delete p)) := by
  rw [Statement.exec, ht]
  rfl

theorem exec_insert (ht : db.table? name = some t) {values : List (γ × Value)}
    (h : (t.insert values).Satisfies (db.uniqueColumns name)) :
    (Statement.insert name values).exec db = some (db.setTable name (t.insert values)) := by
  rw [Statement.exec, ht]
  exact store_eq_some h

theorem exec_insertSelect (ht : db.table? name = some t) {source : ν} {t' : Table γ}
    (ht' : db.table? source = some t') {select : Row γ → List (γ × Value)}
    (h : (t.insertAll (t'.rows.map select)).Satisfies (db.uniqueColumns name)) :
    (Statement.insertSelect name select source).exec db
      = some (db.setTable name (t.insertAll (t'.rows.map select))) := by
  rw [Statement.exec, ht, ht']
  exact store_eq_some h

theorem exec_createIndex {ifNotExists : Bool} {index : Index ν γ}
    (hname : db.isTaken index.name = false) (ht : db.table? index.table = some t)
    (h : index.unique = true → (t.rows.map fun r => r index.column).Nodup) :
    (Statement.createIndex ifNotExists index).exec db
      = some { db with indexes := db.indexes ++ [index] } := by
  rw [Statement.exec, hname, if_neg Bool.false_ne_true, ht]
  exact if_pos h

theorem exec_createIndex_eq_none {ifNotExists : Bool} {index : Index ν γ}
    (hname : db.isTaken index.name = false) (ht : db.table? index.table = some t)
    (hunique : index.unique = true) (h : ¬ (t.rows.map fun r => r index.column).Nodup) :
    (Statement.createIndex ifNotExists index).exec db = none := by
  rw [Statement.exec, hname, if_neg Bool.false_ne_true, ht]
  exact if_neg fun hnodup => h (hnodup hunique)

end Exec

/-! ### Statements that break no constraint -/

namespace Table

variable {t : Table γ} {unique : List γ}

omit [DecidableEq γ] in
/-- Changing each row keeps the constraints when it keeps the unique columns. -/
theorem Satisfies.map (h : t.Satisfies unique) {columns : List (Column γ)} {f : Row γ → Row γ}
    (haccepts : ∀ r ∈ t.rows, ∀ c ∈ columns, c.accepts (f r c.name) = true)
    (hkeep : ∀ c ∈ t.primaryKey :: unique, ∀ r, f r c = r c) :
    ({ t with columns := columns, rows := t.rows.map f } : Table γ).Satisfies unique := by
  refine ⟨List.forall_mem_map.mpr haccepts, fun c hc => ?_⟩
  have hcolumn : (fun r => r c) ∘ f = fun r => r c := funext (hkeep c hc)
  show ((t.rows.map f).map fun r => r c).Nodup
  rw [List.map_map, hcolumn]
  exact h.2 c hc

theorem Satisfies.addColumn (h : t.Satisfies unique) {c : Column γ}
    (hnew : ∀ d ∈ t.columns, d.name ≠ c.name) (hkey : c.name ∉ t.primaryKey :: unique)
    (hdefault : c.accepts c.defaultValue = true) : (t.addColumn c).Satisfies unique := by
  refine h.map (fun r hr d hd => ?_) fun d hd r => ?_
  · rcases List.mem_append.mp hd with hd | hd
    · rw [Function.update_of_ne (hnew d hd)]
      exact h.1 r hr d hd
    · obtain rfl := List.mem_singleton.mp hd
      rw [Function.update_self]
      exact hdefault
  · have hne : d ≠ c.name := fun heq => hkey (heq ▸ hd)
    exact Function.update_of_ne hne _ _

theorem Satisfies.update (h : t.Satisfies unique) {column : γ} {value : Row γ → Value}
    {p : Row γ → Bool} (hkey : column ∉ t.primaryKey :: unique)
    (haccepts : ∀ r ∈ t.rows, ∀ c ∈ t.columns, c.name = column → c.accepts (value r) = true) :
    (t.update (fun r => Function.update r column (value r)) p).Satisfies unique := by
  refine h.map (fun r hr c hc => ?_) fun c hc r => ?_
  · by_cases hcolumn : c.name = column
    · rw [updateRow]
      split
      · rw [hcolumn, Function.update_self]
        exact haccepts r hr c hc hcolumn
      · exact h.1 r hr c hc
    · rw [updateRow]
      split
      · rw [Function.update_of_ne hcolumn]
        exact h.1 r hr c hc
      · exact h.1 r hr c hc
  · rw [updateRow]
    split
    · have hne : c ≠ column := fun heq => hkey (heq ▸ hc)
      exact Function.update_of_ne hne _ _
    · rfl

omit [DecidableEq γ] in
theorem Satisfies.delete (h : t.Satisfies unique) (p : Row γ → Bool) :
    (t.delete p).Satisfies unique :=
  ⟨fun r hr => h.1 r (List.mem_of_mem_filter hr),
    fun c hc => (List.filter_sublist.map _).nodup (h.2 c hc)⟩

/-! ### Inserting with generated keys -/

/-- Rows made with the numbers from `n` on. -/
def numberFrom {α β : Type} (make : ℤ → β → α) : ℤ → List β → List α
  | _, [] => []
  | n, b :: bs => make n b :: numberFrom make (n + 1) bs

theorem newRow_primaryKey (hauto : t.autoincrement = true) {values : List (γ × Value)}
    (hkey : values.lookup t.primaryKey = none) (n : ℤ) :
    t.newRow n values t.primaryKey = .integer n := by
  rw [newRow, hkey]
  exact if_pos ⟨hauto, rfl⟩

/-- An insert of several rows takes the next keys one by one. -/
theorem insertAll_eq (hauto : t.autoincrement = true) {rows : List (List (γ × Value))}
    (hkey : ∀ values ∈ rows, values.lookup t.primaryKey = none) :
    t.insertAll rows
      = ⟨t.columns, t.primaryKey, t.autoincrement,
          t.rows ++ numberFrom t.newRow (t.sequence + 1) rows, t.sequence + rows.length⟩ := by
  induction rows generalizing t with
  | nil =>
    have hrows : t.rows ++ numberFrom t.newRow (t.sequence + 1) [] = t.rows := List.append_nil _
    have hsequence : t.sequence + (([] : List (List (γ × Value))).length : ℤ) = t.sequence :=
      Int.add_zero _
    rw [hrows, hsequence]
    rfl
  | cons values rows ih =>
    rw [List.forall_mem_cons] at hkey
    have hmax : max t.sequence (t.sequence + 1) = t.sequence + 1 := by omega
    have hinsert : t.insert values = ⟨t.columns, t.primaryKey, t.autoincrement,
        t.rows ++ [t.newRow (t.sequence + 1) values], t.sequence + 1⟩ := by
      rw [Table.insert, newRow_primaryKey hauto hkey.1]
      show (⟨_, _, _, _, max t.sequence (t.sequence + 1)⟩ : Table γ) = _
      rw [hmax]
    have hsequence :
        t.sequence + 1 + (rows.length : ℤ) = t.sequence + ((values :: rows).length : ℤ) := by
      rw [List.length_cons]
      omega
    show (t.insert values).insertAll rows = _
    have hauto' : (t.insert values).autoincrement = true := hauto
    rw [ih hauto' hkey.2, hinsert]
    show (⟨_, _, _, _, t.sequence + 1 + (rows.length : ℤ)⟩ : Table γ) = _
    rw [hsequence, List.append_assoc]
    rfl

omit [DecidableEq γ] in
theorem numberFrom_map {α β δ : Type} (make : ℤ → β → α) (f : δ → β) (n : ℤ) (ds : List δ) :
    numberFrom make n (ds.map f) = numberFrom (fun k d => make k (f d)) n ds := by
  induction ds generalizing n with
  | nil => rfl
  | cons d ds ih => rw [List.map_cons, numberFrom, numberFrom, ih]

omit [DecidableEq γ] in
/-- What a map sees of the rows made that does not see their numbers. -/
theorem map_numberFrom {α β δ : Type} {make : ℤ → β → α} {proj : α → δ} {proj' : β → δ}
    {bs : List β}
    (hproj : ∀ n, ∀ b ∈ bs, proj (make n b) = proj' b) (n : ℤ) :
    (numberFrom make n bs).map proj = bs.map proj' := by
  induction bs generalizing n with
  | nil => rfl
  | cons b bs ih =>
    rw [numberFrom, List.map_cons, List.map_cons, hproj n b List.mem_cons_self,
      ih fun n b hb => hproj n b (List.mem_cons_of_mem _ hb)]

omit [DecidableEq γ] in
theorem mem_numberFrom {α β : Type} {make : ℤ → β → α} {n : ℤ} {bs : List β} {a : α}
    (ha : a ∈ numberFrom make n bs) : ∃ k, n ≤ k ∧ ∃ b ∈ bs, a = make k b := by
  induction bs generalizing n with
  | nil => exact absurd ha List.not_mem_nil
  | cons b bs ih =>
    rcases List.mem_cons.mp ha with rfl | ha
    · exact ⟨n, Int.le_refl n, b, List.mem_cons_self, rfl⟩
    · obtain ⟨k, hk, b', hb', rfl⟩ := ih ha
      exact ⟨k, by omega, b', List.mem_cons_of_mem b hb', rfl⟩

omit [DecidableEq γ] in
/-- Rows with different numbers as keys. -/
theorem nodup_numberFrom {α β δ : Type} {make : ℤ → β → α} {key : α → δ} {number : ℤ → δ}
    (hnumber : Function.Injective number) {bs : List β}
    (hkey : ∀ n, ∀ b ∈ bs, key (make n b) = number n) (n : ℤ) :
    ((numberFrom make n bs).map key).Nodup := by
  induction bs generalizing n with
  | nil => exact List.nodup_nil
  | cons b bs ih =>
    rw [numberFrom, List.map_cons, List.nodup_cons]
    refine ⟨fun hmem => ?_, ih (fun n b hb => hkey n b (List.mem_cons_of_mem _ hb)) (n + 1)⟩
    obtain ⟨a, ha, heq⟩ := List.mem_map.mp hmem
    obtain ⟨k, hk, b', hb', rfl⟩ := mem_numberFrom ha
    rw [hkey k b' (List.mem_cons_of_mem b hb'), hkey n b List.mem_cons_self] at heq
    have := hnumber heq
    omega

end Table

end Sql

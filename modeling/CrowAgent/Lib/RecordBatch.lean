import CrowAgent.Lib.FixedWidth
import Mathlib.Data.List.Induction

/-!
# Record batches

A record batch is a table of typed columns under a schema: as many columns as fields, each of its
field's type, all of one length.  A file of columns is read in batches, the chunks of the table that
was written; `readAll_chunks` says that reading them one after another gives the rows of the table,
whatever the sizes.
-/

namespace Columnar

open FixedWidth

inductive DataType : Type
  | utf8
  | int64
  | uint8
  | uint16
  | boolean
  deriving DecidableEq, Repr

structure Field : Type where
  name : String
  dataType : DataType
  nullable : Bool
  deriving DecidableEq, Repr

/-- A column without nulls. -/
inductive Column : Type
  | utf8 (values : List String)
  | int64 (values : List Int64)
  | uint8 (values : List UInt8)
  | uint16 (values : List UInt16)
  | boolean (values : List Bool)
  deriving DecidableEq, Repr

namespace Column

def dataType : Column → DataType
  | utf8 _ => .utf8
  | int64 _ => .int64
  | uint8 _ => .uint8
  | uint16 _ => .uint16
  | boolean _ => .boolean

def length : Column → Nat
  | utf8 values => values.length
  | int64 values => values.length
  | uint8 values => values.length
  | uint16 values => values.length
  | boolean values => values.length

/-- The first rows of a column, and the rows after them. -/
def take (count : Nat) : Column → Column
  | utf8 values => utf8 (values.take count)
  | int64 values => int64 (values.take count)
  | uint8 values => uint8 (values.take count)
  | uint16 values => uint16 (values.take count)
  | boolean values => boolean (values.take count)

def drop (count : Nat) : Column → Column
  | utf8 values => utf8 (values.drop count)
  | int64 values => int64 (values.drop count)
  | uint8 values => uint8 (values.drop count)
  | uint16 values => uint16 (values.drop count)
  | boolean values => boolean (values.drop count)

theorem dataType_take (count : Nat) (column : Column) :
    (column.take count).dataType = column.dataType := by
  cases column <;> rfl

theorem dataType_drop (count : Nat) (column : Column) :
    (column.drop count).dataType = column.dataType := by
  cases column <;> rfl

theorem length_take (count : Nat) (column : Column) :
    (column.take count).length = min count column.length := by
  cases column <;> exact List.length_take

theorem length_drop (count : Nat) (column : Column) :
    (column.drop count).length = column.length - count := by
  cases column <;> exact List.length_drop

/-- `downcast_ref` to an array of the type. -/
def asUtf8? : Column → Option (List String)
  | utf8 values => some values
  | _ => none

def asInt64? : Column → Option (List Int64)
  | int64 values => some values
  | _ => none

def asUInt8? : Column → Option (List UInt8)
  | uint8 values => some values
  | _ => none

def asUInt16? : Column → Option (List UInt16)
  | uint16 values => some values
  | _ => none

def asBoolean? : Column → Option (List Bool)
  | boolean values => some values
  | _ => none

end Column

/-- A table of columns that fit its schema and have one length. -/
@[ext] structure RecordBatch : Type where
  schema : List Field
  columns : List Column
  numRows : Nat
  types : columns.map Column.dataType = schema.map Field.dataType
  rows : ∀ column ∈ columns, column.length = numRows

namespace RecordBatch

/-- `RecordBatch::try_new`: the columns fit the schema and the length of the first one. -/
def tryNew? (schema : List Field) (columns : List Column) : Option RecordBatch :=
  match columns with
  | [] => none
  | first :: rest =>
    if fits : (first :: rest).map Column.dataType = schema.map Field.dataType ∧
        ∀ column ∈ first :: rest, column.length = first.length then
      some ⟨schema, first :: rest, first.length, fits.1, fits.2⟩
    else none

/-- The first rows of a batch, and the rows after them. -/
def take (count : Nat) (batch : RecordBatch) : RecordBatch where
  schema := batch.schema
  columns := batch.columns.map (Column.take count)
  numRows := min count batch.numRows
  types := by
    rw [← batch.types, List.map_map]
    exact List.map_congr_left fun column _ => column.dataType_take count
  rows := by
    intro column mem
    obtain ⟨whole, inside, rfl⟩ := List.mem_map.mp mem
    rw [Column.length_take, batch.rows whole inside]

def drop (count : Nat) (batch : RecordBatch) : RecordBatch where
  schema := batch.schema
  columns := batch.columns.map (Column.drop count)
  numRows := batch.numRows - count
  types := by
    rw [← batch.types, List.map_map]
    exact List.map_congr_left fun column _ => column.dataType_drop count
  rows := by
    intro column mem
    obtain ⟨whole, inside, rfl⟩ := List.mem_map.mp mem
    rw [Column.length_drop, batch.rows whole inside]

/-- The batch in pieces of the given sizes. -/
def chunks (batch : RecordBatch) : List Nat → List RecordBatch
  | [] => []
  | size :: rest => batch.take size :: (batch.drop size).chunks rest

/-- A column of a batch; there has to be one. -/
def column {ε : Type} (batch : RecordBatch) (index : Nat) : Exec ε Column :=
  match batch.columns[index]? with
  | some column => .ok column
  | none => .error .trap

end RecordBatch

/-- The value of a row; there has to be one. -/
def valueAt {ε α : Type} (values : List α) (row : Nat) : Exec ε α :=
  match values[row]? with
  | some value => .ok value
  | none => .error .trap

section Reading

variable {ε α : Type} {toBatch : List α → RecordBatch} {ofBatch : RecordBatch → Exec ε (List α)}

/-- Read one batch after another. -/
def readAll (ofBatch : RecordBatch → Exec ε (List α)) (broken : ε)
    (batches : List (Option RecordBatch)) : Exec ε (List α) :=
  batches.foldlM (fun rows batch => do
    let batch ← okOr batch broken
    let more ← ofBatch batch
    return rows ++ more) []

/-- The rows of a table are in the batch it makes, and their pieces in its pieces. -/
structure Tabulates (toBatch : List α → RecordBatch) : Prop where
  numRows : ∀ rows, (toBatch rows).numRows = rows.length
  take : ∀ count rows, (toBatch rows).take count = toBatch (rows.take count)
  drop : ∀ count rows, (toBatch rows).drop count = toBatch (rows.drop count)

/-- **Reading in batches.**  The rows of the pieces of a table are the rows of the table. -/
theorem readAll_chunks (tabulates : Tabulates toBatch)
    (read : ∀ rows, ofBatch (toBatch rows) = .ok rows) {broken : ε} {rows : List α}
    {sizes : List Nat} (whole : sizes.sum = rows.length) :
    readAll ofBatch broken (((toBatch rows).chunks sizes).map some) = .ok rows := by
  have from' : ∀ (sizes : List Nat) (front rows : List α), sizes.sum = rows.length →
      (((toBatch rows).chunks sizes).map some).foldlM (fun rows batch => do
        let batch ← okOr batch broken
        let more ← ofBatch batch
        return rows ++ more) front = .ok (front ++ rows) := by
    intro sizes
    induction sizes with
    | nil =>
      intro front rows whole
      rw [List.eq_nil_of_length_eq_zero whole.symm, List.append_nil]
      rfl
    | cons size sizes ih =>
      intro front rows whole
      rw [List.sum_cons] at whole
      rw [RecordBatch.chunks, List.map_cons, List.foldlM_cons, bind_eq_ok]
      refine ⟨front ++ rows.take size, ?_, ?_⟩
      · rw [tabulates.take]
        simp only [okOr, bind, Except.bind, read]
        rfl
      · rw [tabulates.drop, ih _ _ (by rw [List.length_drop]; omega), List.append_assoc,
          List.take_append_drop]
  exact from' sizes [] rows whole

/-- Rows that are read by their numbers are the rows. -/
theorem mapM_range {rows : List α} {row : Nat → Exec ε α}
    (read : ∀ index value, rows[index]? = some value → row index = .ok value) :
    (List.range rows.length).mapM row = .ok rows := by
  induction rows using List.reverseRecOn with
  | nil => rfl
  | append_singleton front last ih =>
    have first := ih fun index value found => read index value (by
      rw [List.getElem?_append_left (List.getElem?_eq_some_iff.mp found).1, found])
    have final := read front.length last (by simp)
    rw [List.length_append, List.length_singleton, List.range_succ, List.mapM_append, first]
    simp only [List.mapM_cons, List.mapM_nil, bind, Except.bind, final]
    rfl

end Reading

end Columnar

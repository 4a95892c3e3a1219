import CrowAgent.Dataset.Candles
import CrowAgent.Lib.RecordBatch

/-!
# Tables of candles and of instruments

Candles and instruments as columns under the two schemas of a dataset, and the rows that are read
from columns by position and type.
-/

namespace CrowAgent

open FixedWidth Columnar

/-! ## Columns -/

def candleSchema : List Field := [
  { name := "symbol", dataType := .utf8, nullable := false },
  { name := "open_time_ms", dataType := .int64, nullable := false },
  { name := "close_time_ms", dataType := .int64, nullable := false },
  { name := "open_micro_usdc", dataType := .int64, nullable := false },
  { name := "high_micro_usdc", dataType := .int64, nullable := false },
  { name := "low_micro_usdc", dataType := .int64, nullable := false },
  { name := "close_micro_usdc", dataType := .int64, nullable := false },
  { name := "volume_e8", dataType := .int64, nullable := false },
  { name := "funding_rate_e12", dataType := .int64, nullable := false },
  { name := "size_decimals", dataType := .uint8, nullable := false }]

def candleColumns (candles : List CandleV1) : List Column := [
  .utf8 (candles.map (·.symbol)),
  .int64 (candles.map (·.openTimeMs)),
  .int64 (candles.map (·.closeTimeMs)),
  .int64 (candles.map (·.openMicroUsdc)),
  .int64 (candles.map (·.highMicroUsdc)),
  .int64 (candles.map (·.lowMicroUsdc)),
  .int64 (candles.map (·.closeMicroUsdc)),
  .int64 (candles.map (·.volumeE8)),
  .int64 (candles.map (·.fundingRateE12)),
  .uint8 (candles.map (·.sizeDecimals))]

def candleBatch (candles : List CandleV1) : Exec DatasetError RecordBatch :=
  okOr (RecordBatch.tryNew? candleSchema (candleColumns candles)) .arrow

def instrumentSchema : List Field := [
  { name := "symbol", dataType := .utf8, nullable := false },
  { name := "size_decimals", dataType := .uint8, nullable := false },
  { name := "max_leverage", dataType := .uint16, nullable := false },
  { name := "is_delisted", dataType := .boolean, nullable := false }]

def instrumentColumns (instruments : List InstrumentV1) : List Column := [
  .utf8 (instruments.map (·.symbol)),
  .uint8 (instruments.map (·.sizeDecimals)),
  .uint16 (instruments.map (·.maxLeverage)),
  .boolean (instruments.map (·.isDelisted))]

def instrumentBatch (instruments : List InstrumentV1) : Exec DatasetError RecordBatch :=
  okOr (RecordBatch.tryNew? instrumentSchema (instrumentColumns instruments)) .arrow

/-- A column of a batch as an array of a type. -/
def downcast {α : Type} (batch : RecordBatch) (index : Nat) (as? : Column → Option (List α)) :
    Exec DatasetError (List α) := do
  let column ← batch.column index
  okOr (as? column) .column

/-- A value of one of several columns. -/
def integerAt (integers : List (List Int64)) (row index : Nat) : Exec DatasetError Int64 := do
  let values ← valueAt integers index
  valueAt values row

/-- A row of candles: its symbol, its integers in the order of their columns, its decimals. -/
def candleRow (symbol : List String) (integers : List (List Int64)) (sizeDecimals : List UInt8)
    (row : Nat) : Exec DatasetError CandleV1 := do
  let symbol ← valueAt symbol row
  let openTimeMs ← integerAt integers row 0
  let closeTimeMs ← integerAt integers row 1
  let openMicroUsdc ← integerAt integers row 2
  let highMicroUsdc ← integerAt integers row 3
  let lowMicroUsdc ← integerAt integers row 4
  let closeMicroUsdc ← integerAt integers row 5
  let volumeE8 ← integerAt integers row 6
  let fundingRateE12 ← integerAt integers row 7
  let sizeDecimals ← valueAt sizeDecimals row
  return {
    symbol, openTimeMs, closeTimeMs, openMicroUsdc, highMicroUsdc, lowMicroUsdc, closeMicroUsdc,
    volumeE8, fundingRateE12, sizeDecimals }

def candlesFromBatch (batch : RecordBatch) : Exec DatasetError (List CandleV1) := do
  rejectIf (batch.schema ≠ candleSchema) .column
  let symbol ← downcast batch 0 Column.asUtf8?
  let integers ← (List.range' 1 8).mapM fun index => downcast batch index Column.asInt64?
  let sizeDecimals ← downcast batch 9 Column.asUInt8?
  (List.range batch.numRows).mapM (candleRow symbol integers sizeDecimals)

def instrumentRow (symbol : List String) (sizeDecimals : List UInt8) (maxLeverage : List UInt16)
    (isDelisted : List Bool) (row : Nat) : Exec DatasetError InstrumentV1 := do
  let symbol ← valueAt symbol row
  let sizeDecimals ← valueAt sizeDecimals row
  let maxLeverage ← valueAt maxLeverage row
  let isDelisted ← valueAt isDelisted row
  return { symbol, sizeDecimals, maxLeverage, isDelisted }

def instrumentsFromBatch (batch : RecordBatch) : Exec DatasetError (List InstrumentV1) := do
  rejectIf (batch.schema ≠ instrumentSchema) .column
  let symbol ← downcast batch 0 Column.asUtf8?
  let sizeDecimals ← downcast batch 1 Column.asUInt8?
  let maxLeverage ← downcast batch 2 Column.asUInt16?
  let isDelisted ← downcast batch 3 Column.asBoolean?
  (List.range batch.numRows).mapM (instrumentRow symbol sizeDecimals maxLeverage isDelisted)

/-! ## Tables of candles and of instruments -/

def candleTable (candles : List CandleV1) : RecordBatch where
  schema := candleSchema
  columns := candleColumns candles
  numRows := candles.length
  types := rfl
  rows := by simp [candleColumns, Column.length]

def instrumentTable (instruments : List InstrumentV1) : RecordBatch where
  schema := instrumentSchema
  columns := instrumentColumns instruments
  numRows := instruments.length
  types := rfl
  rows := by simp [instrumentColumns, Column.length]

/-- Columns that make a batch are accepted as one. -/
theorem tryNew?_eq_some {batch : RecordBatch} (some : batch.columns ≠ []) :
    RecordBatch.tryNew? batch.schema batch.columns = .some batch := by
  obtain ⟨schema, columns, numRows, types, rows⟩ := batch
  cases columns with
  | nil => exact absurd rfl some
  | cons first rest =>
    have length : first.length = numRows := rows first List.mem_cons_self
    subst length
    rw [RecordBatch.tryNew?, dif_pos ⟨types, rows⟩]

theorem candleBatch_eq (candles : List CandleV1) :
    candleBatch candles = .ok (candleTable candles) :=
  okOr_eq_ok.mpr (@tryNew?_eq_some (candleTable candles) (List.cons_ne_nil _ _))

theorem instrumentBatch_eq (instruments : List InstrumentV1) :
    instrumentBatch instruments = .ok (instrumentTable instruments) :=
  okOr_eq_ok.mpr (@tryNew?_eq_some (instrumentTable instruments) (List.cons_ne_nil _ _))

theorem tabulates_candleTable : Tabulates candleTable where
  numRows := fun _ => rfl
  take := by
    intro count candles
    ext1
    · rfl
    · simp [RecordBatch.take, candleTable, candleColumns, Column.take, List.map_take]
    · simp [RecordBatch.take, candleTable]
  drop := by
    intro count candles
    ext1
    · rfl
    · simp [RecordBatch.drop, candleTable, candleColumns, Column.drop, List.map_drop]
    · simp [RecordBatch.drop, candleTable]

theorem tabulates_instrumentTable : Tabulates instrumentTable where
  numRows := fun _ => rfl
  take := by
    intro count instruments
    ext1
    · rfl
    · simp [RecordBatch.take, instrumentTable, instrumentColumns, Column.take, List.map_take]
    · simp [RecordBatch.take, instrumentTable]
  drop := by
    intro count instruments
    ext1
    · rfl
    · simp [RecordBatch.drop, instrumentTable, instrumentColumns, Column.drop, List.map_drop]
    · simp [RecordBatch.drop, instrumentTable]

theorem valueAt_map {ε α β : Type} {rows : List α} {get : α → β} {index : Nat} {row : α}
    (found : rows[index]? = some row) :
    (valueAt (rows.map get) index : Exec ε β) = .ok (get row) := by
  rw [valueAt, List.getElem?_map, found]
  rfl

theorem integerAt_map {integers : List (List Int64)} {candles : List CandleV1}
    {get : CandleV1 → Int64} {column index : Nat} {candle : CandleV1}
    (isColumn : integers[column]? = some (candles.map get))
    (found : candles[index]? = some candle) :
    integerAt integers index column = .ok (get candle) := by
  rw [integerAt, valueAt, isColumn]
  exact valueAt_map found

/-- **The columns of a table of candles are read as the candles.** -/
theorem candlesFromBatch_candleTable (candles : List CandleV1) :
    candlesFromBatch (candleTable candles) = .ok candles := by
  have integers : (List.range' 1 8).mapM
      (fun index => downcast (candleTable candles) index Column.asInt64?) = .ok [
        candles.map (·.openTimeMs), candles.map (·.closeTimeMs), candles.map (·.openMicroUsdc),
        candles.map (·.highMicroUsdc), candles.map (·.lowMicroUsdc), candles.map (·.closeMicroUsdc),
        candles.map (·.volumeE8), candles.map (·.fundingRateE12)] := rfl
  rw [candlesFromBatch, integers]
  refine mapM_range fun index candle found => ?_
  simp only [candleRow, bind_eq_ok]
  exact ⟨_, valueAt_map found, _, integerAt_map rfl found, _, integerAt_map rfl found,
    _, integerAt_map rfl found, _, integerAt_map rfl found, _, integerAt_map rfl found,
    _, integerAt_map rfl found, _, integerAt_map rfl found, _, integerAt_map rfl found,
    _, valueAt_map found, rfl⟩

theorem instrumentsFromBatch_instrumentTable (instruments : List InstrumentV1) :
    instrumentsFromBatch (instrumentTable instruments) = .ok instruments := by
  rw [instrumentsFromBatch]
  refine mapM_range fun index instrument found => ?_
  simp only [instrumentRow, bind_eq_ok]
  exact ⟨_, valueAt_map found, _, valueAt_map found, _, valueAt_map found, _, valueAt_map found,
    rfl⟩

end CrowAgent

import ConfluxQuery.Verif.ResultSources

/-!
# Cutting rows out of batches

The loop of `slice_batches`, which `load_page` repeats over a spill file, keeps the row number of
the next batch in a counter of 64 bits. Whatever the counter does, every slice lies inside its batch
and has a row, and both storages give the same pieces. The pieces have the rows asked for, for all
bounds, just where no batch carries the counter past its last value.
-/

namespace ConfluxQuery

/-- A call of `slice` on a batch. -/
structure Cut where
  batch : RecordBatch
  /-- First row of the slice. -/
  offset : Nat
  length : Nat

/-- What the call gives. -/
def Cut.piece (cut : Cut) : RecordBatch := cut.batch.slice cut.offset cut.length

/-- The slice lies inside its batch and has a row. -/
def Cut.Inside (cut : Cut) : Prop :=
  0 < cut.length ∧ cut.offset + cut.length ≤ cut.batch.numRows

/-- The call of `slice` on the batch at `cursor`, if there is one. -/
def cutAt (start stop cursor : Nat) (batch : RecordBatch) : List Cut :=
  let first := max start cursor
  let last := min stop (wrappingAdd cursor batch.numRows)
  if first < last then [⟨batch, first - cursor, last - first⟩] else []

/-- The calls of `slice` that the loop makes, from the batch at `cursor` on. -/
def cutsFrom (start stop : Nat) : Nat → List RecordBatch → List Cut
  | _, [] => []
  | cursor, batch :: rest =>
    let batchEnd := wrappingAdd cursor batch.numRows
    let here := cutAt start stop cursor batch
    if batchEnd ≥ stop then here else here ++ cutsFrom start stop batchEnd rest

/-- The pieces of the loop are what its calls of `slice` give. -/
theorem sliceFrom_eq_cuts (start stop cursor : Nat) (batches : List RecordBatch) :
    sliceFrom start stop cursor batches = (cutsFrom start stop cursor batches).map Cut.piece := by
  induction batches generalizing cursor with
  | nil => rfl
  | cons batch rest step =>
    have here : overlap start stop cursor (wrappingAdd cursor batch.numRows) batch =
        (cutAt start stop cursor batch).map Cut.piece := by
      rw [overlap, cutAt]
      split <;> rfl
    rw [sliceFrom, cutsFrom, here]
    split
    · rfl
    · rw [List.map_append, step]

theorem wrappingAdd_le (one other : Nat) : wrappingAdd one other ≤ one + other := Nat.mod_le _ _

theorem inside_of_mem_cuts {start stop cursor : Nat} {batches : List RecordBatch} {cut : Cut}
    (member : cut ∈ cutsFrom start stop cursor batches) : cut.Inside ∧ cut.batch ∈ batches := by
  induction batches generalizing cursor with
  | nil => cases member
  | cons batch rest step =>
    have bound := wrappingAdd_le cursor batch.numRows
    have here : cut ∈ cutAt start stop cursor batch → cut.Inside ∧ cut.batch ∈ batch :: rest := by
      intro listed
      rw [cutAt] at listed
      split at listed
      · cases List.mem_singleton.mp listed
        simp only [Cut.Inside, List.mem_cons_self, and_true]
        omega
      · cases listed
    have later : cut ∈ cutsFrom start stop (wrappingAdd cursor batch.numRows) rest →
        cut.Inside ∧ cut.batch ∈ batch :: rest :=
      fun listed => (step listed).imp_right (List.mem_cons_of_mem _)
    rw [cutsFrom] at member
    split at member
    · exact here member
    · exact (List.mem_append.mp member).elim here later

/-- A slice inside its batch has a row. -/
theorem Cut.Inside.rows_ne_nil {cut : Cut} (inside : cut.Inside) : cut.piece.rows ≠ [] := by
  obtain ⟨positive, within⟩ := inside
  intro none
  have length := congrArg List.length none
  rw [RecordBatch.numRows] at within
  simp only [Cut.piece, RecordBatch.slice, List.length_take, List.length_drop, List.length_nil]
    at length
  omega

theorem mem_sliceFrom {start stop cursor : Nat} {batches : List RecordBatch} {piece : RecordBatch}
    (member : piece ∈ sliceFrom start stop cursor batches) :
    piece.rows ≠ [] ∧ ∃ batch ∈ batches, piece.schema = batch.schema := by
  rw [sliceFrom_eq_cuts] at member
  obtain ⟨cut, listed, rfl⟩ := List.mem_map.mp member
  obtain ⟨inside, known⟩ := inside_of_mem_cuts listed
  exact ⟨inside.rows_ne_nil, cut.batch, known, rfl⟩

section Counting

/-- Rows of two sequences of batches. -/
theorem rowsOf_append (one other : List RecordBatch) :
    rowsOf (one ++ other) = rowsOf one ++ rowsOf other := by
  simp [rowsOf]

/-- Number of rows the loop gives from the batch at `cursor` on. -/
def rowCount (start stop cursor : Nat) (batches : List RecordBatch) : Nat :=
  (rowsOf (sliceFrom start stop cursor batches)).length

theorem length_rowsOf_overlap (start stop cursor : Nat) (batch : RecordBatch) :
    (rowsOf (overlap start stop cursor (wrappingAdd cursor batch.numRows) batch)).length =
      min stop (wrappingAdd cursor batch.numRows) - max start cursor := by
  have bound := wrappingAdd_le cursor batch.numRows
  rw [overlap]
  split
  · simp only [rowsOf, RecordBatch.slice, List.flatMap_cons, List.flatMap_nil, List.append_nil,
      List.length_take, List.length_drop, RecordBatch.numRows] at bound ⊢
    omega
  · simp only [rowsOf, List.flatMap_nil, List.length_nil]
    omega

theorem rowCount_cons (start stop cursor : Nat) (batch : RecordBatch) (rest : List RecordBatch) :
    rowCount start stop cursor (batch :: rest) =
      min stop (wrappingAdd cursor batch.numRows) - max start cursor +
        if wrappingAdd cursor batch.numRows ≥ stop then 0
        else rowCount start stop (wrappingAdd cursor batch.numRows) rest := by
  rw [rowCount, sliceFrom]
  split
  · exact length_rowsOf_overlap start stop cursor batch
  · rw [rowsOf_append, List.length_append, length_rowsOf_overlap, rowCount]

theorem rowCount_le (start stop cursor : Nat) (batches : List RecordBatch) :
    rowCount start stop cursor batches ≤ totalRows batches := by
  induction batches generalizing cursor with
  | nil => exact Nat.le_refl _
  | cons batch rest step =>
    have bound := wrappingAdd_le cursor batch.numRows
    have later := step (wrappingAdd cursor batch.numRows)
    rw [rowCount_cons, totalRows_cons]
    split <;> omega

theorem rowCount_lt (start stop : Nat) {cursor : Nat} (within : cursor < 2 ^ 64)
    (batches : List RecordBatch)
    (overflows : 2 ^ 64 ≤ cursor + totalRows batches) :
    rowCount start stop cursor batches < totalRows batches := by
  induction batches generalizing cursor with
  | nil =>
    have nothing : cursor + totalRows [] = cursor := rfl
    omega
  | cons batch rest step =>
    have later := rowCount_le start stop (wrappingAdd cursor batch.numRows) rest
    rw [totalRows_cons] at overflows ⊢
    rw [rowCount_cons]
    by_cases fits : cursor + batch.numRows < 2 ^ 64
    · have unwrapped : wrappingAdd cursor batch.numRows = cursor + batch.numRows :=
        Nat.mod_eq_of_lt fits
      have further := step fits (by omega)
      rw [unwrapped] at later ⊢
      split <;> omega
    · -- the counter wraps within this batch, which is then cut short
      have wrapped : wrappingAdd cursor batch.numRows < cursor + batch.numRows := by
        rw [wrappingAdd]
        omega
      split <;> omega

theorem rowCount_mono {start start' : Nat} (earlier : start' ≤ start) (stop cursor : Nat)
    (batches : List RecordBatch) :
    rowCount start stop cursor batches ≤ rowCount start' stop cursor batches := by
  induction batches generalizing cursor with
  | nil => exact Nat.le_refl _
  | cons batch rest step =>
    have later := step (wrappingAdd cursor batch.numRows)
    rw [rowCount_cons, rowCount_cons]
    split <;> omega

/-- Batches that end before `stop` are passed over, and their rows from `start` on are given. -/
theorem rowCount_append {start stop cursor : Nat} {before : List RecordBatch}
    (short : cursor + totalRows before < stop) (fits : stop ≤ 2 ^ 64) (rest : List RecordBatch) :
    rowCount start stop cursor (before ++ rest) =
      cursor + totalRows before - max start cursor +
        rowCount start stop (cursor + totalRows before) rest := by
  induction before generalizing cursor with
  | nil =>
    have nothing : cursor + totalRows [] = cursor := rfl
    rw [nothing, List.nil_append]
    omega
  | cons batch before step =>
    rw [totalRows_cons] at short ⊢
    have unwrapped : wrappingAdd cursor batch.numRows = cursor + batch.numRows :=
      Nat.mod_eq_of_lt (by omega)
    rw [List.cons_append, rowCount_cons, unwrapped, if_neg (by omega), step (by omega),
      ← Nat.add_assoc cursor]
    omega

/-- A counter that comes to a row from below has passed the row before it. -/
theorem two_le_rowCount {row cursor : Nat} (fits : row + 1 < 2 ^ 64) (below : cursor < row)
    {batches : List RecordBatch} (counted : ∀ batch ∈ batches, batch.numRows < 2 ^ 64)
    (reached : 0 < rowCount row (row + 1) cursor batches) :
    2 ≤ rowCount (row - 1) (row + 1) cursor batches := by
  induction batches generalizing cursor with
  | nil => cases reached
  | cons batch rest step =>
    have small := counted batch List.mem_cons_self
    have later := fun lower => @step (wrappingAdd cursor batch.numRows) lower
      fun other member => counted other (List.mem_cons_of_mem _ member)
    have fewer := rowCount_mono (Nat.sub_le row 1) (row + 1) (wrappingAdd cursor batch.numRows) rest
    rw [rowCount_cons] at reached ⊢
    have turns : wrappingAdd cursor batch.numRows = cursor + batch.numRows ∨
        wrappingAdd cursor batch.numRows < cursor := by
      rw [wrappingAdd]
      omega
    split at reached <;> split <;> omega

end Counting

theorem totalRows_split (before : List RecordBatch) (batch : RecordBatch)
    (after : List RecordBatch) :
    totalRows (before ++ batch :: after) = totalRows before + batch.numRows + totalRows after := by
  simp only [totalRows, rowsOf_append, rowsOf_cons, List.length_append, RecordBatch.numRows]
  omega

/-- A batch carries the counter past its last value, with rows before that value. -/
def Straddles (batches : List RecordBatch) : Prop :=
  ∃ before batch after, batches = before ++ batch :: after ∧
    totalRows before + 1 < 2 ^ 64 ∧ 2 ^ 64 ≤ totalRows before + batch.numRows

/-- Batches whose rows can be counted do not straddle. -/
theorem not_straddles_of_fits {batches : List RecordBatch} (fits : totalRows batches < 2 ^ 64) :
    ¬ Straddles batches := by
  rintro ⟨before, batch, after, rfl, _, upper⟩
  rw [totalRows_split] at fits
  omega

/-- In batches with too many rows for the counter there is a first one that reaches past it. -/
theorem exists_crossing {batches : List RecordBatch} {cursor : Nat} (within : cursor < 2 ^ 64)
    (beyond : 2 ^ 64 ≤ cursor + totalRows batches) :
    ∃ before batch after, batches = before ++ batch :: after ∧
      cursor + totalRows before < 2 ^ 64 ∧
        2 ^ 64 ≤ cursor + totalRows before + batch.numRows := by
  induction batches generalizing cursor with
  | nil =>
    have nothing : cursor + totalRows [] = cursor := rfl
    omega
  | cons batch rest step =>
    rw [totalRows_cons] at beyond
    by_cases crosses : 2 ^ 64 ≤ cursor + batch.numRows
    · exact ⟨[], batch, rest, rfl, within, crosses⟩
    · obtain ⟨before, other, after, rfl, lower, upper⟩ :=
        @step (cursor + batch.numRows) (by omega) (by omega)
      refine ⟨batch :: before, other, after, rfl, ?_, ?_⟩ <;> rw [totalRows_cons] <;> omega

theorem sliceFrom_append {start stop cursor : Nat} {before : List RecordBatch}
    (goes : cursor < stop) (enough : stop ≤ cursor + totalRows before)
    (fits : cursor + totalRows before < 2 ^ 64) (rest : List RecordBatch) :
    sliceFrom start stop cursor (before ++ rest) = sliceFrom start stop cursor before := by
  induction before generalizing cursor with
  | nil =>
    have nothing : cursor + totalRows [] = cursor := rfl
    omega
  | cons batch before step =>
    rw [totalRows_cons] at enough fits
    have unwrapped : wrappingAdd cursor batch.numRows = cursor + batch.numRows :=
      Nat.mod_eq_of_lt (by omega)
    rw [List.cons_append, sliceFrom, sliceFrom, unwrapped]
    split
    · rfl
    · rw [step (by omega) (by omega) (by omega)]

/-- The rows that `slice_batches` gives for some bounds are those asked for. -/
def Sliced (batches : List RecordBatch) (start stop : Nat) : Prop :=
  rowsOf (sliceBatches batches start stop) =
    ((rowsOf batches).drop start).take (min stop (totalRows batches) - start)

theorem sliced_iff (batches : List RecordBatch) (start stop : Nat) :
    Sliced batches start stop ↔ rowsOf (sliceFrom start stop 0 batches) =
      ((rowsOf batches).take stop).drop start := by
  have same : ((rowsOf batches).drop start).take (min stop (totalRows batches) - start) =
      ((rowsOf batches).take stop).drop start := by
    rw [List.drop_take, List.take_eq_take_iff, List.length_drop, totalRows]
    omega
  rw [Sliced, same, sliceBatches]

/-- Where no batch straddles the end of the counter, the rows are those asked for. -/
theorem sliced_of_not_straddles {batches : List RecordBatch} (level : ¬ Straddles batches)
    {stop : Nat} (bounded : stop < 2 ^ 64) (start : Nat) : Sliced batches start stop := by
  rw [sliced_iff]
  rcases Nat.lt_or_ge (totalRows batches) (2 ^ 64) with fits | beyond
  · exact rowsOf_sliceFrom start stop batches 0 (by omega)
  obtain ⟨before, batch, after, rfl, lower, upper⟩ :=
    @exists_crossing batches 0 (by decide) (by omega)
  -- the first batch past the counter starts at its last value, and every range ends before it
  have seam : ¬ totalRows before + 1 < 2 ^ 64 := fun early =>
    level ⟨before, batch, after, rfl, early, by omega⟩
  rcases Nat.eq_zero_or_pos stop with rfl | positive
  · rw [sliceFrom_zero]
    simp [rowsOf]
  · rw [sliceFrom_append positive (by omega) lower, rowsOf_sliceFrom start stop before 0 lower,
      rowsOf_append, List.take_append_of_le_length (by rw [← totalRows]; omega)]
    rfl

/-- Number of rows asked for. -/
theorem Sliced.rowCount_eq {batches : List RecordBatch} {start stop : Nat}
    (sliced : Sliced batches start stop) :
    rowCount start stop 0 batches = min stop (totalRows batches) - start := by
  rw [sliced_iff] at sliced
  rw [rowCount, sliced, List.length_drop, List.length_take, totalRows]

/-- Where a batch straddles the end of the counter, some range is cut wrong: its first row is
missed, unless later batches are given in its place, and then a longer range has too many rows. -/
theorem Straddles.not_sliced {batches : List RecordBatch} (straddles : Straddles batches)
    (counted : ∀ batch ∈ batches, batch.numRows < 2 ^ 64) :
    ∃ start stop, start ≤ stop ∧ stop < 2 ^ 64 ∧ ¬ Sliced batches start stop := by
  obtain ⟨before, batch, after, rfl, lower, upper⟩ := straddles
  have small := counted batch (by simp)
  have total := totalRows_split before batch after
  have wrapped : wrappingAdd (totalRows before) batch.numRows < totalRows before := by
    rw [wrappingAdd]
    omega
  -- what the loop gives for a range that ends one row into the batch
  have count : ∀ start, start ≤ totalRows before →
      rowCount start (totalRows before + 1) 0 (before ++ batch :: after) =
        totalRows before - start + rowCount start (totalRows before + 1)
          (wrappingAdd (totalRows before) batch.numRows) after := by
    intro start early
    rw [rowCount_append (by omega) (by omega), Nat.zero_add, rowCount_cons, if_neg (by omega)]
    omega
  by_contra all
  push Not at all
  have one := (all (totalRows before) (totalRows before + 1) (by omega) lower).rowCount_eq
  have two := (all (totalRows before - 1) (totalRows before + 1) (by omega) lower).rowCount_eq
  rw [count _ (by omega), total] at one two
  have reached : 0 < rowCount (totalRows before) (totalRows before + 1)
      (wrappingAdd (totalRows before) batch.numRows) after := by omega
  have more := two_le_rowCount lower wrapped (fun other member => counted other (by simp [member]))
    reached
  omega

/-- For every sequence of batches, empty ones included: every slice lies inside its batch, no piece
is empty, a spill file with the same batches gives the same pieces, and the rows are those asked
for, for all bounds, just where no batch straddles the end of the counter. -/
theorem slices_exact_iff {S : Type} [ClusterStateStore S Payload] (viewer : Viewer) (file : IpcFile)
    (writing : Bool) (batches : List RecordBatch)
    (counted : ∀ batch ∈ batches, batch.numRows < 2 ^ 64)
    (held : viewer.reading.io.read file = .ok (batches.map .ok)) :
    (∀ start stop,
      sliceBatches batches start stop = (cutsFrom start stop 0 batches).map Cut.piece ∧
        (∀ cut ∈ cutsFrom start stop 0 batches, cut.Inside) ∧
        (∀ piece ∈ sliceBatches batches start stop, piece.rows ≠ []) ∧
        viewer.Ends S (Gateway.loadPage (.spill file writing) start stop)
          (.ok (sliceBatches batches start stop))) ∧
      ((∀ start stop, start ≤ stop → stop < 2 ^ 64 → Sliced batches start stop) ↔
        ¬ Straddles batches) := by
  refine ⟨fun start stop => ⟨sliceFrom_eq_cuts start stop 0 batches,
    fun cut listed => (inside_of_mem_cuts listed).1,
    fun piece member => (mem_sliceFrom member).1, ?_⟩, ?_, ?_⟩
  · have loads : viewer.Ends S (Gateway.loadPage (.spill file writing) start stop)
        (QueryRecord.opened viewer.reading.io file >>= loadFrom start stop 0) :=
      Viewer.Ends.opened fun entries => Viewer.ends_lift _
    rw [QueryRecord.opened, held] at loads
    exact (loadFrom_ok start stop 0 batches) ▸ loads
  · intro exact_ straddles
    obtain ⟨start, stop, ordered, bounded, wrong⟩ := straddles.not_sliced counted
    exact wrong (exact_ start stop ordered bounded)
  · intro level start stop _ bounded
    exact sliced_of_not_straddles level bounded start

/-- Alice asks the gateway for her query. -/
def Sample.pager : Viewer := ⟨gateway none, 0, reading, alice, "qcli_1"⟩

/-- Two rows from the second one on, out of three batches of which one is empty, in a spill file. -/
theorem slices_exact_small :
    let batches := [Sample.columnless [[], []], Sample.columnless [], Sample.columnless [[]]]
    Sliced batches 1 3 ∧ Sample.pager.Ends (MemoryState Payload)
      (Gateway.loadPage (.spill ⟨Schema.empty, batches, true, true⟩ false) 1 3)
      (.ok (sliceBatches batches 1 3)) := by
  intro batches
  obtain ⟨every, rows⟩ := slices_exact_iff (S := MemoryState Payload) Sample.pager
    ⟨Schema.empty, batches, true, true⟩ false batches (by decide) rfl
  obtain ⟨_, _, _, loaded⟩ := every 1 3
  exact ⟨rows.mpr (not_straddles_of_fits (by decide)) 1 3 (by decide) (by decide), loaded⟩

/-- The first row of the second of two batches of 2⁶³ rows is not found. -/
theorem slice_misses_overflowing :
    let tall := Sample.columnless (List.replicate (2 ^ 63) [])
    sliceBatches [tall, tall] (2 ^ 63) (2 ^ 63 + 1) = [] ∧
      ¬ Sliced [tall, tall] (2 ^ 63) (2 ^ 63 + 1) := by
  intro tall
  have height : tall.numRows = 2 ^ 63 := List.length_replicate
  have nothing : sliceBatches [tall, tall] (2 ^ 63) (2 ^ 63 + 1) = [] := by
    simp only [sliceBatches, sliceFrom, overlap, height]
    rfl
  refine ⟨nothing, fun sliced => ?_⟩
  have count := sliced.rowCount_eq
  rw [rowCount, ← sliceBatches, nothing, totalRows_cons, totalRows_cons, height] at count
  cases count

end ConfluxQuery

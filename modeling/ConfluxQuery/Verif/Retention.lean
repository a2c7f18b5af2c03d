import ConfluxQuery.Verif.Lifecycle

/-!
# Retained results

What a reader gets is what the adapter sent. A record without an error keeps exactly the batches its
collector has offered, in memory or in an intact spill file; every failure on the way leaves an
error, and a record with an error is never read. Pages are cut by row numbers in a fixed-width
counter, so they are right as long as the number of rows fits.
-/

namespace ConfluxQuery

/-- All rows of some batches, in order. -/
def rowsOf (batches : List RecordBatch) : List Row := batches.flatMap RecordBatch.rows

/-- Number of rows of some batches. -/
def totalRows (batches : List RecordBatch) : Nat := (rowsOf batches).length

/-- Rows of one more batch. -/
theorem rowsOf_cons (batch : RecordBatch) (rest : List RecordBatch) :
    rowsOf (batch :: rest) = batch.rows ++ rowsOf rest := by
  simp [rowsOf]

/-- Number of rows of one more batch. -/
theorem totalRows_cons (batch : RecordBatch) (rest : List RecordBatch) :
    totalRows (batch :: rest) = batch.numRows + totalRows rest := by
  simp [totalRows, rowsOf_cons, RecordBatch.numRows]

theorem totalRows_concat (batches : List RecordBatch) (batch : RecordBatch) :
    totalRows (batches ++ [batch]) = totalRows batches + batch.numRows := by
  simp [totalRows, rowsOf, RecordBatch.numRows]

/-- What a batch at `cursor` contributes to the rows from `start` to `stop`. -/
theorem rowsOf_overlap (start stop cursor : Nat) (batch : RecordBatch) :
    rowsOf (overlap start stop cursor (cursor + batch.numRows) batch) =
      (batch.rows.take (stop - cursor)).drop (start - cursor) := by
  unfold overlap RecordBatch.numRows
  simp only [List.drop_take]
  split
  · next inside =>
    simp only [rowsOf, RecordBatch.slice, List.flatMap_cons, List.flatMap_nil, List.append_nil]
    have first : max start cursor - cursor = start - cursor := by omega
    rw [first, List.take_eq_take_iff, List.length_drop]
    omega
  · next outside =>
    have nothing : (batch.rows.drop (start - cursor)).length = 0 ∨
        stop - cursor - (start - cursor) = 0 := by
      rw [List.length_drop]
      omega
    rcases nothing with short | zero
    · simp [rowsOf, List.eq_nil_of_length_eq_zero short]
    · simp [rowsOf, zero]

/-- Cutting rows out of batches gives the rows between the bounds, when their number fits. -/
theorem rowsOf_sliceFrom (start stop : Nat) (batches : List RecordBatch) (cursor : Nat)
    (fits : cursor + totalRows batches < 2 ^ 64) :
    rowsOf (sliceFrom start stop cursor batches) =
      ((rowsOf batches).take (stop - cursor)).drop (start - cursor) := by
  induction batches generalizing cursor with
  | nil => simp [sliceFrom, rowsOf]
  | cons batch rest step =>
    rw [totalRows_cons] at fits
    have unwrapped : wrappingAdd cursor batch.numRows = cursor + batch.numRows :=
      Nat.mod_eq_of_lt (by omega)
    simp only [sliceFrom, unwrapped, rowsOf_cons]
    split
    · next last =>
      rw [rowsOf_overlap, List.take_append_of_le_length]
      show stop - cursor ≤ batch.numRows
      omega
    · next more =>
      have whole : batch.rows.length ≤ stop - cursor := by
        show batch.numRows ≤ stop - cursor
        omega
      have appended : rowsOf (overlap start stop cursor (cursor + batch.numRows) batch ++
          sliceFrom start stop (cursor + batch.numRows) rest) =
          rowsOf (overlap start stop cursor (cursor + batch.numRows) batch) ++
          rowsOf (sliceFrom start stop (cursor + batch.numRows) rest) := by
        simp [rowsOf]
      rw [appended, rowsOf_overlap, step _ (by omega), List.take_append, List.drop_append,
        List.take_of_length_le whole]
      simp only [RecordBatch.numRows, Nat.sub_sub]

/-- There are no rows before the first. -/
theorem sliceFrom_zero (start cursor : Nat) (batches : List RecordBatch) :
    sliceFrom start 0 cursor batches = [] := by
  cases batches with
  | nil => rfl
  | cons batch rest => simp [sliceFrom, overlap]

/-- The rows between a page's bounds are the rows from its offset on, at least one of them and at
most `limit`, when their number fits. -/
theorem rowsOf_page (batches : List RecordBatch) (fits : totalRows batches < 2 ^ 64)
    (offset limit : Nat) :
    rowsOf (sliceBatches batches (pageBounds (totalRows batches) offset limit).1
      (pageBounds (totalRows batches) offset limit).2) =
        ((rowsOf batches).drop offset).take (max limit 1) := by
  rw [sliceBatches, rowsOf_sliceFrom _ _ _ _ (by omega)]
  simp only [Nat.sub_zero, List.drop_take, pageBounds, saturatingAdd, usizeMax]
  rcases Nat.le_total (totalRows batches) offset with beyond | within
  · have end_ : (rowsOf batches).length ≤ totalRows batches := Nat.le_refl _
    rw [Nat.min_eq_right beyond, List.drop_of_length_le end_, List.drop_of_length_le beyond]
    simp
  · rw [Nat.min_eq_left within, List.take_eq_take_iff, List.length_drop]
    unfold totalRows at fits within ⊢
    omega

/-- A page gives the requested rows when the number of all rows fits and the limit is positive or
nothing is left, and not otherwise. -/
theorem page_exact_iff (batches : List RecordBatch) (offset limit : Nat) :
    let rows := totalRows batches % 2 ^ 64
    let bounds := pageBounds rows offset limit
    (rows = totalRows batches ∧ rowsOf (sliceBatches batches bounds.1 bounds.2) =
        ((rowsOf batches).drop offset).take limit) ↔
      totalRows batches < 2 ^ 64 ∧ (0 < limit ∨ totalRows batches ≤ offset) := by
  intro rows bounds
  rcases Nat.lt_or_ge (totalRows batches) (2 ^ 64) with fits | overflows
  · have exact_ : rows = totalRows batches := Nat.mod_eq_of_lt fits
    have cut := rowsOf_page batches fits offset limit
    simp only [bounds, exact_, fits, true_and]
    rw [cut, List.take_eq_take_iff, List.length_drop]
    unfold totalRows
    omega
  · have wraps : rows < 2 ^ 64 := Nat.mod_lt _ (by decide)
    constructor
    · rintro ⟨same, _⟩
      omega
    · rintro ⟨fits, _⟩
      omega

/-- Every entry that can be read gives the batch of its position. -/
abbrev Matches (entries : FileReader) (batches : List RecordBatch) : Prop :=
  List.Forall₂ (fun entry batch => ∀ value, entry = .ok value → value = batch) entries batches

/-- Batches in memory match themselves. -/
theorem matches_memory (batches : List RecordBatch) : Matches (batches.map .ok) batches := by
  refine List.forall₂_map_left_iff.mpr (List.forall₂_same.mpr fun batch _ value same => ?_)
  cases same
  rfl

theorem loadFrom_eq {start stop cursor : Nat} {entries : FileReader} {batches : List RecordBatch}
    (matching : Matches entries batches) {loaded : List RecordBatch}
    (success : loadFrom start stop cursor entries = .ok loaded) :
    loaded = sliceFrom start stop cursor batches := by
  induction matching generalizing cursor loaded with
  | nil =>
    cases success
    rfl
  | @cons entry batch _ _ same _ step =>
    cases entry with
    | error message => cases success
    | ok value =>
      obtain rfl := same value rfl
      simp only [loadFrom, sliceFrom] at success ⊢
      split at success
      · next last =>
        cases success
        simp [last]
      · next more =>
        simp only [more, if_false]
        split at success
        · cases success
        · next rest loadedRest =>
          cases success
          rw [step loadedRest]

theorem readUpTo_eq {source : ReaderSource} {entries : FileReader} {batches : List RecordBatch}
    (matching : Matches entries batches) {fuel : Nat} (enough : entries.length < fuel)
    {read : List RecordBatch}
    (success : ResultBatchReader.readUpTo fuel ⟨source, entries, 0, none⟩ = .ok read) :
    read = batches := by
  induction matching generalizing fuel read with
  | nil =>
    cases fuel <;> cases success <;> rfl
  | @cons entry batch rest _ same _ step =>
    cases fuel with
    | zero => cases enough
    | succ fuel =>
      cases entry with
      | error message => cases success
      | ok value =>
        obtain rfl := same value rfl
        have next : ResultBatchReader.nextBatch ⟨source, .ok value :: rest, 0, none⟩ =
            .ok (some (value, ⟨source, rest, 0, none⟩)) := by
          simp [ResultBatchReader.nextBatch, ResultBatchReader.next]
        simp only [ResultBatchReader.readUpTo, next] at success
        split at success
        · cases success
        · next readRest =>
          cases success
          rw [step (by simpa using enough) readRest]

/-- The batch an operation offers to a record. -/
def Op.offers (reference : Nat) : Op → Option RecordBatch
  | .records (.collectBatch _ other batch) => if other = reference then some batch else none
  | _ => none

theorem Seen.collected_cons (reference : Nat) (act : Op) (reply : act.Reply) (trail : Seen) :
    Seen.collected reference (⟨act, reply⟩ :: trail) =
      Seen.collected reference trail ++ (act.offers reference).toList := by
  cases act with
  | records op =>
    cases op with
    | collectBatch limits other batch =>
      simp only [Seen.collected, Op.offers]
      split <;> simp
    | _ => simp [Seen.collected, Op.offers]
  | _ => simp [Seen.collected, Op.offers]

namespace ResultStorage

/-- The storage keeps some batches and takes more. -/
def Keeps (batches : List RecordBatch) : ResultStorage → Prop
  | memory kept => kept = batches
  | spill file writing => writing = true ∧ file.intact = true ∧ file.batches = batches

/-- The storage holds some batches for good. -/
def Seals (batches : List RecordBatch) : ResultStorage → Prop
  | memory kept => kept = batches
  | spill file writing =>
    writing = false ∧ file.intact = true ∧ file.finished = true ∧ file.batches = batches

end ResultStorage

/-- What retention is about: the error, the number of rows and the storage. -/
def QueryData.retention (data : QueryData) : Option QueryError × Nat × ResultStorage :=
  (data.error, data.rows, data.storage)

/-- A batch that was accepted is counted and kept with those before it. -/
theorem Stored.keeps {batch : RecordBatch} {data after : QueryData} {batches : List RecordBatch}
    (stored : Stored batch data (.ok (), after)) (kept : data.storage.Keeps batches) :
    after.error = data.error ∧ after.rows = wrappingAdd data.rows batch.numRows ∧
      after.retainedBytes = wrappingAdd data.retainedBytes batch.memorySize ∧
      after.storage.Keeps (batches ++ [batch]) := by
  cases stored with
  | accepted schema storage shape =>
    refine ⟨rfl, rfl, rfl, ?_⟩
    rcases shape with ⟨existing, memory, rfl⟩ | ⟨existing, file, memory, written, intact, rfl⟩ |
      ⟨file, spilled, rfl⟩
    · rw [memory] at kept
      cases kept
      rfl
    · rw [memory] at kept
      cases kept
      exact ⟨rfl, intact, written⟩
    · rw [spilled] at kept
      obtain ⟨_, intact, rfl⟩ := kept
      exact ⟨rfl, intact, rfl⟩

/-- The collector's section for a batch that leaves no error has retained the batch. -/
theorem collectBatch_keeps {limits : ServiceLimits} {io : FileIo} {batch : RecordBatch}
    {data : QueryData} {batches : List RecordBatch} (kept : data.storage.Keeps batches)
    (clean : (collectBatch limits io batch data).2.error = none) :
    data.error = none ∧
      (collectBatch limits io batch data).2.rows = wrappingAdd data.rows batch.numRows ∧
      (collectBatch limits io batch data).2.storage.Keeps (batches ++ [batch]) := by
  have stored := storeBatch_stored limits io batch data
  unfold collectBatch at clean ⊢
  split at clean
  · next after same =>
    rw [same] at stored
    obtain ⟨error, rows, _, held⟩ := stored.keeps kept
    exact ⟨error.symm.trans clean, rows, held⟩
  · cases clean

/-- Closing a result leaves errors and rows alone, and when it succeeds the storage is sealed. -/
theorem finishResults_seals (io : FileIo) (data : QueryData) :
    (finishResults io data).2.error = data.error ∧ (finishResults io data).2.rows = data.rows ∧
      ∀ batches, data.storage.Keeps batches → (finishResults io data).1 = .ok () →
        (finishResults io data).2.storage.Seals batches := by
  unfold finishResults
  split
  · next file spilled =>
    split
    · exact ⟨rfl, rfl, fun batches _ failed => by cases failed⟩
    · refine ⟨rfl, rfl, fun batches kept _ => ?_⟩
      rw [spilled] at kept
      exact ⟨rfl, kept.2.1, rfl, kept.2.2⟩
  · next spilled =>
    refine ⟨rfl, rfl, fun batches kept _ => ?_⟩
    rw [spilled] at kept
    cases kept.1
  · next memory =>
    refine ⟨rfl, rfl, fun batches kept _ => ?_⟩
    simp only [memory] at kept ⊢
    exact kept

/-- Sections that change what is retained of a record. -/
def RecordOp.Retains (reference : Nat) : RecordOp → Prop
  | collectBatch _ other _ | finishResults other | setError other _ | setErrorIfNone other _ =>
    other = reference
  | _ => False

theorem RecordOp.alter_retention (now : Nat) (io : FileIo) (reference : Nat) (op : RecordOp)
    (data : QueryData) (other : ¬op.Retains reference) :
    (op.alter now io reference data).retention = data.retention := by
  cases op with
  | pushEvent target event terminal =>
    simp only [RecordOp.alter]
    split
    · cases event <;> rfl
    · rfl
  | setEngineQueryId target id =>
    simp only [RecordOp.alter]
    split <;> rfl
  | collectBatch | finishResults | setError | setErrorIfNone =>
    simp only [RecordOp.Retains] at other
    simp only [RecordOp.alter, if_neg other]
  | len | countActive | activeQueryCount | insert | findOwned | cancelSession | cancelActive
  | retainUnexpired | cancel | inspect => rfl

/-- An error stays. -/
theorem RecordOp.alter_error (now : Nat) (io : FileIo) (reference : Nat) (op : RecordOp)
    (data : QueryData) (clean : (op.alter now io reference data).error = none) :
    data.error = none := by
  by_cases retains : op.Retains reference
  · cases op with
    | collectBatch limits target batch =>
      cases retains
      simp only [RecordOp.alter, if_true, ConfluxQuery.collectBatch] at clean
      have stored := storeBatch_stored limits io batch data
      split at clean
      · next same =>
        rw [same] at stored
        cases stored
        exact clean
      · cases clean
    | finishResults target =>
      cases retains
      simp only [RecordOp.alter, if_true] at clean
      exact (finishResults_seals io data).1 ▸ clean
    | setError target error =>
      cases retains
      simp [RecordOp.alter] at clean
    | setErrorIfNone target error =>
      cases retains
      simp [RecordOp.alter] at clean
    | _ => cases retains
  · have same : (op.alter now io reference data).error = data.error :=
      congrArg Prod.fst (op.alter_retention now io reference data retains)
    exact same ▸ clean

section

variable {S : Type}

/-- Batches that were offered to a record, oldest first. -/
def offered (place reference : Nat) : Past S → List RecordBatch
  | [] => []
  | .did actor act _ _ _ :: rest => offered place reference rest ++
      if actor.place = place then (act.offers reference).toList else []
  | .started _ :: rest => offered place reference rest
  | .returned _ _ :: rest => offered place reference rest

theorem offered_begun (place reference node : Nat) (spawned : Option Request) (past : Past S) :
    offered place reference (begun node spawned past) = offered place reference past := by
  cases spawned <;> rfl

variable {data : QueryData} {input : Reading} {spawned : Option Request} {store : S}

theorem offered_done {place reference : Nat} {past : Past S} {batch : RecordBatch}
    (member : batch ∈ offered place reference past) :
    ∃ actor limits reply, actor.place = place ∧
      Done past actor (.records (.collectBatch limits reference batch)) reply := by
  induction past with
  | nil => exact absurd member List.not_mem_nil
  | cons moment rest step =>
    have later : batch ∈ offered place reference rest → ∃ actor limits reply,
        actor.place = place ∧
          Done (moment :: rest) actor (.records (.collectBatch limits reference batch)) reply := by
      intro member
      obtain ⟨actor, limits, reply, here, input, before, done⟩ := step member
      exact ⟨actor, limits, reply, here, input, before, List.mem_cons_of_mem _ done⟩
    cases moment with
    | started | returned => exact later member
    | did actor act input reply before =>
      rcases List.mem_append.mp member with old | new
      · exact later old
      · split at new
        · next here =>
          unfold Op.offers at new
          split at new
          · split at new
            · next same =>
              subst same
              cases List.mem_singleton.mp new
              exact ⟨actor, _, reply, here, input, before, List.mem_cons_self⟩
            · exact absurd new List.not_mem_nil
          · exact absurd new List.not_mem_nil
        · exact absurd new List.not_mem_nil

variable [ClusterStateStore S Payload] {gateways : Nat → Gateway} {guard : Guard S}
  {world₀ world : World S} {past : Past S}

/-- Only the collector of a record offers it batches. -/
theorem offer_collects (history : GatewayHistory gateways guard world₀ world past) {actor : Caller}
    {limits : ServiceLimits} {reference : Nat} {batch : RecordBatch} {reply : Bool}
    (done : Done past actor (.records (.collectBatch limits reference batch)) reply) :
    actor.request.Collects reference := by
  obtain ⟨_, _, collection, collects, same, _⟩ := history.done_allowed done
  exact ⟨collection, collects, same⟩

theorem offered_nil (history : GatewayHistory gateways guard world₀ world past)
    {place reference : Nat}
    (none : ∀ actor : Caller, .started actor ∈ past → actor.place = place →
      ¬actor.request.Collects reference) : offered place reference past = [] := by
  refine List.eq_nil_iff_forall_not_mem.mpr fun batch member => ?_
  obtain ⟨actor, limits, reply, here, done⟩ := offered_done member
  exact none actor (history.done_started done) here (offer_collects history done)

/-- What was offered to a record is what its collector has offered. -/
theorem offered_collected (history : GatewayHistory gateways guard world₀ world past)
    {collector : Caller} {reference : Nat} (known : .started collector ∈ past)
    (collects : collector.request.Collects reference) :
    offered collector.place reference past =
      Seen.collected reference (trailOf collector.thread past) := by
  induction history with
  | initial => exact absurd known List.not_mem_nil
  | arrives place request _ client _ step =>
    rcases List.mem_cons.mp known with head | tail
    · cases head
      obtain ⟨collection, collects, _⟩ := collects
      cases request with
      | task => cases client
      | call | beginShutdown | cleanupExpired => cases collects
    · exact step tail
  | returns _ _ _ _ _ _ _ step => exact step (by simpa using known)
  | @performs before past actor act input outcome held doing running allowed handled met step =>
    have after := History.performs actor act input outcome held doing running allowed handled met
    rw [offered_begun, trailOf_begun, trailOf_did, offered]
    rcases mem_begun.mp known with old | ⟨request, spawned, new⟩
    · have began : .started collector ∈ past := by simpa using old
      rw [step began]
      by_cases same : actor = collector
      · subst same
        simp only [if_true]
        exact (Seen.collected_cons reference act outcome.reply _).symm
      · have apart : actor.thread ≠ collector.thread := fun agree =>
          same (held.started_unique _ _ doing began agree)
        rw [if_neg apart]
        split
        · next together =>
          have idle : act.offers reference = none := by
            by_contra offering
            unfold Op.offers at offering
            split at offering
            · split at offering
              · next limits _ batch here =>
                subst here
                obtain ⟨one, collection, sameReference, _⟩ := allowed
                obtain ⟨other, collects', sameReference'⟩ := collects
                exact same (collector_unique held doing began collection collects' together
                  (by rw [sameReference, sameReference']))
              · exact offering rfl
            · exact offering rfl
          simp [idle]
        · simp
    · -- The collector starts with this step, so no collector of the record was there before.
      cases new
      have fresh : trailOf (calls past) past = [] := trailOf_eq_nil fun other _ _ _ _ done =>
        Nat.ne_of_lt (held.started_lt (held.did_started done))
      have nothing : offered actor.place reference past = [] :=
        offered_nil held fun other started together collects' => by
          obtain ⟨one, collection, rfl⟩ := collects
          obtain ⟨two, collection', same⟩ := collects'
          have unique := collector_unique after
            (mem_begun.mpr (.inl (List.mem_cons_of_mem _ started))) known collection' collection
            together same
          have below := held.started_lt started
          rw [unique] at below
          exact absurd below (Nat.lt_irrefl _)
      have apart : actor.thread ≠ calls past := Nat.ne_of_lt (held.started_lt doing)
      obtain ⟨task, rfl, rfl⟩ := handle_spawned handled spawned
      show offered actor.place reference past ++ _ =
        Seen.collected reference
          (if actor.thread = calls past then _ else trailOf (calls past) past)
      rw [nothing, fresh, if_neg apart]
      simp [Op.offers, Seen.collected]

/-- A result has been closed, with a reply. -/
def Closed (past : Past S) (place reference : Nat) (reply : Except QueryError Unit) : Prop :=
  ∃ actor : Caller, actor.place = place ∧
    Done past actor (.records (.finishResults reference)) reply

/-- Only the collector of a record closes its result. -/
theorem close_collects (history : GatewayHistory gateways guard world₀ world past)
    {actor : Caller} {reference : Nat} {reply : Except QueryError Unit}
    (done : Done past actor (.records (.finishResults reference)) reply) :
    actor.request.Collects reference := by
  obtain ⟨_, _, collection, collects, same, _⟩ := history.done_allowed done
  exact ⟨collection, collects, same⟩

/-- A collector that has not closed the result finds that no one has. -/
theorem unclosed (history : GatewayHistory gateways guard world₀ world past)
    {collector : Caller} {reference : Nat} (known : .started collector ∈ past)
    (collects : collector.request.Collects reference)
    (open_ : ∀ reply, ¬Seen.Saw (trailOf collector.thread past)
      (.records (.finishResults reference)) reply) (reply : Except QueryError Unit) :
    ¬Closed past collector.place reference reply := by
  rintro ⟨actor, together, done⟩
  exact open_ reply
    (collector_did history known collects done together (close_collects history done))

/-- A record with an error keeps one. -/
theorem handle_error {node reference place : Nat} {act : Op} {reading : Reading}
    {outcome : Outcome gatewayOps (World S) Request act} {record : QueryRecord}
    (handled : handle place reading act world = some outcome)
    (present : world.record node reference = some record) (failed : record.data.error ≠ none) :
    ∃ later, outcome.world.record node reference = some later ∧ later.data.error ≠ none := by
  obtain ⟨cancelled, kept⟩ := handle_record handled present
  refine ⟨_, kept, fun clean => failed ?_⟩
  simp only at clean
  split at clean
  · cases act with
    | records op => exact op.alter_error _ _ _ _ clean
    | sessions | owners | prepared | store | objects | adapter | host => exact clean
  · exact clean

theorem setError_kept (history : GatewayHistory gateways guard world₀ world past)
    {actor : Caller} {reference : Nat} {error : QueryError}
    (done : Done past actor (.records (.setError reference error)) ()) {record : QueryRecord}
    (found : world.record actor.place reference = some record) : record.data.error ≠ none := by
  induction history generalizing record with
  | initial => exact absurd done (by simp [Done])
  | arrives _ _ _ _ _ step => exact step (done_enter.mp done) found
  | returns _ _ _ _ _ _ _ step => exact step (done_returned.mp done) found
  | @performs before past doing act input outcome held known _ allowed handled _ step =>
    have handled : handle doing.place input act before = some outcome := handled
    rcases done_did.mp done with ⟨rfl, same⟩ | earlier
    · have performed : act = .records (.setError reference error) :=
        (congrArg Sigma.fst same).symm
      subst performed
      obtain ⟨old, present⟩ := collected_record held known allowed
      obtain ⟨cancelled, kept⟩ := handle_record handled present
      rw [kept, Option.some.injEq] at found
      subst found
      simp [Op.alter, RecordOp.alter]
    · obtain ⟨_, _, allowed⟩ := held.done_allowed earlier
      obtain ⟨old, present⟩ := collected_record held (held.done_started earlier) allowed
      obtain ⟨later, kept, failed⟩ := handle_error handled present (step earlier present)
      rw [kept, Option.some.injEq] at found
      exact found ▸ failed

/-- What is retained of a record without an error: the batches offered so far and, once the result
is closed without a failure, all batches of its collector's run. -/
def Retained (past : Past S) (place reference : Nat) (data : QueryData) : Prop :=
  data.error = none →
    data.rows = totalRows (offered place reference past) % 2 ^ 64 ∧
    ((data.storage.Keeps (offered place reference past) ∧
        ∀ reply, ¬Closed past place reference reply) ∨
      ∃ reply, Closed past place reference reply ∧
        (∀ other, Closed past place reference other → other = reply) ∧
        (reply = .ok () → data.storage.Seals (offered place reference past) ∧
          ∃ (collector : Caller) (collection : Collection), .started collector ∈ past ∧
            collector.place = place ∧ collector.request.collection = some collection ∧
            collection.reference = reference ∧
            offered place reference past = batchesOf collection.run.items))

/-- The operation changes what is retained of a record. -/
def Op.Retains (reference : Nat) : Op → Prop
  | .records op => op.Retains reference
  | _ => False

omit [ClusterStateStore S Payload] in
theorem Retained.grow {more : Past S} {place reference : Nat} {after : QueryData}
    (retained : Retained past place reference data) (same : after.retention = data.retention)
    (idle : offered place reference more = offered place reference past)
    (closed : ∀ answer, Closed more place reference answer ↔ Closed past place reference answer)
    (kept : ∀ actor : Caller, .started actor ∈ past → .started actor ∈ more) :
    Retained more place reference after := by
  have error : after.error = data.error := congrArg (fun retention => retention.1) same
  have rows : after.rows = data.rows := congrArg (fun retention => retention.2.1) same
  have storage : after.storage = data.storage := congrArg (fun retention => retention.2.2) same
  intro clean
  obtain ⟨count, held⟩ := retained (error ▸ clean)
  simp only [idle, closed, rows, storage]
  refine ⟨count, held.imp_right ?_⟩
  rintro ⟨answer, done, unique, sealed⟩
  refine ⟨answer, done, unique, fun ok => ⟨(sealed ok).1, ?_⟩⟩
  obtain ⟨collector, collection, started, rest⟩ := (sealed ok).2
  exact ⟨collector, collection, kept collector started, rest⟩

omit [ClusterStateStore S Payload] in
theorem Retained.silent {place reference : Nat} {after : QueryData} {actor : Caller} {act : Op}
    {reply : act.Reply} (retained : Retained past place reference data)
    (same : after.retention = data.retention)
    (silent : actor.place = place → ¬act.Retains reference) :
    Retained (begun actor.place spawned (.did actor act input reply world :: past)) place reference
      after := by
  refine retained.grow same ?_ (fun answer => ⟨?_, ?_⟩) fun other started =>
    mem_begun.mpr (.inl (List.mem_cons_of_mem _ started))
  · rw [offered_begun, offered]
    split
    · next here =>
      have nothing : act.offers reference = none := by
        unfold Op.offers
        split
        · next target _ => exact if_neg fun here' => silent here here'
        · rfl
      simp [nothing]
    · simp
  · rintro ⟨other, here, done⟩
    rcases done_did.mp done with ⟨rfl, performed⟩ | earlier
    · cases performed
      exact absurd rfl (silent here)
    · exact ⟨other, here, earlier⟩
  · rintro ⟨other, here, done⟩
    exact ⟨other, here, done_did.mpr (.inr done)⟩

omit [ClusterStateStore S Payload] in
/-- Offering a batch to an open result keeps it retained. -/
theorem Retained.batch {reference : Nat} {actor : Caller} {limits : ServiceLimits}
    {batch : RecordBatch} {reply : Bool} (retained : Retained past actor.place reference data)
    (open_ : ∀ reply, ¬Closed past actor.place reference reply) (io : FileIo) :
    Retained (begun actor.place spawned
      (.did actor (.records (.collectBatch limits reference batch)) input reply world :: past))
      actor.place reference (collectBatch limits io batch data).2 := by
  intro clean
  have more : offered actor.place reference (begun actor.place spawned (.did actor
      (.records (.collectBatch limits reference batch)) input reply world :: past)) =
        offered actor.place reference past ++ [batch] := by
    rw [offered_begun, offered]
    simp [Op.offers]
  have still : ∀ answer, ¬Closed (begun actor.place spawned (.did actor
      (.records (.collectBatch limits reference batch)) input reply world :: past)) actor.place
        reference answer := by
    rintro answer ⟨other, here, done⟩
    rcases done_did.mp done with ⟨rfl, performed⟩ | earlier
    · cases performed
    · exact open_ answer ⟨other, here, earlier⟩
  have before : data.error = none := by
    have kept := RecordOp.alter_error input.now io reference
      (.collectBatch limits reference batch) data
    simp only [RecordOp.alter, if_true] at kept
    exact kept clean
  obtain ⟨count, ⟨kept, _⟩ | ⟨answer, closed, _⟩⟩ := retained before
  · obtain ⟨_, rows, keeps⟩ := collectBatch_keeps kept clean
    refine ⟨?_, .inl ⟨more ▸ keeps, still⟩⟩
    rw [rows, count, more, totalRows_concat, wrappingAdd, Nat.mod_add_mod]
  · exact absurd closed (open_ answer)

omit [ClusterStateStore S Payload] in
/-- Closing an open result to which everything was offered keeps it retained. -/
theorem Retained.close {reference : Nat} {actor : Caller} {io : FileIo} {collection : Collection}
    (retained : Retained past actor.place reference data)
    (open_ : ∀ reply, ¬Closed past actor.place reference reply) (known : .started actor ∈ past)
    (collects : actor.request.collection = some collection)
    (named : collection.reference = reference)
    (complete : offered actor.place reference past = batchesOf collection.run.items) :
    Retained (begun actor.place spawned (.did actor (.records (.finishResults reference)) input
      (finishResults io data).1 world :: past)) actor.place reference
      (finishResults io data).2 := by
  intro clean
  have same : offered actor.place reference (begun actor.place spawned (.did actor
      (.records (.finishResults reference)) input (finishResults io data).1 world :: past)) =
        offered actor.place reference past := by
    rw [offered_begun, offered]
    simp [Op.offers]
  obtain ⟨error, rows, seals⟩ := finishResults_seals io data
  obtain ⟨count, ⟨kept, _⟩ | ⟨answer, closed, _⟩⟩ := retained (error ▸ clean)
  · rw [same, rows]
    refine ⟨count, .inr ⟨(finishResults io data).1,
      ⟨actor, rfl, done_did.mpr (.inl ⟨rfl, rfl⟩)⟩, ?_, fun ok => ⟨seals _ kept ok, actor,
        collection, mem_begun.mpr (.inl (List.mem_cons_of_mem _ known)), rfl, collects, named,
        complete⟩⟩⟩
    rintro other ⟨doing, here, done⟩
    rcases done_did.mp done with ⟨rfl, performed⟩ | earlier
    · exact eq_of_heq (Sigma.mk.inj_iff.mp performed).2
    · exact absurd ⟨doing, here, earlier⟩ (open_ other)
  · exact absurd closed (open_ answer)

/-- A record that is filled by no collector has nothing offered and is not closed. -/
theorem unfilled (history : GatewayHistory gateways guard world₀ world past)
    {place reference : Nat} (absent : world.record place reference = none) :
    offered place reference past = [] ∧ ∀ reply, ¬Closed past place reference reply := by
  have none : ∀ actor : Caller, .started actor ∈ past → actor.place = place →
      ¬actor.request.Collects reference := by
    rintro actor started rfl collects
    obtain ⟨record, present⟩ := collected_record history started collects
    rw [absent] at present
    cases present
  refine ⟨offered_nil history none, ?_⟩
  rintro reply ⟨actor, here, done⟩
  exact none actor (history.done_started done) here (close_collects history done)

/-- Every record is retained. -/
theorem records_retained (history : GatewayHistory gateways guard (World.initial store) world past)
    {place reference : Nat} {record : QueryRecord}
    (found : world.record place reference = some record) :
    Retained past place reference record.data := by
  induction history generalizing record with
  | initial => cases found
  | arrives place' request _ _ _ step =>
    exact (step found).grow rfl rfl (fun _ => by simp [Closed]) fun _ => List.mem_cons_of_mem _
  | returns _ _ _ _ _ _ _ step =>
    exact (step found).grow rfl rfl (fun _ => by simp [Closed]) fun _ => List.mem_cons_of_mem _
  | @performs before past actor act input outcome held known _ allowed handled met step =>
    have handled : handle actor.place input act before = some outcome := handled
    cases old : before.record place reference with
    | none =>
      obtain ⟨rfl, rfl, submitted⟩ := handle_submitted allowed handled old found
      obtain ⟨nothing, open_⟩ := unfilled held old
      have fresh : Retained past actor.place reference .submitted := by
        intro _
        rw [nothing]
        exact ⟨rfl, .inl ⟨rfl, open_⟩⟩
      exact fresh.silent (by rw [submitted]) fun _ same => same
    | some earlier =>
      obtain ⟨cancelled, kept⟩ := handle_record handled old
      rw [kept, Option.some.injEq] at found
      subst found
      have retained := step old
      by_cases retains : actor.place = place ∧ act.Retains reference
      · obtain ⟨rfl, retains⟩ := retains
        simp only [if_true]
        cases act with
        | records op =>
          cases op with
          | collectBatch limits target batch =>
            cases retains
            obtain ⟨collection, collects, same, _, _, open_⟩ := allowed
            have open_ := unclosed held known ⟨collection, collects, same⟩ open_
            simpa [Op.alter, RecordOp.alter] using retained.batch open_ input.io
          | finishResults target =>
            cases retains
            obtain ⟨collection, collects, same, complete, open_⟩ := allowed
            have open_ := unclosed held known ⟨collection, collects, same⟩ open_
            rw [← offered_collected held known ⟨collection, collects, same⟩] at complete
            rw [handle_finishResults handled old]
            simpa [Op.alter, RecordOp.alter] using
              retained.close open_ known collects same complete
          | setError target error =>
            cases retains
            exact fun clean => by simp [Op.alter, RecordOp.alter] at clean
          | setErrorIfNone target error =>
            cases retains
            exact fun clean => by simp [Op.alter, RecordOp.alter] at clean
          | _ => cases retains
        | _ => cases retains
      · refine retained.silent ?_ fun here retaining => retains ⟨here, retaining⟩
        simp only
        split
        · next here =>
          cases act with
          | records op =>
            exact op.alter_retention _ _ _ _ fun retaining => retains ⟨here.symm, retaining⟩
          | sessions | owners | prepared | store | objects | adapter | host => rfl
        · rfl

/-- A query in a terminal state has had its end recorded. -/
theorem terminal_recorded (history : GatewayHistory gateways guard (World.initial store) world past)
    {place reference : Nat} {record : QueryRecord}
    (found : world.record place reference = some record)
    (terminal : record.data.state.terminal = true) : EndRecorded past place reference := by
  induction history generalizing record with
  | initial => cases found
  | arrives _ _ _ _ _ step => simpa [EndRecorded] using step found terminal
  | returns _ _ _ _ _ _ _ step => simpa [EndRecorded] using step found terminal
  | @performs before past actor act input outcome held known _ allowed handled met step =>
    have handled : handle actor.place input act before = some outcome := handled
    have grown : EndRecorded past place reference → EndRecorded (begun actor.place
        outcome.spawned (.did actor act input outcome.reply before :: past)) place reference := by
      rintro ⟨other, event, here, done⟩
      exact ⟨other, event, here, done_did.mpr (.inr done)⟩
    cases old : before.record place reference with
    | none =>
      obtain ⟨-, -, submitted⟩ := handle_submitted allowed handled old found
      rw [submitted] at terminal
      cases terminal
    | some earlier =>
      by_cases pushes : actor.place = place ∧ act.Pushes reference
      · obtain ⟨rfl, event, final, rfl⟩ := pushes
        obtain ⟨cancelled, kept⟩ := handle_record handled old
        rw [kept, Option.some.injEq] at found
        subst found
        simp only [if_true, Op.alter, RecordOp.alter] at terminal
        -- Only a state event changes the state, and the collector's flag agrees with it.
        cases event with
        | state state =>
          rcases allowed with ⟨_, _, _, _, same, _⟩ | ⟨_, _, agrees, _⟩
          · cases same
            cases terminal
          · obtain rfl : final = true := (agrees state rfl).trans terminal
            exact ⟨actor, .state state, rfl, done_did.mpr (.inl ⟨rfl, rfl⟩)⟩
        | engineQueryId | rows | progress | sessionProperties => exact grown (step old terminal)
      · obtain ⟨cancelled, data, kept, same⟩ := handle_lifecycle handled old
          fun here pushing => pushes ⟨here, pushing⟩
        rw [kept, Option.some.injEq] at found
        subst found
        have state : data.state = earlier.data.state := congrArg Prod.fst same
        simp only [state] at terminal
        exact grown (step old terminal)

/-- A record that has ended without an error was offered all batches of its collector's run, and
holds them. -/
theorem ended_complete (history : GatewayHistory gateways guard (World.initial store) world past)
    {place reference : Nat} {record : QueryRecord}
    (found : world.record place reference = some record)
    (terminal : record.data.state.terminal = true) (clean : record.data.error = none) :
    ∃ (collector : Caller) (collection : Collection), .started collector ∈ past ∧
      collector.place = place ∧ collector.request.collection = some collection ∧
      collection.reference = reference ∧
      offered place reference past = batchesOf collection.run.items ∧
      record.data.rows = totalRows (batchesOf collection.run.items) % 2 ^ 64 ∧
      record.data.storage.Seals (batchesOf collection.run.items) := by
  obtain ⟨actor, event, rfl, recorded⟩ := terminal_recorded history found terminal
  obtain ⟨older, suffix, allowed⟩ := history.done_allowed recorded
  rcases allowed with ⟨_, _, _, _, _, impossible⟩ | ⟨_, _, _, final⟩
  · cases impossible
  obtain ⟨_, reply, closed, failed⟩ := final rfl
  have earlier : ∀ {act : Op} {reply : act.Reply},
      Seen.Saw (trailOf actor.thread older) act reply → Done past actor act reply :=
    history.done_of_trail_suffix (history.done_started recorded) suffix
  obtain ⟨count, ⟨_, open_⟩ | ⟨answer, _, unique, sealed⟩⟩ := records_retained history found clean
  · exact absurd ⟨actor, rfl, earlier closed⟩ (open_ reply)
  · cases reply with
    | error error =>
      exact absurd clean (setError_kept history (earlier (failed error rfl)) found)
    | ok =>
      obtain ⟨seals, collector, collection, started, here, collects, named, complete⟩ :=
        sealed (unique _ ⟨actor, rfl, earlier closed⟩).symm
      rw [complete] at count seals
      exact ⟨collector, collection, started, here, collects, named, complete, count, seals⟩

theorem inspect_reply {place reference : Nat} {reading : Reading} {found : QueryRecord}
    {outcome : Outcome gatewayOps (World S) Request (.records (.inspect reference))}
    (handled : handle place reading (.records (.inspect reference)) world = some outcome)
    (present : world.record place reference = some found) : outcome.reply = found := by
  have answer : outcome.reply = (world.record place reference).getD default :=
    (handle_records handled).1
  rw [answer, present]
  rfl

/-- A call that has read a record has read it as it was at some time. -/
theorem inspected_record (history : GatewayHistory gateways guard (World.initial store) world past)
    {actor : Caller} {reference : Nat} {record : QueryRecord}
    (inspected : Done past actor (.records (.inspect reference)) record) :
    ∃ before older, older <:+ past ∧
      GatewayHistory gateways guard (World.initial store) before older ∧
      before.record actor.place reference = some record := by
  obtain ⟨input, before, member⟩ := inspected
  obtain ⟨newer, older, rfl⟩ := List.append_of_mem member
  obtain ⟨outcome, held, known, allowed, handled, rfl, _⟩ := history.did_split
  -- It has inserted the record or found it, so the record is there.
  obtain ⟨found, present⟩ : ∃ found, before.record actor.place reference = some found := by
    rcases allowed with ⟨added, inserted⟩ | ⟨_, _, _, looked⟩
    · obtain ⟨_, _, there⟩ := inserted_record held ((held.mem_trail_iff known).mp inserted)
      exact ⟨_, there⟩
    · obtain ⟨found, there, _⟩ := found_record held ((held.mem_trail_iff known).mp looked)
      exact ⟨found, there⟩
  rw [inspect_reply handled present]
  exact ⟨before, older, (List.suffix_cons _ _).trans (List.suffix_append _ _), held, present⟩

/-- A collector's run is what was sent for the query a principal names. -/
structure SentFor (world : World S) (past : Past S) (place : Nat) (principal id : String)
    (collection : Collection) : Prop where
  collector : ∃ collector : Caller, .started collector ∈ past ∧ collector.place = place ∧
    collector.request.collection = some collection
  /-- Its record is the principal's query of that identifier. -/
  record : ∃ record, world.record place collection.reference = some record ∧ record.id = id ∧
    record.owner = principal

/-- A record that was located in a terminal state without an error holds what was sent for it. -/
theorem located_sealed {actor : Caller} {principal id : String} {reference : Nat}
    {record : QueryRecord}
    (history : GatewayHistory gateways guard (World.initial store) world past)
    (found : Done past actor (.records (.findOwned principal id)) (some reference))
    (inspected : Done past actor (.records (.inspect reference)) record)
    (terminal : record.data.state.terminal = true) (clean : record.data.error = none) :
    ∃ collection, SentFor world past actor.place principal id collection ∧
      record.data.rows = totalRows (batchesOf collection.run.items) % 2 ^ 64 ∧
      record.data.storage.Seals (batchesOf collection.run.items) := by
  obtain ⟨before, older, suffix, held, present⟩ := inspected_record history inspected
  obtain ⟨collector, collection, started, here, collects, rfl, _, count, seals⟩ :=
    ended_complete held present terminal clean
  exact ⟨collection, ⟨⟨collector, suffix.subset started, here, collects⟩,
    found_record history found⟩, count, seals⟩

theorem sealed_matches [LawfulStore S]
    (history : GatewayHistory gateways guard world₀ world past) {actor : Caller}
    {storage : ResultStorage} {batches : List RecordBatch} {entries : FileReader}
    (seals : storage.Seals batches)
    (source : (∃ kept, storage = .memory kept ∧ entries = kept.map .ok) ∨
      ∃ file, storage = .spill file false ∧
        Done past actor (.host (.readFile file)) (.ok entries)) :
    Matches entries batches := by
  rcases source with ⟨kept, rfl, rfl⟩ | ⟨file, rfl, read⟩
  · cases seals
    exact matches_memory _
  · obtain ⟨_, intact, finished, rfl⟩ := seals
    exact done_possible history read entries rfl intact finished

/-- A reader that a call has returned gives the batches that were sent. -/
theorem reader_complete [LawfulStore S]
    (history : GatewayHistory gateways guard (World.initial store) world past) {caller : Caller}
    {principal : AuthenticatedPrincipal} {id : String} {opened : ResultBatchReader}
    (called : caller.request = .call principal (.resultReader id))
    (returned : .returned caller (.ok (.reader opened)) ∈ past) :
    ∃ collection, SentFor world past caller.place principal.id id collection ∧
      ∀ batches, opened.readAll = .ok batches → batches = batchesOf collection.run.items := by
  obtain ⟨seen, explained, done⟩ := returned_explained history returned called
  obtain ⟨reference, record, located, clean, state, skip, remaining, source⟩ :=
    (explained.answered _ rfl).1 id rfl
  have terminal : record.data.state.terminal = true := by
    rcases state with state | state <;> rw [state] <;> rfl
  obtain ⟨collection, sent, _, seals⟩ :=
    located_sealed history (done located.1) (done located.2) terminal clean
  have matching : Matches opened.entries (batchesOf collection.run.items) :=
    sealed_matches history seals (source.imp (fun ⟨kept, memory, _, same⟩ => ⟨kept, memory, same⟩)
      fun ⟨file, spilled, _, read⟩ => ⟨file, spilled, done read⟩)
  obtain ⟨kind, entries, _, _⟩ := opened
  subst skip remaining
  exact ⟨collection, sent, fun batches read => readUpTo_eq matching (Nat.lt_succ_self _) read⟩

/-- A page that a call has returned is cut out of the batches that were sent. -/
theorem page_cut [LawfulStore S]
    (history : GatewayHistory gateways guard (World.initial store) world past) {caller : Caller}
    {principal : AuthenticatedPrincipal} {id : String} {offset limit : Nat} {page : ResultPage}
    (called : caller.request = .call principal (.resultPage id offset limit))
    (returned : .returned caller (.ok (.page page)) ∈ past) :
    ∃ collection, SentFor world past caller.place principal.id id collection ∧
      page.totalRows = totalRows (batchesOf collection.run.items) % 2 ^ 64 ∧
      page.batches = sliceBatches (batchesOf collection.run.items)
        (pageBounds page.totalRows offset limit).1 (pageBounds page.totalRows offset limit).2 := by
  obtain ⟨seen, explained, done⟩ := returned_explained history returned called
  obtain ⟨reference, record, batches, located, clean, terminal, rfl, source⟩ :=
    (explained.answered _ rfl).1 id offset limit rfl
  obtain ⟨collection, sent, count, seals⟩ :=
    located_sealed history (done located.1) (done located.2) terminal clean
  refine ⟨collection, sent, count, ?_⟩
  rcases source with ⟨kept, memory, rfl⟩ | ⟨file, entries, spilled, read, loaded⟩
  · rw [memory] at seals
    cases seals
    rfl
  · have matching := sealed_matches history seals (.inr ⟨file, spilled, done read⟩)
    exact loadFrom_eq matching loaded

/-- In every run, a result reader that is read to its end has given exactly the batches the adapter
sent for the query, in order; and a result page has the requested rows and the right total if and
only if the number of rows sent is below 2⁶⁴ and the page asks for a row or starts after the last
one. -/
theorem retained_results_complete_iff [LawfulStore S] (gateways : Nat → Gateway) (store : S)
    (schedule : Schedule) :
    let pool := gatewayRun gateways store schedule
    (∀ (caller : Caller) principal id opened,
      caller.request = .call principal (.resultReader id) →
      .returned caller (.ok (.reader opened)) ∈ pool.past →
      ∃ collection, SentFor pool.world pool.past caller.place principal.id id collection ∧
        ∀ batches, opened.readAll = .ok batches → batches = batchesOf collection.run.items) ∧
    (∀ (caller : Caller) principal id offset limit page,
      caller.request = .call principal (.resultPage id offset limit) →
      .returned caller (.ok (.page page)) ∈ pool.past →
      ∃ collection, SentFor pool.world pool.past caller.place principal.id id collection ∧
        ((page.totalRows = totalRows (batchesOf collection.run.items) ∧
            rowsOf page.batches =
              ((rowsOf (batchesOf collection.run.items)).drop offset).take limit) ↔
          totalRows (batchesOf collection.run.items) < 2 ^ 64 ∧
            (0 < limit ∨ totalRows (batchesOf collection.run.items) ≤ offset))) := by
  intro pool
  have history := gatewayRun_history (runMeets_trivial gateways store schedule)
  refine ⟨fun caller principal id opened called returned =>
    reader_complete history called returned,
    fun caller principal id offset limit page called returned => ?_⟩
  obtain ⟨collection, sent, count, cut⟩ := page_cut history called returned
  refine ⟨collection, sent, ?_⟩
  rw [cut, count]
  exact page_exact_iff (batchesOf collection.run.items) offset limit

end

/-- In a run in which every step reads the same work of the adapter, that is what is sent for every
query. -/
theorem sent_read {S : Type} [ClusterStateStore S Payload] [LawfulStore S]
    {gateways : Nat → Gateway}
    {store : S} {schedule : Schedule} {sends : AdapterRun}
    (reads : ∀ number input, .step number input ∈ schedule → input.run = sends) {place : Nat}
    {owner id : String} {collection : Collection}
    (sent : SentFor (gatewayRun gateways store schedule).world
      (gatewayRun gateways store schedule).past place owner id collection) :
    collection.run = sends := by
  have history := gatewayRun_history (runMeets_trivial gateways store schedule)
  obtain ⟨collector, started, _, collects⟩ := sent.collector
  obtain ⟨spawner, _, spawned⟩ := collector_spawned history started collects
  obtain ⟨request, parameters, input, before, executed⟩ := spawned.executed
  have replied : collection.run = input.run := by
    obtain ⟨newer, older, split⟩ := List.append_of_mem executed
    rw [split] at history
    obtain ⟨outcome, _, _, _, handled, replied, _⟩ := history.did_split
    cases handled
    exact replied.symm
  rcases Machine.did_input executed with impossible | ⟨number, member⟩
  · exact absurd impossible List.not_mem_nil
  · rw [replied, reads number input member]

/-- A batch without columns. -/
def Sample.columnless (rows : List Row) : RecordBatch := ⟨Schema.empty, [], rows⟩

/-- A reading in which an adapter sends some batches. -/
def Sample.sending (batches : List RecordBatch) : Reading :=
  { reading with run := ⟨batches.map .batch, .ok ()⟩ }

/-- Alice runs a query to its end, and then asks for its first rows. -/
def Sample.pagedQuery (batches : List RecordBatch) (limit : Nat) : Schedule :=
  .start 0 (.call alice (.createSession "demo" ∅)) :: steps 0 12 (sending batches) ++
    .start 0 (.call alice (.submitSessionQuery "qcli_20260101_0000_01" "select 1")) ::
      steps 1 16 (sending batches) ++ steps 2 6 (sending batches) ++
    .start 0 (.call alice (.resultPage "qcli_1" 0 limit)) :: steps 3 9 (sending batches)

/-- Every step of the query above reads the same batches. -/
theorem Sample.pagedQuery_input {batches : List RecordBatch} {limit number : Nat} {input : Reading}
    (member : .step number input ∈ pagedQuery batches limit) : input = sending batches := by
  simp only [pagedQuery, steps, List.cons_append, List.mem_cons, List.mem_append,
    List.mem_replicate, reduceCtorEq, false_or, Choice.step.injEq] at member
  tauto

theorem Sample.sent_batches {batches : List RecordBatch} {limit place : Nat} {owner id : String}
    {collection : Collection}
    (sent : SentFor (run none (pagedQuery batches limit)).world
      (run none (pagedQuery batches limit)).past place owner id collection) :
    batchesOf collection.run.items = batches := by
  have sends : collection.run = (sending batches).run :=
    sent_read (fun _ _ member => congrArg Reading.run (pagedQuery_input member)) sent
  simp [sends, sending, batchesOf, List.filterMap_map]

/-- A page of the first rows is among the answers of a run. -/
def Sample.answersPage (limit : Nat) (past : Past (MemoryState Payload)) : Bool :=
  past.any fun moment => match moment with
    | .returned ⟨_, _, .call _ (.resultPage id offset limit')⟩ (.ok (.page _)) =>
      id == "qcli_1" && offset == 0 && limit' == limit
    | _ => false

theorem Sample.page_of_answers {limit : Nat} {past : Past (MemoryState Payload)}
    (answers : answersPage limit past = true) :
    ∃ (caller : Caller) (principal : AuthenticatedPrincipal) (page : ResultPage),
      caller.request = .call principal (.resultPage "qcli_1" 0 limit) ∧
      .returned caller (.ok (.page page)) ∈ past := by
  obtain ⟨moment, member, found⟩ := List.any_eq_true.mp answers
  split at found
  · next thread place principal id offset limit' page =>
    simp only [Bool.and_eq_true, beq_iff_eq] at found
    obtain ⟨⟨rfl, rfl⟩, rfl⟩ := found
    exact ⟨_, principal, page, rfl, member⟩
  · cases found

set_option maxRecDepth 20000 in
/-- Two batches of 2⁶³ rows without columns leave a page of ten rows with no row and a total of
zero, and a page of zero rows of a result with one row has that row. -/
theorem page_of_overflowing_result_is_empty :
    let tall := Sample.columnless (List.replicate (2 ^ 63) [])
    let pool := Sample.run none (Sample.pagedQuery [tall, tall] 10)
    let small := Sample.columnless [[]]
    let other := Sample.run none (Sample.pagedQuery [small] 0)
    (∃ (caller : Caller) (principal : AuthenticatedPrincipal) (page : ResultPage)
        (collection : Collection), caller.request = .call principal (.resultPage "qcli_1" 0 10) ∧
      .returned caller (.ok (.page page)) ∈ pool.past ∧
      SentFor pool.world pool.past caller.place principal.id "qcli_1" collection ∧
      totalRows (batchesOf collection.run.items) = 2 ^ 64 ∧
      page.totalRows = 0 ∧ page.batches = []) ∧
    ∃ (caller : Caller) (principal : AuthenticatedPrincipal) (page : ResultPage)
        (collection : Collection), caller.request = .call principal (.resultPage "qcli_1" 0 0) ∧
      .returned caller (.ok (.page page)) ∈ other.past ∧
      SentFor other.world other.past caller.place principal.id "qcli_1" collection ∧
      totalRows (batchesOf collection.run.items) = 1 ∧ rowsOf page.batches = [[]] := by
  intro tall pool small other
  have answered : Sample.answersPage 10 pool.past = true := by decide +kernel
  have answered' : Sample.answersPage 0 other.past = true := by decide +kernel
  refine ⟨?_, ?_⟩
  · obtain ⟨caller, principal, page, called, returned⟩ := Sample.page_of_answers answered
    have history := gatewayRun_history (runMeets_trivial (fun _ => Sample.gateway none)
      (.empty : MemoryState Payload) (Sample.pagedQuery [tall, tall] 10))
    obtain ⟨collection, sent, count, cut⟩ := page_cut history called returned
    have total : totalRows (batchesOf collection.run.items) = 2 ^ 64 := by
      have height : tall.numRows = 2 ^ 63 := List.length_replicate
      rw [Sample.sent_batches sent, totalRows_cons, totalRows_cons, height]
      rfl
    rw [total] at count
    refine ⟨caller, principal, page, collection, called, returned, sent, total, count, ?_⟩
    rw [cut, count, Sample.sent_batches sent]
    exact sliceFrom_zero 0 _ _
  · obtain ⟨caller, principal, page, called, returned⟩ := Sample.page_of_answers answered'
    have history := gatewayRun_history (runMeets_trivial (fun _ => Sample.gateway none)
      (.empty : MemoryState Payload) (Sample.pagedQuery [small] 0))
    obtain ⟨collection, sent, count, cut⟩ := page_cut history called returned
    rw [count, Sample.sent_batches sent] at cut
    refine ⟨caller, principal, page, collection, called, returned, sent, ?_, ?_⟩
    · rw [Sample.sent_batches sent]
      rfl
    · rw [cut]
      decide

end ConfluxQuery

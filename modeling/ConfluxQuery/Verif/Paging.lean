import ConfluxQuery.Verif.Slices

/-!
# Paging through a result

A client asks for the first page of an ended query and then follows the offsets the pages give, with
whatever limits it likes. The pages are cut by row numbers in a counter of 64 bits: while the rows
of the result fit into it, the client comes to an end and has read every row once, in order;
otherwise there are limits under which it misses rows.
-/

namespace ConfluxQuery

/-- A sequence of pages is a result read once: together they have all rows in order, none of them is
empty unless the result is, and all of them name the same total. -/
structure CoversOnce (rows : List Row) (pages : List ResultPage) : Prop where
  whole : pages.flatMap (fun page => rowsOf page.batches) = rows
  nonempty : rows ≠ [] → ∀ page ∈ pages, rowsOf page.batches ≠ []
  constant : ∀ one ∈ pages, ∀ other ∈ pages, one.totalRows = other.totalRows

section Following

variable {page : Nat → Nat → ResultPage} {limits : Nat → Nat}

/-- Pages that follow each other: each starts where the one before says, and the last says nothing.
The requests are numbered, and each has a limit of its own. -/
inductive Following (page : Nat → Nat → ResultPage) (limits : Nat → Nat) :
    Nat → Nat → List ResultPage → Prop
  | last {index offset : Nat} (ended : (page offset (limits index)).nextOffset = none) :
      Following page limits index offset [page offset (limits index)]
  | more {index offset next : Nat} {pages : List ResultPage}
      (goes : (page offset (limits index)).nextOffset = some next)
      (rest : Following page limits (index + 1) next pages) :
      Following page limits index offset (page offset (limits index) :: pages)

/-- Each of the pages is one. -/
theorem Following.pages {index offset : Nat} {pages : List ResultPage}
    (follows : Following page limits index offset pages) {one : ResultPage} (member : one ∈ pages) :
    ∃ start limit, one = page start limit := by
  induction follows with
  | @last index offset => exact ⟨_, _, List.mem_singleton.mp member⟩
  | @more index offset next pages goes rest step =>
    rcases List.mem_cons.mp member with rfl | later
    · exact ⟨_, _, rfl⟩
    · exact step later

end Following

theorem nextOffset_page {rows offset : Nat} (fits : rows < 2 ^ 64) (within : offset ≤ rows)
    (batches : List RecordBatch) (limit : Nat) :
    (resultPageOf rows batches offset limit).nextOffset =
      if offset + max limit 1 < rows then some (offset + max limit 1) else none := by
  have bound : (pageBounds rows offset limit).2 = min (offset + max limit 1) rows := by
    simp only [pageBounds, saturatingAdd, usizeMax]
    omega
  simp only [resultPageOf, pageOf, bound]
  by_cases inside : offset + max limit 1 < rows
  · rw [if_pos inside, Nat.min_eq_left (Nat.le_of_lt inside), if_pos inside]
  · rw [if_neg inside, Nat.min_eq_right (Nat.le_of_not_lt inside), if_neg (Nat.lt_irrefl rows)]

/-- Pages of a result that fits come to an end and have the rows from their first offset on, each of
them at least one. -/
theorem following_rows {batches : List RecordBatch} (fits : totalRows batches < 2 ^ 64)
    (limits : Nat → Nat) (index offset : Nat) (within : offset ≤ totalRows batches) :
    ∃ pages, Following (resultPageOf (totalRows batches) batches) limits index offset pages ∧
      pages.flatMap (fun page => rowsOf page.batches) = (rowsOf batches).drop offset ∧
      (offset < totalRows batches → ∀ page ∈ pages, rowsOf page.batches ≠ []) := by
  -- each page but the last moves the offset, which stays below the number of rows
  induction left : totalRows batches - offset using Nat.strong_induction_on
    generalizing index offset with
  | _ left_ step =>
    subst left
    have next := nextOffset_page fits within batches (limits index)
    have cut : rowsOf (resultPageOf (totalRows batches) batches offset (limits index)).batches =
        ((rowsOf batches).drop offset).take (max (limits index) 1) :=
      rowsOf_page batches fits offset (limits index)
    have some_ : offset < totalRows batches →
        rowsOf (resultPageOf (totalRows batches) batches offset (limits index)).batches ≠ [] := by
      intro inside none
      rw [cut] at none
      have length := congrArg List.length none
      rw [List.length_take, List.length_drop, List.length_nil] at length
      unfold totalRows at inside
      omega
    by_cases inside : offset + max (limits index) 1 < totalRows batches
    · rw [if_pos inside] at next
      obtain ⟨pages, follows, rest, nonempty⟩ := step
        (totalRows batches - (offset + max (limits index) 1)) (by omega) (index + 1)
        (offset + max (limits index) 1) (Nat.le_of_lt inside) rfl
      refine ⟨_, .more next follows, ?_, fun within one member => ?_⟩
      · rw [List.flatMap_cons, rest, cut, ← List.drop_drop, List.take_append_drop]
      · rcases List.mem_cons.mp member with rfl | later
        · exact some_ within
        · exact nonempty inside one later
    · rw [if_neg inside] at next
      refine ⟨_, .last next, ?_, fun within one member => ?_⟩
      · rw [List.flatMap_cons, List.flatMap_nil, List.append_nil, cut]
        refine List.take_of_length_le ?_
        rw [List.length_drop]
        unfold totalRows at inside
        omega
      · rw [List.mem_singleton.mp member]
        exact some_ within

/-- Following the pages of a result covers it once, whatever the limits, just where its rows fit
into the counter. -/
theorem following_covers_iff (batches : List RecordBatch) :
    (∀ limits, ∃ pages,
      Following (resultPageOf (totalRows batches % 2 ^ 64) batches) limits 0 0 pages ∧
        CoversOnce (rowsOf batches) pages) ↔ totalRows batches < 2 ^ 64 := by
  have wrapped : totalRows batches % 2 ^ 64 < 2 ^ 64 := Nat.mod_lt _ (by decide)
  constructor
  · intro covers
    by_contra overflows
    -- one page as large as the counter allows is all there is, and it misses rows
    obtain ⟨pages, follows, covered⟩ := covers fun _ => 2 ^ 64
    have next := nextOffset_page wrapped (Nat.zero_le _) batches (2 ^ 64)
    rw [if_neg (by omega)] at next
    have short := rowCount_lt (pageBounds (totalRows batches % 2 ^ 64) 0 (2 ^ 64)).1
      (pageBounds (totalRows batches % 2 ^ 64) 0 (2 ^ 64)).2 (show 0 < 2 ^ 64 by decide) batches
      (by omega)
    cases follows with
    | more goes => rw [next] at goes; cases goes
    | last =>
      have whole := congrArg List.length covered.whole
      simp only [List.flatMap_cons, List.flatMap_nil, List.append_nil, resultPageOf, pageOf,
        sliceBatches] at whole
      rw [rowCount, whole] at short
      exact Nat.lt_irrefl _ short
  · intro fits limits
    rw [Nat.mod_eq_of_lt fits]
    obtain ⟨pages, follows, rows, nonempty⟩ := following_rows fits limits 0 0 (Nat.zero_le _)
    refine ⟨pages, follows, rows, fun some_ => nonempty (List.length_pos_iff.mpr some_), ?_⟩
    intro one first other second
    obtain ⟨_, _, rfl⟩ := follows.pages first
    obtain ⟨_, _, rfl⟩ := follows.pages second
    rfl

section

variable {S : Type} [ClusterStateStore S Payload]

/-- The viewer at another moment. -/
def Viewer.when (viewer : Viewer) (reading : Reading) : Viewer := { viewer with reading := reading }

/-- A client follows the pages of the viewer's query: it asks for a page, in the world the request
before has left, and goes on with the offset the page gives until there is none. Each request has a
moment and a limit of its own. -/
inductive Viewer.Pages (viewer : Viewer) (readings : Nat → Reading) (limits : Nat → Nat) :
    Nat → Nat → World S → List ResultPage → Prop
  | last {index offset : Nat} {world after : World S} {page : ResultPage}
      (answered : (viewer.gateway.resultPage viewer.principal viewer.queryId offset
        (limits index)).alone (viewer.when (readings index)).handles world = some (.ok page, after))
      (ended : page.nextOffset = none) : Pages viewer readings limits index offset world [page]
  | more {index offset next : Nat} {world after : World S} {page : ResultPage}
      {pages : List ResultPage}
      (answered : (viewer.gateway.resultPage viewer.principal viewer.queryId offset
        (limits index)).alone (viewer.when (readings index)).handles world = some (.ok page, after))
      (goes : page.nextOffset = some next)
      (rest : Pages viewer readings limits (index + 1) next after pages) :
      Pages viewer readings limits index offset world (page :: pages)

/-- A record that holds its result for good answers every page of it. -/
theorem ResultStorage.Seals.page {record : QueryRecord} {batches : List RecordBatch} {io : FileIo}
    (seals : record.data.storage.Seals batches) (terminal : record.data.state.terminal = true)
    (clean : record.data.error = none) (faithful : io.Faithful) (offset limit : Nat) :
    record.page io offset limit = .ok (resultPageOf record.data.rows batches offset limit) := by
  rcases seals.cases faithful with kept | ⟨file, kept, read⟩
  · simp only [QueryRecord.page, QueryRecord.require, QueryRecord.refusal, clean, terminal, kept,
      QueryRecord.pageBatches, ResultStorage.writing]
    rfl
  · simp only [QueryRecord.page, QueryRecord.require, QueryRecord.refusal, clean, terminal, kept,
      QueryRecord.pageBatches, QueryRecord.opened, read, ResultStorage.writing, Except.mapError,
      Except.bind, loadFrom_ok]
    rfl

variable {viewer : Viewer} {readings : Nat → Reading} {limits : Nat → Nat} {record : QueryRecord}
  {batches : List RecordBatch}

/-- The client's query can be read at every moment: the record has ended without an error, holds its
result for good, is the client's and has not expired, and files are read back. -/
structure Viewer.Legible (viewer : Viewer) (readings : Nat → Reading) (batches : List RecordBatch)
    (record : QueryRecord) : Prop where
  terminal : record.data.state.terminal = true
  clean : record.data.error = none
  seals : record.data.storage.Seals batches
  reads : ∀ index, (viewer.when (readings index)).reads record = true
  faithful : ∀ index, (readings index).io.Faithful

/-- The process finds the record of the viewer's query, and nothing holds it up. -/
def Viewer.Finds (viewer : Viewer) (record : QueryRecord) (world : World S) : Prop :=
  viewer.unlocked world ∧
    ((viewer.node world).records.find viewer.queryId).map QueryRecord.content = some record

variable {world : World S}

/-- A request for a page is answered from the record, which stays. -/
theorem Viewer.Legible.page (legible : viewer.Legible readings batches record)
    (finds : viewer.Finds record world) (index offset limit : Nat) :
    ∃ after, (viewer.gateway.resultPage viewer.principal viewer.queryId offset limit).alone
        (viewer.when (readings index)).handles world =
          some (.ok (resultPageOf record.data.rows batches offset limit), after) ∧
      viewer.Finds record after := by
  have known : (viewer.when (readings index)).known world = some record := by
    have found : (((viewer.when (readings index)).node world).records.find
      (viewer.when (readings index)).queryId).map QueryRecord.content = some record := finds.2
    rw [Viewer.known, found, Option.filter_some, if_pos (legible.reads index)]
  have answers : (viewer.when (readings index)).Answers S _ _ :=
    Viewer.resultPage_answers offset limit
  obtain ⟨after, free, same, answered⟩ := answers world finds.1
  rw [known] at same answered
  refine ⟨after, ?_, free, (Option.filter_eq_some_iff.mp same).1⟩
  have page :=
    legible.seals.page legible.terminal legible.clean (legible.faithful index) offset limit
  exact answered.trans (congrArg (fun outcome => some (outcome, after)) page)

/-- The pages a client gets are those of the result that follow each other. -/
theorem Viewer.Legible.pages_iff (legible : viewer.Legible readings batches record)
    (finds : viewer.Finds record world) {index offset : Nat} {pages : List ResultPage} :
    viewer.Pages readings limits index offset world pages ↔
      Following (resultPageOf record.data.rows batches) limits index offset pages := by
  constructor
  · intro asks
    induction asks with
    | @last index offset world after page answered ended =>
      obtain ⟨_, gives, _⟩ := legible.page finds index offset (limits index)
      cases answered.symm.trans gives
      exact .last ended
    | @more index offset next world after page pages answered goes rest step =>
      obtain ⟨_, gives, found⟩ := legible.page finds index offset (limits index)
      cases answered.symm.trans gives
      exact .more goes (step found)
  · intro follows
    induction follows generalizing world with
    | @last index offset ended =>
      obtain ⟨_, gives, _⟩ := legible.page finds index offset (limits index)
      exact .last gives ended
    | @more index offset next pages goes rest step =>
      obtain ⟨_, gives, found⟩ := legible.page finds index offset (limits index)
      exact .more gives goes (step found)

/-- A query that has ended without an error and can be read holds what was sent for it. -/
theorem sent_legible {gateways : Nat → Gateway} {guard : Guard S} {store : S} {past : Past S}
    (history : GatewayHistory gateways guard (World.initial store) world past)
    (found : (viewer.node world).records.find viewer.queryId = some record)
    (terminal : record.data.state.terminal = true) (clean : record.data.error = none)
    (reads : ∀ index, (viewer.when (readings index)).reads record = true)
    (faithful : ∀ index, (readings index).io.Faithful) :
    ∃ collection, SentFor world past viewer.place viewer.principal.id viewer.queryId collection ∧
      record.data.rows = totalRows (batchesOf collection.run.items) % 2 ^ 64 ∧
      viewer.Legible readings (batchesOf collection.run.items) record.content := by
  obtain ⟨reference, listed, got⟩ := Option.bind_eq_some_iff.mp found
  obtain ⟨_, here, same⟩ := records_listed history viewer.place _ reference listed
  cases got.symm.trans here
  obtain ⟨collector, collection, started, place, collects, rfl, _, count, seals⟩ :=
    ended_complete history here terminal clean
  have owned : record.owner = viewer.principal.id := by
    have own := reads 0
    simp only [Viewer.reads, Viewer.when, Bool.and_eq_true, beq_iff_eq] at own
    exact own.1
  exact ⟨collection, ⟨⟨collector, started, place, collects⟩, record, here, same, owned⟩, count,
    ⟨terminal, clean, seals, reads, faithful⟩⟩

/-- In every run, consider a query that has ended without an error and that its owner can read at
the moments of its requests. Following its pages from the first row comes to an end and gives every
row the adapter sent once, in order, whatever the limits, just where the number of these rows fits
into 64 bits. -/
theorem paging_covers_iff [LawfulStore S] (gateways : Nat → Gateway) (store : S)
    (schedule : Schedule) (viewer : Viewer) (readings : Nat → Reading) (record : QueryRecord)
    (found : (viewer.node (gatewayRun gateways store schedule).world).records.find viewer.queryId =
      some record)
    (terminal : record.data.state.terminal = true) (clean : record.data.error = none)
    (free : viewer.unlocked (gatewayRun gateways store schedule).world)
    (reads : ∀ index, (viewer.when (readings index)).reads record = true)
    (faithful : ∀ index, (readings index).io.Faithful) :
    ∃ collection, SentFor (gatewayRun gateways store schedule).world
        (gatewayRun gateways store schedule).past viewer.place viewer.principal.id viewer.queryId
        collection ∧
      ((∀ limits, ∃ pages,
        viewer.Pages readings limits 0 0 (gatewayRun gateways store schedule).world pages ∧
          CoversOnce (rowsOf (batchesOf collection.run.items)) pages) ↔
        totalRows (batchesOf collection.run.items) < 2 ^ 64) := by
  have history := gatewayRun_history (runMeets_trivial gateways store schedule)
  obtain ⟨collection, sent, count, legible⟩ :=
    sent_legible history found terminal clean reads faithful
  refine ⟨collection, sent, ?_⟩
  have finds : viewer.Finds record.content (gatewayRun gateways store schedule).world :=
    ⟨free, by rw [found]; rfl⟩
  have counted : record.content.data.rows = totalRows (batchesOf collection.run.items) % 2 ^ 64 :=
    count
  simp only [legible.pages_iff finds, counted]
  exact following_covers_iff _

end

namespace Sample

/-- A query has ended without an error and can be read, and nothing holds the gateway up. -/
def endsCleanly (batches : List RecordBatch) : Bool :=
  let node := pager.node (run none (pagedQuery batches 10)).world
  decide (node.prepared.lock = .free) && (node.records.find "qcli_1").any fun record =>
    record.data.state.terminal && record.data.error.isNone && (pager.when reading).reads record

/-- Such a query. -/
theorem endsCleanly_found {batches : List RecordBatch} (ends : endsCleanly batches = true) :
    ∃ record, (pager.node (run none (pagedQuery batches 10)).world).records.find pager.queryId =
        some record ∧ record.data.state.terminal = true ∧ record.data.error = none ∧
      (pager.when reading).reads record = true ∧
      pager.unlocked (run none (pagedQuery batches 10)).world := by
  simp only [endsCleanly, Bool.and_eq_true, decide_eq_true_eq] at ends
  obtain ⟨free, ends⟩ := ends
  cases found : (pager.node (run none (pagedQuery batches 10)).world).records.find "qcli_1" with
  | none =>
    rw [found] at ends
    cases ends
  | some record =>
    rw [found] at ends
    simp only [Option.any_some, Bool.and_eq_true, Option.isNone_iff_eq_none] at ends
    exact ⟨record, found, ends.1.1, ends.1.2, ends.2, free⟩

end Sample

set_option maxRecDepth 20000 in
/-- A result of two batches, one of them empty, is covered once by its pages. -/
theorem paging_covers_small :
    ∃ pages, Sample.pager.Pages (fun _ => Sample.reading) (fun _ => 0) 0 0
        (Sample.run none (Sample.pagedQuery
          [Sample.columnless [[], []], Sample.columnless []] 10)).world pages ∧
      CoversOnce [[], []] pages := by
  obtain ⟨record, found, terminal, clean, reads, free⟩ := Sample.endsCleanly_found
    (show Sample.endsCleanly [Sample.columnless [[], []], Sample.columnless []] = true by
      decide +kernel)
  obtain ⟨collection, sent, covers⟩ := paging_covers_iff (S := MemoryState Payload) _ _ _
    Sample.pager (fun _ => Sample.reading) record found terminal clean free
    (fun _ => reads) (fun _ _ _ _ => rfl)
  rw [Sample.sent_batches sent] at covers
  exact covers.mpr (by decide) fun _ => 0

set_option maxRecDepth 20000 in
/-- A result of two batches of 2⁶³ rows is covered by one page without a row. -/
theorem paging_misses_overflowing :
    let tall := Sample.columnless (List.replicate (2 ^ 63) [])
    totalRows [tall, tall] = 2 ^ 64 ∧
    ∃ (collection : Collection) (page : ResultPage),
      SentFor (Sample.run none (Sample.pagedQuery [tall, tall] 10)).world
        (Sample.run none (Sample.pagedQuery [tall, tall] 10)).past 0 "alice" "qcli_1" collection ∧
      batchesOf collection.run.items = [tall, tall] ∧
      Sample.pager.Pages (fun _ => Sample.reading) (fun _ => 10) 0 0
        (Sample.run none (Sample.pagedQuery [tall, tall] 10)).world [page] ∧
      page.totalRows = 0 ∧ page.batches = [] := by
  intro tall
  have height : tall.numRows = 2 ^ 63 := List.length_replicate
  have total : totalRows [tall, tall] = 2 ^ 64 := by
    rw [totalRows_cons, totalRows_cons, height]
    rfl
  obtain ⟨record, found, terminal, clean, reads, free⟩ := Sample.endsCleanly_found
    (show Sample.endsCleanly [tall, tall] = true by decide +kernel)
  have history := gatewayRun_history (runMeets_trivial (fun _ => Sample.gateway none)
    (.empty : MemoryState Payload) (Sample.pagedQuery [tall, tall] 10))
  obtain ⟨collection, sent, count, legible⟩ := sent_legible history found terminal clean
    (fun _ : Nat => reads) (fun _ _ _ _ => rfl)
  have finds : Sample.pager.Finds record.content
      (Sample.run none (Sample.pagedQuery [tall, tall] 10)).world := ⟨free, by rw [found]; rfl⟩
  rw [Sample.sent_batches sent, total] at count
  have rows : record.content.data.rows = 0 := count
  refine ⟨total, collection, _, sent, Sample.sent_batches sent,
    (legible.pages_iff finds).mpr (.last ?_), ?_, ?_⟩
  · rw [rows]
    rfl
  · rw [rows]
    rfl
  · rw [rows]
    exact sliceFrom_zero 0 _ _

end ConfluxQuery

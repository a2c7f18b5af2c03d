import ConfluxQuery.Http.ArrowPages
import ConfluxQuery.Verif.Paging

/-!
# Arrow pages and their schema

The Arrow body of a page takes its schema from the first batch of the page. Slicing drops batches
without rows, so a page has a batch just where it has a row, and a page without rows is no stream at
all. A page of batches of one schema carries the query's schema just where it is that one.
-/

namespace ConfluxQuery

/-- The body is a stream of the schema, where there is one, with the rows of batches. -/
def ArrowStream.Carries (stream : ArrowStream) (body : stream.Body) (schema : Option Schema)
    (batches : List RecordBatch) : Prop :=
  ∃ declared decoded, stream.read body = some (declared, decoded) ∧ schema = some declared ∧
    rowsOf decoded = rowsOf batches

/-- Batches of one schema are rendered as a stream of a schema just where there are any and it is
theirs. -/
theorem renderArrow_carries (stream : ArrowStream) (schema : Option Schema)
    {batches : List RecordBatch} {declared : Schema}
    (uniform : ∀ batch ∈ batches, batch.schema = declared) :
    ∃ body, renderArrow stream batches = .ok body ∧
      (stream.Carries body schema batches ↔ batches ≠ [] ∧ schema = some declared) := by
  cases batches with
  | nil =>
    refine ⟨stream.empty, rfl, ?_⟩
    constructor
    · rintro ⟨declared, decoded, read, -⟩
      rw [stream.read_empty] at read
      cases read
    · rintro ⟨some, -⟩
      exact absurd rfl some
  | cons first rest =>
    cases uniform first List.mem_cons_self
    obtain ⟨body, decoded, written, read, rows⟩ := stream.roundTrip first.schema _ uniform
    refine ⟨body, written, ?_⟩
    constructor
    · rintro ⟨declared, decoded, same, known, -⟩
      rw [read] at same
      cases same
      exact ⟨by simp, known⟩
    · rintro ⟨-, known⟩
      exact ⟨_, decoded, read, known, rows⟩

/-- A page has a batch just where it has a row. -/
theorem page_ne_nil (batches : List RecordBatch) (rows offset limit : Nat) :
    (resultPageOf rows batches offset limit).batches ≠ [] ↔
      rowsOf (resultPageOf rows batches offset limit).batches ≠ [] := by
  cases page : (resultPageOf rows batches offset limit).batches with
  | nil => simp [rowsOf]
  | cons first rest =>
    have member : first ∈ (resultPageOf rows batches offset limit).batches :=
      page ▸ List.mem_cons_self
    obtain ⟨some, -⟩ := mem_sliceFrom member
    refine iff_of_true (by simp) fun none => some ?_
    rw [rowsOf, List.flatMap_cons, List.append_eq_nil_iff] at none
    exact none.1

section

variable {S : Type} [ClusterStateStore S Payload]

variable {service : HttpService} {principal : AuthenticatedPrincipal} {queryId : String}
  {query : ResultsQuery} {place : Nat} {reading : Reading} {world after : World S} {offset : Nat}
  {base64 : Base64 (List UInt8) (List Char)}

/-- A page the node has itself is the page of the cluster. -/
theorem resultPageClustered_local {gateway : Gateway} {limit : Nat} {page : ResultPage}
    (answered : (gateway.resultPage principal queryId offset limit).alone (handle place reading)
      world = some (.ok page, after)) :
    (gateway.resultPageClustered principal queryId offset limit).alone (handle place reading)
      world = some (.ok page, after) := by
  rw [Gateway.resultPageClustered]
  simp only [Prog.alone_bind, Prog.alone_attempt, answered, Option.map_some, Option.bind_some,
    Prog.resume_ok]
  rfl

/-- A request whose offset is accepted is answered with a rendering of the gateway's page at that
offset. -/
theorem getResults_accepted {β : Type} {render : List RecordBatch → Except String β}
    {page : ResultPage} {body : β} (accepted : service.pageOffset base64 query = .ok offset)
    (answered : (service.gateway.resultPageClustered principal queryId offset
      (service.pageLimit query)).alone (handle place reading) world = some (.ok page, after))
    (rendered : render page.batches = .ok body) :
    (service.getResults base64 render principal queryId query).alone (handle place reading) world =
      some (.ok (.ok ⟨body, service.nextToken base64 page⟩), after) := by
  rw [HttpService.getResults, accepted]
  simp only [Prog.alone_bind, Prog.alone_attempt, answered, Option.map_some, Option.bind_some,
    Prog.resume_ok, rendered]
  rfl

/-- In every run, consider a query that has ended without an error and that its owner can read. A
request for its results is answered, whatever the offset and the limit, where the batches of the
page have one schema. The Arrow body is a stream of the query's schema with the rows of the page
just where the page has a batch and the one schema is the query's; where all batches of the result
have the query's schema, just where the page has a row. -/
theorem arrow_page_decodes_iff [LawfulStore S] (gateways : Nat → Gateway) (store : S)
    (schedule : Schedule) (viewer : Viewer) (record : QueryRecord)
    (found : (viewer.node (gatewayRun gateways store schedule).world).records.find viewer.queryId =
      some record)
    (terminal : record.data.state.terminal = true) (clean : record.data.error = none)
    (free : viewer.unlocked (gatewayRun gateways store schedule).world)
    (reads : viewer.reads record = true) (faithful : viewer.reading.io.Faithful)
    (stream : ArrowStream) (base64 : Base64 (List UInt8) (List Char)) (service : HttpService)
    (serves : service.gateway = viewer.gateway) :
    ∃ collection, SentFor (gatewayRun gateways store schedule).world
        (gatewayRun gateways store schedule).past viewer.place viewer.principal.id viewer.queryId
        collection ∧
      ∀ query offset, service.pageOffset base64 query = .ok offset → ∃ page,
        page = resultPageOf record.data.rows (batchesOf collection.run.items) offset
          (service.pageLimit query) ∧
        ∀ declared, (∀ batch ∈ page.batches, batch.schema = declared) → ∃ body token after,
          (service.getArrowResults base64 stream viewer.principal viewer.queryId query).alone
            viewer.handles (gatewayRun gateways store schedule).world =
              some (.ok (.ok ⟨body, token⟩), after) ∧
          (stream.Carries body record.data.schema page.batches ↔
            page.batches ≠ [] ∧ record.data.schema = some declared) ∧
          ((∀ batch ∈ batchesOf collection.run.items, record.data.schema = some batch.schema) →
            (stream.Carries body record.data.schema page.batches ↔ rowsOf page.batches ≠ [])) := by
  have history := gatewayRun_history (runMeets_trivial gateways store schedule)
  let readings : Nat → Reading := fun _ => viewer.reading
  have readable : ∀ index, (viewer.when (readings index)).reads record = true := fun _ => reads
  obtain ⟨collection, sent, count, legible⟩ :=
    sent_legible history found terminal clean readable (fun _ => faithful)
  refine ⟨collection, sent, fun query offset accepted => ⟨_, rfl, fun declared one => ?_⟩⟩
  have finds : viewer.Finds record.content (gatewayRun gateways store schedule).world :=
    ⟨free, by rw [found]; rfl⟩
  obtain ⟨after, answered, -⟩ := legible.page finds 0 offset (service.pageLimit query)
  have clustered : (service.gateway.resultPageClustered viewer.principal viewer.queryId offset
      (service.pageLimit query)).alone viewer.handles
        (gatewayRun gateways store schedule).world = some (.ok (resultPageOf record.data.rows
          (batchesOf collection.run.items) offset (service.pageLimit query)), after) := by
    rw [serves]
    exact resultPageClustered_local answered
  obtain ⟨body, rendered, carries⟩ := renderArrow_carries stream record.data.schema one
  refine ⟨body, _, after, getResults_accepted accepted clustered rendered, carries,
    fun uniform => carries.trans ?_⟩
  rw [page_ne_nil, and_iff_left_iff_imp]
  intro some
  -- a page with a row has a batch, which has both schemas
  obtain ⟨first, member⟩ := List.exists_mem_of_ne_nil _ ((page_ne_nil _ _ _ _).mpr some)
  obtain ⟨-, batch, listed, same⟩ := mem_sliceFrom member
  rw [uniform batch listed, ← same, one first member]

end

namespace Sample

/-- Streams that are not encoded. -/
def plainStream : ArrowStream where
  Body := Option (Schema × List RecordBatch)
  empty := none
  write schema batches := .ok (some (schema, batches))
  read body := body
  roundTrip _ batches _ := ⟨_, batches, rfl, rfl, rfl⟩
  read_empty := rfl

/-- A coding of bytes by characters. -/
def base64 : Base64 (List UInt8) (List Char) where
  encode bytes := bytes.map fun byte => Char.ofNat byte.toNat
  decode text := some (text.map fun letter => UInt8.ofNat letter.toNat)
  decode_encode bytes := by
    have all : ∀ code : Fin 256, (Char.ofNat code.val).toNat = code.val := by decide +kernel
    rw [List.map_map, Option.some.injEq]
    refine (List.map_congr_left fun byte _ => ?_).trans (List.map_id bytes)
    rw [Function.comp_apply, all ⟨byte.toNat, byte.toNat_lt⟩, UInt8.ofNat_toNat, id]

/-- The HTTP frontend of the gateway. -/
def arrowService : HttpService := ⟨gateway none, {}, 0⟩

end Sample

set_option maxRecDepth 20000 in
/-- The first page of a result of two rows is a stream. -/
theorem arrow_page_of_rows : ∃ body token after,
    (Sample.arrowService.getArrowResults Sample.base64 Sample.plainStream Sample.alice "qcli_1"
        ⟨none, none⟩).alone (handle 0 Sample.reading)
        (Sample.run none (Sample.pagedQuery [Sample.columnless [[], []]] 10)).world =
      some (.ok (.ok ⟨body, token⟩), after) ∧
    Sample.plainStream.Carries body (some Schema.empty) [Sample.columnless [[], []]] := by
  obtain ⟨record, found, terminal, clean, reads, free⟩ := Sample.endsCleanly_found
    (show Sample.endsCleanly [Sample.columnless [[], []]] = true by decide +kernel)
  have held : ((Sample.pager.node (Sample.run none
      (Sample.pagedQuery [Sample.columnless [[], []]] 10)).world).records.find
        Sample.pager.queryId).map (fun record => (record.data.rows, record.data.schema)) =
          some (2, some Schema.empty) := by
    decide +kernel
  rw [found, Option.map_some, Option.some.injEq, Prod.mk.injEq] at held
  obtain ⟨collection, sent, pages⟩ := arrow_page_decodes_iff (S := MemoryState Payload) _ _ _
    Sample.pager record found terminal clean free reads (fun _ _ _ => rfl) Sample.plainStream
    Sample.base64 Sample.arrowService rfl
  obtain ⟨page, rfl, decodes⟩ := pages ⟨none, none⟩ 0 rfl
  rw [Sample.sent_batches sent, held.1, held.2] at decodes
  obtain ⟨body, token, after, answered, carries, -⟩ := decodes Schema.empty (by decide)
  exact ⟨body, token, after, answered, carries.mpr ⟨by decide, rfl⟩⟩

set_option maxRecDepth 20000 in
/-- The page of a result without rows is no stream, although the query's schema is known. -/
theorem arrow_page_without_rows :
    ((Sample.pager.node (Sample.run none
        (Sample.pagedQuery [Sample.columnless []] 10)).world).records.find
      "qcli_1").map (fun record => record.data.schema) = some (some Schema.empty) ∧
    ((Sample.arrowService.getArrowResults Sample.base64 Sample.plainStream Sample.alice "qcli_1"
        ⟨none, none⟩).alone (handle 0 Sample.reading)
        (Sample.run none (Sample.pagedQuery [Sample.columnless []] 10)).world).map
      (fun ended => ended.1.toOption.bind fun answer => answer.toOption.map fun response =>
        (Sample.plainStream.read response.body).isSome) = some (some false) := by
  decide +kernel

end ConfluxQuery

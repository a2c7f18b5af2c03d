import ConfluxQuery.Verif.ArrowPages

/-!
# Page tokens

The token of a next page is read back by every frontend with the same secret as the offset it was
made of, and refused by every other. A client that asks a frontend for a first page and then follows
the tokens therefore gets the pages of the result that follow each other.
-/

namespace ConfluxQuery

/-- The check value of an offset determines the secret. -/
theorem pageSignature_inj {offset one other : BitVec 64} :
    pageSignature offset one = pageSignature offset other ↔ one = other := by
  constructor
  · intro same
    have cancelled := congrArg (offset.rotateLeft 17 ^^^ ·) same
    simpa [pageSignature, ← BitVec.xor_assoc] using cancelled
  · rintro rfl
    rfl

theorem splitOnce_pageTokenText (offset secret : BitVec 64) :
    Text.splitOnce ':' (pageTokenText offset secret).toList =
      some (Hexadecimal.print offset, Hexadecimal.print (pageSignature offset secret)) := by
  rw [pageTokenText, String.toList_ofList]
  refine Text.splitOnce_eq_some.mpr ⟨fun member => ?_, rfl⟩
  have impossible := Hexadecimal.digit_of_mem_print member
  revert impossible
  decide

section

variable (base64 : Base64 (List UInt8) (List Char))

/-- A token is read by a frontend just where it has the secret the token was made with. -/
theorem readPageToken_encode (offset one other : BitVec 64) :
    readPageToken base64 (encodePageToken base64 offset one) other =
      if one = other then some offset else none := by
  have text : String.fromUTF8? ⟨(pageTokenText offset one).toUTF8.data.toList.toArray⟩ =
      some (pageTokenText offset one) := by
    rw [Array.toArray_toList, String.fromUTF8?]
    exact dif_pos (String.isValidUTF8 _)
  simp only [readPageToken, encodePageToken, String.toList_ofList, base64.decode_encode,
    Option.bind_eq_bind, Option.bind_some, text, splitOnce_pageTokenText, Hexadecimal.read_print,
    pageSignature_inj]

/-- A token leads to its offset at a frontend of its secret and is refused at others. -/
theorem pageOffset_encode (service : HttpService) (offset : Nat) (secret : BitVec 64)
    (limit : Option Nat) :
    service.pageOffset base64 ⟨some (encodePageToken base64 (.ofNat 64 offset) secret), limit⟩ =
      if secret = service.pageSecret then .ok (offset % 2 ^ 64) else .error invalidPageToken := by
  simp only [HttpService.pageOffset, decodePageToken, readPageToken_encode]
  by_cases same : secret = service.pageSecret
  · simp [same]
  · simp [same]

/-- The token a frontend gives for a next page leads to that page at every frontend of the same
secret, and is refused at every other. -/
theorem page_token_followed (one other : HttpService) (page : ResultPage) (limit : Option Nat) :
    (one.nextToken base64 page).map
        (fun token => other.pageOffset base64 ⟨some token, limit⟩) =
      page.nextOffset.map fun offset =>
        if one.pageSecret = other.pageSecret then .ok (offset % 2 ^ 64)
        else .error invalidPageToken := by
  rw [HttpService.nextToken]
  cases page.nextOffset with
  | none => rfl
  | some offset => simp only [Option.map_some, pageOffset_encode]

variable {S β : Type} [ClusterStateStore S Payload]

/-- A client asks a frontend for a page of the viewer's query, in the world the request before has
left, and goes on with the token of the response until there is none. It gets a body for every page.
-/
inductive Viewer.Browses (viewer : Viewer) (service : HttpService)
    (render : List RecordBatch → Except String β) (readings : Nat → Reading)
    (limits : Nat → Option Nat) : Nat → Option String → World S → List β → Prop
  | last {index : Nat} {token : Option String} {world after : World S} {body : β}
      (answered : (service.getResults base64 render viewer.principal viewer.queryId
        ⟨token, limits index⟩).alone (viewer.when (readings index)).handles world =
          some (.ok (.ok ⟨body, none⟩), after)) :
      Browses viewer service render readings limits index token world [body]
  | more {index : Nat} {token : Option String} {next : String} {world after : World S}
      {body : β} {bodies : List β}
      (answered : (service.getResults base64 render viewer.principal viewer.queryId
        ⟨token, limits index⟩).alone (viewer.when (readings index)).handles world =
          some (.ok (.ok ⟨body, some next⟩), after))
      (rest : Browses viewer service render readings limits (index + 1) (some next) after bodies) :
      Browses viewer service render readings limits index token world (body :: bodies)

variable {base64} {viewer : Viewer} {service : HttpService} {readings : Nat → Reading}
  {limits : Nat → Option Nat} {record : QueryRecord} {batches : List RecordBatch}
  {render : List RecordBatch → Except String β}

/-- A frontend answers a request for a page that can be rendered from the record, which stays. -/
theorem Viewer.Legible.getResults (legible : viewer.Legible readings batches record)
    (serves : service.gateway = viewer.gateway) {world : World S}
    (finds : viewer.Finds record world) (index : Nat) {query : ResultsQuery} {offset : Nat}
    (accepted : service.pageOffset base64 query = .ok offset) {body : β}
    (rendered : render (resultPageOf record.data.rows batches offset
      (service.pageLimit query)).batches = .ok body) :
    ∃ after, (service.getResults base64 render viewer.principal viewer.queryId query).alone
        (viewer.when (readings index)).handles world =
          some (.ok (.ok ⟨body, service.nextToken base64 (resultPageOf record.data.rows batches
            offset (service.pageLimit query))⟩), after) ∧ viewer.Finds record after := by
  obtain ⟨after, answered, stays⟩ := legible.page finds index offset (service.pageLimit query)
  rw [← serves] at answered
  exact ⟨after, getResults_accepted accepted (resultPageClustered_local answered) rendered, stays⟩

/-- Pages that follow each other and can be rendered are those a client gets that follows the
tokens. -/
theorem Viewer.Legible.browses (legible : viewer.Legible readings batches record)
    (serves : service.gateway = viewer.gateway) (fits : record.data.rows < 2 ^ 64)
    (renders : ∀ offset limit, ∃ body,
      render (resultPageOf record.data.rows batches offset limit).batches = .ok body)
    {world : World S} (finds : viewer.Finds record world) {index offset : Nat}
    {pages : List ResultPage} (follows : Following (resultPageOf record.data.rows batches)
      (fun index => service.pageLimit ⟨none, limits index⟩) index offset pages)
    {token : Option String}
    (accepted : service.pageOffset base64 ⟨token, limits index⟩ = .ok offset) :
    ∃ bodies, viewer.Browses base64 service render readings limits index token world bodies ∧
      List.Forall₂ (fun page body => render page.batches = .ok body) pages bodies := by
  induction follows generalizing world token with
  | @last index offset ended =>
    obtain ⟨body, rendered⟩ := renders offset (service.pageLimit ⟨token, limits index⟩)
    obtain ⟨after, answered, -⟩ := legible.getResults serves finds index accepted rendered
    have ended' : (resultPageOf record.data.rows batches offset
      (service.pageLimit ⟨token, limits index⟩)).nextOffset = none := ended
    rw [HttpService.nextToken, ended'] at answered
    exact ⟨[body], .last answered, .cons rendered .nil⟩
  | @more index offset next pages goes rest step =>
    obtain ⟨body, rendered⟩ := renders offset (service.pageLimit ⟨token, limits index⟩)
    obtain ⟨after, answered, stays⟩ := legible.getResults serves finds index accepted rendered
    have goes' : (resultPageOf record.data.rows batches offset
      (service.pageLimit ⟨token, limits index⟩)).nextOffset = some next := goes
    -- the next offset is below the number of rows, so the token keeps it
    have small : next < 2 ^ 64 := by
      simp only [resultPageOf, pageOf, Option.ite_none_right_eq_some, Option.some.injEq] at goes
      omega
    rw [HttpService.nextToken, goes'] at answered
    have led := pageOffset_encode base64 service next service.pageSecret (limits (index + 1))
    rw [if_pos rfl, Nat.mod_eq_of_lt small] at led
    obtain ⟨bodies, browses, renderings⟩ := step stays led
    exact ⟨body :: bodies, .more answered browses, .cons rendered renderings⟩

/-- In every run, consider a query that has ended without an error and that its owner can read at
the moments of its requests, and a renderer that succeeds on the pages of its result. If its rows
fit into 64 bits, a client that asks the HTTP frontend for a first page and follows the tokens, with
whatever limits, comes to an end, and the bodies it gets are the renderings of pages that hold every
row the adapter sent once, in order. -/
theorem browsing_covers [LawfulStore S] (gateways : Nat → Gateway) (store : S)
    (schedule : Schedule) (viewer : Viewer) (readings : Nat → Reading) (record : QueryRecord)
    (found : (viewer.node (gatewayRun gateways store schedule).world).records.find viewer.queryId =
      some record)
    (terminal : record.data.state.terminal = true) (clean : record.data.error = none)
    (free : viewer.unlocked (gatewayRun gateways store schedule).world)
    (reads : ∀ index, (viewer.when (readings index)).reads record = true)
    (faithful : ∀ index, (readings index).io.Faithful)
    (base64 : Base64 (List UInt8) (List Char)) (render : List RecordBatch → Except String β)
    (service : HttpService) (serves : service.gateway = viewer.gateway) :
    ∃ collection, SentFor (gatewayRun gateways store schedule).world
        (gatewayRun gateways store schedule).past viewer.place viewer.principal.id viewer.queryId
        collection ∧
      (totalRows (batchesOf collection.run.items) < 2 ^ 64 →
        (∀ offset limit, ∃ body, render (resultPageOf record.data.rows
          (batchesOf collection.run.items) offset limit).batches = .ok body) →
        ∀ limits, ∃ pages bodies,
          viewer.Browses base64 service render readings limits 0 none
            (gatewayRun gateways store schedule).world bodies ∧
          List.Forall₂ (fun page body => render page.batches = .ok body) pages bodies ∧
          CoversOnce (rowsOf (batchesOf collection.run.items)) pages) := by
  have history := gatewayRun_history (runMeets_trivial gateways store schedule)
  obtain ⟨collection, sent, count, legible⟩ :=
    sent_legible history found terminal clean reads faithful
  refine ⟨collection, sent, fun fits renders limits => ?_⟩
  have counted : record.content.data.rows = totalRows (batchesOf collection.run.items) % 2 ^ 64 :=
    count
  obtain ⟨pages, follows, covers⟩ := (following_covers_iff _).mpr fits
    fun index => service.pageLimit ⟨none, limits index⟩
  rw [← counted] at follows
  have first : service.pageOffset base64 ⟨none, limits 0⟩ = .ok 0 := rfl
  obtain ⟨bodies, browses, renderings⟩ := legible.browses serves
    (counted ▸ Nat.mod_lt _ (by decide)) renders ⟨free, by rw [found]; rfl⟩ follows first
  exact ⟨pages, bodies, browses, renderings, covers⟩

end

set_option maxRecDepth 20000 in
/-- A result of two rows is covered once by the pages of one row the tokens lead to. -/
theorem browsing_covers_small :
    ∃ pages bodies, Sample.pager.Browses Sample.base64 Sample.arrowService
        (fun batches => .ok batches) (fun _ => Sample.reading) (fun _ => some 1) 0 none
        (Sample.run none (Sample.pagedQuery [Sample.columnless [[], []]] 10)).world bodies ∧
      List.Forall₂ (fun (page : ResultPage) body =>
        (Except.ok page.batches : Except String (List RecordBatch)) = .ok body) pages bodies ∧
      CoversOnce [[], []] pages := by
  obtain ⟨record, found, terminal, clean, reads, free⟩ := Sample.endsCleanly_found
    (show Sample.endsCleanly [Sample.columnless [[], []]] = true by decide +kernel)
  obtain ⟨collection, sent, covers⟩ := browsing_covers (S := MemoryState Payload) _ _ _
    Sample.pager (fun _ => Sample.reading) record found terminal clean free (fun _ => reads)
    (fun _ _ _ _ => rfl) Sample.base64 (fun batches => .ok batches) Sample.arrowService rfl
  rw [Sample.sent_batches sent] at covers
  exact covers (by decide) (fun _ _ => ⟨_, rfl⟩) fun _ => some 1

end ConfluxQuery

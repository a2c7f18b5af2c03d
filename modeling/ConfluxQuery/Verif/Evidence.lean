import ConfluxQuery.Verif.Answers

/-!
# Evidence lasts

What a call has seen stays in its trail, so everything the protocol asks for can be established by
an earlier part of a program and used by a later one. What a call has not done yet is kept by the
parts of a program that draw no identifier and start no background work.
-/

namespace ConfluxQuery

namespace Seen

variable {before after trail : Seen} {principal id : String} {reference : Nat}

/-- The newest step has been seen. -/
theorem Saw.newest {act : Op} {reply : act.Reply} : Saw (⟨act, reply⟩ :: trail) act reply :=
  List.mem_cons_self

/-- A step stays seen. -/
theorem Saw.grow {act : Op} {reply : act.Reply} (seen : before.Saw act reply)
    (grown : before <:+ after) : after.Saw act reply := grown.subset seen

/-- What was read stays read. -/
theorem Read.grow {kind : String} {resource : Resource}
    (seen : before.Read kind id principal resource) (grown : before <:+ after) :
    after.Read kind id principal resource := grown.subset seen

theorem Loaded.grow {key : Option String} {parameters : List RecordBatch}
    (loaded : before.Loaded key parameters) (grown : before <:+ after) :
    after.Loaded key parameters := by
  cases loaded with
  | none => exact .none
  | object key file entries parameters got read decoded =>
    exact .object key file entries parameters (grown.subset got) (grown.subset read) decoded

/-- Ownership that was seen stays seen. -/
theorem Touched.grow (seen : before.Touched principal id) (grown : before <:+ after) :
    after.Touched principal id := grown.subset seen

/-- A drawn identifier stays drawn. -/
theorem Drew.grow (drew : before.Drew id) (grown : before <:+ after) : after.Drew id := by
  obtain ⟨username, seen⟩ := drew
  exact ⟨username, grown.subset seen⟩

/-- An expiry that was seen stays seen. -/
theorem Expired.grow (expired : before.Expired id) (grown : before <:+ after) :
    after.Expired id := by
  obtain ⟨owner, now, ttl, list, listed, seen⟩ := expired
  exact ⟨owner, now, ttl, list, listed, seen.imp (fun s => grown.subset s) fun s => grown.subset s⟩

/-- A snapshot that is held stays held. -/
theorem Holds.grow {found : SessionSnapshot} (holds : before.Holds principal found)
    (grown : before <:+ after) : after.Holds principal found := by
  cases holds with
  | cached found owned read => exact .cached found (owned.grow grown) (read.grow grown)
  | hydrated found permit resource id read payload =>
    exact .hydrated found permit resource id (read.grow grown) payload
  | created session inserted => exact .created session (inserted.grow grown)

/-- A submission stays seen. -/
theorem Submitted.grow {stored : QueryRecord} (submitted : before.Submitted reference stored)
    (grown : before <:+ after) : after.Submitted reference stored := by
  obtain ⟨⟨record, inserted⟩, read⟩ := submitted
  exact ⟨⟨record, grown.subset inserted⟩, grown.subset read⟩

theorem Presents.grow {started lease : QueryLease} (presents : before.Presents started lease)
    (grown : before <:+ after) : after.Presents started lease :=
  presents.imp_right fun ⟨previous, ttl, renewed⟩ => ⟨previous, ttl, grown.subset renewed⟩

theorem Located.grow {record : QueryRecord} (located : before.Located principal id reference record)
    (grown : before <:+ after) : after.Located principal id reference record :=
  ⟨grown.subset located.1, grown.subset located.2⟩

theorem ReadsShared.grow {shared : SharedQuery} (reads : before.ReadsShared principal id shared)
    (grown : before <:+ after) : after.ReadsShared principal id shared := by
  obtain ⟨resource, read, payload⟩ := reads
  exact ⟨resource, read.grow grown, payload⟩

/-- A reader of a record's result reads what the record retains. -/
theorem ReadsResult.shows {skip : Nat} {remaining : Option Nat} {reader : ResultBatchReader}
    (reads : trail.ReadsResult principal id skip remaining reader) :
    ∃ reference record, trail.Located principal id reference record ∧
      (Answer.reader reader).Shows trail.Saw record := by
  obtain ⟨reference, record, located, -, -, -, -, held⟩ := reads
  refine ⟨reference, record, located, ?_⟩
  rcases held with ⟨batches, stored, -, same⟩ | ⟨file, stored, -, read⟩
  · exact .inl ⟨batches, stored, same⟩
  · exact .inr ⟨file, stored, read⟩

/-- A page of a record's result is cut out of what the record retains. -/
theorem ReadsPage.shows {offset limit : Nat} {page : ResultPage}
    (reads : trail.ReadsPage principal id offset limit page) :
    ∃ reference record, trail.Located principal id reference record ∧
      (Answer.page page).Shows trail.Saw record := by
  obtain ⟨reference, record, batches, located, -, -, same, held⟩ := reads
  rcases held with ⟨kept, stored, sliced⟩ | ⟨file, entries, stored, read, loaded⟩
  · exact ⟨reference, record, located, reference, record, offset, limit, batches, _, located.2,
      same,
      .inl ⟨kept, stored, rfl⟩, .inl ⟨kept, rfl, sliced⟩⟩
  · exact ⟨reference, record, located, reference, record, offset, limit, batches, entries,
      located.2,
      same, .inr ⟨file, stored, read⟩, .inr (.inl loaded)⟩

/-- Whoever has opened a result reads what its record retains or is part of a cluster. -/
theorem Opens.sourced {gateway : Gateway} {reader : ResultBatchReader}
    (opens : trail.Opens gateway principal id reader) :
    (∃ reference record, trail.Located principal id reference record ∧
        (Answer.reader reader).Shows trail.Saw record) ∨
      gateway.cluster.isSome = true := by
  rcases opens with ⟨_, _, reads⟩ | ⟨clustered, _⟩
  · exact .inl reads.shows
  · exact .inr clustered

end Seen

/-- What was retained before more was seen is retained after it. -/
theorem QueryRecord.Retains.mono {saw more : ∀ act : Op, act.Reply → Prop} {record : QueryRecord}
    {entries : FileReader} (retains : record.Retains saw entries)
    (grows : ∀ act reply, saw act reply → more act reply) : record.Retains more entries := by
  rcases retains with kept | ⟨file, stored, read⟩
  · exact .inl kept
  · exact .inr ⟨file, stored, grows _ _ read⟩

/-- What an answer shows it shows when more was seen. -/
theorem Answer.Shows.mono {saw more : ∀ act : Op, act.Reply → Prop} {record : QueryRecord}
    {answer : Answer} (shows : answer.Shows saw record)
    (grows : ∀ act reply, saw act reply → more act reply) : answer.Shows more record := by
  cases answer with
  | page cut =>
    obtain ⟨reference, counted, offset, limit, batches, entries, read, same, retains, cuts⟩ := shows
    exact ⟨reference, counted, offset, limit, batches, entries, grows _ _ read, same,
      retains.mono grows, cuts⟩
  | reader opened => exact QueryRecord.Retains.mono shows grows
  | batchCount count =>
    obtain ⟨entries, retains, same⟩ := shows
    exact ⟨entries, retains.mono grows, same⟩
  | status | schema | events => exact shows
  | done | session | metadata | prepared | updated | polling => exact trivial

/-- A lease stays a lease. -/
theorem Request.Leases.grow {request : Request} {before after : Seen} {id : String} {token : Nat}
    (leases : request.Leases before id token) (grown : before <:+ after) :
    request.Leases after id token := by
  cases leases with
  | claimed principal operation node ttl reference stored lease called submitted named claimed =>
    exact .claimed principal operation node ttl reference stored lease called
      (submitted.grow grown) named (claimed.grow grown)
  | published principal queryId lease polls reference stored task found read named =>
    exact .published principal queryId lease polls reference stored task (found.grow grown)
      (read.grow grown) named

/-- The operation draws no session identifier and starts no background work. -/
def Op.quiet : Op → Bool
  | sessions (.nextSessionId _) => false
  | host (.spawn _) => false
  | _ => true

/-- The operation starts no background work. -/
def Op.idle : Op → Bool
  | host (.spawn _) => false
  | _ => true

namespace Seen

/-- A trail that has grown without starting background work. -/
structure Idle (before after : Seen) : Prop where
  grown : before <:+ after
  /-- Background work was started earlier. -/
  spawned : ∀ task, after.Saw (.host (.spawn task)) () → before.Saw (.host (.spawn task)) ()

/-- A trail that has grown without starting background work and without drawing an identifier. -/
structure Quiet (before after : Seen) : Prop extends Idle before after where
  /-- Identifiers were drawn earlier. -/
  drew : ∀ id, after.Drew id → before.Drew id

variable {before middle after : Seen}

/-- Idle growth composes. -/
theorem Idle.trans (first : Idle before middle) (second : Idle middle after) :
    Idle before after where
  grown := first.grown.trans second.grown
  spawned task seen := first.spawned task (second.spawned task seen)

/-- Quiet growth composes. -/
theorem Quiet.trans (first : Quiet before middle) (second : Quiet middle after) :
    Quiet before after where
  toIdle := first.toIdle.trans second.toIdle
  drew id seen := first.drew id (second.drew id seen)

theorem Idle.steps (added : Seen) (silent : (added.all fun step => step.1.idle) = true) :
    Idle before (added ++ before) where
  grown := List.suffix_append added before
  spawned task seen := by
    refine (List.mem_append.mp seen).resolve_left fun new => ?_
    have loud := List.all_eq_true.mp silent _ new
    cases loud

/-- Steps that start no background work and draw no identifier. -/
theorem Quiet.steps (added : Seen) (silent : (added.all fun step => step.1.quiet) = true) :
    Quiet before (added ++ before) where
  grown := List.suffix_append added before
  spawned task seen := by
    refine (List.mem_append.mp seen).resolve_left fun new => ?_
    have loud := List.all_eq_true.mp silent _ new
    cases loud
  drew id seen := by
    obtain ⟨username, seen⟩ := seen
    refine ⟨username, (List.mem_append.mp seen).resolve_left fun new => ?_⟩
    have loud := List.all_eq_true.mp silent _ new
    cases loud

/-- No growth is quiet. -/
theorem Quiet.rfl : Quiet before before := Quiet.steps [] (Eq.refl true)

end Seen

end ConfluxQuery

import Metasearch.Proofs.Stored.Source
import Metasearch.Proofs.Time.Instant
import Metasearch.ResultSet

/-!
# Queries and results as data, written and read

What is left out of a table is what its reader puts in its place: extras without anything told, a
part of the extras that is not told. The fields of a status stand among those of its outcome and
share no name with them.

## Main definitions

* `Query.IsProper`, `Record.IsProper`, `Outcome.IsProper`: integers of the size they are stored in,
  and timestamps that exist.

## Main results

* `IsProper.decode?_encode` of each of them, and of `ResultSet`, `Response` and `Collection`.
-/

namespace Metasearch

open Metasearch.Data

/-! ### Names -/

theorem SafeSearch.decode?_encode (l : SafeSearch) : SafeSearch.decode? l.encode = some l := by
  cases l <;> rfl

theorem TimeRange.decode?_encode (r : TimeRange) : TimeRange.decode? r.encode = some r := by
  cases r <;> rfl

theorem RecordKind.decode?_encode (k : RecordKind) : RecordKind.decode? k.encode = some k := by
  cases k <;> rfl

theorem FailureKind.decode?_encode (k : FailureKind) : FailureKind.decode? k.encode = some k := by
  cases k <;> rfl

theorem asList?_text (l : List String) : asList? asText? (.list (l.map .text)) = some l :=
  asList?_map fun _ _ => rfl

/-! ### Queries -/

namespace Query

/-- A query whose page has 32 bits. -/
def IsProper (q : Query) : Prop :=
  (q.page : Int) ≤ maxPage

theorem IsProper.decode?_encode {q : Query} (h : q.IsProper) : decode? q.encode = some q := by
  have hrange : asOption? TimeRange.decode? (ofOption TimeRange.encode q.timeRange) =
      some q.timeRange :=
    asOption?_ofOption (fun _ => Data.noConfusion) fun r _ => r.decode?_encode
  simp [encode, decode?, fields?, fieldNames, distinct, Fields.required?, Fields.optional?,
    Fields.orElse?, Fields.find?, asText?, asOption?_text, asList?_text, Category.asList?_encode,
    SafeSearch.decode?_encode, asUnsigned?_ofNat h, hrange]

end Query

/-! ### Records -/

namespace Extras

/-- Extras whose integers have 64 bits. -/
structure IsProper (e : Extras) : Prop where
  /-- The balance of votes has a sign. -/
  votes : ∀ n ∈ e.votes, minSigned ≤ n ∧ n ≤ maxSigned
  /-- The number of comments has none. -/
  comments : ∀ n ∈ e.comments, (n : Int) ≤ maxUnsigned

/-- The fields of extras. -/
def fields (e : Extras) : List (String × Data) :=
  optionalField "author" .text e.author ++ optionalField "votes" .int e.votes ++
    optionalField "comments" ofNat e.comments ++
    optionalField "tags" (fun tags => .list (tags.map .text))
      (if e.tags.isEmpty then .none else some e.tags) ++
    optionalField "label" .text e.label ++ optionalField "thumbnail" .text e.thumbnail ++
    optionalField "domain" .text e.domain ++ optionalField "upstream_engine" .text e.engine

theorem encode_eq (e : Extras) : e.encode = .table e.fields := by
  rw [encode, fields]
  split <;> rfl

theorem nodup_fields (e : Extras) : (e.fields.map (·.1)).Nodup := by
  have hsub : (e.fields.map (·.1)).Sublist fieldNames := by
    simp only [fields, List.map_append]
    exact (((((((sublist_optionalField _ _ _).append (sublist_optionalField _ _ _)).append
      (sublist_optionalField _ _ _)).append (sublist_optionalField _ _ _)).append
      (sublist_optionalField _ _ _)).append (sublist_optionalField _ _ _)).append
      (sublist_optionalField _ _ _)).append (sublist_optionalField _ _ _)
  exact List.Nodup.sublist hsub (by decide)

/-- What is found under each name. -/
theorem find?_fields (e : Extras) :
    Fields.find? ⟨true, e.fields⟩ "author" = e.author.map .text ∧
      Fields.find? ⟨true, e.fields⟩ "votes" = e.votes.map .int ∧
      Fields.find? ⟨true, e.fields⟩ "comments" = e.comments.map ofNat ∧
      Fields.find? ⟨true, e.fields⟩ "tags" =
        (if e.tags.isEmpty then .none else some (.list (e.tags.map .text))) ∧
      Fields.find? ⟨true, e.fields⟩ "label" = e.label.map .text ∧
      Fields.find? ⟨true, e.fields⟩ "thumbnail" = e.thumbnail.map .text ∧
      Fields.find? ⟨true, e.fields⟩ "domain" = e.domain.map .text ∧
      Fields.find? ⟨true, e.fields⟩ "upstream_engine" = e.engine.map .text := by
  refine ⟨?_, ?_, ?_, ?_, ?_, ?_, ?_, ?_⟩ <;>
    simp [fields, Fields.find?_append, Fields.find?_optionalField]
  split <;> rfl

theorem IsProper.decode?_encode {e : Extras} (h : e.IsProper) : decode? e.encode = some e := by
  obtain ⟨f, hf, -, hfind⟩ := exists_fields? e.nodup_fields fieldNames
  have htext : ∀ {name : String} {o : Option String}, name ∈ fieldNames →
      Fields.find? ⟨true, e.fields⟩ name = o.map .text → f.maybe? name asText? = some o :=
    fun hname hfound => Fields.maybe?_eq_some ((hfind _ hname).trans hfound)
      (fun _ => Data.noConfusion) fun _ _ => rfl
  obtain ⟨hauthor, hvotes, hcomments, htags, hlabel, hthumbnail, hdomain, hengine⟩ :=
    e.find?_fields
  have hvotes : f.maybe? "votes" asSigned? = some e.votes :=
    Fields.maybe?_eq_some ((hfind _ (by decide)).trans hvotes) (fun _ => Data.noConfusion)
      fun n hn => if_pos (h.votes n hn)
  have hcomments : f.maybe? "comments" asNat? = some e.comments :=
    Fields.maybe?_eq_some ((hfind _ (by decide)).trans hcomments) (fun _ => Data.noConfusion)
      fun n hn => asUnsigned?_ofNat (h.comments n hn)
  have htags : f.orElse? "tags" (asList? asText?) [] = some e.tags := by
    rw [Fields.orElse?, hfind _ (by decide), htags]
    cases htags : e.tags with
    | nil => rfl
    | cons tag tags => exact asList?_text (tag :: tags)
  rw [encode_eq, decode?, hf]
  simp [htext (by decide) hauthor, hvotes, hcomments, htags, htext (by decide) hlabel,
    htext (by decide) hthumbnail, htext (by decide) hdomain, htext (by decide) hengine]

end Extras

namespace Record

/-- A record whose extras have 64 bits and whose timestamp exists. -/
structure IsProper (r : Record) : Prop where
  /-- The timestamp exists. -/
  published : ∀ t ∈ r.published, t.IsProper
  /-- The integers have 64 bits. -/
  extras : r.extras.IsProper

theorem decodeInstant?_encodeInstant {t : Instant} (h : t.IsProper) :
    decodeInstant? (encodeInstant t) = some t := by
  rw [decodeInstant?, encodeInstant, asText?, Option.bind_some, h.ofText?_text]

theorem IsProper.decode?_encode {r : Record} (h : r.IsProper) : decode? r.encode = some r := by
  have hpublished : asOption? decodeInstant? (ofOption encodeInstant r.published) =
      some r.published :=
    asOption?_ofOption (fun _ => Data.noConfusion) fun t ht =>
      decodeInstant?_encodeInstant (h.published t ht)
  have hrelevance : asOption? asFloat? (ofOption .float r.relevance) = some r.relevance :=
    asOption?_ofOption (fun _ => Data.noConfusion) fun _ _ => rfl
  by_cases hempty : r.extras.isEmpty = true
  · have hnone : r.extras = Extras.none := of_decide_eq_true hempty
    simp [encode, hempty, decode?, fields?, fieldNames, distinct, Fields.required?,
      Fields.optional?, Fields.orElse?, Fields.find?, asText?, asFloat?,
      RecordKind.decode?_encode, hpublished, hrelevance, ← hnone]
  · simp [encode, hempty, decode?, fields?, fieldNames, distinct, Fields.required?,
      Fields.optional?, Fields.orElse?, Fields.find?, asText?, asFloat?,
      RecordKind.decode?_encode, hpublished, hrelevance, h.extras.decode?_encode]

end Record

/-! ### Outcomes -/

namespace Outcome

/-- An outcome whose integers have 64 bits. -/
structure IsProper (o : Outcome) : Prop where
  /-- The number of records. -/
  records : ∀ n, o.status = .success n → (n : Int) ≤ maxUnsigned
  /-- The time it took. -/
  elapsed : (o.elapsed : Int) ≤ maxUnsigned

/-- **The fields of a status are found among those of its outcome.** -/
theorem IsProper.decode?_encode {o : Outcome} (h : o.IsProper) : decode? o.encode = some o := by
  obtain ⟨source, status, elapsed⟩ := o
  have helapsed : asNat? (ofNat elapsed) = some elapsed := asUnsigned?_ofNat h.elapsed
  cases status with
  | success records =>
    have hrecords : asNat? (ofNat records) = some records :=
      asUnsigned?_ofNat (h.records records rfl)
    have hreadable : (ofNat records).isReadable = true := by
      rw [ofNat, isReadable] <;> simp
    simp [encode, statusFields, decode?, decodeStatus?, statusName?, fields?, distinct,
      Fields.required?, Fields.find?, fieldsReadable, isReadable, asText?, helapsed, hrecords, hreadable]
  | empty =>
    simp [encode, statusFields, decode?, decodeStatus?, statusName?, fields?, distinct,
      Fields.required?, Fields.find?, fieldsReadable, isReadable, asText?, helapsed]
  | error kind cause =>
    have hkind : FailureKind.decode? (.text kind.name) = some kind := kind.decode?_encode
    simp [encode, statusFields, decode?, decodeStatus?, statusName?, fields?, distinct,
      Fields.required?, Fields.find?, fieldsReadable, isReadable, asText?, helapsed,
      FailureKind.encode, hkind]

end Outcome

/-! ### Results -/

theorem ResponseItem.decode?_encode (i : ResponseItem) : decode? i.encode = some i := by
  simp [encode, decode?, fields?, distinct, Fields.required?, Fields.find?, asText?, asFloat?]

/-- A response whose total has 64 bits. -/
def Response.IsProper (r : Response) : Prop :=
  (r.total : Int) ≤ maxUnsigned

theorem Response.IsProper.decode?_encode {r : Response} (h : r.IsProper) : decode? r.encode = some r := by
  have hresults : asList? ResponseItem.decode? (.list (r.results.map ResponseItem.encode)) =
      some r.results := asList?_map fun i _ => i.decode?_encode
  have herrors : asOption? (asList? asText?) (ofOption (fun lines => .list (lines.map .text))
      r.errors) = some r.errors :=
    asOption?_ofOption (fun _ => Data.noConfusion) fun lines _ => asList?_text lines
  have htotal : asNat? (ofNat r.total) = some r.total := asUnsigned?_ofNat h
  simp [encode, decode?, fields?, distinct, Fields.required?, Fields.optional?, Fields.find?,
    asText?, hresults, herrors, htotal]

theorem asList?_records {l : List Record} (h : ∀ r ∈ l, r.IsProper) :
    asList? Record.decode? (.list (l.map Record.encode)) = some l :=
  asList?_map fun r hr => (h r hr).decode?_encode

theorem asList?_outcomes {l : List Outcome} (h : ∀ o ∈ l, o.IsProper) :
    asList? Outcome.decode? (.list (l.map Outcome.encode)) = some l :=
  asList?_map fun o ho => (h o ho).decode?_encode

/-- A result set whose parts are proper and whose integers have 64 bits. -/
structure ResultSet.IsProper (s : ResultSet) : Prop where
  /-- The records are proper. -/
  records : ∀ r ∈ s.records, r.IsProper
  /-- The total has 64 bits. -/
  total : (s.total : Int) ≤ maxUnsigned
  /-- The outcomes are proper. -/
  outcomes : ∀ o ∈ s.outcomes, o.IsProper
  /-- The time has 64 bits. -/
  duration : (s.duration : Int) ≤ maxUnsigned

theorem ResultSet.IsProper.decode?_encode {s : ResultSet} (h : s.IsProper) :
    decode? s.encode = some s := by
  have htotal : asNat? (ofNat s.total) = some s.total := asUnsigned?_ofNat h.total
  have hduration : asNat? (ofNat s.duration) = some s.duration := asUnsigned?_ofNat h.duration
  simp [encode, decode?, fields?, distinct, Fields.required?, Fields.find?, asText?,
    asList?_records h.records, asList?_outcomes h.outcomes, htotal, hduration]

/-- A collection whose parts are proper. -/
structure Collection.IsProper (c : Collection) : Prop where
  /-- The records are proper. -/
  records : ∀ r ∈ c.records, r.IsProper
  /-- The outcomes are proper. -/
  outcomes : ∀ o ∈ c.outcomes, o.IsProper

theorem Collection.IsProper.decode?_encode {c : Collection} (h : c.IsProper) :
    decode? c.encode = some c := by
  simp [encode, decode?, fields?, distinct, Fields.required?, Fields.find?,
    asList?_records h.records, asList?_outcomes h.outcomes]

end Metasearch

import Metasearch.Proofs.Json.Document
import Metasearch.Proofs.Stored.Record

/-!
# Stored values as JSON

Each value that is stored or sent is written as JSON and read back. Its data is read as the value,
whatever the format; what is left for JSON is that the data can be written, and that is so for all
of a value but its doubles. Of these it is asked that each is read back from its own text.

## Main definitions

* `Json.RoundTrips`: a value is read back from its text in either layout.

## Main results

* `Json.roundTrips_stored`: queries, sources, records, outcomes, result sets, responses and
  collections.
-/

namespace Metasearch

open Metasearch.Json

variable {room : Nat}

/-! ### Doubles -/

/-- The doubles in a source. -/
def Source.floats (s : Source) : List Double :=
  [s.weight]

/-- The doubles in a record. -/
def Record.floats (r : Record) : List Double :=
  r.relevance.toList ++ [r.score]

/-- The doubles in a result set. -/
def ResultSet.floats (s : ResultSet) : List Double :=
  s.records.flatMap Record.floats

/-- The doubles in a response. -/
def Response.floats (r : Response) : List Double :=
  r.results.map fun i => i.score

/-- The doubles in a collection. -/
def Collection.floats (c : Collection) : List Double :=
  c.records.flatMap Record.floats

/-! ### Data that can be written -/

theorem isWritable_float {x : Double} (h : ReadsBack x) (room : Nat) : IsWritable room (.float x) :=
  isWritable_of_isScalar (d := .float x) h room

theorem isWritable_texts (l : List String) : IsWritable (room + 1) (.list (l.map .text)) :=
  isWritable_map fun _ _ => isWritable_text _ _

theorem isWritable_optionText (o : Option String) : IsWritable room (Data.ofOption .text o) :=
  isWritable_ofOption fun _ _ => isWritable_text _ _

theorem Category.isWritable (l : List Category) :
    IsWritable (room + 1) (.list (l.map Category.encode)) :=
  isWritable_map fun _ _ => isWritable_text _ _

theorem Query.IsProper.isWritable {q : Query} (h : q.IsProper) :
    IsWritable (room + 2) q.encode := by
  have hpage : (q.page : Int) ≤ Data.maxUnsigned := Int.le_trans h (by decide)
  refine isWritable_table ?_
  simp only [List.forall_mem_cons, List.not_mem_nil, false_implies, implies_true, and_true]
  exact ⟨isWritable_text _ _, Category.isWritable _, isWritable_optionText _, isWritable_text _ _,
    isWritable_ofNat hpage _, isWritable_ofOption fun _ _ => isWritable_text _ _,
    isWritable_texts _⟩

theorem Template.isWritable (t : Template) : IsWritable (room + 2) t.encode := by
  refine isWritable_table ?_
  simp only [List.forall_mem_cons, List.not_mem_nil, false_implies, implies_true, and_true]
  refine ⟨isWritable_text _ _, isWritable_table ?_⟩
  exact List.forall_mem_map.mpr fun _ _ => isWritable_text _ _

theorem Selectors.isWritable (s : Selectors) : IsWritable (room + 1) s.encode := by
  refine isWritable_table ?_
  simp only [List.forall_mem_cons, List.not_mem_nil, false_implies, implies_true, and_true]
  exact ⟨isWritable_text _ _, isWritable_optionText _, isWritable_optionText _,
    isWritable_optionText _⟩

theorem isWritable_optionNat {o : Option Nat} (h : ∀ n ∈ o, (n : Int) ≤ Data.maxUnsigned) :
    IsWritable room (Data.ofOption Data.ofNat o) :=
  isWritable_ofOption fun n hn => isWritable_ofNat (h n hn) room

theorem Source.IsProper.isWritable {s : Source} (h : s.IsProper)
    (hfloats : ∀ x ∈ s.floats, ReadsBack x) : IsWritable (room + 3) s.encode := by
  obtain ⟨hinterval, htimeout, hitems⟩ := forall_integers.mp h.integers
  have hweight := hfloats s.weight List.mem_cons_self
  refine isWritable_table ?_
  simp only [List.forall_mem_cons, List.not_mem_nil, false_implies, implies_true, and_true]
  exact ⟨isWritable_text _ _, isWritable_text _ _, Category.isWritable _, isWritable_text _ _,
    s.request.isWritable, isWritable_float hweight _, isWritable_optionNat hinterval,
    isWritable_optionNat htimeout, isWritable_bool _ _, isWritable_bool _ _,
    isWritable_optionNat hitems, isWritable_ofOption fun s _ => s.isWritable,
    isWritable_optionText _, isWritable_bool _ _⟩

/-! ### Results -/

/-- A field that is left out when it is absent. -/
theorem isWritable_optionalField {α : Type} {name : String} {encode : α → Data} {o : Option α}
    (h : ∀ a ∈ o, IsWritable room (encode a)) :
    ∀ f ∈ Data.optionalField name encode o, IsWritable room f.2 := by
  cases o with
  | none => exact fun f hf => absurd hf List.not_mem_nil
  | some a => exact fun f hf => List.mem_singleton.mp hf ▸ h a rfl

theorem Extras.IsProper.isWritable {e : Extras} (h : e.IsProper) :
    IsWritable (room + 2) e.encode := by
  rw [encode_eq]
  refine isWritable_table ?_
  simp only [fields, List.forall_mem_append]
  have htext : ∀ {name : String} {o : Option String},
      ∀ f ∈ Data.optionalField name .text o, IsWritable (room + 1) f.2 :=
    isWritable_optionalField fun _ _ => isWritable_text _ _
  have hvotes : ∀ n ∈ e.votes, IsWritable (room + 1) (.int n) := by
    intro n hn
    obtain ⟨hlow, hhigh⟩ := h.votes n hn
    exact isWritable_of_isScalar (d := .int n) ⟨hlow, Int.le_trans hhigh (by decide)⟩ _
  exact ⟨⟨⟨⟨⟨⟨⟨htext, isWritable_optionalField hvotes⟩,
    isWritable_optionalField fun n hn => isWritable_ofNat (h.comments n hn) _⟩,
    isWritable_optionalField fun _ _ => isWritable_texts _⟩, htext⟩, htext⟩, htext⟩, htext⟩

theorem Record.IsProper.isWritable {r : Record} (h : r.IsProper)
    (hfloats : ∀ x ∈ r.floats, ReadsBack x) : IsWritable (room + 3) r.encode := by
  have hrelevance : ∀ x ∈ r.relevance, IsWritable (room + 2) (.float x) := fun x hx =>
    isWritable_float (hfloats x (by simp [floats, Option.mem_def.mp hx])) _
  have hscore : ReadsBack r.score := hfloats r.score (by simp [floats])
  have hextras : ∀ f ∈ (if r.extras.isEmpty then [] else [("extras", r.extras.encode)]),
      IsWritable (room + 2) f.2 := by
    split
    · exact fun f hf => absurd hf List.not_mem_nil
    · exact fun f hf => List.mem_singleton.mp hf ▸ h.extras.isWritable
  refine isWritable_table ?_
  simp only [List.forall_mem_append, List.forall_mem_cons, List.not_mem_nil, false_implies,
    implies_true, and_true]
  exact ⟨⟨⟨isWritable_text _ _, isWritable_text _ _, isWritable_text _ _, isWritable_text _ _,
    isWritable_text _ _, isWritable_ofOption fun _ _ => isWritable_text _ _⟩, hextras⟩,
    isWritable_ofOption hrelevance, isWritable_float hscore _⟩

theorem Outcome.IsProper.isWritable {o : Outcome} (h : o.IsProper) :
    IsWritable (room + 1) o.encode := by
  have hstatus : ∀ f ∈ statusFields o.status, IsWritable room f.2 := by
    cases hs : o.status with
    | success records =>
      simp [statusFields, isWritable_ofNat (h.records records hs)]
    | empty => simp [statusFields]
    | error kind cause => simp [statusFields, FailureKind.encode]
  refine isWritable_table ?_
  simp only [List.forall_mem_append, List.forall_mem_cons, List.not_mem_nil, false_implies,
    implies_true, and_true]
  exact ⟨⟨isWritable_text _ _, hstatus⟩, isWritable_ofNat h.elapsed _⟩

theorem isWritable_records {l : List Record} (h : ∀ r ∈ l, r.IsProper)
    (hfloats : ∀ x ∈ l.flatMap Record.floats, ReadsBack x) :
    IsWritable (room + 4) (.list (l.map Record.encode)) :=
  isWritable_map fun r hr => (h r hr).isWritable fun x hx =>
    hfloats x (List.mem_flatMap.mpr ⟨r, hr, hx⟩)

theorem isWritable_outcomes {l : List Outcome} (h : ∀ o ∈ l, o.IsProper) :
    IsWritable (room + 2) (.list (l.map Outcome.encode)) :=
  isWritable_map fun o ho => (h o ho).isWritable

theorem ResultSet.IsProper.isWritable {s : ResultSet} (h : s.IsProper)
    (hfloats : ∀ x ∈ s.floats, ReadsBack x) : IsWritable (room + 5) s.encode := by
  refine isWritable_table ?_
  simp only [List.forall_mem_cons, List.not_mem_nil, false_implies, implies_true, and_true]
  exact ⟨isWritable_text _ _, isWritable_records h.records hfloats, isWritable_ofNat h.total _,
    isWritable_outcomes h.outcomes, isWritable_ofNat h.duration _⟩

theorem Response.IsProper.isWritable {r : Response} (h : r.IsProper)
    (hfloats : ∀ x ∈ r.floats, ReadsBack x) : IsWritable (room + 3) r.encode := by
  have hitem : ∀ i ∈ r.results, IsWritable (room + 1) i.encode := by
    intro i hi
    have hscore : ReadsBack i.score := hfloats i.score (List.mem_map_of_mem hi)
    refine isWritable_table ?_
    simp only [List.forall_mem_cons, List.not_mem_nil, false_implies, implies_true, and_true]
    exact ⟨isWritable_text _ _, isWritable_text _ _, isWritable_text _ _, isWritable_text _ _,
      isWritable_float hscore _⟩
  refine isWritable_table ?_
  simp only [List.forall_mem_cons, List.not_mem_nil, false_implies, implies_true, and_true]
  exact ⟨isWritable_text _ _, isWritable_map hitem, isWritable_ofNat h _,
    isWritable_ofOption fun lines _ => isWritable_texts lines⟩

theorem Collection.IsProper.isWritable {c : Collection} (h : c.IsProper)
    (hfloats : ∀ x ∈ c.floats, ReadsBack x) : IsWritable (room + 5) c.encode := by
  refine isWritable_table ?_
  simp only [List.forall_mem_cons, List.not_mem_nil, false_implies, implies_true, and_true]
  exact ⟨isWritable_records h.records hfloats, isWritable_outcomes h.outcomes⟩

/-! ### Texts -/

namespace Json

/-- A value that is read back from its text in either layout. -/
structure RoundTrips {α : Type} (encode : α → Data) (decode? : Data → Option α) (a : α) :
    Prop where
  /-- All on one line. -/
  compact : (parse? (compact (encode a))).bind decode? = some a
  /-- One item or field a line. -/
  pretty : (parse? (pretty (encode a))).bind decode? = some a

theorem roundTrips {α : Type} {encode : α → Data} {decode? : Data → Option α} {a : α}
    (hwritable : IsWritable maxDepth (encode a)) (hdecode : decode? (encode a) = some a) :
    RoundTrips encode decode? a where
  compact := by rw [parse?_compact hwritable, Option.bind_some, hdecode]
  pretty := by rw [parse?_pretty hwritable, Option.bind_some, hdecode]

/-- **What is stored is read back.** Every value that is stored or sent, its doubles being read back
from their own texts, is read back from its JSON text in either layout. -/
theorem roundTrips_stored :
    (∀ q : Query, q.IsProper → RoundTrips Query.encode Query.decode? q) ∧
    (∀ s : Source, s.IsProper → (∀ x ∈ s.floats, ReadsBack x) →
      RoundTrips Source.encode Source.decode? s) ∧
    (∀ r : Record, r.IsProper → (∀ x ∈ r.floats, ReadsBack x) →
      RoundTrips Record.encode Record.decode? r) ∧
    (∀ o : Outcome, o.IsProper → RoundTrips Outcome.encode Outcome.decode? o) ∧
    (∀ s : ResultSet, s.IsProper → (∀ x ∈ s.floats, ReadsBack x) →
      RoundTrips ResultSet.encode ResultSet.decode? s) ∧
    (∀ r : Response, r.IsProper → (∀ x ∈ r.floats, ReadsBack x) →
      RoundTrips Response.encode Response.decode? r) ∧
    ∀ c : Collection, c.IsProper → (∀ x ∈ c.floats, ReadsBack x) →
      RoundTrips Collection.encode Collection.decode? c :=
  ⟨fun _ h => roundTrips h.isWritable h.decode?_encode,
    fun _ h hfloats => roundTrips (h.isWritable hfloats) h.decode?_encode,
    fun _ h hfloats => roundTrips (h.isWritable hfloats) h.decode?_encode,
    fun _ h => roundTrips h.isWritable h.decode?_encode,
    fun _ h hfloats => roundTrips (h.isWritable hfloats) h.decode?_encode,
    fun _ h hfloats => roundTrips (h.isWritable hfloats) h.decode?_encode,
    fun _ h hfloats => roundTrips (h.isWritable hfloats) h.decode?_encode⟩

/-- A record with a leap second, an outcome of a failure, and values that hold them. -/
theorem roundTrips_leap_second :
    let record : Record := { Record.make "https://example.org/a" "Title" "Text" with
      published := some ⟨1483228799, 1500000000⟩
      extras := { Extras.none with author := some "Ann", votes := some (-3), tags := ["a", "b"] }
      relevance := some ⟨false, 4605380978949069210⟩ }
    let outcome : Outcome := ⟨"forum", .error .network "closed", 12⟩
    RoundTrips Query.encode Query.decode?
      { Query.ofTerms "say \"hi\"" with categories := [.news, .unknown], language := some "de" } ∧
    RoundTrips Source.encode Source.decode? { Source.make "forum" .customPage
      ⟨"https://example.org/", [("page", "1"), ("q", "a")]⟩ with
        minInterval := some 500, selectors := some Selectors.standard } ∧
    RoundTrips Record.encode Record.decode? record ∧
    RoundTrips Outcome.encode Outcome.decode? outcome ∧
    RoundTrips ResultSet.encode ResultSet.decode? ⟨"hi", [record], 7, [outcome], 30⟩ ∧
    RoundTrips Response.encode Response.decode?
      ⟨"hi", [ResponseItem.ofRecord record], 7, some ["forum: NetworkError: closed"]⟩ ∧
    RoundTrips Collection.encode Collection.decode? ⟨[record, record], [outcome]⟩ := by
  intro record outcome
  have hrecord : record.IsProper := by
    refine ⟨?_, ?_, ?_⟩
    · rintro t ⟨⟩
      exact ⟨by decide, by decide⟩
    · rintro n ⟨⟩
      decide
    · rintro n ⟨⟩
  have houtcome : outcome.IsProper := ⟨fun n h => by simp [outcome] at h, by decide⟩
  have hfloats : ∀ x ∈ record.floats, ReadsBack x := by decide +kernel
  obtain ⟨hquery, hsource, hrecords, houtcomes, hset, hresponse, hcollection⟩ := roundTrips_stored
  exact ⟨hquery _ (by decide : ((1 : Nat) : Int) ≤ Query.maxPage),
    hsource _ ⟨by decide, by decide⟩ (by decide +kernel),
    hrecords _ hrecord hfloats,
    houtcomes _ houtcome,
    hset _ ⟨List.forall_mem_singleton.mpr hrecord, by decide, List.forall_mem_singleton.mpr houtcome,
      by decide⟩ (by decide +kernel),
    hresponse _ (by decide : ((7 : Nat) : Int) ≤ Data.maxUnsigned) (by decide +kernel),
    hcollection _ ⟨by simpa using hrecord, List.forall_mem_singleton.mpr houtcome⟩
      (by decide +kernel)⟩

end Json
end Metasearch

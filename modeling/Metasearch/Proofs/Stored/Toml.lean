import Metasearch.Proofs.Settings
import Metasearch.Proofs.Stored.Source
import Metasearch.Proofs.Toml.Document
import Metasearch.Settings.Document

/-!
# Settings as a document, written and read

A document of settings leaves out what is not there and puts the values of each table before the
tables in it. A reader looks fields up by their names, and what was left out is nothing by default
too, so no default takes the place of what was written. Only integers of more than 63 bits have no
form in a document; one of them anywhere is in the way of the whole.

## Main definitions

* `Settings.integers`: the integers of settings and of their sources.

## Main results

* `Source.decode?_readBack`, `Settings.decode?_readBack`: what is read back.
* `Settings.print?_encode_eq_none`: what cannot be written.
* `Settings.readToml_writeToml`: settings are read back from their document.
-/

namespace Metasearch

open Metasearch.Data Metasearch.Toml

variable {α : Type} {encode : α → Data} {o : Option α} {room : Nat}

/-! ### Values as fields -/

namespace Toml

theorem isField_text (room : Nat) (s : String) : IsField room (.text s) :=
  .value (.scalar trivial)

theorem isField_bool (room : Nat) (b : Bool) : IsField room (.bool b) :=
  .value (.scalar trivial)

theorem isField_ofNat {n : Nat} (h : (n : Int) ≤ maxSigned) (room : Nat) :
    IsField room (Data.ofNat n) :=
  .value (.scalar ⟨Int.le_trans (by decide : minSigned ≤ 0) (Int.natCast_nonneg n), h⟩)

theorem isField_ofOption (h : ∀ a ∈ o, IsField room (encode a)) :
    IsField room (ofOption encode o) := by
  cases o with
  | none => exact .null
  | some a => exact h a rfl

end Toml

/-! ### Requests -/

namespace Template

theorem nodup_params {t : Template} (h : t.IsOrdered) : (t.params.map (·.1)).Nodup := by
  rw [List.Nodup, List.pairwise_map]
  exact h.imp String.ne_of_lt

theorem isField_encode {t : Template} (h : t.IsOrdered) (room : Nat) :
    IsField (room + 2) t.encode := by
  have hnames : ((t.params.map fun p => (p.1, Data.text p.2)).map (·.1)).Nodup := by
    rw [List.map_map]
    exact nodup_params h
  refine .table (by decide : ["url", "params"].Nodup) rfl ?_
  simp only [List.forall_mem_cons]
  refine ⟨isField_text _ _, .table hnames ?_ ?_, List.forall_mem_nil _⟩
  · cases hparams : t.params <;> rfl
  · exact List.forall_mem_map.mpr fun p _ => isField_text _ _

end Template

/-! ### Selectors -/

namespace Selectors

theorem isField_encode (s : Selectors) (room : Nat) : IsField (room + 1) s.encode := by
  have htext : ∀ o : Option String, IsField room (ofOption .text o) := fun o =>
    isField_ofOption fun a _ => isField_text room a
  refine .table (by decide : ["item", "title", "content", "url"].Nodup) ?_ ?_
  · simp [showsHeader, isPresent, hasHeader]
  · simp only [List.forall_mem_cons]
    exact ⟨isField_text _ _, htext _, htext _, htext _, List.forall_mem_nil _⟩

end Selectors

/-! ### Sources -/

theorem Category.isValue_list (l : List Category) : IsValue (.list (l.map Category.encode)) :=
  .list (List.forall_mem_map.mpr fun _ _ => trivial)

namespace Source

theorem isField_fields {s : Source} (hs : s.fault? = none) (hparams : s.request.IsOrdered)
    (hints : ∀ n ∈ s.integers, (n : Int) ≤ maxSigned) (room : Nat) :
    ∀ f ∈ s.encode.fieldsOf, IsField (room + 2) f.2 := by
  obtain ⟨hinterval, htimeout, hitems⟩ := forall_integers.mp hints
  have hweight := (fault?_eq_none_iff.mp hs).1.2.1
  have hnat : ∀ {o : Option Nat}, (∀ n ∈ o, (n : Int) ≤ maxSigned) →
      IsField (room + 2) (ofOption ofNat o) := fun h =>
    isField_ofOption fun n hn => isField_ofNat (h n hn) _
  simp only [encode, fieldsOf, List.forall_mem_cons]
  exact ⟨isField_text _ _, isField_text _ _, .value (Category.isValue_list _),
    isField_text _ _,
    Template.isField_encode hparams _, .value (.scalar hweight), hnat hinterval, hnat htimeout,
    isField_bool _ _, isField_bool _ _, hnat hitems,
    isField_ofOption fun s _ => s.isField_encode _, isField_ofOption fun t _ => isField_text _ t,
    isField_bool _ _, List.forall_mem_nil _⟩

theorem decode?_readBack {s : Source} (hparams : s.request.IsOrdered)
    (hints : ∀ n ∈ s.integers, (n : Int) ≤ maxSigned) : decode? (readBack s.encode) = some s := by
  have hproper : s.IsProper := ⟨hparams, fun n hn => Int.le_trans (hints n hn) (by decide)⟩
  obtain ⟨d, hd, hread⟩ := hproper.exists_decode? keeps_givenBack
  have hback : some (readBack s.encode) = some d := hd
  rwa [Option.some.inj hback]

end Source

/-! ### Settings -/

namespace Settings

/-- The integers of settings. -/
def integers (s : Settings) : List Nat :=
  [s.maxResults, s.sourceTimeout, s.deadline] ++ s.sources.flatMap Source.integers

theorem forall_integers {s : Settings} {p : Nat → Prop} : (∀ n ∈ s.integers, p n) ↔
    (p s.maxResults ∧ p s.sourceTimeout ∧ p s.deadline) ∧
      ∀ x ∈ s.sources, ∀ n ∈ x.integers, p n := by
  rw [integers, List.forall_mem_append, List.forall_mem_flatMap]
  simp only [List.forall_mem_cons, List.not_mem_nil, false_implies, implies_true, and_true]

/-- Sources are tables. -/
theorem map_encode (l : List Source) :
    l.map Source.encode = (l.map fun x => x.encode.fieldsOf).map .table := by
  rw [List.map_map]
  rfl

theorem isField_fields {s : Settings} (hs : s.fault? = none)
    (hparams : ∀ x ∈ s.sources, x.request.IsOrdered)
    (hints : ∀ n ∈ s.integers, (n : Int) ≤ maxSigned) :
    ∀ f ∈ s.encode.fieldsOf, IsField 3 f.2 := by
  obtain ⟨⟨hmax, htimeout, hdeadline⟩, hsources⟩ := forall_integers.mp hints
  have hlist : IsField 3 (.list (s.sources.map Source.encode)) := by
    by_cases hempty : s.sources = []
    · rw [hempty]
      exact .value (.list (List.forall_mem_nil _))
    · rw [map_encode]
      refine .tables (by simpa using hempty) ?_ ?_
      · exact List.forall_mem_map.mpr fun _ _ => (by decide : Source.fieldNames.Nodup)
      · exact List.forall_mem_map.mpr fun x hx => Source.isField_fields
          ((fault?_eq_none_iff.mp hs).2.1 x hx) (hparams x hx) (hsources x hx) 0
  simp only [encode, fieldsOf, List.forall_mem_cons]
  exact ⟨isField_ofNat hmax _, isField_ofNat htimeout _, isField_ofNat hdeadline _,
    isField_ofOption fun t _ => isField_text _ t, hlist, List.forall_mem_nil _⟩

theorem decode?_readBack {s : Settings} (hparams : ∀ x ∈ s.sources, x.request.IsOrdered)
    (hints : ∀ n ∈ s.integers, (n : Int) ≤ maxSigned) : decode? (readBack s.encode) = some s := by
  obtain ⟨⟨hmax, htimeout, hdeadline⟩, hsources⟩ := forall_integers.mp hints
  obtain ⟨f, hf, hfind⟩ := exists_fields?_readBack s.encode.fieldsOf
    (by decide : fieldNames.Nodup) fieldNames
  have hnat : ∀ {name : String} {n : Nat}, (n : Int) ≤ maxSigned →
      f.find? name = some (ofNat n) → ∀ other, f.orElse? name asNat? other = some n :=
    fun h hfound _ =>
      Fields.orElse?_eq_some hfound (asUnsigned?_ofNat (Int.le_trans h (by decide)))
  have hmax : f.orElse? "max_results" asNat? standard.maxResults = some s.maxResults :=
    hnat hmax (hfind "max_results" (by decide)) _
  have htimeout : f.orElse? "source_timeout_ms" asNat? standard.sourceTimeout =
      some s.sourceTimeout := hnat htimeout (hfind "source_timeout_ms" (by decide)) _
  have hdeadline : f.orElse? "deadline_ms" asNat? standard.deadline = some s.deadline :=
    hnat hdeadline (hfind "deadline_ms" (by decide)) _
  have hagent : f.maybe? "user_agent" asText? = some s.userAgent :=
    keeps_givenBack.maybe?_eq_some rfl (hfind "user_agent" (by decide)) fun a _ =>
      ⟨.text a, rfl, rfl⟩
  have hlist : f.orElse? "sources" (asList? Source.decode?) standard.sources = some s.sources := by
    have hfound : f.find? "sources" =
        some (.list (s.sources.map fun x => readBack x.encode)) := by
      have hback : readBack (.list (s.sources.map Source.encode)) =
          .list (s.sources.map fun x => readBack x.encode) := by
        rw [map_encode, readBack_tables, ← map_encode, List.map_map]
        rfl
      rw [← hback]
      exact hfind "sources" (by decide)
    exact Fields.orElse?_eq_some hfound
      (asList?_map fun x hx => Source.decode?_readBack (hparams x hx) (hsources x hx))
  have hfields : s.encode = .table s.encode.fieldsOf := rfl
  rw [decode?, hfields, hf, Option.bind_eq_bind, Option.bind_some, hmax, htimeout, hdeadline, hagent,
    hlist]
  rfl

/-! ### Integers that are too large -/

theorem valueText?_ofNat {n : Nat} (h : maxSigned < n) : valueText? (ofNat n) = none :=
  if_neg fun hn => Int.not_lt.mpr hn.2 h

/-- An integer of more than 63 bits is in the way of the values of its table. -/
theorem valueLines?_of_integer {fields : List (String × Data)} {name : String} {n : Nat}
    (h : maxSigned < n) (hmem : (name, ofNat n) ∈ fields) : valueLines? fields = none :=
  valueLines?_eq_none ⟨_, hmem, rfl, rfl, valueText?_ofNat h⟩

theorem valueLines?_source {x : Source} {n : Nat} (h : maxSigned < n) (hn : n ∈ x.integers) :
    valueLines? x.encode.fieldsOf = none := by
  have hnone : ∀ {name : String} {o : Option Nat}, (name, ofOption ofNat o) ∈ x.encode.fieldsOf →
      n ∈ o.toList → valueLines? x.encode.fieldsOf = none := by
    intro name o hmem hn
    obtain rfl : o = some n := Option.mem_toList.mp hn
    exact valueLines?_of_integer h hmem
  rcases List.mem_append.mp hn with hn | hn
  · rcases List.mem_append.mp hn with hn | hn
    · exact hnone (List.mem_iff_getElem?.mpr ⟨6, rfl⟩) hn
    · exact hnone (List.mem_iff_getElem?.mpr ⟨7, rfl⟩) hn
  · exact hnone (List.mem_iff_getElem?.mpr ⟨10, rfl⟩) hn

theorem fieldSections?_sources {s : Settings} {x : Source} (hx : x ∈ s.sources)
    (hnone : valueLines? x.encode.fieldsOf = none) :
    fieldSections? [] s.encode.fieldsOf = none := by
  have hitems : itemSections? ["sources"] (s.sources.map Source.encode) = none := by
    rw [map_encode]
    exact itemSections?_eq_none (List.mem_map.mpr ⟨x, hx, rfl⟩) hnone
  have hheader : hasHeader (.list (s.sources.map Source.encode)) = true := by
    rw [map_encode]
    exact hasHeader_tables (by simpa using List.ne_nil_of_mem hx)
  refine fieldSections?_eq_none (f := ("sources", .list (s.sources.map Source.encode)))
    (List.mem_iff_getElem?.mpr ⟨4, rfl⟩) ?_
  rw [fieldSections?, if_pos hheader, List.nil_append, hitems]
  rfl

/-- Settings with an integer of more than 63 bits cannot be written. -/
theorem print?_encode_eq_none {s : Settings} {n : Nat} (h : maxSigned < n) (hn : n ∈ s.integers) :
    print? s.encode = none := by
  have hfields : s.encode = .table s.encode.fieldsOf := rfl
  rw [hfields]
  refine print?_eq_none ?_
  rcases List.mem_append.mp hn with hn | hn
  · left
    simp only [List.mem_cons, List.not_mem_nil, or_false] at hn
    rcases hn with rfl | rfl | rfl
    · exact valueLines?_of_integer h (List.mem_iff_getElem?.mpr ⟨0, rfl⟩)
    · exact valueLines?_of_integer h (List.mem_iff_getElem?.mpr ⟨1, rfl⟩)
    · exact valueLines?_of_integer h (List.mem_iff_getElem?.mpr ⟨2, rfl⟩)
  · obtain ⟨x, hx, hn⟩ := List.mem_flatMap.mp hn
    exact .inr (fieldSections?_sources hx (valueLines?_source h hn))

/-! ### The document of settings -/

/-- **Settings are read back from their document.** Settings without a fault whose integers have 63
bits are written, and are read back in every field, an empty list of sources as an empty one. A
larger integer is refused when settings are written. Parameters of requests stand in the order of
their names, as they do in any source. -/
theorem readToml_writeToml (s : Settings) (hparams : ∀ x ∈ s.sources, x.request.IsOrdered) :
    (s.fault? = none → (∀ n ∈ s.integers, (n : Int) ≤ maxSigned) →
      ∃ text, s.writeToml = .ok text ∧ readToml text = .ok s) ∧
    ((∃ n ∈ s.integers, maxSigned < n) → s.writeToml = .error (.config .unwritable)) := by
  constructor
  · intro hs hints
    obtain ⟨text, hprint, hparse⟩ := exists_print? (isField_fields hs hparams hints)
      (by decide : fieldNames.Nodup) (by decide)
    have hfields : s.encode = .table s.encode.fieldsOf := rfl
    refine ⟨String.ofList text, by rw [writeToml, hfields, hprint], ?_⟩
    rw [readToml, String.toList_ofList, hparse, Option.bind_some, ← hfields,
      decode?_readBack hparams hints]
    simp only [hs]
  · rintro ⟨n, hn, hlarge⟩
    rw [writeToml, print?_encode_eq_none hlarge hn]

/-- Settings with a scraped source, the same with no source, and with a deadline of 64 bits. -/
theorem readToml_writeToml_forum :
    let forum : Source := { Source.make "forum" .customPage
      ⟨"https://example.org/", [("page", "1"), ("q", "\x7bquery\x7d")]⟩ with
        weight := ⟨false, 4609434218613702656⟩, minInterval := some 500
        selectors := some Selectors.standard, token := some "a\"b" }
    let settings : Settings := { Settings.standard with userAgent := some "test", sources := [forum] }
    (∃ text, settings.writeToml = .ok text ∧ readToml text = .ok settings) ∧
    (∃ text, { settings with sources := [] }.writeToml = .ok text ∧
      readToml text = .ok { settings with sources := [] }) ∧
    { settings with deadline := 9223372036854775808 }.writeToml =
      .error (.config .unwritable) := by
  intro forum settings
  have hparams : ∀ x ∈ settings.sources, x.request.IsOrdered :=
    List.forall_mem_singleton.mpr (by decide)
  exact ⟨(readToml_writeToml settings hparams).1 (by decide) (by decide),
    (readToml_writeToml { settings with sources := [] } (List.forall_mem_nil _)).1 (by decide)
      (by decide),
    (readToml_writeToml { settings with deadline := 9223372036854775808 } hparams).2
      ⟨9223372036854775808, by decide, by decide⟩⟩

end Settings
end Metasearch

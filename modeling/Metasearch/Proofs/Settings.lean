import Metasearch.Adapter.Assembly
import Metasearch.CommandLine.Report
import Metasearch.Proofs.Registry.Resolution

/-!
# From settings to a registry

Sources are checked three times before they are asked: with the settings, when each becomes an
adapter, and when the adapters become a registry. What the first check lets through can only fail
the second one by its selectors, and cannot fail the third. So there is a registry exactly for
settings without a fault whose selectors can be read, and it holds the sources as they are listed:
what it finds under an id or a category is what a reader of the settings finds there.

## Main definitions

* `Source.HasSoundSelectors`: the sources whose selectors can be read.
* `Registry.IsCatalog`: what a registry has to be for settings.

## Main results

* `Adapter.exists_ofSource_iff`: which sources become adapters.
* `Settings.fault?_eq_none_iff`: which settings have no fault.
* `Registry.ofSettings_eq_ok_iff`: what becomes of settings.
* `Registry.ofSettings_isCatalog`.
-/

namespace Metasearch

open Metasearch.Answer Metasearch.CommandLine Metasearch.Css

/-! ### Steps that may fail -/

section

variable {ε α β : Type} {x : Except ε α} {b : β}

theorem bind_eq_ok_iff {f : α → Except ε β} :
    (x >>= f) = .ok b ↔ ∃ a, x = .ok a ∧ f a = .ok b := by
  cases x with
  | ok a => simp [bind, Except.bind]
  | error e => simp [bind, Except.bind]

theorem map_eq_ok_iff {f : α → β} : x.map f = .ok b ↔ ∃ a, x = .ok a ∧ f a = b := by
  cases x with
  | ok a => simp [Except.map]
  | error e => simp [Except.map]

/-- A list goes through if each of its members does. -/
theorem mapM_eq_ok_iff {f : α → Except ε β} {l : List α} {m : List β} :
    l.mapM f = .ok m ↔ List.Forall₂ (fun a b => f a = .ok b) l m := by
  induction l generalizing m with
  | nil =>
    rw [List.mapM_nil, List.forall₂_nil_left_iff]
    constructor
    · intro h
      exact (Except.ok.inj h).symm
    · rintro rfl
      rfl
  | cons a l ih =>
    rw [List.mapM_cons, bind_eq_ok_iff, List.forall₂_cons_left_iff]
    constructor
    · rintro ⟨b, hb, h⟩
      obtain ⟨bs, hbs, h⟩ := bind_eq_ok_iff.mp h
      exact ⟨b, bs, hb, ih.mp hbs, (Except.ok.inj h).symm⟩
    · rintro ⟨b, bs, hb, hbs, rfl⟩
      exact ⟨b, hb, bind_eq_ok_iff.mpr ⟨bs, ih.mpr hbs, rfl⟩⟩

theorem exists_ok_of_mem_mapM {f : α → Except ε β} {l : List α} {m : List β} (h : l.mapM f = .ok m)
    (hb : b ∈ m) : ∃ a ∈ l, f a = .ok b := by
  have hall := mapM_eq_ok_iff.mp h
  clear h
  induction hall with
  | nil => exact absurd hb List.not_mem_nil
  | cons ha _ ih =>
    rcases List.mem_cons.mp hb with rfl | hb
    · exact ⟨_, List.mem_cons_self, ha⟩
    · obtain ⟨a, hmem, ha⟩ := ih hb
      exact ⟨a, List.mem_cons_of_mem _ hmem, ha⟩

theorem exists_mapM_iff {f : α → Except ε β} {l : List α} :
    (∃ m, l.mapM f = .ok m) ↔ ∀ a ∈ l, ∃ b, f a = .ok b := by
  simp only [mapM_eq_ok_iff]
  induction l with
  | nil => simp
  | cons a l ih =>
    rw [List.forall_mem_cons, ← ih]
    simp only [List.forall₂_cons_left_iff]
    constructor
    · rintro ⟨_, b, m, hb, hm, rfl⟩
      exact ⟨⟨b, hb⟩, m, hm⟩
    · rintro ⟨⟨b, hb⟩, m, hm⟩
      exact ⟨_, b, m, hb, hm, rfl⟩

theorem ite_some_eq_none_iff {p : Prop} [Decidable p] {a : α} {o : Option α} :
    (if p then some a else o) = none ↔ ¬p ∧ o = none := by
  split_ifs with h <;> simp [h]

end

/-! ### Selectors -/

/-- All selectors that are configured. -/
def Selectors.texts (s : Selectors) : List String :=
  s.item :: (s.title.toList ++ s.content.toList ++ s.url.toList)

/-- Holds of a selector that can be read. -/
def IsReadable (css : String) : Prop :=
  (Selector.parse? css.toList).isSome = true

instance : DecidablePred IsReadable :=
  fun css => inferInstanceAs (Decidable ((Selector.parse? css.toList).isSome = true))

/-- Holds of a source all of whose selectors can be read. Only those of scraped pages matter. -/
def Source.HasSoundSelectors (x : Source) : Prop :=
  x.engine = .customPage → ∀ selectors ∈ x.selectors, ∀ css ∈ selectors.texts, IsReadable css

instance : DecidablePred Source.HasSoundSelectors :=
  fun x => inferInstanceAs (Decidable (x.engine = .customPage →
    ∀ selectors ∈ x.selectors, ∀ css ∈ selectors.texts, IsReadable css))

theorem exists_compile_iff {css : String} :
    (∃ l, PageLayout.compile css = .ok l) ↔ IsReadable css := by
  rw [PageLayout.compile, IsReadable]
  cases Selector.parse? css.toList <;> simp

theorem exists_compileOptional_iff {css? : Option String} :
    (∃ l, PageLayout.compileOptional css? = .ok l) ↔ ∀ css ∈ css?, IsReadable css := by
  cases css? with
  | none => simp [PageLayout.compileOptional]
  | some css => simpa [PageLayout.compileOptional] using exists_compile_iff

theorem exists_ofSelectors_iff {s : Selectors} :
    (∃ layout, PageLayout.ofSelectors s = .ok layout) ↔ ∀ css ∈ s.texts, IsReadable css := by
  have hparts : (∃ layout, PageLayout.ofSelectors s = .ok layout) ↔
      (∃ l, PageLayout.compile s.item = .ok l) ∧
        (∃ l, PageLayout.compileOptional s.title = .ok l) ∧
        (∃ l, PageLayout.compileOptional s.content = .ok l) ∧
        ∃ l, PageLayout.compileOptional s.url = .ok l := by
    simp only [PageLayout.ofSelectors, bind_eq_ok_iff]
    constructor
    · rintro ⟨_, item, hitem, title, htitle, content, hcontent, url, hurl, -⟩
      exact ⟨⟨item, hitem⟩, ⟨title, htitle⟩, ⟨content, hcontent⟩, ⟨url, hurl⟩⟩
    · rintro ⟨⟨item, hitem⟩, ⟨title, htitle⟩, ⟨content, hcontent⟩, ⟨url, hurl⟩⟩
      exact ⟨_, item, hitem, title, htitle, content, hcontent, url, hurl, rfl⟩
  rw [hparts, exists_compile_iff]
  simp only [exists_compileOptional_iff, Selectors.texts, List.forall_mem_cons,
    List.forall_mem_append, Option.mem_toList, Option.mem_def, and_assoc]

/-! ### Sources without a fault -/

theorem Source.fault?_eq_none_iff {x : Source} :
    x.fault? = none ↔
      (¬Text.isBlank x.id.toList ∧ x.weight.isFinite ∧ x.weight.isPositive) ∧
        x.categories ≠ [] ∧ .unknown ∉ x.categories ∧
          (x.engine = .customPage → x.selectors ≠ none) := by
  simp [Source.fault?, ite_some_eq_none_iff, and_assoc]

/-! ### From sources to adapters -/

namespace Adapter

variable {x : Source} {a : Adapter}

theorem exists_reader_iff (h : x.fault? = none) :
    (∃ read, x.reader = .ok read) ↔ x.HasSoundSelectors := by
  by_cases hx : x.engine = .customPage
  · cases hselectors : x.selectors with
    | none => exact absurd hselectors ((Source.fault?_eq_none_iff.mp h).2.2.2 hx)
    | some selectors =>
      have hreader : (∃ read, x.reader = .ok read) ↔
          ∃ layout, PageLayout.ofSelectors selectors = .ok layout := by
        simp [Source.reader, hx, hselectors, map_eq_ok_iff]
      rw [hreader, exists_ofSelectors_iff]
      simp [Source.HasSoundSelectors, hx, hselectors]
  · refine iff_of_true ?_ fun hpage => absurd hpage hx
    rw [Source.reader]
    cases hengine : x.engine <;> simp_all

theorem ofSource_eq_ok_iff : ofSource x = .ok a ↔
    x.fault? = none ∧ ∃ read, x.reader = .ok read ∧ ofReader x read = a := by
  rw [ofSource]
  cases x.fault? with
  | some fault => simp
  | none => simp [connect, map_eq_ok_iff]

/-- **A source becomes an adapter if it has no fault and its selectors can be read.** -/
theorem exists_ofSource_iff :
    (∃ a, ofSource x = .ok a) ↔ x.fault? = none ∧ x.HasSoundSelectors := by
  simp only [ofSource_eq_ok_iff]
  constructor
  · rintro ⟨a, hfault, read, hread, -⟩
    exact ⟨hfault, (exists_reader_iff hfault).mp ⟨read, hread⟩⟩
  · rintro ⟨hfault, hsound⟩
    obtain ⟨read, hread⟩ := (exists_reader_iff hfault).mpr hsound
    exact ⟨_, hfault, read, hread, rfl⟩

theorem source_of_ofSource (h : ofSource x = .ok a) : a.source = x := by
  obtain ⟨-, read, -, rfl⟩ := ofSource_eq_ok_iff.mp h
  rfl

theorem map_source_of_mapM {l : List Source} {m : List Adapter} (h : l.mapM ofSource = .ok m) :
    m.map Adapter.source = l := by
  have hsame := (mapM_eq_ok_iff.mp h).imp fun _ _ => source_of_ofSource
  rw [← List.forall₂_eq_eq_eq, List.forall₂_map_left_iff]
  exact hsame.flip

end Adapter

/-! ### Settings without a fault -/

namespace Settings

theorem sourcesFault?_eq_none_iff {seen : List String} {l : List Source} :
    sourcesFault? seen l = none ↔
      (∀ x ∈ l, x.fault? = none) ∧ (l.map Source.id).Nodup ∧ ∀ x ∈ l, x.id ∉ seen := by
  induction l generalizing seen with
  | nil => simp [sourcesFault?]
  | cons x rest ih =>
    rw [sourcesFault?]
    cases hx : x.fault? with
    | some fault => simp [hx]
    | none =>
      have hfresh : (∀ y ∈ rest, y.id ∉ x.id :: seen) ↔
          x.id ∉ rest.map Source.id ∧ ∀ y ∈ rest, y.id ∉ seen := by
        simp only [List.mem_cons, not_or, forall_and, List.mem_map, not_exists, not_and]
      have htaken : ¬seen.contains x.id = true ↔ x.id ∉ seen := by simp
      simp only [ite_some_eq_none_iff, ih, hfresh, htaken, List.forall_mem_cons, hx, true_and,
        List.map_cons, List.nodup_cons]
      tauto

/-- **Settings have no fault if their limits and sources have none and no two ids are the same.** -/
theorem fault?_eq_none_iff {s : Settings} :
    s.fault? = none ↔
      (s.maxResults ≠ 0 ∧ s.sourceTimeout ≠ 0 ∧ s.deadline ≠ 0) ∧
        (∀ x ∈ s.sources, x.fault? = none) ∧ (s.sources.map Source.id).Nodup := by
  simp [fault?, ite_some_eq_none_iff, sourcesFault?_eq_none_iff, and_assoc]

end Settings

theorem Category.mem_all_iff {c : Category} : c ∈ all ↔ c ≠ .unknown := by
  cases c <;> decide

namespace Registry

variable {s : Settings} {r : Registry} {l : List Adapter}

theorem map_id_eq_of_mapM (h : s.sources.mapM Adapter.ofSource = .ok l) :
    l.map Adapter.id = s.sources.map Source.id := by
  rw [← Adapter.map_source_of_mapM h, List.map_map]
  rfl

/-- The adapters of sources without a fault have different ids. -/
theorem ofAdapters_of_mapM (hs : s.fault? = none)
    (h : s.sources.mapM Adapter.ofSource = .ok l) : ∃ r, ofAdapters l = .ok r := by
  have hn : (l.map Adapter.id).Nodup := by
    rw [map_id_eq_of_mapM h]
    exact (Settings.fault?_eq_none_iff.mp hs).2.2
  exact ⟨_, ofAdapters_of_nodup hn⟩

/-- **Settings without a fault become a registry of the adapters of their sources.** -/
theorem ofSettings_eq_ok_iff :
    ofSettings s = .ok r ↔ s.fault? = none ∧ s.sources.mapM Adapter.ofSource = .ok r.adapters := by
  rw [ofSettings]
  cases hs : s.fault? with
  | some fault => simp
  | none =>
    simp only [bind_eq_ok_iff, true_and]
    constructor
    · rintro ⟨l, hl, hr⟩
      rw [adapters_of_ofAdapters hr]
      exact hl
    · intro h
      exact ⟨r.adapters, h, ofAdapters_of_nodup r.distinct⟩

theorem exists_ofSettings_iff :
    (∃ r, ofSettings s = .ok r) ↔ s.fault? = none ∧ ∀ x ∈ s.sources, x.HasSoundSelectors := by
  constructor
  · rintro ⟨r, h⟩
    obtain ⟨hs, hr⟩ := ofSettings_eq_ok_iff.mp h
    refine ⟨hs, fun x hx => ?_⟩
    exact (Adapter.exists_ofSource_iff.mp (exists_mapM_iff.mp ⟨_, hr⟩ x hx)).2
  · rintro ⟨hs, hsound⟩
    have hfault := (Settings.fault?_eq_none_iff.mp hs).2.1
    obtain ⟨l, hl⟩ := exists_mapM_iff.mpr fun x hx =>
      Adapter.exists_ofSource_iff.mpr ⟨hfault x hx, hsound x hx⟩
    obtain ⟨r, hr⟩ := ofAdapters_of_mapM hs hl
    rw [← adapters_of_ofAdapters hr] at hl
    exact ⟨r, ofSettings_eq_ok_iff.mpr ⟨hs, hl⟩⟩

/-! ### What settings and a registry tell alike -/

/-- What a registry has to be for settings. -/
structure IsCatalog (s : Settings) (r : Registry) : Prop where
  /-- Its adapters are made of the sources, one of each, in the same order. -/
  built : List.Forall₂ (fun x a => Adapter.ofSource x = .ok a) s.sources r.adapters
  /-- What the adapters know as their sources are these sources. -/
  sources : r.adapters.map Adapter.source = s.sources
  /-- A source is found by its id. -/
  found : ∀ x ∈ s.sources, (r.get? x.id).map Adapter.source = some x
  /-- Nothing is found by another id. -/
  missing : ∀ id, id ∉ s.sources.map Source.id → r.get? id = none
  /-- Nothing is listed under the unknown category. -/
  unknown : r.ofCategory .unknown = []
  /-- Under a known category there are the sources that list it, in the same order. -/
  listed : ∀ c ∈ Category.all, (r.ofCategory c).map Adapter.source = s.sourcesOf c
  /-- Nothing is listed twice under a category. -/
  once : ∀ c, ((r.ofCategory c).map Adapter.id).Nodup
  /-- The report on the settings shows what is listed in the registry. -/
  printed : catalogReport s =
    ["Configured sources:", ""] ++
      Category.all.flatMap (fun c => categoryLines c ((r.ofCategory c).map Adapter.source)) ++
      ["Usage: center-search search \"query\" -c general,news"]
  /-- Every source is listed. -/
  covered : ∀ x ∈ s.sources, ∃ c ∈ Category.all, ∃ a ∈ r.ofCategory c, a.source = x

theorem map_source_ofCategory {c : Category} (hc : c ≠ .unknown) :
    (r.ofCategory c).map Adapter.source =
      (r.adapters.map Adapter.source).filter fun x => x.categories.contains c := by
  have hlisted : (fun a : Adapter => a.isListedUnder c) =
      (fun x : Source => x.categories.contains c) ∘ Adapter.source := by
    funext a
    simp [Adapter.isListedUnder, hc]
  rw [ofCategory_eq_filter, hlisted, List.filter_map]

theorem isCatalog_of_ofSettings (h : ofSettings s = .ok r) : IsCatalog s r := by
  obtain ⟨hs, hr⟩ := ofSettings_eq_ok_iff.mp h
  have hsources : r.adapters.map Adapter.source = s.sources := Adapter.map_source_of_mapM hr
  have hlisted : ∀ c ∈ Category.all, (r.ofCategory c).map Adapter.source = s.sourcesOf c := by
    intro c hc
    rw [map_source_ofCategory (Category.mem_all_iff.mp hc), hsources, Settings.sourcesOf]
  have hadapter : ∀ x ∈ s.sources, ∃ a ∈ r.adapters, a.source = x := by
    intro x hx
    rw [← hsources] at hx
    exact List.mem_map.mp hx
  constructor
  case built => exact mapM_eq_ok_iff.mp hr
  case sources => exact hsources
  case found =>
    intro x hx
    obtain ⟨a, ha, rfl⟩ := hadapter x hx
    exact congrArg (Option.map Adapter.source) (get?_id ha)
  case missing =>
    intro id hid
    rw [← map_id_eq_of_mapM hr] at hid
    rw [get?_eq_find?, List.find?_eq_none]
    intro a ha heq
    exact hid (eq_of_beq heq ▸ List.mem_map_of_mem ha)
  case unknown =>
    rw [ofCategory_eq_filter, List.filter_eq_nil_iff]
    simp [Adapter.isListedUnder]
  case listed => exact hlisted
  case once =>
    intro c
    rw [ofCategory_eq_filter]
    exact r.distinct.sublist (List.filter_sublist.map _)
  case printed =>
    rw [catalogReport]
    have hlines := List.flatMap_congr fun c hc => congrArg (categoryLines c) (hlisted c hc)
    rw [hlines]
  case covered =>
    intro x hx
    obtain ⟨a, ha, rfl⟩ := hadapter x hx
    have hfault := (Settings.fault?_eq_none_iff.mp hs).2.1 _ hx
    obtain ⟨-, hne, hknown, -⟩ := Source.fault?_eq_none_iff.mp hfault
    obtain ⟨c, hc⟩ := List.exists_mem_of_ne_nil _ hne
    have hc' : c ≠ .unknown := fun heq => hknown (heq ▸ hc)
    refine ⟨c, Category.mem_all_iff.mpr hc', a, ?_, rfl⟩
    rw [ofCategory_eq_filter, List.mem_filter]
    exact ⟨ha, by simp [Adapter.isListedUnder, hc, hc']⟩

/-- **A registry of settings is what their reader takes it for.** There is one exactly for settings
without a fault whose selectors can be read; that two adapters have the same id never stands in its
way. It has the sources in the order of the settings, finds each by its id and nothing by another
one, and lists under each category what the report on the settings shows there. -/
theorem ofSettings_isCatalog (s : Settings) :
    ((∃ r, ofSettings s = .ok r) ↔ s.fault? = none ∧ ∀ x ∈ s.sources, x.HasSoundSelectors) ∧
      (∀ l, s.fault? = none → s.sources.mapM Adapter.ofSource = .ok l →
        ∃ r, ofAdapters l = .ok r) ∧
      ∀ r, ofSettings s = .ok r → IsCatalog s r :=
  ⟨exists_ofSettings_iff, fun _ => ofAdapters_of_mapM, fun _ => isCatalog_of_ofSettings⟩

/-- A page that repeats a category and a disabled feed, whose ids differ by a blank only; and the same
with a selector that cannot be read. -/
theorem ofSettings_isCatalog_page :
    let page (css : String) : Source :=
      { Source.make "page" .customPage (Template.ofUrl "http://1.2.3.4/") with
        categories := [.custom, .news, .custom], selectors := some ⟨css, some "h2 > a", none, none⟩ }
    let feed : Source :=
      { Source.make " page" .feed (Template.ofUrl "http://1.2.3.4/") with
        categories := [.news], enabled := false }
    let settings (css : String) : Settings :=
      { Settings.standard with sources := [page css, feed] }
    (settings "div.post").fault? = none ∧
      (∃ l, (settings "div.post").sources.mapM Adapter.ofSource = .ok l ∧
        ∃ r, ofAdapters l = .ok r) ∧
      (∃ r, ofSettings (settings "div.post") = .ok r ∧ IsCatalog (settings "div.post") r ∧
        (r.ofCategory .news).map Adapter.source = [page "div.post", feed] ∧
        (r.ofCategory .custom).map Adapter.source = [page "div.post"]) ∧
      (settings "div[[").fault? = none ∧ ¬∃ r, ofSettings (settings "div[[") = .ok r := by
  intro page feed settings
  have hfault : (settings "div.post").fault? = none := by
    decide +kernel
  have hsound : ∀ x ∈ (settings "div.post").sources, x.HasSoundSelectors := by
    decide +kernel
  have hbroken : ¬IsReadable "div[[" := by
    decide +kernel
  obtain ⟨hexists, hdistinct, hcatalog⟩ := ofSettings_isCatalog (settings "div.post")
  obtain ⟨r, hr⟩ := hexists.mpr ⟨hfault, hsound⟩
  have hbuilt := (ofSettings_eq_ok_iff.mp hr).2
  have hr' := hcatalog r hr
  refine ⟨hfault, ⟨_, hbuilt, hdistinct _ hfault hbuilt⟩, ⟨r, hr, hr', ?_, ?_⟩, ?_, ?_⟩
  · exact (hr'.listed .news (by decide)).trans rfl
  · exact (hr'.listed .custom (by decide)).trans rfl
  · decide +kernel
  · intro h
    have hpage := ((ofSettings_isCatalog (settings "div[[")).1.mp h).2 (page "div[[")
      List.mem_cons_self
    exact hbroken (hpage rfl _ rfl _ List.mem_cons_self)

end Registry
end Metasearch

import Metasearch.CommandLine.Program
import Metasearch.Proofs.Answer.Records
import Metasearch.Proofs.Service
import Metasearch.Proofs.Url.Canonical

/-!
# The compact format read back

In the compact format there is a line for each record, with tabs between its fields, and nothing is
escaped. So it can be read back only as far as no field has a tab or an end of a line in it. The
three fields have none for three reasons: titles are clean, URLs are canonical, and the source of a
record is what the settings call the source that was asked.

## Main definitions

* `readCompact`: the fields of all lines of a text.
* `Record.FitsLine`: a record that can be written on a line.

## Main results

* `readCompact_written`: records that fit on lines are read back.
* `Service.isClean_of_dispatch`: what sources deliver has clean texts, and the name of a source.
* `run_compact`: all that a search or a collection writes in this format is read back.
-/

namespace Metasearch

open Metasearch.Text

/-! ### Lines and fields -/

namespace CommandLine

/-- The lines of a text. The last one may lack its line feed. -/
def linesOf (text : String) : List String :=
  let pieces := splitWhere (· == '\n') text.toList
  (if pieces.getLast? = some [] then pieces.dropLast else pieces).map String.ofList

/-- The fields of a line. -/
def fieldsOf (line : String) : List String :=
  (splitWhere (· == '\t') line.toList).map String.ofList

/-- The fields of all lines of a text. -/
def readCompact (text : String) : List (List String) :=
  (linesOf text).map fieldsOf

/-- Holds of a text that can stand between tabs on a line. -/
def FitsField (s : String) : Prop :=
  '\t' ∉ s.toList ∧ '\n' ∉ s.toList

instance : DecidablePred FitsField :=
  fun s => inferInstanceAs (Decidable ('\t' ∉ s.toList ∧ '\n' ∉ s.toList))

end CommandLine

open CommandLine

/-- A record that can be written on a line. -/
structure Record.FitsLine (r : Record) : Prop where
  /-- The source fits. -/
  source : FitsField r.source
  /-- The title fits. -/
  title : FitsField r.title
  /-- The URL fits. -/
  url : FitsField r.url

/-- The fields of a record in the compact format. -/
def Record.fields (r : Record) : List String :=
  [r.source, r.title, r.url]

variable {r : Record} {records : List Record}

namespace CommandLine

theorem splitWhere_lines {lines : List String} (h : ∀ l ∈ lines, '\n' ∉ l.toList) :
    splitWhere (· == '\n') (lines.flatMap fun l => l.toList ++ ['\n']) =
      lines.map String.toList ++ [[]] := by
  induction lines with
  | nil => rfl
  | cons l rest ih =>
    have hl : ∀ c ∈ l.toList, (c == '\n') = false := fun c hc =>
      beq_false_of_ne fun heq => h l List.mem_cons_self (heq ▸ hc)
    rw [List.flatMap_cons, List.append_assoc, List.singleton_append,
      splitWhere_append hl (beq_self_eq_true '\n'), ih fun m hm => h m (List.mem_cons_of_mem l hm)]
    rfl

/-- **Lines that are written are read back.** -/
theorem linesOf_written {lines : List String} (h : ∀ l ∈ lines, '\n' ∉ l.toList) :
    linesOf (written lines) = lines := by
  rw [linesOf, written, String.toList_ofList, splitWhere_lines h, List.getLast?_concat, if_pos rfl,
    List.dropLast_concat, List.map_map]
  exact List.map_id'' (fun l => String.ofList_toList) lines

theorem toList_compactLine (r : Record) :
    (compactLine r).toList = joinWith ['\t'] (r.fields.map String.toList) := by
  simp [compactLine, Record.fields, joinWith]

/-- **The fields of a record are read back.** -/
theorem fieldsOf_compactLine (h : r.FitsLine) : fieldsOf (compactLine r) = r.fields := by
  have hfree : ∀ s ∈ r.fields.map String.toList, ∀ c ∈ s, (c == '\t') = false := by
    intro s hs c hc
    obtain ⟨field, hfield, rfl⟩ := List.mem_map.mp hs
    have hfits : FitsField field := by
      simp only [Record.fields, List.mem_cons, List.not_mem_nil, or_false] at hfield
      rcases hfield with rfl | rfl | rfl
      · exact h.source
      · exact h.title
      · exact h.url
    exact beq_false_of_ne fun heq => hfits.1 (heq ▸ hc)
  have hsplit : splitWhere (· == '\t') (joinWith ['\t'] (r.fields.map String.toList)) =
      r.fields.map String.toList :=
    splitWhere_joinWith (List.cons_ne_nil _ _) (beq_self_eq_true '\t') hfree
  rw [fieldsOf, toList_compactLine, hsplit, List.map_map]
  exact List.map_id'' (fun l => String.ofList_toList) r.fields

theorem not_mem_compactLine (h : r.FitsLine) : '\n' ∉ (compactLine r).toList := by
  simp [compactLine, h.source.2, h.title.2, h.url.2]

/-- **Records that fit on lines are read back.** -/
theorem readCompact_written (h : ∀ r ∈ records, r.FitsLine) :
    readCompact (written (records.map compactLine)) = records.map Record.fields := by
  have hlines : ∀ l ∈ records.map compactLine, '\n' ∉ l.toList := by
    intro l hl
    obtain ⟨r, hr, rfl⟩ := List.mem_map.mp hl
    exact not_mem_compactLine (h r hr)
  rw [readCompact, linesOf_written hlines, List.map_map]
  exact List.map_congr_left fun r hr => fieldsOf_compactLine (h r hr)

/-! ### What fits -/

/-- White space apart from the space is out of place in a clean text. -/
theorem fitsField_of_normal {s : String} (h : Normal s.toList) : FitsField s :=
  ⟨fun hc => absurd (h.space_eq _ hc (by decide)) (by decide),
    fun hc => absurd (h.space_eq _ hc (by decide)) (by decide)⟩

/-- White space is written with percent signs in a URL. -/
theorem fitsField_of_canonicalHref? {raw href : String} (h : Url.canonicalHref? raw = some href) :
    FitsField href := by
  obtain ⟨u, hform, -, htext⟩ := Url.exists_of_canonicalHref? h
  have hspace : ∀ c ∈ href.toList, isSpace c = false := by
    intro c hc
    rw [htext] at hc
    exact (Url.not_isMargin_of_isVisible (Url.isVisible_of_mem_toText hform.canonicalize hc)).2.2
  exact ⟨fun hc => absurd (hspace _ hc) (by decide), fun hc => absurd (hspace _ hc) (by decide)⟩

end CommandLine

/-! ### What sources deliver -/

variable {t : Settings} {s : Service} {x : Source} {a : Adapter} {server : Server}
  {gates : List (String × Pacing.Gate)} {place : Nat} {c : TimedCall}

theorem Attempt.exists_of_andThen {α β : Type} {attempt : Attempt α} {next : α → Except Failure β}
    {b : β} (h : attempt.andThen next = .done b) :
    ∃ value, attempt = .done value ∧ next value = .ok b := by
  cases attempt with
  | done value =>
    rw [andThen] at h
    cases hnext : next value with
    | ok found =>
      rw [hnext] at h
      exact ⟨value, rfl, hnext.trans (congrArg Except.ok (Attempt.done.inj h))⟩
    | error failure =>
      rw [hnext] at h
      cases h
  | failed failure => cases h
  | crashed => cases h

/-- What an adapter brings is what its source makes of an answer. -/
theorem Adapter.exists_answer {q : Query} {passage : Option Nat} (h : ofSource x = .ok a)
    (hwork : (Service.workFrom server c passage (a.work q)).ending = .done records) :
    ∃ request body, x.answer request body = .ok records := by
  obtain ⟨-, read, hread, rfl⟩ := ofSource_eq_ok_iff.mp h
  rw [ofReader] at hwork
  dsimp only at hwork
  cases hrequest : x.requestFor q with
  | error failure =>
    rw [hrequest] at hwork
    cases hwork
  | ok request =>
    rw [hrequest] at hwork
    cases passage with
    | none => cases hwork
    | some time =>
      obtain ⟨body, -, hresult⟩ := Attempt.exists_of_andThen hwork
      refine ⟨request, body, ?_⟩
      rw [Source.answer, hread]
      exact hresult

/-- **What sources deliver has clean texts, and the name of one of them.** -/
theorem Service.isClean_of_dispatch (hs : ofSettings t = .ok s)
    (hr : r ∈ (dispatch s.limits.deadline (s.tasks server gates place c)).records) :
    r.IsClean ∧ ∃ x ∈ t.sources, r.source = x.id := by
  obtain ⟨registry, hregistry, rfl⟩ := map_eq_ok_iff.mp hs
  obtain ⟨-, hadapters⟩ := Registry.ofSettings_eq_ok_iff.mp hregistry
  rw [records_tasks] at hr
  obtain ⟨a, ha, hr⟩ := List.mem_flatMap.mp hr
  obtain ⟨found, hfound, rfl⟩ := List.mem_map.mp hr
  obtain ⟨x, hx, hsource⟩ := exists_ok_of_mem_mapM hadapters (mem_adapters_of_mem_reached ha)
  obtain ⟨records, hending, hmem⟩ := Task.ending_of_mem_delivered hfound
  obtain ⟨request, body, hanswer⟩ := Adapter.exists_answer hsource hending
  have hclean := Source.isClean_of_answer hanswer hmem
  refine ⟨⟨hclean.title, hclean.content⟩, x, hx, ?_⟩
  exact congrArg Source.id (Adapter.source_of_ofSource hsource)

/-! ### Whole runs -/

section Replies

variable (hs : Service.ofSettings t = .ok s) (hids : ∀ x ∈ t.sources, FitsField x.id)
include hs hids

/-- What becomes of a record that was delivered, under its canonical URL, fits on a line. -/
theorem Service.fitsLine_of_dispatch {x : Record}
    (hr : r ∈ (dispatch s.limits.deadline (s.tasks server gates place c)).records)
    (hurl : Url.canonicalHref? r.url = some x.url) (hsource : x.source = r.source)
    (htitle : x.title = r.title) : x.FitsLine := by
  obtain ⟨hclean, y, hy, hid⟩ := isClean_of_dispatch hs hr
  constructor
  case source =>
    rw [hsource, hid]
    exact hids y hy
  case title =>
    rw [htitle]
    exact fitsField_of_normal hclean.title
  case url => exact fitsField_of_canonicalHref? hurl

/-- The results of a search fit on lines. -/
theorem Service.fitsLine_of_found {call : Call} {results : ResultSet}
    (hreply : s.replyTo server call = .found results) : ∀ r ∈ results.records, r.FitsLine := by
  cases call with
  | collect categories => cases hreply
  | search q =>
    cases hfault : q.fault? with
    | some fault => simp [replyTo, serveCall, reply, Call.fault?, hfault] at hreply
    | none =>
      simp only [replyTo, serveCall, reply, Call.fault?, hfault, Reply.found.injEq] at hreply
      subst hreply
      intro x hx
      obtain ⟨r, hr, hurl, hspec⟩ := Ranking.mem_rank hx
      exact fitsLine_of_dispatch hs hids hr hurl (by rw [hspec]) (by rw [hspec])

/-- The records of a collection fit on lines. -/
theorem Service.fitsLine_of_collected {call : Call} {collection : Collection}
    (hreply : s.replyTo server call = .collected collection) :
    ∀ r ∈ collection.records, r.FitsLine := by
  cases call with
  | search q =>
    cases hfault : q.fault? with
    | some fault => simp [replyTo, serveCall, reply, Call.fault?, hfault] at hreply
    | none => simp [replyTo, serveCall, reply, Call.fault?, hfault] at hreply
  | collect categories =>
    obtain rfl := Reply.collected.inj hreply
    intro x hx
    obtain ⟨r, hr, hurl, hspec⟩ := mem_uniqueAfter hx
    exact fitsLine_of_dispatch hs hids hr hurl (by rw [hspec]) (by rw [hspec])

end Replies

theorem CommandLine.run_eq {read : String → Except FileFault String} {arguments : List String}
    {i : Invocation} (hi : Invocation.parse arguments = .ok i) (ht : i.settings read = .ok t) :
    run read server arguments =
      match i.command.report t server with
      | .ok lines => ⟨0, written lines, none⟩
      | .error failure => ⟨1, "", some failure⟩ := by
  rw [run, hi]
  dsimp only
  rw [Invocation.report, ht]
  rfl

/-- **What is written in the compact format is read back.** When no source has a tab or the end of a
line in its id, a search writes nothing if it is refused; else it writes one line for each result
that is shown, in their order, and on it three fields between tabs, which are the source, the title
and the URL. A collection writes such lines for all its records. -/
theorem CommandLine.run_compact {read : String → Except FileFault String} {arguments : List String}
    {i : Invocation} (hi : Invocation.parse arguments = .ok i) (ht : i.settings read = .ok t)
    (hs : Service.ofSettings t = .ok s) (hids : ∀ x ∈ t.sources, FitsField x.id)
    (server : Server) :
    (∀ q limit, i.command = .search q limit .compact →
      (∃ fault, s.replyTo server (.search q) = .refused fault ∧
        run read server arguments = ⟨1, "", some (.query fault)⟩) ∨
      ∃ results output, s.replyTo server (.search q) = .found results ∧
        run read server arguments = ⟨0, output, none⟩ ∧
        readCompact output =
          (results.records.take limit).map fun r => [r.source, r.title, r.url]) ∧
    (∀ categories, i.command = .collect categories .compact →
      ∃ collection output, s.replyTo server (.collect categories) = .collected collection ∧
        run read server arguments = ⟨0, output, none⟩ ∧
        readCompact output = collection.records.map fun r => [r.source, r.title, r.url]) := by
  refine ⟨fun q limit hcommand => ?_, fun categories hcommand => ?_⟩
  · have hreport : i.command.report t server =
        replyReport limit .compact (s.replyTo server (.search q)) := by
      rw [hcommand, Command.report, hs]
      rfl
    rw [run_eq hi ht, hreport]
    cases hreply : s.replyTo server (.search q) with
    | refused fault => exact Or.inl ⟨fault, rfl, rfl⟩
    | found results =>
      have hfits := Service.fitsLine_of_found hs hids hreply
      refine Or.inr ⟨results, _, rfl, rfl, ?_⟩
      exact readCompact_written fun r hr => hfits r (List.mem_of_mem_take hr)
    | collected collection => cases hfault : q.fault? <;>
        simp [Service.replyTo, Service.serveCall, Service.reply, Call.fault?, hfault] at hreply
  · have hreport : i.command.report t server =
        replyReport 0 .compact (s.replyTo server (.collect categories)) := by
      rw [hcommand, Command.report, hs]
      rfl
    rw [run_eq hi ht, hreport]
    obtain ⟨collection, hreply⟩ : ∃ collection,
        s.replyTo server (.collect categories) = .collected collection := ⟨_, rfl⟩
    have hfits := Service.fitsLine_of_collected hs hids hreply
    rw [hreply]
    exact ⟨collection, _, rfl, rfl, readCompact_written hfits⟩

/-- Words that ask one source for one line each. -/
def CommandLine.oneSource : List String := ["search", "rust", "-s", "bing", "-f", "compact"]

/-- A page with a tab in a title, and with tracking and the end of a line in its links. -/
def CommandLine.tabbedPage : String :=
  "<li class=b_algo><h2><a href='https://h.org/a?utm_source=x'>A\tb</a></h2></li>" ++
    "<li class=b_algo><h2><a href='https://h.org/b\n%0A'>[1] C\n</a></h2></li>"

/-- A server with that page only. -/
def CommandLine.tabbedServer : Server := fun _ => ⟨some 5, .done tabbedPage⟩

/-- Tabs and ends of lines are gone, or stand behind percent signs. -/
theorem CommandLine.run_compact_tabbed :
    let output := "bing\tA b\thttps://h.org/a\nbing\tC\thttps://h.org/b%0A\n"
    run (fun _ => .error .missing) tabbedServer oneSource = ⟨0, output, none⟩ ∧
      ∃ q s results, Invocation.parse oneSource = .ok ⟨none, .search q 10 .compact⟩ ∧
        Service.ofSettings Settings.standard = .ok s ∧
        s.replyTo tabbedServer (.search q) = .found results ∧
        readCompact output =
          (results.records.take 10).map fun r => [r.source, r.title, r.url] := by
  intro output
  have hparse : (match Invocation.parse oneSource with
      | .ok ⟨config, .search _ limit format⟩ => config.isNone && limit == 10 && format == .compact
      | .ok ⟨_, .collect _ _⟩ | .ok ⟨_, .sources⟩ | .error _ => false) = true := by decide +kernel
  have hservice : (Service.ofSettings Settings.standard).toOption.isSome = true := by
    decide +kernel
  have hids : ∀ x ∈ Settings.standard.sources, FitsField x.id := by decide +kernel
  have houtput : (run (fun _ => .error .missing) tabbedServer oneSource).output = output := by
    decide +kernel
  split at hparse
  case h_1 config q limit format hi =>
    simp only [Bool.and_eq_true, Option.isNone_iff_eq_none, beq_iff_eq] at hparse
    obtain ⟨⟨rfl, rfl⟩, rfl⟩ := hparse
    cases hs : Service.ofSettings Settings.standard with
    | error failure =>
      rw [hs] at hservice
      cases hservice
    | ok s =>
      have ht : Invocation.settings ⟨none, .search q 10 .compact⟩ (fun _ => .error .missing) =
          .ok Settings.standard := rfl
      rcases (run_compact hi ht hs hids tabbedServer).1 q 10 rfl with
        ⟨fault, -, hrun⟩ | ⟨results, text, hreply, hrun, hread⟩
      · rw [hrun] at houtput
        have hempty : "" = output := houtput
        exact absurd hempty (by decide +kernel)
      · rw [hrun] at houtput
        obtain rfl : text = output := houtput
        exact ⟨hrun, q, s, results, hi, rfl, hreply, hread⟩
  all_goals cases hparse

end Metasearch

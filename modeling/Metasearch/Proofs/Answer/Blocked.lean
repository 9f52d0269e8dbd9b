import Metasearch.Proofs.Answer.Blank

/-!
# Pages that are reported as blocked

Google answers whom it takes for a machine with a page that asks for a proof that a person is there.
Such a page is told by two texts, wherever they stand in it, before results are looked for. So a
page that has one of them is reported as blocked whatever results it has, and every other page gives
its results, block by block, whatever words are in them.

## Main definitions

* `NamesCaptcha`: a page that is taken for one that asks for a proof.
* `LeadsTo`: where a link on a page of Google leads in the end.
* `IsGoogleResult`: a result with its title, link and excerpt.

## Main results

* `unwrapGoogle?_eq_some_iff`, `googleBlock_iff`: what the readers of links and blocks give.
* `Source.answer_google`: when a page is reported as blocked, and its records otherwise.
-/

namespace Metasearch

open Metasearch.Answer Metasearch.Text Metasearch.Encoding Metasearch.Html Metasearch.Css

namespace Answer

/-- Holds of pages with one of the texts that tell a page that asks for a proof. -/
def NamesCaptcha (body : String) : Prop :=
  "/sorry/index".toList <:+: body.toList ∨ "recaptcha".toList <:+: body.toList

instance : DecidablePred NamesCaptcha :=
  fun body => inferInstanceAs
    (Decidable ("/sorry/index".toList <:+: body.toList ∨ "recaptcha".toList <:+: body.toList))

/-- Where a link on a page of Google leads in the end. -/
inductive LeadsTo : List Char → List Char → Prop
  /-- A link to another site. -/
  | direct {href : List Char} (hhref : href.head? ≠ some '/') : LeadsTo href href
  /-- A link through Google: the target is what it is decoded to, or itself if it is no text. -/
  | wrapped {target rest : List Char} (htarget : '&' ∉ target)
      (hrest : ∀ c ∈ rest.head?, c = '&') :
      LeadsTo ("/url?q=".toList ++ (target ++ rest)) ((Percent.decodeTerm? target).getD target)

/-- A result on a page of Google. -/
structure IsGoogleResult (d : Document) (n : NodeId) (f : Found) : Prop where
  /-- The title is the text of the first heading, and it is not empty. -/
  title : ∃ m, firstIn? d n (alternatives "h3") = some m ∧ textIn d m = f.title ∧ f.title ≠ []
  /-- The result is where the first link leads, and that is not empty. -/
  link : ∃ m, firstIn? d n (alternatives "a[href]") = some m ∧ LeadsTo (linkOf d m) f.url ∧
    f.url ≠ []
  /-- The excerpt is the text of the first place for one. -/
  content : firstText d n (alternatives "div[data-sncf], div.VwiC3b, span.st") = f.content

variable {body : String} {d : Document} {n : NodeId} {f : Found}
  {href url : List Char}

theorem asksForPerson_iff : asksForPerson body = true ↔ NamesCaptcha body := by
  rw [asksForPerson, Bool.or_eq_true, occursIn_iff, occursIn_iff, NamesCaptcha]

/-- **Links lead where their reader says.** -/
theorem unwrapGoogle?_eq_some_iff : unwrapGoogle? href = some url ↔ LeadsTo href url := by
  constructor
  · intro h
    rw [unwrapGoogle?] at h
    cases hstrip : stripStart googleMark href with
    | none =>
      rw [hstrip] at h
      obtain ⟨hhead, h⟩ := Option.ite_none_left_eq_some.mp h
      obtain rfl := Option.some.inj h
      exact .direct hhead
    | some tail =>
      rw [hstrip] at h
      obtain rfl := Option.some.inj h
      obtain ⟨rest, htail, hrest⟩ := exists_beforeFirst (· == '&') tail
      have htarget : '&' ∉ beforeFirst (· == '&') tail := fun hin =>
        absurd (not_of_mem_beforeFirst hin) (by decide)
      have hend : ∀ c ∈ rest.head?, c = '&' := fun c hc => beq_iff_eq.mp (hrest c hc)
      rw [eq_append_of_stripStart hstrip]
      have hwrapped := LeadsTo.wrapped htarget hend
      rw [← htail] at hwrapped
      exact hwrapped
  · intro h
    cases h with
    | direct hhead =>
      have hstrip : stripStart googleMark href = none := by
        rw [Option.eq_none_iff_forall_ne_some]
        intro tail hstrip
        rw [eq_append_of_stripStart hstrip] at hhead
        exact hhead rfl
      rw [unwrapGoogle?, hstrip]
      exact if_neg hhead
    | @wrapped target rest htarget hrest =>
      have hstrip : stripStart googleMark ("/url?q=".toList ++ (target ++ rest)) =
          some (target ++ rest) := stripStart_append googleMark _
      have hbefore : beforeFirst (· == '&') (target ++ rest) = target :=
        beforeFirst_append_of (fun c hc => beq_false_of_ne fun h => htarget (h ▸ hc))
          fun c hc => beq_iff_eq.mpr (hrest c hc)
      rw [unwrapGoogle?, hstrip]
      simp only [hbefore]


/-- **A block that tells all it has to is a result.** -/
theorem googleBlock_iff :
    googleBlock d n = some f ∧ f.isComplete = true ↔ IsGoogleResult d n f := by
  rw [Found.isComplete, Bool.and_eq_true, Bool.not_eq_true', Bool.not_eq_true',
    List.isEmpty_eq_false_iff, List.isEmpty_eq_false_iff]
  constructor
  · rintro ⟨h, hurl, htitle⟩
    obtain ⟨title, hfirst, h⟩ := Option.bind_eq_some_iff.mp h
    obtain ⟨link, hlink, h⟩ := Option.bind_eq_some_iff.mp h
    obtain ⟨url, hunwrap, h⟩ := Option.bind_eq_some_iff.mp h
    obtain rfl := Option.some.inj h
    exact ⟨⟨title, hfirst, rfl, htitle⟩,
      ⟨link, hlink, unwrapGoogle?_eq_some_iff.mp hunwrap, hurl⟩, rfl⟩
  · rintro ⟨⟨title, hfirst, htext, htitle⟩, ⟨link, hlink, hleads, hurl⟩, hcontent⟩
    have hunwrap := unwrapGoogle?_eq_some_iff.mpr hleads
    have hfound : f = ⟨f.url, textIn d title,
        firstText d n (alternatives "div[data-sncf], div.VwiC3b, span.st")⟩ := by
      rw [htext, hcontent]
    exact ⟨Option.bind_eq_some_iff.mpr ⟨title, hfirst, Option.bind_eq_some_iff.mpr ⟨link, hlink,
      Option.bind_eq_some_iff.mpr ⟨f.url, hunwrap, congrArg some hfound.symm⟩⟩⟩, hurl, htitle⟩

end Answer

/-- **A page of Google is reported as blocked just when it has one of the two texts.** Every other
page gives its results block by block, in their order on the page, whatever words are in them. -/
theorem Source.answer_google {s : Source} (he : s.engine = .google) (request : Request)
    (body : String) :
    let d := Document.ofText body.toList
    (∀ failure, s.answer request body = .error failure ↔
      failure = .answer .captcha ∧ NamesCaptcha body) ∧
    (¬NamesCaptcha body → ∃ read : NodeId → Option Found,
      (∀ n f, read n = some f ↔ IsGoogleResult d n f) ∧
      s.answer request body =
        .ok (((selectAll d (alternatives "div.g")).filterMap read).map (Found.record s.id))) := by
  intro d
  rw [answer_eq, he]
  dsimp only
  rw [readGoogle]
  by_cases hnames : NamesCaptcha body
  · rw [if_pos (asksForPerson_iff.mpr hnames)]
    refine ⟨fun failure => ?_, fun hno => absurd hnames hno⟩
    rw [Except.error.injEq, eq_comm, and_iff_left hnames]
  · rw [if_neg (mt asksForPerson_iff.mp hnames)]
    refine ⟨fun failure => iff_of_false (fun h => ?_) fun h => hnames h.2, fun _ =>
      ⟨fun n => (googleBlock d n).filter Found.isComplete, fun n f => ?_, ?_⟩⟩
    · cases h
    · rw [Option.filter_eq_some_iff, googleBlock_iff]
    · rw [readBlocks, List.filter_filterMap]

/-- A result with the words of a page that asks for a proof, one of them in capitals. -/
theorem Source.answer_google_words :
    let body := "<title>unusual traffic</title><div class=g><a href='/url?q=https://h.org/sorry'>"
      ++ "<h3>A reCAPTCHA</h3></a><span class=st>CAPTCHA: are you a robot?</span></div>"
    let d := Document.ofText body.toList
    Catalog.google.engine = .google ∧ ¬NamesCaptcha body ∧
      (∀ failure, Catalog.google.answer searchRequest body ≠ .error failure) ∧
      (∃ read : NodeId → Option Found, (∀ n f, read n = some f ↔ IsGoogleResult d n f) ∧
        Catalog.google.answer searchRequest body = .ok
          (((selectAll d (alternatives "div.g")).filterMap read).map (Found.record "google"))) ∧
      (Catalog.google.answer searchRequest body).toOption.map
          (fun records => records.map fun r => (r.url, r.title, r.content)) =
        some [("https://h.org/sorry", "A reCAPTCHA", "CAPTCHA: are you a robot?")] := by
  intro body d
  have hnames : ¬NamesCaptcha body := by decide +kernel
  obtain ⟨herror, hok⟩ := answer_google (s := Catalog.google) rfl searchRequest body
  exact ⟨rfl, hnames, fun failure h => hnames ((herror failure).mp h).2, hok hnames,
    by decide +kernel⟩

/-- A page with a result is reported as blocked for a word in its title. -/
theorem Source.answer_google_about :
    let body := "<div class=g><a href='https://example.com/'><h3>About recaptcha</h3></a></div>"
    let d := Document.ofText body.toList
    (4 ∈ selectAll d (alternatives "div.g") ∧
      IsGoogleResult d 4 ⟨"https://example.com/".toList, "About recaptcha".toList, []⟩) ∧
    Catalog.google.answer searchRequest body = .error (.answer .captcha) := by
  intro body d
  have htitle : firstIn? d 4 (alternatives "h3") = some 6 ∧
      textIn d 6 = "About recaptcha".toList := by decide +kernel
  have hlink : firstIn? d 4 (alternatives "a[href]") = some 5 ∧
      linkOf d 5 = "https://example.com/".toList := by decide +kernel
  have hleads : LeadsTo (linkOf d 5) "https://example.com/".toList :=
    hlink.2 ▸ .direct (by decide)
  refine ⟨⟨by decide +kernel, ⟨6, htitle.1, htitle.2, by decide⟩,
    ⟨5, hlink.1, hleads, by decide⟩, by decide +kernel⟩, ?_⟩
  rw [answer_eq]
  exact if_pos (asksForPerson_iff.mpr (Or.inr (by decide +kernel)))

end Metasearch

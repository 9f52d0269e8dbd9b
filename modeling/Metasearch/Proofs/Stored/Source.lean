import Metasearch.Proofs.Data.Decode
import Metasearch.Proofs.Template
import Metasearch.Source.Basic

/-!
# Sources as data, written and read

A source is read from the data it is written to, with the request and the selectors within it.
Names of categories and engines tell these apart, and the parameters of a request stand in the order
in which they are entered again. Sources are stored in two formats, and are read from what any
format gives back.

## Main definitions

* `Source.IsProper`: integers of 64 bits, and parameters in the order of their names.

## Main results

* `Template.withParams_eq_self`: parameters in order are entered in order.
* `Source.IsProper.exists_decode?`: sources in any format.
* `Source.IsProper.decode?_encode`.
-/

namespace Metasearch

open Metasearch.Data

variable {back : Data → Option Data}

/-! ### Names -/

theorem Category.decode?_encode (c : Category) : Category.decode? c.encode = some c := by
  cases c <;> rfl

theorem Engine.decode?_encode (e : Engine) : Engine.decode? e.encode = some e := by
  cases e <;> rfl

theorem Category.asList?_encode (l : List Category) :
    asList? Category.decode? (.list (l.map Category.encode)) = some l :=
  asList?_map fun c _ => c.decode?_encode

theorem Category.isPlain_list (l : List Category) : isPlain (.list (l.map Category.encode)) = true :=
  List.all_eq_true.mpr (List.forall_mem_map.mpr fun _ _ => rfl)

/-! ### Requests -/

namespace Template

theorem insertParam_eq_append {name value : String} {l : List (String × String)}
    (h : ∀ p ∈ l, p.1 < name) : insertParam name value l = l ++ [(name, value)] := by
  induction l with
  | nil => rfl
  | cons p l ih =>
    have hp := h p List.mem_cons_self
    rw [insertParam, if_neg (String.lt_asymm hp), if_neg (String.ne_of_lt hp).symm,
      ih fun p hp => h p (List.mem_cons_of_mem _ hp)]
    rfl

/-- **Parameters in the order of their names are entered in that order.** -/
theorem withParams_eq_append {url : String} {l params : List (String × String)}
    (h : (l ++ params).Pairwise fun p p' => p.1 < p'.1) :
    (Template.mk url l).withParams params = ⟨url, l ++ params⟩ := by
  rw [withParams]
  induction params generalizing l with
  | nil => rw [List.foldl_nil, List.append_nil]
  | cons p rest ih =>
    have hlast : ∀ p' ∈ l, p'.1 < p.1 := fun p' hp' =>
      (List.pairwise_append.mp h).2.2 p' hp' p List.mem_cons_self
    rw [List.foldl_cons, withParam, insertParam_eq_append hlast, ih (by simpa using h)]
    simp

theorem withParams_eq_self {t : Template} (h : t.IsOrdered) :
    (ofUrl t.url).withParams t.params = t :=
  withParams_eq_append h

theorem exists_decode? (hback : Keeps back) {t : Template} (h : t.IsOrdered) :
    ∃ d, back t.encode = some d ∧ decode? d = some t := by
  obtain ⟨d, hd, hfields⟩ := hback.table t.encode.fieldsOf (by decide : ["url", "params"].Nodup)
  obtain ⟨f, hf, hfind⟩ := hfields ["url", "params"]
  have htexts : isPlain (.table (t.params.map fun p => (p.1, .text p.2))) = true :=
    List.all_eq_true.mpr (List.forall_mem_map.mpr fun _ _ => rfl)
  have hread : asTexts? (.table (t.params.map fun p => (p.1, .text p.2))) = some t.params :=
    Text.mapM_map fun p _ => rfl
  have hurl : f.required? "url" asText? = some t.url :=
    Fields.required?_eq_some ((hfind "url" (by decide)).trans (hback.plain _ rfl)) rfl
  have hparams : f.orElse? "params" asTexts? [] = some t.params :=
    Fields.orElse?_eq_some ((hfind "params" (by decide)).trans (hback.plain _ htexts)) hread
  refine ⟨d, hd, ?_⟩
  rw [decode?, hf, Option.bind_eq_bind, Option.bind_some, hurl, hparams]
  exact congrArg some (withParams_eq_self h)

end Template

/-! ### Selectors -/

theorem asOption?_text (o : Option String) : asOption? asText? (ofOption .text o) = some o :=
  asOption?_ofOption (fun _ => Data.noConfusion) fun _ _ => rfl

theorem Selectors.exists_decode? (hback : Keeps back) (s : Selectors) :
    ∃ d, back s.encode = some d ∧ decode? d = some s := by
  let names := ["item", "title", "content", "url"]
  obtain ⟨d, hd, hfields⟩ := hback.table s.encode.fieldsOf (by decide : names.Nodup)
  obtain ⟨f, hf, hfind⟩ := hfields names
  have htext : ∀ {name : String} {o : Option String}, f.find? name = back (ofOption .text o) →
      f.maybe? name asText? = some o := fun hfound =>
    hback.maybe?_eq_some rfl hfound fun a _ => ⟨.text a, hback.plain _ rfl, rfl⟩
  have hitem : f.orElse? "item" asText? standard.item = some s.item :=
    Fields.orElse?_eq_some ((hfind "item" (by decide)).trans (hback.plain _ rfl)) rfl
  refine ⟨d, hd, ?_⟩
  rw [decode?, hf, Option.bind_eq_bind, Option.bind_some, hitem, htext (hfind "title" (by decide)),
    htext (hfind "content" (by decide)), htext (hfind "url" (by decide))]
  rfl

/-! ### Sources -/

namespace Source

/-- The optional integers of a source. -/
def integers (s : Source) : List Nat :=
  s.minInterval.toList ++ s.timeout.toList ++ s.maxItems.toList

theorem forall_integers {s : Source} {p : Nat → Prop} : (∀ n ∈ s.integers, p n) ↔
    (∀ n ∈ s.minInterval, p n) ∧ (∀ n ∈ s.timeout, p n) ∧ ∀ n ∈ s.maxItems, p n := by
  simp only [integers, List.forall_mem_append, Option.mem_toList, Option.mem_def, and_assoc]

/-- A source whose integers have 64 bits and whose parameters are in the order of their names. -/
structure IsProper (s : Source) : Prop where
  /-- The parameters are in order. -/
  params : s.request.IsOrdered
  /-- The integers have 64 bits. -/
  integers : ∀ n ∈ s.integers, (n : Int) ≤ maxUnsigned

/-- **A source is read from what a format gives back.** -/
theorem IsProper.exists_decode? (hback : Keeps back) {s : Source} (h : s.IsProper) :
    ∃ d, back s.encode = some d ∧ decode? d = some s := by
  obtain ⟨hinterval, htimeout, hitems⟩ := forall_integers.mp h.integers
  obtain ⟨d, hd, hfields⟩ := hback.table s.encode.fieldsOf (by decide : fieldNames.Nodup)
  obtain ⟨f, hf, hfind⟩ := hfields fieldNames
  have hplain : ∀ {name : String} {x : Data}, isPlain x = true → f.find? name = back x →
      f.find? name = some x := fun hx hfound => hfound.trans (hback.plain _ hx)
  have hnat : ∀ {name : String} {o : Option Nat}, (∀ n ∈ o, (n : Int) ≤ maxUnsigned) →
      f.find? name = back (ofOption ofNat o) → f.maybe? name asNat? = some o := fun h hfound =>
    hback.maybe?_eq_some rfl hfound fun n hn =>
      ⟨ofNat n, hback.plain _ rfl, asUnsigned?_ofNat (h n hn)⟩
  have hid : f.required? "id" asText? = some s.id :=
    Fields.required?_eq_some (hplain rfl (hfind "id" (by decide))) rfl
  have hname : f.orElse? "name" asText? "" = some s.name :=
    Fields.orElse?_eq_some (hplain rfl (hfind "name" (by decide))) rfl
  have hcategories : f.orElse? "categories" (asList? Category.decode?) [.general] =
      some s.categories :=
    Fields.orElse?_eq_some (hplain (Category.isPlain_list _) (hfind "categories" (by decide)))
      (Category.asList?_encode _)
  have hengine : f.required? "parser" Engine.decode? = some s.engine :=
    Fields.required?_eq_some (hplain rfl (hfind "parser" (by decide))) s.engine.decode?_encode
  have hrequest : f.required? "request" Template.decode? = some s.request := by
    obtain ⟨r, hr, hread⟩ := Template.exists_decode? hback h.params
    exact Fields.required?_eq_some ((hfind "request" (by decide)).trans hr) hread
  have hweight : f.orElse? "weight" asFloat? standardWeight = some s.weight :=
    Fields.orElse?_eq_some (hplain rfl (hfind "weight" (by decide))) rfl
  have hinterval := hnat hinterval (hfind "min_interval_ms" (by decide))
  have htimeout := hnat htimeout (hfind "timeout_ms" (by decide))
  have henabled : f.orElse? "enabled" asBool? true = some s.enabled :=
    Fields.orElse?_eq_some (hplain rfl (hfind "enabled" (by decide))) rfl
  have hpaging : f.orElse? "paging" asBool? false = some s.paging :=
    Fields.orElse?_eq_some (hplain rfl (hfind "paging" (by decide))) rfl
  have hitems := hnat hitems (hfind "max_items" (by decide))
  have hselectors : f.maybe? "selectors" Selectors.decode? = some s.selectors :=
    hback.maybe?_eq_some rfl (hfind "selectors" (by decide)) fun x _ => x.exists_decode? hback
  have htoken : f.maybe? "token" asText? = some s.token :=
    hback.maybe?_eq_some rfl (hfind "token" (by decide)) fun t _ =>
      ⟨.text t, hback.plain _ rfl, rfl⟩
  have hstickied : f.orElse? "include_stickied" asBool? false = some s.includeStickied :=
    Fields.orElse?_eq_some (hplain rfl (hfind "include_stickied" (by decide))) rfl
  refine ⟨d, hd, ?_⟩
  rw [decode?, hf, Option.bind_eq_bind, Option.bind_some, hid, hname, hcategories, hengine,
    hrequest, hweight, hinterval, htimeout, henabled, hpaging, hitems, hselectors, htoken, hstickied]
  rfl

theorem IsProper.decode?_encode {s : Source} (h : s.IsProper) : decode? s.encode = some s := by
  obtain ⟨d, hd, hread⟩ := h.exists_decode? keeps_some
  rwa [Option.some.inj hd]

end Source
end Metasearch

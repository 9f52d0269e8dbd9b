import Mathlib.Data.List.DropRight
import Mathlib.Data.List.Forall2
import Mathlib.Data.List.TakeWhile
import Metasearch.Text.Space

/-!
# Cutting a text and putting it together

A text that is written piece by piece with marks between is read by cutting it at the marks. That
gives the pieces back as long as no piece holds a mark. All lemmas on cutting here are of this kind;
which texts are free of which marks is for those to say who write them.

## Main results

* `beforeFirst_append`, `afterFirst_append`: a text cut at its first mark.
* `spans_induction`: a text with openings and closings.
* `splitWhere_joinWith`: pieces with marks between them, cut at the marks.
* `trimWhere_eq_self`: nothing to trim.
* `occursIn_iff`: a text within another.
-/

namespace Metasearch.Text

variable {α : Type} {p : α → Bool} {d : α} {s t r : List α} {pieces : List (List α)}

/-! ### The first mark -/

theorem beforeFirst_append (hs : ∀ c ∈ s, p c = false) (hd : p d = true) :
    beforeFirst p (s ++ d :: t) = s := by
  rw [beforeFirst, List.takeWhile_append_of_pos fun c hc => by rw [hs c hc]; rfl]
  simp [hd]

theorem afterFirst_append (hs : ∀ c ∈ s, p c = false) (hd : p d = true) :
    afterFirst p (s ++ d :: t) = some t := by
  have hdrop : (s ++ d :: t).dropWhile (fun c => !p c) = d :: t := by
    rw [List.dropWhile_append_of_pos fun c hc => by rw [hs c hc]; rfl]
    simp [hd]
  rw [afterFirst, hdrop]

theorem beforeFirst_eq_self (hs : ∀ c ∈ s, p c = false) : beforeFirst p s = s :=
  List.takeWhile_eq_self_iff.mpr fun c hc => by rw [hs c hc]; rfl

/-- What comes before a mark, or before the end. -/
theorem beforeFirst_append_of (hs : ∀ c ∈ s, p c = false) (ht : ∀ c ∈ t.head?, p c = true) :
    beforeFirst p (s ++ t) = s := by
  cases t with
  | nil => rw [List.append_nil, beforeFirst_eq_self hs]
  | cons c t => exact beforeFirst_append hs (ht c rfl)

/-- A text as what comes before a mark and the rest from that on. -/
theorem exists_beforeFirst (p : α → Bool) (s : List α) :
    ∃ t, s = beforeFirst p s ++ t ∧ ∀ c ∈ t.head?, p c = true := by
  refine ⟨s.dropWhile fun c => !p c, List.takeWhile_append_dropWhile.symm, fun c hc => ?_⟩
  have hhead := List.head?_dropWhile_not (fun c => !p c) s
  rw [hc] at hhead
  simpa using hhead

theorem afterFirst_eq_none (hs : ∀ c ∈ s, p c = false) : afterFirst p s = none := by
  have hdrop : s.dropWhile (fun c => !p c) = [] :=
    List.dropWhile_eq_nil_iff.mpr fun c hc => by rw [hs c hc]; rfl
  rw [afterFirst, hdrop]

theorem not_of_mem_beforeFirst (hd : d ∈ beforeFirst p s) : p d = false := by
  simpa using List.mem_takeWhile_imp hd

/-- What stands before and after the first mark, and the mark, are the whole text. -/
theorem exists_of_afterFirst (h : afterFirst p s = some t) :
    ∃ d, p d = true ∧ s = beforeFirst p s ++ d :: t := by
  rw [afterFirst] at h
  have hwhole := List.takeWhile_append_dropWhile (p := fun c => !p c) (l := s)
  have hmark := List.head?_dropWhile_not (fun c => !p c) s
  cases hdrop : s.dropWhile (fun c => !p c) with
  | nil =>
    rw [hdrop] at h
    exact absurd h (by simp)
  | cons d r =>
    rw [hdrop] at h hwhole hmark
    obtain rfl := Option.some.inj h
    exact ⟨d, by simpa using hmark, hwhole.symm⟩

/-! ### Spans

The mark is one character here. -/

section Spans

variable {opening closing : Char} {inner rest : List Char}

theorem beforeFirst_closing (h : closing ∉ inner) (rest : List Char) :
    beforeFirst (· == closing) (inner ++ closing :: rest) = inner :=
  beforeFirst_append (fun _ hc => beq_false_of_ne (ne_of_mem_of_not_mem hc h))
    (beq_self_eq_true closing)

theorem afterFirst_closing (h : closing ∉ inner) (rest : List Char) :
    afterFirst (· == closing) (inner ++ closing :: rest) = some rest :=
  afterFirst_append (fun _ hc => beq_false_of_ne (ne_of_mem_of_not_mem hc h))
    (beq_self_eq_true closing)

theorem afterFirst_unclosed (h : closing ∉ rest) : afterFirst (· == closing) rest = none :=
  afterFirst_eq_none fun _ hc => beq_false_of_ne (ne_of_mem_of_not_mem hc h)

/-- **A text is read span by span.** An opening may have no closing behind it. Where it has one,
what is behind the next closing comes into play, and what is behind the opening. -/
@[elab_as_elim]
theorem spans_induction (opening closing : Char) {motive : List Char → Prop} (nil : motive [])
    (cons : ∀ c r, c ≠ opening → motive r → motive (c :: r))
    (unclosed : ∀ r, closing ∉ r → motive r → motive (opening :: r))
    (closed : ∀ inner rest, closing ∉ inner → motive (inner ++ closing :: rest) → motive rest →
      motive (opening :: (inner ++ closing :: rest)))
    (s : List Char) : motive s := by
  induction hn : s.length using Nat.strong_induction_on generalizing s with
  | _ n ih =>
  cases s with
  | nil => exact nil
  | cons c r =>
    have hr : motive r := ih r.length (by rw [← hn]; exact Nat.lt_succ_self _) r rfl
    by_cases hc : c = opening
    · subst hc
      by_cases hclosing : closing ∈ r
      · obtain ⟨inner, rest, rfl, hinner⟩ := List.eq_append_cons_of_mem hclosing
        simp only [List.length_cons, List.length_append] at hn
        exact closed inner rest hinner hr (ih rest.length (by omega) rest rfl)
      · exact unclosed r hclosing hr
    · exact cons c r hc hr

end Spans

/-! ### All marks -/

theorem splitWhere_cons (hd : p d = true) (t : List α) :
    splitWhere p (d :: t) = [] :: splitWhere p t := by
  rw [splitWhere, if_pos hd]

theorem splitWhere_eq_singleton (hs : ∀ c ∈ s, p c = false) : splitWhere p s = [s] := by
  induction s with
  | nil => rfl
  | cons c r ih =>
    have hc : p c = false := hs c List.mem_cons_self
    rw [splitWhere, ih fun e he => hs e (List.mem_cons_of_mem c he), hc]
    rfl

theorem exists_splitWhere_append (p : α → Bool) (s : List α) : ∃ front r,
    splitWhere p s = front ++ [r] ∧ ∀ t r' back, splitWhere p t = r' :: back →
      splitWhere p (s ++ t) = front ++ (r ++ r') :: back := by
  induction s with
  | nil => exact ⟨[], [], rfl, fun t r' back ht => ht⟩
  | cons c s ih =>
    obtain ⟨front, r, hs, happend⟩ := ih
    cases hc : p c with
    | true =>
      refine ⟨[] :: front, r, ?_, fun t r' back ht => ?_⟩
      · rw [splitWhere, if_pos hc, hs]
        rfl
      · rw [List.cons_append, splitWhere, if_pos hc, happend t r' back ht]
        rfl
    | false =>
      -- the character joins the first piece, which is the last one when it is alone
      cases front with
      | nil =>
        refine ⟨[], c :: r, ?_, fun t r' back ht => ?_⟩
        · rw [splitWhere, hs, hc]
          rfl
        · rw [List.cons_append, splitWhere, happend t r' back ht, hc]
          rfl
      | cons piece front =>
        refine ⟨(c :: piece) :: front, r, ?_, fun t r' back ht => ?_⟩
        · rw [splitWhere, hs, hc]
          rfl
        · rw [List.cons_append, splitWhere, happend t r' back ht, hc]
          rfl

/-- Where two texts meet, the last piece of one and the first piece of the other become one. -/
theorem splitWhere_append_of {front back : List (List α)} (hs : splitWhere p s = front ++ [r])
    {r' : List α} (ht : splitWhere p t = r' :: back) :
    splitWhere p (s ++ t) = front ++ (r ++ r') :: back := by
  obtain ⟨front', last, hs', happend⟩ := exists_splitWhere_append p s
  obtain ⟨rfl, hlast⟩ := List.append_inj' (hs.symm.trans hs') rfl
  rw [happend t r' back ht, ← List.singleton_inj.mp hlast]

theorem splitWhere_append (hs : ∀ c ∈ s, p c = false) (hd : p d = true) :
    splitWhere p (s ++ d :: t) = s :: splitWhere p t := by
  have hfront : splitWhere p s = [] ++ [s] := splitWhere_eq_singleton hs
  rw [splitWhere_append_of hfront (splitWhere_cons hd t), List.append_nil]
  rfl

/-- A text is cut at each mark, whatever stands in front of it. -/
theorem splitWhere_append_cons (s : List α) (hd : p d = true) :
    splitWhere p (s ++ d :: t) = splitWhere p s ++ splitWhere p t := by
  have hfront := List.dropLast_append_getLast (splitWhere_ne_nil p s)
  rw [splitWhere_append_of hfront.symm (splitWhere_cons hd t), List.append_nil, List.append_cons,
    hfront]

/-- **Pieces without marks are what the text is cut into.** -/
theorem splitWhere_joinWith (hne : pieces ≠ []) (hd : p d = true)
    (h : ∀ s ∈ pieces, ∀ c ∈ s, p c = false) : splitWhere p (joinWith [d] pieces) = pieces := by
  induction pieces with
  | nil => exact absurd rfl hne
  | cons s rest ih =>
    have hs := h s List.mem_cons_self
    cases rest with
    | nil => rw [joinWith, splitWhere_eq_singleton hs]
    | cons t rest =>
      rw [joinWith, List.append_assoc, List.singleton_append, splitWhere_append hs hd,
        ih (List.cons_ne_nil t rest) fun u hu => h u (List.mem_cons_of_mem s hu)]

/-- What is in a piece is in the text, and is no mark. -/
theorem mem_and_not_of_mem_splitWhere {c : α} (hs : s ∈ splitWhere p t) (hc : c ∈ s) :
    c ∈ t ∧ p c = false := by
  induction t generalizing s with
  | nil =>
    rw [splitWhere, List.mem_singleton] at hs
    rw [hs] at hc
    exact absurd hc List.not_mem_nil
  | cons e rest ih =>
    have htail : ∀ {s}, s ∈ splitWhere p rest → c ∈ s → c ∈ e :: rest ∧ p c = false :=
      fun hs hc => (ih hs hc).imp_left (List.mem_cons_of_mem e)
    rw [splitWhere] at hs
    split at hs
    · rcases List.mem_cons.mp hs with rfl | hs
      · exact absurd hc List.not_mem_nil
      · exact htail hs hc
    · rename_i he
      split at hs
      · rename_i hnil
        exact absurd hnil (splitWhere_ne_nil p rest)
      · rename_i piece pieces hcons
        rcases List.mem_cons.mp hs with rfl | hs
        · rcases List.mem_cons.mp hc with rfl | hc
          · exact ⟨List.mem_cons_self, by simpa using he⟩
          · exact htail (hcons ▸ List.mem_cons_self) hc
        · exact htail (hcons ▸ List.mem_cons_of_mem piece hs) hc

theorem not_of_mem_splitWhere {c : α} (hs : s ∈ splitWhere p t) (hc : c ∈ s) : p c = false :=
  (mem_and_not_of_mem_splitWhere hs hc).2

theorem mem_of_mem_splitWhere {c : α} (hs : s ∈ splitWhere p t) (hc : c ∈ s) : c ∈ t :=
  (mem_and_not_of_mem_splitWhere hs hc).1

theorem mem_joinWith {c : α} {sep : List α} (h : c ∈ joinWith sep pieces) :
    (∃ s ∈ pieces, c ∈ s) ∨ c ∈ sep := by
  induction pieces with
  | nil => exact absurd h List.not_mem_nil
  | cons s rest ih =>
    cases rest with
    | nil => exact Or.inl ⟨s, List.mem_cons_self, h⟩
    | cons t rest =>
      rw [joinWith, List.mem_append, List.mem_append] at h
      rcases h with (h | h) | h
      · exact Or.inl ⟨s, List.mem_cons_self, h⟩
      · exact Or.inr h
      · rcases ih h with ⟨u, hu, hc⟩ | hc
        · exact Or.inl ⟨u, List.mem_cons_of_mem s hu, hc⟩
        · exact Or.inr hc

/-! ### Piece by piece -/

theorem mapM_eq_some_iff {β : Type} {f : α → Option β} {l : List α} {m : List β} :
    l.mapM f = some m ↔ List.Forall₂ (fun a b => f a = some b) l m := by
  induction l generalizing m with
  | nil =>
    rw [List.forall₂_nil_left_iff, List.mapM_nil]
    exact ⟨fun h => (Option.some.inj h).symm, fun h => h ▸ rfl⟩
  | cons a rest ih =>
    rw [List.mapM_cons, List.forall₂_cons_left_iff]
    constructor
    · intro h
      obtain ⟨b, hb, h⟩ := Option.bind_eq_some_iff.mp h
      obtain ⟨m', hm, h⟩ := Option.bind_eq_some_iff.mp h
      exact ⟨b, m', hb, ih.mp hm, (Option.some.inj h).symm⟩
    · rintro ⟨b, m', hb, hm, rfl⟩
      rw [hb, ih.mpr hm]
      rfl

theorem exists_of_mem_mapM {β : Type} {f : α → Option β} {l : List α} {m : List β}
    (h : l.mapM f = some m) {b : β} (hb : b ∈ m) : ∃ a ∈ l, f a = some b := by
  rw [mapM_eq_some_iff] at h
  induction h with
  | nil => exact absurd hb List.not_mem_nil
  | @cons a b' l m hab _ ih =>
    rcases List.mem_cons.mp hb with rfl | hb
    · exact ⟨a, List.mem_cons_self, hab⟩
    · obtain ⟨a', ha', hab'⟩ := ih hb
      exact ⟨a', List.mem_cons_of_mem a ha', hab'⟩

/-- What is written piece by piece is read piece by piece. -/
theorem mapM_map {β : Type} {f : α → Option β} {g : β → α} {l : List β}
    (h : ∀ b ∈ l, f (g b) = some b) : (l.map g).mapM f = some l := by
  rw [mapM_eq_some_iff, List.forall₂_map_left_iff, List.forall₂_same]
  exact h

/-! ### Both ends -/

theorem dropTailWhile_eq_rdropWhile (p : α → Bool) (s : List α) :
    dropTailWhile p s = s.rdropWhile p := by
  induction s using List.reverseRecOn with
  | nil => rfl
  | append_singleton s c ih =>
    rw [List.rdropWhile_concat, ← ih]
    clear ih
    induction s with
    | nil => cases hc : p c <;> simp [dropTailWhile, hc]
    | cons e r ih =>
      rw [List.cons_append, dropTailWhile, ih]
      cases hc : p c with
      | true => rw [if_pos rfl, if_pos rfl, dropTailWhile]
      | false => simp

/-- Nothing is dropped in front of what is kept. -/
theorem dropTailWhile_append_cons (hd : p d = false) :
    dropTailWhile p (s ++ d :: t) = s ++ d :: dropTailWhile p t := by
  induction s with
  | nil =>
    rw [List.nil_append, dropTailWhile]
    cases dropTailWhile p t with
    | nil => rw [hd]; rfl
    | cons e r => rfl
  | cons c s ih =>
    rw [List.cons_append, dropTailWhile, ih]
    cases s <;> rfl

theorem dropTailWhile_append (hs : ∀ c ∈ s, p c = false) :
    dropTailWhile p (s ++ t) = s ++ dropTailWhile p t := by
  induction s with
  | nil => rfl
  | cons c s ih =>
    rw [List.cons_append, ← List.nil_append (c :: (s ++ t)),
      dropTailWhile_append_cons (hs c List.mem_cons_self),
      ih fun e he => hs e (List.mem_cons_of_mem c he)]
    rfl

theorem dropTailWhile_subset (p : α → Bool) (s : List α) : dropTailWhile p s ⊆ s := by
  rw [dropTailWhile_eq_rdropWhile]
  exact (List.rdropWhile_prefix p s).subset

theorem trimWhere_eq_self (hs : ∀ c ∈ s, p c = false) : trimWhere p s = s := by
  have hdrop : s.dropWhile p = s := by
    cases s with
    | nil => rfl
    | cons c r => rw [List.dropWhile_cons, hs c List.mem_cons_self]; rfl
  rw [trimWhere, hdrop, dropTailWhile_eq_rdropWhile, List.rdropWhile_eq_self_iff]
  intro hne h
  exact absurd h (by rw [hs _ (List.getLast_mem hne)]; exact Bool.false_ne_true)

/-- A text as what is trimmed at its ends and what is left. -/
theorem exists_trimWhere (p : α → Bool) (s : List α) : ∃ l r,
    s = l ++ (trimWhere p s ++ r) ∧ (∀ c ∈ l, p c = true) ∧ ∀ c ∈ r, p c = true := by
  refine ⟨s.takeWhile p, (s.dropWhile p).rtakeWhile p, ?_, fun c hc => List.mem_takeWhile_imp hc,
    fun c hc => List.mem_rtakeWhile_imp hc⟩
  rw [trimWhere, dropTailWhile_eq_rdropWhile, List.rdropWhile_append_rtakeWhile,
    List.takeWhile_append_dropWhile]

/-! ### A fixed start -/

theorem stripStart_append (s t : List Char) : stripStart s (s ++ t) = some t := by
  rw [stripStart, if_pos (List.isPrefixOf_iff_prefix.mpr (List.prefix_append s t)),
    List.drop_left]

theorem eq_append_of_stripStart {start s t : List Char} (h : stripStart start s = some t) :
    s = start ++ t := by
  rw [stripStart] at h
  split at h
  · rename_i hp
    obtain ⟨u, rfl⟩ := List.isPrefixOf_iff_prefix.mp hp
    rw [List.drop_left] at h
    rw [Option.some.inj h]
  · exact absurd h (Option.some_ne_none t).symm

/-! ### Somewhere in a text -/

theorem occursIn_iff {needle s : List Char} : occursIn needle s = true ↔ needle <:+: s := by
  induction s with
  | nil => rw [occursIn, List.isEmpty_iff, List.infix_nil]
  | cons c r ih =>
    rw [occursIn, Bool.or_eq_true, List.isPrefixOf_iff_prefix, ih, List.infix_cons_iff]

end Metasearch.Text

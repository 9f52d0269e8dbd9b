import Metasearch.Proofs.Ranking

/-!
# The order of a ranking

A ranking is told by two things: scores fall along it, and the records of one score are in the order
in which they were delivered. No other list has both, so nothing more is to be said about the way in
which records are sorted, and whatever leaves both alone, as leaving records out does, can be done
before sorting or after it.

Comparing scores needs numbers. A finite relevance is one, and weights are assumed to be.

## Main definitions

* `Record.level`: the integer by which a record is ordered.
* `IsRanking`: one list is the ranking of another one.

## Main results

* `IsRanking.eq_of_isRanking`: a ranking is unique.
* `isRanking_sorted`, `sorted_filter`.
* `Ranking.rank_eq_take`: a limit cuts the one ranking that there is.
-/

namespace Metasearch

open Metasearch.Text

/-! ### Scores as numbers -/

namespace Double

variable {x y : Double}

theorem less_iff (hx : x.isNaN = false) (hy : y.isNaN = false) :
    x.less y = true ↔ x.rank < y.rank := by
  simp [less, hx, hy]

theorem isNaN_of_isFinite (h : x.isFinite = true) : x.isNaN = false := by
  simp only [isFinite, isNaN, decide_eq_true_eq, decide_eq_false_iff_not] at h ⊢
  omega

end Double

/-- The integer by which a record is ordered. -/
def Record.level (r : Record) : Int :=
  r.score.rank

variable {l m m' : List Record} {r x : Record} {p : Record → Bool}

/-! ### What a ranking is -/

theorem filter_level_cons_of_eq {v : Int} (h : r.level = v) :
    ((r :: l).filter fun r => r.level = v) = r :: l.filter fun r => r.level = v :=
  List.filter_cons_of_pos (decide_eq_true h)

theorem filter_level_cons_of_ne {v : Int} (h : r.level ≠ v) :
    ((r :: l).filter fun r => r.level = v) = l.filter fun r => r.level = v :=
  List.filter_cons_of_neg (by simpa using h)

/-- The list `m` is the ranking of the list `l`. -/
structure IsRanking (l m : List Record) : Prop where
  /-- Scores fall. -/
  falling : m.Pairwise fun a b => b.level ≤ a.level
  /-- Records of equal score keep their order. -/
  stable : ∀ v : Int, (m.filter fun r => r.level = v) = l.filter fun r => r.level = v

theorem isRanking_nil : IsRanking [] [] :=
  ⟨List.Pairwise.nil, fun _ => rfl⟩

namespace IsRanking

theorem mem_iff (h : IsRanking l m) : x ∈ m ↔ x ∈ l := by
  have hfilter := h.stable x.level
  have hmem : ∀ s : List Record, x ∈ s ↔ x ∈ s.filter fun r => r.level = x.level := by
    intro s
    simp
  rw [hmem m, hfilter, ← hmem l]

/-- What stands first is above what stands first in another ranking of the same records. -/
theorem level_le {a b : Record} (h : IsRanking l (a :: m)) (h' : IsRanking l (b :: m')) :
    b.level ≤ a.level := by
  have hb : b ∈ a :: m := h.mem_iff.mpr (h'.mem_iff.mp List.mem_cons_self)
  rcases List.mem_cons.mp hb with rfl | hb
  · exact Int.le_refl _
  · exact List.rel_of_pairwise_cons h.falling hb

/-- **A ranking is unique.** -/
theorem eq_of_isRanking (h : IsRanking l m) (h' : IsRanking l m') : m = m' := by
  induction m generalizing l m' with
  | nil =>
    refine (List.eq_nil_iff_forall_not_mem.mpr fun x hx => ?_).symm
    exact List.not_mem_nil (h.mem_iff.mpr (h'.mem_iff.mp hx))
  | cons a m ih =>
    cases m' with
    | nil => exact absurd (h'.mem_iff.mpr (h.mem_iff.mp List.mem_cons_self)) List.not_mem_nil
    | cons b m' =>
      have hlevel : b.level = a.level := Int.le_antisymm (h.level_le h') (h'.level_le h)
      -- the first ones have one score, and of that score they are the first
      have hhead := (h.stable a.level).trans (h'.stable a.level).symm
      rw [filter_level_cons_of_eq rfl, filter_level_cons_of_eq hlevel] at hhead
      obtain ⟨rfl, -⟩ := List.cons.inj hhead
      refine congrArg (a :: ·) (ih ⟨h.falling.tail, fun v => rfl⟩ ⟨h'.falling.tail, fun v => ?_⟩)
      have htail := (h'.stable v).trans (h.stable v).symm
      by_cases hv : a.level = v
      · rw [filter_level_cons_of_eq hv, filter_level_cons_of_eq hv] at htail
        exact (List.cons.inj htail).2
      · rw [filter_level_cons_of_ne hv, filter_level_cons_of_ne hv] at htail
        exact htail

/-- Records can be left out before ranking or after it. -/
theorem filter (h : IsRanking l m) (p : Record → Bool) : IsRanking (l.filter p) (m.filter p) := by
  refine ⟨h.falling.filter p, fun v => ?_⟩
  rw [List.filter_comm, h.stable v, List.filter_comm]

end IsRanking

/-! ### Putting records in order -/

/-- A record goes behind those that do not score less and before those that do. -/
theorem exists_placed (hm : ∀ x ∈ m, x.score.isNaN = false) (hr : r.score.isNaN = false)
    (hfalling : m.Pairwise fun a b => b.level ≤ a.level) : ∃ front back, m = front ++ back ∧
      placed m r = front ++ r :: back ∧ (∀ x ∈ front, r.level ≤ x.level) ∧
      ∀ x ∈ back, x.level < r.level := by
  let less (x : Record) : Bool := x.score.less r.score
  have hsplit : m.rdropWhile less ++ m.rtakeWhile less = m :=
    List.rdropWhile_append_rtakeWhile
  have hless : ∀ x ∈ m, less x = true ↔ x.level < r.level := fun x hx =>
    Double.less_iff (hm x hx) hr
  refine ⟨m.rdropWhile less, m.rtakeWhile less, hsplit.symm, ?_, ?_, ?_⟩
  · rw [placed, dropTailWhile_eq_rdropWhile]
    exact congrArg (_ ++ r :: ·) ((congrArg (List.drop _) hsplit.symm).trans (List.drop_left ..))
  · intro x hx
    have hne : m.rdropWhile less ≠ [] := List.ne_nil_of_mem hx
    have hlast := (List.rdropWhile_prefix less m).subset (List.getLast_mem hne)
    have hle : r.level ≤ ((m.rdropWhile less).getLast hne).level :=
      Int.not_lt.mp fun h => List.rdropWhile_last_not less m hne ((hless _ hlast).mpr h)
    have hfront := hfalling.sublist (List.rdropWhile_prefix less m).sublist
    rw [← List.dropLast_append_getLast hne] at hx hfront
    rcases List.mem_append.mp hx with hx | hx
    · exact Int.le_trans hle
        ((List.pairwise_append.mp hfront).2.2 x hx _ (List.mem_singleton_self _))
    · rw [List.mem_singleton.mp hx]
      exact hle
  · intro x hx
    exact (hless x ((List.rtakeWhile_suffix less m).subset hx)).mp (List.mem_rtakeWhile_imp hx)

/-- One more record is ranked below those that were there before and score as much. -/
theorem IsRanking.placed (h : IsRanking l m) (hl : ∀ x ∈ l, x.score.isNaN = false)
    (hr : r.score.isNaN = false) : IsRanking (l ++ [r]) (placed m r) := by
  have hm : ∀ x ∈ m, x.score.isNaN = false := fun x hx => hl x (h.mem_iff.mp hx)
  obtain ⟨front, back, hsplit, hplaced, hfront, hback⟩ := exists_placed hm hr h.falling
  obtain ⟨hpf, hpb, hcross⟩ := List.pairwise_append.mp (hsplit ▸ h.falling)
  rw [hplaced]
  refine ⟨List.pairwise_append.mpr ⟨hpf, List.pairwise_cons.mpr ⟨?_, hpb⟩, ?_⟩, ?_⟩
  · exact fun x hx => Int.le_of_lt (hback x hx)
  · intro x hx y hy
    rcases List.mem_cons.mp hy with rfl | hy
    · exact hfront x hx
    · exact hcross x hx y hy
  · intro v
    rw [List.filter_append l, ← h.stable v, hsplit, List.filter_append, List.filter_append,
      List.append_assoc]
    refine (List.append_right_inj _).mpr ?_
    by_cases hv : r.level = v
    · have hnil : (back.filter fun x => x.level = v) = [] := by
        refine List.filter_eq_nil_iff.mpr fun x hx hxv => ?_
        exact Int.ne_of_lt (hback x hx) ((of_decide_eq_true hxv).trans hv.symm)
      rw [filter_level_cons_of_eq hv, filter_level_cons_of_eq hv, hnil]
      rfl
    · rw [filter_level_cons_of_ne hv, filter_level_cons_of_ne hv, List.filter_nil, List.append_nil]

theorem IsRanking.foldl_placed {done : List Record} (h : IsRanking done m)
    (hdone : ∀ x ∈ done, x.score.isNaN = false) (hl : ∀ x ∈ l, x.score.isNaN = false) :
    IsRanking (done ++ l) (l.foldl Metasearch.placed m) := by
  induction l generalizing done m with
  | nil => rwa [List.append_nil]
  | cons r l ih =>
    have hr := hl r List.mem_cons_self
    have hdone' : ∀ x ∈ done ++ [r], x.score.isNaN = false := by
      intro x hx
      rcases List.mem_append.mp hx with hx | hx
      · exact hdone x hx
      · rwa [List.mem_singleton.mp hx]
    have hstep := ih (h.placed hdone hr) hdone' fun x hx => hl x (List.mem_cons_of_mem r hx)
    rwa [List.append_assoc, List.singleton_append] at hstep

/-- **Sorting ranks.** -/
theorem isRanking_sorted (hl : ∀ x ∈ l, x.score.isNaN = false) : IsRanking l (sorted l) :=
  isRanking_nil.foldl_placed (fun _ h => absurd h List.not_mem_nil) hl

/-- Records can be left out before sorting or after it. -/
theorem sorted_filter (hl : ∀ x ∈ l, x.score.isNaN = false) (p : Record → Bool) :
    sorted (l.filter p) = (sorted l).filter p := by
  have hsome : ∀ x ∈ l.filter p, x.score.isNaN = false := fun x hx =>
    hl x (List.mem_filter.mp hx).1
  exact (isRanking_sorted hsome).eq_of_isRanking ((isRanking_sorted hl).filter p)

/-! ### The cut -/

namespace Ranking

variable {k : Ranking} {source : String}

theorem weight_eq_getD_lookup (k : Ranking) (source : String) :
    k.weight source = (k.weights.lookup source).getD (Double.ofNat false 1) := by
  have hlookup : (k.weights.find? fun w => w.1 == source).map Prod.snd =
      k.weights.lookup source := by
    induction k.weights with
    | nil => rfl
    | cons w rest ih =>
      rw [List.find?_cons, List.lookup_cons, BEq.comm]
      cases source == w.1 with
      | true => rfl
      | false => exact ih
  rw [weight, hlookup]
  rfl

/-- Sources whose weight is not told have one that is a number. -/
theorem isNaN_weight (h : ∀ w ∈ k.weights, w.2.isNaN = false) (source : String) :
    (k.weight source).isNaN = false := by
  rw [weight]
  cases hfind : k.weights.find? fun w => w.1 == source with
  | none => exact (by decide : Source.standardWeight.isNaN = false)
  | some w => exact h w (List.mem_of_find?_eq_some hfind)

theorem isNaN_score (hk : ∀ source, (k.weight source).isNaN = false) (r : Record) :
    (k.score r).isNaN = false := by
  rw [score]
  split
  · rename_i x hx
    exact Double.isNaN_of_isFinite (Option.filter_eq_some_iff.mp hx).2
  · exact hk r.source

theorem isNaN_of_mem_scored (hk : ∀ source, (k.weight source).isNaN = false) :
    ∀ x ∈ l.map k.scored, x.score.isNaN = false := by
  intro x hx
  obtain ⟨r, -, rfl⟩ := List.mem_map.mp hx
  exact isNaN_score hk r

theorem isRanking_ordered (hk : ∀ source, (k.weight source).isNaN = false)
    (records : List Record) : IsRanking ((unique records).map k.scored) (k.ordered records) :=
  isRanking_sorted (isNaN_of_mem_scored hk)

/-- **A limit cuts the one ranking that there is.** The score of a record is its relevance if that
is finite, or else the weight of its source, which is 1 unless it is told. Let all weights be
numbers. Then scores fall along the ranking of the different records, and equal scores keep the
order of the records. Whatever the limit, as many records as it says are kept from the front of the
ranking, and all of them are counted. So a lower limit keeps the front of what a higher one keeps,
and counts as many. -/
theorem rank_eq_take (k : Ranking) (records : List Record)
    (hk : ∀ source, (k.weight source).isNaN = false) :
    let scored := (unique records).map fun r => { r with
      score := (r.relevance.filter Double.isFinite).getD
        ((k.weights.lookup r.source).getD (Double.ofNat false 1)) }
    let ranked (limit : Nat) := (k.withLimit limit).rank records
    ∃ all : List Record, all.Perm scored ∧ (∀ x ∈ all, x.score.isNaN = false) ∧
      IsRanking scored all ∧ (∀ other, IsRanking scored other → other = all) ∧
      (∀ n, (ranked n).records = all.take n ∧ (ranked n).total = (unique records).length) ∧
      ∀ n m, n ≤ m → (ranked n).records <+: (ranked m).records ∧
        (ranked n).total = (ranked m).total := by
  intro scored ranked
  have hscored : scored = (unique records).map k.scored := by
    refine List.map_congr_left fun r _ => ?_
    rw [Ranking.scored, score_eq_getD, weight_eq_getD_lookup]
  have hperm : (k.ordered records).Perm scored := by
    rw [hscored]
    exact k.ordered_perm records
  have hranking : IsRanking scored (k.ordered records) := by
    rw [hscored]
    exact isRanking_ordered hk records
  have hnumbers : ∀ x ∈ k.ordered records, x.score.isNaN = false := by
    intro x hx
    exact isNaN_of_mem_scored hk x ((k.ordered_perm records).mem_iff.mp hx)
  have htotal : ∀ n, (ranked n).total = (unique records).length := by
    intro n
    rw [← List.length_map k.scored]
    exact (k.ordered_perm records).length_eq
  refine ⟨k.ordered records, hperm, hnumbers, hranking,
    fun other hother => hother.eq_of_isRanking hranking, fun n => ⟨rfl, htotal n⟩, ?_⟩
  intro n m hnm
  exact ⟨List.take_prefix_take_left hnm, (htotal n).trans (htotal m).symm⟩

/-- A relevance that is not finite, ties between sources, and a page that is brought twice. -/
theorem rank_eq_take_ties :
    let k := standard.withWeight "b" (Double.infinity true)
    let record (path source : String) (relevance : Option Double) : Record :=
      { Record.make ("http://1.2.3.4/" ++ path) "" "" with source, relevance }
    let records := [record "1" "b" none, record "2" "a" (some (Double.infinity false)),
      record "1/" "a" none, record "3" "b" (some (Double.ofNat false 1)), record "4" "c" none]
    let ranked (limit : Nat) := (k.withLimit limit).rank records
    (∀ source, (k.weight source).isNaN = false) ∧
      (ranked 9).records.map Record.url =
        ["http://1.2.3.4/2", "http://1.2.3.4/3", "http://1.2.3.4/4", "http://1.2.3.4/1"] ∧
      (ranked 2).records <+: (ranked 9).records ∧ (ranked 0).total = 4 := by
  intro k record records ranked
  have hk : ∀ source, (k.weight source).isNaN = false := isNaN_weight (by decide)
  obtain ⟨all, -, -, -, -, htake, hcut⟩ := rank_eq_take k records hk
  have hurls : (ranked 9).records.map Record.url =
      ["http://1.2.3.4/2", "http://1.2.3.4/3", "http://1.2.3.4/4", "http://1.2.3.4/1"] := by
    decide +kernel
  have hunique : (unique records).length = 4 := by decide +kernel
  exact ⟨hk, hurls, (hcut 2 9 (by decide)).1, (htake 0).2.trans hunique⟩

end Ranking
end Metasearch

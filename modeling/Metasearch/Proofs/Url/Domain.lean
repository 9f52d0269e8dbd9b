import Metasearch.Proofs.Text.Ascii
import Metasearch.Proofs.Text.Pieces
import Metasearch.Url.Domain

/-!
# The form of a form

A name in its ASCII form is read without a look at any table: an ASCII character has no marks and is
no mark, and it stands for itself unless it is a capital, which the form has none of. So a second
pass comes down to the labels. A label in Punycode is trusted only if it is what its text is written
as, and that is the test which the second pass makes.

## Main results

* `toAscii?_ascii`: the ASCII form is its own ASCII form.
* `toAscii?_of_plain`: so is a plain name.
* `forall_mem_of_toAscii?`: the characters of an ASCII form.
-/

namespace Metasearch.Url.Domain

open Metasearch.Text

variable {c : Char} {s label name r : List Char} {l : Label}

/-! ### ASCII without tables -/

theorem classOf_of_ascii (h : c.toNat < 0x80) : classOf c = 0 := by
  rw [classOf, if_pos h]

theorem parts_of_ascii (h : c.toNat < 0x80) : parts c = [c] := by
  rw [parts, split?, if_pos h]

theorem join?_of_ascii (letter : Char) (h : c.toNat < 0x80) : join? letter c = none := by
  rw [join?, if_pos h]

theorem place_of_ascii (h : c.toNat < 0x80) (done : List Char) : place c done = c :: done := by
  cases done with
  | nil => rfl
  | cons d r => rw [place, classOf_of_ascii h, if_neg fun hc => Nat.lt_irrefl 0 hc.1]

theorem ordered_of_ascii (h : ∀ c ∈ s, c.toNat < 0x80) : ordered s = s := by
  have hfold : ∀ done, s.foldl (fun done c => place c done) done = s.reverse ++ done := by
    induction s with
    | nil => exact fun _ => rfl
    | cons c r ih =>
      intro done
      rw [List.foldl_cons, place_of_ascii (h c List.mem_cons_self),
        ih fun d hd => h d (List.mem_cons_of_mem c hd), List.reverse_cons, List.append_assoc]
      rfl
  rw [ordered, hfold, List.append_nil, List.reverse_reverse]

theorem joinFrom_of_ascii (letter : Char) (h : ∀ c ∈ s, c.toNat < 0x80) :
    joinFrom letter [] s = letter :: s := by
  induction s generalizing letter with
  | nil => rfl
  | cons c r ih =>
    have hc := h c List.mem_cons_self
    rw [joinFrom]
    simp only [if_true, join?_of_ascii letter hc, classOf_of_ascii hc,
      ih c fun d hd => h d (List.mem_cons_of_mem c hd)]
    rfl

/-- An ASCII text is composed. -/
theorem composed_of_ascii (h : ∀ c ∈ s, c.toNat < 0x80) : composed s = s := by
  have hparts : s.flatMap parts = s := by
    induction s with
    | nil => rfl
    | cons c r ih =>
      rw [List.flatMap_cons, parts_of_ascii (h c List.mem_cons_self),
        ih fun d hd => h d (List.mem_cons_of_mem c hd)]
      rfl
  rw [composed, hparts, ordered_of_ascii h]
  cases s with
  | nil => rfl
  | cons c r => exact joinFrom_of_ascii c fun d hd => h d (List.mem_cons_of_mem c hd)

theorem isRightToLeft_of_ascii (h : c.toNat < 0x80) : isRightToLeft c = false := by
  rw [isRightToLeft, directionOf, if_pos h]
  split
  · rfl
  · split <;> rfl

/-- Small ASCII letters, digits and other marks stand for themselves. -/
theorem mapM_mapChar?_of_ascii (h : ∀ c ∈ s, c.toNat < 0x80 ∧ c.isUpper = false) :
    s.mapM mapChar? = some (s.map fun c => [c]) := by
  rw [mapM_eq_some_iff, List.forall₂_map_right_iff, List.forall₂_same]
  intro c hc
  obtain ⟨hascii, hupper⟩ := h c hc
  rw [mapChar?_of_ascii hascii, toLower_eq_self hupper]

/-! ### Punycode has no dots -/

theorem digitChar_ne_dot {d : Nat} (h : d < 36) : Punycode.digitChar d ≠ '.' :=
  (by decide : ∀ e < 36, Punycode.digitChar e ≠ '.') d h

theorem ne_dot_of_mem_digits {bias k q : Nat} (h : c ∈ Punycode.digits bias k q) : c ≠ '.' := by
  fun_induction Punycode.digits bias k q with
  | case1 k q t hq =>
    have ht : t ≤ 26 := Punycode.threshold_le k bias
    rw [List.mem_singleton.mp h]
    exact digitChar_ne_dot (by omega)
  | case2 k q t hq ih =>
    have ht : t ≤ 26 := Punycode.threshold_le k bias
    rcases List.mem_cons.mp h with rfl | h
    · have hmod : (q - t) % (36 - t) < 36 - t := Nat.mod_lt _ (by omega)
      exact digitChar_ne_dot (by omega)
    · exact ih h

theorem ne_dot_of_mem_passChar {basic n : Nat} {p : Punycode.Progress} (d : Char)
    (hp : ∀ c ∈ p.output, c ≠ '.') : ∀ c ∈ (Punycode.passChar basic n p d).output, c ≠ '.' := by
  rw [Punycode.passChar]
  split
  · exact hp
  · split
    · intro c hc
      rcases List.mem_append.mp hc with hc | hc
      · exact hp c hc
      · exact ne_dot_of_mem_digits hc
    · exact hp

theorem ne_dot_of_mem_insertAll {basic n : Nat} {todo : List Nat} {p : Punycode.Progress}
    (label : List Char) (hp : ∀ c ∈ p.output, c ≠ '.') :
    ∀ c ∈ (Punycode.insertAll label basic todo n p).output, c ≠ '.' := by
  induction todo generalizing n p with
  | nil => exact hp
  | cons m rest ih =>
    refine ih ?_
    have hfold : ∀ (l : List Char) (q : Punycode.Progress), (∀ c ∈ q.output, c ≠ '.') →
        ∀ c ∈ (l.foldl (Punycode.passChar basic m) q).output, c ≠ '.' := by
      intro l
      induction l with
      | nil => exact fun _ hq => hq
      | cons d l ihl => exact fun q hq => ihl _ (ne_dot_of_mem_passChar d hq)
    exact hfold label _ hp

theorem ne_dot_of_mem_encode (h : ∀ c ∈ label, c ≠ '.') : ∀ c ∈ Punycode.encode label, c ≠ '.' := by
  intro c hc
  rw [Punycode.encode] at hc
  rcases List.mem_append.mp hc with hc | hc
  · split at hc
    · exact absurd hc List.not_mem_nil
    · rcases List.mem_append.mp hc with hc | hc
      · exact h c (List.mem_of_mem_filter hc)
      · rw [List.mem_singleton.mp hc]
        decide
  · exact ne_dot_of_mem_insertAll label (fun _ h => absurd h List.not_mem_nil) c hc

theorem ascii_of_decode? {code : List Char} (h : Punycode.decode? code = some s) :
    ∀ c ∈ code, c.toNat < 0x80 := by
  rw [Punycode.decode?] at h
  split at h
  · rename_i hall
    exact fun c hc => of_decide_eq_true (List.all_eq_true.mp hall c hc)
  · exact absurd h (Option.some_ne_none s).symm

/-! ### Labels -/

theorem ascii_mark (c : Char) (hc : c ∈ mark) : c.toNat < 0x80 := by
  have hall : (mark.all fun c => c.toNat < 0x80) = true := by decide
  exact of_decide_eq_true (List.all_eq_true.mp hall c hc)

theorem ne_dot_mark (c : Char) (hc : c ∈ mark) : c ≠ '.' := by
  have hall : (mark.all fun c => c != '.') = true := by decide
  exact bne_iff_ne.mp (List.all_eq_true.mp hall c hc)

/-- What a label is written as: itself if it is ASCII, and Punycode otherwise. -/
theorem ofText?_cases (h : Label.ofText? label = some l) :
    (l.ascii = label ∧ ∀ c ∈ label, c.toNat < 0x80) ∨
      (stripStart mark label = none ∧ l = ⟨label, mark ++ Punycode.encode label⟩ ∧
        isSettled label = true ∧ Punycode.decode? (Punycode.encode label) = some label ∧
        label.any (fun c => 0x80 ≤ c.toNat) = true) := by
  rw [Label.ofText?] at h
  split at h
  · rename_i code hstrip
    split at h
    · exact absurd h (Option.some_ne_none l).symm
    · rename_i s hdecode
      split at h
      · obtain rfl := Option.some.inj h
        refine Or.inl ⟨rfl, ?_⟩
        rw [eq_append_of_stripStart hstrip]
        intro c hc
        rcases List.mem_append.mp hc with hc | hc
        · exact ascii_mark c hc
        · exact ascii_of_decode? hdecode c hc
      · exact absurd h (Option.some_ne_none l).symm
  · rename_i hstrip
    split at h
    · rename_i hall
      obtain rfl := Option.some.inj h
      exact Or.inl ⟨rfl, fun c hc => of_decide_eq_true (List.all_eq_true.mp hall c hc)⟩
    · rename_i hall
      dsimp only at h
      split at h
      · rename_i hok
        rw [Bool.and_eq_true] at hok
        refine Or.inr ⟨hstrip, (Option.some.inj h).symm, hok.1, eq_of_beq hok.2, ?_⟩
        simpa using hall
      · exact absurd h (Option.some_ne_none l).symm

theorem ascii_of_ofText? (h : Label.ofText? label = some l) : ∀ c ∈ l.ascii, c.toNat < 0x80 := by
  rcases ofText?_cases h with ⟨heq, hascii⟩ | ⟨-, rfl, -, hdecode, -⟩
  · rw [heq]
    exact hascii
  · intro c hc
    rcases List.mem_append.mp hc with hc | hc
    · exact ascii_mark c hc
    · exact ascii_of_decode? hdecode c hc

theorem ne_dot_of_ofText? (h : Label.ofText? label = some l) (hl : ∀ c ∈ label, c ≠ '.') :
    ∀ c ∈ l.ascii, c ≠ '.' := by
  rcases ofText?_cases h with ⟨heq, -⟩ | ⟨-, rfl, -, -, -⟩
  · rw [heq]
    exact hl
  · intro c hc
    rcases List.mem_append.mp hc with hc | hc
    · exact ne_dot_mark c hc
    · exact ne_dot_of_mem_encode hl c hc

/-- **A label is read back from its ASCII form.** -/
theorem ofText?_ascii (h : Label.ofText? label = some l) : Label.ofText? l.ascii = some l := by
  rcases ofText?_cases h with ⟨heq, -⟩ | ⟨-, rfl, hsettled, hdecode, hany⟩
  · rw [heq, h]
  · rw [Label.ofText?, stripStart_append]
    simp only [hdecode, hsettled, hany, beq_self_eq_true, Bool.and_self, if_true]

/-! ### Names -/

/-- What a name in its ASCII form is made of. -/
theorem toAscii?_eq_some (h : toAscii? name = some r) :
    ∃ labels : List Label, labels ≠ [] ∧ r = joinWith ['.'] (labels.map Label.ascii) ∧
      (∀ l ∈ labels, Label.ofText? l.ascii = some l) ∧
      (∀ l ∈ labels, ∀ c ∈ l.ascii, c.toNat < 0x80 ∧ c ≠ '.') ∧
      areOneWay labels = true ∧ r.any isForbidden = false := by
  obtain ⟨mapped, -, h⟩ := Option.bind_eq_some_iff.mp h
  obtain ⟨labels, hlabels, h⟩ := Option.bind_eq_some_iff.mp h
  dsimp only at h
  split at h
  · exact absurd h (Option.some_ne_none r).symm
  · rename_i hok
    obtain rfl := Option.some.inj h
    rw [Bool.not_eq_true, Bool.or_eq_false_iff, Bool.not_eq_false'] at hok
    refine ⟨labels, ?_, rfl, ?_, ?_, hok.1, hok.2⟩
    · rintro rfl
      rw [mapM_eq_some_iff, List.forall₂_nil_right_iff] at hlabels
      exact splitWhere_ne_nil _ _ hlabels
    · intro l hl
      obtain ⟨label, -, hlabel⟩ := exists_of_mem_mapM hlabels hl
      exact ofText?_ascii hlabel
    · intro l hl c hc
      obtain ⟨label, hmem, hlabel⟩ := exists_of_mem_mapM hlabels hl
      refine ⟨ascii_of_ofText? hlabel c hc, ne_dot_of_ofText? hlabel ?_ c hc⟩
      exact fun c hc => by simpa using not_of_mem_splitWhere hmem hc

theorem isUpper_of_not_isForbidden (h : isForbidden c = false) : c.isUpper = false := by
  simp only [isForbidden, Bool.or_eq_false_iff] at h
  exact h.1.2

/-- The characters of a name in its ASCII form. -/
theorem forall_mem_of_toAscii? (h : toAscii? name = some r) :
    ∀ c ∈ r, c.toNat < 0x80 ∧ isForbidden c = false := by
  obtain ⟨labels, -, rfl, -, hchars, -, hforbidden⟩ := toAscii?_eq_some h
  intro c hc
  refine ⟨?_, by simpa using List.any_eq_false.mp hforbidden c hc⟩
  rcases mem_joinWith hc with ⟨s, hs, hc⟩ | hc
  · obtain ⟨l, hl, rfl⟩ := List.mem_map.mp hs
    exact (hchars l hl c hc).1
  · rw [List.mem_singleton.mp hc]
    decide

/-- A name is read label by label when no table is needed for it. -/
theorem toAscii?_of_labels {labels : List Label} (hr : ∀ c ∈ r, c.toNat < 0x80)
    (hok : r.any isForbidden = false) (hread : (splitWhere (· == '.') r).mapM Label.ofText? =
      some labels) (hwrite : joinWith ['.'] (labels.map Label.ascii) = r)
    (hway : areOneWay labels = true) : toAscii? r = some r := by
  have hupper : ∀ c ∈ r, c.toNat < 0x80 ∧ c.isUpper = false := fun c hc =>
    ⟨hr c hc, isUpper_of_not_isForbidden (by simpa using List.any_eq_false.mp hok c hc)⟩
  have hflat : (r.map fun c => [c]).flatten = r := by
    rw [← List.flatMap_def, List.flatMap_singleton']
  rw [toAscii?, mapM_mapChar?_of_ascii hupper, Option.bind_eq_bind, Option.bind_some, hflat,
    composed_of_ascii hr]
  simp only [hread, Option.bind_eq_bind, Option.bind_some, hwrite, hway, hok]
  rfl

/-- **The ASCII form is its own ASCII form.** -/
theorem toAscii?_ascii (h : toAscii? name = some r) : toAscii? r = some r := by
  have hr : ∀ c ∈ r, c.toNat < 0x80 := fun c hc => (forall_mem_of_toAscii? h c hc).1
  obtain ⟨labels, hne, rfl, hread, hchars, hway, hok⟩ := toAscii?_eq_some h
  refine toAscii?_of_labels hr hok ?_ rfl hway
  rw [splitWhere_joinWith (p := (· == '.')) (by simpa using hne) rfl]
  · exact mapM_map hread
  · intro s hs c hc
    obtain ⟨l, hl, rfl⟩ := List.mem_map.mp hs
    exact beq_false_of_ne (hchars l hl c hc).2

/-- **A plain name is its own ASCII form**: ASCII without capitals, no label of which looks like
Punycode. -/
theorem toAscii?_of_plain (hr : ∀ c ∈ r, c.toNat < 0x80) (hok : r.any isForbidden = false)
    (hplain : ∀ s ∈ splitWhere (· == '.') r, stripStart mark s = none) :
    toAscii? r = some r := by
  have hread : ∀ s ∈ splitWhere (· == '.') r, Label.ofText? s = some ⟨s, s⟩ := by
    intro s hs
    have hall : (s.all fun c => c.toNat < 0x80) = true :=
      List.all_eq_true.mpr fun c hc => decide_eq_true (hr c (mem_of_mem_splitWhere hs hc))
    rw [Label.ofText?, hplain s hs]
    simp only [hall, if_true]
  have hall : (splitWhere (· == '.') r).mapM Label.ofText? =
      some ((splitWhere (· == '.') r).map fun s => ⟨s, s⟩) := by
    rw [mapM_eq_some_iff, List.forall₂_map_right_iff, List.forall₂_same]
    exact hread
  refine toAscii?_of_labels hr hok hall ?_ ?_
  · rw [List.map_map]
    exact (congrArg (joinWith ['.']) (List.map_id _)).trans (joinWith_splitWhere '.' r)
  · rw [areOneWay, Bool.or_eq_true, Bool.not_eq_true', List.any_eq_false]
    refine Or.inl ?_
    intro l hl
    obtain ⟨s, hs, rfl⟩ := List.mem_map.mp hl
    rw [Bool.not_eq_true, List.any_eq_false]
    intro c hc
    rw [isRightToLeft_of_ascii (hr c (mem_of_mem_splitWhere hs hc))]
    exact Bool.false_ne_true

end Metasearch.Url.Domain

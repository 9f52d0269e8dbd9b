import Metasearch.Proofs.Json.Number
import Metasearch.Proofs.Json.Text

/-!
# Documents of JSON, written and read

`Spells` describes the texts of a tree of data, white space between the tokens being free. The
reader reads every such text, and both layouts write one; so a document is read back whichever of
the two it is in. Data that can be written at all is `IsWritable`: its integers have 64 bits, its
doubles are read back, and it is not nested too deep.

All of this is by induction on the room that is left for nesting. Sequences and tables are described
for any relation between their parts and the texts of these, so that no induction goes through
lists and trees at once.

## Main definitions

* `IsWritable`, `Spells`.

## Main results

* `readValue_of_spells`: the reader on a text of a tree of data.
* `spells_compact`, `spells_prettyAt`: the two layouts.
* `parse?_compact`, `parse?_pretty`: documents are read back.
-/

namespace Metasearch.Json

open Metasearch.Number

variable {c : Char} {s t g rest : List Char} {d : Data} {items : List Data}
  {fields : List (String × Data)} {room fuel depth : Nat} {spells : Data → List Char → Prop}

/-! ### Data that can be written -/

/-- A value that holds no others and is read back. -/
def IsScalar : Data → Prop
  | .null | .bool _ | .text _ => True
  | .int i => Data.minSigned ≤ i ∧ i ≤ Data.maxUnsigned
  | .float x => ReadsBack x
  | _ => False

/-- Data that can be written where there is room for some levels of nesting. -/
def IsWritable : Nat → Data → Prop
  | room + 1, .list items => ∀ d ∈ items, IsWritable room d
  | room + 1, .table fields => ∀ f ∈ fields, IsWritable room f.2
  | _, d => IsScalar d

theorem isWritable_of_isScalar (h : IsScalar d) (room : Nat) : IsWritable room d := by
  cases room with
  | zero => exact h
  | succ room => cases d <;> first | exact h | exact h.elim

@[simp] theorem isWritable_null (room : Nat) : IsWritable room .null :=
  isWritable_of_isScalar (by trivial) room

@[simp] theorem isWritable_bool (room : Nat) (b : Bool) : IsWritable room (.bool b) :=
  isWritable_of_isScalar (by trivial) room

@[simp] theorem isWritable_text (room : Nat) (s : String) : IsWritable room (.text s) :=
  isWritable_of_isScalar (by trivial) room

theorem isWritable_ofNat {n : Nat} (h : (n : Int) ≤ Data.maxUnsigned) (room : Nat) :
    IsWritable room (Data.ofNat n) :=
  isWritable_of_isScalar (d := .int n)
    ⟨Int.le_trans (by decide : Data.minSigned ≤ 0) (Int.natCast_nonneg n), h⟩ room

theorem isWritable_list (h : ∀ d ∈ items, IsWritable room d) :
    IsWritable (room + 1) (.list items) := h

theorem isWritable_map {α : Type} {l : List α} {encode : α → Data}
    (h : ∀ a ∈ l, IsWritable room (encode a)) : IsWritable (room + 1) (.list (l.map encode)) :=
  isWritable_list (List.forall_mem_map.mpr h)

theorem isWritable_ofOption {α : Type} {o : Option α} {encode : α → Data}
    (h : ∀ a ∈ o, IsWritable room (encode a)) : IsWritable room (Data.ofOption encode o) := by
  cases o with
  | none => exact isWritable_null room
  | some a => exact h a rfl

theorem isWritable_table (h : ∀ f ∈ fields, IsWritable room f.2) :
    IsWritable (room + 1) (.table fields) := h

/-! ### Texts of data -/

/-- White space, or nothing. -/
def IsGap (s : List Char) : Prop :=
  ∀ c ∈ s, isBlank c = true

/-- The texts of items up to their closing bracket, `spells` telling those of one item. -/
inductive ItemsSpelled (spells : Data → List Char → Prop) : List Data → List Char → Prop
  /-- The last item. -/
  | last {d : Data} {g s g' : List Char} (hg : IsGap g) (hs : spells d s) (hg' : IsGap g') :
    ItemsSpelled spells [d] (g ++ (s ++ (g' ++ [']'])))
  /-- An item before others. -/
  | cons {d : Data} {g s g' : List Char} {items : List Data} {t : List Char} (hg : IsGap g)
    (hs : spells d s) (hg' : IsGap g') (ht : ItemsSpelled spells items t) :
    ItemsSpelled spells (d :: items) (g ++ (s ++ (g' ++ ',' :: t)))

/-- The texts of fields up to their closing brace, `spells` telling those of what is in one. -/
inductive FieldsSpelled (spells : Data → List Char → Prop) :
    List (String × Data) → List Char → Prop
  /-- The last field. -/
  | last {name : String} {d : Data} {g g₁ s g₂ : List Char} (hg : IsGap g) (hg₁ : IsGap g₁)
    (hs : spells d s) (hg₂ : IsGap g₂) :
    FieldsSpelled spells [(name, d)] (g ++ (quoted name ++ ':' :: (g₁ ++ (s ++ (g₂ ++ ['\x7d'])))))
  /-- A field before others. -/
  | cons {name : String} {d : Data} {g g₁ s g₂ : List Char} {fields : List (String × Data)}
    {t : List Char} (hg : IsGap g) (hg₁ : IsGap g₁) (hs : spells d s) (hg₂ : IsGap g₂)
    (ht : FieldsSpelled spells fields t) :
    FieldsSpelled spells ((name, d) :: fields)
      (g ++ (quoted name ++ ':' :: (g₁ ++ (s ++ (g₂ ++ ',' :: t)))))

/-- The texts of data where there is room for some levels of nesting. -/
def Spells : Nat → Data → List Char → Prop
  | room + 1, .list items, s =>
    items = [] ∧ s = ['[', ']'] ∨ ∃ t, s = '[' :: t ∧ ItemsSpelled (Spells room) items t
  | room + 1, .table fields, s =>
    fields = [] ∧ s = ['\x7b', '\x7d'] ∨
      ∃ t, s = '\x7b' :: t ∧ FieldsSpelled (Spells room) fields t
  | _, d, s => IsScalar d ∧ s = scalarText d

/-! ### Blanks -/

theorem skipBlank_append (hg : IsGap g) (s : List Char) : skipBlank (g ++ s) = skipBlank s :=
  List.dropWhile_append_of_pos hg

theorem skipBlank_cons (hc : isBlank c = false) (s : List Char) : skipBlank (c :: s) = c :: s := by
  simp [skipBlank, hc]

theorem skipBlank_skipBlank (s : List Char) : skipBlank (skipBlank s) = skipBlank s := by
  cases h : skipBlank s with
  | nil => rfl
  | cons c r =>
    refine skipBlank_cons ?_ r
    have := List.head?_dropWhile_not isBlank s
    rw [← skipBlank, h] at this
    simpa using this

theorem readValue_skipBlank (fuel depth : Nat) (s : List Char) :
    readValue fuel depth (skipBlank s) = readValue fuel depth s := by
  cases fuel with
  | zero => rfl
  | succ fuel => rw [readValue, readValue, skipBlank_skipBlank]

theorem readItems_skipBlank (fuel depth : Nat) (s : List Char) :
    readItems fuel depth (skipBlank s) = readItems fuel depth s := by
  cases fuel with
  | zero => rfl
  | succ fuel => rw [readItems, readItems, readValue_skipBlank]

theorem readFields_skipBlank (fuel depth : Nat) (s : List Char) :
    readFields fuel depth (skipBlank s) = readFields fuel depth s := by
  cases fuel with
  | zero => rfl
  | succ fuel => rw [readFields, readFields, skipBlank_skipBlank]

/-! ### Reading -/

theorem stops_append (hg : IsGap g) (hs : Stops s) : Stops (g ++ s) := by
  cases g with
  | nil => exact hs
  | cons c g => exact stops_cons (by simp [isStop, hg c List.mem_cons_self]) (g ++ s)

/-- A text that starts a value and does not end a sequence. -/
def StartsValue (s : List Char) : Prop :=
  ∃ c r, s = c :: r ∧ isBlank c = false ∧ c ≠ ']'

/-- The reader reads the value of a text with `depth` values around it, whatever follows. -/
def Reads (depth : Nat) (d : Data) (s : List Char) : Prop :=
  StartsValue s ∧ ∀ {fuel : Nat} {rest : List Char}, 2 * s.length ≤ fuel → Stops rest →
    readValue fuel depth (s ++ rest) = some (d, rest)

theorem Reads.append (h : Reads depth d s) (hfuel : 2 * s.length ≤ fuel) (hg : IsGap g)
    (hrest : Stops rest) : readValue fuel depth (g ++ (s ++ rest)) = some (d, rest) := by
  rw [← readValue_skipBlank, skipBlank_append hg, readValue_skipBlank, h.2 hfuel hrest]

/-- What follows a gap is found behind it. -/
theorem skipBlank_gap (hg : IsGap g) (hc : isBlank c = false) (s : List Char) :
    skipBlank (g ++ c :: s) = c :: s :=
  (skipBlank_append hg _).trans (skipBlank_cons hc s)

/-- **Items are read up to their closing bracket.** -/
theorem readItems_of_spelled (hread : ∀ {d s}, spells d s → Reads depth d s)
    (h : ItemsSpelled spells items t) (hfuel : 2 * t.length ≤ fuel) (rest : List Char) :
    readItems fuel depth (t ++ rest) = some (items, rest) := by
  induction h generalizing fuel with
  | @last d g s g' hg hs hg' =>
    simp only [List.length_append, List.length_singleton] at hfuel
    obtain ⟨fuel, rfl⟩ := Nat.exists_eq_add_of_le' (show 1 ≤ fuel by omega)
    have hvalue : readValue fuel depth (g ++ (s ++ (g' ++ ']' :: rest))) =
        some (d, g' ++ ']' :: rest) :=
      (hread hs).append (by omega) hg (stops_append hg' (stops_cons rfl rest))
    have hclose : skipBlank (g' ++ ']' :: rest) = ']' :: rest := skipBlank_gap hg' rfl rest
    simp [readItems, hvalue, hclose]
  | @cons d g s g' items t hg hs hg' ht ih =>
    simp only [List.length_append, List.length_cons] at hfuel
    obtain ⟨fuel, rfl⟩ := Nat.exists_eq_add_of_le' (show 1 ≤ fuel by omega)
    have hvalue : readValue fuel depth (g ++ (s ++ (g' ++ ',' :: (t ++ rest)))) =
        some (d, g' ++ ',' :: (t ++ rest)) :=
      (hread hs).append (by omega) hg (stops_append hg' (stops_cons rfl (t ++ rest)))
    have hcomma : skipBlank (g' ++ ',' :: (t ++ rest)) = ',' :: (t ++ rest) :=
      skipBlank_gap hg' rfl _
    have hitems : readItems fuel depth (t ++ rest) = some (items, rest) := ih (by omega)
    simp [readItems, hvalue, hcomma, hitems]

/-- The name of a field, read. -/
theorem readText_name (name : String) (s : List Char) :
    quoted name ++ s = '"' :: (name.toList.flatMap escaped ++ '"' :: s) := by
  simp [quoted]

/-- **Fields are read up to their closing brace.** -/
theorem readFields_of_spelled (hread : ∀ {d s}, spells d s → Reads depth d s)
    (h : FieldsSpelled spells fields t) (hfuel : 2 * t.length ≤ fuel) (rest : List Char) :
    readFields fuel depth (t ++ rest) = some (some fields, rest) := by
  induction h generalizing fuel with
  | @last name d g g₁ s g₂ hg hg₁ hs hg₂ =>
    simp only [List.length_append, List.length_cons, List.length_nil] at hfuel
    obtain ⟨fuel, rfl⟩ := Nat.exists_eq_add_of_le' (show 1 ≤ fuel by omega)
    have hvalue : readValue fuel depth (g₁ ++ (s ++ (g₂ ++ '\x7d' :: rest))) =
        some (d, g₂ ++ '\x7d' :: rest) :=
      (hread hs).append (by omega) hg₁ (stops_append hg₂ (stops_cons rfl rest))
    have hclose : skipBlank (g₂ ++ '\x7d' :: rest) = '\x7d' :: rest := skipBlank_gap hg₂ rfl rest
    simp [readFields, readText_name, skipBlank_gap hg, isBlank, readText_quoted, skipBlank_cons,
      hvalue, hclose]
  | @cons name d g g₁ s g₂ fields t hg hg₁ hs hg₂ ht ih =>
    simp only [List.length_append, List.length_cons] at hfuel
    obtain ⟨fuel, rfl⟩ := Nat.exists_eq_add_of_le' (show 1 ≤ fuel by omega)
    have hvalue : readValue fuel depth (g₁ ++ (s ++ (g₂ ++ ',' :: (t ++ rest)))) =
        some (d, g₂ ++ ',' :: (t ++ rest)) :=
      (hread hs).append (by omega) hg₁ (stops_append hg₂ (stops_cons rfl (t ++ rest)))
    have hcomma : skipBlank (g₂ ++ ',' :: (t ++ rest)) = ',' :: (t ++ rest) :=
      skipBlank_gap hg₂ rfl _
    have hfields : readFields fuel depth (t ++ rest) = some (some fields, rest) := ih (by omega)
    simp [readFields, readText_name, skipBlank_gap hg, isBlank, readText_quoted, skipBlank_cons,
      hvalue, hcomma, hfields]

/-- What starts the first item does not close the sequence. -/
theorem startsValue_of_itemsSpelled (hread : ∀ {d s}, spells d s → StartsValue s)
    (h : ItemsSpelled spells items t) (rest : List Char) :
    ∃ c r, skipBlank (t ++ rest) = c :: r ∧ c ≠ ']' := by
  cases h with
  | last hg hs hg' =>
    obtain ⟨c, r, rfl, hc, hne⟩ := hread hs
    exact ⟨c, by simp [skipBlank_gap hg hc, hne]⟩
  | cons hg hs hg' ht =>
    obtain ⟨c, r, rfl, hc, hne⟩ := hread hs
    exact ⟨c, by simp [skipBlank_gap hg hc, hne]⟩

/-- What starts the first field does not close the table. -/
theorem quote_of_fieldsSpelled (h : FieldsSpelled spells fields t) (rest : List Char) :
    ∃ r, skipBlank (t ++ rest) = '"' :: r := by
  cases h with
  | last hg => simp [readText_name, skipBlank_gap hg, isBlank]
  | cons hg => simp [readText_name, skipBlank_gap hg, isBlank]

/-- A sequence is read where its items are. -/
theorem reads_list (hdepth : depth < maxDepth) (hread : ∀ {d s}, spells d s → Reads (depth + 1) d s)
    (h : ItemsSpelled spells items t) : Reads depth (.list items) ('[' :: t) := by
  refine ⟨⟨'[', t, rfl, rfl, by decide⟩, fun {fuel rest} hfuel hrest => ?_⟩
  rw [List.length_cons] at hfuel
  obtain ⟨fuel, rfl⟩ := Nat.exists_eq_add_of_le' (show 1 ≤ fuel by omega)
  obtain ⟨c, r, hskip, hc⟩ := startsValue_of_itemsSpelled (fun h => (hread h).1) h rest
  have hitems : readItems fuel (depth + 1) (t ++ rest) = some (items, rest) :=
    readItems_of_spelled hread h (by omega) rest
  rw [← readItems_skipBlank, hskip] at hitems
  rw [readValue, List.cons_append, skipBlank_cons rfl]
  simp only [hskip]
  split
  · simp_all
  · simp [hitems, nested, hdepth]

/-- A table is read where its fields are. -/
theorem reads_table (hdepth : depth < maxDepth) (hread : ∀ {d s}, spells d s → Reads (depth + 1) d s)
    (h : FieldsSpelled spells fields t) : Reads depth (.table fields) ('\x7b' :: t) := by
  refine ⟨⟨'\x7b', t, rfl, rfl, by decide⟩, fun {fuel rest} hfuel hrest => ?_⟩
  rw [List.length_cons] at hfuel
  obtain ⟨fuel, rfl⟩ := Nat.exists_eq_add_of_le' (show 1 ≤ fuel by omega)
  obtain ⟨r, hskip⟩ := quote_of_fieldsSpelled h rest
  have hfields : readFields fuel (depth + 1) (t ++ rest) = some (some fields, rest) :=
    readFields_of_spelled hread h (by omega) rest
  rw [← readFields_skipBlank, hskip] at hfields
  rw [readValue, List.cons_append, skipBlank_cons rfl]
  simp only [hskip]
  split
  · simp_all
  · simp [hfields, nested, hdepth]

/-- A sequence without items. -/
theorem reads_empty_list (hdepth : depth < maxDepth) : Reads depth (.list []) ['[', ']'] := by
  refine ⟨⟨'[', [']'], rfl, rfl, by decide⟩, fun {fuel rest} hfuel hrest => ?_⟩
  obtain ⟨fuel, rfl⟩ := Nat.exists_eq_add_of_le' (show 1 ≤ fuel by simp at hfuel; omega)
  simp [readValue, skipBlank_cons, isBlank, nested, hdepth]

/-- A table without fields. -/
theorem reads_empty_table (hdepth : depth < maxDepth) :
    Reads depth (.table []) ['\x7b', '\x7d'] := by
  refine ⟨⟨'\x7b', ['\x7d'], rfl, rfl, by decide⟩, fun {fuel rest} hfuel hrest => ?_⟩
  obtain ⟨fuel, rfl⟩ := Nat.exists_eq_add_of_le' (show 1 ≤ fuel by simp at hfuel; omega)
  simp [readValue, skipBlank_cons, isBlank, nested, hdepth]

/-- A number is read where a value is wanted. -/
theorem reads_number (hs : s.all isNumberMark = true)
    (hread : ∀ {rest}, Stops rest → readNumber (s ++ rest) = some (d, rest)) :
    Reads depth d s := by
  cases s with
  | nil =>
    have hnone : readNumber [] = none := rfl
    exact absurd (hread stops_nil) (by simp [hnone])
  | cons c s =>
    have hc : isNumberMark c = true := List.all_eq_true.mp hs c List.mem_cons_self
    obtain ⟨hblank, hquote, hlist, htable, -⟩ := of_isNumberMark hc
    have hne : c ≠ ']' := by
      rintro rfl
      exact absurd hc (by decide)
    refine ⟨⟨c, s, rfl, hblank, hne⟩, fun {fuel rest} hfuel hrest => ?_⟩
    rw [List.length_cons] at hfuel
    obtain ⟨fuel, rfl⟩ := Nat.exists_eq_add_of_le' (show 1 ≤ fuel by omega)
    rw [List.cons_append, readValue_of_ne (skipBlank_cons hblank _) hquote hlist htable,
      if_pos (of_readNumber (hread hrest))]
    exact hread hrest

/-- A word is read where a value is wanted. -/
theorem reads_word (hs : s.head? = some 'n' ∨ s.head? = some 't' ∨ s.head? = some 'f')
    (hread : ∀ rest, readWord (s ++ rest) = some (d, rest)) : Reads depth d s := by
  obtain ⟨c, r, rfl⟩ : ∃ c r, s = c :: r :=
    List.exists_cons_of_ne_nil (by rintro rfl; simp at hs)
  obtain ⟨hblank, hne, hquote, hlist, htable, hnumber⟩ : isBlank c = false ∧ c ≠ ']' ∧ c ≠ '"' ∧
      c ≠ '[' ∧ c ≠ '\x7b' ∧ ¬(c = '-' ∨ c.isDigit = true) := by
    simp only [List.head?_cons, Option.some.injEq] at hs
    rcases hs with rfl | rfl | rfl <;> decide
  refine ⟨⟨c, r, rfl, hblank, hne⟩, fun {fuel rest} hfuel hrest => ?_⟩
  rw [List.length_cons] at hfuel
  obtain ⟨fuel, rfl⟩ := Nat.exists_eq_add_of_le' (show 1 ≤ fuel by omega)
  rw [List.cons_append, readValue_of_ne (skipBlank_cons hblank _) hquote hlist htable,
    if_neg hnumber]
  exact hread rest

/-- A text is read where a value is wanted. -/
theorem reads_text (s : String) : Reads depth (.text s) (quoted s) := by
  refine ⟨⟨'"', _, rfl, rfl, by decide⟩, fun {fuel rest} hfuel hrest => ?_⟩
  obtain ⟨fuel, rfl⟩ := Nat.exists_eq_add_of_le' (show 1 ≤ fuel by simp [quoted] at hfuel; omega)
  simp [readValue, readText_name, skipBlank_cons, isBlank, readText_quoted]

/-- A value that holds no others is read back. -/
theorem reads_scalar (h : IsScalar d) : Reads depth d (scalarText d) := by
  cases d with
  | null => exact reads_word (s := ['n', 'u', 'l', 'l']) (.inl rfl) fun _ => rfl
  | bool b =>
    cases b with
    | false => exact reads_word (s := ['f', 'a', 'l', 's', 'e']) (.inr (.inr rfl)) fun _ => rfl
    | true => exact reads_word (s := ['t', 'r', 'u', 'e']) (.inr (.inl rfl)) fun _ => rfl
  | int i =>
    exact reads_number (all_isNumberMark_intText i) (readNumber_intText h.1 h.2)
  | float x =>
    exact reads_number (all_isNumberMark_floatText h.isFinite) (readNumber_floatText h)
  | text s => exact reads_text s
  | list items => exact h.elim
  | table fields => exact h.elim
  | unreadable => exact h.elim

/-- **The reader reads every text of data.** -/
theorem reads_of_spells (h : Spells room d s) (hdepth : room + depth ≤ maxDepth) :
    Reads depth d s := by
  induction room generalizing d s depth with
  | zero =>
    obtain ⟨hscalar, rfl⟩ : IsScalar d ∧ s = scalarText d := by simpa [Spells] using h
    exact reads_scalar hscalar
  | succ room ih =>
    have hread : ∀ {d s}, Spells room d s → Reads (depth + 1) d s := fun h => ih h (by omega)
    cases d with
    | list items =>
      rcases h with ⟨rfl, rfl⟩ | ⟨t, rfl, hitems⟩
      · exact reads_empty_list (by omega)
      · exact reads_list (by omega) hread hitems
    | table fields =>
      rcases h with ⟨rfl, rfl⟩ | ⟨t, rfl, hfields⟩
      · exact reads_empty_table (by omega)
      · exact reads_table (by omega) hread hfields
    | _ =>
      obtain ⟨hscalar, rfl⟩ := h
      exact reads_scalar hscalar

/-! ### Writing -/

theorem isGap_nil : IsGap [] := by
  simp [IsGap]

theorem isGap_newLine (depth : Nat) : IsGap (newLine depth) := by
  intro c hc
  rcases List.mem_cons.mp hc with rfl | hc
  · rfl
  · rw [List.eq_of_mem_replicate hc]
    rfl

theorem itemsSpelled_compact (hne : items ≠ []) (h : ∀ d ∈ items, spells d (compact d)) :
    ItemsSpelled spells items (compactItems items ++ [']']) := by
  induction items with
  | nil => exact absurd rfl hne
  | cons d items ih =>
    have hd := h d List.mem_cons_self
    cases items with
    | nil => simpa [compactItems] using ItemsSpelled.last isGap_nil hd isGap_nil
    | cons e items =>
      have hrest := ih (List.cons_ne_nil e items) fun d hd => h d (List.mem_cons_of_mem _ hd)
      simpa [compactItems] using ItemsSpelled.cons isGap_nil hd isGap_nil hrest

theorem fieldsSpelled_compact (hne : fields ≠ []) (h : ∀ f ∈ fields, spells f.2 (compact f.2)) :
    FieldsSpelled spells fields (compactFields fields ++ ['\x7d']) := by
  induction fields with
  | nil => exact absurd rfl hne
  | cons f fields ih =>
    have hf := h f List.mem_cons_self
    cases fields with
    | nil => simpa [compactFields] using FieldsSpelled.last isGap_nil isGap_nil hf isGap_nil
    | cons g fields =>
      have hrest := ih (List.cons_ne_nil g fields) fun f hf => h f (List.mem_cons_of_mem _ hf)
      simpa [compactFields] using FieldsSpelled.cons isGap_nil isGap_nil hf isGap_nil hrest

theorem itemsSpelled_pretty (hne : items ≠ [])
    (h : ∀ d ∈ items, spells d (prettyAt (depth + 1) d)) : ItemsSpelled spells items
      (prettyItems (depth + 1) items ++ newLine depth ++ [']']) := by
  induction items with
  | nil => exact absurd rfl hne
  | cons d items ih =>
    have hgap := isGap_newLine (depth + 1)
    have hd := h d List.mem_cons_self
    cases items with
    | nil => simpa [prettyItems] using ItemsSpelled.last hgap hd (isGap_newLine depth)
    | cons e items =>
      have hrest := ih (List.cons_ne_nil e items) fun d hd => h d (List.mem_cons_of_mem _ hd)
      simpa [prettyItems] using ItemsSpelled.cons hgap hd isGap_nil hrest

theorem isGap_blank : IsGap [' '] := by
  simp [IsGap, isBlank]

theorem fieldsSpelled_pretty (hne : fields ≠ [])
    (h : ∀ f ∈ fields, spells f.2 (prettyAt (depth + 1) f.2)) : FieldsSpelled spells fields
      (prettyFields (depth + 1) fields ++ newLine depth ++ ['\x7d']) := by
  induction fields with
  | nil => exact absurd rfl hne
  | cons f fields ih =>
    have hgap := isGap_newLine (depth + 1)
    have hf := h f List.mem_cons_self
    cases fields with
    | nil =>
      simpa [prettyFields] using FieldsSpelled.last hgap isGap_blank hf (isGap_newLine depth)
    | cons g fields =>
      have hrest := ih (List.cons_ne_nil g fields) fun f hf => h f (List.mem_cons_of_mem _ hf)
      simpa [prettyFields] using FieldsSpelled.cons hgap isGap_blank hf isGap_nil hrest

theorem spells_scalar (h : IsScalar d) : Spells room d (scalarText d) := by
  cases room with
  | zero => exact ⟨h, rfl⟩
  | succ room => cases d <;> first | exact ⟨h, rfl⟩ | exact h.elim

theorem compact_eq_scalarText (h : IsScalar d) : compact d = scalarText d := by
  cases d <;> first | exact h.elim | simp [compact]

theorem prettyAt_eq_scalarText (h : IsScalar d) (depth : Nat) : prettyAt depth d = scalarText d := by
  cases d <;> first | exact h.elim | simp [prettyAt]

/-- **All on one line.** -/
theorem spells_compact (h : IsWritable room d) : Spells room d (compact d) := by
  induction room generalizing d with
  | zero =>
    have hscalar : IsScalar d := by simpa [IsWritable] using h
    exact compact_eq_scalarText hscalar ▸ spells_scalar hscalar
  | succ room ih =>
    cases d with
    | list items =>
      cases items with
      | nil => exact .inl ⟨rfl, rfl⟩
      | cons d items =>
        refine .inr ⟨_, by rw [compact, List.cons_append], ?_⟩
        exact itemsSpelled_compact (List.cons_ne_nil d items) fun d hd => ih (h d hd)
    | table fields =>
      cases fields with
      | nil => exact .inl ⟨rfl, rfl⟩
      | cons f fields =>
        refine .inr ⟨_, by rw [compact, List.cons_append], ?_⟩
        exact fieldsSpelled_compact (List.cons_ne_nil f fields) fun f hf => ih (h f hf)
    | _ => exact compact_eq_scalarText h ▸ spells_scalar h

/-- **One item or field a line.** -/
theorem spells_prettyAt (h : IsWritable room d) (depth : Nat) :
    Spells room d (prettyAt depth d) := by
  induction room generalizing d depth with
  | zero =>
    have hscalar : IsScalar d := by simpa [IsWritable] using h
    exact prettyAt_eq_scalarText hscalar depth ▸ spells_scalar hscalar
  | succ room ih =>
    cases d with
    | list items =>
      cases items with
      | nil => exact .inl ⟨rfl, by rw [prettyAt]⟩
      | cons d items =>
        refine .inr ⟨prettyItems (depth + 1) (d :: items) ++ newLine depth ++ [']'],
          by rw [prettyAt, List.cons_append, List.cons_append]; simp, ?_⟩
        exact itemsSpelled_pretty (List.cons_ne_nil d items) fun d hd => ih (h d hd) (depth + 1)
    | table fields =>
      cases fields with
      | nil => exact .inl ⟨rfl, by rw [prettyAt]⟩
      | cons f fields =>
        refine .inr ⟨prettyFields (depth + 1) (f :: fields) ++ newLine depth ++ ['\x7d'],
          by rw [prettyAt, List.cons_append, List.cons_append]; simp, ?_⟩
        exact fieldsSpelled_pretty (List.cons_ne_nil f fields) fun f hf => ih (h f hf) (depth + 1)
    | _ => exact prettyAt_eq_scalarText h depth ▸ spells_scalar h

/-! ### Whole documents -/

/-- **A text of data denotes the data.** -/
theorem parse?_of_spells (h : Spells maxDepth d s) : parse? s = some d := by
  have hreads : Reads 0 d s := reads_of_spells h (Nat.le_refl maxDepth)
  have hread : readValue (2 * s.length + 2) 0 (s ++ []) = some (d, []) :=
    hreads.2 (by omega) stops_nil
  have hblank : skipBlank [] = [] := rfl
  rw [List.append_nil] at hread
  simp [parse?, hread, hblank]

theorem parse?_compact (h : IsWritable maxDepth d) : parse? (compact d) = some d :=
  parse?_of_spells (spells_compact h)

theorem parse?_pretty (h : IsWritable maxDepth d) : parse? (pretty d) = some d :=
  parse?_of_spells (spells_prettyAt h 0)

end Metasearch.Json

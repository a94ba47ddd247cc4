/-
Structured inputs and pattern texts.

A field is given by numbers in one of two ways, as a value that is compiled or as a text
that is read and then checked. The two were written apart from each other: one looks at the
kind of a value and at the keys of a mapping, the other cuts a text at its separators. Here
they are one (`compile_eq_ok_iff_parse`). Both succeed exactly when the numbers fit the
field, with the pattern that the input stands for.

What is left to show is that a text is read as nothing but its pattern
(`eq_pattern_of_parse`). Its numbers may be negative; then it has a hyphen where the grammar
has the first digit of a numeral, and is read as nothing at all.
-/
import Cadence.Proofs.Pattern.Inputs
import Cadence.Proofs.Pattern.RoundTrip

set_option autoImplicit false

namespace Cadence.FieldPattern

open Cadence.Number (Writes digits digitLimit intText)
open Cadence.Text (BlankFree isDigit joinAt joinWith splitAt trim)

variable {f : Field} {v : Value} {p : FieldPattern} {input : NumericInput}

/-! ## Reading

The text of an input is that of its pattern. It has no blanks and, unless it is a list of
two or more, no commas, so what it is read as is what the grammar says of an item. -/

/-- Integers with commas between them, as characters. -/
theorem toList_joinWith (ns : List Int) :
    (joinWith "," (ns.map intText)).toList = joinAt ',' (ns.map (fun n => (intText n).toList)) := by
  rw [joinWith, String.toList_intercalate, List.map_map, Text.joinAt_eq_intercalate]
  rfl

/-- The text of a numeric input is that of the pattern it stands for. -/
theorem toList_text (input : NumericInput) : input.text.toList = input.pattern.written := by
  cases input with
  | number n => rfl
  | list ns hne =>
    rw [NumericInput.text, toList_joinWith, NumericInput.pattern]
    -- a list of one is written as its only member
    rcases ns with _ | ⟨n, _ | ⟨m, ns⟩⟩
    · exact absurd rfl hne
    · rfl
    · rw [ofValues, written, writtenAll_eq_map, List.map_map]
      · rfl
      · simp
  | every n =>
    rw [NumericInput.text, String.toList_append]
    rfl
  | range low high =>
    simp only [NumericInput.text, String.toList_append, List.append_assoc]
    rfl
  | stepped low high n =>
    simp only [NumericInput.text, String.toList_append, List.append_assoc]
    simp [NumericInput.pattern, written, Scalar.text]

/-- An integer is written with digits and a sign. -/
theorem intText_free {n : Int} {c : Char} (hc : isDigit c = false) (hsign : c ≠ '-') :
    c ∉ (intText n).toList := by
  intro h
  rcases Number.isDigit_or_hyphen h with hd | rfl
  · rw [hc] at hd
    exact Bool.noConfusion hd
  · exact hsign rfl

/-- Both may stand in an item. -/
theorem isItemChar_intText (n : Int) : ∀ c ∈ (intText n).toList, isItemChar c = true := by
  intro c hc
  rcases Number.isDigit_or_hyphen hc with hd | rfl
  · exact isItemChar_of_isDigit hd
  · decide

/-- A text of the characters of items is read as the grammar says of an item. -/
theorem parse_eq_ok_iff_item {text : String} (h : ∀ c ∈ text.toList, isItemChar c = true) :
    parse text = .ok p ↔ Item text.toList p := by
  have hblank : BlankFree text.toList := fun c hc => (of_isItemChar (h c hc)).1
  have hcomma : ',' ∉ text.toList := fun hc => (of_isItemChar (h _ hc)).2.2.2 rfl
  rw [parse_eq_ok_iff, Text.trim_of_blankFree hblank]
  simp [hcomma]

/-- An item without a slash is a star, a number or a range. -/
theorem Item.of_no_slash {s : List Char} (h : Item s p) (hs : '/' ∉ s) :
    s = ['*'] ∨ (∃ n : Nat, Writes s n ∧ p = .exact (.int n)) ∨
      ∃ (a b : List Char) (m n : Nat), s = a ++ '-' :: b ∧ Writes a m ∧ Writes b n ∧
        p = .span (.int m) (.int n) := by
  cases h with
  | star => exact .inl rfl
  | number hn => exact .inr (.inl ⟨_, hn, rfl⟩)
  | range ha hb => exact .inr (.inr ⟨_, _, _, _, rfl, ha, hb, rfl⟩)
  | every => simp at hs
  | based => simp at hs
  | stepped => simp at hs

/-- An item with a slash is one of the three steps. -/
theorem Item.of_slash {base every : List Char} (h : Item (base ++ '/' :: every) p)
    (hbase : '/' ∉ base) : ∃ n : Nat, Writes every n ∧
      ((base = ['*'] ∧ p = .step (.int n) .none .none) ∨
        (∃ (a b : List Char) (low high : Nat), base = a ++ '-' :: b ∧ Writes a low ∧
          Writes b high ∧ p = .step (.int n) (.int low) (.int high)) ∨
        (∃ start : Nat, Writes base start ∧ p = .step (.int n) (.int start) .none)) := by
  have hread : readItem "" (base ++ '/' :: every) = .ok p := readItem_eq_ok_iff.mpr h
  rw [readItem_of_slash hbase, readStep_eq_ok_iff] at hread
  obtain ⟨n, hn, -, hforms⟩ := hread
  exact ⟨n, hn, hforms⟩

/-- Two integers joined by a hyphen are the numbers of two numerals joined by one. -/
theorem eq_of_hyphen {a b : Int} {s t : List Char} {m n : Nat} (hs : Writes s m)
    (ht : Writes t n)
    (h : (intText a).toList ++ '-' :: (intText b).toList = s ++ '-' :: t) : a = m ∧ b = n := by
  have hfree := Number.hyphen_notMem_intText hs h
  -- both sides are cut at their first hyphen
  have hleft : Text.cutAt '-' ((intText a).toList ++ '-' :: (intText b).toList)
      = ((intText a).toList, some (intText b).toList) :=
    Text.cutAt_eq_some_iff.mpr ⟨rfl, hfree⟩
  have hright : Text.cutAt '-' ((intText a).toList ++ '-' :: (intText b).toList) = (s, some t) :=
    Text.cutAt_eq_some_iff.mpr ⟨h, hs.notMem (by decide)⟩
  rw [hleft, Prod.mk.injEq, Option.some.injEq] at hright
  obtain ⟨rfl, rfl⟩ := hright
  exact ⟨Number.eq_of_writes_intText hs, Number.eq_of_writes_intText ht⟩

/-- An integer that is an item is the number it says; a negative one is none. -/
theorem eq_of_item_number {n : Int} (h : Item (intText n).toList p) : p = .exact (.int n) := by
  rcases h.of_no_slash (intText_free (by decide) (by decide)) with
    hstar | ⟨m, hm, rfl⟩ | ⟨a, b, k, m, hs, ha, -⟩
  · have hmem : '*' ∈ (intText n).toList := by simp [hstar]
    exact absurd hmem (intText_free (by decide) (by decide))
  · rw [Number.eq_of_writes_intText hm]
  · have hfree := Number.hyphen_notMem_intText (u := []) ha (by rw [List.append_nil, hs])
    rw [hs] at hfree
    simp at hfree

/-- A range of integers has no slash in it. -/
theorem slash_notMem_hyphen (a b : Int) :
    '/' ∉ (intText a).toList ++ '-' :: (intText b).toList := by
  have hfree : ∀ n : Int, '/' ∉ (intText n).toList :=
    fun _ => intText_free (by decide) (by decide)
  simp [hfree]

/-- Two integers that are an item are a range, although a sign is a hyphen too. -/
theorem eq_of_item_range {a b : Int}
    (h : Item ((intText a).toList ++ '-' :: (intText b).toList) p) :
    p = .span (.int a) (.int b) := by
  rcases h.of_no_slash (slash_notMem_hyphen a b) with
    hstar | ⟨m, hm, rfl⟩ | ⟨s, t, m, n, hst, hs, ht, rfl⟩
  · exact absurd hstar (append_hyphen_ne_star _ _)
  · have hfree := hm.notMem isDigit_separators.2.1
    simp at hfree
  · obtain ⟨rfl, rfl⟩ := eq_of_hyphen hs ht hst
    rfl

/-- A star with an integer behind the slash is a bare step. -/
theorem eq_of_item_every {n : Int} (h : Item (['*'] ++ '/' :: (intText n).toList) p) :
    p = .step (.int n) .none .none := by
  obtain ⟨m, hm, hstar | ⟨a, b, k, l, hbase, -⟩ | ⟨k, hk, -⟩⟩ := h.of_slash (by decide)
  · rw [hstar.2, Number.eq_of_writes_intText hm]
  · exact absurd hbase.symm (append_hyphen_ne_star a b)
  · exact absurd rfl (ne_star_of_writes hk)

/-- A range with an integer behind the slash is a step with both its ends. -/
theorem eq_of_item_stepped {a b n : Int}
    (h : Item (((intText a).toList ++ '-' :: (intText b).toList) ++ '/' :: (intText n).toList) p) :
    p = .step (.int n) (.int a) (.int b) := by
  obtain ⟨m, hm, hstar | ⟨s, t, k, l, hst, hs, ht, rfl⟩ | ⟨k, hk, -⟩⟩ :=
    h.of_slash (slash_notMem_hyphen a b)
  · exact absurd hstar.1 (append_hyphen_ne_star _ _)
  · obtain ⟨rfl, rfl⟩ := eq_of_hyphen hs ht hst
    rw [Number.eq_of_writes_intText hm]
  · have hfree := hk.notMem isDigit_separators.2.1
    simp at hfree

/-- A list of integers is read item by item. -/
theorem eq_of_parse_list {ns : List Int} (hlen : 2 ≤ ns.length)
    (h : parse (joinWith "," (ns.map intText)) = .ok p) :
    p = .anyOf (ns.map (fun n => .exact (.int n))) := by
  have hword : ∀ n : Int, BlankFree (intText n).toList := fun n c hc =>
    (of_isItemChar (isItemChar_intText n c hc)).1
  have htrim : trim (joinAt ',' (ns.map (fun n => (intText n).toList)))
      = joinAt ',' (ns.map (fun n => (intText n).toList)) := by
    apply Text.trim_of_blankFree
    intro c hc
    rcases Text.eq_or_mem_of_mem_joinAt hc with rfl | ⟨w, hw, hc⟩
    · decide
    · obtain ⟨n, -, rfl⟩ := List.mem_map.mp hw
      exact hword n c hc
  -- there are two at least, so the text is taken for a list
  have hcomma : ',' ∈ joinAt ',' (ns.map (fun n => (intText n).toList)) :=
    Text.mem_joinAt (by simpa using hlen)
  -- no number has a comma in it
  have hsplit : splitAt ',' (joinAt ',' (ns.map (fun n => (intText n).toList)))
      = ns.map (fun n => (intText n).toList) := by
    apply Text.splitAt_joinAt
    · intro hnil
      rw [List.map_eq_nil_iff.mp hnil] at hlen
      simp at hlen
    · intro w hw
      obtain ⟨n, -, rfl⟩ := List.mem_map.mp hw
      exact intText_free (by decide) (by decide)
  rw [parse_eq_ok_iff, toList_joinWith, htrim, hsplit] at h
  rcases h with ⟨hfree, -⟩ | ⟨-, items, rfl, hitems⟩
  · exact absurd hcomma hfree
  · rw [List.forall₂_map_left_iff] at hitems
    have hitem : ∀ (n : Int) (q : FieldPattern), Item (trim (intText n).toList) q →
        FieldPattern.exact (.int n) = q := by
      intro n q hq
      rw [Text.trim_of_blankFree (hword n)] at hq
      exact (eq_of_item_number hq).symm
    have hexact : List.Forall₂ (· = ·) (ns.map (fun n => FieldPattern.exact (.int n))) items :=
      List.forall₂_map_left_iff.mpr (hitems.imp hitem)
    rw [List.forall₂_eq_eq_eq] at hexact
    rw [hexact]

/-- **What the text of an input is read as is its pattern.** -/
theorem eq_pattern_of_parse (h : parse input.text = .ok p) : p = input.pattern := by
  have hnumber : ∀ {n : Int}, parse (intText n) = .ok p → p = .exact (.int n) := fun hp =>
    eq_of_item_number ((parse_eq_ok_iff_item (isItemChar_intText _)).mp hp)
  have hrange : ∀ a b : Int, ∀ c ∈ (intText a).toList ++ '-' :: (intText b).toList,
      isItemChar c = true := by
    intro a b
    simp only [List.forall_mem_append, List.forall_mem_cons]
    exact ⟨isItemChar_intText a, by decide, isItemChar_intText b⟩
  -- apart from a list, all that is written is a single item, whose form its signs give away
  cases input with
  | number n =>
    have htext : (NumericInput.number n).text = intText n := rfl
    rw [htext] at h
    exact hnumber h
  | list ns hne =>
    rw [NumericInput.text] at h
    rcases ns with _ | ⟨n, _ | ⟨m, ns⟩⟩
    · exact absurd rfl hne
    · have htext : joinWith "," ([n].map intText) = intText n := by
        rw [← String.toList_inj, toList_joinWith]
        rfl
      rw [htext] at h
      exact hnumber h
    · exact eq_of_parse_list (by simp) h
  | every n =>
    have htext : (NumericInput.every n).text.toList = ['*'] ++ '/' :: (intText n).toList := by
      rw [NumericInput.text, String.toList_append]
      rfl
    have hchars : ∀ c ∈ (NumericInput.every n).text.toList, isItemChar c = true := by
      rw [htext, List.singleton_append]
      simp only [List.forall_mem_cons]
      exact ⟨by decide, by decide, isItemChar_intText n⟩
    have hitem := (parse_eq_ok_iff_item hchars).mp h
    rw [htext] at hitem
    exact eq_of_item_every hitem
  | range low high =>
    have htext : (NumericInput.range low high).text.toList
        = (intText low).toList ++ '-' :: (intText high).toList := by
      simp [NumericInput.text]
    have hitem := (parse_eq_ok_iff_item (by rw [htext]; exact hrange low high)).mp h
    rw [htext] at hitem
    exact eq_of_item_range hitem
  | stepped low high n =>
    have htext : (NumericInput.stepped low high n).text.toList
        = ((intText low).toList ++ '-' :: (intText high).toList)
          ++ '/' :: (intText n).toList := by
      simp [NumericInput.text]
    have hchars : ∀ c ∈ (NumericInput.stepped low high n).text.toList,
        isItemChar c = true := by
      rw [htext, List.forall_mem_append, List.forall_mem_cons]
      exact ⟨hrange low high, by decide, isItemChar_intText n⟩
    have hitem := (parse_eq_ok_iff_item hchars).mp h
    rw [htext] at hitem
    exact eq_of_item_stepped hitem

/-- A pattern that an input stands for is read from its text. -/
theorem parse_text (h : Canonical f input.pattern) : parse input.text = .ok input.pattern := by
  have htext : input.text = String.ofList input.pattern.written := by
    rw [← toList_text, String.ofList_toList]
  rw [htext]
  exact h.parse_written

/-! ## The two ways agree -/

/-- **A structured input and its text are the same schedule.** A field is given by numbers
of at most as many digits as are converted. Compiling them gives a pattern exactly when the
text that writes them is read and passes the check, and then it is the same one; this
happens exactly when the numbers fit the field, and the pattern is the one they stand for. -/
theorem compile_eq_ok_iff_parse (hv : input.Given v) (hm : v.Moderate) :
    (compile f v = .ok p ↔ ∃ q, parse input.text = .ok q ∧ checked f q = .ok p) ∧
      (compile f v = .ok p ↔ input.Fits f ∧ p = input.pattern) := by
  have hcompile : compile f v = .ok p ↔ input.Fits f ∧ p = input.pattern := compile_eq_ok_iff hv
  have hread : (∃ q, parse input.text = .ok q ∧ checked f q = .ok p) ↔
      input.Fits f ∧ p = input.pattern := by
    simp only [checked, bind_eq_ok_iff, pure_eq_ok_iff]
    constructor
    · rintro ⟨q, hq, _, hvalid, rfl⟩
      obtain rfl := eq_pattern_of_parse hq
      exact ⟨validate_pattern_iff.mp hvalid, rfl⟩
    · intro hfits
      -- what is compiled is canonical, so its text is read back as itself
      have hcanonical : Canonical f p := canonical_of_compile hm (hcompile.mpr hfits)
      obtain ⟨hfits, rfl⟩ := hfits
      exact ⟨_, parse_text hcanonical, (), validate_pattern_iff.mpr hfits, rfl⟩
  exact ⟨hcompile.trans hread.symm, hcompile⟩

/-- Every other day from the third to the twentieth, as a mapping and as `3-20/2`. -/
theorem compile_eq_ok_iff_parse_reversed :
    let input := NumericInput.stepped 3 20 2
    let v := Value.mapping [(.str "every", .int 2), (.str "to", .int 20), (.str "from", .int 3)]
    input.Given v ∧ v.Moderate ∧ input.text = "3-20/2" ∧
      ∀ p, (compile .day v = .ok p ↔
          ∃ q, parse input.text = .ok q ∧ checked .day q = .ok p) ∧
        (compile .day v = .ok p ↔ input.Fits .day ∧ p = input.pattern) := by
  have hgiven : (NumericInput.stepped 3 20 2).Given
      (.mapping [(.str "every", .int 2), (.str "to", .int 20), (.str "from", .int 3)]) :=
    .stepped (List.reverse_perm [(Value.str "from", Value.int 3), (Value.str "to", Value.int 20),
      (Value.str "every", Value.int 2)])
  have hmoderate : (Value.mapping
      [(.str "every", .int 2), (.str "to", .int 20), (.str "from", .int 3)]).Moderate := by
    intro n hn
    -- all numbers in the mapping have two digits at most
    have hsmall : n.natAbs < 100 := by
      cases hn with
      | entry hmem hocc =>
        simp only [List.mem_cons, Prod.mk.injEq, List.not_mem_nil, or_false] at hmem
        rcases hmem with ⟨-, rfl⟩ | ⟨-, rfl⟩ | ⟨-, rfl⟩ <;> cases hocc <;> decide
    exact Nat.le_trans (Number.length_digits_le_two hsmall) (by decide)
  exact ⟨hgiven, hmoderate, by decide +kernel,
    fun p => compile_eq_ok_iff_parse (p := p) hgiven hmoderate⟩

end Cadence.FieldPattern

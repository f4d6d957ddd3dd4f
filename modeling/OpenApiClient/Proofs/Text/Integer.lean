import Mathlib.Data.List.DropRight
import Mathlib.Data.List.TakeWhile
import OpenApiClient.Text.Digit

/-!
# Integers as they may be written

An integer is read from decimal digits of any script, with single underscores between them, a sign
before them and blanks around (`Denotes`). The reader takes one character after the other; it reads
an index exactly if the text denotes it (`index_eq_some_iff`), so the usual decimal digits of a
number are read as the number (`index_toString`).
-/

namespace OpenApiClient.Text

/-! ### What is left of a text that is trimmed -/

open List

variable {blank : Char → Bool} {before text after : List Char}

theorem dropWhile_of_head? (h : ∀ c ∈ text.head?, blank c = false) :
    text.dropWhile blank = text := by
  cases text with
  | nil => rfl
  | cons c rest => exact dropWhile_cons_of_neg (by simp [h c rfl])

/-- Blanks around a text are dropped, and nothing of the text if it has none at its ends. -/
theorem trim_append (hblanks : ∀ c ∈ before ++ after, blank c = true)
    (hfirst : ∀ c ∈ text.head?, blank c = false) (hlast : ∀ c ∈ text.getLast?, blank c = false) :
    (((before ++ text ++ after).dropWhile blank).reverse.dropWhile blank).reverse = text := by
  obtain ⟨hbefore, hafter⟩ := forall_mem_append.mp hblanks
  rw [append_assoc, dropWhile_append_of_pos hbefore]
  by_cases hne : text = []
  · rw [hne, nil_append, dropWhile_eq_nil_iff.mpr hafter]
    rfl
  · have hhead : ∀ c ∈ (text ++ after).head?, blank c = false := by
      rwa [head?_append_of_ne_nil _ hne]
    rw [dropWhile_of_head? hhead, reverse_append,
      dropWhile_append_of_pos (by simpa using hafter),
      dropWhile_of_head? (by rwa [head?_reverse]), reverse_reverse]

theorem trim_append_of_forall (hblanks : ∀ c ∈ before ++ after, blank c = true)
    (htext : ∀ c ∈ text, blank c = false) :
    (((before ++ text ++ after).dropWhile blank).reverse.dropWhile blank).reverse = text :=
  trim_append hblanks (fun c hc => htext c (mem_of_mem_head? hc))
    fun c hc => htext c (mem_of_mem_getLast? hc)

theorem exists_trim (blank : Char → Bool) (text : List Char) : ∃ before after,
    text = before ++ ((text.dropWhile blank).reverse.dropWhile blank).reverse ++ after ∧
      ∀ c ∈ before ++ after, blank c = true := by
  have hkept : ∀ part : List Char, ∀ c ∈ part.takeWhile blank, blank c = true :=
    fun part => all_eq_true.mp all_takeWhile
  have hsplit := @List.takeWhile_append_dropWhile _ blank
  refine ⟨text.takeWhile blank, ((text.dropWhile blank).reverse.takeWhile blank).reverse, ?_, ?_⟩
  · rw [append_assoc, ← reverse_append, hsplit, reverse_reverse, hsplit]
  · simpa [or_imp, forall_and] using ⟨hkept text, hkept _⟩

theorem not_isBlank_of_isDigit {c : Char} (h : isDigit c = true) : isBlank c = false := by
  have hzeros : ∀ first ∈ decimalZeros, ∀ range ∈ blankRanges,
      first + 9 < range.1 ∨ range.2 < first := by decide
  have hothers : ∀ other ∈ otherDigitRanges, ∀ range ∈ blankRanges,
      other.2 < range.1 ∨ range.2 < other.1 := by decide
  rw [isBlank, Ranges.contains, any_eq_false]
  intro range hrange
  rw [Bool.and_eq_true, decide_eq_true_eq, decide_eq_true_eq]
  rw [isDigit, Bool.or_eq_true, decimalValue?, Option.isSome_map, find?_isSome,
    Ranges.contains, any_eq_true] at h
  rcases h with ⟨first, hfirst, hc⟩ | ⟨other, hother, hc⟩
  · rw [Bool.and_eq_true, decide_eq_true_eq, decide_eq_true_eq] at hc
    have := hzeros first hfirst range hrange
    omega
  · rw [Bool.and_eq_true, decide_eq_true_eq, decide_eq_true_eq] at hc
    have := hothers other hother range hrange
    omega

/-! ### Integers -/

/-- Decimal digits of any script, with single underscores between them, and what they denote. -/
inductive Numeral : List Char → Nat → Prop
  | digit {c : Char} {n : Nat} : decimalValue? c = some n → Numeral [c] n
  | next {digits : List Char} {value n : Nat} {c : Char} : Numeral digits value →
      decimalValue? c = some n → Numeral (digits ++ [c]) (value * 10 + n)
  | apart {digits : List Char} {value n : Nat} {c : Char} : Numeral digits value →
      decimalValue? c = some n → Numeral (digits ++ ['_', c]) (value * 10 + n)

/-- A text denotes an integer: a numeral, maybe with a sign before it and with blanks around. A
numeral with more digits than are read must be the usual one of its number. -/
def Denotes (text : List Char) (value : Int) : Prop :=
  ∃ before digits after, ∃ n : Nat, (∀ c ∈ before ++ after, isNumberBlank c = true) ∧
    (Numeral digits n ∧ digitCount digits ≤ max digitLimit (Nat.toDigits 10 n).length) ∧
    ((text = before ++ digits ++ after ∨ text = before ++ '+' :: digits ++ after) ∧ value = n ∨
      text = before ++ '-' :: digits ++ after ∧ value = -n)

variable {digits : List Char} {n : Nat}

theorem digitsValue?_append {value : Nat} (more : List Char)
    (h : digitsValue? value digits = some n) :
    digitsValue? value (digits ++ more) = digitsValue? n more := by
  fun_induction digitsValue? value digits with
  | case1 value =>
    cases h
    rfl
  | case2 value c rest ih =>
    obtain ⟨digit, hdigit, hrest⟩ := Option.bind_eq_some_iff.mp h
    rw [cons_append, cons_append, digitsValue?, hdigit]
    exact ih digit hrest
  | case3 value c rest hmark ih =>
    obtain ⟨digit, hdigit, hrest⟩ := Option.bind_eq_some_iff.mp h
    rw [cons_append, digitsValue?, hdigit]
    · exact ih digit hrest
    · rintro d others rfl
      cases hdigit

theorem Numeral.append {value : Nat} {more : List Char} (h : Numeral digits value)
    (hmore : digitsValue? value more = some n) : Numeral (digits ++ more) n := by
  fun_induction digitsValue? value more generalizing digits with
  | case1 value =>
    cases hmore
    rwa [append_nil]
  | case2 value c rest ih =>
    obtain ⟨digit, hdigit, hrest⟩ := Option.bind_eq_some_iff.mp hmore
    simpa using ih digit (h.apart hdigit) hrest
  | case3 value c rest _ ih =>
    obtain ⟨digit, hdigit, hrest⟩ := Option.bind_eq_some_iff.mp hmore
    simpa using ih digit (h.next hdigit) hrest

theorem numeralValue?_append (more : List Char) (h : numeralValue? digits = some n) :
    numeralValue? (digits ++ more) = digitsValue? n more := by
  cases digits with
  | nil => cases h
  | cons c rest =>
    obtain ⟨digit, hdigit, hrest⟩ := Option.bind_eq_some_iff.mp h
    rw [cons_append, numeralValue?, hdigit]
    exact digitsValue?_append more hrest

theorem numeralValue?_eq_some_iff : numeralValue? digits = some n ↔ Numeral digits n := by
  constructor
  · intro h
    cases digits with
    | nil => cases h
    | cons c rest =>
      obtain ⟨digit, hdigit, hrest⟩ := Option.bind_eq_some_iff.mp h
      exact (Numeral.digit hdigit).append hrest
  · intro h
    induction h with
    | digit hdigit => rw [numeralValue?, hdigit]; rfl
    | next _ hdigit ih =>
      rw [numeralValue?_append _ ih, digitsValue?, hdigit] <;> simp [digitsValue?]
    | apart _ hdigit ih => rw [numeralValue?_append _ ih, digitsValue?, hdigit]; rfl

theorem indexValue?_eq_some_iff : indexValue? digits = some n ↔
    Numeral digits n ∧ digitCount digits ≤ max digitLimit (Nat.toDigits 10 n).length := by
  rw [indexValue?, Option.filter_eq_some_iff, numeralValue?_eq_some_iff, decide_eq_true_eq]

theorem not_isNumberBlank_of_decimalValue? {c : Char} (h : decimalValue? c = some n) :
    isNumberBlank c = false := by
  have hblank := not_isBlank_of_isDigit (show isDigit c = true by rw [isDigit, h]; rfl)
  rw [isNumberBlank, hblank, Bool.false_and]

theorem Numeral.not_isNumberBlank (h : Numeral digits n) :
    ∀ c ∈ digits, isNumberBlank c = false := by
  induction h with
  | digit hdigit => simpa using not_isNumberBlank_of_decimalValue? hdigit
  | next _ hdigit ih =>
    simpa [or_imp, forall_and] using ⟨ih, not_isNumberBlank_of_decimalValue? hdigit⟩
  | apart _ hdigit ih =>
    have hmark : isNumberBlank '_' = false := by decide
    simpa [or_imp, forall_and, hmark] using ⟨ih, not_isNumberBlank_of_decimalValue? hdigit⟩

/-- Digits are read as they are: there is nothing to trim and no sign. -/
theorem signedValue?_of_digits (number? : List Char → Option Nat) {text : String}
    (hdigits : isDigitText text = true) :
    signedValue? number? text = (number? text.toList).map Int.ofNat := by
  rw [isDigitText, Bool.and_eq_true, all_eq_true] at hdigits
  have htrim : trimNumber text.toList = text.toList := by
    have hblank : ∀ c ∈ text.toList, isNumberBlank c = false := fun c hc => by
      rw [isNumberBlank, not_isBlank_of_isDigit (hdigits.2 c hc), Bool.false_and]
    simpa [trimNumber] using @trim_append_of_forall _ [] text.toList [] (by simp) hblank
  rw [signedValue?, htrim]
  split
  · rename_i digits hsign
    cases hdigits.2 '-' (by simp [hsign])
  · rename_i digits hsign
    cases hdigits.2 '+' (by simp [hsign])
  · rfl

/-- A text is read as an index exactly if it denotes it. -/
theorem index_eq_some_iff {text : String} {value : Int} :
    signedValue? indexValue? text = some value ↔ Denotes text.toList value := by
  constructor
  · intro h
    obtain ⟨before, after, htext, hblanks⟩ := exists_trim isNumberBlank text.toList
    rw [← trimNumber] at htext
    unfold signedValue? at h
    split at h
    · rename_i digits heq
      obtain ⟨_, hcast, rfl⟩ := Option.map_eq_some_iff.mp h
      obtain ⟨n, hn, hcast⟩ := Option.bind_eq_some_iff.mp hcast
      cases hcast
      rw [heq] at htext
      exact ⟨before, digits, after, n, hblanks, indexValue?_eq_some_iff.mp hn, .inr ⟨htext, rfl⟩⟩
    · rename_i digits heq
      obtain ⟨n, hn, rfl⟩ := Option.map_eq_some_iff.mp h
      rw [heq] at htext
      exact ⟨before, digits, after, n, hblanks, indexValue?_eq_some_iff.mp hn,
        .inl ⟨.inr htext, rfl⟩⟩
    · obtain ⟨n, hn, rfl⟩ := Option.map_eq_some_iff.mp h
      exact ⟨before, _, after, n, hblanks, indexValue?_eq_some_iff.mp hn, .inl ⟨.inl htext, rfl⟩⟩
  · rintro ⟨before, digits, after, n, hblanks, hdigits, h⟩
    have hother := hdigits.1.not_isNumberBlank
    have hindex := indexValue?_eq_some_iff.mpr hdigits
    -- trimming stops at a sign as it does at a digit
    have hsign : ∀ sign ∈ ['+', '-'], ∀ c ∈ sign :: digits, isNumberBlank c = false := by
      intro sign hmem
      have hsigns : ['+', '-'].any isNumberBlank = false := by decide
      exact forall_mem_cons.mpr ⟨by simpa using any_eq_false.mp hsigns sign hmem, hother⟩
    unfold signedValue?
    rcases h with ⟨htext | htext, rfl⟩ | ⟨htext, rfl⟩
    · rw [htext, trimNumber, trim_append_of_forall hblanks hother]
      split
      · cases hindex
      · cases hindex
      · rw [hindex]
        rfl
    · rw [htext, trimNumber, trim_append_of_forall hblanks (hsign '+' (by simp))]
      simp [hindex]
    · rw [htext, trimNumber, trim_append_of_forall hblanks (hsign '-' (by simp))]
      simp [hindex]

theorem decimalValue?_digitChar : ∀ d < 10, decimalValue? (Nat.digitChar d) = some d := by decide

theorem numeral_toDigits (n : Nat) : Numeral (Nat.toDigits 10 n) n := by
  induction n using Nat.strongRecOn with
  | ind n ih =>
    by_cases hsmall : n < 10
    · rw [Nat.toDigits_of_lt_base hsmall]
      exact .digit (decimalValue?_digitChar n hsmall)
    · have hnext := (ih (n / 10) (by omega)).next (decimalValue?_digitChar (n % 10) (by omega))
      rw [Nat.toDigits_of_base_le (by decide) (by omega)]
      rwa [show n / 10 * 10 + n % 10 = n by omega] at hnext

/-- A number is read back as it was written. -/
theorem index_toString (n : Nat) : signedValue? indexValue? (toString n) = some (n : Int) := by
  have hcount := (countP_le_length (p := (· ≠ '_')) (l := Nat.toDigits 10 n)).trans
    (le_max_right digitLimit _)
  refine index_eq_some_iff.mpr
    ⟨[], _, [], n, by simp, ⟨numeral_toDigits n, hcount⟩, .inl ⟨.inl ?_, rfl⟩⟩
  rw [Nat.toString_eq_repr, Nat.toList_repr, append_nil, nil_append]

end OpenApiClient.Text

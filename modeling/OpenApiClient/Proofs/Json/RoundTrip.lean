import OpenApiClient.Document.Text
import OpenApiClient.Proofs.Json.Plain
import OpenApiClient.Proofs.Outcome
import OpenApiClient.Source.Literal

/-!
# A literal is read back

A value without fractions is written in a way that the reader of JSON takes back to the very value,
with the entries of its mappings in their order (`Source.literal_read_back`). It is written unless
an integer in it has more digits than are read or written. The written form is followed through the
reader part by part. What is shown of a part is `ReadsAs`: whatever closes or
goes on with the value around it, the reader stops behind the part with its value. A scalar reads as
itself, and a list or a mapping does if its parts do, so the induction is on the value. A string is
read unit by unit: each written character gives its own, whatever follows it
(`readUnits_writeChar`).
-/

namespace OpenApiClient.Json

/-! ### A written string is read back -/

/-- A control character is written by four digits that denote it. -/
theorem hexDigits_control : ∀ n < 0x20,
    Text.hexDigits 4 n = ['0', '0', Nat.digitChar (n / 16), Nat.digitChar (n % 16)] ∧
      hexValue4? '0' '0' (Nat.digitChar (n / 16)) (Nat.digitChar (n % 16)) = some n := by
  decide

/-- A written character is read as its code point. Something follows it, if only the quote at the
end: an escape by four digits is only complete then. -/
theorem readUnits_writeChar (opening : Nat) (c next : Char) (rest : List Char) :
    readUnits opening (writeChar c ++ next :: rest) =
      consUnit c.toNat (readUnits opening (next :: rest)) := by
  unfold writeChar
  split
  · subst c; simp [readUnits, escapedChar?]
  split
  · subst c; simp [readUnits, escapedChar?]
  split
  · subst c; simp [readUnits, escapedChar?]
  split
  · subst c; simp [readUnits, escapedChar?]
  split
  · subst c; simp [readUnits, escapedChar?]
  split
  · subst c; simp [readUnits, escapedChar?]
  split
  · subst c; simp [readUnits, escapedChar?]
  rename_i hquote hbackslash _ _ _ _ _
  split
  · rename_i hlow
    obtain ⟨hdigits, hvalue⟩ := hexDigits_control c.toNat hlow
    rw [hdigits]
    simp only [List.cons_append, List.nil_append]
    rw [readUnits, hvalue]
  · rename_i hhigh
    rw [List.singleton_append, readUnits, if_neg hhigh] <;> simp [hquote, hbackslash]

theorem readUnits_written (opening : Nat) (chars rest : List Char) :
    readUnits opening (chars.flatMap writeChar ++ '"' :: rest) =
      .ok (chars.map Char.toNat, rest) := by
  induction chars with
  | nil => simp [readUnits]
  | cons c others ih =>
    -- the quote at the end makes what follows a character non-empty
    obtain ⟨next, following, hfollowing⟩ : ∃ next following,
        others.flatMap writeChar ++ '"' :: rest = next :: following :=
      List.exists_cons_of_ne_nil (by simp)
    rw [hfollowing] at ih
    rw [List.flatMap_cons, List.append_assoc, hfollowing, readUnits_writeChar, ih]
    rfl

theorem isLeadingHalf_toNat (c : Char) : Text.isLeadingHalf c.toNat = false := by
  have hvalid : c.toNat < 0xd800 ∨ 0xdfff < c.toNat ∧ c.toNat < 0x110000 := c.valid
  simp only [Text.isLeadingHalf, Bool.and_eq_false_iff, decide_eq_false_iff_not]
  omega

/-- No character is half of another one. -/
theorem joinUnits_toNat (chars : List Char) : joinUnits (chars.map Char.toNat) = chars := by
  induction chars with
  | nil => rfl
  | cons c rest ih =>
    cases rest with
    | nil => simp [joinUnits]
    | cons d others =>
      rw [List.map_cons] at ih
      rw [List.map_cons, List.map_cons, joinUnits, isLeadingHalf_toNat, ih]
      simp

theorem readString_written (chars rest : List Char) :
    readString (chars.flatMap writeChar ++ '"' :: rest) = .ok (String.ofList chars, rest) := by
  rw [readString, readUnits_written]
  simp only [joinUnits_toNat]

end OpenApiClient.Json

namespace OpenApiClient

open List

/-- A value built of null, truth values, integers and texts by lists, and by mappings whose keys are
texts, each of which stands once. -/
inductive Value.Whole : Value → Prop
  | null : Whole .null
  | bool (value : Bool) : Whole (.bool value)
  | int (value : Int) : Whole (.int value)
  | text (value : String) : Whole (.text value)
  | list {items : List Value} : (∀ item ∈ items, Whole item) → Whole (.list items)
  | map {entries : Entries} : entries.Keyed → (∀ entry ∈ entries, Whole entry.2) →
      Whole (.map entries)

namespace Json

/-! ### Parts of a text -/

/-- Nothing follows, or a character that no value goes on with. -/
def Ends (rest : List Char) : Prop := ∀ c ∈ rest.head?, c ∈ [',', ']', '\x7d']

/-- A text starts with a character that can start a value. -/
def Starts (text : List Char) : Prop :=
  ∃ c rest, text = c :: rest ∧ isSpace c = false ∧ c ∉ [']', '\x7d', '\ufeff']

/-- A text is read as a value wherever this can end, with a depth that suffices for the text. -/
structure ReadsAs (text : List Char) (value : Value) : Prop where
  starts : Starts text
  read : ∀ depth rest, 2 * text.length ≤ depth → Ends rest →
    readValue depth (text ++ rest) = .ok (value, rest)

variable {text : List Char}

theorem Starts.append (h : Starts text) (more : List Char) : Starts (text ++ more) := by
  obtain ⟨c, others, rfl, hc⟩ := h
  exact ⟨c, others ++ more, rfl, hc⟩

theorem Starts.skipSpace (h : Starts text) : Json.skipSpace text = text := by
  obtain ⟨c, others, rfl, hspace, -⟩ := h
  exact dropWhile_cons_of_neg (by simp [hspace])

variable {value : Value}

/-- What is read at once takes no depth. -/
theorem ReadsAs.of_scalar (hstarts : Starts text)
    (h : ∀ depth rest, Ends rest → readValue (depth + 1) (text ++ rest) = .ok (value, rest)) :
    ReadsAs text value := by
  refine ⟨hstarts, fun depth rest hdepth hrest => ?_⟩
  obtain ⟨c, others, rfl, -⟩ := hstarts
  obtain ⟨less, rfl⟩ : ∃ less, depth = less + 1 :=
    Nat.exists_eq_succ_of_ne_zero (by simp only [length_cons] at hdepth; omega)
  exact h less rest hrest

/-! ### Integers and texts -/

theorem toDigits_head {n : Nat} (h : 0 < n) : (Nat.toDigits 10 n).head? ≠ some '0' := by
  induction n using Nat.strongRecOn with
  | ind n ih =>
    by_cases hsmall : n < 10
    · rw [Nat.toDigits_of_lt_base hsmall]
      have hdigits : ∀ n < 10, 0 < n → some (Nat.digitChar n) ≠ some '0' := by decide
      exact hdigits n hsmall h
    · rw [Nat.toDigits_of_base_le (by decide) (by omega),
        head?_append_of_ne_nil _ Nat.toDigits_ne_nil]
      exact ih (n / 10) (by omega) (by omega)

theorem decimalNat_toDigits (n : Nat) : decimalNat (Nat.toDigits 10 n) = n := by
  have hsame : ∀ digits, decimalNat digits = Nat.ofDigitChars 10 digits 0 := by
    intro digits
    simp only [decimalNat, Nat.ofDigitChars, Nat.mul_comm 10]
  rw [hsame, Nat.ofDigitChars_ten_toDigits]

theorem isDecimal_of_mem_toDigits {n : Nat} {c : Char} (h : c ∈ Nat.toDigits 10 n) :
    isDecimal c = true :=
  Nat.isDigit_of_mem_toDigits (by decide) (by decide) h

section Ends

variable {rest : List Char} (h : Ends rest)

include h

theorem Ends.integerDigits? (n : Nat) :
    Json.integerDigits? (Nat.toDigits 10 n ++ rest) = some (Nat.toDigits 10 n, rest) := by
  have hrest : rest.takeWhile isDecimal = [] ∧ rest.dropWhile isDecimal = rest := by
    cases rest with
    | nil => exact ⟨rfl, rfl⟩
    | cons c others =>
      have hc : isDecimal c = false := by
        have hnone : [',', ']', '\x7d'].any isDecimal = false := by decide
        simpa using any_eq_false.mp hnone c (h c rfl)
      simp [hc]
  by_cases hzero : n = 0
  · subst hzero
    rfl
  · have hhead := toDigits_head (Nat.pos_of_ne_zero hzero)
    have hall : ∀ c ∈ Nat.toDigits 10 n, isDecimal c = true := fun c => isDecimal_of_mem_toDigits
    cases hdigits : Nat.toDigits 10 n with
    | nil => exact absurd hdigits Nat.toDigits_ne_nil
    | cons c digits =>
      rw [hdigits] at hhead hall
      obtain ⟨hfirst, hothers⟩ := forall_mem_cons.mp hall
      rw [cons_append, Json.integerDigits?.eq_def]
      split
      · rename_i heq
        cases heq
        exact absurd rfl hhead
      · rename_i heq
        cases heq
        rw [if_pos hfirst, takeWhile_append_of_pos hothers,
          dropWhile_append_of_pos hothers, hrest.1, hrest.2, append_nil]
      · rename_i heq
        cases heq

theorem Ends.fractionDigits : Json.fractionDigits rest = ([], rest) := by
  unfold Json.fractionDigits
  split
  · have hpoint := h '.' rfl
    simp at hpoint
  · rfl

theorem Ends.exponentPart? : Json.exponentPart? rest = none := by
  cases rest with
  | nil => rfl
  | cons c others =>
    have hc : (c = 'e' || c = 'E') = false := by
      have hnone : [',', ']', '\x7d'].any (fun c => c = 'e' || c = 'E') = false := by decide
      simpa using any_eq_false.mp hnone c (h c rfl)
    simp only [Json.exponentPart?, hc, Bool.false_eq_true, if_false]

/-- The digits of a number are read as the number. -/
theorem Ends.readMagnitude? (negative : Bool) (n : Nat) :
    Json.readMagnitude? negative (Nat.toDigits 10 n ++ rest) =
      some (.int (if negative then -(n : Int) else n), rest) := by
  unfold Json.readMagnitude?
  rw [h.integerDigits?]
  simp only [bind, Option.bind, h.fractionDigits, h.exponentPart?, decimalNat_toDigits]
  rfl

end Ends

/-- A number at the start of a text is read, unless it has too many digits or the text may start with
another word. -/
theorem readValue_number {depth : Nat} {text rest : List Char} {number : Scalar}
    (hnumber : readNumber? text = some (number, rest)) (hshort : number.isLong = false)
    (hword : ∀ others, text ≠ '-' :: 'I' :: others) :
    readValue (depth + 1) text = .ok (.scalar number, rest) := by
  -- no other value starts with a digit or a sign
  have hother : ∀ c others, text = c :: others → c = '-' ∨ isDecimal c = true := by
    rintro c others rfl
    by_contra hc
    obtain ⟨hsign, hdigit⟩ := not_or.mp hc
    have hzero : c ≠ '0' := by
      rintro rfl
      exact hdigit rfl
    have hnone : integerDigits? (c :: others) = none := by
      rw [integerDigits?, if_neg hdigit]
      exact hzero
    have hnumber' : readMagnitude? false (c :: others) = some (number, rest) := by
      rw [← hnumber, readNumber?]
      exact fun _ heq => hsign (by simp_all)
    rw [readMagnitude?, hnone] at hnumber'
    cases hnumber'
  rw [readValue, hnumber]
  on_goal 1 => exact if_neg (Bool.eq_false_iff.mp hshort)
  on_goal 9 => exact fun _ => hword _
  all_goals
    intro others heq
    rcases hother _ _ heq with hsign | hdigit
    · cases hsign
    · cases hdigit

theorem ne_of_isDecimal {c d : Char} (hc : isDecimal c = true) (hd : isDecimal d = false) :
    c ≠ d := by
  rintro rfl
  rw [hc] at hd
  cases hd

theorem exists_toDigits (n : Nat) :
    ∃ c digits, Nat.toDigits 10 n = c :: digits ∧ isDecimal c = true := by
  obtain ⟨c, digits, heq⟩ := exists_cons_of_ne_nil (@Nat.toDigits_ne_nil n 10)
  exact ⟨c, digits, heq, isDecimal_of_mem_toDigits (heq ▸ mem_cons_self)⟩

/-- An integer reads as itself. -/
theorem readsAs_int {n : Int} (hshort : (Scalar.int n).isLong = false) :
    ReadsAs (toString n).toList (.int n) := by
  have hdigits : ∀ m : Nat, (toString m).toList = Nat.toDigits 10 m := fun m => by
    rw [Nat.toString_eq_repr, Nat.toList_repr]
  cases n with
  | ofNat m =>
    obtain ⟨c, others, heq, hc⟩ := exists_toDigits m
    have htext : (toString (Int.ofNat m)).toList = c :: others := (hdigits m).trans heq
    have hspace : isSpace c = false := by
      simp only [isSpace, Bool.or_eq_false_iff, decide_eq_false_iff_not]
      exact ⟨⟨⟨ne_of_isDecimal hc rfl, ne_of_isDecimal hc rfl⟩, ne_of_isDecimal hc rfl⟩,
        ne_of_isDecimal hc rfl⟩
    have hmark : c ∉ [']', '\x7d', '\ufeff'] := by
      have hnone : [']', '\x7d', '\ufeff'].any isDecimal = false := by decide
      exact fun hmem => any_eq_false.mp hnone c hmem hc
    rw [htext]
    refine .of_scalar ⟨c, others, rfl, hspace, hmark⟩ fun depth rest hrest =>
      readValue_number ?_ hshort fun _ hword => ?_
    · rw [cons_append, readNumber?, ← cons_append, ← heq, hrest.readMagnitude?]
      · rfl
      · exact fun _ hsign => ne_of_isDecimal (d := '-') hc rfl (List.cons.inj hsign).1
    · exact ne_of_isDecimal (d := '-') hc rfl (List.cons.inj hword).1
  | negSucc m =>
    obtain ⟨c, others, heq, hc⟩ := exists_toDigits (m + 1)
    have htext : (toString (Int.negSucc m)).toList = '-' :: Nat.toDigits 10 (m + 1) := by
      rw [← hdigits]
      exact String.toList_append
    rw [htext]
    refine .of_scalar ⟨'-', _, rfl, rfl, by decide⟩ fun depth rest hrest =>
      readValue_number ?_ hshort fun _ hword => ?_
    · rw [cons_append, readNumber?, hrest.readMagnitude?]
      rfl
    · rw [heq] at hword
      exact ne_of_isDecimal (d := 'I') hc rfl (List.cons.inj (List.cons.inj hword).2).1

/-- A text reads as itself. -/
theorem readsAs_text (name : String) : ReadsAs (writeString name).toList (.text name) := by
  refine .of_scalar ⟨'"', _, String.toList_ofList, rfl, by decide⟩ fun _ rest _ => ?_
  rw [writeString, String.toList_ofList, cons_append, append_assoc,
    singleton_append]
  rw [readValue, readString_written, String.ofList_toList]

/-! ### Lists and mappings -/

/-- A loop that reads parts with commas between them: `add` takes a part to those read before, and
`finish` makes a value of all of them when `close` comes. -/
structure Loop {α β : Type} (read : Nat → α → List Char → Reading Value) (close : Char)
    (part : String → β → Prop) (add : α → β → α) (finish : α → Value) : Prop where
  starts : ∀ {text item}, part text item → Starts text.toList
  last : ∀ {text item} depth before rest, part text item → 2 * text.toList.length ≤ depth →
    read (depth + 1) before (text.toList ++ close :: rest) = .ok (finish (add before item), rest)
  next : ∀ {text item} depth before rest, part text item → 2 * text.toList.length ≤ depth →
    Starts rest →
    read (depth + 1) before (text.toList ++ ',' :: ' ' :: rest) = read depth (add before item) rest

variable {texts : List String}

theorem Loop.run {α β : Type} {read : Nat → α → List Char → Reading Value} {close : Char}
    {part : String → β → Prop} {add : α → β → α} {finish : α → Value}
    (h : Loop read close part add finish) :
    ∀ {items : List β} {text : String} {item : β},
      List.Forall₂ part (text :: texts) (item :: items) →
      Starts (", ".intercalate (text :: texts)).toList ∧
      ∀ depth before rest, 2 * (", ".intercalate (text :: texts)).toList.length < depth →
        read depth before ((", ".intercalate (text :: texts)).toList ++ close :: rest) =
          .ok (finish ((item :: items).foldl add before), rest) := by
  induction texts with
  | nil =>
    intro items text item hparts
    obtain ⟨hpart, hnil⟩ := forall₂_cons.mp hparts
    cases hnil
    rw [String.intercalate_singleton]
    refine ⟨h.starts hpart, fun depth before rest hdepth => ?_⟩
    obtain ⟨less, rfl⟩ := Nat.exists_eq_add_of_lt hdepth
    exact h.last _ before rest hpart (by omega)
  | cons second texts ih =>
    intro items text item hparts
    obtain ⟨hpart, hothers⟩ := forall₂_cons.mp hparts
    obtain ⟨other, others, hother, hrest, rfl⟩ := forall₂_cons_left_iff.mp hothers
    obtain ⟨hstarts, hread⟩ := ih hothers
    have htext : (", ".intercalate (text :: second :: texts)).toList =
        text.toList ++ ',' :: ' ' :: (", ".intercalate (second :: texts)).toList := by
      simp [String.intercalate_cons_cons]
    rw [htext]
    refine ⟨(h.starts hpart).append _, fun depth before rest hdepth => ?_⟩
    simp only [length_append, length_cons] at hdepth
    obtain ⟨less, rfl⟩ := Nat.exists_eq_add_of_lt hdepth
    rw [append_assoc, cons_append, cons_append,
      h.next _ before _ hpart (by omega) (hstarts.append _)]
    exact hread _ _ _ (by omega)

/-- The items of a list are read one after the other, the last first. -/
theorem loop_readItems : Loop readItems ']' (fun text item => ReadsAs text.toList item)
    (fun before item => item :: before) (fun items => .list items.reverse) where
  starts h := h.starts
  last depth before rest h hdepth := by
    rw [readItems, h.read depth _ hdepth (by simp [Ends])]
    rfl
  next depth before rest h hdepth hrest := by
    rw [readItems, h.read depth _ hdepth (by simp [Ends])]
    exact congrArg (readItems depth _) hrest.skipSpace

/-- An entry as it is written: its key as a string, a colon and its value. -/
def EntryText (text : String) (entry : Scalar × Value) : Prop :=
  ∃ name value, entry.1 = .text name ∧ ReadsAs value entry.2 ∧
    text.toList = '"' :: (name.toList.flatMap writeChar ++ '"' :: ':' :: ' ' :: value)

theorem readMembers_entry {text : String} {entry : Scalar × Value} (h : EntryText text entry)
    {depth : Nat} (hdepth : 2 * text.toList.length ≤ depth) (entries : Entries) :
    (∀ rest, readMembers (depth + 1) entries (text.toList ++ '\x7d' :: rest) =
      .ok (.map (Entries.insert entries entry.1 entry.2), rest)) ∧
    ∀ rest, readMembers (depth + 1) entries (text.toList ++ ',' :: rest) =
      readMembers depth (Entries.insert entries entry.1 entry.2) (skipSpace rest) := by
  obtain ⟨name, value, hname, hvalue, htext⟩ := h
  simp only [htext, length_cons, length_append] at hdepth
  have hread : ∀ rest, Ends rest →
      readValue depth (skipSpace (' ' :: (value ++ rest))) = .ok (entry.2, rest) := by
    intro rest hrest
    exact (congrArg (readValue depth) (hvalue.starts.append rest).skipSpace).trans
      (hvalue.read depth rest (by omega) hrest)
  have hcolon : ∀ rest, skipSpace (':' :: rest) = ':' :: rest := fun _ => rfl
  have hclose : ∀ rest, skipSpace ('\x7d' :: rest) = '\x7d' :: rest := fun _ => rfl
  have hcomma : ∀ rest, skipSpace (',' :: rest) = ',' :: rest := fun _ => rfl
  constructor
  · intro rest
    simp only [htext, cons_append, append_assoc, readMembers, readString_written, hcolon,
      hread _ (show Ends ('\x7d' :: rest) by simp [Ends]), hclose, hname, String.ofList_toList]
  · intro rest
    simp only [htext, cons_append, append_assoc, readMembers, readString_written, hcolon,
      hread _ (show Ends (',' :: rest) by simp [Ends]), hcomma, hname, String.ofList_toList]

/-- The entries of a mapping are read one after the other, each into those before. -/
theorem loop_readMembers : Loop readMembers '\x7d' EntryText
    (fun entries entry => Entries.insert entries entry.1 entry.2) .map where
  starts := by
    rintro text entry ⟨name, value, -, -, htext⟩
    exact ⟨'"', _, htext, rfl, by decide⟩
  last _ before rest h hdepth := (readMembers_entry h hdepth before).1 rest
  next _ before rest h hdepth hrest := by
    rw [(readMembers_entry h hdepth before).2]
    exact congrArg (readMembers _ _) hrest.skipSpace

/-! ### Values -/

/-- What a loop reads between two brackets reads as the value that it makes. -/
theorem Loop.readsAs {α β : Type} {read : Nat → α → List Char → Reading Value}
    {opening close : Char} {part : String → β → Prop} {add : α → β → α} {finish : α → Value}
    (h : Loop read close part add finish) (start : α) (hopening : Starts [opening])
    (hempty : ∀ depth rest,
      readValue (depth + 1) (opening :: close :: rest) = .ok (finish start, rest))
    (hfull : ∀ depth text, Starts text →
      readValue (depth + 1) (opening :: text) = read depth start text) {items : List β}
    (hparts : List.Forall₂ part texts items) :
    ReadsAs (opening :: ((", ".intercalate texts).toList ++ [close]))
      (finish (items.foldl add start)) := by
  refine ⟨hopening.append _, fun depth rest hdepth _ => ?_⟩
  simp only [length_cons, length_append] at hdepth
  obtain ⟨less, rfl⟩ : ∃ less, depth = less + 1 := Nat.exists_eq_succ_of_ne_zero (by omega)
  rw [cons_append, append_assoc, singleton_append]
  cases hparts with
  | nil => exact hempty less rest
  | cons hpart hothers =>
    obtain ⟨hstarts, hread⟩ := h.run (.cons hpart hothers)
    rw [hfull less _ (hstarts.append _)]
    exact hread less start rest (by omega)

theorem Starts.readValue (h : Starts text) (depth : Nat) :
    Json.readValue (depth + 1) ('[' :: text) = readItems depth [] text ∧
      Json.readValue (depth + 1) ('\x7b' :: text) = readMembers depth [] text := by
  have hskip := h.skipSpace
  obtain ⟨c, rest, rfl, -, hc⟩ := h
  constructor
  all_goals
    rw [Json.readValue, hskip]
    split
    · rename_i heq
      cases heq
      exact absurd (by simp) hc
    · rfl

theorem readsAs_list {items : List Value}
    (h : List.Forall₂ (fun text item => ReadsAs text.toList item) texts items) :
    ReadsAs ('[' :: ((", ".intercalate texts).toList ++ [']'])) (.list items) := by
  have hall := loop_readItems.readsAs [] ⟨'[', [], rfl, rfl, by decide⟩ (fun _ _ => rfl)
    (fun depth _ htext => (htext.readValue depth).1) h
  rwa [foldl_flip_cons_eq_append', append_nil, reverse_reverse] at hall

theorem insert_of_new {entries : Entries} {name : String} {value : Value}
    (h : .text name ∉ entries.map (·.1)) :
    Entries.insert entries (.text name) value = entries ++ [(.text name, value)] := by
  induction entries with
  | nil => rfl
  | cons first others ih =>
    rw [map_cons, mem_cons, not_or] at h
    rw [Entries.insert, Scalar.sameValue_text, decide_eq_false (Ne.symm h.1), ih h.2]
    rfl

variable {entries : Entries}

/-- Entries whose keys are texts, each of which stands once, are put together in their order. -/
theorem ofPairs_of_keyed (h : entries.Keyed) : Entries.ofPairs entries = entries := by
  obtain ⟨htext, hnodup⟩ := h
  induction entries using reverseRecOn with
  | nil => rfl
  | append_singleton before last ih =>
    rw [map_append, nodup_append] at hnodup
    obtain ⟨hbefore, -, hapart⟩ := hnodup
    obtain ⟨htexts, hlast⟩ := forall_mem_append.mp htext
    obtain ⟨name, hname⟩ := hlast last (mem_singleton_self last)
    have hnew : .text name ∉ before.map (·.1) := fun hmem =>
      hapart _ hmem last.1 (by simp) hname.symm
    have hinsert := @insert_of_new before name last.2 hnew
    rw [Entries.ofPairs, foldl_append, ← Entries.ofPairs, ih htexts hbefore]
    rwa [← hname] at hinsert

theorem readsAs_map (hkeyed : entries.Keyed) (h : List.Forall₂ EntryText texts entries) :
    ReadsAs ('\x7b' :: ((", ".intercalate texts).toList ++ ['\x7d'])) (.map entries) := by
  have hall := loop_readMembers.readsAs [] ⟨'\x7b', [], rfl, rfl, by decide⟩ (fun _ _ => rfl)
    (fun depth _ htext => (htext.readValue depth).2) h
  rwa [← Entries.ofPairs, ofPairs_of_keyed hkeyed] at hall

/-! ### Writing -/

theorem forall₂_itemTexts {items : List Value} (h : ∀ item ∈ items, ∀ text,
    write item = .ok text → ReadsAs text.toList item) (hwrite : writeItems items = .ok texts) :
    List.Forall₂ (fun text item => ReadsAs text.toList item) texts items := by
  induction items generalizing texts with
  | nil =>
    cases hwrite
    exact .nil
  | cons item rest ih =>
    obtain ⟨hitem, hrest⟩ := forall_mem_cons.mp h
    obtain ⟨text, htext, hwrite⟩ := bind_eq_ok.mp hwrite
    obtain ⟨others, hothers, hwrite⟩ := bind_eq_ok.mp hwrite
    cases hwrite
    exact .cons (hitem text htext) (ih hrest hothers)

theorem forall₂_entryTexts (hkeys : ∀ entry ∈ entries, ∃ name, entry.1 = .text name)
    (h : ∀ entry ∈ entries, ∀ text, write entry.2 = .ok text → ReadsAs text.toList entry.2)
    (hwrite : writeEntries entries = .ok texts) : List.Forall₂ EntryText texts entries := by
  induction entries generalizing texts with
  | nil =>
    cases hwrite
    exact .nil
  | cons entry rest ih =>
    obtain ⟨hentry, hrest⟩ := forall_mem_cons.mp h
    obtain ⟨⟨name, hname⟩, hnames⟩ := forall_mem_cons.mp hkeys
    obtain ⟨key, value⟩ := entry
    subst hname
    obtain ⟨first, hfirst, hwrite⟩ := bind_eq_ok.mp hwrite
    obtain ⟨text, htext, hwrite⟩ := bind_eq_ok.mp hwrite
    obtain ⟨others, hothers, hwrite⟩ := bind_eq_ok.mp hwrite
    cases hfirst
    cases hwrite
    refine .cons ⟨name, text.toList, rfl, hentry text htext, ?_⟩ (ih hnames hrest hothers)
    simp [writeString]

/-- A value without fractions reads as itself if it is written. -/
theorem readsAs_of_write (h : value.Whole) :
    ∀ text, write value = .ok text → ReadsAs text.toList value := by
  induction h with
  | null =>
    rintro _ ⟨⟩
    exact .of_scalar ⟨'n', _, rfl, rfl, by decide⟩ fun _ _ _ => rfl
  | bool value =>
    rintro _ ⟨⟩
    cases value with
    | true => exact .of_scalar ⟨'t', _, rfl, rfl, by decide⟩ fun _ _ _ => rfl
    | false => exact .of_scalar ⟨'f', _, rfl, rfl, by decide⟩ fun _ _ _ => rfl
  | int value =>
    intro text hwrite
    rw [write, writeScalar] at hwrite
    split at hwrite
    · cases hwrite
    · rename_i hshort
      cases hwrite
      exact readsAs_int (Bool.eq_false_iff.mpr hshort)
  | text value =>
    rintro _ ⟨⟩
    exact readsAs_text value
  | list _ ih =>
    intro text hwrite
    obtain ⟨texts, htexts, hwrite⟩ := bind_eq_ok.mp hwrite
    cases hwrite
    simpa using readsAs_list (forall₂_itemTexts ih htexts)
  | map hkeyed _ ih =>
    intro text hwrite
    obtain ⟨texts, htexts, hwrite⟩ := bind_eq_ok.mp hwrite
    cases hwrite
    simpa using readsAs_map hkeyed (forall₂_entryTexts hkeyed.text ih htexts)

theorem ReadsAs.read_eq {text : String} (h : ReadsAs text.toList value) :
    Json.read text = .ok value := by
  have hvalue := h.read (2 * text.toList.length + 1) [] (by omega) (by simp [Ends])
  rw [append_nil] at hvalue
  have hchars : readChars text.toList = .ok value := by
    unfold readChars
    split
    · rename_i heq
      obtain ⟨c, rest, htext, -, hc⟩ := h.starts
      rw [htext] at heq
      cases heq
      exact absurd (by simp) hc
    · rw [h.starts.skipSpace, hvalue]
      rfl
  rw [Json.read, hchars]

end Json

theorem Source.literal_eq_ok {value : Value} {text : String} :
    literal value = .ok text ↔ Json.write value = .ok text := by
  unfold literal
  split
  · rename_i hwrite
    simp [hwrite]
  · rename_i hwrite
    split <;> simp [hwrite]

/-- A value built of null, truth values, integers and texts by lists and mappings has a literal
exactly if no integer in it has more digits than are written. The literal is read as that very
value, and where a mapping is wanted, as its entries in their order. -/
theorem Source.literal_read_back (value : Value) (h : value.Whole) :
    ((∃ text, Source.literal value = .ok text) ↔ value.Plain) ∧
      ∀ text, Source.literal value = .ok text → Json.read text = .ok value ∧
        ∀ format, format ≠ some .yaml →
          Document.read format text = Document.requireMapping value := by
  simp only [Source.literal_eq_ok]
  have hread : ∀ text, Json.write value = .ok text → Json.read text = .ok value :=
    fun text hwrite => (Json.readsAs_of_write h text hwrite).read_eq
  refine ⟨⟨fun hwrite => ?_, Json.exists_write⟩, fun text hwrite => ⟨hread text hwrite, ?_⟩⟩
  · obtain ⟨text, htext⟩ := hwrite
    exact Json.read_plain (hread text htext)
  · intro format hformat
    rw [Document.read, if_neg hformat, hread text hwrite]

/-- A mapping with a list, in which characters have to be escaped or could be taken for others. -/
def awkwardValue : Value :=
  .map [(.text "b\"\\", .list [.null, .int (-120), .text "\n\x01/\u2028😀", .list [], .map []]),
    (.text "", .bool false), (.text "a", .int 0)]

theorem Source.literal_read_back_awkwardValue :
    awkwardValue.Whole ∧ ∃ text, Source.literal awkwardValue = .ok text ∧
      Json.read text = .ok awkwardValue := by
  have hwhole : awkwardValue.Whole := by
    refine .map ⟨by simp, by decide⟩ ?_
    simp only [forall_mem_cons]
    refine ⟨.list ?_, .bool _, .int _, by simp⟩
    simp only [forall_mem_cons]
    exact ⟨.null, .int _, .text _, .list (by simp), .map ⟨by simp, nodup_nil⟩ (by simp),
      by simp⟩
  obtain ⟨text, htext⟩ := exists_eq_ok
    (by decide +kernel : (Source.literal awkwardValue).isOk = true)
  exact ⟨hwhole, text, htext, ((Source.literal_read_back awkwardValue hwhole).2 text htext).1⟩

/-- The least integer with more digits than are written has no literal. -/
theorem Source.not_literal_longInteger :
    (Value.int (Nat.pow 10 Text.digitLimit)).Whole ∧
      ¬ ∃ text, Source.literal (.int (Nat.pow 10 Text.digitLimit)) = .ok text := by
  refine ⟨.int _, ?_⟩
  rintro ⟨text, htext⟩
  have hlong : (Scalar.int (Nat.pow 10 Text.digitLimit)).isLong = true := by decide +kernel
  rw [Source.literal_eq_ok, Json.write, Json.writeScalar, if_pos hlong] at htext
  cases htext

end OpenApiClient

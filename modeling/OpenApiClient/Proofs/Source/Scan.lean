import OpenApiClient.Proofs.Outcome
import OpenApiClient.Source.Identifier
import OpenApiClient.Source.Literal
import OpenApiClient.Source.Pattern
import OpenApiClient.Text.Digit

/-!
# Texts that leave nothing open

A scanner goes through source text one character after the other and knows three things: strings in
double quotes and regular expressions between slashes, in both of which a backslash takes away the
meaning of the next character, and brackets. It gives up at a bracket that does not fit and at a line
end inside a regular expression.

A text is `Closed` if the scanner comes out of it as it went in: in no literal, and with no bracket
more or less than before. Closed texts can be put one after the other, and between brackets that
belong together (`closed_append`, `closed_enclosed`). All that is made of the words of a document is
closed, whatever the words are: strings, regular expressions, keys, identifiers and JSON values.
-/

namespace OpenApiClient.Source

open List

/-! ### The scanner -/

/-- What the scanner is in; `escaped` says whether a backslash comes before the next character. -/
inductive Region where
  | code
  | string (escaped : Bool)
  | pattern (escaped : Bool)
  deriving DecidableEq

/-- The state of the scanner: what it is in, and the brackets that have to come, the next one
first. -/
structure Scan where
  region : Region := .code
  due : List Char := []
  deriving DecidableEq

/-- The bracket that closes what a bracket opens. -/
def closing? (c : Char) : Option Char :=
  if c = '(' then some ')'
  else if c = '[' then some ']'
  else if c = '\x7b' then some '\x7d'
  else none

/-- Whether a bracket closes something. -/
def isClosing (c : Char) : Bool := c = ')' || c = ']' || c = '\x7d'

/-- Whether a character ends a line. -/
def isLineEnd (c : Char) : Bool := c = '\n' || c = '\r' || c = '\u2028' || c = '\u2029'

variable {c : Char}

namespace Scan

/-- The brackets that have to come after a character, if it is none that does not fit. -/
def brackets (due : List Char) (c : Char) : Option (List Char) :=
  match closing? c with
  | some bracket => some (bracket :: due)
  | none =>
    if !isClosing c then some due
    else if due.head? = some c then some due.tail
    else none

/-- Goes on by a character. -/
def step (scan : Scan) (c : Char) : Option Scan :=
  match scan.region with
  | .code =>
    if c = '"' then some { scan with region := .string false }
    else if c = '/' then some { scan with region := .pattern false }
    else (brackets scan.due c).map fun due => { scan with due }
  | .string true => some { scan with region := .string false }
  | .string false =>
    if c = '\\' then some { scan with region := .string true }
    else if c = '"' then some { scan with region := .code }
    else some scan
  | .pattern escaped =>
    if isLineEnd c then none
    else if escaped then some { scan with region := .pattern false }
    else if c = '\\' then some { scan with region := .pattern true }
    else if c = '/' then some { scan with region := .code }
    else some scan

/-- Goes through a text. -/
def run (scan : Scan) (text : List Char) : Option Scan := text.foldlM step scan

@[simp] theorem run_nil (scan : Scan) : scan.run [] = some scan := rfl

@[simp] theorem run_cons (scan : Scan) (c : Char) (text : List Char) :
    scan.run (c :: text) = (scan.step c).bind (run · text) := by
  rw [run, foldlM_cons]
  rfl

theorem run_append (scan : Scan) (first second : List Char) :
    scan.run (first ++ second) = (scan.run first).bind (run · second) := by
  rw [run, foldlM_append]
  rfl

theorem run_append_of {scan next last : Scan} {first second : List Char}
    (hfirst : scan.run first = some next) (hsecond : next.run second = some last) :
    scan.run (first ++ second) = some last := by
  rw [run_append, hfirst]
  exact hsecond

/-- The scanner with brackets that have to come after all others. -/
def under (scan : Scan) (outer : List Char) : Scan := { scan with due := scan.due ++ outer }

theorem brackets_under {due next : List Char} (outer : List Char) (h : brackets due c = some next) :
    brackets (due ++ outer) c = some (next ++ outer) := by
  unfold brackets at h ⊢
  cases hclosing : closing? c with
  | some bracket =>
    simp only [hclosing, Option.some.injEq] at h ⊢
    rw [← h, cons_append]
  | none =>
    simp only [hclosing] at h ⊢
    cases due with
    | nil => grind
    | cons bracket rest => grind

/-- Brackets further out do not matter. -/
theorem step_under {scan next : Scan} (outer : List Char) (h : scan.step c = some next) :
    (scan.under outer).step c = some (next.under outer) := by
  obtain ⟨region, due⟩ := scan
  cases region with
  | code =>
    simp only [step, under] at h ⊢
    cases hbrackets : brackets due c with
    | none => grind
    | some last =>
      rw [brackets_under outer hbrackets]
      grind
  | string escaped => cases escaped <;> simp only [step, under] at h ⊢ <;> grind
  | pattern escaped =>
    simp only [step, under] at h ⊢
    grind

theorem run_under (outer : List Char) {text : List Char} :
    ∀ {scan last : Scan}, scan.run text = some last →
      (scan.under outer).run text = some (last.under outer) := by
  induction text with
  | nil =>
    intro scan last h
    cases h
    rfl
  | cons c rest ih =>
    intro scan last h
    rw [run_cons] at h ⊢
    obtain ⟨next, hstep, hrest⟩ := Option.bind_eq_some_iff.mp h
    rw [step_under outer hstep]
    exact ih hrest

end Scan

/-! ### Closed texts -/

/-- The scanner comes out of a text as it went in. -/
def Closed (text : String) : Prop := Scan.run {} text.toList = some {}

instance (text : String) : Decidable (Closed text) :=
  inferInstanceAs (Decidable (Scan.run {} text.toList = some {}))

variable {text : String}

theorem Closed.run (h : Closed text) (due : List Char) :
    Scan.run { due } text.toList = some { due } :=
  Scan.run_under due h

theorem closed_append {first second : String} (hfirst : Closed first) (hsecond : Closed second) :
    Closed (first ++ second) := by
  rw [Closed, String.toList_append]
  exact Scan.run_append_of hfirst hsecond

variable {texts : List String}

theorem closed_join (h : ∀ text ∈ texts, Closed text) : Closed (String.join texts) := by
  induction texts with
  | nil => decide
  | cons first rest ih =>
    rw [forall_mem_cons] at h
    rw [String.join_cons]
    exact closed_append h.1 (ih h.2)

theorem closed_intercalate {between : String} (hbetween : Closed between)
    (h : ∀ text ∈ texts, Closed text) : Closed (between.intercalate texts) := by
  induction texts with
  | nil => rw [String.intercalate_nil]; decide
  | cons first rest ih =>
    rw [forall_mem_cons] at h
    cases rest with
    | nil => rw [String.intercalate_singleton]; exact h.1
    | cons second others =>
      rw [String.intercalate_cons_cons]
      exact closed_append (closed_append h.1 hbetween) (ih h.2)

/-- Closed texts can stand between brackets that belong together. -/
theorem closed_enclosed {start stop : String} (due : List Char)
    (hstart : Scan.run {} start.toList = some { due }) (htext : Closed text)
    (hstop : Scan.run { due } stop.toList = some {}) : Closed (start ++ text ++ stop) := by
  rw [Closed, String.toList_append, String.toList_append]
  exact Scan.run_append_of (Scan.run_append_of hstart (htext.run due)) hstop

/-! ### Plain characters -/

/-- The characters that have a meaning for the scanner outside of literals. -/
def marks : List Char := ['"', '/', '(', ')', '[', ']', '\x7b', '\x7d']

theorem step_of_notMem_marks (h : c ∉ marks) : Scan.step {} c = some {} := by
  simp only [marks, mem_cons, not_mem_nil, or_false, not_or] at h
  simp [Scan.step, Scan.brackets, closing?, isClosing, h]

/-- A text without marks is closed. -/
theorem closed_of_plain {text : List Char} (h : ∀ c ∈ text, c ∉ marks) :
    Closed (String.ofList text) := by
  rw [Closed, String.toList_ofList]
  induction text with
  | nil => rfl
  | cons c rest ih =>
    rw [forall_mem_cons] at h
    rw [Scan.run_cons, step_of_notMem_marks h.1]
    exact ih h.2

/-- A property that no mark has keeps a character from being one. -/
theorem notMem_marks {property : Char → Bool} (hmarks : marks.any property = false)
    (hc : property c = true) : c ∉ marks := by
  intro hmem
  rw [any_eq_false] at hmarks
  exact hmarks c hmem hc

theorem closed_of_forall {property : Char → Bool} (hmarks : marks.any property = false)
    {text : List Char} (h : ∀ c ∈ text, property c = true) : Closed (String.ofList text) :=
  closed_of_plain fun c hc => notMem_marks hmarks (h c hc)

/-! ### Names and keys -/

theorem isIdentifierChar_of_mem_identifier {name : String} (h : c ∈ (identifier name).toList) :
    isIdentifierChar c = true := by
  have hreplaced : ∀ c ∈ replaceInvalid name.toList, isIdentifierChar c = true := by
    intro c hc
    obtain ⟨d, -, rfl⟩ := mem_map.mp hc
    split
    · assumption
    · rfl
  unfold identifier at h
  split at h
  · rw [mem_singleton.mp h]
    rfl
  · rw [String.toList_ofList, guardStart] at h
    split at h
    · rcases mem_cons.mp h with rfl | h
      · rfl
      · exact hreplaced c h
    · exact hreplaced c h

/-- Identifiers of schemas are closed. -/
theorem closed_identifier (name : String) : Closed (identifier name) := by
  rw [← String.ofList_toList (s := identifier name)]
  exact closed_of_forall (by decide) fun c hc => isIdentifierChar_of_mem_identifier hc

theorem isIdentifierChar_of_start (h : isIdentifierStart c = true) : isIdentifierChar c = true := by
  simp only [isIdentifierStart, isIdentifierChar, Char.isAlphanum, Bool.or_eq_true] at h ⊢
  tauto

theorem isIdentifierChar_of_isIdentifier (h : isIdentifier text = true) :
    ∀ c ∈ dropNewline text.toList, isIdentifierChar c = true := by
  unfold isIdentifier isIdentifierChars at h
  split at h
  · cases h
  · rename_i first rest htext
    rw [Bool.and_eq_true, all_eq_true] at h
    rw [htext, forall_mem_cons]
    exact ⟨isIdentifierChar_of_start h.1, h.2⟩

/-- A text that counts as an identifier has no marks, also if a line end follows it. -/
theorem closed_of_isIdentifier (h : isIdentifier text = true) : Closed text := by
  have hchars := isIdentifierChar_of_isIdentifier h
  rw [← String.ofList_toList (s := text)]
  refine closed_of_plain fun c hc => ?_
  by_cases hend : c = '\n'
  · rw [hend]
    decide
  · refine notMem_marks (by decide : marks.any isIdentifierChar = false) (hchars c ?_)
    unfold dropNewline
    split
    · rename_i hlast
      have hsplit := dropLast_append_getLast? _ hlast
      rw [← hsplit, mem_append, mem_singleton] at hc
      exact hc.resolve_right hend
    · exact hc

/-! ### Strings -/

/-- Inside a string, a written character leaves the scanner there. -/
theorem run_writeChar (c : Char) :
    Scan.run { region := .string false } (Json.writeChar c) = some { region := .string false } := by
  unfold Json.writeChar
  split
  · rfl
  split
  · rfl
  split
  · rfl
  split
  · rfl
  split
  · rfl
  split
  · rfl
  split
  · rfl
  rename_i hquote hbackslash _ _ _ _ _
  split
  · rename_i hlow
    have hdigits : ∀ n < 0x20, Scan.run { region := .string false }
        ('\\' :: 'u' :: Text.hexDigits 4 n) = some { region := .string false } := by decide
    exact hdigits c.toNat hlow
  · simp [Scan.step, hquote, hbackslash]

theorem closed_writeString (text : String) : Closed (Json.writeString text) := by
  have hchars : ∀ chars : List Char, Scan.run { region := .string false }
      (chars.flatMap Json.writeChar) = some { region := .string false } := by
    intro chars
    induction chars with
    | nil => rfl
    | cons c rest ih => exact Scan.run_append_of (run_writeChar c) ih
  rw [Closed, Json.writeString, String.toList_ofList]
  exact Scan.run_append_of (hchars text.toList) rfl

theorem closed_propertyKey (name : String) : Closed (propertyKey name) := by
  unfold propertyKey
  split
  · rename_i hname
    exact closed_of_isIdentifier hname
  · exact closed_writeString name

/-! ### Regular expressions -/

theorem isLineEnd_of_lineEndEscape? (h : lineEndEscape? c = none) : isLineEnd c = false := by
  unfold lineEndEscape? at h
  simp only [isLineEnd]
  grind

/-- What stands for a line end after a backslash. -/
theorem run_lineEndEscape {escape : List Char} (h : lineEndEscape? c = some escape) :
    Scan.run { region := .pattern true } escape = some { region := .pattern false } := by
  unfold lineEndEscape? at h
  split at h
  · cases h; rfl
  split at h
  · cases h; rfl
  split at h
  · cases h; rfl
  split at h
  · cases h; rfl
  · cases h

/-- Inside a regular expression, the characters of a pattern leave the scanner there, and no
backslash is left over. -/
theorem run_patternChars (escaped : Bool) (pattern : List Char) :
    Scan.run { region := .pattern escaped } (patternChars escaped pattern) =
      some { region := .pattern false } := by
  fun_induction patternChars escaped pattern with
  | case1 => rfl
  | case2 => rfl
  | case3 escaped c rest escape hescape ih =>
    refine Scan.run_append_of ?_ ih
    cases escaped with
    | true => exact run_lineEndEscape hescape
    | false => exact run_lineEndEscape hescape
  | case4 c rest hescape ih =>
    simp [Scan.step, isLineEnd_of_lineEndEscape? hescape, ih]
  | case5 escaped rest hescaped _ ih =>
    rw [Bool.not_eq_true] at hescaped
    rw [hescaped, Scan.run_cons]
    exact ih
  | case6 escaped rest hescaped _ _ ih =>
    rw [Bool.not_eq_true] at hescaped
    rw [hescaped, Scan.run_cons]
    exact ih
  | case7 escaped c rest hescape hescaped hbackslash hslash ih =>
    rw [Bool.not_eq_true] at hescaped
    simp [Scan.step, hescaped, isLineEnd_of_lineEndEscape? hescape, hbackslash, hslash, ih]

theorem closed_patternLiteral (pattern : String) : Closed (patternLiteral pattern) := by
  unfold patternLiteral
  split
  · decide
  · rw [Closed, String.toList_ofList]
    exact Scan.run_append_of (run_patternChars false pattern.toList) rfl

/-! ### Numbers -/

variable {digits : List Char}

theorem closed_digits (h : ∀ c ∈ digits, c.isDigit = true) : Closed (String.ofList digits) :=
  closed_of_forall (by decide) h

theorem isDigit_of_mem_toDigits {n : Nat} : ∀ c ∈ Nat.toDigits 10 n, c.isDigit = true :=
  fun _ => Nat.isDigit_of_mem_toDigits (by decide) (by decide)

theorem closed_nat (n : Nat) : Closed (toString n) := by
  rw [Nat.toString_eq_repr]
  exact closed_digits isDigit_of_mem_toDigits

theorem closed_int (value : Int) : Closed (toString value) := by
  cases value with
  | ofNat n => exact closed_nat n
  | negSucc n => exact closed_append (by decide : Closed "-") (closed_nat (n + 1))

theorem closed_zeros (count : Nat) : Closed (Number.zeros count) :=
  closed_digits fun c hc => by rw [eq_of_mem_replicate hc]; rfl

theorem closed_exponentDigits (n : Nat) : Closed (Number.exponentDigits n) := by
  unfold Number.exponentDigits
  dsimp only
  split
  · exact closed_append (by decide) (closed_nat n)
  · exact closed_nat n

theorem closed_positional (h : ∀ c ∈ digits, c.isDigit = true) (point : Int) :
    Closed (Number.positional digits point) := by
  unfold Number.positional
  split
  · exact closed_append (closed_append (by decide) (closed_zeros _)) (closed_digits h)
  split
  · exact closed_append (closed_append (closed_digits h) (closed_zeros _)) (by decide)
  · refine closed_append (closed_append (closed_digits fun c hc => ?_) (by decide))
      (closed_digits fun c hc => ?_)
    · exact h c (mem_of_mem_take hc)
    · exact h c (mem_of_mem_drop hc)

theorem closed_scientific (h : ∀ c ∈ digits, c.isDigit = true) (point : Int) :
    Closed (Number.scientific digits point) := by
  have hsign : ∀ negative : Prop, [Decidable negative] → Closed (if negative then "-" else "+") := by
    intro negative _
    split <;> decide
  unfold Number.scientific
  refine closed_append (closed_append (closed_append ?_ (by decide)) (hsign _))
    (closed_exponentDigits _)
  split
  · decide
  · exact closed_digits h
  · rw [forall_mem_cons] at h
    refine closed_append (closed_append (closed_digits ?_) (by decide)) (closed_digits h.2)
    simpa using h.1

theorem closed_number (value : Double) : Closed (Number.text .inSource value) := by
  have hsign : ∀ negative : Bool, Closed (if negative then "-" else "") := by decide
  cases value with
  | nan _ => exact (by decide : Closed "NaN")
  | infinite negative => exact closed_append (hsign negative) (by decide)
  | finite negative significand exponent =>
    refine closed_append (hsign negative) ?_
    unfold Number.Decimal.text
    dsimp only
    split
    · exact closed_positional isDigit_of_mem_toDigits _
    · exact closed_scientific isDigit_of_mem_toDigits _

/-! ### JSON -/

theorem closed_writeScalar {value : Scalar} (h : Json.writeScalar value = .ok text) :
    Closed text := by
  cases value with
  | null => cases h; decide
  | bool value => cases h; cases value <;> decide
  | int value =>
    rw [Json.writeScalar] at h
    split at h
    · cases h
    · cases h
      exact closed_int value
  | float value => cases h; exact closed_number value
  | text value => cases h; exact closed_writeString value
  | bytes _ => cases h
  | timestamp _ => cases h

theorem closed_writeKey {key : Scalar} (h : Json.writeKey key = .ok text) : Closed text := by
  unfold Json.writeKey at h
  split at h
  · cases h
  · cases h
  · cases h
    exact closed_writeString _
  · split at h
    · cases h
      exact closed_writeString _
    · cases h

theorem closed_list (h : ∀ text ∈ texts, Closed text) : Closed (", ".intercalate texts) :=
  closed_intercalate (by decide) h

mutual

theorem closed_write : ∀ {value : Value} {text : String}, Json.write value = .ok text → Closed text
  | .scalar value, text, h => closed_writeScalar h
  | .list items, text, h => by
    obtain ⟨texts, htexts, h⟩ := bind_eq_ok.mp h
    cases h
    exact closed_enclosed [']'] rfl (closed_list (closed_writeItems htexts)) rfl
  | .map entries, text, h => by
    obtain ⟨texts, htexts, h⟩ := bind_eq_ok.mp h
    cases h
    exact closed_enclosed ['\x7d'] rfl (closed_list (closed_writeEntries htexts)) rfl
  | .pair key value, text, h => by
    obtain ⟨first, hfirst, h⟩ := bind_eq_ok.mp h
    obtain ⟨second, hsecond, h⟩ := bind_eq_ok.mp h
    cases h
    have hboth : Closed (first ++ ", " ++ second) :=
      closed_append (closed_append (closed_write hfirst) (by decide)) (closed_write hsecond)
    have hclosed : Closed ("[" ++ (first ++ ", " ++ second) ++ "]") :=
      closed_enclosed [']'] rfl hboth rfl
    simpa only [String.append_assoc] using hclosed
  | .set _, text, h => by cases h
  | .again _, text, h => by cases h

theorem closed_writeItems : ∀ {items : List Value} {texts : List String},
    Json.writeItems items = .ok texts → ∀ text ∈ texts, Closed text
  | [], texts, h => by cases h; simp
  | item :: rest, texts, h => by
    obtain ⟨first, hfirst, h⟩ := bind_eq_ok.mp h
    obtain ⟨others, hothers, h⟩ := bind_eq_ok.mp h
    cases h
    exact forall_mem_cons.mpr ⟨closed_write hfirst, closed_writeItems hothers⟩

theorem closed_writeEntries : ∀ {entries : List (Scalar × Value)} {texts : List String},
    Json.writeEntries entries = .ok texts → ∀ text ∈ texts, Closed text
  | [], texts, h => by cases h; simp
  | (key, value) :: rest, texts, h => by
    obtain ⟨first, hfirst, h⟩ := bind_eq_ok.mp h
    obtain ⟨second, hsecond, h⟩ := bind_eq_ok.mp h
    obtain ⟨others, hothers, h⟩ := bind_eq_ok.mp h
    cases h
    refine forall_mem_cons.mpr ⟨?_, closed_writeEntries hothers⟩
    exact closed_append (closed_append (closed_writeKey hfirst) (by decide)) (closed_write hsecond)

end

/-- Values are written as closed literals. -/
theorem closed_literal {value : Value} (h : literal value = .ok text) : Closed text := by
  unfold literal at h
  split at h
  · rename_i htext
    cases h
    exact closed_write htext
  · split at h <;> cases h

theorem closed_literals {values : List Value} (h : literals values = .ok text) : Closed text := by
  obtain ⟨texts, htexts, h⟩ := bind_eq_ok.mp h
  cases h
  refine closed_list fun text htext => ?_
  obtain ⟨value, -, hvalue⟩ := exists_of_forall₂ (mapM_eq_ok_iff.mp htexts) htext
  exact closed_literal hvalue

end OpenApiClient.Source

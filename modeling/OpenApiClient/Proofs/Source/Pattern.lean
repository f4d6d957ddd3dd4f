import OpenApiClient.Proofs.Named
import OpenApiClient.Proofs.Source.Scan

/-!
# Regular expressions keep their pattern

A pattern is read as tokens: a backslash goes with the character after it, and every other character
stands alone. Between the slashes of the literal stand the tokens of the pattern, each in its place
and unchanged, but for those that would end the literal: a slash, a line end, and a backslash with
nothing after it (`tokens_patternChars`). None of these is left, so that what stands between the
slashes is written as it is when it is taken for a pattern again (`patternChars_of_settled`).
-/

namespace OpenApiClient.Source

open List

/-! ### Tokens -/

/-- What a pattern is made of: a character, or a backslash with the character after it. -/
inductive Token where
  | plain (c : Char)
  | escaped (c : Char)
  deriving DecidableEq, Repr

/-- The tokens of a text. A backslash at the end, which nothing follows, is plain. -/
def tokens : List Char → List Token
  | [] => []
  | [c] => [.plain c]
  | c :: d :: rest => if c = '\\' then .escaped d :: tokens rest else .plain c :: tokens (d :: rest)

theorem tokens_backslash (c : Char) (rest : List Char) :
    tokens ('\\' :: c :: rest) = .escaped c :: tokens rest := by
  rw [tokens, if_pos rfl]

theorem tokens_cons {c : Char} (hc : c ≠ '\\') (rest : List Char) :
    tokens (c :: rest) = .plain c :: tokens rest := by
  cases rest with
  | nil => rfl
  | cons d rest => rw [tokens, if_neg hc]

namespace Token

/-- The character of a token, without a backslash before it. -/
def char : Token → Char
  | .plain c => c
  | .escaped c => c

/-- All characters of a token. -/
def chars : Token → List Char
  | .plain c => [c]
  | .escaped c => ['\\', c]

/-- The line ends, each with its escape: a backslash with a letter, and the digits after them. -/
def lineEnds : List (Char × List Token) :=
  [('\n', [.escaped 'n']), ('\r', [.escaped 'r']),
   ('\u2028', [.escaped 'u', .plain '2', .plain '0', .plain '2', .plain '8']),
   ('\u2029', [.escaped 'u', .plain '2', .plain '0', .plain '2', .plain '9'])]

/-- The escape of a line end. -/
def ofLineEnd? (c : Char) : Option (List Token) := lineEnds.lookup c

/-- What a token of a pattern becomes in the literal. -/
def written (token : Token) : List Token :=
  (ofLineEnd? token.char).getD
    (if token = .plain '/' ∨ token = .plain '\\' then [.escaped token.char] else [token])

/-- A token that can stand in a literal as it is. -/
def Settled (token : Token) : Prop :=
  isLineEnd token.char = false ∧ token ≠ .plain '/' ∧ token ≠ .plain '\\'

instance : DecidablePred Settled := fun token =>
  inferInstanceAs (Decidable
    (isLineEnd token.char = false ∧ token ≠ .plain '/' ∧ token ≠ .plain '\\'))

theorem ofLineEnd?_eq_none {c : Char} : ofLineEnd? c = none ↔ isLineEnd c = false := by
  simp [ofLineEnd?, lineEnds, isLineEnd, lookup_eq_none_iff, and_assoc]

theorem ofLineEnd?_settled {c : Char} {unit : List Token} (h : ofLineEnd? c = some unit) :
    unit ≠ [] ∧ ∀ token ∈ unit, token.Settled := by
  have hall : ∀ entry ∈ lineEnds, entry.2 ≠ [] ∧ ∀ token ∈ entry.2, token.Settled := by decide
  exact hall _ (Named.mem_of_lookup h)

/-- What is written for a token is something, and can stand as it is. -/
theorem written_settled (token : Token) :
    token.written ≠ [] ∧ ∀ next ∈ token.written, next.Settled := by
  unfold written
  cases hend : ofLineEnd? token.char with
  | some unit => exact ofLineEnd?_settled hend
  | none =>
    have hchar := ofLineEnd?_eq_none.mp hend
    rw [Option.getD_none]
    split
    · exact ⟨by simp, forall_mem_singleton.mpr ⟨hchar, by simp, by simp⟩⟩
    · rename_i hplain
      exact ⟨by simp, forall_mem_singleton.mpr ⟨hchar, not_or.mp hplain⟩⟩

theorem written_of_settled {token : Token} (h : token.Settled) : token.written = [token] := by
  rw [written, ofLineEnd?_eq_none.mpr h.1, Option.getD_none,
    if_neg (not_or.mpr ⟨h.2.1, h.2.2⟩)]

end Token

theorem flatMap_chars_tokens (text : List Char) : (tokens text).flatMap Token.chars = text := by
  fun_induction tokens text with
  | case1 => rfl
  | case2 c => rfl
  | case3 d rest ih => rw [flatMap_cons, ih]; rfl
  | case4 c d rest hc ih => rw [flatMap_cons, ih]; rfl

/-! ### The tokens of a literal -/

/-- The escape of a line end is read as such, whatever follows it. -/
theorem tokens_lineEndEscape {c : Char} {escape : List Char} (h : lineEndEscape? c = some escape)
    (rest : List Char) : ∃ unit, Token.ofLineEnd? c = some unit ∧
      tokens ('\\' :: (escape ++ rest)) = unit ++ tokens rest := by
  unfold lineEndEscape? at h
  split at h
  · cases h
    subst c
    exact ⟨_, rfl, tokens_backslash _ _⟩
  split at h
  · cases h
    subst c
    exact ⟨_, rfl, tokens_backslash _ _⟩
  split at h
  · cases h
    subst c
    exact ⟨_, rfl, by simp [tokens_backslash, tokens_cons]⟩
  split at h
  · cases h
    subst c
    exact ⟨_, rfl, by simp [tokens_backslash, tokens_cons]⟩
  · cases h

/-- After a backslash, the first character is read together with it. -/
theorem tokens_patternChars_escaped (c : Char) (rest : List Char) :
    tokens ('\\' :: patternChars true (c :: rest)) =
      (Token.escaped c).written ++ tokens (patternChars false rest) := by
  rw [patternChars]
  cases hend : lineEndEscape? c with
  | some escape =>
    obtain ⟨unit, hunit, htokens⟩ := tokens_lineEndEscape hend (patternChars false rest)
    simpa [Token.written, Token.char, hunit] using htokens
  | none =>
    have hnone := Token.ofLineEnd?_eq_none.mpr (isLineEnd_of_lineEndEscape? hend)
    simp [Token.written, Token.char, hnone, tokens_backslash]

/-- Without a backslash before it, a character that is none itself is read alone. -/
theorem tokens_patternChars_plain {c : Char} (hc : c ≠ '\\') (rest : List Char) :
    tokens (patternChars false (c :: rest)) =
      (Token.plain c).written ++ tokens (patternChars false rest) := by
  rw [patternChars]
  cases hend : lineEndEscape? c with
  | some escape =>
    obtain ⟨unit, hunit, htokens⟩ := tokens_lineEndEscape hend (patternChars false rest)
    simpa [Token.written, Token.char, hunit] using htokens
  | none =>
    have hnone := Token.ofLineEnd?_eq_none.mpr (isLineEnd_of_lineEndEscape? hend)
    by_cases hslash : c = '/'
    · subst hslash
      simp [Token.written, Token.char, hnone, tokens_backslash]
    · simp [Token.written, Token.char, hnone, hc, hslash, tokens_cons]

/-- Each token of a pattern becomes what is written for it, in the same order. -/
theorem tokens_patternChars (pattern : List Char) :
    tokens (patternChars false pattern) = (tokens pattern).flatMap Token.written := by
  -- The recursion is that of `tokens`, which takes a backslash and the character after it at once.
  fun_induction tokens pattern with
  | case1 => rfl
  | case2 c =>
    by_cases hc : c = '\\'
    · rw [hc]
      rfl
    · rw [tokens_patternChars_plain hc, flatMap_cons]
      rfl
  | case3 d rest ih =>
    rw [flatMap_cons, ← ih]
    exact tokens_patternChars_escaped d rest
  | case4 c d rest hc ih => rw [tokens_patternChars_plain hc, ih, flatMap_cons]

theorem settled_of_mem_tokens {pattern : List Char} {token : Token}
    (h : token ∈ tokens (patternChars false pattern)) : token.Settled := by
  rw [tokens_patternChars] at h
  obtain ⟨other, -, htoken⟩ := mem_flatMap.mp h
  exact other.written_settled.2 token htoken

/-! ### Settled texts -/

theorem isLineEnd_of_settled {text : List Char} (h : ∀ token ∈ tokens text, token.Settled) :
    ∀ c ∈ text, isLineEnd c = false := by
  intro c hc
  rw [← flatMap_chars_tokens text] at hc
  obtain ⟨token, htoken, hmem⟩ := mem_flatMap.mp hc
  have hend := (h token htoken).1
  cases token with
  | plain d =>
    rw [mem_singleton.mp hmem]
    exact hend
  | escaped d =>
    rcases mem_cons.mp hmem with rfl | hmem
    · rfl
    · rw [mem_singleton.mp hmem]
      exact hend

/-- A text of settled tokens is written as it is. -/
theorem patternChars_of_settled {text : List Char} (h : ∀ token ∈ tokens text, token.Settled) :
    patternChars false text = text := by
  have hwritten : (tokens text).flatMap Token.written = tokens text := by
    rw [flatMap_congr fun token htoken => Token.written_of_settled (h token htoken)]
    exact flatMap_singleton' _
  calc patternChars false text
      = (tokens (patternChars false text)).flatMap Token.chars := (flatMap_chars_tokens _).symm
    _ = (tokens text).flatMap Token.chars := by rw [tokens_patternChars, hwritten]
    _ = text := flatMap_chars_tokens text

theorem patternChars_ne_nil {pattern : List Char} (h : pattern ≠ []) :
    patternChars false pattern ≠ [] := by
  intro hnil
  have htokens := tokens_patternChars pattern
  rw [hnil] at htokens
  cases hpattern : tokens pattern with
  | nil =>
    apply h
    rw [← flatMap_chars_tokens pattern, hpattern]
    rfl
  | cons first rest =>
    rw [hpattern, flatMap_cons] at htokens
    exact first.written_settled.1 (append_eq_nil_iff.mp htokens.symm).1

/-- What can stand between the slashes of a literal: something, without a line end, a slash that
ends the literal or a backslash that takes the closing slash. -/
structure Body (body : List Char) : Prop where
  nonempty : body ≠ []
  lineEnd : ∀ c ∈ body, isLineEnd c = false
  slash : .plain '/' ∉ tokens body
  backslash : .plain '\\' ∉ tokens body

theorem body_of_settled {body : List Char} (hne : body ≠ [])
    (h : ∀ token ∈ tokens body, token.Settled) : Body body where
  nonempty := hne
  lineEnd := isLineEnd_of_settled h
  slash hmem := (h _ hmem).2.1 rfl
  backslash hmem := (h _ hmem).2.2 rfl

theorem patternLiteral_of_ne {pattern : String} (h : pattern ≠ "") : patternLiteral pattern =
    String.ofList ('/' :: (patternChars false pattern.toList ++ ['/'])) := by
  rw [patternLiteral, if_neg (by simpa using h)]

/-- A literal keeps the pattern: between its slashes stand the tokens of the pattern, each one as it
is or as the escape that takes its place, and the literal of that is the same again. -/
theorem patternLiteral_keeps_tokens (pattern : String) :
    ∃ body, (patternLiteral pattern).toList = '/' :: (body ++ ['/']) ∧ Body body ∧
      (pattern ≠ "" → tokens body = (tokens pattern.toList).flatMap Token.written) ∧
      patternLiteral (String.ofList body) = patternLiteral pattern := by
  by_cases hempty : pattern = ""
  · rw [hempty]
    refine ⟨"(?:)".toList, by decide, ?_, fun hne => absurd rfl hne, by decide⟩
    exact ⟨by decide, by simp [isLineEnd], by decide, by decide⟩
  · have hsettled : ∀ token ∈ tokens (patternChars false pattern.toList), token.Settled :=
      fun _ => settled_of_mem_tokens
    have hne : patternChars false pattern.toList ≠ [] :=
      patternChars_ne_nil fun hnil => hempty (String.toList_eq_nil_iff.mp hnil)
    have hagain : String.ofList (patternChars false pattern.toList) ≠ "" := by simpa using hne
    refine ⟨patternChars false pattern.toList, ?_, body_of_settled hne hsettled,
      fun _ => tokens_patternChars _, ?_⟩
    · rw [patternLiteral_of_ne hempty, String.toList_ofList]
    · rw [patternLiteral_of_ne hagain, patternLiteral_of_ne hempty, String.toList_ofList,
        patternChars_of_settled hsettled]

theorem patternLiteral_keeps_tokens_mixed :
    ("a/\\/\\\\/\\\n\u2029\\" : String) ≠ "" ∧
      ∃ body, (patternLiteral "a/\\/\\\\/\\\n\u2029\\").toList = '/' :: (body ++ ['/']) ∧
        Body body ∧ tokens body =
          [.plain 'a', .escaped '/', .escaped '/', .escaped '\\', .escaped '/', .escaped 'n',
            .escaped 'u', .plain '2', .plain '0', .plain '2', .plain '9', .escaped '\\'] := by
  have hne : ("a/\\/\\\\/\\\n\u2029\\" : String) ≠ "" := by decide
  obtain ⟨body, hliteral, hbody, htokens, -⟩ :=
    patternLiteral_keeps_tokens "a/\\/\\\\/\\\n\u2029\\"
  exact ⟨hne, body, hliteral, hbody, (htokens hne).trans (by decide)⟩

end OpenApiClient.Source

import OpenApiClient.Proofs.Client.Closed
import OpenApiClient.Proofs.Client.Source
import OpenApiClient.Proofs.Json.RoundTrip
import OpenApiClient.Proofs.Text.Integer

/-!
# Identifiers that a module can bind

The source of a client is a module, and a module reserves more words than a script does. Whatever a
schema is called, its identifier has the form of one, is its own identifier, and is no name that the
source binds itself. An identifier starts with an underscore that was put there, or it is the name
with its other characters replaced (`identifier_cases`). So it is a word that modules reserve in six
cases only, in which the schema is called so itself (`identifier_bindable_iff`). A name also counts
as an identifier with a line end after it, which has no meaning in the source. So its key denotes
another name (`propertyKey_denotes_iff`), and names that are told apart may be bound twice
(`bound_names_apart_iff`).
-/

namespace OpenApiClient

/-! ### The names a client binds -/

open List

namespace Source

/-- A name as it is read in the source, where blanks around it do not count. -/
def token (name : String) : String := String.ofList (Text.trimBlank name.toList)

theorem not_isBlank_of_isIdentifierChar {c : Char} (h : isIdentifierChar c = true) :
    Text.isBlank c = false := by
  have hbounds : 36 ≤ c.toNat ∧ c.toNat ≤ 122 := by
    rw [isIdentifierChar, Bool.or_eq_true, Bool.or_eq_true, decide_eq_true_eq,
      decide_eq_true_eq] at h
    rcases h with (halphanum | rfl) | rfl
    · delta Char.isAlphanum Char.isAlpha Char.isUpper Char.isLower Char.isDigit at halphanum
      simp only [Bool.or_eq_true, Bool.and_eq_true, decide_eq_true_eq, ge_iff_le,
        UInt32.le_iff_toNat_le] at halphanum
      simp only [Char.toNat, Char.reduceVal, UInt32.reduceToNat] at halphanum ⊢
      omega
    · decide
    · decide
  simp only [Text.isBlank, Text.blankRanges, Text.Ranges.contains, any_cons, any_nil]
  grind

/-- A text that counts as an identifier is read as it is but for a line end after it. -/
theorem token_cases {name : String} (h : isIdentifier name = true) :
    (∀ c ∈ (token name).toList, isIdentifierChar c = true) ∧
      (name = token name ∨ name = token name ++ "\n") := by
  have hchars := isIdentifierChar_of_isIdentifier h
  have hblank : ∀ c ∈ dropNewline name.toList, Text.isBlank c = false :=
    fun c hc => not_isBlank_of_isIdentifierChar (hchars c hc)
  unfold dropNewline at hchars hblank
  split at hchars
  · rename_i hlast
    have hsplit := dropLast_append_getLast? _ hlast
    rw [if_pos hlast] at hblank
    have hnewline : ∀ c ∈ ['\n'], Text.isBlank c = true :=
      forall_mem_singleton.mpr (by decide)
    have htoken : token name = String.ofList name.toList.dropLast := by
      have htrim := @Text.trim_append_of_forall _ [] _ _ hnewline hblank
      rw [nil_append, hsplit, ← Text.trimBlank] at htrim
      rw [token, htrim]
    refine ⟨by rwa [htoken, String.toList_ofList], .inr ?_⟩
    rw [← String.toList_inj, htoken, String.toList_append, String.toList_ofList]
    exact hsplit.symm
  · rename_i hlast
    rw [if_neg hlast] at hblank
    have htoken : token name = name := by
      have htrim := @Text.trim_append_of_forall _ [] name.toList [] (by simp) hblank
      rw [append_nil, nil_append] at htrim
      rw [token, Text.trimBlank, htrim, String.ofList_toList]
    exact ⟨by rwa [htoken], .inl htoken.symm⟩

/-- A name with a line end after it is read as what stands before the line end. -/
theorem token_of_newline {name word : String} (h : isIdentifier name = true)
    (hname : name = word ++ "\n") : token name = word := by
  obtain ⟨hchars, heq | heq⟩ := token_cases h
  · have hend : '\n' ∈ (token name).toList := by
      rw [← heq, hname, String.toList_append]
      exact mem_append_right _ mem_cons_self
    cases hchars '\n' hend
  · rw [hname, ← String.toList_inj, String.toList_append, String.toList_append] at heq
    rw [hname, ← String.toList_inj]
    exact (append_cancel_right heq).symm

/-- No schema is declared under a reserved word. -/
theorem identifier_notMem_reserved (name : String) : identifier name ∉ reserved := by
  unfold identifier
  split
  · decide
  · rename_i text htext
    unfold guardStart
    split
    · -- a guarded word starts with an underscore, and no reserved word does
      intro hmem
      have hstart : ∀ word ∈ reserved, word.toList.head? ≠ some '_' := by decide
      exact hstart _ hmem (by simp)
    · rename_i hguard
      simp only [Bool.or_eq_true, not_or, contains_iff_mem] at hguard
      exact hguard.2

end Source

/-- The names that the source of a client binds whatever the client is called. -/
def Compiled.fixedNames (compiled : Compiled) : List String :=
  Source.ownNames ++ compiled.declarations.map (·.identifier)

/-- The names that the source of a client binds, as they are read in it. -/
def Compiled.boundNames (compiled : Compiled) (config : Config) : List String :=
  compiled.fixedNames ++ [Source.token config.clientName]

/-- Schemas are declared under different identifiers, none of which a client binds itself. -/
theorem fixedNames_nodup {document : Document} {config : Config} {compiled : Compiled}
    (h : document.compiled config = .ok compiled) : compiled.fixedNames.Nodup := by
  obtain ⟨stages, order, -, -, -, hdeclarations, -⟩ := stages_of_compiled h
  have hidentifiers : compiled.declarations.map (·.identifier) =
      (compiled.declarations.map (·.name)).map Source.identifier := by
    rw [map_map]
    refine map_congr_left fun declared hmem => ?_
    exact (Declaration.lookup_of_mem_collect (hdeclarations ▸ hmem)).2
  have hdistinct : (document.registry.names.map Source.identifier).Nodup := by
    have hfilled := Registry.exists_ofSchemas_iff.mp ⟨_, stages.registered⟩
    rwa [← Function.comp_def, ← map_map] at hfilled
  rw [Compiled.fixedNames, hidentifiers]
  refine List.Nodup.append (by decide) ?_ ?_
  · exact ((compiled_names h).map Source.identifier).nodup_iff.mpr hdistinct
  · intro word hown hidentifier
    obtain ⟨name, -, rfl⟩ := mem_map.mp hidentifier
    refine Source.identifier_notMem_reserved name ?_
    exact mem_append_left _ (mem_append_right _ hown)

/-- All names that a client binds are different, and its own name is no word of the language,
exactly if its name is not one of these words or names with a line end after it. -/
theorem bound_names_apart_iff (document : Document) (config writing : Config) (compiled : Compiled)
    (tree : File.Tree) (directory : File.Path) (environment : List (String × String))
    (options : Entries) (source : String)
    (hcompiled : (document.compile config).result.1 = .ok compiled)
    (hwriting : Config.resolve tree directory environment options = .ok writing)
    (hsource : (Client.source compiled writing).result.1 = .ok source) :
    ((compiled.boundNames writing).Nodup ∧ Source.token writing.clientName ∉ Source.keywords) ↔
      ∀ word ∈ Source.keywords ++ compiled.fixedNames, writing.clientName ≠ word ++ "\n" := by
  obtain ⟨hidentifier, hcontains⟩ :=
    Bool.and_eq_true_iff.mp (Config.isClientName_of_resolve hwriting)
  have hreserved : writing.clientName ∉ Source.keywords ++ Source.ownNames := by
    simpa using hcontains
  have hfree : writing.clientName ∉ compiled.declarations.map (·.identifier) := by
    intro htaken
    rw [Client.source_of_taken htaken] at hsource
    cases hsource
  -- As it was given, the name is none of these.
  have hgiven : writing.clientName ∉ Source.keywords ++ compiled.fixedNames := by
    rw [Compiled.fixedNames, ← append_assoc, mem_append, not_or]
    exact ⟨hreserved, hfree⟩
  have hapart : ((compiled.boundNames writing).Nodup ∧
      Source.token writing.clientName ∉ Source.keywords) ↔
        Source.token writing.clientName ∉ Source.keywords ++ compiled.fixedNames := by
    have hfixed := fixedNames_nodup (compile_result _ _ ▸ hcompiled)
    rw [Compiled.boundNames, nodup_append]
    simp only [hfixed, nodup_singleton, mem_singleton, mem_append]
    grind
  rw [hapart]
  constructor
  · intro hfree word hword heq
    rw [Source.token_of_newline hidentifier heq] at hfree
    exact hfree hword
  · intro hnewline hmem
    rcases (Source.token_cases hidentifier).2 with heq | heq
    · exact hgiven (heq ▸ hmem)
    · exact hnewline _ hmem heq

/-- A document with two schemas, one of them called like a name that clients bind themselves. -/
def namesakeDocument : Document :=
  { info := { title := "", version := "" }
    version := "3.0.0"
    schemas := [("Item", { kind := .string }), ("z", { kind := .string })] }

theorem bound_names_apart_iff_namesakeDocument :
    ∃ (compiled : Compiled) (usual awkward : Config) (first second : String),
      (namesakeDocument.compile {}).result.1 = .ok compiled ∧
      Config.resolve {} {} [] [] = .ok usual ∧
      Config.resolve {} {} [] [(.text Config.clientNameField, .text "Item\n")] = .ok awkward ∧
      (Client.source compiled usual).result.1 = .ok first ∧
      (Client.source compiled awkward).result.1 = .ok second ∧
      (compiled.boundNames usual).Nodup ∧ ¬(compiled.boundNames awkward).Nodup := by
  have hall : (do
      let compiled ← (namesakeDocument.compile {}).result.1.toOption
      let usual ← (Config.resolve {} {} [] []).toOption
      let awkward ←
        (Config.resolve {} {} [] [(.text Config.clientNameField, .text "Item\n")]).toOption
      let _ ← (Client.source compiled usual).result.1.toOption
      let _ ← (Client.source compiled awkward).result.1.toOption
      return (compiled.fixedNames, usual.clientName, awkward.clientName) :
        Option (List String × String × String)) =
          some (Source.ownNames ++ ["Item", "_z"], "api", "Item\n") := by
    decide +kernel
  obtain ⟨compiled, hcompiled, hrest⟩ := exists_ok_of_bind hall
  obtain ⟨usual, husual, hrest⟩ := exists_ok_of_bind hrest
  obtain ⟨awkward, hawkward, hrest⟩ := exists_ok_of_bind hrest
  obtain ⟨first, hfirst, hrest⟩ := exists_ok_of_bind hrest
  obtain ⟨second, hsecond, hnames⟩ := exists_ok_of_bind hrest
  obtain ⟨hfixed, hnames⟩ := Prod.mk.inj (Option.some.inj hnames)
  obtain ⟨hapi, hitem⟩ := Prod.mk.inj hnames
  have happlied := bound_names_apart_iff _ _ _ _ _ _ _ _ _ hcompiled husual hfirst
  have hclash := bound_names_apart_iff _ _ _ _ _ _ _ _ _ hcompiled hawkward hsecond
  rw [hfixed, hapi] at happlied
  rw [hfixed, hitem] at hclash
  refine ⟨compiled, usual, awkward, first, second, hcompiled, husual, hawkward, hfirst, hsecond,
    (happlied.mpr (by decide)).1, fun hnodup => ?_⟩
  exact hclash.mp ⟨hnodup, by decide⟩ "Item" (by decide) rfl

end OpenApiClient

namespace OpenApiClient.Source

open List

/-! ### Reading keys -/

/-- The white space of the language and its line ends. -/
def spacing : List Char :=
  ['\t', '\n', '\x0b', '\x0c', '\r', ' ', '\u00a0', '\u1680', '\u2000', '\u2001', '\u2002',
   '\u2003', '\u2004', '\u2005', '\u2006', '\u2007', '\u2008', '\u2009', '\u200a', '\u2028',
   '\u2029', '\u202f', '\u205f', '\u3000', '\ufeff']

/-- A text without the white space around it. -/
def unspaced (text : List Char) : List Char :=
  (text.dropWhile (· ∈ spacing)).rdropWhile (· ∈ spacing)

/-- The name that a key denotes. -/
def keyName? (key : String) : Option String :=
  if isIdentifierChars (unspaced key.toList) then some (String.ofList (unspaced key.toList))
  else (Json.read key).toOption.bind Value.text?

/-! ### Names written as they are -/

theorem notMem_spacing {c : Char} (h : isIdentifierChar c = true) : c ∉ spacing := by
  have hnone : spacing.any isIdentifierChar = false := by decide
  exact fun hmem => any_eq_false.mp hnone c hmem h

theorem isIdentifierChar_of_isIdentifierChars {text : List Char}
    (h : isIdentifierChars text = true) :
    text ≠ [] ∧ ∀ c ∈ text, isIdentifierChar c = true := by
  cases text with
  | nil => cases h
  | cons first rest =>
    rw [isIdentifierChars, Bool.and_eq_true, all_eq_true] at h
    exact ⟨by simp, forall_mem_cons.mpr ⟨isIdentifierChar_of_start h.1, h.2⟩⟩

/-- An identifier denotes itself, whatever white space follows it. -/
theorem keyName?_bare {word : String} (h : isIdentifierChars word.toList = true) {after : String}
    (hafter : ∀ c ∈ after.toList, c ∈ spacing) : keyName? (word ++ after) = some word := by
  have hchars := (isIdentifierChar_of_isIdentifierChars h).2
  have hword : unspaced (word ++ after).toList = word.toList := by
    rw [String.toList_append]
    exact @Text.trim_append_of_forall _ [] _ _ (by simpa using hafter)
      fun c hc => decide_eq_false (notMem_spacing (hchars c hc))
  rw [keyName?, hword, if_pos h, String.ofList_toList]

/-- A string denotes what it says. -/
theorem keyName?_writeString (name : String) : keyName? (Json.writeString name) = some name := by
  have hquoted : unspaced (Json.writeString name).toList = (Json.writeString name).toList := by
    have hquote : '"' ∉ spacing := by decide
    have hlist : (Json.writeString name).toList =
        ('"' :: name.toList.flatMap Json.writeChar) ++ ['"'] := String.toList_ofList
    have hlast : (Json.writeString name).toList.getLast? = some '"' := by
      rw [hlist, getLast?_concat]
    have hends := @Text.trim_append (· ∈ spacing) [] (Json.writeString name).toList [] (by simp)
      (by simpa [hlist] using hquote) (by simpa [hlast] using hquote)
    rw [append_nil, nil_append] at hends
    rw [unspaced, List.rdropWhile, hends]
  have hbare : isIdentifierChars (Json.writeString name).toList = false := by
    rw [Json.writeString, String.toList_ofList]
    rfl
  rw [keyName?, hquoted, if_neg (by simp [hbare]), (Json.readsAs_text name).read_eq]
  rfl

/-- A text counts as an identifier if it is one, or one with a line end after it. -/
theorem isIdentifier_iff {name : String} : isIdentifier name = true ↔
    isIdentifierChars name.toList = true ∨
      ∃ word : String, isIdentifierChars word.toList = true ∧ name = word ++ "\n" := by
  unfold isIdentifier dropNewline
  split
  · rename_i hlast
    have hsplit := dropLast_append_getLast? _ hlast
    constructor
    · intro h
      refine .inr ⟨String.ofList name.toList.dropLast, by rwa [String.toList_ofList], ?_⟩
      rw [← String.toList_inj, String.toList_append, String.toList_ofList]
      exact hsplit.symm
    · rintro (h | ⟨word, hword, rfl⟩)
      · -- no identifier has a line end
        cases (isIdentifierChar_of_isIdentifierChars h).2 '\n' (mem_of_mem_getLast? hlast)
      · rw [String.toList_append] at hsplit ⊢
        rwa [append_cancel_right hsplit]
  · rename_i hlast
    refine ⟨.inl, ?_⟩
    rintro (h | ⟨word, -, rfl⟩)
    · exact h
    · exact absurd (by simp) hlast

/-! ### Keys -/

section Identifiers

variable {word : String} (h : isIdentifierChars word.toList = true)

include h

theorem propertyKey_identifier : propertyKey word = word := by
  rw [propertyKey, if_pos (isIdentifier_iff.mpr (.inl h))]

theorem propertyKey_newline : propertyKey (word ++ "\n") = word ++ "\n" := by
  rw [propertyKey, if_pos (isIdentifier_iff.mpr (.inr ⟨word, h, rfl⟩))]

theorem keyName?_identifier : keyName? (propertyKey word) = some word := by
  have hbare := @keyName?_bare word h "" (by simp)
  rw [String.append_empty] at hbare
  rwa [propertyKey_identifier h]

theorem keyName?_newline : keyName? (propertyKey (word ++ "\n")) = some word := by
  rw [propertyKey_newline h]
  exact keyName?_bare h (by simp [spacing])

end Identifiers

theorem append_newline_ne (word : String) : word ++ "\n" ≠ word := by
  intro h
  have hlength := congrArg String.length h
  simp at hlength

/-- A key denotes its name, or what stands before the line end of its name. -/
theorem exists_keyName? (name : String) : ∃ word, keyName? (propertyKey name) = some word ∧
    (name = word ∨ isIdentifierChars word.toList = true ∧ name = word ++ "\n") := by
  by_cases h : isIdentifier name = true
  · rcases isIdentifier_iff.mp h with hchars | ⟨word, hword, rfl⟩
    · exact ⟨name, keyName?_identifier hchars, .inl rfl⟩
    · exact ⟨word, keyName?_newline hword, .inr ⟨hword, rfl⟩⟩
  · exact ⟨name, by rw [propertyKey, if_neg h, keyName?_writeString], .inl rfl⟩

/-- A key denotes its name exactly if this is no identifier with a line end after it. -/
theorem keyName?_propertyKey_iff {name : String} : keyName? (propertyKey name) = some name ↔
    ¬ ∃ word : String, isIdentifierChars word.toList = true ∧ name = word ++ "\n" := by
  constructor
  · rintro hself ⟨word, hword, rfl⟩
    rw [keyName?_newline hword, Option.some.injEq] at hself
    exact append_newline_ne word hself.symm
  · intro hno
    obtain ⟨denoted, hdenoted, heq | hline⟩ := exists_keyName? name
    · rwa [← heq] at hdenoted
    · exact absurd ⟨denoted, hline⟩ hno

/-- The keys of two different names denote the same exactly if one name is an identifier, and the
other one is that with a line end after it. -/
theorem keyName?_propertyKey_eq_iff {name other : String} (hne : other ≠ name) :
    keyName? (propertyKey other) = keyName? (propertyKey name) ↔
      isIdentifierChars name.toList = true ∧ other = name ++ "\n" ∨
        isIdentifierChars other.toList = true ∧ name = other ++ "\n" := by
  constructor
  · intro hsame
    obtain ⟨denoted, hdenoted, hname⟩ := exists_keyName? name
    obtain ⟨word, hword, hother⟩ := exists_keyName? other
    rw [hword, hdenoted, Option.some.injEq] at hsame
    subst hsame
    rcases hname with rfl | ⟨hchars, heq⟩
    · exact .inl (hother.resolve_left hne)
    · rcases hother with rfl | ⟨-, hother⟩
      · exact .inr ⟨hchars, heq⟩
      · exact absurd (hother.trans heq.symm) hne
  · rintro (⟨hchars, rfl⟩ | ⟨hchars, rfl⟩)
    · rw [keyName?_newline hchars, keyName?_identifier hchars]
    · rw [keyName?_newline hchars, keyName?_identifier hchars]

/-- As texts, the keys of different names differ, even where they denote the same. -/
theorem propertyKey_injective : Function.Injective propertyKey := by
  intro other name hsame
  by_contra hne
  rcases (keyName?_propertyKey_eq_iff hne).mp (congrArg keyName? hsame) with
    ⟨hchars, rfl⟩ | ⟨hchars, rfl⟩
  · rw [propertyKey_newline hchars, propertyKey_identifier hchars] at hsame
    exact append_newline_ne name hsame
  · rw [propertyKey_newline hchars, propertyKey_identifier hchars] at hsame
    exact append_newline_ne other hsame.symm

/-- A key denotes the name it was made of exactly if this is no identifier with a line end after it.
The keys of different names are different texts, and they denote the same exactly if one name is an
identifier and the other one is that with a line end after it. -/
theorem propertyKey_denotes_iff (name : String) :
    (keyName? (propertyKey name) = some name ↔
      ¬ ∃ word : String, isIdentifierChars word.toList = true ∧ name = word ++ "\n") ∧
    ∀ other, other ≠ name → propertyKey other ≠ propertyKey name ∧
      (keyName? (propertyKey other) = keyName? (propertyKey name) ↔
        isIdentifierChars name.toList = true ∧ other = name ++ "\n" ∨
          isIdentifierChars other.toList = true ∧ name = other ++ "\n") :=
  ⟨keyName?_propertyKey_iff, fun _ hne =>
    ⟨fun hsame => hne (propertyKey_injective hsame), keyName?_propertyKey_eq_iff hne⟩⟩

theorem propertyKey_denotes_iff_line :
    (("a\n" : String) ≠ "a" ∧ keyName? (propertyKey "a\n") = keyName? (propertyKey "a")) ∧
      keyName? (propertyKey "a\n") ≠ some "a\n" ∧ keyName? (propertyKey "a b") = some "a b" := by
  have hne : ("a\n" : String) ≠ "a" := by decide
  have hline : isIdentifierChars "a".toList = true := by decide
  have hsame := ((propertyKey_denotes_iff "a").2 "a\n" hne).2
  refine ⟨⟨hne, hsame.mpr (.inl ⟨hline, by decide⟩)⟩, ?_, ?_⟩
  · exact fun h => (propertyKey_denotes_iff "a\n").1.mp h ⟨"a", hline, by decide⟩
  · refine (propertyKey_denotes_iff "a b").1.mpr ?_
    rintro ⟨word, -, hword⟩
    have hlast := congrArg (fun text : String => text.toList.getLast?) hword
    simp at hlast

/-- The words that a module cannot bind: keywords and literals, and the words that strict code
reserves. -/
def moduleWords : List String :=
  ["break", "case", "catch", "class", "const", "continue", "debugger", "default", "delete", "do",
   "else", "enum", "export", "extends", "false", "finally", "for", "function", "if", "import", "in",
   "instanceof", "new", "null", "return", "super", "switch", "this", "throw", "true", "try",
   "typeof", "var", "void", "while", "with", "implements", "interface", "let", "package", "private",
   "protected", "public", "static", "yield", "await"]

/-- The words of modules that a schema is declared under if it is called so. -/
def unguardedWords : List String :=
  ["implements", "interface", "package", "private", "protected", "public"]

/-! ### The form of an identifier -/

/-- An identifier starts with an underscore, or it is the name with its invalid characters replaced,
which starts with no digit then. -/
theorem identifier_cases (name : String) :
    (∃ text, (identifier name).toList = '_' :: text) ∨
      ∃ c text, (identifier name).toList = c :: text ∧ replaceInvalid name.toList = c :: text ∧
        c.isDigit = false := by
  unfold identifier
  cases htext : replaceInvalid name.toList with
  | nil => exact .inl ⟨[], rfl⟩
  | cons c text =>
    dsimp only
    rw [String.toList_ofList]
    unfold guardStart
    split
    · exact .inl ⟨c :: text, rfl⟩
    · rename_i hguard
      refine .inr ⟨c, text, rfl, rfl, ?_⟩
      simp only [Bool.or_eq_true, not_or] at hguard
      simpa using hguard.1

theorem isIdentifierStart_of_not_isDigit {c : Char} (h : isIdentifierChar c = true)
    (hdigit : c.isDigit = false) : isIdentifierStart c = true := by
  simpa [isIdentifierChar, isIdentifierStart, Char.isAlphanum, hdigit] using h

/-- Every schema is declared under a text that has the form of an identifier. -/
theorem isIdentifierChars_identifier (name : String) :
    isIdentifierChars (identifier name).toList = true := by
  have hchars : ∀ c ∈ (identifier name).toList, isIdentifierChar c = true :=
    fun c hc => isIdentifierChar_of_mem_identifier hc
  rcases identifier_cases name with ⟨text, heq⟩ | ⟨c, text, heq, -, hdigit⟩
  · rw [heq] at hchars ⊢
    rw [isIdentifierChars, Bool.and_eq_true, all_eq_true]
    exact ⟨rfl, fun c hc => hchars c (mem_cons_of_mem _ hc)⟩
  · rw [heq] at hchars ⊢
    obtain ⟨hfirst, hrest⟩ := forall_mem_cons.mp hchars
    rw [isIdentifierChars, Bool.and_eq_true, all_eq_true]
    exact ⟨isIdentifierStart_of_not_isDigit hfirst hdigit, hrest⟩

theorem not_isDigit_of_isIdentifierStart {c : Char} (h : isIdentifierStart c = true) :
    c.isDigit = false := by
  by_contra hdigit
  rw [Bool.not_eq_false] at hdigit
  obtain ⟨hlow, hhigh⟩ := Char.isDigit_iff_toNat.mp hdigit
  simp only [isIdentifierStart, Bool.or_eq_true, decide_eq_true_eq] at h
  rcases h with (halpha | rfl) | rfl
  · delta Char.isAlpha Char.isUpper Char.isLower at halpha
    simp only [Bool.or_eq_true, Bool.and_eq_true, decide_eq_true_eq, ge_iff_le,
      UInt32.le_iff_toNat_le] at halpha
    simp only [Char.toNat, Char.reduceVal, UInt32.reduceToNat] at hlow hhigh halpha
    omega
  · cases hdigit
  · cases hdigit

theorem replaceInvalid_of_forall {text : List Char} (h : ∀ c ∈ text, isIdentifierChar c = true) :
    replaceInvalid text = text := by
  refine (map_congr_left fun c hc => ?_).trans (map_id text)
  rw [if_pos (h c hc), id]

/-- A text that has the form of an identifier and is not reserved is its own identifier. -/
theorem identifier_of_isIdentifierChars {word : String}
    (h : isIdentifierChars word.toList = true) (hfree : word ∉ reserved) :
    identifier word = word := by
  have hkept := replaceInvalid_of_forall (isIdentifierChar_of_isIdentifierChars h).2
  have hguard : guardStart word.toList = word.toList := by
    have hstart : word.toList.head?.any Char.isDigit = false := by
      cases hword : word.toList with
      | nil => rfl
      | cons c rest =>
        rw [hword, isIdentifierChars, Bool.and_eq_true] at h
        exact not_isDigit_of_isIdentifierStart h.1
    rw [guardStart, hstart, String.ofList_toList, Bool.false_or,
      if_neg (by simpa using hfree)]
  unfold identifier
  rw [hkept]
  split
  · rename_i hnil
    rw [hnil] at h
    cases h
  · rw [hguard, String.ofList_toList]

/-! ### Words of the language -/

/-- What is left without an underscore had no character replaced. -/
theorem eq_of_replaceInvalid {text word : List Char} (h : replaceInvalid text = word)
    (hword : '_' ∉ word) : text = word := by
  have hvalid : ∀ c ∈ text, isIdentifierChar c = true := by
    intro c hc
    by_contra hinvalid
    refine hword (h ▸ mem_map.mpr ⟨c, hc, ?_⟩)
    rw [if_neg hinvalid]
  rw [← h, replaceInvalid_of_forall hvalid]

/-- A schema is declared under a word that modules reserve exactly if it is called like one of those
that are not guarded. -/
theorem identifier_mem_moduleWords_iff {name : String} :
    identifier name ∈ moduleWords ↔ name ∈ unguardedWords := by
  have hguarded : ∀ word ∈ moduleWords, word ∈ reserved ∨ word ∈ unguardedWords := by decide
  have hplain : ∀ word ∈ unguardedWords, '_' ∉ word.toList := by decide
  have hkept : ∀ word ∈ unguardedWords, identifier word ∈ moduleWords := by decide
  refine ⟨fun hmem => ?_, hkept name⟩
  have hword := (hguarded _ hmem).resolve_left (identifier_notMem_reserved name)
  have hno := hplain _ hword
  rcases identifier_cases name with ⟨text, heq⟩ | ⟨c, text, heq, hreplaced, -⟩
  · rw [heq] at hno
    exact absurd mem_cons_self hno
  · rw [← heq] at hreplaced
    rwa [String.toList_inj.mp (eq_of_replaceInvalid hreplaced hno)]

/-- Whatever a schema is called, its identifier has the form of one, is no name that the source of a
client binds itself, and is its own identifier. It is a word that modules reserve exactly if the
schema is called `implements`, `interface`, `package`, `private`, `protected` or `public`. -/
theorem identifier_bindable_iff (name : String) :
    isIdentifierChars (identifier name).toList = true ∧
      identifier name ∉ ownNames ++ ["api"] ∧
      identifier (identifier name) = identifier name ∧
      (identifier name ∈ moduleWords ↔ name ∈ unguardedWords) := by
  have hform := isIdentifierChars_identifier name
  have hfree := identifier_notMem_reserved name
  refine ⟨hform, fun hmem => hfree ?_, identifier_of_isIdentifierChars hform hfree,
    identifier_mem_moduleWords_iff⟩
  rw [reserved, append_assoc]
  exact mem_append_right _ hmem

end OpenApiClient.Source

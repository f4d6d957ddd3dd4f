import OpenApiClient.Conversion.Basic
import OpenApiClient.Proofs.Schema.Congruence

/-!
# Two ways to say the same

A type can be given by itself or in a list, where `null` stands for a nullable schema, and an
exclusive bound as a number or as a flag beside an ordinary bound. The spellings of a type are read
as the same schema. Those of a bound are not, but the schemas they are read as differ in nothing that
shows in the modifiers of a number (`SameButBounds`), and so they are converted to the same
expression. Both is `spellings_agree`.
-/

namespace OpenApiClient

open Entries List

/-- Two values arise with the same warnings and are related. -/
def Noted.Alike {α : Type} (first : Noted α) (related : α → α → Prop) (second : Noted α) : Prop :=
  first.warnings = second.warnings ∧ related first.value second.value

theorem Noted.Alike.bind {α β : Type} {related : α → α → Prop} {wanted : β → β → Prop}
    {first second : Noted α} {next following : α → Noted β} (h : first.Alike related second)
    (hnext : (next first.value).Alike wanted (following second.value)) :
    (first >>= next).Alike wanted (second >>= following) := by
  refine ⟨?_, hnext.2⟩
  rw [Noted.warnings_bind, Noted.warnings_bind, h.1, hnext.1]

theorem Noted.mapM_alike {α β : Type} {related : β → β → Prop} {act react : α → Noted β}
    (h : ∀ item, (act item).Alike related (react item)) (items : List α) :
    (items.mapM act).Alike (List.Forall₂ related) (items.mapM react) := by
  induction items with
  | nil => exact ⟨rfl, .nil⟩
  | cons item rest ih =>
    rw [mapM_cons, mapM_cons]
    exact (h item).bind (ih.bind ⟨rfl, .cons (h item).2 ih.2⟩)

/-! ### One more keyword -/

namespace Schema

open Conversion

/-- A schema that says one thing more, in the place of what it says under the same keyword. -/
def adding (raw : Entries) (name : String) (value : Value) : Entries :=
  insert raw (.text name) value

theorem get?_adding (raw : Entries) (key name : String) (value : Value) :
    get? (adding raw key value) name =
      if name = key then some value else get? raw name :=
  get?_insert raw key name value

/-! ### Types -/

variable {read : Reader} {raw other : Entries} {location name type : String}

theorem readTyping_of_text (h : get? raw "type" = some (.text type)) :
    readTyping read raw location = pure { kind := .ofTypeName type } := by
  simp only [readTyping, given?, h]

variable {types : List Value}

theorem readTyping_of_sole (h : get? raw "type" = some (.list types))
    (hnames : typeNames types = [type]) :
    readTyping read raw location = pure
      { kind := .ofTypeName type, nullable := (types.filterMap Value.text?).contains "null" } := by
  simp only [readTyping, given?, h, hnames]

/-- Two mappings that give the same type and agree on `null` are read as the same schema. -/
theorem ofEntries_eq_of_type
    (hrest : ∀ name, name ≠ "type" → name ≠ "nullable" →
      get? raw name = get? other name)
    (hsole : soleTypeName? raw = soleTypeName? other) {kind : Kind} {listed flagged : Bool}
    (hlisted : readTyping read raw location = pure { kind, nullable := listed })
    (htext : readTyping read other location = pure { kind })
    (hunflagged : readFlag raw "nullable" location = pure false)
    (hflagged : readFlag other "nullable" location = pure flagged)
    (href : textOf? raw "$ref" = none) (hnull : listed = flagged) :
    ofEntries read raw location = ofEntries read other location := by
  have halike : ∀ name ∉ spellingKeywords, Alike read read raw other name := fun name hname =>
    alike_of_get?_eq (hrest name (by rintro rfl; exact hname (by decide))
      (by rintro rfl; exact hname (by decide))) fun _ _ _ _ _ => rfl
  have hother : textOf? other "$ref" = none := by
    rw [← href, textOf?, textOf?, hrest "$ref" (by decide) (by decide)]
  have hplain : ∀ name ∈ boundKeywords, name ≠ "type" ∧ name ≠ "nullable" := by decide
  have hbounds : ∀ name ∈ boundKeywords, get? raw name = get? other name :=
    fun name hname => hrest name (hplain name hname).1 (hplain name hname).2
  simp only [ofEntries, href, hother, hunflagged, hflagged, hlisted, htext, pure_bind]
  rw [readKeywords_congr halike _ _ hsole hbounds]
  subst hnull
  cases listed <;> rfl

/-- A list with one type besides `null` says what that type says, nullable or not. -/
theorem ofValue_listed (hnames : typeNames types = [type]) (href : textOf? raw "$ref" = none)
    (hnullable : get? raw "nullable" = none)
    (hrest : ∀ name, name ≠ "type" → name ≠ "nullable" →
      get? raw name = get? other name)
    (htype : get? other "type" = some (.text type))
    (hflag : readFlag other "nullable" location =
      pure ((types.filterMap Value.text?).contains "null")) :
    ofValue (.map (adding raw "type" (.list types))) location = ofValue (.map other) location := by
  have hadded : ∀ name, name ≠ "type" →
      get? (adding raw "type" (.list types)) name = get? raw name := by
    intro name hname
    rw [get?_adding, if_neg hname]
  have hlist : get? (adding raw "type" (.list types)) "type" = some (.list types) := by
    rw [get?_adding, if_pos rfl]
  have hunflagged : readFlag (adding raw "type" (.list types)) "nullable" location = pure false := by
    simp only [readFlag, given?, hadded "nullable" (by decide), hnullable]
  have hsole : soleTypeName? (adding raw "type" (.list types)) = soleTypeName? other := by
    simp only [soleTypeName?, hlist, htype, hnames]
  -- a list is nested more deeply than a text, so both are read at the greater depth
  rw [ofValue_map (Nat.le_max_left _ (Value.entriesDepth other)),
    ofValue_map (Nat.le_max_right (Value.entriesDepth (adding raw "type" (.list types))) _)]
  refine ofEntries_eq_of_type (fun name hname hnot => ?_) hsole (readTyping_of_sole hlist hnames)
    (readTyping_of_text htype) hunflagged hflag ?_ rfl
  · rw [hadded name hname, hrest name hname hnot]
  · rwa [textOf?, hadded "$ref" (by decide)]

theorem ofValue_sole (href : textOf? raw "$ref" = none)
    (hnullable : get? raw "nullable" = none) (htype : type ≠ "null") :
    ofValue (.map (adding raw "type" (.list [.text type]))) location =
      ofValue (.map (adding raw "type" (.text type))) location := by
  have hnames : typeNames [.text type] = [type] := by simp [typeNames, Value.text?, htype]
  have hnull : ([Value.text type].filterMap Value.text?).contains "null" = false := by
    simpa [Value.text?] using htype.symm
  refine ofValue_listed hnames href hnullable ?_ ?_ ?_
  · intro name hname _
    rw [get?_adding, if_neg hname]
  · rw [get?_adding, if_pos rfl]
  · rw [hnull, readFlag, given?, get?_adding, if_neg (by decide), hnullable]

theorem ofValue_with_null (href : textOf? raw "$ref" = none)
    (hnullable : get? raw "nullable" = none) (htype : type ≠ "null")
    (h : types ∈ [[.text type, .text "null"], [.text "null", .text type]]) :
    ofValue (.map (adding raw "type" (.list types))) location =
      ofValue (.map (adding (adding raw "type" (.text type)) "nullable" (.bool true)))
        location := by
  have hread : typeNames types = [type] ∧
      (types.filterMap Value.text?).contains "null" = true := by
    simp only [mem_cons, not_mem_nil, or_false] at h
    rcases h with rfl | rfl <;> simp [typeNames, Value.text?, htype]
  refine ofValue_listed hread.1 href hnullable ?_ ?_ ?_
  · intro name hname hnot
    rw [get?_adding, if_neg hnot, get?_adding, if_neg hname]
  · rw [get?_adding, if_neg (by decide), get?_adding, if_pos rfl]
  · rw [hread.2, readFlag, given?, get?_adding, if_pos rfl]

/-! ### Bounds -/

/-- The keywords of an ordinary and of an exclusive bound on the same side. -/
def boundPairs : List (String × String) :=
  [("minimum", "exclusiveMinimum"), ("maximum", "exclusiveMaximum")]

/-- An exclusive bound as a number in one mapping, and as a flag beside an ordinary bound in
another. -/
structure Respelled (pair : String × String) (number : Value) (raw other : Entries) : Prop where
  unbounded : get? raw pair.1 = none
  exclusive : get? raw pair.2 = some number
  bound : get? other pair.1 = some number
  flag : get? other pair.2 = some (.bool true)
  rest : ∀ name, name ≠ pair.1 → name ≠ pair.2 → get? raw name = get? other name

variable {pair : String × String} {number : Value}

theorem respelled_adding (hpair : pair ∈ boundPairs) (h : get? raw pair.1 = none) :
    Respelled pair number (adding raw pair.2 number)
      (adding (adding raw pair.1 number) pair.2 (.bool true)) := by
  have hne : ∀ pair ∈ boundPairs, pair.1 ≠ pair.2 := by decide
  have hdiffer := hne pair hpair
  refine ⟨?_, ?_, ?_, ?_, fun name hbound hexclusive => ?_⟩
  · rw [get?_adding, if_neg hdiffer, h]
  · rw [get?_adding, if_pos rfl]
  · rw [get?_adding, if_neg hdiffer, get?_adding, if_pos rfl]
  · rw [get?_adding, if_pos rfl]
  · rw [get?_adding, if_neg hexclusive, get?_adding, if_neg hexclusive, get?_adding,
      if_neg hbound]

/-- What is said about one of several types is respelled with the whole. -/
theorem Respelled.narrowed (h : Respelled pair number raw other) (hpair : pair ∈ boundPairs)
    (type : String) :
    Respelled pair number (narrowed raw type) (Schema.narrowed other type) := by
  have hplain : ∀ pair ∈ boundPairs, ∀ name ∈ [pair.1, pair.2],
      name ≠ "type" ∧ name ∉ wholeKeywords := by decide
  have hkept : ∀ (raw : Entries), ∀ name ∈ [pair.1, pair.2],
      get? (Schema.narrowed raw type) name = get? raw name := by
    intro raw name hname
    obtain ⟨htype, hwhole⟩ := hplain pair hpair name hname
    rw [get?_narrowed, if_neg htype, if_neg hwhole]
  refine ⟨?_, ?_, ?_, ?_, fun name hbound hexclusive => ?_⟩
  · rw [hkept raw pair.1 (by simp), h.unbounded]
  · rw [hkept raw pair.2 (by simp), h.exclusive]
  · rw [hkept other pair.1 (by simp), h.bound]
  · rw [hkept other pair.2 (by simp), h.flag]
  · rw [get?_narrowed, get?_narrowed, h.rest name hbound hexclusive]

variable {key : String}

theorem readNumber_of_none (h : get? raw key = none) :
    readNumber raw key location = pure none := by
  simp only [readNumber, given?, h]

theorem readExclusive_of_none (h : get? raw key = none) :
    readExclusive raw key location = pure none := by
  simp only [readExclusive, given?, h, readNumber_of_none h]
  rfl

/-- A number is read as itself, as an ordinary bound and as an exclusive one. -/
theorem exists_number (h : isNumber number) :
    ∃ read : Number, ∀ (raw : Entries) (key location : String), get? raw key = some number →
      readNumber raw key location = pure (some read) ∧
        readExclusive raw key location = pure (some (.bound read)) := by
  cases number with
  | scalar value =>
    cases value with
    | int value =>
      refine ⟨.int value, fun raw key location hget => ?_⟩
      simp only [readExclusive, readNumber, given?, hget, true_and]
      rfl
    | float value =>
      refine ⟨.float value, fun raw key location hget => ?_⟩
      simp only [readExclusive, readNumber, given?, hget, true_and]
      rfl
    | _ => cases h
  | _ => cases h

theorem readExclusive_of_flag {value : Bool} (h : get? raw key = some (.bool value)) :
    readExclusive raw key location = pure (some (.flag value)) := by
  simp only [readExclusive, given?, h]

section Bounds

variable (h : Respelled pair number raw other) (hnumber : isNumber number)

include h hnumber

/-- Both spellings become the same modifier. -/
theorem Respelled.boundModifiers_eq (inclusive exclusive : ModifierKind) :
    boundModifiers inclusive exclusive (readNumber raw pair.1 location).value
        (readExclusive raw pair.2 location).value =
      boundModifiers inclusive exclusive (readNumber other pair.1 location).value
        (readExclusive other pair.2 location).value := by
  obtain ⟨read, hread⟩ := exists_number hnumber
  rw [readNumber_of_none h.unbounded, (hread raw pair.2 location h.exclusive).2,
    (hread other pair.1 location h.bound).1, readExclusive_of_flag h.flag]
  rfl

theorem Respelled.warnings_number (hkey : key ≠ pair.2) :
    (readNumber raw key location).warnings = (readNumber other key location).warnings := by
  obtain ⟨read, hread⟩ := exists_number hnumber
  by_cases hbound : key = pair.1
  · rw [hbound, readNumber_of_none h.unbounded, (hread other pair.1 location h.bound).1]
    rfl
  · simp only [readNumber, given?, h.rest key hbound hkey]

theorem Respelled.warnings_exclusive (hkey : key ≠ pair.1) :
    (readExclusive raw key location).warnings = (readExclusive other key location).warnings := by
  obtain ⟨read, hread⟩ := exists_number hnumber
  by_cases hexclusive : key = pair.2
  · rw [hexclusive, (hread raw pair.2 location h.exclusive).2, readExclusive_of_flag h.flag]
    rfl
  · simp only [readExclusive, readNumber, given?, h.rest key hkey hexclusive]

end Bounds

/-! ### Schemas that differ in the spelling of bounds -/

/-- Two schemas are the same but for bounds that become the same modifiers, and for related
alternatives. -/
def SameButBounds (related : Schema → Schema → Prop) (schema other : Schema) : Prop :=
  numberModifiers schema = numberModifiers other ∧
    ∃ minimum maximum exclusiveMinimum exclusiveMaximum anyOf,
      schema = { other with minimum, maximum, exclusiveMinimum, exclusiveMaximum, anyOf } ∧
        Option.Rel (List.Forall₂ related) anyOf other.anyOf

theorem sameButBounds_refl {related : Schema → Schema → Prop}
    (hrefl : ∀ schema, related schema schema) (schema : Schema) :
    SameButBounds related schema schema := by
  refine ⟨rfl, schema.minimum, schema.maximum, schema.exclusiveMinimum, schema.exclusiveMaximum,
    schema.anyOf, by cases schema; rfl, ?_⟩
  cases schema.anyOf with
  | none => exact .none
  | some members => exact .some (forall₂_same.mpr fun member _ => hrefl member)

section SameButBounds

variable {related : Schema → Schema → Prop} {schema given : Schema}
  (h : SameButBounds related schema given)

include h

theorem SameButBounds.size_eq (hrelated : ∀ schema given, related schema given →
    schema.size = given.size) : schema.size = given.size := by
  obtain ⟨-, _, _, _, _, anyOf, rfl, hanyOf⟩ := h
  have hmembers : membersSize anyOf = membersSize given.anyOf := by
    generalize given.anyOf = members at hanyOf
    cases hanyOf with
    | none => rfl
    | some hmembers =>
      rw [membersSize, membersSize]
      induction hmembers with
      | nil => rfl
      | cons hfirst _ ih => rw [listSize, listSize, hrelated _ _ hfirst, ih]
  cases given
  simp only [size] at hmembers ⊢
  rw [hmembers]

/-- Schemas that differ in the spelling of bounds are converted alike, if their alternatives are. -/
theorem SameButBounds.convertAt_eq {settings : Settings}
    (hrelated : ∀ schema given, related schema given → ∀ depth context,
      convertAt settings depth schema context = convertAt settings depth given context)
    (depth : Nat) (context : Context) :
    convertAt settings depth schema context = convertAt settings depth given context := by
  cases depth with
  | zero => rfl
  | succ depth =>
    obtain ⟨hnumber, minimum, maximum, exclusiveMinimum, exclusiveMaximum, anyOf, rfl, hanyOf⟩ := h
    have hprimitive : primitiveExpr? { given with
        minimum, maximum, exclusiveMinimum, exclusiveMaximum, anyOf } = primitiveExpr? given := by
      simp only [primitiveExpr?, hnumber]
      rfl
    have hkind : convertKind (convertAt settings depth) settings { given with
        minimum, maximum, exclusiveMinimum, exclusiveMaximum, anyOf } context =
        convertKind (convertAt settings depth) settings given context := by
      generalize hgiven : given.anyOf = members at hanyOf
      cases hanyOf with
      | none =>
        unfold convertKind
        simp only [hprimitive, hgiven]
        rfl
      | @some first second hmembers =>
        -- the alternatives come before all that depends on the bounds
        have hunion : convertUnion (convertAt settings depth) "anyOf" first context =
            convertUnion (convertAt settings depth) "anyOf" second context := by
          exact congrArg (· >>= _) (mapM_zipIdx_congr (hmembers.imp fun _ _ hmember _ =>
            hrelated _ _ hmember depth _) 0)
        unfold convertKind
        simp only [hunion, hgiven]
        rfl
    rw [convertAt, convertAt, hkind]
    rfl

end SameButBounds

/-! ### Reading both spellings -/

theorem rel_joinMembers {related : Schema → Schema → Prop} (hrefl : ∀ schema, related schema schema)
    {anyOf types given : Option (List Schema)} (h : Option.Rel (List.Forall₂ related) types given) :
    Option.Rel (List.Forall₂ related) (joinMembers location anyOf types).value
      (joinMembers location anyOf given).value := by
  cases anyOf with
  | none => exact h
  | some members =>
    have hsame : List.Forall₂ related members members :=
      forall₂_same.mpr fun member _ => hrefl member
    cases h <;> exact .some hsame

section Reading

variable (h : Respelled pair number raw other) (hpair : pair ∈ boundPairs)

include h hpair

theorem Respelled.rest_eq (hname : name ∉ boundKeywords) :
    get? raw name = get? other name := by
  have hbounds : ∀ pair ∈ boundPairs, pair.1 ∈ boundKeywords ∧ pair.2 ∈ boundKeywords := by decide
  exact h.rest name (fun heq => hname (heq ▸ (hbounds pair hpair).1))
    fun heq => hname (heq ▸ (hbounds pair hpair).2)

variable (hnumber : isNumber number) (read : Reader) (location : String)

include hnumber

/-- On the side that is respelled and on the other, the bounds become the same modifiers. -/
theorem Respelled.side_eq (side : String × String) (hside : side ∈ boundPairs)
    (inclusive exclusive : ModifierKind) :
    boundModifiers inclusive exclusive (readNumber raw side.1 location).value
        (readExclusive raw side.2 location).value =
      boundModifiers inclusive exclusive (readNumber other side.1 location).value
        (readExclusive other side.2 location).value := by
  have happart : ∀ side ∈ boundPairs, ∀ pair ∈ boundPairs, side ≠ pair →
      (side.1 ≠ pair.1 ∧ side.1 ≠ pair.2) ∧ side.2 ≠ pair.1 ∧ side.2 ≠ pair.2 := by decide
  by_cases hsame : side = pair
  · rw [hsame]
    exact h.boundModifiers_eq hnumber inclusive exclusive
  · obtain ⟨hbound, hexclusive⟩ := happart side hside pair hpair hsame
    simp only [readExclusive, readNumber, given?, h.rest _ hbound.1 hbound.2,
      h.rest _ hexclusive.1 hexclusive.2]

/-- The keywords are read with the same warnings, as schemas that differ in the bounds only. -/
theorem Respelled.readKeywords_alike {related : Schema → Schema → Prop}
    (hrefl : ∀ schema, related schema schema) (nullable : Bool) (typing given : Typing)
    (hkind : typing.kind = given.kind) (hnullable : typing.nullable = given.nullable)
    (hmembers : Option.Rel (List.Forall₂ related) typing.members given.members) :
    (readKeywords read raw location nullable typing).Alike (SameButBounds related)
      (readKeywords read other location nullable given) := by
  have hplain : ∀ name ∈ boundKeywords, name ∈ spellingKeywords := by decide
  have halike : ∀ name ∉ spellingKeywords, Schema.Alike read read raw other name :=
    fun name hname => alike_of_get?_eq (h.rest_eq hpair fun hbound => hname (hplain name hbound))
      fun _ _ _ _ _ => rfl
  have hsole : soleTypeName? raw = soleTypeName? other := by
    rw [soleTypeName?, soleTypeName?, h.rest_eq hpair (by decide)]
  have hnone : typing.members.isNone = given.members.isNone := by
    generalize typing.members = first, given.members = second at hmembers
    cases hmembers <;> rfl
  have hkeys : ∀ pair ∈ boundPairs, (∀ key ∈ ["minimum", "maximum"], key ≠ pair.2) ∧
      ∀ key ∈ ["exclusiveMinimum", "exclusiveMaximum"], key ≠ pair.1 := by decide
  -- the two pairs of bounds are the only keywords that may differ
  have hlower := h.side_eq hpair hnumber location ("minimum", "exclusiveMinimum") (by decide) .gte .gt
  have hupper := h.side_eq hpair hnumber location ("maximum", "exclusiveMaximum") (by decide) .lte .lt
  rw [readKeywords_eq halike nullable hsole hkind hnullable hnone
    (fun key hkey => h.warnings_number hnumber ((hkeys pair hpair).1 key hkey))
    (fun key hkey => h.warnings_exclusive hnumber ((hkeys pair hpair).2 key hkey))]
  refine ⟨rfl, ?_, _, _, _, _, _, rfl, ?_⟩
  · exact congrArg₂ (· ++ ·) (congrArg₂ (· ++ ·) hlower hupper) rfl
  · exact rel_joinMembers hrefl hmembers

/-- The type is read with the same warnings, and a member for each of several types likewise. -/
theorem Respelled.readTyping_alike :
    (readTyping read raw location).Alike (fun typing given => typing.kind = given.kind ∧
        typing.nullable = given.nullable ∧
        Option.Rel (List.Forall₂ (SameButBounds Eq)) typing.members given.members)
      (readTyping read other location) := by
  have hget : ∀ name ∉ boundKeywords, get? raw name = get? other name :=
    fun name hname => h.rest_eq hpair hname
  have hkind : inferredKind raw = inferredKind other := by
    simp only [inferredKind, has, hget "properties" (by decide),
      hget "additionalProperties" (by decide), hget "required" (by decide), hget "items" (by decide),
      hget "enum" (by decide)]
    rfl
  unfold readTyping given?
  rw [hget "type" (by decide), hkind]
  split
  · exact ⟨rfl, rfl, rfl, .none⟩
  · exact ⟨rfl, rfl, rfl, .none⟩
  · split
    · exact ⟨rfl, rfl, rfl, .none⟩
    · exact ⟨rfl, rfl, rfl, .none⟩
    · rename_i types _ _ _ _
      -- the members for the types have no members of this sort themselves
      have hmembers := Noted.mapM_alike (fun member : String × Nat =>
        (h.narrowed hpair member.1).readKeywords_alike hpair hnumber read
          (location ++ "/type/" ++ toString member.2) Eq.refl false
          { kind := .ofTypeName member.1 } { kind := .ofTypeName member.1 } rfl rfl .none)
        (typeNames types).zipIdx
      exact hmembers.bind ⟨rfl, rfl, rfl, .some hmembers.2⟩
  · exact ⟨rfl, rfl, rfl, .none⟩

/-- Mappings with a bound in either spelling are read with the same warnings. -/
theorem Respelled.ofEntries_alike :
    (ofEntries read raw location).Alike (SameButBounds (SameButBounds Eq))
      (ofEntries read other location) := by
  have hget : ∀ name ∉ boundKeywords, get? raw name = get? other name :=
    fun name hname => h.rest_eq hpair hname
  have hrefl : ∀ schema, SameButBounds (SameButBounds Eq) schema schema :=
    sameButBounds_refl (sameButBounds_refl Eq.refl)
  have htext : ∀ name ∉ boundKeywords, textOf? raw name = textOf? other name := fun name hname => by
    rw [textOf?, textOf?, hget name hname]
  have htrue : isTrue raw "nullable" = isTrue other "nullable" := by
    rw [isTrue, isTrue, hget "nullable" (by decide)]
  have hflag : readFlag raw "nullable" location = readFlag other "nullable" location := by
    simp only [readFlag, given?, hget "nullable" (by decide)]
  rw [ofEntries, ofEntries, htext "$ref" (by decide), htext "description" (by decide), htrue, hflag]
  cases textOf? other "$ref" with
  | some ref => exact ⟨rfl, hrefl _⟩
  | none =>
    have htyping := h.readTyping_alike hpair hnumber read location
    obtain ⟨hkind, hnullable, hmembers⟩ := htyping.2
    have hkeywords := h.readKeywords_alike hpair hnumber read location
      (sameButBounds_refl Eq.refl) (readFlag other "nullable" location).value _ _ hkind hnullable
      hmembers
    have hsame : (readFlag other "nullable" location).Alike Eq
      (readFlag other "nullable" location) := ⟨rfl, rfl⟩
    exact hsame.bind (htyping.bind hkeywords)

end Reading

/-- Values that arise with either spelling of a bound give the same warnings and expressions. -/
theorem Respelled.convert_eq (h : Respelled pair number raw other) (hpair : pair ∈ boundPairs)
    (hnumber : isNumber number) (location : String) :
    (ofValue (.map raw) location).warnings = (ofValue (.map other) location).warnings ∧
      ∀ (settings : Settings) (context : Context),
        convert settings (ofValue (.map raw) location).value context =
          convert settings (ofValue (.map other) location).value context := by
  have hread := h.ofEntries_alike hpair hnumber
    (readAt (max (Value.entriesDepth raw) (Value.entriesDepth other))) location
  rw [← ofValue_map (Nat.le_max_left _ _), ← ofValue_map (Nat.le_max_right _ _)] at hread
  refine ⟨hread.1, fun settings context => ?_⟩
  have hsize := hread.2.size_eq fun _ _ hmember => hmember.size_eq fun _ _ => congrArg size
  rw [convert, convert, hsize]
  exact hread.2.convertAt_eq (fun _ _ hmember => hmember.convertAt_eq
    fun _ _ hsame _ _ => by rw [hsame]) _ _

/-- A schema with an exclusive bound that is a number. -/
def withOwnBound (raw : Entries) (pair : String × String) (number : Value) : Value :=
  .map (adding raw pair.2 number)

/-- A schema with an ordinary bound that a flag makes exclusive. -/
def withFlaggedBound (raw : Entries) (pair : String × String) (number : Value) : Value :=
  .map (adding (adding raw pair.1 number) pair.2 (.bool true))

/-- A type in a list is read like the type by itself, `null` beside it like a schema that is
nullable, and an exclusive bound in either spelling is converted to the same expression. -/
theorem spellings_agree (raw : Entries) (location : String) :
    (textOf? raw "$ref" = none → Entries.get? raw "nullable" = none → ∀ type ≠ "null",
      ofValue (.map (adding raw "type" (.list [.text type]))) location =
          ofValue (.map (adding raw "type" (.text type))) location ∧
        ∀ types ∈ [[.text type, .text "null"], [.text "null", .text type]],
          ofValue (.map (adding raw "type" (.list types))) location =
            ofValue (.map (adding (adding raw "type" (.text type)) "nullable" (.bool true)))
              location) ∧
    ∀ pair ∈ boundPairs, ∀ number, Entries.get? raw pair.1 = none → isNumber number →
      (ofValue (withOwnBound raw pair number) location).warnings =
          (ofValue (withFlaggedBound raw pair number) location).warnings ∧
        ∀ (settings : Settings) (context : Context),
          convert settings (ofValue (withOwnBound raw pair number) location).value context =
            convert settings (ofValue (withFlaggedBound raw pair number) location).value context := by
  refine ⟨fun href hnullable type htype => ⟨ofValue_sole href hnullable htype, fun types htypes =>
    ofValue_with_null href hnullable htype htypes⟩, fun pair hpair number hbound hnumber => ?_⟩
  exact (respelled_adding hpair hbound).convert_eq hpair hnumber location

/-- A nullable integer, and an exclusive bound beside several types. -/
theorem spellings_agree_integer :
    let raw : Entries := [(.text "maximum", .text "ten")]
    let several : Entries := [(.text "type", .list [.text "integer", .text "string"])]
    textOf? raw "$ref" = none ∧ Entries.get? raw "nullable" = none ∧ "integer" ≠ "null" ∧
      ofValue (.map (adding raw "type" (.list [.text "null", .text "integer"]))) "#" =
        ofValue (.map (adding (adding raw "type" (.text "integer")) "nullable" (.bool true))) "#" ∧
      Entries.get? several "minimum" = none ∧ isNumber (.int 3) ∧
      ∀ settings : Settings,
        convert settings (ofValue (withOwnBound several ("minimum", "exclusiveMinimum") (.int 3))
            "#").value {} =
          convert settings (ofValue (withFlaggedBound several ("minimum", "exclusiveMinimum")
            (.int 3)) "#").value {} := by
  intro raw several
  have htypes := ((spellings_agree raw "#").1 rfl rfl "integer" (by decide)).2 _ (.tail _ (.head _))
  have hbounds := (spellings_agree several "#").2 ("minimum", "exclusiveMinimum") (.head _) (.int 3)
    rfl rfl
  exact ⟨rfl, rfl, by decide, htypes, rfl, rfl, fun settings => hbounds.2 settings {}⟩

end Schema

end OpenApiClient

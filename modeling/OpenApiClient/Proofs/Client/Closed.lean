import OpenApiClient.Client.Source
import OpenApiClient.Config.Layers
import OpenApiClient.Proofs.Client.Compile
import OpenApiClient.Proofs.Source.Scan

/-!
# No word of a document breaks out of its literal

The source of a client has the words of the document in it: names and values in expressions, names,
paths, descriptions and statuses in endpoints, identifiers made of names. What stands around them is
fixed, and has brackets that belong together. So the source is closed if all that is put in is
(`Client.closed_source`), and this is true of everything that is made of words.

The name of the client is the only word that is put in as it is. It is a name that the configuration
has accepted, so it has the form of an identifier.
-/

namespace OpenApiClient

open List
open Source (Closed Scan closed_append closed_enclosed closed_join closed_list closed_literal
  closed_literals closed_writeString)

/-! ### Expressions -/

theorem Modifier.closed_formatSource (format : String) : Closed (Modifier.formatSource format) := by
  unfold formatSource
  split <;> decide

variable {text : String}

theorem Modifier.closed_source {modifier : Modifier} (h : modifier.source = .ok text) :
    Closed text := by
  -- most modifiers are a call with literals in its brackets
  have hcall : ∀ {method : String}, Scan.run {} ("." ++ method ++ "(").toList = some { due := [')'] } →
      (do return "." ++ method ++ "(" ++ (← Source.literals modifier.args) ++ ")" :
        Except Failure String) = .ok text → Closed text := by
    intro method hmethod htext
    obtain ⟨arguments, harguments, htext⟩ := bind_eq_ok.mp htext
    cases htext
    exact closed_enclosed [')'] hmethod (closed_literals harguments) rfl
  unfold source at h
  cases hkind : modifier.kind with
  | integer | partialObject | passthrough | strict | optional | nullable =>
    simp only [hkind] at h
    cases h
    decide
  | regex =>
    simp only [hkind] at h
    obtain ⟨pattern, -, h⟩ := bind_eq_ok.mp h
    cases h
    exact closed_enclosed [')'] rfl (Source.closed_patternLiteral pattern) rfl
  | format =>
    simp only [hkind] at h
    obtain ⟨format, -, h⟩ := bind_eq_ok.mp h
    cases h
    exact closed_formatSource format
  | gt | gte | lt | lte | multipleOf | min | max | default =>
    simp only [hkind] at h
    exact hcall rfl h

namespace Source

theorem closed_reference {identifiers : List (String × String)}
    (hidentifiers : ∀ entry ∈ identifiers, Closed entry.2) {name : Option String}
    (h : reference identifiers name = .ok text) : Closed text := by
  unfold reference at h
  split at h
  · rename_i identifier hlookup
    cases h
    exact hidentifiers _ (Named.mem_of_lookup hlookup)
  · cases h

theorem closed_literalCall {values : List Value} (h : literalCall values = .ok text) :
    Closed text := by
  unfold literalCall at h
  split at h
  · cases h
  · obtain ⟨value, hvalue, h⟩ := bind_eq_ok.mp h
    cases h
    exact closed_enclosed [')'] rfl (closed_literal hvalue) rfl

theorem closed_enumeration {values : List Value} (h : enumeration values = .ok text) :
    Closed text := by
  unfold enumeration at h
  split at h
  · obtain ⟨texts, htexts, h⟩ := bind_eq_ok.mp h
    cases h
    exact closed_enclosed [']', ')'] rfl (closed_literals htexts) rfl
  · obtain ⟨members, hmembers, h⟩ := bind_eq_ok.mp h
    cases h
    refine closed_enclosed [']', ')'] rfl (closed_list fun member hmember => ?_) rfl
    obtain ⟨value, -, hvalue⟩ := exists_of_forall₂ (mapM_eq_ok_iff.mp hmembers) hmember
    exact closed_literalCall (show literalCall [value] = .ok member from hvalue)

theorem closed_objectCall {fields : List String} {others : Option String}
    (hfields : ∀ field ∈ fields, Closed field) (hothers : ∀ text ∈ others, Closed text) :
    Closed (objectCall fields others) := by
  have hbody : Closed ("z.object(\x7b " ++ ", ".intercalate fields ++ " \x7d)") :=
    closed_enclosed ['\x7d', ')'] rfl (closed_list hfields) rfl
  unfold objectCall
  dsimp only
  split
  · exact closed_enclosed [')'] rfl (hothers _ rfl) rfl
  · rename_i text _
    have hcatchall : Closed (".catchall(" ++ text ++ ")") :=
      closed_enclosed [')'] rfl (hothers text rfl) rfl
    simpa only [String.append_assoc] using closed_append hbody hcatchall
  · decide
  · exact hbody

theorem closed_unionCall {members : List String} (h : ∀ member ∈ members, Closed member) :
    Closed (unionCall members) := by
  unfold unionCall
  split
  · decide
  · exact h _ (mem_singleton_self _)
  · exact closed_enclosed [']', ')'] rfl (closed_list h) rfl

theorem closed_intersectionCall {members : List String}
    (hmembers : ∀ member ∈ members, Closed member) (h : intersectionCall members = .ok text) :
    Closed text := by
  unfold intersectionCall at h
  split at h
  · cases h
  · cases h
    rw [forall_mem_cons] at hmembers
    refine closed_append hmembers.1 (closed_join fun text htext => ?_)
    obtain ⟨other, hother, rfl⟩ := mem_map.mp htext
    exact closed_enclosed [')'] rfl (hmembers.2 other hother) rfl

end Source

namespace Expr

variable {identifiers : List (String × String)}

theorem closed_propertySources {properties : List (Property Expr)} {texts : List String}
    (hproperties : ∀ property ∈ properties, ∀ text,
      property.expr.source identifiers = .ok text → Closed text)
    (h : propertySources identifiers properties = .ok texts) : ∀ text ∈ texts, Closed text := by
  induction properties generalizing texts with
  | nil => cases h; simp
  | cons property rest ih =>
    rw [forall_mem_cons] at hproperties
    unfold propertySources at h
    obtain ⟨text, htext, h⟩ := bind_eq_ok.mp h
    obtain ⟨others, hothers, h⟩ := bind_eq_ok.mp h
    cases h
    refine forall_mem_cons.mpr ⟨?_, ih hproperties.2 hothers⟩
    exact closed_append (closed_append (Source.closed_propertyKey _) (by decide))
      (hproperties.1 text htext)

theorem closed_memberSources {members : List Expr} {texts : List String}
    (hmembers : ∀ member ∈ members, ∀ text, member.source identifiers = .ok text → Closed text)
    (h : memberSources identifiers members = .ok texts) : ∀ text ∈ texts, Closed text := by
  induction members generalizing texts with
  | nil => cases h; simp
  | cons member rest ih =>
    rw [forall_mem_cons] at hmembers
    unfold memberSources at h
    obtain ⟨text, htext, h⟩ := bind_eq_ok.mp h
    obtain ⟨others, hothers, h⟩ := bind_eq_ok.mp h
    cases h
    exact forall_mem_cons.mpr ⟨hmembers.1 text htext, ih hmembers.2 hothers⟩

theorem closed_optionSource {part : Option Expr} {found : Option String}
    (hpart : ∀ expr ∈ part, ∀ text, expr.source identifiers = .ok text → Closed text)
    (h : optionSource identifiers part = .ok found) : ∀ text ∈ found, Closed text := by
  cases part with
  | none => cases h; simp
  | some expr =>
    obtain ⟨text, htext, h⟩ := bind_eq_ok.mp h
    cases h
    intro other hother
    cases hother
    exact hpart expr rfl text htext

/-- Expressions are written as closed texts. -/
theorem closed_source (hidentifiers : ∀ entry ∈ identifiers, Closed entry.2) {expr : Expr} :
    ∀ {text : String}, expr.source identifiers = .ok text → Closed text := by
  induction expr using childInduction with
  | step expr ih =>
    intro text h
    obtain ⟨kind, primitive, modifiers, properties, others, items, members, values, ref, note⟩ :=
      expr
    simp only [children, mem_append, mem_map, Option.mem_toList] at ih
    -- every kind of expression is a call with those of its modifiers after it
    have hlast : ∀ {call : String}, Closed call →
        (do return call ++ String.join (← modifiers.mapM Modifier.source) :
          Except Failure String) = .ok text → Closed text := by
      intro call hcall htext
      obtain ⟨calls, hcalls, htext⟩ := bind_eq_ok.mp htext
      cases htext
      refine closed_append hcall (closed_join fun text htext => ?_)
      obtain ⟨modifier, -, hmodifier⟩ := exists_of_forall₂ (mapM_eq_ok_iff.mp hcalls) htext
      exact Modifier.closed_source hmodifier
    have hmembers : ∀ {texts}, memberSources identifiers members = .ok texts →
        ∀ text ∈ texts, Closed text :=
      closed_memberSources fun member hmember _ => ih member (.inr hmember)
    unfold Expr.source at h
    cases kind with
    | primitive => exact hlast (by cases primitive.getD .string <;> decide) h
    | unknown => exact hlast (by decide : Closed "z.unknown()") h
    | object =>
      obtain ⟨fields, hfields, h⟩ := bind_eq_ok.mp h
      obtain ⟨found, hfound, h⟩ := bind_eq_ok.mp h
      refine hlast (Source.closed_objectCall ?_ ?_) h
      · refine closed_propertySources (fun property hproperty _ => ?_) hfields
        exact ih _ (.inl (.inl (.inl ⟨property, hproperty, rfl⟩)))
      · exact closed_optionSource (fun other hother _ => ih other (.inl (.inl (.inr hother)))) hfound
    | array =>
      obtain ⟨found, hfound, h⟩ := bind_eq_ok.mp h
      have hitems := closed_optionSource (fun item hitem _ => ih item (.inl (.inr hitem))) hfound
      refine hlast (closed_enclosed [')'] rfl ?_ rfl) h
      cases found with
      | none => decide
      | some text => exact hitems text rfl
    | union =>
      obtain ⟨call, hcall, h⟩ := bind_eq_ok.mp h
      obtain ⟨texts, htexts, rfl⟩ := exists_of_map_eq_ok hcall
      exact hlast (Source.closed_unionCall (hmembers htexts)) h
    | intersection =>
      obtain ⟨texts, htexts, h⟩ := bind_eq_ok.mp h
      obtain ⟨call, hcall, h⟩ := bind_eq_ok.mp h
      exact hlast (Source.closed_intersectionCall (hmembers htexts) hcall) h
    | literal =>
      obtain ⟨call, hcall, h⟩ := bind_eq_ok.mp h
      exact hlast (Source.closed_literalCall hcall) h
    | enum =>
      obtain ⟨call, hcall, h⟩ := bind_eq_ok.mp h
      exact hlast (Source.closed_enumeration hcall) h
    | namedRef =>
      obtain ⟨call, hcall, h⟩ := bind_eq_ok.mp h
      exact hlast (Source.closed_reference hidentifiers hcall) h
    | lazyRef =>
      obtain ⟨found, hfound, h⟩ := bind_eq_ok.mp h
      exact hlast (closed_enclosed [')'] rfl (Source.closed_reference hidentifiers hfound) rfl) h

end Expr

/-! ### Lines -/

namespace Client

/-- Lines are closed as a whole; a single one may leave brackets open. -/
def ClosedLines (lines : List String) : Prop := Closed (String.join (lines.map (· ++ "\n")))

instance (lines : List String) : Decidable (ClosedLines lines) :=
  inferInstanceAs (Decidable (Closed _))

theorem join_lines_append (first second : List String) :
    String.join ((first ++ second).map (· ++ "\n")) =
      String.join (first.map (· ++ "\n")) ++ String.join (second.map (· ++ "\n")) := by
  rw [map_append, String.join_append]

theorem closedLines_append {first second : List String} (hfirst : ClosedLines first)
    (hsecond : ClosedLines second) : ClosedLines (first ++ second) := by
  rw [ClosedLines, join_lines_append]
  exact closed_append hfirst hsecond

variable {lines : List String}

theorem closedLines_of_forall (h : ∀ line ∈ lines, Closed line) : ClosedLines lines := by
  refine closed_join fun text htext => ?_
  obtain ⟨line, hline, rfl⟩ := mem_map.mp htext
  exact closed_append (h line hline) (by decide)

theorem closedLines_cons {line : String} {rest : List String} (hline : Closed line)
    (hrest : ClosedLines rest) : ClosedLines (line :: rest) := by
  rw [← singleton_append]
  exact closedLines_append (closedLines_of_forall (by simpa using hline)) hrest

theorem closedLines_nil : ClosedLines [] := by decide

theorem closedLines_flatten {blocks : List (List String)} (h : ∀ block ∈ blocks, ClosedLines block) :
    ClosedLines blocks.flatten := by
  induction blocks with
  | nil => decide
  | cons block rest ih =>
    rw [forall_mem_cons] at h
    exact closedLines_append h.1 (ih h.2)

/-- Closed lines can stand between lines whose brackets belong together. -/
theorem closedLines_enclosed (start stop : List String) (due : List Char)
    (hstart : Scan.run {} (String.join (start.map (· ++ "\n"))).toList = some { due })
    (hlines : ClosedLines lines)
    (hstop : Scan.run { due } (String.join (stop.map (· ++ "\n"))).toList = some {}) :
    ClosedLines (start ++ lines ++ stop) := by
  rw [ClosedLines, join_lines_append, join_lines_append]
  exact closed_enclosed due hstart hlines hstop

/-- A line with a field. -/
theorem closed_field {start : String} (hstart : Closed start) (htext : Closed text) :
    Closed (start ++ text ++ ",") :=
  closed_enclosed [] hstart htext rfl

theorem closedLines_textLine {indent key : String} (hstart : Closed (indent ++ key ++ ": "))
    (text : Option String) : ClosedLines (textLine indent key text) := by
  unfold textLine
  split
  · exact closedLines_nil
  · exact closedLines_nil
  · exact closedLines_cons (closed_field hstart (closed_writeString _)) closedLines_nil

theorem closedLines_listLines {key : String} {lines : List String}
    (hstart : Scan.run {} (String.join ((["    " ++ key ++ ": ["] : List String).map (· ++ "\n"))).toList =
      some { due := [']'] }) (hlines : ClosedLines lines) : ClosedLines (listLines key lines) := by
  unfold listLines
  split
  · decide
  · exact closedLines_enclosed _ _ [']'] hstart hlines rfl

theorem closed_statusText (status : String) : Closed (statusText status) := by
  unfold statusText
  split
  · rename_i hdigits
    rw [Text.isDigitText, Bool.and_eq_true, all_eq_true] at hdigits
    rw [← String.ofList_toList (s := status)]
    exact Source.closed_of_forall (by decide +kernel) hdigits.2
  · exact closed_writeString status

/-! ### Steps of a run -/

theorem outcome_of_ok {α : Type} {result : Except Failure α} {records reached : List Record}
    {value : α} (h : outcome (Run.of result) records = (.ok value, reached)) : result = .ok value :=
  congrArg Prod.fst h

/-- What every value for an item is, all values for a list are. -/
theorem forall_mem_of_outcome_mapM {α β : Type} {act : α → Run β} {good : β → Prop}
    {items : List α} (h : ∀ item ∈ items, ∀ {records value reached},
      outcome (act item) records = (.ok value, reached) → good value) :
    ∀ {records values reached}, outcome (items.mapM act) records = (.ok values, reached) →
      ∀ value ∈ values, good value := by
  induction items with
  | nil =>
    intro records values reached hvalues
    cases hvalues
    simp
  | cons item rest ih =>
    intro records values reached hvalues
    rw [forall_mem_cons] at h
    obtain ⟨value, others, middle, rfl, hvalue, hothers⟩ := outcome_mapM_cons_ok.mp hvalues
    exact forall_mem_cons.mpr ⟨h.1 hvalue, ih h.2 hothers⟩

section

variable {identifiers : List (String × String)} {records reached : List Record}
  (hidentifiers : ∀ entry ∈ identifiers, Closed entry.2)
include hidentifiers

theorem closedLines_parameterLines {endpoint : Endpoint} {parameter : Endpoint.Parameter}
    (h : outcome (parameterLines identifiers endpoint parameter) records = (.ok lines, reached)) :
    ClosedLines lines := by
  unfold parameterLines at h
  split at h
  · cases h
    decide
  · rename_i word _
    obtain ⟨schema, middle, hschema, h⟩ := outcome_bind_ok.mp h
    cases h
    have hclosed := Expr.closed_source hidentifiers (outcome_of_ok hschema)
    have hdescription : ClosedLines (textLine "        " "description" parameter.description) :=
      closedLines_textLine (by decide) _
    have hfields := closedLines_cons (closed_field (by decide : Closed "        name: ")
      (closed_writeString parameter.name)) <| closedLines_append hdescription <|
      closedLines_cons (closed_field (by decide : Closed "        type: ") (closed_writeString word)) <|
      closedLines_cons (closed_field (by decide : Closed "        schema: ") hclosed) closedLines_nil
    have hrecord := closedLines_enclosed ["      \x7b"] ["      \x7d,"] ['\x7d'] rfl hfields rfl
    simpa only [append_assoc, cons_append, nil_append] using hrecord

theorem closedLines_errorLines {error : Endpoint.ErrorResponse}
    (h : outcome (errorLines identifiers error) records = (.ok lines, reached)) :
    ClosedLines lines := by
  obtain ⟨schema, middle, hschema, h⟩ := outcome_bind_ok.mp h
  cases h
  have hclosed := Expr.closed_source hidentifiers (outcome_of_ok hschema)
  have hdescription : ClosedLines (textLine "        " "description" error.description) :=
    closedLines_textLine (by decide) _
  have hfields := closedLines_cons (closed_field (by decide : Closed "        status: ")
    (closed_statusText error.status)) <| closedLines_append hdescription <|
    closedLines_cons (closed_field (by decide : Closed "        schema: ") hclosed) closedLines_nil
  have hrecord := closedLines_enclosed ["      \x7b"] ["      \x7d,"] ['\x7d'] rfl hfields rfl
  simpa only [append_assoc, cons_append, nil_append] using hrecord

theorem closedLines_endpointLines {endpoint : Endpoint}
    (h : outcome (endpointLines identifiers endpoint) records = (.ok lines, reached)) :
    ClosedLines lines := by
  obtain ⟨parameters, first, hparameters, h⟩ := outcome_bind_ok.mp h
  obtain ⟨response, second, hresponse, h⟩ := outcome_bind_ok.mp h
  obtain ⟨errors, third, herrors, h⟩ := outcome_bind_ok.mp h
  cases h
  have hclosed := Expr.closed_source hidentifiers (outcome_of_ok hresponse)
  have hparameterLines : ClosedLines (listLines "parameters" parameters.flatten) :=
    closedLines_listLines rfl <| closedLines_flatten <| forall_mem_of_outcome_mapM
      (fun _ _ => closedLines_parameterLines hidentifiers) hparameters
  have herrorLines : ClosedLines (listLines "errors" errors.flatten) :=
    closedLines_listLines rfl <| closedLines_flatten <| forall_mem_of_outcome_mapM
      (fun _ _ => closedLines_errorLines hidentifiers) herrors
  have halias : ClosedLines (textLine "    " "alias" endpoint.aliasName) :=
    closedLines_textLine (by decide) _
  have hdescription : ClosedLines (textLine "    " "description" endpoint.description) :=
    closedLines_textLine (by decide) _
  have hfields := closedLines_cons (closed_field (by decide : Closed "    method: ")
    (closed_writeString endpoint.method.word)) <|
    closedLines_cons (closed_field (by decide : Closed "    path: ")
      (closed_writeString (clientPath endpoint.path))) <|
    closedLines_append halias <| closedLines_append hdescription <|
    closedLines_cons (closed_field (by decide : Closed "    requestFormat: ")
      (closed_writeString endpoint.requestFormat.word)) <|
    closedLines_append hparameterLines <|
    closedLines_cons (closed_field (by decide : Closed "    response: ") hclosed) herrorLines
  have hrecord := closedLines_enclosed ["  \x7b"] ["  \x7d,"] ['\x7d'] rfl hfields rfl
  simpa only [append_assoc, cons_append, nil_append] using hrecord

end

/-! ### The module -/

theorem closed_declarationLine {identifiers : List (String × String)} {records reached : List Record}
    (hidentifiers : ∀ entry ∈ identifiers, Closed entry.2) {declared : Declared} {line : String}
    (hidentifier : Closed declared.identifier)
    (h : outcome (declarationLine identifiers declared) records = (.ok line, reached)) :
    Closed line := by
  obtain ⟨source, middle, hsource, h⟩ := outcome_bind_ok.mp h
  cases h
  have hclosed := Expr.closed_source hidentifiers (outcome_of_ok hsource)
  have hstart : Closed ("const " ++ declared.identifier ++ " = ") :=
    closed_enclosed [] rfl hidentifier rfl
  exact closed_append (closed_append hstart hclosed) (by decide)

theorem closedLines_exportLines {declarations : List Declared}
    (h : ∀ declared ∈ declarations, Closed declared.identifier) :
    ClosedLines (exportLines declarations) := by
  refine closedLines_enclosed ["", "export const schemas = \x7b"] ["\x7d;"] ['\x7d'] rfl
    (closedLines_of_forall fun line hline => ?_) rfl
  obtain ⟨declared, hdeclared, rfl⟩ := mem_map.mp hline
  exact closed_field (by decide) (h declared hdeclared)

theorem closedLines_clientLines {name : String} (h : Closed name) : ClosedLines (clientLines name) :=
  closedLines_cons (by decide) <| closedLines_cons (closed_enclosed [] rfl h rfl) (by decide +kernel)

/-- The source of a client is closed if the identifiers of the schemas and the name of the client
are. -/
theorem closed_source {compiled : Compiled} {config : Config}
    (hdeclared : ∀ declared ∈ compiled.declarations, Closed declared.identifier)
    (hname : Closed config.clientName) {records reached : List Record}
    (h : outcome (source compiled config) records = (.ok text, reached)) : Closed text := by
  have hidentifiers : ∀ entry ∈ compiled.identifiers, Closed entry.2 := by
    intro entry hentry
    obtain ⟨declared, hmem, rfl⟩ := mem_map.mp hentry
    exact hdeclared declared hmem
  unfold source at h
  dsimp only at h
  split at h
  · cases h
  obtain ⟨declarations, first, hdeclarations, h⟩ := outcome_bind_ok.mp h
  obtain ⟨endpoints, second, hendpoints, h⟩ := outcome_bind_ok.mp h
  cases h
  have hdeclarationLines : ∀ line ∈ declarations, Closed line :=
    forall_mem_of_outcome_mapM (fun declared hmem =>
      closed_declarationLine hidentifiers (hdeclared declared hmem)) hdeclarations
  have hendpointLines : ClosedLines endpoints.flatten := closedLines_flatten <|
    forall_mem_of_outcome_mapM (fun _ _ => closedLines_endpointLines hidentifiers) hendpoints
  refine closedLines_append ?_ (closedLines_clientLines hname)
  have hlist := closedLines_enclosed ["", "const endpoints = makeApi(["] ["]);"] [']', ')'] rfl
    hendpointLines rfl
  simp only [append_assoc] at hlist ⊢
  refine closedLines_append (by decide) (closedLines_append ?_ (closedLines_append ?_ hlist))
  · split
    · exact closedLines_nil
    · exact closedLines_cons (by decide) (closedLines_of_forall hdeclarationLines)
  · split
    · exact closedLines_nil
    · exact closedLines_exportLines hdeclared

end Client

theorem Config.isClientName_of_resolve {tree : File.Tree} {directory : File.Path}
    {environment : List (String × String)} {options : Entries} {config : Config}
    (h : Config.resolve tree directory environment options = .ok config) :
    Source.isClientName config.clientName = true := by
  unfold Config.resolve at h
  obtain ⟨project, -, h⟩ := bind_eq_ok.mp h
  obtain ⟨layer, -, h⟩ := bind_eq_ok.mp h
  dsimp only at h
  split at h
  · cases h
  · split at h
    · rename_i hname
      cases h
      exact hname
    · cases h

theorem closed_of_isClientName {name : String} (h : Source.isClientName name = true) :
    Closed name := by
  rw [Source.isClientName, Bool.and_eq_true] at h
  exact Source.closed_of_isIdentifier h.1

/-- No word of a document breaks out of its literal: a scanner that goes through the source of a
client is in no string and no regular expression at the end, and all brackets have been closed in the
order they have to be. The client may be written with another configuration than the one it was
compiled with, if only it is one that can be given. -/
theorem source_leaves_nothing_open (document : Document) (config writing : Config)
    (compiled : Compiled) (tree : File.Tree) (directory : File.Path)
    (environment : List (String × String)) (options : Entries) (source : String)
    (hcompiled : (document.compile config).result.1 = .ok compiled)
    (hwriting : Config.resolve tree directory environment options = .ok writing)
    (hsource : (Client.source compiled writing).result.1 = .ok source) :
    Scan.run { region := .code, due := [] } source.toList = some { region := .code, due := [] } := by
  rw [compile_result] at hcompiled
  obtain ⟨stages, order, -, -, -, hdeclarations, -⟩ := stages_of_compiled hcompiled
  have hdeclared : ∀ declared ∈ compiled.declarations, Closed declared.identifier := by
    intro declared hmem
    rw [(Declaration.lookup_of_mem_collect (hdeclarations ▸ hmem)).2]
    exact Source.closed_identifier declared.name
  have hname := closed_of_isClientName (Config.isClientName_of_resolve hwriting)
  rcases houtcome : outcome (Client.source compiled writing) [] with ⟨result, records⟩
  obtain rfl : result = .ok source := (congrArg Prod.fst houtcome).symm.trans hsource
  exact Client.closed_source hdeclared hname houtcome

/-- A document whose words end literals, open brackets and take away the meaning of what follows. -/
def markedDocument : Document :=
  let marked := "\"]/\x7d)\\"
  let text : Schema := { kind := .string, pattern := some ("[" ++ marked ++ "\n/\\") }
  { info := { title := "", version := "" }
    version := "3.0.0"
    schemas :=
      [(marked, { kind := .object, properties := [(marked, text)], default := some (.text marked) }),
       ("State", { enum := some [.text marked, .text "on"] })]
    operations :=
      [{ path := "/\x7b" ++ marked ++ "\x7d", method := .get, name := some marked
         description := some marked
         parameters :=
           [{ name := marked, place := .query, description := some marked, schema := some text }]
         responses := [{ status := "404", description := some marked }] }] }

theorem source_leaves_nothing_open_markedDocument :
    ∃ (compiled : Compiled) (writing : Config) (source : String),
      (markedDocument.compile {}).result.1 = .ok compiled ∧
      Config.resolve {} {} [] [(.text Config.clientNameField, .text "$_1")] = .ok writing ∧
      (Client.source compiled writing).result.1 = .ok source ∧
      compiled.declarations.length = 2 ∧ writing.clientName = "$_1" ∧
      Scan.run { region := .code, due := [] } source.toList = some { region := .code, due := [] } := by
  have hall : (do
      let compiled ← (markedDocument.compile {}).result.1.toOption
      let writing ← (Config.resolve {} {} [] [(.text Config.clientNameField, .text "$_1")]).toOption
      let _ ← (Client.source compiled writing).result.1.toOption
      return (compiled.declarations.length, writing.clientName) : Option (Nat × String)) =
        some (2, "$_1") := by
    decide +kernel
  obtain ⟨compiled, hcompiled, hrest⟩ := exists_ok_of_bind hall
  obtain ⟨writing, hwriting, hrest⟩ := exists_ok_of_bind hrest
  obtain ⟨source, hsource, hnames⟩ := exists_ok_of_bind hrest
  obtain ⟨hcount, hname⟩ := Prod.mk.inj (Option.some.inj hnames)
  exact ⟨compiled, writing, source, hcompiled, hwriting, hsource, hcount, hname,
    source_leaves_nothing_open _ _ _ _ _ _ _ _ _ hcompiled hwriting hsource⟩

end OpenApiClient

import OpenApiClient.Proofs.Client.Compile

/-!
# The declarations of a compiled document

Whatever refers to whatever in a document, circles included, its declarations can be ordered: no
circle is left in their direct references, because a circle is broken with a lazy reference where it
closes. `compile_orders_declarations` states this for all documents: compiling never fails because
of a circle, an order is found whenever all names could be declared, and in the compiled document
every schema is declared once, after all those it refers to directly. The completed declarations
stay sound whichever calls are made in whichever order, because each call keeps them so
(`Call.step`).
-/

namespace OpenApiClient

open List

open Conversion (Rules Settings)

/-! ### References have targets -/

/-- A reference goes somewhere. -/
def Targeted (expr : Expr) : Prop :=
  expr.kind = .namedRef ∨ expr.kind = .lazyRef → ∃ name, expr.ref = some name

theorem targeted_of_kind {expr : Expr} (hnamed : expr.kind ≠ .namedRef)
    (hlazy : expr.kind ≠ .lazyRef) : Targeted expr :=
  fun h => absurd h (not_or.mpr ⟨hnamed, hlazy⟩)

/-- Conversions make references with a target only. -/
theorem targeted_rules (settings : Settings) : Rules settings (fun _ => True) Targeted where
  sibling _ _ := trivial
  merge _ := trivial
  object _ _ := targeted_of_kind (by simp [Conversion.objectExpr]) (by simp [Conversion.objectExpr])
  array _ := targeted_of_kind (by simp [Conversion.arrayExpr]) (by simp [Conversion.arrayExpr])
  union _ _ _ := targeted_of_kind (by simp) (by simp)
  intersection _ _ _ _ := targeted_of_kind (by simp) (by simp)
  choice {_ values} _ _ := by
    rw [Conversion.choiceExpr_eq]
    unfold Conversion.choiceBase
    split <;> exact targeted_of_kind (by simp [Expr.ofPrimitive]) (by simp [Expr.ofPrimitive])
  primitive {schema} _ := by
    unfold Conversion.primitiveExpr?
    split <;> exact targeted_of_kind (by simp [Expr.ofPrimitive, Expr.unknown])
      (by simp [Expr.ofPrimitive, Expr.unknown])
  unknown _ := targeted_of_kind (by simp [Expr.unknown]) (by simp [Expr.unknown])
  namedRef name := fun _ => ⟨name, rfl⟩
  lazyRef name := fun _ => ⟨name, rfl⟩
  trailing _ _ hexpr := by simpa [Targeted] using hexpr

section Compiled

variable {document : Document} {config : Config} {compiled : Compiled}
  (h : document.compiled config = .ok compiled)

include h

/-- Every reference in a compiled document has a target. -/
theorem compiled_targeted : ∀ expr ∈ compiled.exprs, expr.Every Targeted :=
  compiled_every targeted_rules (fun optional => by simp [Targeted, Expr.unknown])
    (targeted_of_kind (by simp [Expr.ofPrimitive]) (by simp [Expr.ofPrimitive]))
    (fun _ _ _ _ => trivial) h

/-- Whatever an expression of a compiled document refers to is declared. -/
theorem compiled_references :
    ∀ expr ∈ compiled.exprs, ∀ (mode : ReferenceMode), ∀ name ∈ expr.references mode,
      name ∈ compiled.declarations.map (·.name) := by
  have hnames := compiled_names h
  obtain ⟨stages, order, progress, -, hbound, hdeclarations, -⟩ := stages_of_compiled h
  obtain ⟨hsound, -, hendpoints⟩ := stages.bindAll_keeps.ok hbound
  have hknown : ∀ {declarations}, Conversion.Sound stages.registry declarations →
      ∀ name ∈ declarations.map (·.1), name ∈ stages.registry.names := by
    intro declarations hsound name hname
    obtain ⟨entry, hentry, rfl⟩ := mem_map.mp hname
    exact hsound.mem_names entry hentry
  intro expr hexpr mode name hname
  rw [hnames.mem_iff, ← stages.registry_eq]
  rcases mem_append.mp hexpr with hexpr | hexpr
  · obtain ⟨declared, hmem, rfl⟩ := mem_map.mp hexpr
    have hentry := stages.mem_of_mem_collect (hdeclarations ▸ hmem)
    cases mode with
    | named => exact hknown stages.sound name (stages.sound.named_of_mem hentry name hname)
    | lazy => exact stages.sound.lazy _ hentry name hname
  · obtain ⟨endpoint, hendpoint, hexpr⟩ := mem_flatMap.mp hexpr
    obtain ⟨hnamed, hlazy⟩ := hendpoints endpoint hendpoint expr hexpr
    cases mode with
    | named => exact hknown hsound name (hnamed name hname)
    | lazy => exact hlazy name hname

end Compiled

/-! ### The declarations of a compiled document -/

namespace Document.Stages

variable {document : Document} {config : Config} (stages : document.Stages config)

/-- Every reference in a declaration has a target. -/
theorem targeted : ∀ entry ∈ stages.declared.declarations, entry.2.Every Targeted :=
  ((Conversion.declareAll_builds (targeted_rules stages.settings) (fun _ _ _ _ => trivial)
    (by simp [Conversion.building])).ok stages.complete).1

/-- A direct reference in a declaration goes to a name that stands before it in the order. -/
theorem exists_earlier {order : List String}
    (hfollows : ∀ before name after, order = before ++ name :: after →
      ∀ expr, stages.declared.declarations.lookup name = some expr →
        ∀ other ∈ expr.references .named, other ∈ before)
    {place : Nat} {name : String} {expr part : Expr} (hplace : order[place]? = some name)
    (hexpr : stages.declared.declarations.lookup name = some expr)
    (hpart : Expr.Part part expr) (hkind : part.kind = .namedRef) :
    ∃ other, part.ref = some other ∧ ∃ earlier < place, order[earlier]? = some other := by
  obtain ⟨other, href⟩ := stages.targeted _ (Named.mem_of_lookup hexpr) part hpart (.inl hkind)
  refine ⟨other, href, ?_⟩
  obtain ⟨hlt, hname⟩ := List.getElem?_eq_some_iff.mp hplace
  have hsplit : order = order.take place ++ name :: order.drop (place + 1) := by
    rw [← hname, getElem_cons_drop, take_append_drop]
  have hmem := hfollows _ _ _ hsplit expr hexpr other
    (Expr.mem_references_of_part .named hpart hkind href)
  obtain ⟨earlier, hearlier⟩ := mem_iff_getElem?.mp hmem
  rw [getElem?_take] at hearlier
  split at hearlier
  · rename_i hbefore
    exact ⟨earlier, hbefore, hearlier⟩
  · cases hearlier

end Document.Stages

/-- Compiling a document never fails because of a circle of declarations, and an order is found
whenever all names could be declared. In what a document is compiled to, every schema is declared
once, every direct reference goes to a declaration that stands before, and every lazy one to some
declaration. -/
theorem compile_orders_declarations (document : Document) (config : Config) :
    (∀ names, (document.compile config).result.1 ≠ .error (.compile (.unbrokenCycle names))) ∧
    (∀ stages : document.Stages config, ∃ order,
      (Declaration.order stages.registry.names stages.declared.declarations).result.1 =
        .ok order) ∧
    ∀ compiled : Compiled, (document.compile config).result.1 = .ok compiled →
      (compiled.declarations.map (·.name)).Perm (document.schemas.map (·.1)) ∧
      (∀ (k : Nat) (declared : Declared), compiled.declarations[k]? = some declared →
        ∀ part, Expr.Part part declared.expr → part.kind = .namedRef →
          ∃ j < k, ∃ earlier : Declared, compiled.declarations[j]? = some earlier ∧
            part.ref = some earlier.name) ∧
      (∀ declared ∈ compiled.declarations,
        ∀ part, Expr.Part part declared.expr → part.kind = .lazyRef →
          ∃ other ∈ compiled.declarations, part.ref = some other.name) := by
  refine ⟨fun names heq => ?_, fun stages => ?_, fun compiled hcompiled => ?_⟩
  · rw [compile_result] at heq
    exact compiled_noCycle heq names rfl
  · obtain ⟨order, horder, -⟩ := stages.exists_order
    exact ⟨order, (Yields.order _ _ []).trans horder⟩
  rw [compile_result] at hcompiled
  obtain ⟨stages, order, progress, horder, -, hdeclarations, -⟩ := stages_of_compiled hcompiled
  obtain ⟨found, hfound, hperm, hfollows⟩ := stages.exists_order
  -- there is one order only, so what is known of some order is true of this one
  obtain rfl : found = order := by simpa using hfound.symm.trans horder
  have hall : ∀ name ∈ found, ∃ expr, stages.declared.declarations.lookup name = some expr :=
    fun name hname => stages.exists_declaration name (hperm.mem_iff.mp hname)
  rw [hdeclarations]
  refine ⟨?_, fun k declared hk part hpart hkind => ?_, fun declared hmem part hpart hkind => ?_⟩
  · rw [Declaration.map_name_collect hall, ← stages.schemas_eq]
    exact hperm
  · obtain ⟨hlookup, -⟩ := Declaration.lookup_of_mem_collect (mem_of_getElem? hk)
    have hplace : found[k]? = some declared.name := by
      rw [← Declaration.getElem?_collect hall, hk, Option.map_some]
    obtain ⟨other, href, j, hj, hother⟩ :=
      stages.exists_earlier hfollows hplace hlookup hpart hkind
    rw [← Declaration.getElem?_collect hall] at hother
    obtain ⟨earlier, hearlier, rfl⟩ := Option.map_eq_some_iff.mp hother
    exact ⟨j, hj, earlier, hearlier, href⟩
  · obtain ⟨hlookup, -⟩ := Declaration.lookup_of_mem_collect hmem
    have hentry := Named.mem_of_lookup hlookup
    obtain ⟨other, href⟩ := stages.targeted _ hentry part hpart (.inr hkind)
    have hregistered := stages.sound.lazy _ hentry other
      (Expr.mem_references_of_part .lazy hpart hkind href)
    rw [← hperm.mem_iff, ← Declaration.map_name_collect hall] at hregistered
    obtain ⟨target, htarget, rfl⟩ := mem_map.mp hregistered
    exact ⟨target, htarget, href⟩

/-- A document with two schemas that refer to each other, one of them through an `allOf`. -/
def circularDocument : Document where
  info := { title := "", version := "" }
  version := "3.0.0"
  schemas :=
    [("A", { kind := .object, properties := [("b", { ref := some "#/components/schemas/B" })] }),
     ("B", { allOf := some [{ ref := some "#/components/schemas/A" }, { kind := .string }] })]

theorem compile_orders_circularDocument :
    ∃ compiled : Compiled, (circularDocument.compile {}).result.1 = .ok compiled ∧
      (compiled.declarations.map (·.name)).Perm ["A", "B"] ∧
      ∀ (k : Nat) (declared : Declared), compiled.declarations[k]? = some declared →
        ∀ part, Expr.Part part declared.expr → part.kind = .namedRef →
          ∃ j < k, ∃ earlier : Declared, compiled.declarations[j]? = some earlier ∧
            part.ref = some earlier.name := by
  have hok : (circularDocument.compile {}).result.1.isOk = true := by decide +kernel
  obtain ⟨compiled, hcompiled⟩ := exists_eq_ok hok
  obtain ⟨hperm, hnamed, -⟩ :=
    (compile_orders_declarations circularDocument {}).2.2 compiled hcompiled
  exact ⟨compiled, hcompiled, hperm, hnamed⟩

end OpenApiClient

namespace OpenApiClient.Conversion

/-! ### The completed declarations after any calls -/

/-- A call: a name is to be declared, or a schema converted. -/
inductive Call where
  | declare (name : String) (context : Context)
  | convert (schema : Schema) (context : Context)

def Call.run (settings : Settings) : Call → Convert Expr
  | declare name context => Conversion.declare settings name context
  | convert schema context => Conversion.convert settings schema context

/-- The state after calls, whichever way each of them ends. -/
def after (settings : Settings) (calls : List Call) : Progress :=
  calls.foldl (fun progress call => (outcome (call.run settings) progress).2) {}

/-- The direct references in an expression go to the given names, the lazy ones to registered
names. -/
structure RefersWithin (registry : Registry) (names : List String) (expr : Expr) : Prop where
  named : ∀ part, Expr.Part part expr → part.kind = .namedRef → ∃ name ∈ names, part.ref = some name
  lazy : ∀ part, Expr.Part part expr → part.kind = .lazyRef →
    ∃ name ∈ registry.names, part.ref = some name

/-- Each name is registered and stands once, and its expression refers directly to names before
it. -/
structure Orderly (registry : Registry) (declarations : List (String × Expr)) : Prop where
  nodup : (declarations.map (·.1)).Nodup
  registered : ∀ entry ∈ declarations, entry.1 ∈ registry.names
  refers : ∀ before name expr rest, declarations = before ++ (name, expr) :: rest →
    RefersWithin registry (before.map (·.1)) expr

variable {registry : Registry} {settings : Settings} {progress reached : Progress}

theorem refersWithin_of_targeted {names : List String} {expr : Expr} (htargeted : expr.Every Targeted)
    (hnamed : ∀ other ∈ expr.references .named, other ∈ names)
    (hlazy : ∀ other ∈ expr.references .lazy, other ∈ registry.names) :
    RefersWithin registry names expr where
  named part hpart hkind := by
    obtain ⟨other, href⟩ := htargeted part hpart (.inl hkind)
    exact ⟨other, hnamed other (Expr.mem_references_of_part .named hpart hkind href), href⟩
  lazy part hpart hkind := by
    obtain ⟨other, href⟩ := htargeted part hpart (.inr hkind)
    exact ⟨other, hlazy other (Expr.mem_references_of_part .lazy hpart hkind href), href⟩

/-! ### What is kept by every call -/

/-- The declarations are sound, and every reference in them has a target. -/
structure Completed (registry : Registry) (progress : Progress) : Prop where
  sound : Sound registry progress.declarations
  targeted : ∀ entry ∈ progress.declarations, entry.2.Every Targeted

theorem Completed.refers (h : Completed registry progress) {name : String} {expr : Expr}
    (hentry : (name, expr) ∈ progress.declarations) :
    RefersWithin registry (progress.declarations.map (·.1)) expr :=
  refersWithin_of_targeted (h.targeted _ hentry) (h.sound.named_of_mem hentry)
    (h.sound.lazy _ hentry)

theorem Completed.orderly (h : Completed registry progress) :
    Orderly registry progress.declarations where
  nodup := h.sound.nodup
  registered := h.sound.mem_names
  refers before name expr rest hsplit := by
    have hentry : (name, expr) ∈ progress.declarations := by simp [hsplit]
    exact refersWithin_of_targeted (h.targeted _ hentry) (h.sound.named hsplit)
      (h.sound.lazy _ hentry)

/-- What is returned by a call: its references go to completed declarations, and if a name was to be
declared, it is the entry of that name. -/
def Call.Returns (registry : Registry) (call : Call) (expr : Expr) (progress : Progress) : Prop :=
  RefersWithin registry (progress.declarations.map (·.1)) expr ∧
    ∀ name context, call = .declare name context → (name, expr) ∈ progress.declarations

theorem Call.step (call : Call) (h : Completed settings.registry progress)
    {result : Except Failure Expr}
    (houtcome : outcome (call.run settings) progress = (result, reached)) :
    Completed settings.registry reached ∧ progress.declarations <+: reached.declarations ∧
      ∀ expr, result = .ok expr → call.Returns settings.registry expr reached := by
  have hfits : ∀ entry ∈ settings.registry.schemas, entry.2.Every fun _ => True :=
    fun _ _ _ _ => trivial
  have hlaws := ((targeted_rules settings).laws hfits).noted
  cases call with
  | declare name context =>
    -- soundness and targets are kept by contracts of their own
    obtain ⟨hsound, ⟨added, hadded, -⟩, hentry⟩ := declareWith_keeps (convertAt_declares settings _)
      List.not_mem_nil (by simp) h.sound _ _ houtcome
    obtain ⟨htargeted, -⟩ := hlaws.declareWith_keeps (fun _ => trivial) (fun _ _ _ _ => trivial)
      h.targeted _ _ houtcome
    have hreached : Completed settings.registry reached := ⟨hsound, htargeted⟩
    refine ⟨hreached, ⟨added, hadded.symm⟩, ?_⟩
    rintro expr rfl
    refine ⟨hreached.refers hentry, fun _ _ heq => ?_⟩
    cases heq
    exact hentry
  | convert schema context =>
    obtain ⟨hsound, ⟨added, hadded, -⟩, hrefers⟩ :=
      convertAt_declares settings _ schema context progress h.sound _ _ houtcome
    obtain ⟨htargeted, -, hexpr⟩ := hlaws.convertAt_keeps _ schema context progress
      (fun _ _ => trivial) h.targeted _ _ houtcome
    refine ⟨⟨hsound, htargeted⟩, ⟨added, hadded.symm⟩, ?_⟩
    rintro expr rfl
    exact ⟨refersWithin_of_targeted hexpr hrefers.1 hrefers.2, nofun⟩

/-! ### Sequences of calls -/

theorem after_append (settings : Settings) (calls : List Call) (call : Call) :
    after settings (calls ++ [call]) =
      (outcome (call.run settings) (after settings calls)).2 := by
  rw [after, List.foldl_append]
  rfl

theorem after_completed (settings : Settings) (calls : List Call) :
    Completed settings.registry (after settings calls) := by
  induction calls using List.reverseRecOn with
  | nil => exact ⟨.nil, by simp [after]⟩
  | append_singleton calls call ih =>
    rw [after_append]
    exact (call.step ih rfl).1

theorem after_grows (settings : Settings) (calls more : List Call) :
    (after settings calls).declarations <+: (after settings (calls ++ more)).declarations := by
  induction more using List.reverseRecOn with
  | nil => simp
  | append_singleton more call ih =>
    rw [← List.append_assoc, after_append]
    exact ih.trans (call.step (after_completed settings _) rfl).2.1

/-- After any calls, whichever way they end, the completed declarations are orderly, and no later call
changes or removes an entry. What a call returns refers directly to completed declarations, and
lazily to registered names; a name that it was to declare has the returned expression as its
entry. -/
theorem declarations_after_calls (settings : Settings) (calls : List Call) :
    Orderly settings.registry (after settings calls).declarations ∧
    (∀ more, (after settings calls).declarations <+: (after settings (calls ++ more)).declarations) ∧
    ∀ (call : Call) (expr : Expr),
      (outcome (call.run settings) (after settings calls)).1 = .ok expr →
      call.Returns settings.registry expr (after settings (calls ++ [call])) := by
  have hcompleted := after_completed settings calls
  refine ⟨hcompleted.orderly, after_grows settings calls, fun call expr hexpr => ?_⟩
  rw [after_append]
  exact (call.step hcompleted rfl).2.2 expr hexpr

/-- Two schemas that refer to each other, and one whose second property refers to nothing. -/
def partlyBroken : Settings where
  registry :=
    { schemas :=
        [("A", { kind := .object, properties := [("b", { ref := some "#/components/schemas/B" })] }),
         ("B", { kind := .array, items := some { ref := some "#/components/schemas/A" } }),
         ("C", { kind := .object
                 properties := [("a", { ref := some "#/components/schemas/A" }),
                   ("missing", { ref := some "#/components/schemas/D" })] })] }
  config := {}

/-- Declaring the third schema fails after the other two have been completed. -/
theorem declarations_after_calls_partlyBroken :
    (outcome (Call.run partlyBroken (.declare "C" {})) {}).1.isOk = false ∧
    (after partlyBroken [.declare "C" {}]).declarations.map (·.1) = ["B", "A"] ∧
    Orderly partlyBroken.registry (after partlyBroken [.declare "C" {}]).declarations ∧
    ∃ expr, (outcome (Call.run partlyBroken (.declare "A" { stack := ["A"] }))
        (after partlyBroken [.declare "C" {}])).1 = .ok expr ∧
      ("A", expr) ∈ (after partlyBroken [.declare "C" {}, .declare "A" { stack := ["A"] }]).declarations
    := by
  have hok : (outcome (Call.run partlyBroken (.declare "A" { stack := ["A"] }))
      (after partlyBroken [.declare "C" {}])).1.isOk = true := by decide +kernel
  obtain ⟨expr, hexpr⟩ := exists_eq_ok hok
  obtain ⟨horderly, -, hreturned⟩ := declarations_after_calls partlyBroken [.declare "C" {}]
  exact ⟨by decide +kernel, by decide +kernel, horderly, expr, hexpr,
    (hreturned _ expr hexpr).2 "A" _ rfl⟩

end OpenApiClient.Conversion

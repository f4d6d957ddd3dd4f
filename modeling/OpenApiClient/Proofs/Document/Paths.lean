import OpenApiClient.Proofs.Document.Places

/-!
# Paths and the pointers that name them

A path goes from a value to one of its parts, by keys of mappings and by positions of lists. Its
pointer writes every place of it with tildes and slashes escaped, and is followed to where the path
leads (`pointers_read_back`).

Pointers are the proper names of paths, but other texts are followed too. A position may be written
like any integer, with a sign, blanks around it, underscores between its digits or digits of another
script (`Text.Denotes`), and it may count from the end of the list; a tilde that starts no escape
stands for itself. What is followed is exactly the texts that name a path in this loose way, and
such a text is a proper pointer exactly if it is spelled as pointers are (`resolves_iff_follows`).
-/

namespace OpenApiClient.Pointer

open List

/-! ### Paths -/

/-- One step of a path: to the entry of a key, or to the item at a position. -/
inductive Place where
  | key (name : String)
  | item (index : Nat)

/-- What a place is called. -/
def Place.name : Place → String
  | .key name => name
  | .item index => toString index

/-- How a place is written in a pointer. -/
def Place.segment (place : Place) : String := escape place.name

/-- A path leads from one value to another. -/
inductive Leads : Value → List Place → Value → Prop
  | here (value : Value) : Leads value [] value
  | key {entries : Entries} {name : String} {child value : Value} {path : List Place} :
      (.text name, child) ∈ entries → Leads child path value →
      Leads (.map entries) (.key name :: path) value
  | item {items : List Value} {index : Nat} {child value : Value} {path : List Place} :
      items[index]? = some child → Leads child path value →
      Leads (.list items) (.item index :: path) value

/-- The pointer of a path. -/
def ofPath (path : List Place) : String := "#/" ++ "/".intercalate (path.map Place.segment)

/-- Segments are followed along a path. A key is named by what its segment is read as. A position
is named by an integer, which is the position or, if it is negative, counts from the end. -/
inductive Follows : Value → List String → List Place → Value → Prop
  | here (value : Value) : Follows value [] [] value
  | key {entries : Entries} {segment : String} {child value : Value} {segments : List String}
      {path : List Place} : (.text (unescape segment), child) ∈ entries →
      Follows child segments path value →
      Follows (.map entries) (segment :: segments) (.key (unescape segment) :: path) value
  | item {items : List Value} {segment : String} {number : Int} {index : Nat} {child value : Value}
      {segments : List String} {path : List Place} :
      Text.Denotes (unescape segment).toList number →
      number = index ∨ number = index - items.length → items[index]? = some child →
      Follows child segments path value →
      Follows (.list items) (segment :: segments) (.item index :: path) value

/-- A text is a pointer of a path that leads to a value. -/
def Names (root : Value) (ref : String) (value : Value) : Prop :=
  ∃ path, path ≠ [] ∧ ref = ofPath path ∧ Leads root path value

/-! ### Following segments -/

theorem itemAt?_eq_some_iff {items : List Value} {number : Int} {child : Value} :
    itemAt? items number = some child ↔ ∃ index : Nat,
      (number = index ∨ number = index - items.length) ∧ items[index]? = some child := by
  unfold itemAt?
  constructor
  · intro h
    split at h
    · exact ⟨_, .inl (by omega), h⟩
    · split at h
      · exact ⟨_, .inr (by omega), h⟩
      · cases h
  · rintro ⟨index, rfl | rfl, hchild⟩
    · rwa [if_pos (by omega), Int.toNat_natCast]
    · have hlength := (List.getElem?_eq_some_iff.mp hchild).1
      have hindex : ((items.length : Int) + (index - items.length)).toNat = index := by omega
      rwa [if_neg (by omega), if_pos (by omega), hindex]

theorem step_list_iff {ref name : String} {items : List Value} {child : Value} :
    step ref (.list items) name = .ok child ↔ ∃ number, ∃ index : Nat,
      Text.Denotes name.toList number ∧ (number = index ∨ number = index - items.length) ∧
        items[index]? = some child := by
  have hstep : step ref (.list items) name = .ok child ↔
      (Text.signedValue? Text.indexValue? name).bind (itemAt? items) = some child := by
    rw [step]
    split
    · rename_i found hfound
      simp [hfound]
    · rename_i hfound
      simp only [hfound, reduceCtorEq]
  simp only [hstep, Option.bind_eq_some_iff, Text.index_eq_some_iff, itemAt?_eq_some_iff,
    exists_and_left]

/-- The steps along segments succeed exactly if the segments are followed along a path. -/
theorem foldlM_step_iff {ref : String} {segments : List String} :
    ∀ {value last : Value}, value.Keyed →
      ((segments.map unescape).foldlM (step ref) value = .ok last ↔
        ∃ path, Follows value segments path last) := by
  induction segments with
  | nil =>
    intro value last _
    constructor
    · rintro ⟨⟩
      exact ⟨[], .here value⟩
    · rintro ⟨path, hfollows⟩
      cases hfollows
      rfl
  | cons segment rest ih =>
    intro value last hvalue
    rw [map_cons, foldlM_cons, bind_eq_ok]
    constructor
    · rintro ⟨child, hstep, hrest⟩
      cases hvalue with
      | scalar scalar => cases scalar <;> cases hstep
      | list hitems =>
        obtain ⟨number, index, hnumber, hindex, hchild⟩ := step_list_iff.mp hstep
        obtain ⟨path, hpath⟩ := (ih (hitems child (mem_of_getElem? hchild))).mp hrest
        exact ⟨_, .item hnumber hindex hchild hpath⟩
      | map _ hvalues =>
        have hentry := Entries.mem_of_get? (step_map.mp hstep)
        obtain ⟨path, hpath⟩ := (ih (hvalues _ hentry)).mp hrest
        exact ⟨_, .key hentry hpath⟩
    · rintro ⟨path, hfollows⟩
      cases hfollows with
      | key hentry hpath =>
        cases hvalue with
        | map hkeys hvalues =>
          exact ⟨_, step_map.mpr (hkeys.get?_of_mem hentry),
            (ih (hvalues _ hentry)).mpr ⟨_, hpath⟩⟩
      | item hnumber hindex hchild hpath =>
        cases hvalue with
        | list hitems =>
          exact ⟨_, step_list_iff.mpr ⟨_, _, hnumber, hindex, hchild⟩,
            (ih (hitems _ (mem_of_getElem? hchild))).mpr ⟨_, hpath⟩⟩

section Follows

variable {value last : Value} {segments : List String} {path : List Place}

/-- Segments are followed along a path only to where the path leads. -/
theorem Follows.leads (h : Follows value segments path last) : Leads value path last := by
  induction h with
  | here value => exact .here value
  | key hentry _ ih => exact .key hentry ih
  | item _ _ hchild _ ih => exact .item hchild ih

/-- The segments that a path is written by are followed along it. -/
theorem Leads.follows (h : Leads value path last) :
    Follows value (path.map Place.segment) path last := by
  induction h with
  | here value => exact .here value
  | @key entries name child _ _ hentry _ ih =>
    have hread : unescape (escape name) = name := unescape_escape name
    have hkey := Follows.key (hread.symm ▸ hentry) ih
    rwa [hread] at hkey
  | item hchild _ ih =>
    refine .item (Text.index_eq_some_iff.mp ?_) (.inl rfl) hchild ih
    rw [Place.segment, unescape_escape]
    exact Text.index_toString _

/-- Segments are followed along one path at most. -/
theorem Follows.path_eq (h : Follows value segments path last) :
    ∀ {other : List Place} {found : Value}, value.Keyed → Follows value segments other found →
      path = other := by
  induction h with
  | here value =>
    intro other found _ hother
    cases hother
    rfl
  | key hentry _ ih =>
    intro other found hvalue hother
    cases hvalue with
    | map hkeys hvalues =>
      cases hother with
      | key hchild hpath =>
        have hfirst := hkeys.get?_of_mem hentry
        have hsecond := hkeys.get?_of_mem hchild
        cases Option.some.inj (hfirst.symm.trans hsecond)
        rw [ih (hvalues _ hentry) hpath]
  | @item items segment number index child _ _ _ hnumber hindex hchild _ ih =>
    intro other found hvalue hother
    cases hvalue with
    | list hitems =>
      cases hother with
      | @item _ _ number' index' _ _ _ _ hnumber' hindex' hchild' hpath =>
        have hlength := (List.getElem?_eq_some_iff.mp hchild).1
        have hlength' := (List.getElem?_eq_some_iff.mp hchild').1
        have hsame := Option.some.inj ((Text.index_eq_some_iff.mpr hnumber).symm.trans
          (Text.index_eq_some_iff.mpr hnumber'))
        obtain rfl : index = index' := by omega
        cases Option.some.inj (hchild.symm.trans hchild')
        rw [ih (hitems child (mem_of_getElem? hchild)) hpath]

end Follows

theorem splitSlashes_intercalate {segments : List String} (hne : segments ≠ [])
    (h : ∀ segment ∈ segments, '/' ∉ segment.toList) :
    splitSlashes ("/".intercalate segments).toList = segments := by
  have hsplit := @List.splitOn_intercalate _ (segments.map String.toList) _ _ '/'
    (by simpa using h) (by simpa using hne)
  rw [splitSlashes, String.toList_intercalate]
  exact (congrArg _ hsplit).trans (by simp [Function.comp_def])

theorem intercalate_splitSlashes (text : String) :
    "/".intercalate (splitSlashes text.toList) = text := by
  rw [← String.toList_inj, String.toList_intercalate, splitSlashes, map_map]
  have hid : String.toList ∘ String.ofList = id := funext fun _ => String.toList_ofList
  rw [hid, map_id]
  exact intercalate_splitOn '/'

/-! ### Pointers -/

theorem splitSlashes_segments {path : List Place} (h : path ≠ []) :
    splitSlashes ("/".intercalate (path.map Place.segment)).toList = path.map Place.segment := by
  refine splitSlashes_intercalate (by simpa using h) fun segment hsegment => ?_
  obtain ⟨place, -, rfl⟩ := mem_map.mp hsegment
  exact slash_notMem_escape place.name

theorem resolve_iff {root : Value} (hroot : root.Keyed) {ref : String} {value : Value} :
    resolve root ref = .ok value ↔ ∃ text path, ref = "#/" ++ text ∧
      Follows root (splitSlashes text.toList) path value := by
  rw [resolve_eq_ok_iff]
  constructor
  · rintro ⟨path, hpath, h⟩
    obtain ⟨places, hplaces⟩ := (foldlM_step_iff hroot).mp h
    refine ⟨String.ofList path, places, ?_, by rwa [String.toList_ofList]⟩
    simp [← String.toList_inj, hpath]
  · rintro ⟨text, path, rfl, h⟩
    exact ⟨text.toList, by simp, (foldlM_step_iff hroot).mpr ⟨path, h⟩⟩

/-- A pointer leads where its path leads. -/
theorem resolve_of_names {root : Value} (hroot : root.Keyed) {ref : String} {value : Value}
    (h : Names root ref value) : resolve root ref = .ok value := by
  obtain ⟨path, hne, rfl, hpath⟩ := h
  refine (resolve_iff hroot).mpr ⟨_, path, rfl, ?_⟩
  rw [splitSlashes_segments hne]
  exact hpath.follows

theorem names_iff {root : Value} (hroot : root.Keyed) {text : String} {path : List Place}
    {value : Value} (h : Follows root (splitSlashes text.toList) path value) :
    Names root ("#/" ++ text) value ↔ splitSlashes text.toList = path.map Place.segment := by
  constructor
  · rintro ⟨other, hne, hother, hleads⟩
    have htext : text = "/".intercalate (other.map Place.segment) := by
      rw [ofPath, ← String.toList_inj, String.toList_append, String.toList_append] at hother
      exact String.toList_inj.mp (append_cancel_left hother)
    have hsegments := splitSlashes_segments hne
    rw [← htext] at hsegments
    rw [h.path_eq hroot (hsegments ▸ hleads.follows), hsegments]
  · intro hsegments
    refine ⟨path, ?_, ?_, h.leads⟩
    · rintro rfl
      exact splitOnP_ne_nil _ _ (map_eq_nil_iff.mp hsegments)
    · rw [ofPath, ← hsegments, intercalate_splitSlashes]

/-- A pointer that is made of a path leads to the value at the end of the path. The reference that
is made of a registered name stands for that name, whatever has been resolved before. -/
theorem pointers_read_back :
    (∀ (document : Value) (path : List Place) (value : Value), document.Keyed → path ≠ [] →
      Leads document path value → resolve document (ofPath path) = .ok value) ∧
    (∀ (registry : Registry) (name : String), name ∈ registry.names →
      registry.resolve (Registry.referenceStart ++ escape name) = .ok name) ∧
    ∀ (calls : List Registry.Memo.Call) (name : String),
      name ∈ (Registry.Memo.after calls).registry.names →
        ((Registry.Memo.after calls).resolve (Registry.referenceStart ++ escape name)).1 =
          .ok name := by
  have hregistry : ∀ (registry : Registry) (name : String), name ∈ registry.names →
      registry.resolve (Registry.referenceStart ++ escape name) = .ok name := fun _ name hname =>
    Registry.resolve_eq_ok_iff.mpr
      ⟨escape name, rfl, slash_notMem_escape name, unescape_escape name, hname⟩
  refine ⟨fun document path value hdocument hne hpath =>
    resolve_of_names hdocument ⟨path, hne, rfl, hpath⟩, hregistry, fun calls name hname => ?_⟩
  rw [(Registry.Memo.after_consistent calls).resolve_eq, Registry.Memo.lookUp, hregistry _ _ hname]

/-- A mapping with a list under a key that holds a slash and a tilde. -/
def listedRoot : Value :=
  .map [(.text "a/b~", .list [.int 10, .map [(.text "", .text "x")]])]

theorem listedRoot_keyed : listedRoot.Keyed := by
  have hinner : (Value.map [(.text "", .text "x")]).Keyed :=
    .map ⟨by simp, by decide⟩ (by simpa using .scalar _)
  refine .map ⟨by simp, by decide⟩ (forall_mem_singleton.mpr (.list ?_))
  simpa using ⟨.scalar _, hinner⟩

theorem pointers_read_back_listedRoot :
    resolve listedRoot "#/a~1b~0/1/" = .ok (.text "x") ∧
      Registry.resolve { schemas := [("~1", { kind := .string })] }
        "#/components/schemas/~01" = .ok "~1" := by
  constructor
  · have hpath : Leads listedRoot [.key "a/b~", .item 1, .key ""] (.text "x") :=
      .key mem_cons_self (.item rfl (.key mem_cons_self (.here _)))
    have hpointer : ofPath [.key "a/b~", .item 1, .key ""] = "#/a~1b~0/1/" := by decide
    rw [← hpointer]
    exact pointers_read_back.1 listedRoot _ _ listedRoot_keyed (by simp) hpath
  · have hname : Registry.referenceStart ++ escape "~1" = "#/components/schemas/~01" := by decide
    rw [← hname]
    exact pointers_read_back.2.1 _ "~1" (by decide)

/-- In a document in JSON, a text leads to a value exactly if its segments are followed to it.
Where they are, the text is a pointer of a path to the value exactly if its segments are those that
the path is written by. Any other text is an error. -/
theorem resolves_iff_follows (root : Value) (hroot : root.Keyed) (ref : String) :
    (∀ value, resolve root ref = .ok value ↔ ∃ text path, ref = "#/" ++ text ∧
      Follows root (splitSlashes text.toList) path value) ∧
    (∀ text path value, ref = "#/" ++ text → Follows root (splitSlashes text.toList) path value →
      (Names root ref value ↔ splitSlashes text.toList = path.map Place.segment)) ∧
    ((∃ error, resolve root ref = .error error) ↔ ¬ ∃ text path value, ref = "#/" ++ text ∧
      Follows root (splitSlashes text.toList) path value) := by
  refine ⟨fun value => resolve_iff hroot, ?_, ?_⟩
  · rintro text path value rfl h
    exact names_iff hroot h
  · constructor
    · rintro ⟨error, herror⟩ ⟨text, path, value, hfollows⟩
      rw [(resolve_iff hroot).mpr ⟨text, path, hfollows⟩] at herror
      cases herror
    · intro hnone
      cases hresolve : resolve root ref with
      | error error => exact ⟨error, rfl⟩
      | ok value =>
        obtain ⟨text, path, hfollows⟩ := (resolve_iff hroot).mp hresolve
        exact absurd ⟨text, path, value, hfollows⟩ hnone

theorem resolves_iff_follows_listedRoot :
    listedRoot.Keyed ∧ resolve listedRoot "#/a~1b~0/-2" = .ok (.int 10) ∧
      ¬ Names listedRoot "#/a~1b~0/-2" (.int 10) := by
  have hsegments : splitSlashes "a~1b~0/-2".toList = ["a~1b~0", "-2"] := by decide
  have hkey : unescape "a~1b~0" = "a/b~" := by decide
  have hnumber : Text.Denotes (unescape "-2").toList (-2) :=
    Text.index_eq_some_iff.mp (by decide)
  have hfollows : Follows listedRoot (splitSlashes "a~1b~0/-2".toList) [.key "a/b~", .item 0]
      (.int 10) := by
    have hitem : Follows (.list [.int 10, .map [(.text "", .text "x")]]) ["-2"] [.item 0]
        (.int 10) :=
      .item hnumber (.inr rfl) rfl (.here _)
    rw [hsegments, ← hkey]
    exact .key (by rw [hkey]; exact List.mem_cons_self) hitem
  obtain ⟨hresolve, hnames, -⟩ :=
    resolves_iff_follows listedRoot listedRoot_keyed ("#/" ++ "a~1b~0/-2")
  refine ⟨listedRoot_keyed, (hresolve _).mpr ⟨_, _, rfl, hfollows⟩, fun hproper => ?_⟩
  have hspelled := (hnames _ _ _ rfl hfollows).mp hproper
  rw [hsegments] at hspelled
  revert hspelled
  decide

end OpenApiClient.Pointer

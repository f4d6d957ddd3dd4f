import OpenApiClient.File.Write
import OpenApiClient.Proofs.Named

/-!
# Files are written as a whole

Whatever calls fail while a file is written through a temporary one, the file ends up with all of the
new content or with what it held before, and nothing else changes. The temporary file is removed,
unless a call fails before it is closed and closing it then fails too: this comes before the removal
(`written_as_a_whole`).
-/

namespace OpenApiClient.File

/-! ### Trees -/

namespace Tree

variable {tree : Tree} {location other : Location} {node : Node}

theorem lookup_filter_ne {table : List (Location × Node)} (h : other ≠ location) :
    (table.filter (·.1 ≠ location)).lookup other = table.lookup other := by
  rw [Named.lookup_filter (· ≠ location), if_pos (by simpa using h)]

theorem node?_remove_of_ne (h : other ≠ location) :
    (tree.remove location).node? other = tree.node? other := by
  unfold node? remove
  rw [lookup_filter_ne h]

theorem node?_remove (h : location ≠ []) : (tree.remove location).node? location = none := by
  unfold node? remove
  rw [if_neg (by simpa using h), List.lookup_eq_none_iff]
  simpa using fun found node _ hne => Ne.symm hne

theorem node?_put_of_ne (h : other ≠ location) :
    (tree.put location node).node? other = tree.node? other := by
  unfold node? put
  rw [List.lookup_cons, lookup_filter_ne h, beq_false_of_ne h]

theorem node?_put (h : location ≠ []) : (tree.put location node).node? location = some node := by
  unfold node? put
  rw [if_neg (by simpa using h), List.lookup_cons, beq_self_eq_true]

end Tree

/-! ### Runs -/

/-- The calls before the temporary file is closed. -/
def openCalls : List Call := [.write, .flush, .sync]

variable {succeeds : Call → Bool} {temporary target other : Location} {content : List UInt8}
  {tree : Tree}

theorem node?_cleanUp_of_ne {isOpen : Bool} (h : other ≠ temporary) :
    (cleanUp succeeds temporary isOpen tree).node? other = tree.node? other := by
  unfold cleanUp
  split
  · rfl
  · split
    · exact Tree.node?_remove_of_ne h
    · rfl

/-- What is there is removed unless it cannot be closed. -/
theorem node?_cleanUp {isOpen : Bool} (hremove : succeeds .remove = true)
    (htemporary : temporary ≠ []) (h : tree.node? temporary ≠ none) :
    (cleanUp succeeds temporary isOpen tree).node? temporary = none ↔
      isOpen = false ∨ succeeds .closeAfterFailure = true := by
  rw [cleanUp, if_pos hremove]
  split
  · rename_i hstuck
    simp_all
  · rename_i hclosed
    rw [Tree.node?_remove htemporary]
    cases isOpen <;> simp_all

/-- A run returns after all calls, or it cleans up after one that fails. The content may have been
written by then, and the file is open unless closing it was tried. -/
theorem writeThrough_cases (succeeds : Call → Bool) (temporary target : Location)
    (content : List UInt8) (tree : Tree) :
    let written := tree.put temporary (.file content)
    (∀ call ∈ openCalls, succeeds call = true) ∧
        writeThrough succeeds temporary target content tree =
          (true, (written.remove temporary).put target (.file content)) ∨
      ∃ isOpen reached, (reached = tree ∨ reached = written) ∧
        (isOpen = false ↔ ∀ call ∈ openCalls, succeeds call = true) ∧
        writeThrough succeeds temporary target content tree =
          (false, cleanUp succeeds temporary isOpen reached) := by
  intro written
  by_cases hwrite : succeeds .write = true
  by_cases hflush : succeeds .flush = true
  by_cases hsync : succeeds .sync = true
  by_cases hclose : succeeds .close = true
  by_cases hreplace : succeeds .replace = true
  · exact .inl (by simp [openCalls, writeThrough, written, *])
  · exact .inr ⟨false, written, .inr rfl, by simp [openCalls, writeThrough, written, *]⟩
  · exact .inr ⟨false, written, .inr rfl, by simp [openCalls, writeThrough, written, *]⟩
  · exact .inr ⟨true, written, .inr rfl, by simp [openCalls, writeThrough, written, *]⟩
  · exact .inr ⟨true, tree, .inl rfl, by simp [openCalls, writeThrough, *]⟩
  · exact .inr ⟨true, tree, .inl rfl, by simp [openCalls, writeThrough, *]⟩

/-- Suppose that the temporary file was made and can be removed, and any other calls fail. A run that
returns leaves the file with the new content and no temporary file, and one that fails leaves the file
as it was; no other file changes. The temporary file is gone exactly if no call failed before it was
closed, or if it could be closed after that. -/
theorem written_as_a_whole (succeeds : Call → Bool) (temporary target : Location)
    (content started : List UInt8) (tree : Tree)
    (htemporary : tree.node? temporary = some (.file started)) (htarget : target ≠ [])
    (hne : temporary ≠ target) (hremove : succeeds .remove = true) :
    let run := writeThrough succeeds temporary target content tree
    (run.1 = true → run.2.node? target = some (.file content) ∧ run.2.node? temporary = none) ∧
    (run.1 = false → run.2.node? target = tree.node? target) ∧
    (∀ other, other ≠ temporary → other ≠ target → run.2.node? other = tree.node? other) ∧
    (run.2.node? temporary = none ↔
      (∀ call ∈ openCalls, succeeds call = true) ∨ succeeds .closeAfterFailure = true) := by
  have hroot : temporary ≠ [] := by
    rintro rfl
    cases htemporary
  intro run
  rcases writeThrough_cases succeeds temporary target content tree with
    ⟨hopen, hrun⟩ | ⟨isOpen, reached, hreached, hopen, hrun⟩
  · change run = _ at hrun
    have hgone : run.2.node? temporary = none := by
      rw [hrun, Tree.node?_put_of_ne hne, Tree.node?_remove hroot]
    refine ⟨fun _ => ⟨?_, hgone⟩, ?_, fun other htemp htarg => ?_, iff_of_true hgone (.inl hopen)⟩
    · rw [hrun, Tree.node?_put htarget]
    · simp [hrun]
    · rw [hrun, Tree.node?_put_of_ne htarg, Tree.node?_remove_of_ne htemp,
        Tree.node?_put_of_ne htemp]
  · change run = _ at hrun
    rw [hrun, ← hopen]
    have hsame : ∀ other, other ≠ temporary → reached.node? other = tree.node? other := by
      intro other hother
      rcases hreached with rfl | rfl
      · rfl
      · exact Tree.node?_put_of_ne hother
    have hthere : reached.node? temporary ≠ none := by
      rcases hreached with rfl | rfl
      · simp [htemporary]
      · simp [Tree.node?_put hroot]
    refine ⟨by simp, fun _ => ?_, fun other htemp _ => ?_, node?_cleanUp hremove hroot hthere⟩
    · rw [node?_cleanUp_of_ne hne.symm, hsame target hne.symm]
    · rw [node?_cleanUp_of_ne htemp, hsame other htemp]

/-- What happens on a full disk: the content does not get through, neither at first nor when the file
is closed. -/
def fullDisk : Call → Bool
  | .flush | .closeAfterFailure => false
  | _ => true

theorem written_as_a_whole_fullDisk :
    let tree : Tree := { nodes := [([".a.tmp"], .file []), (["a"], .file [1])] }
    let run := writeThrough fullDisk [".a.tmp"] ["a"] [2] tree
    run.1 = false ∧ run.2.node? ["a"] = some (.file [1]) ∧ run.2.node? [".a.tmp"] ≠ none := by
  intro tree run
  have hrun := written_as_a_whole fullDisk [".a.tmp"] ["a"] [2] [] tree rfl (by decide) (by decide)
    rfl
  exact ⟨rfl, hrun.2.1 rfl, fun hgone => absurd (hrun.2.2.2.mp hgone) (by decide)⟩

end OpenApiClient.File

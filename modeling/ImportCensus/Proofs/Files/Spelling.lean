import ImportCensus.Proofs.Files.Entries

namespace ImportCensus
namespace Files

/-!
# Spellings of a directory

One directory has many paths, with links and with names that lead back.  Behind each of them
the same entries are found, since a look-up goes on from the directory and not from its
path.  What it takes along is the number of links that it may still follow; and its text is
measured as a whole.  So two spellings agree wherever neither comes upon a limit of the
system (`Store.place_child_eq`).
-/

/-- A look-up comes upon a limit of the system: there are too many links on the way, or the
path is too long. -/
def Store.Limited (store : Store) (path : Path) : Prop :=
  store.place path = .error .tooManyLinks ∨
    store.place path = .error .nameTooLong ∧ longestPath < path.text.utf8ByteSize

/-- Names come to the same end with any two budgets of links that are large enough. -/
theorem follow_eq_of_enough {root : Node} {first second : Nat} {place pending : List String}
    (one : follow root first place pending ≠ .error .tooManyLinks)
    (two : follow root second place pending ≠ .error .tooManyLinks) :
    follow root first place pending = follow root second place pending := by
  induction first, place, pending using follow_induction generalizing second with
  | nil first place => rw [follow_nil, follow_nil]
  | cons first place name rest shorter fewer =>
      by_cases within : root.kindAt place = some .directory
      · rw [follow_cons within] at one two ⊢
        rw [follow_cons within]
        by_cases above : name = ".."
        · rw [if_pos above] at one two ⊢
          rw [if_pos above]
          exact shorter _ one two
        · rw [if_neg above] at one two ⊢
          rw [if_neg above]
          by_cases long : longestName < name.utf8ByteSize
          · rw [if_pos long, if_pos long]
          · rw [if_neg long] at one two ⊢
            rw [if_neg long]
            cases stands : root.kindAt (place ++ [name]) with
            | none => rfl
            | some kind =>
                rw [stands] at one two
                cases kind with
                | file => exact shorter _ one two
                | directory => exact shorter _ one two
                | link target =>
                    -- Both budgets pay for the link, or one of them is used up.
                    cases first with
                    | zero => exact absurd rfl one
                    | succ first =>
                        cases second with
                        | zero => exact absurd rfl two
                        | succ second => exact fewer first (Nat.lt_succ_self first) _ _ one two
      · rw [follow_cons_of_ne within, follow_cons_of_ne within]

/-! ## Null characters -/

theorem mem_intercalate_slash {c : Char} (other : c ≠ '/') (names : List String) :
    c ∈ ("/".intercalate names).toList ↔ ∃ name ∈ names, c ∈ name.toList := by
  induction names with
  | nil => simp
  | cons first rest ih =>
      cases rest with
      | nil => simp
      | cons second rest =>
          rw [String.intercalate_cons_cons, String.toList_append, String.toList_append,
            List.mem_append, List.mem_append, ih, List.exists_mem_cons_iff]
          simp [other]

/-- A path holds a null character if one of its names does. -/
theorem Path.null_mem_text (path : Path) :
    '\x00' ∈ path.text.toList ↔ ∃ name ∈ path.names, '\x00' ∈ name.toList := by
  unfold Path.text
  split
  · rename_i here
    have bare : path.names = [] := by
      rw [Bool.and_eq_true] at here
      exact List.isEmpty_iff.1 here.2
    rw [bare]
    simp
  · rw [String.toList_append, List.mem_append, mem_intercalate_slash (by decide)]
    simp

/-! ## Behind a directory -/

namespace Store

variable {store : Store} {first second : Path} {row : List String}

/-- Behind a path of a directory, names are followed from the directory on, with the links
that are left. -/
theorem Finds.follow_behind (finds : store.Finds first row) :
    ∃ left, ∀ pending, follow store.root mostLinks (store.origin first) (first.names ++ pending) =
      follow store.root left row pending := by
  rcases place_eq_ok.1 finds.placed with ⟨_, _, count, enough, leads⟩
  refine ⟨mostLinks - count, ?_⟩
  intro pending
  have onward := leads.follow (mostLinks - count) pending
  rwa [Nat.add_sub_cancel' enough] at onward

/-- What a look-up finds behind a path of a directory, unless it comes upon a limit. -/
theorem Finds.place_child (finds : store.Finds first row) {text : String}
    (relative : (Path.ofText text).anchor = 0) (free : ¬store.Limited (first.child text)) :
    ∃ left, store.place (first.child text) =
      if ∃ name ∈ (Path.ofText text).names, '\x00' ∈ name.toList then .error .nullCharacter
      else follow store.root left row (Path.ofText text).names := by
  rcases finds.follow_behind with ⟨left, onward⟩
  have path : first.child text = ⟨first.anchor, first.names ++ (Path.ofText text).names⟩ := by
    rw [Path.child, Path.join, if_pos relative]
  have clean : ¬∃ name ∈ first.names, '\x00' ∈ name.toList := by
    rw [← Path.null_mem_text]
    exact (place_eq_ok.1 finds.placed).1
  have null : '\x00' ∈ (first.child text).text.toList ↔
      ∃ name ∈ (Path.ofText text).names, '\x00' ∈ name.toList := by
    rw [Path.null_mem_text, path]
    simp only [List.mem_append, or_and_right, exists_or]
    exact or_iff_right clean
  refine ⟨left, ?_⟩
  unfold Limited at free
  unfold place at free ⊢
  rw [List.contains_eq_mem] at free ⊢
  by_cases refused : '\x00' ∈ (first.child text).text.toList
  · rw [decide_eq_true refused, if_pos rfl, if_pos (null.1 refused)]
  · rw [decide_eq_false refused, if_neg Bool.false_ne_true] at free ⊢
    rw [if_neg (mt null.2 refused)]
    by_cases long : longestPath < (first.child text).text.utf8ByteSize
    · rw [if_pos long] at free
      exact absurd (.inr ⟨rfl, long⟩) free
    · rw [if_neg long, path]
      exact onward _

/-- Two paths of one directory have the same places behind them, wherever neither look-up
comes upon a limit. -/
theorem place_child_eq (one : store.Finds first row) (two : store.Finds second row) {text : String}
    (freeOne : ¬store.Limited (first.child text)) (freeTwo : ¬store.Limited (second.child text)) :
    store.place (first.child text) = store.place (second.child text) := by
  by_cases relative : (Path.ofText text).anchor = 0
  · rcases one.place_child relative freeOne with ⟨left, placed⟩
    rcases two.place_child relative freeTwo with ⟨right, alike⟩
    have notOne : store.place (first.child text) ≠ .error .tooManyLinks :=
      fun failed => freeOne (.inl failed)
    have notTwo : store.place (second.child text) ≠ .error .tooManyLinks :=
      fun failed => freeTwo (.inl failed)
    rw [placed] at notOne ⊢
    rw [alike] at notTwo ⊢
    split
    · rfl
    · rename_i clean
      rw [if_neg clean] at notOne notTwo
      exact follow_eq_of_enough notOne notTwo
  · rw [Path.child, Path.child, Path.join, Path.join, if_neg relative, if_neg relative]

/-- What is asked of a path depends on its place. -/
theorem node_eq_of_place (same : store.place first = store.place second) :
    store.node first = store.node second := by
  unfold node
  rw [same]

end Store

end Files
end ImportCensus

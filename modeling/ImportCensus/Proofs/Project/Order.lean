import ImportCensus.Proofs.Project.Coverage

namespace ImportCensus
namespace Project

open Files (Node Path Store)

/-!
# The order of a walk

A walk lists of each directory first its files by their names, and then what lies in its
subdirectories, by the names of these.  `Before` compares two files by their places alone,
and a walk is in strict order for it.  What a walk lists is therefore determined by which
files it lists: in what order a directory holds its entries has no influence.
-/

/-- Which of two files comes first, by the names that lead to them: a file of a directory
comes before all that lies deeper in the directory, and the names decide otherwise. -/
inductive Before : List String -> List String -> Prop
  | files {name other : String} (less : name < other) : Before [name] [other]
  | deeper {name next after : String} {behind : List String} :
      Before [name] (next :: after :: behind)
  | directories {name other next after : String} {rest behind : List String}
      (less : name < other) : Before (name :: next :: rest) (other :: after :: behind)
  | inside {first second : List String} (name : String) (before : Before first second) :
      Before (name :: first) (name :: second)

variable {store other : Store} {root : Path} {isDirectory : List String -> Bool} {ignore : Ignore}

/-! ## Places -/

theorem Before.asymm {first second : List String} (before : Before first second) :
    ¬Before second first := by
  induction before with
  | files less =>
      intro back
      cases back with
      | files more => exact String.lt_asymm less more
      | inside _ nothing => cases nothing
  | deeper =>
      intro back
      cases back with
      | inside _ nothing => cases nothing
  | directories less =>
      intro back
      cases back with
      | directories more => exact String.lt_asymm less more
      | inside => exact String.lt_irrefl _ less
  | inside name before ih =>
      intro back
      cases back with
      | files more => exact String.lt_irrefl _ more
      | deeper => cases before
      | directories more => exact String.lt_irrefl _ more
      | inside _ later => exact ih later

/-- In one and the same directory, what lies below decides. -/
theorem Before.append {first second : List String} (place : List String)
    (before : Before first second) : Before (place ++ first) (place ++ second) := by
  induction place with
  | nil => exact before
  | cons name place ih => exact .inside name ih

/-! ## Walks -/

/-- Things with distinct names are sorted in strict order. -/
theorem pairwise_sortNamed {α : Type} {entries : List (String × α)}
    (distinct : (entries.map Prod.fst).Nodup) :
    (sortNamed entries).Pairwise fun first second => first.1 < second.1 := by
  have names := map_fst_sortNamed_nodup distinct
  rw [List.Nodup, List.pairwise_map] at names
  have ordered : (sortNamed entries).Pairwise fun first second => named first second = true :=
    List.pairwise_mergeSort named_trans named_total entries
  refine (ordered.and names).imp ?_
  rintro first second ⟨atMost, different⟩
  exact Std.lt_of_le_of_ne (of_decide_eq_true atMost) different

theorem pairwise_filesOf {place : List String} {entries : List (String × Node)}
    (distinct : (entries.map Prod.fst).Nodup) :
    (filesOf isDirectory ignore place entries).Pairwise Before := by
  rw [filesOf, List.pairwise_map]
  have kept := distinct.sublist ((List.filter_sublist (l := entries)
    (p := isYielded isDirectory ignore place)).map Prod.fst)
  refine (pairwise_sortNamed kept).imp ?_
  intro first second less
  have names : Before [first.1] [second.1] := .files less
  exact names.append place

mutual

/-- A walk lists files in strict order. -/
theorem pairwise_walkNode : (node : Node) -> (place : List String) -> node.WellFormed ->
    (walkNode isDirectory ignore place node).Pairwise Before
  | .directory entries, place, formed => by
      rw [Node.WellFormed] at formed
      have searched : ((walkEntries isDirectory ignore place entries).map Prod.fst).Nodup :=
        formed.1.sublist (map_fst_walkEntries entries)
      refine walkNode_directory List.Pairwise.nil fun _ => ?_
      rw [List.pairwise_append]
      refine ⟨pairwise_filesOf formed.1, ?_, ?_⟩
      · rw [List.pairwise_flatMap]
        constructor
        · intro entry within
          exact pairwise_walkEntries entries place formed.2 entry (mem_sortNamed.1 within)
        · refine (pairwise_sortNamed searched).imp_of_mem ?_
          intro first second firstIn secondIn less found inFirst found' inSecond
          rcases below_of_mem_walkEntries (mem_sortNamed.1 firstIn) inFirst with ⟨_, _, rfl⟩
          rcases below_of_mem_walkEntries (mem_sortNamed.1 secondIn) inSecond with ⟨_, _, rfl⟩
          exact Before.append place (.directories less)
      · intro found here found' deeper
        rcases mem_filesOf.1 here with ⟨_, _, _, _, rfl⟩
        rcases List.mem_flatMap.1 deeper with ⟨entry, within, inEntry⟩
        rcases below_of_mem_walkEntries (mem_sortNamed.1 within) inEntry with ⟨_, _, rfl⟩
        exact Before.append place .deeper
  | .file _, _, _ => by simp
  | .link _, _, _ => by simp

theorem pairwise_walkEntries : (entries : List (String × Node)) -> (place : List String) ->
    Node.AllWellFormed entries ->
    ∀ entry ∈ walkEntries isDirectory ignore place entries, entry.2.Pairwise Before
  | [], _, _ => by simp [walkEntries]
  | (name, node) :: rest, place, formed => by
      rw [Node.AllWellFormed] at formed
      have later := pairwise_walkEntries rest place formed.2.2
      rw [walkEntries]
      split
      · exact List.forall_mem_cons.2 ⟨pairwise_walkNode node _ formed.2.1, later⟩
      · exact later

end

/-- The sources below a root are listed in strict order. -/
theorem pairwise_sourceFiles (formed : store.root.WellFormed) (root : Path) (ignore : Ignore) :
    (sourceFiles store root ignore).Pairwise fun first second =>
      Before first.names second.names := by
  unfold sourceFiles
  cases found : store.root.at? root.names with
  | none => exact List.Pairwise.nil
  | some node =>
      rw [List.pairwise_map]
      refine (pairwise_walkNode node [] (formed.at? found)).imp ?_
      intro first second before
      exact before.append root.names

/-- Walks that list the same files list them in the same order. -/
theorem sourceFiles_ext (formed : store.root.WellFormed) (alike : other.root.WellFormed)
    (same : ∀ path, path ∈ sourceFiles other root ignore ↔ path ∈ sourceFiles store root ignore) :
    sourceFiles other root ignore = sourceFiles store root ignore := by
  have perm : (sourceFiles other root ignore).Perm (sourceFiles store root ignore) :=
    (List.perm_ext_iff_of_nodup (nodup_sourceFiles alike root ignore)
      (nodup_sourceFiles formed root ignore)).2 same
  refine perm.eq_of_pairwise ?_ (pairwise_sourceFiles alike root ignore)
    (pairwise_sourceFiles formed root ignore)
  intro first second _ _ before after
  exact absurd after before.asymm

end Project
end ImportCensus

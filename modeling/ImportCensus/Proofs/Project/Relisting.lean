import ImportCensus.Proofs.Files.Relisting
import ImportCensus.Proofs.Project.Enumeration

namespace ImportCensus
namespace Project

open Files (Listing Node Path Store)

/-!
# Walks and the order of listings

A walk over a tree that is listed in another order finds the same root, the same patterns and
the same sequence of sources.  What it lists is a function of the tree alone, and the place
of a file in it is decided by the names that lead to the file.
-/

variable {store other : Store} {root real : Path}

theorem realRoot_alike (alike : store.Alike other) (formed : store.root.WellFormed)
    (formedOther : other.root.WellFormed) (root : Path) :
    realRoot other root = realRoot store root := by
  unfold realRoot
  rw [alike.resolve_eq formed formedOther]

theorem ignoreFileSpec_relist (formed : store.root.WellFormed) (listing : Listing) (real : Path) :
    ignoreFileSpec (store.relist listing) real = ignoreFileSpec store real := by
  unfold ignoreFileSpec
  dsimp only
  rw [(Store.alike_relist formed listing).test_isFile, Store.content_relist formed]

/-- Stores that are alike have the same sources in the same order. -/
theorem sourceFiles_alike (alike : store.Alike other) (formed : store.root.WellFormed)
    (formedOther : other.root.WellFormed) (anchored : real.anchor = 1) (ignore : Ignore) :
    sourceFiles other real ignore = sourceFiles store real ignore :=
  ((enumerates_sourceFiles formedOther anchored).alike alike).unique
    (enumerates_sourceFiles formed anchored)

/-- The order in which directories are listed has no influence on a walk. -/
theorem walk_relist (formed : store.root.WellFormed) (listing : Listing) (root : Path)
    (exclude : List String) (gitignore : Bool) :
    walk (store.relist listing) root exclude gitignore = walk store root exclude gitignore := by
  have alike := Store.alike_relist formed listing
  have formedAfter := Store.wellFormed_relist formed listing
  have resolvedAfter := realRoot_alike alike formed formedAfter root
  cases resolved : realRoot store root with
  | error error =>
      rw [resolved] at resolvedAfter
      unfold walk
      rw [resolved, resolvedAfter]
      rfl
  | ok real =>
      rw [resolved] at resolvedAfter
      have sources : ∀ ignore,
          sourceFiles (store.relist listing) real ignore = sourceFiles store real ignore :=
        sourceFiles_alike alike formed formedAfter (anchor_realRoot resolved)
      rw [walk_of_realRoot resolved, walk_of_realRoot resolvedAfter,
        ofOptions_written (ignoreFileSpec_relist formed listing real)]
      exact congrArg (fun sources => Except.map sources _) (funext sources)

/-- The sequence of a walk is a function of the tree alone.  In whatever order the system lists
the entries of each directory, a walk comes out the same, or fails for the same reason.
Where the patterns can be read it lists, of each directory, first the accepted files and
then the sequences of the entered subdirectories, both in increasing order of names; this
rule leaves no choice, and of any two files that are listed it tells which comes first. -/
theorem walk_sequence_of_tree (store : Store) (root : Path) (exclude : List String)
    (gitignore : Bool) (formed : store.root.WellFormed) :
    (∀ listing, walk (store.relist listing) root exclude gitignore =
        walk store root exclude gitignore) ∧
      ∀ real ignore, realRoot store root = .ok real ->
        Ignore.ofOptions store real exclude gitignore = .ok ignore ->
        ∃ files, walk store root exclude gitignore = .ok files ∧
          (∀ paths, Enumerates store real ignore [] paths ↔ paths = files) ∧
          files.Pairwise fun first second => Before first.names second.names := by
  refine ⟨fun listing => walk_relist formed listing root exclude gitignore, ?_⟩
  intro real ignore resolved compiles
  have enumerates : Enumerates store real ignore [] (sourceFiles store real ignore) :=
    enumerates_sourceFiles formed (anchor_realRoot resolved)
  refine ⟨sourceFiles store real ignore, ?_, ?_, pairwise_sourceFiles formed real ignore⟩
  · rw [walk_of_realRoot resolved, compiles]
    rfl
  · intro paths
    constructor
    · exact fun again => again.unique enumerates
    · rintro rfl
      exact enumerates

/-- Every directory listed from its last entry to its first. -/
def backwards : Listing where
  list := fun _ entries => entries.reverse
  perm := fun _ entries => entries.reverse_perm

/-- Listed backwards, the tangled project has its links in another order and its files in the
same one. -/
theorem tangled_sequence_of_tree :
    (tangled.relist backwards).root.linkPlaces ≠ tangled.root.linkPlaces ∧
      walk (tangled.relist backwards) ⟨1, ["p"]⟩ [] true = walk tangled ⟨1, ["p"]⟩ [] true ∧
      ∃ files, walk tangled ⟨1, ["p"]⟩ [] true = .ok files ∧
        Enumerates tangled ⟨1, ["p"]⟩ ⟨[[belowSkip]]⟩ [] files ∧
        files.Pairwise fun first second => Before first.names second.names := by
  have claim := walk_sequence_of_tree tangled ⟨1, ["p"]⟩ [] true tangled_wellFormed
  have compiles : Ignore.ofOptions tangled ⟨1, ["p"]⟩ [] true = .ok ⟨[[belowSkip]]⟩ := by
    have active : ignoreFileSpec tangled ⟨1, ["p"]⟩ = .ok (some [belowSkip]) :=
      activeIgnoreSpec_tangled
    unfold Ignore.ofOptions
    rw [active]
    rfl
  rcases claim.2 _ _ realRoot_tangled compiles with ⟨files, walks, sequence, ordered⟩
  exact ⟨by decide, claim.1 backwards, files, walks, (sequence files).2 rfl, ordered⟩

end Project
end ImportCensus

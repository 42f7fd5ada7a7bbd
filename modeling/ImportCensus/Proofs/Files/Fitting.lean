import ImportCensus.Proofs.Files.Spelling

namespace ImportCensus
namespace Files

/-!
# Paths of directories that can be looked up

A directory stands in the tree whether or not its own path can be looked up.  The path has
to fit: it must not be too long as a whole or in one of its names.  A path that fits does
so in front of each of its names, so that along a row of directories all paths can be looked
up or all from some directory on cannot.
-/

/-- A path whose text and names are not too long and hold no null character. -/
structure Path.Fits (path : Path) : Prop where
  noNull : '\x00' ∉ path.text.toList
  short : path.text.utf8ByteSize ≤ longestPath
  shortNames : ∀ name ∈ path.names, name.utf8ByteSize ≤ longestName

instance (path : Path) : Decidable path.Fits :=
  decidable_of_iff ('\x00' ∉ path.text.toList ∧ path.text.utf8ByteSize ≤ longestPath ∧
      ∀ name ∈ path.names, name.utf8ByteSize ≤ longestName)
    ⟨fun ⟨noNull, short, shortNames⟩ => ⟨noNull, short, shortNames⟩,
      fun ⟨noNull, short, shortNames⟩ => ⟨noNull, short, shortNames⟩⟩

/-! ## Beginnings of a path -/

theorem utf8ByteSize_intercalate_le (front behind : List String) :
    ("/".intercalate front).utf8ByteSize ≤ ("/".intercalate (front ++ behind)).utf8ByteSize := by
  induction front with
  | nil => exact Nat.zero_le _
  | cons first rest ih =>
      cases rest with
      | nil =>
          cases behind with
          | nil => exact Nat.le_refl _
          | cons second behind =>
              rw [List.cons_append, List.nil_append, String.intercalate_cons_cons,
                String.intercalate_singleton, String.utf8ByteSize_append, String.utf8ByteSize_append]
              omega
      | cons second rest =>
          rw [List.cons_append, List.cons_append, String.intercalate_cons_cons,
            String.intercalate_cons_cons, String.utf8ByteSize_append, String.utf8ByteSize_append,
            String.utf8ByteSize_append, String.utf8ByteSize_append]
          exact Nat.add_le_add_left ih _

/-- A row of names is at least as long as its names together. -/
theorem sum_utf8ByteSize_le (names : List String) :
    (names.map String.utf8ByteSize).sum ≤ ("/".intercalate names).utf8ByteSize := by
  induction names with
  | nil => exact Nat.zero_le _
  | cons first rest ih =>
      cases rest with
      | nil => simp
      | cons second rest =>
          rw [String.intercalate_cons_cons, String.utf8ByteSize_append, String.utf8ByteSize_append,
            List.map_cons, List.sum_cons]
          omega

theorem eq_of_mem_replicate {c other : Char} {count : Nat}
    (member : c ∈ (String.ofList (List.replicate count other)).toList) : c = other := by
  rw [String.toList_ofList] at member
  exact List.eq_of_mem_replicate member

theorem utf8ByteSize_replicate {c : Char} (ascii : c.utf8Size = 1) (count : Nat) :
    (String.ofList (List.replicate count c)).utf8ByteSize = count := by
  rw [String.utf8ByteSize_ofList]
  induction count with
  | zero => rfl
  | succ count ih =>
      rw [List.replicate_succ, String.utf8Len_cons, ih, ascii]

theorem Path.text_anchored (names : List String) :
    (⟨1, names⟩ : Path).text = "/" ++ "/".intercalate names := rfl

theorem Path.utf8ByteSize_front_le (front behind : List String) :
    (⟨1, front⟩ : Path).text.utf8ByteSize ≤ (⟨1, front ++ behind⟩ : Path).text.utf8ByteSize := by
  rw [text_anchored, text_anchored, String.utf8ByteSize_append, String.utf8ByteSize_append]
  exact Nat.add_le_add_left (utf8ByteSize_intercalate_le front behind) _

theorem Path.null_of_front {front behind : List String}
    (null : '\x00' ∈ (⟨1, front⟩ : Path).text.toList) :
    '\x00' ∈ (⟨1, front ++ behind⟩ : Path).text.toList := by
  rw [Path.null_mem_text] at null ⊢
  rcases null with ⟨name, member, null⟩
  exact ⟨name, List.mem_append_left _ member, null⟩

/-- What a path fits with, its beginnings fit with as well. -/
theorem Path.Fits.of_prefix {front row : List String} (fits : (⟨1, row⟩ : Path).Fits)
    (leads : front <+: row) : (⟨1, front⟩ : Path).Fits := by
  rcases leads with ⟨behind, rfl⟩
  exact ⟨mt Path.null_of_front fits.noNull,
    Nat.le_trans (Path.utf8ByteSize_front_le front behind) fits.short,
    fun name member => fits.shortNames name (List.mem_append_left _ member)⟩

/-! ## Looking directories up -/

theorem shortNames_iff {names : List String} :
    shortNames names = true ↔ ∀ name ∈ names, name.utf8ByteSize ≤ longestName := by
  simp [shortNames]

namespace Store

variable {store : Store} {row : List String} {name : String}

/-- The path of a directory leads to it if it fits, and nowhere if not. -/
theorem holds_isDirectory_row (proper : ∀ name ∈ row, name ≠ "..")
    (within : store.root.kindAt row = some .directory) :
    store.holds Node.isDirectory ⟨1, row⟩ = true ↔ (⟨1, row⟩ : Path).Fits := by
  have followed : follow store.root mostLinks [] row =
      if Files.shortNames row then .ok row else .error .nameTooLong :=
    follow_directory mostLinks proper within
  rw [holds_isDirectory]
  constructor
  · rintro ⟨names, placed, -⟩
    have found : follow store.root mostLinks [] row = .ok names := by
      rcases place_eq_ok.1 placed with ⟨-, -, count, enough, leads⟩
      exact follow_eq_ok.2 ⟨count, enough, leads⟩
    rw [followed] at found
    split at found
    · next allShort => exact ⟨(place_eq_ok.1 placed).1, (place_eq_ok.1 placed).2.1, shortNames_iff.1 allShort⟩
    · cases found
  · intro fits
    rw [if_pos (shortNames_iff.2 fits.shortNames)] at followed
    exact ⟨row, place_eq_ok.2 ⟨fits.noNull, fits.short, follow_eq_ok.1 followed⟩, within⟩

/-- All directories on the way to a directory can be looked up if the path of the last one fits. -/
theorem holds_isDirectory_on_way (formed : store.root.WellFormed) {above : List String}
    (within : store.root.kindAt (row ++ above) = some .directory) :
    (∀ front, front <+: above -> store.holds Node.isDirectory ⟨1, row ++ front⟩ = true) ↔
      (⟨1, row ++ above⟩ : Path).Fits := by
  have proper : ∀ {names}, store.root.kindAt names = some .directory ->
      ∀ name ∈ names, name ≠ ".." := by
    intro names directory name member
    rcases Node.kindAt_eq_directory.1 directory with ⟨entries, found⟩
    exact (formed.isEntryName found name member).notAbove
  constructor
  · exact fun all => (holds_isDirectory_row (proper within) within).1 (all above List.prefix_rfl)
  · rintro fits front ⟨behind, rfl⟩
    have whole : row ++ (front ++ behind) = (row ++ front) ++ behind := (List.append_assoc ..).symm
    rw [whole] at within
    have higher : store.root.kindAt (row ++ front) = some .directory := by
      cases behind with
      | nil => rwa [List.append_nil] at within
      | cons next behind =>
          exact Node.kindAt_of_append (List.cons_ne_nil next behind) (by rw [within]; nofun)
    exact (holds_isDirectory_row (proper higher) higher).2 (fits.of_prefix ⟨behind, whole.symm⟩)

/-- A path behind a directory that leads somewhere shows that the path of the directory fits. -/
theorem fits_of_place {last : List String} (proper : ∀ name ∈ row, name ≠ "..")
    (within : store.root.kindAt row = some .directory)
    (placed : store.place ⟨1, row ++ [name]⟩ = .ok last) : (⟨1, row⟩ : Path).Fits := by
  rcases place_eq_ok.1 placed with ⟨noNull, short, count, enough, leads⟩
  have found : follow store.root mostLinks [] (row ++ [name]) = .ok last :=
    follow_eq_ok.2 ⟨count, enough, leads⟩
  rw [follow_row proper within] at found
  split at found
  · next allShort =>
    exact ⟨mt Path.null_of_front noNull,
      Nat.le_trans (Path.utf8ByteSize_front_le row [name]) short, shortNames_iff.1 allShort⟩
  · cases found

/-- The path of a file leads to no directory, whether or not it can be looked up. -/
theorem holds_isDirectory_of_file (proper : ∀ other ∈ row ++ [name], other ≠ "..")
    (within : store.root.kindAt row = some .directory)
    (stands : store.root.kindAt (row ++ [name]) = some .file) :
    store.holds Node.isDirectory ⟨1, row ++ [name]⟩ = false := by
  rw [Bool.eq_false_iff, Ne, holds_isDirectory]
  rintro ⟨last, placed, directory⟩
  have unlinked : ∀ target, store.root.kindAt (row ++ [name]) ≠ some (.link target) := by
    intro target link
    cases stands.symm.trans link
  rw [(spells_entry proper within unlinked).eq_entry placed] at directory
  cases stands.symm.trans directory

end Store

end Files
end ImportCensus

import ImportCensus.Proofs.Census.Interference
import ImportCensus.Proofs.Project.Locality
import ImportCensus.Proofs.Text.Spellings

namespace ImportCensus
namespace Census

open Files (FileError IsEntryName Node Path Store)
open Text (Encodes Folds IsCutMark IsUtf8 byteOrderMark decodeMarked_eq_ok_iff decodeMarked_spelled
  folds_iff folds_withLineEnd lineEnds spelled withoutMark)

/-!
# Sources however they are encoded

A file is read if its bytes are UTF-8, and then to the text that they are the bytes of.  How
the text is written down, with a byte order mark or without one and with one line end or
another, is lost in reading, and so makes no difference to a scan of the file.
-/

/-- What a scan of a file tells: its packages, or nothing if the file is passed over. -/
def Scope.scan (scope : Scope) (file : Path) : Except FileError (Option PackageSet) :=
  (scope.askContribution file).map Except.toOption

variable {store other : Store} {scope : Scope} {file twin : Path} {content : List Nat}
  {text : List Char}

/-! ## Reading -/

theorem readText_eq_ok_of_content (opened : store.content file = .ok content) :
    readText store file = .ok text ↔
      IsCutMark content ∧ text = [] ∨
        ∃ decoded, Encodes decoded (withoutMark content) ∧ Folds decoded text := by
  rw [readText_eq_ok]
  constructor
  · rintro ⟨_, decoded, again, decodes, folded⟩
    rw [opened] at again
    cases again
    rcases decodeMarked_eq_ok_iff.1 decodes with ⟨cut, rfl⟩ | encodes
    · exact .inl ⟨cut, folded.symm⟩
    · exact .inr ⟨decoded, encodes, folds_iff.2 folded⟩
  · rintro (⟨cut, rfl⟩ | ⟨decoded, encodes, folds⟩)
    · exact ⟨content, [], opened, decodeMarked_eq_ok_iff.2 (.inl ⟨cut, rfl⟩), rfl⟩
    · exact ⟨content, decoded, opened, decodeMarked_eq_ok_iff.2 (.inr encodes), folds_iff.1 folds⟩

/-- A file that is opened is read or cannot be decoded. -/
theorem undecodable_of_content (opened : store.content file = .ok content) {fault : FileFault}
    (failed : readText store file = .error fault) : ∃ reason, fault = .undecodable reason := by
  unfold readText at failed
  rw [opened] at failed
  dsimp only at failed
  split at failed
  · cases failed
    exact ⟨_, rfl⟩
  · cases failed

theorem not_mem_of_readText (read : readText store file = .ok text) : '\r' ∉ text := by
  rcases readText_eq_ok.1 read with ⟨_, decoded, _, _, folded⟩
  exact (folds_iff.2 folded).not_mem

/-- A text is read back from its bytes. -/
theorem readText_spelled {mark : List Nat} {lineEnd : List Char}
    (marked : mark ∈ [[], byteOrderMark]) (chosen : lineEnd ∈ lineEnds)
    (noReturn : '\r' ∉ text) (unmarked : text.head? ≠ some '\ufeff')
    (opened : store.content file = .ok (spelled mark lineEnd text)) :
    readText store file = .ok text :=
  readText_eq_ok.2 ⟨_, _, opened, decodeMarked_spelled (by simpa using marked) chosen unmarked,
    folds_iff.1 (folds_withLineEnd chosen noReturn)⟩

/-! ## Scanning -/

/-- Files beside each other that are read to the same text are scanned to the same result. -/
theorem scan_congr (alike : scope.store.Alike other) (formed : scope.store.root.WellFormed)
    (formedOther : other.root.WellFormed) (beside : twin.parent = file.parent)
    (read : readText scope.store file = .ok text) (readToo : readText other twin = .ok text) :
    (scope.inStore other).scan twin = scope.scan file := by
  have classes : (scope.inStore other).askClass twin = scope.askClass file := by
    funext module
    unfold Scope.askClass Scope.inStore
    dsimp only
    rw [Project.askLocal_alike alike formed formedOther beside]
  have packages : (scope.inStore other).askThirdParty twin = scope.askThirdParty file := by
    funext modules
    unfold Scope.askThirdParty
    rw [classes]
  have store : (scope.inStore other).store = other := rfl
  unfold Scope.scan Scope.askContribution readReferences
  rw [packages, store, read, readToo]
  dsimp only [bind, Except.bind]
  cases Source.readSource text with
  | error error => rfl
  | ok document => rfl

/-- Reading is exact.  The bytes of a file are read if and only if they are UTF-8 behind a mark or
without one, or are a mark that is cut short; otherwise they are refused as undecodable.
What is read is the text of the bytes behind the mark with its line ends folded, or nothing
for a cut mark, and there is no carriage return in it.  So a text that has none and does not
begin with the character of the mark is read back, whether it is written down with a mark or
without one and whatever its line ends are; and files in one directory that it is written to
in any of these ways, be it in stores that differ in contents, are scanned to the same
result. -/
theorem reading_exact (scope : Scope) (file : Path) (content : List Nat)
    (opened : scope.store.content file = .ok content) :
    ((∃ text, readText scope.store file = .ok text) ↔
        IsCutMark content ∨ IsUtf8 (withoutMark content)) ∧
      (∀ fault, readText scope.store file = .error fault ->
        ∃ reason, fault = .undecodable reason) ∧
      (∀ text, readText scope.store file = .ok text ↔ IsCutMark content ∧ text = [] ∨
        ∃ decoded, Encodes decoded (withoutMark content) ∧ Folds decoded text) ∧
      (∀ text, readText scope.store file = .ok text -> '\r' ∉ text) ∧
      ∀ text : List Char, '\r' ∉ text -> text.head? ≠ some '\ufeff' ->
        ∀ mark ∈ [[], byteOrderMark], ∀ lineEnd ∈ lineEnds, content = spelled mark lineEnd text ->
          readText scope.store file = .ok text ∧
            ∀ (other : Store) (twin : Path), scope.store.Alike other ->
              scope.store.root.WellFormed -> other.root.WellFormed -> twin.parent = file.parent ->
              ∀ otherMark ∈ [[], byteOrderMark], ∀ otherEnd ∈ lineEnds,
                other.content twin = .ok (spelled otherMark otherEnd text) ->
                (scope.inStore other).scan twin = scope.scan file := by
  have texts : ∀ text, readText scope.store file = .ok text ↔ IsCutMark content ∧ text = [] ∨
      ∃ decoded, Encodes decoded (withoutMark content) ∧ Folds decoded text :=
    fun _ => readText_eq_ok_of_content opened
  refine ⟨?_, fun _ => undecodable_of_content opened, texts, fun _ => not_mem_of_readText, ?_⟩
  · simp only [texts]
    constructor
    · rintro ⟨text, ⟨cut, _⟩ | ⟨decoded, encodes, _⟩⟩
      · exact .inl cut
      · exact .inr ⟨decoded, encodes⟩
    · rintro (cut | ⟨decoded, encodes⟩)
      · exact ⟨[], .inl ⟨cut, rfl⟩⟩
      · exact ⟨_, .inr ⟨decoded, encodes, folds_iff.2 rfl⟩⟩
  · rintro text noReturn unmarked mark marked lineEnd chosen rfl
    have read := readText_spelled marked chosen noReturn unmarked opened
    refine ⟨read, ?_⟩
    intro other twin alike formed formedOther beside otherMark markedToo otherEnd chosenToo openedToo
    exact scan_congr alike formed formedOther beside read
      (readText_spelled markedToo chosenToo noReturn unmarked openedToo)

/-- A project that holds the same text twice: as it is, and with a mark and other line ends. -/
def spellingTwice : Scope where
  store := ⟨.directory [("b.py", .file [105, 109, 112, 111, 114, 116, 32, 99, 10]),
    ("d.py", .file [239, 187, 191, 105, 109, 112, 111, 114, 116, 32, 99, 13, 10])], []⟩
  root := ⟨1, []⟩
  registry := ⟨"3.12", []⟩

theorem spellingTwice_reads_exactly :
    readText spellingTwice.store ⟨1, ["b.py"]⟩ = .ok "import c\n".toList ∧
      spellingTwice.scan ⟨1, ["d.py"]⟩ = spellingTwice.scan ⟨1, ["b.py"]⟩ := by
  have names : IsEntryName "b.py" ∧ IsEntryName "d.py" := by decide
  have formed : spellingTwice.store.root.WellFormed := by
    simp [spellingTwice, Node.WellFormed, Node.AllWellFormed, names]
  have opened : spellingTwice.store.content ⟨1, ["b.py"]⟩ =
      .ok (spelled [] ['\n'] "import c\n".toList) := by
    simp only [Store.content, Store.node, Store.place_eq_cond]
    cbv
  have openedToo : spellingTwice.store.content ⟨1, ["d.py"]⟩ =
      .ok (spelled byteOrderMark ['\r', '\n'] "import c\n".toList) := by
    simp only [Store.content, Store.node, Store.place_eq_cond]
    cbv
  have claim := (reading_exact spellingTwice ⟨1, ["b.py"]⟩ _ opened).2.2.2.2 "import c\n".toList
    (by decide) (by decide) [] (by simp) ['\n'] (by simp [lineEnds]) rfl
  exact ⟨claim.1, claim.2 spellingTwice.store ⟨1, ["d.py"]⟩ ⟨rfl, fun _ => rfl⟩ formed formed rfl
    byteOrderMark (by simp) ['\r', '\n'] (by simp [lineEnds]) openedToo⟩

end Census
end ImportCensus

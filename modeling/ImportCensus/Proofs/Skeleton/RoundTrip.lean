import ImportCensus.Proofs.Skeleton.Blocks

namespace ImportCensus
namespace Skeleton

open Imports (Search collect)
open Source (Document readSource)
open Syntax (Tree)

/-!
# From skeletons to texts and back

A printed skeleton is a source without errors, and what is collected from it are the
references of the skeleton.  Nothing is assumed of the text but that it prints the
skeleton, so that the blanks between its words may differ from place to place.  Layouts
give such texts: each skeleton has one for every layout.
-/

/-! ## Reading a printed skeleton -/

variable {text : List Char}

/-- The rows of a printed skeleton are a program that holds its references. -/
theorem program_gathers (program : Program) (printed : program.PrintsAs text) :
    ∃ items, Source.program (Source.rows text) = .ok items ∧ HoldsItems text items program.references := by
  have scanned : Scanned text program.lines (Source.rows text) := rows_printed printed
  generalize Source.rows text = rows at scanned ⊢
  cases program with
  | empty =>
      cases scanned
      exact ⟨[], rfl, .nil⟩
  | block body =>
      rcases block_gathers text body (4 * rows.length + 4) scanned .nil (by omega) with ⟨items, gathered, holds⟩
      rw [List.append_nil] at gathered
      refine ⟨items, ?_, holds⟩
      unfold Source.program
      rw [gathered]
      rfl

/-- The blanks to put between two words, at least one where they would run together. -/
structure Layout where
  gap : Word -> Word -> List Char
  blank : ∀ first second, ∀ c ∈ gap first second, Source.isBlank c = true
  apart : ∀ first second, first.joins second = true -> gap first second ≠ []

namespace Layout

/-- Words with blanks between them. -/
def spread (layout : Layout) : Word -> List Word -> List Char
  | word, [] => word.characters
  | word, following :: rest => word.characters ++ (layout.gap word following ++ layout.spread following rest)

/-- Lines, each indented for its level. -/
def print (layout : Layout) : List Line -> List Char
  | [] => []
  | line :: rest =>
    List.replicate (4 * line.level) ' ' ++
      (layout.spread line.sentence.first line.sentence.more ++ '\n' :: layout.print rest)

/-- The same blanks between all words. -/
def even (gap : List Char) (blank : ∀ c ∈ gap, Source.isBlank c = true) (filled : gap ≠ []) : Layout where
  gap _ _ := gap
  blank _ _ := blank
  apart _ _ _ := filled

end Layout

def nested : Program :=
  let os : Name := ⟨"os", by decide, by decide, by decide, by decide⟩
  let path : Name := ⟨"path", by decide, by decide, by decide, by decide⟩
  let p : Name := ⟨"p", by decide, by decide, by decide, by decide⟩
  let q : Name := ⟨"q", by decide, by decide, by decide, by decide⟩
  .block (.cons
    (.importModules ⟨⟨os, [path]⟩, some p⟩ [⟨.ofName q, none⟩])
    (.last (.compound (.conditional p)
      (.last (.compound .attempt
        (.last (.importFrom (.relative 1 (some ⟨q, [path]⟩)) (.members ⟨p, some q⟩ [⟨os, none⟩])))
        (.cons (.handlerOf q none) rfl (.last (.importFrom (.relative 0 none) .everything)) (.done rfl))))
      (.cons .otherwise rfl
        (.last (.choice p (.last q
          (.last (.decorated p [] (.function true q [os]) (.last (.importModules ⟨.ofName path, none⟩ [])))))))
        (.done rfl)))))

end Skeleton
end ImportCensus

import ImportCensus.Proofs.Skeleton.Program

namespace ImportCensus
namespace Skeleton

open Source (LexemeKind)

/-!
# Texts of skeletons

A skeleton is printed one line for each of its statements, headers, clauses and
decorators.  A line is indented by four spaces for each level, and its words are
separated by blanks.  How many blanks, and which, is left open (`Spaced`), so that a
skeleton has many texts: only between two words that would run together some blank has
to stand.
-/

/-! ## Words -/

inductive Mark where
  | dot | comma | star | colon | opening | closing | sign
  deriving DecidableEq

namespace Mark

def character : Mark -> Char
  | .dot => '.'
  | .comma => ','
  | .star => '*'
  | .colon => ':'
  | .opening => '('
  | .closing => ')'
  | .sign => '@'

def text : Mark -> String
  | .dot => "."
  | .comma => ","
  | .star => "*"
  | .colon => ":"
  | .opening => "("
  | .closing => ")"
  | .sign => "@"

theorem toList_text (mark : Mark) : mark.text.toList = [mark.character] := by
  cases mark <;> rfl

end Mark

/-- What a line is made of. -/
inductive Word where
  | keyword (text : String) (reserved : text ∈ Source.reservedWords)
  | name (text : String) (spelled : isName text.toList = true)
      (free : text ∉ Source.reservedWords)
  | mark (mark : Mark)

namespace Word

def text : Word -> String
  | .keyword text _ => text
  | .name text _ _ => text
  | .mark made => made.text

def characters (word : Word) : List Char := word.text.toList

def kind : Word -> LexemeKind
  | .keyword _ _ => .keyword
  | .name _ _ _ => .name
  | .mark _ => .symbol

/-- Whether two words run together if nothing stands between them: two names or
keywords make one name, and two stars make one operator. -/
def joins : Word -> Word -> Bool
  | .mark first, .mark second => first == .star && second == .star
  | .mark _, _ | _, .mark _ => false
  | _, _ => true

/-- How many brackets are open behind a word. -/
def depthBehind (depth : Nat) : Word -> Nat
  | .mark .opening => depth + 1
  | .mark .closing => depth - 1
  | _ => depth

/-- Words other than brackets. -/
def isPlain : Word -> Bool
  | .mark .opening | .mark .closing => false
  | _ => true

theorem depthBehind_plain {word : Word} (plain : word.isPlain = true) (depth : Nat) :
    word.depthBehind depth = depth := by
  cases word with
  | mark made => cases made <;> first | rfl | cases plain
  | keyword => rfl
  | name => rfl

theorem foldl_depthBehind {words : List Word} (plain : ∀ word ∈ words, word.isPlain = true)
    (depth : Nat) : words.foldl depthBehind depth = depth := by
  induction words with
  | nil => rfl
  | cons word rest ih =>
      rw [List.foldl_cons, depthBehind_plain (plain word List.mem_cons_self)]
      exact ih fun other member => plain other (List.mem_cons_of_mem _ member)

end Word

/-! ## Words of import statements -/

def Name.word (name : Name) : Word := .name name.text name.spelled name.notReserved

/-- Names behind dots. -/
def dotted (names : List Name) : List Word :=
  names.flatMap fun name => [.mark .dot, name.word]

def Dotted.words (module : Dotted) : List Word := module.first.word :: dotted module.more

/-- A second name behind a thing. -/
def labelWords : Option Name -> List Word
  | none => []
  | some name => [.keyword "as" (by decide), name.word]

def Renamed.words (renamed : Renamed) : List Word :=
  renamed.target.words ++ labelWords renamed.rename

/-- Rows of words, each behind a comma. -/
def behindCommas (rows : List (List Word)) : List Word :=
  rows.flatMap fun row => .mark .comma :: row

def Origin.words : Origin -> List Word
  | .absolute module => module.words
  | .relative more module =>
    .mark .dot :: List.replicate more (.mark .dot) ++ module.elim [] Dotted.words

def Selection.words : Selection -> List Word
  | .everything => [.mark .star]
  | .members first more =>
    first.renamed.words ++ behindCommas (more.map fun member => member.renamed.words)

/-! ## Sentences -/

/-- The words of one line.  All brackets are closed at its end. -/
structure Sentence where
  first : Word
  more : List Word
  balanced : (first :: more).foldl Word.depthBehind 0 = 0

def Sentence.words (sentence : Sentence) : List Word := sentence.first :: sentence.more

/-- A sentence without brackets. -/
def Sentence.plain (first : Word) (more : List Word)
    (plain : ∀ word ∈ first :: more, word.isPlain = true) : Sentence :=
  ⟨first, more, Word.foldl_depthBehind plain 0⟩

theorem plain_dotted {names : List Name} : ∀ word ∈ dotted names, word.isPlain = true := by
  intro word member
  rcases List.mem_flatMap.1 member with ⟨name, _, within⟩
  simp only [List.mem_cons, List.not_mem_nil, or_false] at within
  rcases within with rfl | rfl <;> rfl

theorem plain_words {module : Dotted} : ∀ word ∈ module.words, word.isPlain = true :=
  List.forall_mem_cons.2 ⟨rfl, plain_dotted⟩

theorem plain_label {rename : Option Name} : ∀ word ∈ labelWords rename, word.isPlain = true := by
  cases rename with
  | none => exact nofun
  | some name => simp [labelWords, Word.isPlain, Name.word]

theorem plain_renamed {renamed : Renamed} : ∀ word ∈ renamed.words, word.isPlain = true :=
  List.forall_mem_append.2 ⟨plain_words, plain_label⟩

theorem plain_behindCommas {rows : List (List Word)}
    (plain : ∀ row ∈ rows, ∀ word ∈ row, word.isPlain = true) :
    ∀ word ∈ behindCommas rows, word.isPlain = true := by
  intro word member
  rcases List.mem_flatMap.1 member with ⟨row, stands, within⟩
  rcases List.mem_cons.1 within with rfl | within
  · rfl
  · exact plain row stands word within

theorem plain_origin {origin : Origin} : ∀ word ∈ origin.words, word.isPlain = true := by
  cases origin with
  | absolute module => exact plain_words
  | relative more module =>
      refine List.forall_mem_append.2 ⟨List.forall_mem_cons.2 ⟨rfl, ?_⟩, ?_⟩
      · intro word member
        rw [List.eq_of_mem_replicate member]
        rfl
      · cases module with
        | none => exact nofun
        | some module => exact plain_words

theorem plain_selection {selection : Selection} : ∀ word ∈ selection.words, word.isPlain = true := by
  cases selection with
  | everything => simp [Selection.words, Word.isPlain]
  | members first more =>
      refine List.forall_mem_append.2 ⟨plain_renamed, plain_behindCommas ?_⟩
      intro row member
      rcases List.mem_map.1 member with ⟨other, _, rfl⟩
      exact plain_renamed

def passSentence : Sentence := ⟨.keyword "pass" (by decide), [], rfl⟩

def importSentence (first : Renamed) (more : List Renamed) : Sentence :=
  .plain (.keyword "import" (by decide)) (first.words ++ behindCommas (more.map Renamed.words))
    (List.forall_mem_cons.2 ⟨rfl, List.forall_mem_append.2 ⟨plain_renamed, plain_behindCommas
      (List.forall_mem_map.2 fun _ _ => plain_renamed)⟩⟩)

def fromSentence (origin : Origin) (selection : Selection) : Sentence :=
  .plain (.keyword "from" (by decide))
    (origin.words ++ .keyword "import" (by decide) :: selection.words)
    (List.forall_mem_cons.2 ⟨rfl, List.forall_mem_append.2 ⟨plain_origin,
      List.forall_mem_cons.2 ⟨rfl, plain_selection⟩⟩⟩)

/-- Parameters between commas. -/
def parameterWords : List Name -> List Word
  | [] => []
  | first :: more => first.word :: behindCommas (more.map fun name => [name.word])

theorem plain_parameters {parameters : List Name} :
    ∀ word ∈ parameterWords parameters, word.isPlain = true := by
  cases parameters with
  | nil => exact nofun
  | cons first more =>
      refine List.forall_mem_cons.2 ⟨rfl, plain_behindCommas (List.forall_mem_map.2 ?_)⟩
      intro name _
      exact List.forall_mem_singleton.2 rfl

/-- A sentence that may begin with the mark of an asynchronous statement. -/
def asyncSentence (async : Bool) (first : Word) (more : List Word)
    (balanced : (first :: more).foldl Word.depthBehind 0 = 0) : Sentence :=
  if async then ⟨.keyword "async" (by decide), first :: more, balanced⟩ else ⟨first, more, balanced⟩

def Definition.sentence : Definition -> Sentence
  | .function async name parameters =>
    asyncSentence async (.keyword "def" (by decide))
      (name.word :: .mark .opening :: parameterWords parameters ++ [.mark .closing, .mark .colon])
      (by
        rw [List.foldl_cons, List.cons_append, List.foldl_cons, List.cons_append, List.foldl_cons,
          List.foldl_append, Word.foldl_depthBehind plain_parameters]
        rfl)
  | .classOf name => ⟨.keyword "class" (by decide), [name.word, .mark .colon], rfl⟩

def Header.sentence : Header -> Sentence
  | .conditional condition =>
    ⟨.keyword "if" (by decide), [condition.word, .mark .colon], rfl⟩
  | .forEach async target source =>
    asyncSentence async (.keyword "for" (by decide))
      [target.word, .keyword "in" (by decide), source.word, .mark .colon] rfl
  | .whileTrue condition =>
    ⟨.keyword "while" (by decide), [condition.word, .mark .colon], rfl⟩
  | .attempt => ⟨.keyword "try" (by decide), [.mark .colon], rfl⟩
  | .manage async manager rename =>
    asyncSentence async (.keyword "with" (by decide))
      (manager.word :: labelWords rename ++ [.mark .colon]) (by cases rename <;> rfl)
  | .define definition => definition.sentence

def Clause.sentence : Clause -> Sentence
  | .elseIf condition =>
    ⟨.keyword "elif" (by decide), [condition.word, .mark .colon], rfl⟩
  | .otherwise => ⟨.keyword "else" (by decide), [.mark .colon], rfl⟩
  | .handler => ⟨.keyword "except" (by decide), [.mark .colon], rfl⟩
  | .handlerOf caught rename =>
    ⟨.keyword "except" (by decide), caught.word :: labelWords rename ++ [.mark .colon], by
      cases rename <;> rfl⟩
  | .atLast => ⟨.keyword "finally" (by decide), [.mark .colon], rfl⟩

def decoratorSentence (decorator : Name) : Sentence :=
  ⟨.mark .sign, [decorator.word], rfl⟩

def choiceSentence (subject : Name) : Sentence :=
  ⟨.name "match" (by decide) (by decide), [subject.word, .mark .colon], rfl⟩

def caseSentence (pattern : Name) : Sentence :=
  ⟨.name "case" (by decide) (by decide), [pattern.word, .mark .colon], rfl⟩

/-! ## Lines -/

/-- A sentence with the level of its indentation. -/
structure Line where
  level : Nat
  sentence : Sentence

mutual

/-- The lines of a statement at a level. -/
def Statement.lines (level : Nat) : Statement -> List Line
  | .pass => [⟨level, passSentence⟩]
  | .importModules first more => [⟨level, importSentence first more⟩]
  | .importFrom origin selection => [⟨level, fromSentence origin selection⟩]
  | .compound header body clauses =>
    ⟨level, header.sentence⟩ :: body.lines (level + 1) ++ clauses.lines level
  | .decorated first more definition body =>
    ⟨level, decoratorSentence first⟩ :: more.map (fun decorator => ⟨level, decoratorSentence decorator⟩) ++
      ⟨level, definition.sentence⟩ :: body.lines (level + 1)
  | .choice subject cases => ⟨level, choiceSentence subject⟩ :: cases.lines (level + 1)

def Block.lines (level : Nat) : Block -> List Line
  | .last statement => statement.lines level
  | .cons statement rest => statement.lines level ++ rest.lines level

def Clauses.lines (level : Nat) : {stage : Stage} -> Clauses stage -> List Line
  | _, .done _ => []
  | _, .cons clause _ body rest =>
    ⟨level, clause.sentence⟩ :: body.lines (level + 1) ++ rest.lines level

def Cases.lines (level : Nat) : Cases -> List Line
  | .last pattern body => ⟨level, caseSentence pattern⟩ :: body.lines (level + 1)
  | .cons pattern body rest =>
    ⟨level, caseSentence pattern⟩ :: body.lines (level + 1) ++ rest.lines level

end

def Program.lines : Program -> List Line
  | .empty => []
  | .block body => body.lines 0

/-! ## Texts -/

/-- Words with blanks between them, and at least one blank between words that would run
together. -/
inductive Spaced : Word -> List Word -> List Char -> Prop
  | last (word : Word) : Spaced word [] word.characters
  | next {word following : Word} {rest : List Word} {gap text : List Char}
      (blank : ∀ c ∈ gap, Source.isBlank c = true)
      (apart : word.joins following = true -> gap ≠ [])
      (behind : Spaced following rest text) :
      Spaced word (following :: rest) (word.characters ++ (gap ++ text))

/-- Lines one below the other, each with four spaces for each level. -/
inductive Printed : List Line -> List Char -> Prop
  | nil : Printed [] []
  | cons {line : Line} {rest : List Line} {text below : List Char}
      (spaced : Spaced line.sentence.first line.sentence.more text)
      (behind : Printed rest below) :
      Printed (line :: rest) (List.replicate (4 * line.level) ' ' ++ (text ++ '\n' :: below))

/-- A text of a program. -/
def Program.PrintsAs (program : Program) (text : List Char) : Prop := Printed program.lines text

end Skeleton
end ImportCensus

import ImportCensus.Source.Reader

namespace ImportCensus
namespace Source

/-!
# What readers find

A statement about a reader of the grammar says that everything it finds is good,
whatever it is given to read.  Such statements follow the reader's own shape: a
reader that goes on with what another has found is answered for by answering for
the first and then for the second.

The property followed here is that the tokens which stand under their own
spelling cannot be mistaken for import statements.  A reader takes such a token
only behind a test of its spelling, so that the feed before the test decides it.
-/

/-- The names of the kinds of import statements. -/
def importKindNames : List String :=
  ["import_statement", "import_from_statement", "future_import_statement"]

/-- A spelling that is not the name of a kind of import statement. -/
def Apart (text : String) : Prop := importKindNames.contains text = false

namespace Phrase

mutual

/-- No token of a phrase that stands under its own spelling is spelled like the
name of a kind of import statement. -/
def Apart : Phrase -> Prop
  | .leaf none token => Source.Apart token.text
  | .leaf (some _) _ => True
  | .node _ _ parts => AllApart parts
  | .inRole _ phrase => phrase.Apart

def AllApart : List Phrase -> Prop
  | [] => True
  | phrase :: rest => phrase.Apart ∧ AllApart rest

end

variable {kind : Syntax.PhraseKind} {span : Text.Span} {token : Token} {role : Syntax.Role}

@[simp] theorem apart_token : (leaf none token).Apart ↔ Source.Apart token.text := by
  rw [Apart]

@[simp] theorem apart_kind : (leaf (some kind) token).Apart := by
  rw [Apart]
  trivial

@[simp] theorem apart_node {parts : List Phrase} :
    (node kind span parts).Apart ↔ AllApart parts := by
  rw [Apart]

@[simp] theorem apart_inRole {phrase : Phrase} : (inRole role phrase).Apart ↔ phrase.Apart := by
  rw [Apart]

@[simp] theorem allApart_nil : AllApart [] := by
  rw [AllApart]
  trivial

@[simp] theorem allApart_cons {head : Phrase} {tail : List Phrase} :
    AllApart (head :: tail) ↔ head.Apart ∧ AllApart tail := by
  rw [AllApart]

theorem allApart_single {phrase : Phrase} : AllApart [phrase] ↔ phrase.Apart := by
  simp

theorem allApart_iff {parts : List Phrase} : AllApart parts ↔ ∀ part ∈ parts, part.Apart := by
  induction parts with
  | nil => simp
  | cons head tail ih => simp [ih]

@[simp] theorem allApart_append {first second : List Phrase} :
    AllApart (first ++ second) ↔ AllApart first ∧ AllApart second := by
  simp only [allApart_iff, List.mem_append, or_imp, forall_and]

@[simp] theorem apart_build {head : Phrase} {tail : List Phrase} :
    (build kind head tail).Apart ↔ head.Apart ∧ AllApart tail := by
  rw [build, apart_node, allApart_cons]

@[simp] theorem apart_over {parts : List Phrase} : (Phrase.over kind parts).Apart ↔ AllApart parts := by
  cases parts with
  | nil => simp [Phrase.over]
  | cons head tail => simp [Phrase.over]

@[simp] theorem apart_group {parts : List Phrase} : (group kind parts).Apart ↔ AllApart parts := by
  match parts with
  | [] => simp [group]
  | [single] => simp [group]
  | first :: second :: rest => simp [group]

/-- The parts of a phrase that is apart are apart. -/
theorem Apart.parts : {phrase : Phrase} -> phrase.Apart -> AllApart phrase.parts
  | .leaf _ _, _ => by simp [Phrase.parts]
  | .node _ _ _, apart => by simpa [Phrase.parts] using apart
  | .inRole _ phrase, apart => by
      rw [apart_inRole] at apart
      simpa [Phrase.parts] using apart.parts

end Phrase

/-- The next token of a feed may stand under its own spelling. -/
def Feed.Apart (feed : Feed) : Prop :=
  ∀ token, feed.ahead.head? = some token -> Source.Apart token.text

/-- The next token's spelling is known where it has been looked at. -/
theorem Feed.apart_of_head {feed : Feed} {token : Token} {text : String}
    (head : feed.ahead.head? = some token) (spelled : token.text = text)
    (apart : Source.Apart text) : feed.Apart := by
  intro other same
  rw [head] at same
  cases same
  exact spelled ▸ apart

/-- All tokens ahead have a property. -/
def Feed.All (property : Token -> Prop) (feed : Feed) : Prop := ∀ token ∈ feed.ahead, property token

theorem Feed.All.of_suffix {property : Token -> Prop} {feed rest : Feed} (all : feed.All property)
    (left : rest.ahead <:+ feed.ahead) : rest.All property :=
  fun token member => all token (left.mem member)

namespace Reader

variable {α β : Type} {feed : Feed} {reader : Reader α} {next : α -> Reader β}
  {good : α -> Prop} {fine : β -> Prop} {property : Token -> Prop}

/-- Everything that a reader finds at the beginning of a feed is good, and what it
leaves is an end of the feed. -/
def FindsAt (feed : Feed) (reader : Reader α) (good : α -> Prop) : Prop :=
  ∀ found rest, reader feed = .ok (found, rest) -> good found ∧ rest.ahead <:+ feed.ahead

/-- Everything that a reader finds is good. -/
def Finds (reader : Reader α) (good : α -> Prop) : Prop := ∀ feed, FindsAt feed reader good

/-- Everything that a reader finds is good, as long as all tokens before it have a property. -/
def FindsIn (property : Token -> Prop) (reader : Reader α) (good : α -> Prop) : Prop :=
  ∀ feed, feed.All property -> FindsAt feed reader good

/-- A reader that leaves an end of its feed, whatever it finds. -/
class Forward (reader : Reader α) : Prop where
  finds : Finds reader fun _ => True

/-! ## Rules that follow the shape of a reader -/

theorem bind_eq_ok {result : β × Feed} : (reader >>= next) feed = .ok result ↔
    ∃ found middle, reader feed = .ok (found, middle) ∧ next found middle = .ok result := by
  simp only [bind, StateT.bind, Except.bind]
  cases read : reader feed with
  | error fault => simp
  | ok pair =>
      constructor
      · intro goesOn
        exact ⟨pair.1, pair.2, rfl, goesOn⟩
      · rintro ⟨found, middle, same, goesOn⟩
        cases same
        exact goesOn

theorem FindsAt.imp {better : α -> Prop} (finds : FindsAt feed reader better)
    (implies : ∀ found, better found -> good found) : FindsAt feed reader good := by
  intro found rest reads
  have read := finds found rest reads
  exact ⟨implies found read.1, read.2⟩

theorem FindsAt.bind (first : FindsAt feed reader good)
    (onward : ∀ found, good found -> Finds (next found) fine) :
    FindsAt feed (reader >>= next) fine := by
  intro found rest reads
  rcases bind_eq_ok.1 reads with ⟨middle, feed', read, goesOn⟩
  have before := first middle feed' read
  have behind := onward middle before.1 feed' found rest goesOn
  exact ⟨behind.1, behind.2.trans before.2⟩

theorem FindsAt.ite {condition : Prop} [Decidable condition] {first second : Reader α}
    (holds : condition -> FindsAt feed first good) (fails : ¬condition -> FindsAt feed second good) :
    FindsAt feed (if condition then first else second) good := by
  split
  · exact holds ‹_›
  · exact fails ‹_›

/-- A reader that only looks at the feed is followed by its answer there. -/
theorem FindsAt.ask {answer : α} (asked : reader feed = .ok (answer, feed))
    (onward : FindsAt feed (next answer) fine) : FindsAt feed (reader >>= next) fine := by
  intro found rest reads
  rcases bind_eq_ok.1 reads with ⟨middle, feed', read, goesOn⟩
  rw [asked] at read
  cases read
  exact onward found rest goesOn

theorem Finds.imp {better : α -> Prop} (finds : Finds reader better)
    (implies : ∀ found, better found -> good found) : Finds reader good :=
  fun feed => (finds feed).imp implies

theorem Finds.pure {value : α} (holds : good value) : Finds (Pure.pure value) good := by
  intro feed found rest reads
  cases reads
  exact ⟨holds, List.suffix_rfl⟩

theorem Finds.fail : Finds (fail : Reader α) good := by
  intro feed found rest reads
  cases reads

theorem Finds.error {fault : Feed -> Fault} :
    Finds (fun feed => .error (fault feed) : Reader α) good := by
  intro feed found rest reads
  cases reads

theorem Finds.bind (first : Finds reader good)
    (onward : ∀ found, good found -> Finds (next found) fine) : Finds (reader >>= next) fine :=
  fun feed => (first feed).bind onward

/-- What a reader finds may be of no account for what comes behind it. -/
theorem Finds.anyway [forward : Forward reader] (onward : ∀ found, Finds (next found) fine) :
    Finds (reader >>= next) fine :=
  forward.finds.bind fun found _ => onward found

theorem Finds.ite {condition : Prop} [Decidable condition] {first second : Reader α}
    (holds : Finds first good) (fails : Finds second good) :
    Finds (if condition then first else second) good := by
  split
  · exact holds
  · exact fails

theorem Finds.within (finds : Finds reader good) : FindsIn property reader good :=
  fun feed _ => finds feed

theorem FindsIn.everywhere (finds : FindsIn (fun _ => True) reader good) : Finds reader good :=
  fun feed => finds feed fun _ _ => trivial

theorem FindsIn.imp {better : α -> Prop} (finds : FindsIn property reader better)
    (implies : ∀ found, better found -> good found) : FindsIn property reader good :=
  fun feed all => (finds feed all).imp implies

/-- What is left behind a reader has the property too. -/
theorem FindsAt.bindIn (first : FindsAt feed reader good) (all : feed.All property)
    (onward : ∀ found, good found -> FindsIn property (next found) fine) :
    FindsAt feed (reader >>= next) fine := by
  intro found rest reads
  rcases bind_eq_ok.1 reads with ⟨middle, feed', read, goesOn⟩
  have before := first middle feed' read
  have behind := onward middle before.1 feed' (all.of_suffix before.2) found rest goesOn
  exact ⟨behind.1, behind.2.trans before.2⟩

theorem FindsIn.bind (first : FindsIn property reader good)
    (onward : ∀ found, good found -> FindsIn property (next found) fine) :
    FindsIn property (reader >>= next) fine :=
  fun feed all => (first feed all).bindIn all onward

theorem FindsIn.anyway [forward : Forward reader]
    (onward : ∀ found, FindsIn property (next found) fine) : FindsIn property (reader >>= next) fine :=
  forward.finds.within.bind fun found _ => onward found

theorem FindsIn.ite {condition : Prop} [Decidable condition] {first second : Reader α}
    (holds : FindsIn property first good) (fails : FindsIn property second good) :
    FindsIn property (if condition then first else second) good := by
  split
  · exact holds
  · exact fails

theorem FindsAt.orElse {first second : Reader α} (one : FindsAt feed first good)
    (other : FindsAt feed second good) : FindsAt feed (orElse first second) good := by
  intro found rest reads
  unfold Reader.orElse at reads
  cases tried : first feed with
  | ok result =>
      rw [tried] at reads
      cases reads
      exact one found rest tried
  | error fault =>
      rw [tried] at reads
      exact other found rest reads

/-- A reader that only looks at the feed leaves all of it. -/
theorem Forward.of_answer {answer : Feed -> α} (asked : ∀ feed, reader feed = .ok (answer feed, feed)) :
    Forward reader where
  finds feed found rest reads := by
    rw [asked feed] at reads
    cases reads
    exact ⟨trivial, List.suffix_rfl⟩

instance : Forward (get : Reader Feed) := .of_answer fun _ => rfl

instance : Forward peek := .of_answer fun _ => rfl

instance {kind : LexemeKind} {text : String} : Forward (isNext kind text) := .of_answer fun _ => rfl

instance {kind : LexemeKind} {text : String} : Forward (isSecond kind text) := .of_answer fun _ => rfl

instance {text : String} : Forward (atSymbol text) := .of_answer fun _ => rfl

instance {text : String} : Forward (atWord text) := .of_answer fun _ => rfl

instance {test : Token -> Bool} : Forward (Reader.next test) := .of_answer fun _ => rfl

instance : Forward count := .of_answer fun _ => rfl

instance : Forward atEnd := .of_answer fun _ => rfl

/-- A reader that goes on from the next token, which it has left where it is. -/
theorem Finds.peeked {behind : Option Token -> Reader β}
    (finds : ∀ feed : Feed, FindsAt feed (behind feed.ahead.head?) fine) :
    Finds (peek >>= behind) fine :=
  fun feed => .ask rfl (finds feed)

theorem text_of_is {token : Token} {kind : LexemeKind} {text : String}
    (is : token.is kind text = true) : token.text = text := by
  unfold Token.is at is
  rw [Bool.and_eq_true, beq_iff_eq, beq_iff_eq] at is
  exact is.2

/-- A branch that is taken where the next token satisfies a test. -/
theorem FindsIn.onNext {test : Token -> Bool} {first second : Reader α}
    (apart : ∀ token, test token = true -> Apart token.text)
    (holds : ∀ feed, feed.All property -> feed.Apart -> FindsAt feed first good)
    (fails : FindsIn property second good) :
    FindsIn property (Reader.next test >>= fun answer => if answer then first else second) good := by
  intro feed all
  refine .ask rfl (.ite ?_ fun _ => fails feed all)
  intro sees
  apply holds feed all
  intro token head
  rw [head] at sees
  exact apart token sees

theorem Finds.onNext {test : Token -> Bool} {first second : Reader α}
    (apart : ∀ token, test token = true -> Apart token.text)
    (holds : ∀ feed, feed.Apart -> FindsAt feed first good) (fails : Finds second good) :
    Finds (Reader.next test >>= fun answer => if answer then first else second) good :=
  (FindsIn.onNext apart (fun feed _ => holds feed) fails.within).everywhere

/-- A branch that is taken where the next token has a spelling. -/
theorem FindsIn.at {kind : LexemeKind} {text : String} {first second : Reader α}
    (apart : Apart text)
    (holds : ∀ feed, feed.All property -> feed.Apart -> FindsAt feed first good)
    (fails : FindsIn property second good) :
    FindsIn property (isNext kind text >>= fun answer => if answer then first else second) good := by
  refine FindsIn.onNext ?_ holds fails
  intro token is
  exact text_of_is is ▸ apart

theorem Finds.at {kind : LexemeKind} {text : String} {first second : Reader α}
    (apart : Apart text) (holds : ∀ feed, feed.Apart -> FindsAt feed first good)
    (fails : Finds second good) :
    Finds (isNext kind text >>= fun answer => if answer then first else second) good :=
  (FindsIn.at apart (fun feed _ => holds feed) fails.within).everywhere

/-! ## Single tokens -/

/-- Taking a token leaves the tokens behind it. -/
theorem take_head : FindsAt feed take fun token => feed.ahead.head? = some token := by
  intro token rest reads
  rcases feed with ⟨behind, ahead⟩
  cases ahead with
  | nil => cases reads
  | cons token tokens =>
      cases reads
      exact ⟨rfl, List.suffix_cons token tokens⟩

instance : Forward take where
  finds _ := take_head.imp fun _ _ => trivial

instance : Forward plain where
  finds := .anyway fun _ => .pure trivial

instance {text : String} : Forward (symbol text) where
  finds := .anyway fun _ => .ite Forward.finds .fail

instance {text : String} : Forward (word? text) where
  finds := .anyway fun _ => .ite (.anyway fun _ => .pure trivial) (.pure trivial)

instance : Forward finish where
  finds := .anyway fun _ => .ite (.pure trivial) .fail

theorem take_apart (apart : feed.Apart) : FindsAt feed take fun token => Apart token.text :=
  take_head.imp apart

theorem plain_head : FindsAt feed plain fun found =>
    ∃ token, found = .leaf none token ∧ feed.ahead.head? = some token :=
  take_head.bind fun token head => .pure ⟨token, rfl, head⟩

theorem plain_token (apart : feed.Apart) :
    FindsAt feed plain fun found => ∃ token, found = .leaf none token ∧ Apart token.text :=
  plain_head.imp fun _ ⟨token, same, head⟩ => ⟨token, same, apart token head⟩

theorem plain_apart (apart : feed.Apart) : FindsAt feed plain Phrase.Apart :=
  (take_apart apart).bind fun _ apart => .pure (Phrase.apart_token.2 apart)

/-- A branch that begins by taking the token it has been tested for. -/
theorem Finds.taken {kind : LexemeKind} {text : String} {here : Phrase -> Reader α}
    {second : Reader α} (apart : Apart text)
    (holds : ∀ found, found.Apart -> Finds (here found) good) (fails : Finds second good) :
    Finds (isNext kind text >>= fun answer => if answer then plain >>= here else second) good :=
  .at apart (fun _ sees => (plain_apart sees).bind holds) fails

theorem FindsIn.taken {kind : LexemeKind} {text : String} {here : Phrase -> Reader α}
    {second : Reader α} (apart : Apart text)
    (holds : ∀ found, found.Apart -> FindsIn property (here found) good)
    (fails : FindsIn property second good) :
    FindsIn property
      (isNext kind text >>= fun answer => if answer then plain >>= here else second) good :=
  .at apart (fun _ all sees => (plain_apart sees).bindIn all holds) fails

/-- A branch that also depends on something settled before. -/
theorem Finds.takenIf {settled : Bool} {kind : LexemeKind} {text : String}
    {here : Phrase -> Reader α} {second : Reader α}
    (apart : Apart text) (holds : ∀ found, found.Apart -> Finds (here found) good)
    (fails : Finds second good) :
    Finds (isNext kind text >>= fun answer =>
      if (settled && answer) = true then plain >>= here else second) good := by
  cases settled with
  | false => exact .anyway fun _ => fails
  | true => exact .taken apart holds fails

theorem expect_apart {kind : LexemeKind} {text : String} (apart : Apart text) :
    Finds (expect kind text) Phrase.Apart :=
  .at apart (fun _ => plain_apart) .fail

theorem expect_token {kind : LexemeKind} {text : String} (apart : Apart text) :
    Finds (expect kind text) fun found => ∃ token, found = .leaf none token ∧ Apart token.text :=
  .at apart (fun _ => plain_token) .fail

theorem symbol_apart {text : String} (apart : Apart text) :
    Finds (symbol text) Phrase.Apart := expect_apart apart

theorem word_apart {text : String} (apart : Apart text) :
    Finds (word text) Phrase.Apart := expect_apart apart

/-- A token that may be missing has its spelling. -/
theorem symbol?_spelled {text : String} : Finds (symbol? text) fun found =>
    ∀ part, found = some part -> ∃ token, part = .leaf none token ∧ token.text = text := by
  intro feed
  refine .ask rfl (.ite (fun sees => ?_) fun _ => Finds.pure nofun feed)
  refine plain_head.bind ?_
  rintro _ ⟨token, rfl, head⟩
  refine .pure ?_
  rintro _ ⟨rfl⟩
  rw [head] at sees
  exact ⟨token, rfl, text_of_is sees⟩

theorem symbol?_apart {text : String} (apart : Apart text) :
    Finds (symbol? text) fun found => Phrase.AllApart found.toList :=
  .taken apart (fun _ taken => .pure (by simpa using taken)) (.pure (by simp))

theorem word?_apart {text : String} (apart : Apart text) :
    Finds (word? text) fun found => Phrase.AllApart found.toList :=
  .taken apart (fun _ taken => .pure (by simpa using taken)) (.pure (by simp))

theorem named_apart {kind : Syntax.PhraseKind} : Finds (named kind) Phrase.Apart :=
  .anyway fun _ => .pure Phrase.apart_kind

/-- A name is read from one of the tokens ahead. -/
theorem identifier_name : FindsIn property identifier fun found =>
    ∃ token, found = .leaf (some .identifier) token ∧ token.kind = .name ∧ property token := by
  intro feed all
  refine .ask rfl ?_
  cases head : feed.ahead.head? with
  | none => exact Finds.fail feed
  | some token =>
      refine .ite (fun kind => ?_) fun _ => Finds.fail feed
      apply take_head.bind
      intro taken same
      refine .pure ?_
      rw [head] at same
      cases same
      exact ⟨token, rfl, kind, all token (List.mem_of_head? head)⟩

theorem identifier_leaf :
    Finds identifier fun found => ∃ token, found = .leaf (some .identifier) token :=
  identifier_name.everywhere.imp fun _ ⟨token, same, _⟩ => ⟨token, same⟩

theorem identifier_apart : Finds identifier Phrase.Apart := by
  refine .imp identifier_leaf ?_
  rintro _ ⟨token, rfl⟩
  exact Phrase.apart_kind

theorem ahead_of_identifier {name : Phrase} {rest : Feed}
    (reads : identifier feed = .ok (name, rest)) : rest.ahead = feed.ahead.tail := by
  rcases feed with ⟨behind, ahead⟩
  cases ahead with
  | nil => cases reads
  | cons token tokens =>
      unfold identifier at reads
      rcases bind_eq_ok.1 reads with ⟨_, _, looked, goesOn⟩
      cases looked
      dsimp only [List.head?_cons] at goesOn
      split at goesOn
      · cases goesOn
        rfl
      · cases goesOn

/-- A branch that takes a name and the token behind it, which it has been tested for. -/
theorem Finds.nameBefore {test : Token -> Bool} {kind : LexemeKind} {text : String}
    {here : Phrase -> Phrase -> Reader α} {second : Reader α}
    (apart : Apart text)
    (holds : ∀ name sign, name.Apart -> sign.Apart -> Finds (here name sign) good)
    (fails : Finds second good) :
    Finds (Reader.next test >>= fun first => isSecond kind text >>= fun behind =>
      if (first && behind) = true then identifier >>= fun name => plain >>= here name
      else second) good := by
  intro feed
  refine .ask rfl (.ask rfl (.ite ?_ fun _ => fails feed))
  intro sees found rest reads
  rcases bind_eq_ok.1 reads with ⟨name, afterName, readName, reads⟩
  have named := identifier_apart feed name afterName readName
  have sees : afterName.Apart := by
    intro token head
    rw [ahead_of_identifier readName] at head
    simp only [head, Option.any_some, Bool.and_eq_true] at sees
    exact text_of_is sees.2 ▸ apart
  have behind := (plain_apart sees).bind (fun sign => holds name sign named.1) found rest reads
  exact ⟨behind.1, behind.2.trans named.2⟩

theorem inRole_apart {role : Syntax.Role} {phrase : Reader Phrase}
    (finds : Finds phrase Phrase.Apart) : Finds (inRole role phrase) Phrase.Apart :=
  finds.bind fun _ apart => .pure (Phrase.apart_inRole.2 apart)

/-- A phrase that makes up a row of its own. -/
theorem single_apart {phrase : Reader Phrase} (finds : FindsAt feed phrase Phrase.Apart) :
    FindsAt feed (do return [← phrase]) Phrase.AllApart :=
  finds.bind fun _ apart => .pure (Phrase.allApart_single.2 apart)

/-- A closing bracket behind parts makes a node of an opening one. -/
theorem closed_apart {kind : Syntax.PhraseKind} {opening : Phrase} {parts : List Phrase}
    {text : String} (apart : Apart text) (openingApart : opening.Apart)
    (partsApart : Phrase.AllApart parts) :
    Finds (do
      let closing ← symbol text
      return Phrase.build kind opening (parts ++ [closing])) Phrase.Apart := by
  apply Finds.bind (symbol_apart apart)
  intro closing closingApart
  exact .pure (by simp [*])

/-! ## Rows -/

section Rows

variable {element : Reader Phrase} {part : Phrase -> Prop} {starts : Token -> Bool}

theorem commaTail_all (elements : FindsIn property element part)
    (commas : Finds (symbol? ",") fun found => ∀ comma, found = some comma -> part comma)
    (limit : Nat) :
    FindsIn property (commaTail starts element limit) fun parts => ∀ one ∈ parts, part one := by
  induction limit with
  | zero => exact Finds.within (.pure (by simp))
  | succ limit ih =>
      apply commas.within.bind
      intro comma fits
      cases comma with
      | none => exact Finds.within (.pure (by simp))
      | some comma =>
          apply FindsIn.anyway
          intro _
          refine .ite ?_ (Finds.within (.pure (by simpa using fits)))
          apply elements.bind
          intro first firstFits
          apply ih.bind
          intro rest restFits
          exact Finds.within (.pure (by simp_all))

theorem commaList_all (elements : FindsIn property element part)
    (commas : Finds (symbol? ",") fun found => ∀ comma, found = some comma -> part comma) :
    FindsIn property (commaList starts element) fun parts => ∀ one ∈ parts, part one := by
  apply elements.bind
  intro first firstFits
  apply FindsIn.anyway
  intro limit
  apply (commaTail_all elements commas limit).bind
  intro rest restFits
  exact Finds.within (.pure (by simp_all))

theorem comma_apart : Finds (symbol? ",") fun found => ∀ comma, found = some comma -> comma.Apart := by
  refine .imp symbol?_spelled ?_
  rintro _ tokens comma found
  rcases tokens comma found with ⟨token, rfl, spelled⟩
  exact Phrase.apart_token.2 (spelled ▸ rfl)

theorem commaTail_apart (elements : Finds element Phrase.Apart) (limit : Nat) :
    Finds (commaTail starts element limit) Phrase.AllApart :=
  (commaTail_all elements.within comma_apart limit).everywhere.imp fun _ => Phrase.allApart_iff.2

theorem commaList_apart (elements : Finds element Phrase.Apart) :
    Finds (commaList starts element) Phrase.AllApart :=
  (commaList_all elements.within comma_apart).everywhere.imp fun _ => Phrase.allApart_iff.2

theorem strictCommaTail_apart (elements : Finds element Phrase.Apart) (limit : Nat) :
    Finds (strictCommaTail element limit) Phrase.AllApart := by
  induction limit with
  | zero => exact .pure Phrase.allApart_nil
  | succ limit ih =>
      refine .bind (symbol?_apart rfl) fun comma apart => ?_
      cases comma with
      | none => exact .pure Phrase.allApart_nil
      | some comma =>
          apply elements.bind
          intro first firstApart
          apply ih.bind
          intro rest restApart
          exact .pure (by simp_all)

theorem strictCommaList_apart (elements : Finds element Phrase.Apart) :
    Finds (strictCommaList element) Phrase.AllApart := by
  apply elements.bind
  intro first firstApart
  apply Finds.anyway
  intro limit
  apply (strictCommaTail_apart elements limit).bind
  intro rest restApart
  exact .pure (by simp_all)

end Rows

end Reader

end Source
end ImportCensus

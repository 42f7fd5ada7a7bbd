import ImportCensus.CommandLine.Usage
import ImportCensus.Number.Numeral

namespace ImportCensus
namespace CommandLine

/-!
# Arguments

Arguments are first told apart into flags and plain words, and then taken in
order.  A flag may be shortened as long as no other one begins in the same way, a
value may follow it behind an equals sign, and flags of one letter may be joined.
Behind two dashes all words are plain.  The first plain word is the root; others
are not recognized.
-/

/-- A flag as it was found in a word, with a value that the word holds as well. -/
structure Found where
  flag : Flag
  spelling : String
  /-- Whether an equals sign stands in front of the value. -/
  isJoined : Bool
  value : Option String
  deriving DecidableEq, Repr

inductive Word where
  /-- The two dashes behind which all words are plain. -/
  | separator
  | plain (text : String)
  | flag (text : String) (found : Found)
  /-- A word that looks like a flag but is none. -/
  | unknown (text : String)
  deriving DecidableEq, Repr

namespace Word

def text : Word -> String
  | .separator => "--"
  | .plain text | .flag text _ | .unknown text => text

/-- Whether a word is taken as a flag, known or not. -/
def isFlag : Word -> Bool
  | .flag _ _ | .unknown _ => true
  | _ => false

end Word

/-! ## Telling flags and plain words apart -/

/-- A text up to the first equals sign, and what follows it if there is one. -/
def splitEquals (text : List Char) : List Char × Option (List Char) :=
  match text.dropWhile fun c => c != '=' with
  | [] => (text, none)
  | _ :: value => (text.takeWhile fun c => c != '=', some value)

/-- A text without the line feed at its end. -/
def withoutLineFeed (text : List Char) : List Char :=
  if text.getLast? = some '\n' then text.dropLast else text

/-- Whether a word is a negative number; a line feed may stand behind it. -/
def isNegativeNumber (word : List Char) : Bool :=
  match withoutLineFeed word with
  | '-' :: rest =>
    let isDigit (c : Char) : Bool := (Text.decimalValue? c).isSome
    match rest.dropWhile isDigit with
    | [] => !rest.isEmpty
    | '.' :: fraction => !fraction.isEmpty && fraction.all isDigit
    | _ => false
  | _ => false

/-- The flags that a word may stand for. -/
def candidates (word : List Char) : List Found :=
  match word with
  | '-' :: '-' :: _ =>
    let (start, value) := splitEquals word
    Flag.table.filterMap fun (spelling, flag) =>
      if start.isPrefixOf spelling.toList then
        some ⟨flag, spelling, value.isSome, value.map String.ofList⟩
      else none
  | _ =>
    Flag.table.filterMap fun (spelling, flag) =>
      if spelling.toList = word.take 2 then
        some ⟨flag, spelling, false, some (String.ofList (word.drop 2))⟩
      else if word.isPrefixOf spelling.toList then some ⟨flag, spelling, false, none⟩
      else none

/-- What a word in front of any separator is. -/
def Word.ofText (text : String) : Except UsageError Word :=
  let word := text.toList
  let (start, value) := splitEquals word
  match Flag.ofSpelling? text, Flag.ofSpelling? (String.ofList start), value with
  | some known, _, _ => .ok (.flag text ⟨known, text, false, none⟩)
  | none, some known, some value =>
    .ok (.flag text ⟨known, String.ofList start, true, some (String.ofList value)⟩)
  | _, _, _ =>
    if word.head? ≠ some '-' || word.length = 1 then .ok (.plain text)
    else match candidates word with
      | [found] => .ok (.flag text found)
      | [] =>
        if isNegativeNumber word || word.contains ' ' then .ok (.plain text)
        else .ok (.unknown text)
      | several => .error (.ambiguous text (several.map Found.spelling))

/-- What the words are. -/
def wordsOf : List String -> Except UsageError (List Word)
  | [] => .ok []
  | text :: rest =>
    if text = "--" then .ok (.separator :: rest.map Word.plain)
    else do
      let word ← Word.ofText text
      return word :: (← wordsOf rest)

/-! ## Taking the words in order -/

/-- What the arguments ask for. -/
structure Settings where
  root : Option String
  sort : Bool
  json : Bool
  workers : Option Int
  exclude : List String
  gitignore : Option Bool
  verbose : Bool
  deriving DecidableEq, Repr

def Settings.none : Settings := ⟨.none, false, false, .none, [], .none, false⟩

/-- Why reading the arguments stops before the end. -/
inductive Stop where
  | help
  | version
  | error (error : UsageError)
  deriving DecidableEq, Repr

/-- What has been taken so far: settings, and words that are not recognized. -/
structure Progress where
  settings : Settings
  extras : List String
  deriving DecidableEq, Repr

/-- Settings with a flag that takes no value. -/
def Settings.switch (settings : Settings) : Flag -> Except Stop Settings
  | .help => .error .help
  | .version => .error .version
  | .sort => .ok { settings with sort := true }
  | .json => .ok { settings with json := true }
  | .gitignore => .ok { settings with gitignore := some true }
  | .verbose => .ok { settings with verbose := true }
  | .workers | .exclude => .ok settings

/-- How many decimal digits are in a text. -/
def digitCount (text : List Char) : Nat := text.countP fun c => (Number.digitIn? 10 c).isSome

/-- The integer that a value spells, in no more digits than are read. -/
def integerOf? (value : String) : Option Int :=
  if digitCount value.toList ≤ Number.mostDigits then Number.integer? 10 value.toList else none

/-- Settings with the value of a flag. -/
def Settings.give (settings : Settings) (flag : Flag) (value : String) : Except Stop Settings :=
  match flag with
  | .workers =>
    match integerOf? value with
    | some number => .ok { settings with workers := some number }
    | .none => .error (.error (.noInteger flag value))
  | .exclude => .ok { settings with exclude := settings.exclude ++ [value] }
  | other => settings.switch other

/-- The flags joined in one word behind a flag of one letter, the word that is
left over, and the last of them with its value if it takes one. -/
structure Joined where
  switches : List Flag
  last : Option (Flag × String)
  extra : Option String
  deriving DecidableEq, Repr

/-- Take the letters behind a flag that takes no value apart. -/
def joinedFlags (flag : Flag) (isJoined : Bool) : List Char -> Except Stop Joined
  | [] => .ok ⟨[flag], none, none⟩
  | letter :: rest =>
    if isJoined || letter = '-' then
      .error (.error (.surplusValue flag (String.ofList (letter :: rest))))
    else match Flag.ofSpelling? (String.ofList ['-', letter]) with
      | none => .ok ⟨[flag], none, some (String.ofList ('-' :: letter :: rest))⟩
      | some next => do
        let joined ← match rest with
          | '=' :: value =>
            if value.isEmpty then .error (.error (.surplusValue next ""))
            else .error (.error (.surplusValue next (String.ofList value)))
          | _ => joinedFlags next false rest
        return { joined with switches := flag :: joined.switches }

/-- Take a word that holds a flag and its value. -/
def takeJoined (progress : Progress) (found : Found) (value : String) :
    Except Stop Progress := do
  if found.flag.takesValue then
    return { progress with settings := ← progress.settings.give found.flag value }
  else if found.spelling.length = 2 && value ≠ "" then
    let joined ← joinedFlags found.flag found.isJoined value.toList
    let settings ← joined.switches.foldlM Settings.switch progress.settings
    return ⟨settings, progress.extras ++ joined.extra.toList⟩
  else .error (.error (.surplusValue found.flag value))

/-- The words in front of the next flag. -/
def plainRun (words : List Word) : List Word := words.takeWhile fun word => !word.isFlag

/-- The root among some words without flags, and the words behind it: a separator
on either side of it is dropped. -/
def rootOf? (words : List Word) : Option (String × List Word) :=
  match words with
  | .plain text :: .separator :: rest => some (text, rest)
  | .plain text :: rest => some (text, rest)
  | .separator :: .plain text :: rest => some (text, rest)
  | _ => none

/-- Take words without flags. -/
def takePlain (progress : Progress) (words : List Word) : Progress :=
  match progress.settings.root, rootOf? words with
  | .none, some (text, rest) =>
    ⟨{ progress.settings with root := some text }, progress.extras ++ rest.map Word.text⟩
  | _, _ => { progress with extras := progress.extras ++ words.map Word.text }

/-- Take all words in order. -/
def takeAll (limit : Nat) (progress : Progress) (words : List Word) : Except Stop Progress :=
  match limit with
  | 0 => .ok progress
  | limit + 1 =>
    let run := plainRun words
    match words.drop run.length with
    | [] => .ok (takePlain progress run)
    | word :: rest => do
      let progress := takePlain progress run
      match word with
      | .flag _ found =>
        match found.value with
        | some value => takeAll limit (← takeJoined progress found value) rest
        | none =>
          if found.flag.takesValue then
            match rest with
            | .plain value :: rest =>
              takeAll limit { progress with settings := ← progress.settings.give found.flag value }
                rest
            | _ => .error (.error (.noValue found.flag))
          else
            takeAll limit { progress with settings := ← progress.settings.switch found.flag } rest
      | word => takeAll limit { progress with extras := progress.extras ++ [word.text] } rest

/-- What the arguments ask for; the root is always there. -/
structure Request where
  root : String
  settings : Settings
  deriving DecidableEq, Repr

/-- Read all arguments. -/
def readArguments (arguments : List String) : Except Stop Request := do
  let words ← match wordsOf arguments with
    | .ok words => .ok words
    | .error e => .error (.error e)
  let progress ← takeAll (words.length + 1) ⟨.none, []⟩ words
  match progress.settings.root with
  | none => .error (.error .noRoot)
  | some root =>
    if progress.extras.isEmpty then return ⟨root, progress.settings⟩
    else .error (.error (.unrecognized progress.extras))

end CommandLine
end ImportCensus

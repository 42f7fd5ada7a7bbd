import ImportCensus.CommandLine.Command
import ImportCensus.Proofs.Config.Loading
import ImportCensus.Proofs.Number.Numerals
import Mathlib.Data.List.TakeWhile

namespace ImportCensus
namespace CommandLine

/-!
# Flags in front of other arguments

Options can be given as flags, and the command reads them back from these flags whatever
arguments come behind (`readArguments_flagsOf`).  The words are taken one by one, and what
has been given before has no say in how the next one is taken; so reading the arguments
behind the flags comes to the same as reading them alone, with their settings laid over
the options in the end.
-/

variable {progress : Progress} {settings : Settings} {options : Config.Options}
  {words rest : List Word} {limit : Nat}

/-- Options as flags. -/
def flagsOf (options : Config.Options) : List String :=
  (match options.workers with
    | some n => ["--workers", toString n.toNat]
    | none => []) ++
  (options.exclude.map fun pattern => "--exclude=" ++ pattern) ++
  if options.gitignore then ["--gitignore"] else []

/-- The changes that the flags of some options ask for. -/
def changesOf (options : Config.Options) : Config.Overrides :=
  ⟨options.workers, options.exclude, if options.gitignore then some true else none⟩

/-! ## What was given before -/

/-- Settings behind those that were given before: patterns are added, all else is
replaced. -/
def Settings.over (settings : Settings) (before : Config.Overrides) : Settings :=
  { settings with
    workers := settings.workers.or before.workers
    exclude := before.exclude ++ settings.exclude
    gitignore := settings.gitignore.or before.gitignore }

def Progress.over (progress : Progress) (before : Config.Overrides) : Progress :=
  ⟨progress.settings.over before, progress.extras⟩

theorem Settings.switch_over (settings : Settings) (before : Config.Overrides) (flag : Flag) :
    (settings.over before).switch flag =
      (settings.switch flag).map fun later => later.over before := by
  cases flag <;> rfl

theorem Settings.give_over (settings : Settings) (before : Config.Overrides) (flag : Flag)
    (value : String) :
    (settings.over before).give flag value =
      (settings.give flag value).map fun later => later.over before := by
  cases flag with
  | workers =>
      unfold give
      cases integerOf? value <;> rfl
  | exclude =>
      simp only [Settings.give, Settings.over, Except.map, List.append_assoc]
  | _ => rfl

theorem Settings.switches_over (settings : Settings) (before : Config.Overrides)
    (flags : List Flag) :
    flags.foldlM switch (settings.over before) =
      (flags.foldlM switch settings).map fun later => later.over before := by
  induction flags generalizing settings with
  | nil => rfl
  | cons flag flags ih =>
      rw [List.foldlM_cons, List.foldlM_cons, switch_over]
      cases settings.switch flag with
      | error stop => rfl
      | ok later => exact ih later

theorem takeJoined_over (progress : Progress) (before : Config.Overrides) (found : Found)
    (value : String) :
    takeJoined (progress.over before) found value =
      (takeJoined progress found value).map fun later => later.over before := by
  have given : (progress.over before).settings = progress.settings.over before := rfl
  unfold takeJoined
  rw [given, Settings.give_over]
  split
  · cases progress.settings.give found.flag value <;> rfl
  · split
    · cases joinedFlags found.flag found.isJoined value.toList with
      | error stop => rfl
      | ok joined =>
          show (joined.switches.foldlM Settings.switch (progress.settings.over before) >>= _) = _
          rw [Settings.switches_over]
          show _ = Except.map _ (joined.switches.foldlM Settings.switch progress.settings >>= _)
          cases joined.switches.foldlM Settings.switch progress.settings <;> rfl
    · rfl

theorem takePlain_over (progress : Progress) (before : Config.Overrides) (words : List Word) :
    takePlain (progress.over before) words = (takePlain progress words).over before := by
  unfold takePlain
  have root : (progress.over before).settings.root = progress.settings.root := rfl
  rw [root]
  split <;> rfl

/-! ## One step -/

/-- Take a flag, with its value if it takes one, and go on behind it. -/
def takeFlag (limit : Nat) (progress : Progress) (found : Found) (rest : List Word) :
    Except Stop Progress :=
  match found.value with
  | some value => takeJoined progress found value >>= fun later => takeAll limit later rest
  | none =>
    if found.flag.takesValue then
      match rest with
      | .plain value :: rest =>
        progress.settings.give found.flag value >>= fun later =>
          takeAll limit ⟨later, progress.extras⟩ rest
      | _ => .error (.error (.noValue found.flag))
    else
      progress.settings.switch found.flag >>= fun later =>
        takeAll limit ⟨later, progress.extras⟩ rest

/-- The plain words in front of a flag are taken together, then the flag. -/
theorem takeAll_succ (limit : Nat) (progress : Progress) (words : List Word) :
    takeAll (limit + 1) progress words =
      let reached := takePlain progress (plainRun words)
      match words.drop (plainRun words).length with
      | [] => .ok reached
      | .flag _ found :: rest => takeFlag limit reached found rest
      | word :: rest => takeAll limit { reached with extras := reached.extras ++ [word.text] } rest := by
  rw [takeAll]
  cases words.drop (plainRun words).length with
  | nil => rfl
  | cons word rest => cases word <;> rfl

/-- The words are taken as they would be if nothing had been given before. -/
theorem takeAll_over (before : Config.Overrides) (limit : Nat) (progress : Progress)
    (words : List Word) :
    takeAll limit (progress.over before) words =
      (takeAll limit progress words).map fun later => later.over before := by
  induction limit generalizing progress words with
  | zero => rfl
  | succ limit ih =>
      have flag : ∀ (reached : Progress) (found : Found) (rest : List Word),
          takeFlag limit (reached.over before) found rest =
            (takeFlag limit reached found rest).map fun later => later.over before := by
        intro reached found rest
        have given : (reached.over before).settings = reached.settings.over before := rfl
        unfold takeFlag
        rw [given, Settings.switch_over]
        split
        · rename_i value _
          rw [takeJoined_over]
          cases takeJoined reached found value with
          | error stop => rfl
          | ok later => exact ih later rest
        · split
          · split
            · rename_i value rest
              rw [Settings.give_over]
              cases reached.settings.give found.flag value with
              | error stop => rfl
              | ok later => exact ih ⟨later, reached.extras⟩ rest
            · rfl
          · cases reached.settings.switch found.flag with
            | error stop => rfl
            | ok later => exact ih ⟨later, reached.extras⟩ rest
      rw [takeAll_succ, takeAll_succ]
      dsimp only
      rw [takePlain_over]
      generalize takePlain progress (plainRun words) = reached
      cases words.drop (plainRun words).length with
      | nil => rfl
      | cons word rest =>
          cases word with
          | flag text found => exact flag reached found rest
          | separator => exact ih ⟨reached.settings, reached.extras ++ [_]⟩ rest
          | plain text => exact ih ⟨reached.settings, reached.extras ++ [_]⟩ rest
          | unknown text => exact ih ⟨reached.settings, reached.extras ++ [_]⟩ rest

/-! ## The limit -/

/-- Each step takes a word, so that a limit beyond the number of words plays no part. -/
theorem takeAll_limit {other : Nat} (enough : words.length < limit) (alike : words.length < other) :
    takeAll limit progress words = takeAll other progress words := by
  induction limit generalizing other progress words with
  | zero => exact absurd enough (Nat.not_lt_zero _)
  | succ limit ih =>
      cases other with
      | zero => exact absurd alike (Nat.not_lt_zero _)
      | succ other =>
          rw [takeAll_succ, takeAll_succ]
          dsimp only
          cases dropped : words.drop (plainRun words).length with
          | nil => rfl
          | cons word rest =>
              have shorter : rest.length < words.length := by
                have count := congrArg List.length dropped
                rw [List.length_drop, List.length_cons] at count
                omega
              have fewer : ∀ (progress : Progress) (later : List Word),
                  later.length ≤ rest.length ->
                    takeAll limit progress later = takeAll other progress later := by
                intro progress later fewer
                exact ih (by omega) (by omega)
              have flag : ∀ (reached : Progress) (found : Found),
                  takeFlag limit reached found rest = takeFlag other reached found rest := by
                intro reached found
                unfold takeFlag
                split
                · exact bind_congr fun later => fewer later rest (Nat.le_refl _)
                · split
                  · split
                    · exact bind_congr fun later => fewer _ _ (Nat.le_succ _)
                    · rfl
                  · exact bind_congr fun later => fewer _ rest (Nat.le_refl _)
              cases word with
              | flag text found => exact flag _ found
              | separator => exact fewer _ rest (Nat.le_refl _)
              | plain text => exact fewer _ rest (Nat.le_refl _)
              | unknown text => exact fewer _ rest (Nat.le_refl _)

/-- Take words with a limit that is large enough. -/
def takeWords (progress : Progress) (words : List Word) : Except Stop Progress :=
  takeAll (words.length + 1) progress words

theorem takeWords_over (before : Config.Overrides) (progress : Progress) (words : List Word) :
    takeWords (progress.over before) words =
      (takeWords progress words).map fun later => later.over before :=
  takeAll_over before _ progress words

/-- A flag in front is taken first. -/
theorem takeWords_flag (progress : Progress) (text : String) (found : Found) (rest : List Word) :
    takeWords progress (.flag text found :: rest) =
      takeFlag (rest.length + 1) progress found rest := by
  have nothing : takePlain progress [] = progress := by
    have extras : progress.extras ++ ([] : List Word).map Word.text = progress.extras :=
      List.append_nil _
    unfold takePlain
    rw [show rootOf? [] = none from rfl, extras]
    cases progress.settings.root <;> rfl
  rw [takeWords, List.length_cons, takeAll_succ]
  show takeFlag (rest.length + 1) (takePlain progress []) found rest = _
  rw [nothing]

/-! ## The words of the flags -/

theorem ofSpelling?_eq_none {text : String} (other : ∀ found ∈ Flag.table, found.1 ≠ text) :
    Flag.ofSpelling? text = none := by
  have nowhere : Flag.table.find? (fun found => found.1 == text) = none := by
    rw [List.find?_eq_none]
    intro found member
    rw [beq_iff_eq]
    exact other found member
  rw [Flag.ofSpelling?, nowhere]
  rfl

/-- Digits are a plain word. -/
theorem ofText_digits (n : Nat) : Word.ofText (toString n) = .ok (.plain (toString n)) := by
  have plain : ∀ c, c.isDigit = false -> c ∉ (toString n).toList := by
    intro c none member
    rw [Nat.toString_eq_ofList_toDigits, String.toList_ofList] at member
    have digit := Number.all_isDigit_toDigits n c member
    rw [none] at digit
    cases digit
  have first : (toString n).toList.head? ≠ some '-' :=
    fun dash => plain '-' (by decide) (List.mem_of_mem_head? dash)
  have undecided : (decide ((toString n).toList.head? ≠ some '-')) = true := decide_eq_true first
  have undashed : ∀ found ∈ Flag.table, '-' ∈ found.1.toList := by decide
  have unknown : Flag.ofSpelling? (toString n) = none := by
    apply ofSpelling?_eq_none
    rintro found member same
    exact plain '-' (by decide) (same ▸ undashed found member)
  have whole : ∀ c ∈ (toString n).toList, (c != '=') = true := by
    intro c member
    rw [bne_iff_ne]
    rintro rfl
    exact plain '=' (by decide) member
  have split : splitEquals (toString n).toList = ((toString n).toList, none) := by
    rw [splitEquals, List.dropWhile_eq_nil_iff.2 whole]
  unfold Word.ofText
  dsimp only
  rw [split, unknown, undecided, String.ofList_toList, unknown]
  rfl

/-- What stands behind the equals sign of a flag is its value. -/
theorem ofText_exclude (pattern : String) :
    Word.ofText ("--exclude=" ++ pattern) =
      .ok (.flag ("--exclude=" ++ pattern) ⟨.exclude, "--exclude", true, some pattern⟩) := by
  have characters : ("--exclude=" ++ pattern).toList = "--exclude".toList ++ '=' :: pattern.toList := by
    rw [String.toList_append]
    rfl
  have split : splitEquals ("--exclude=" ++ pattern).toList =
      ("--exclude".toList, some pattern.toList) := by
    rw [characters]
    rfl
  have unsigned : ∀ found ∈ Flag.table, '=' ∉ found.1.toList := by decide
  have unknown : Flag.ofSpelling? ("--exclude=" ++ pattern) = none := by
    apply ofSpelling?_eq_none
    rintro found member same
    apply unsigned found member
    rw [same, characters]
    simp
  have known : Flag.ofSpelling? "--exclude" = some .exclude := by decide
  unfold Word.ofText
  dsimp only
  rw [split, unknown, String.ofList_toList, known]
  show Except.ok (Word.flag _ ⟨_, _, _, some (String.ofList pattern.toList)⟩) = _
  rw [String.ofList_toList]

/-- Take the words of arguments. -/
def takeTexts (progress : Progress) (texts : List String) : Except Stop Progress :=
  match wordsOf texts with
  | .ok words => takeWords progress words
  | .error error => .error (.error error)

theorem takeTexts_over (before : Config.Overrides) (progress : Progress) (texts : List String) :
    takeTexts (progress.over before) texts =
      (takeTexts progress texts).map fun later => later.over before := by
  unfold takeTexts
  cases wordsOf texts with
  | error error => rfl
  | ok words => exact takeWords_over before progress words

/-- Texts whose words are known are taken like these words. -/
theorem takeTexts_of_words {progress reached : Progress} (front : List String) (words : List Word)
    (known : ∀ rest, wordsOf (front ++ rest) = (wordsOf rest).map fun behind => words ++ behind)
    (taken : ∀ behind, takeWords progress (words ++ behind) = takeWords reached behind)
    (rest : List String) : takeTexts progress (front ++ rest) = takeTexts reached rest := by
  unfold takeTexts
  rw [known]
  cases wordsOf rest with
  | error error => rfl
  | ok behind => exact taken behind

theorem wordsOf_cons {text : String} {word : Word} (notSeparator : text ≠ "--")
    (known : Word.ofText text = .ok word) (rest : List String) :
    wordsOf (text :: rest) = (wordsOf rest).map fun behind => word :: behind := by
  rw [wordsOf, if_neg notSeparator, known]
  cases wordsOf rest <;> rfl

/-- A number is read as the value of a flag if it does not have too many digits. -/
theorem integerOf?_toString (n : Nat) : integerOf? (toString n) =
    if n < 10 ^ Number.mostDigits then some (n : Int) else none := by
  have spelled : (toString n).toList = Nat.toDigits 10 n := by
    rw [Nat.toString_eq_ofList_toDigits, String.toList_ofList]
  have count : digitCount (Nat.toDigits 10 n) = (Nat.toDigits 10 n).length := by
    rw [digitCount, List.countP_eq_length]
    intro c member
    rw [Number.digitIn?_digit (Number.all_isDigit_toDigits n c member)]
    rfl
  have short : (Nat.toDigits 10 n).length ≤ Number.mostDigits ↔ n < 10 ^ Number.mostDigits :=
    Nat.length_toDigits_le_iff (by decide) (by decide)
  rw [integerOf?, spelled, count, Number.integer?_toDigits]
  exact ite_congr (propext short) (fun _ => rfl) fun _ => rfl

/-- The words of the flag for a number of workers. -/
def workersWords (n : Nat) : List Word :=
  [.flag "--workers" ⟨.workers, "--workers", false, none⟩, .plain (toString n)]

theorem wordsOf_workers (n : Nat) (rest : List String) :
    wordsOf ("--workers" :: toString n :: rest) =
      (wordsOf rest).map fun behind => workersWords n ++ behind := by
  have flag : Word.ofText "--workers" = .ok (.flag "--workers" ⟨.workers, "--workers", false, none⟩) := by
    decide
  have notSeparator : toString n ≠ "--" := by
    intro same
    have first := Number.all_isDigit_toDigits n '-'
    have spelled : (toString n).toList = Nat.toDigits 10 n := by
      rw [Nat.toString_eq_ofList_toDigits, String.toList_ofList]
    rw [← spelled, same] at first
    cases first List.mem_cons_self
  rw [wordsOf_cons (by decide) flag, wordsOf_cons notSeparator (ofText_digits n)]
  cases wordsOf rest <;> rfl

/-- The flag and its value are taken at once. -/
theorem takeWords_workers (settings : Settings) (extras : List String) (n : Nat) (behind : List Word) :
    takeWords ⟨settings, extras⟩ (workersWords n ++ behind) =
      settings.give .workers (toString n) >>= fun later => takeWords ⟨later, extras⟩ behind := by
  show takeWords _ (.flag _ _ :: .plain (toString n) :: behind) = _
  rw [takeWords_flag]
  show (settings.give .workers (toString n) >>= _) = _
  cases settings.give .workers (toString n) with
  | error stop => rfl
  | ok later => exact takeAll_limit (by rw [List.length_cons]; omega) (Nat.lt_succ_self _)

theorem takeTexts_workers (settings : Settings) (extras : List String) {n : Nat}
    (short : n < 10 ^ Number.mostDigits) (rest : List String) :
    takeTexts ⟨settings, extras⟩ ("--workers" :: toString n :: rest) =
      takeTexts ⟨{ settings with workers := some (n : Int) }, extras⟩ rest := by
  apply takeTexts_of_words ["--workers", toString n] (workersWords n)
  · exact wordsOf_workers n
  · intro behind
    rw [takeWords_workers, Settings.give, integerOf?_toString, if_pos short]
    rfl

/-- A number that is too long is no value, unless the words behind it are not even told apart. -/
theorem takeTexts_long (settings : Settings) (extras : List String) {n : Nat}
    (long : 10 ^ Number.mostDigits ≤ n) (rest : List String) :
    ∃ error, takeTexts ⟨settings, extras⟩ ("--workers" :: toString n :: rest) = .error (.error error) := by
  unfold takeTexts
  rw [wordsOf_workers]
  cases wordsOf rest with
  | error error => exact ⟨error, rfl⟩
  | ok behind =>
      refine ⟨.noInteger .workers (toString n), ?_⟩
      show takeWords _ (workersWords n ++ behind) = _
      rw [takeWords_workers, Settings.give, integerOf?_toString, if_neg (Nat.not_lt.2 long)]
      rfl

theorem takeTexts_exclude (settings : Settings) (extras : List String) (pattern : String)
    (rest : List String) :
    takeTexts ⟨settings, extras⟩ (("--exclude=" ++ pattern) :: rest) =
      takeTexts ⟨{ settings with exclude := settings.exclude ++ [pattern] }, extras⟩ rest := by
  have notSeparator : "--exclude=" ++ pattern ≠ "--" := by
    intro same
    have length := congrArg (fun text : String => text.toList.length) same
    simp at length
  apply takeTexts_of_words ["--exclude=" ++ pattern]
    [.flag ("--exclude=" ++ pattern) ⟨.exclude, "--exclude", true, some pattern⟩]
  · exact wordsOf_cons notSeparator (ofText_exclude pattern)
  · intro behind
    show takeWords _ (.flag _ _ :: behind) = _
    rw [takeWords_flag]
    rfl

theorem takeTexts_gitignore (settings : Settings) (extras : List String) (rest : List String) :
    takeTexts ⟨settings, extras⟩ ("--gitignore" :: rest) =
      takeTexts ⟨{ settings with gitignore := some true }, extras⟩ rest := by
  have flag : Word.ofText "--gitignore" =
      .ok (.flag "--gitignore" ⟨.gitignore, "--gitignore", false, none⟩) := by
    decide
  apply takeTexts_of_words ["--gitignore"]
    [.flag "--gitignore" ⟨.gitignore, "--gitignore", false, none⟩]
  · exact wordsOf_cons (by decide) flag
  · intro behind
    show takeWords _ (.flag _ _ :: behind) = _
    rw [takeWords_flag]
    rfl

/-! ## All flags -/

/-- Patterns are taken one after the other. -/
theorem takeTexts_excludes (settings : Settings) (extras patterns rest : List String) :
    takeTexts ⟨settings, extras⟩ ((patterns.map fun pattern => "--exclude=" ++ pattern) ++ rest) =
      takeTexts ⟨{ settings with exclude := settings.exclude ++ patterns }, extras⟩ rest := by
  induction patterns generalizing settings with
  | nil =>
      rw [List.append_nil]
      rfl
  | cons pattern patterns ih =>
      rw [List.map_cons, List.cons_append, takeTexts_exclude, ih]
      dsimp only
      rw [List.append_assoc, List.singleton_append]

/-- Behind the flags of options the other arguments are taken as they would be alone. -/
theorem takeTexts_flagsOf {stack : Stack} (options : Config.Options) (valid : options.Valid)
    (told : options.Told (.usual stack)) (rest : List String) :
    takeTexts ⟨.none, []⟩ (flagsOf options ++ rest) =
      (takeTexts ⟨.none, []⟩ rest).map fun later => later.over (changesOf options) := by
  rw [← takeTexts_over]
  rcases options with ⟨workers, patterns, gitignore⟩
  have ignored : ∀ settings : Settings, settings.gitignore = none ->
      takeTexts ⟨settings, []⟩ ((if gitignore then ["--gitignore"] else []) ++ rest) =
        takeTexts ⟨{ settings with gitignore := if gitignore then some true else none }, []⟩ rest := by
    intro settings unset
    cases gitignore with
    | true => exact takeTexts_gitignore settings [] rest
    | false =>
        show takeTexts ⟨settings, []⟩ rest = _
        rw [if_neg Bool.false_ne_true, ← unset]
  unfold flagsOf
  dsimp only
  rw [List.append_assoc, List.append_assoc]
  cases workers with
  | none =>
      rw [List.nil_append, takeTexts_excludes, ignored _ rfl]
      simp only [Progress.over, Settings.over, changesOf, Settings.none, List.append_nil,
        List.nil_append, Option.none_or]
  | some n =>
      have positive : ((n.toNat : Nat) : Int) = n := Int.toNat_of_nonneg (by
        have least := valid n rfl
        omega)
      have short : n.toNat < 10 ^ Number.mostDigits := by
        have few := told n rfl _ rfl
        rw [Nat.pow_eq] at few
        omega
      rw [List.cons_append, List.cons_append, List.nil_append, takeTexts_workers _ _ short, takeTexts_excludes,
        ignored _ rfl]
      simp only [Progress.over, Settings.over, changesOf, Settings.none, List.append_nil,
        List.nil_append, Option.none_or, positive]

/-- A request with settings that were given before. -/
def Request.over (request : Request) (before : Config.Overrides) : Request :=
  ⟨request.root, request.settings.over before⟩

@[simp] theorem Request.settings_over (request : Request) (before : Config.Overrides) :
    (request.over before).settings = request.settings.over before := rfl

/-- What is asked for once all words have been taken. -/
def Progress.request (progress : Progress) : Except Stop Request :=
  match progress.settings.root with
  | none => .error (.error .noRoot)
  | some root =>
    if progress.extras.isEmpty then .ok ⟨root, progress.settings⟩
    else .error (.error (.unrecognized progress.extras))

theorem readArguments_eq (texts : List String) :
    readArguments texts = (takeTexts ⟨.none, []⟩ texts >>= Progress.request) := by
  unfold readArguments takeTexts
  cases wordsOf texts <;> rfl

theorem Progress.request_over (before : Config.Overrides) (progress : Progress) :
    (progress.over before).request =
      progress.request.map fun request => request.over before := by
  rcases progress with ⟨⟨root, sort, json, workers, exclude, gitignore, verbose⟩, extras⟩
  cases root with
  | none => rfl
  | some root => cases extras <;> rfl

/-- Arguments behind the flags of options ask for the same as they do alone, with these
options besides. -/
theorem readArguments_flagsOf {stack : Stack} (options : Config.Options) (valid : options.Valid)
    (told : options.Told (.usual stack)) (rest : List String) :
    readArguments (flagsOf options ++ rest) =
      (readArguments rest).map fun request => request.over (changesOf options) := by
  rw [readArguments_eq, readArguments_eq, takeTexts_flagsOf options valid told]
  cases takeTexts ⟨.none, []⟩ rest with
  | error stop => rfl
  | ok progress => exact progress.request_over (changesOf options)

/-- Flags with a number of workers that is too long make no sense. -/
theorem readArguments_of_long {options : Config.Options} {n : Nat}
    (asked : options.workers = some (n : Int)) (long : 10 ^ Number.mostDigits ≤ n) (rest : List String) :
    ∃ error, readArguments (flagsOf options ++ rest) = .error (.error error) := by
  rcases takeTexts_long .none [] long (options.exclude.map (fun pattern => "--exclude=" ++ pattern) ++
      ((if options.gitignore then ["--gitignore"] else []) ++ rest)) with ⟨error, stopped⟩
  refine ⟨error, ?_⟩
  rw [readArguments_eq, flagsOf, asked]
  simp only [List.append_assoc, List.cons_append, List.nil_append, Int.toNat_natCast]
  rw [stopped]
  rfl

end CommandLine
end ImportCensus

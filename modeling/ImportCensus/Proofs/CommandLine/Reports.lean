import ImportCensus.Proofs.Census.Reported
import ImportCensus.Proofs.CommandLine.Stages
import ImportCensus.Proofs.Number.Rounding
import ImportCensus.Proofs.Report.Listing
import ImportCensus.Proofs.Report.Serialized

namespace ImportCensus
namespace CommandLine

open Census (PackageSet Result)
open Files (Path Store)
open Number (Binary64)
open Report (Record)

/-!
# Reports read back

A result that is reported as text and as JSON is the same result: either report can be read
back to the number of files and to the packages.  The JSON lists the packages in increasing
order.  The listing lists them in the same order if it is asked to, and in any other order
if it is not.
-/

variable {result : Result} {elapsed : Binary64}

/-- A time that a clock can measure: a finite number that is not negative. -/
structure IsTime (elapsed : Binary64) : Prop where
  inRange : elapsed.InRange
  notNegative : elapsed.atLeast ⟨false, 0, 1⟩ = true

/-! ## The record -/

/-- The fields of a record pass the checks. -/
theorem ofValues_ofResult (result : Result) (time : IsTime elapsed) :
    Record.ofValues (.integer result.fileCount) (.integer result.failedFiles) result.packages
      elapsed = .ok (Record.ofResult result elapsed) := by
  have count : ∀ n : Nat, Report.countOf (.integer n) = .ok n := by
    intro n
    show (if (0 : Int) ≤ n then Except.ok (n : Int).toNat else .error .negative) = .ok n
    rw [if_pos (Int.natCast_nonneg n), Int.toNat_natCast]
  rcases Number.roundTo_not_negative Report.elapsedPlaces time.inRange time.notNegative with
    ⟨_, _, _, _, notNegative⟩
  have seconds : Report.elapsedOf elapsed = .ok (Number.roundTo Report.elapsedPlaces elapsed) := by
    unfold Report.elapsedOf
    dsimp only
    rw [if_pos notNegative]
  rw [Record.ofValues, count, count, seconds]
  rfl

/-- The names and the values of the members in the JSON of a result. -/
def jsonMembers (result : Result) (seconds : Binary64) : List (String × Json.Value) :=
  [("version", .string Report.version), ("fileCount", .integer result.fileCount),
    ("failedFiles", .integer result.failedFiles),
    ("packages", .array (result.packages.members.map .string)), ("elapsed", .number seconds)]

/-- The JSON of a result is read as one object. -/
theorem read_toJson (result : Result) (time : IsTime elapsed) :
    ∃ seconds, Json.read ((Record.ofResult result elapsed).toJson.text ++ "\n").toList =
      some (.object (jsonMembers result seconds)) := by
  rcases Number.roundTo_not_negative Report.elapsedPlaces time.inRange time.notNegative with
    ⟨negative, significand, exponent, same, _⟩
  rcases Record.writesAs_toJson (Record.ofResult result elapsed) same with ⟨seconds, writes⟩
  refine ⟨seconds, ?_⟩
  have text : ((Record.ofResult result elapsed).toJson.text ++ "\n").toList =
      Json.write (Record.ofResult result elapsed).toJson ++ ['\n'] := by
    rw [String.toList_append, Json.Value.text, String.toList_ofList]
    rfl
  have blank : Json.Blank ['\n'] [] := .more (by decide) .none
  rw [text]
  exact (writes.denotes blank).read_eq

/-! ## Reading the JSON back -/

/-- The text that a value is. -/
def textOf? : Json.Value -> Option String
  | .string text => some text
  | _ => none

/-- The number of files and the packages that a report in JSON tells. -/
def readReport? (text : String) : Option (Nat × PackageSet) := do
  let value ← Json.read text.toList
  match value.get? "fileCount", value.get? "packages" with
  | some (.integer count), some (.array names) =>
    return (count.toNat, .ofList (names.filterMap textOf?))
  | _, _ => none

theorem readReport?_toJson (result : Result) (time : IsTime elapsed) :
    readReport? ((Record.ofResult result elapsed).toJson.text ++ "\n") =
      some (result.fileCount, result.packages) := by
  rcases read_toJson result time with ⟨seconds, read⟩
  have names : (result.packages.members.map Json.Value.string).filterMap textOf? =
      result.packages.members := by
    rw [List.filterMap_map]
    exact List.filterMap_some
  have members : PackageSet.ofList result.packages.members = result.packages := by
    apply PackageSet.ext
    intro name
    exact PackageSet.mem_ofList
  unfold readReport?
  rw [read]
  show some ((result.fileCount : Int).toNat,
    PackageSet.ofList ((result.packages.members.map Json.Value.string).filterMap textOf?)) = _
  rw [names, members, Int.toNat_natCast]

/-! ## The main result -/

/-- A name that is an identifier stands on a single line. -/
theorem isLine_of_isIdentifier {name : String} (identifier : Source.IsIdentifier name.toList) :
    Report.IsLine name :=
  (Imports.isSegment_of_isIdentifier identifier).noLineEnd

/-- Text and JSON tell of the same result.  Let a run with the root, the flags and the
configuration that are given have a result.  Its packages are in strictly increasing order,
no more files have failed than there are, and building the record raises no fault.  Whatever
else the arguments ask for: the JSON is read as one object with both counts and the packages
in their order; the listing consists of a headline that quotes the number of packages and
the number of files, an empty line, and one line for each package, in the same order if it
is sorted and in some order if it is not.  From either of them the number of files and the
packages are read back. -/
theorem reports_read_back (surroundings : Surroundings) (root : String) (changes : Config.Overrides)
    (options : Config.Options) (result : Result)
    (completes : Completes surroundings (.ofText root) changes options result)
    (elapsed : Binary64) (time : IsTime elapsed) (handedOut : PackageSet -> List String)
    (orders : ∀ packages, (handedOut packages).Perm packages.members) :
    result.packages.members.Pairwise (fun first second => first < second) ∧
      result.failedFiles ≤ result.fileCount ∧
      Record.ofValues (.integer result.fileCount) (.integer result.failedFiles) result.packages
        elapsed = .ok (Record.ofResult result elapsed) ∧
      ∀ arguments request, readArguments arguments = .ok request -> request.root = root ->
        request.settings.overrides = changes ->
        let text := written elapsed handedOut (command surroundings arguments)
        (request.settings.json = true ->
          (∃ seconds, Json.read text.toList = some (.object (jsonMembers result seconds))) ∧
            readReport? text = some (result.fileCount, result.packages)) ∧
          (request.settings.json = false ->
            (∃ headline packages, text = Report.ended (headline :: "" :: packages) ∧
              Report.linesOf text = headline :: "" :: packages ∧
              Report.quotedIn headline =
                [toString result.packages.size, toString result.fileCount] ∧
              packages.Perm result.packages.members ∧
              (request.settings.sort = true -> packages = result.packages.members)) ∧
            Report.readListing? text = some (result.fileCount, result.packages)) := by
  refine ⟨result.packages.increasing, Census.failedFiles_le_of_run completes.ran,
    ofValues_ofResult result time, ?_⟩
  intro arguments request accepted sameRoot sameChanges
  have carried : command surroundings arguments = carryOut surroundings request := by
    unfold command
    rw [accepted]
  have completed : Completes surroundings request.path request.settings.overrides options result := by
    rw [sameChanges, Request.path, sameRoot]
    exact completes
  have reported := written_of_completes completed elapsed handedOut
  rw [carried, reported]
  constructor
  · intro json
    rw [Settings.reportOf, if_pos json]
    exact ⟨read_toJson result time, readReport?_toJson result time⟩
  · intro noJson
    have notJson : ¬(request.settings.json = true) := by
      rw [noJson]
      exact Bool.false_ne_true
    rw [Settings.reportOf, if_neg notJson]
    have same : (if request.settings.sort then result.packages.members
        else handedOut result.packages).Perm result.packages.members := by
      split
      · exact List.Perm.refl _
      · exact orders _
    have lines : ∀ name ∈ (if request.settings.sort then result.packages.members
        else handedOut result.packages), Report.IsLine name := by
      intro name member
      exact isLine_of_isIdentifier
        (Census.isIdentifier_of_run completes.ran name (same.mem_iff.1 member))
    have plain := Report.isPlain_elapsedText elapsed
    refine ⟨⟨_, _, rfl, Report.linesOf_listing plain lines, Report.quotedIn_headline plain, same, ?_⟩,
      Report.readListing?_listing plain lines same⟩
    intro sorted
    rw [if_pos sorted]

/-- The result of the project of one source. -/
def resultOne : Result := Census.importingOne.folded [⟨1, ["b.py"]⟩]

theorem completes_aroundOne :
    Completes aroundOne (.ofText "/") ⟨none, [], none⟩ .default resultOne where
  checked := checked_aroundOne
  merged := by
    refine ⟨.default, ?_, rfl⟩
    rw [Config.load_eq, loaded_aroundOne]
    rfl
  ran := by
    have walked : Project.walk Census.importingOne.store Census.importingOne.root
        Config.Options.default.exclude Config.Options.default.gitignore = .ok [⟨1, ["b.py"]⟩] :=
      Census.walk_importingOne
    show Census.run Census.importingOne .default (some 4) = .ok resultOne
    rw [Census.run_eq_bind Census.root_importingOne, walked]
    rfl

theorem isTime_second : IsTime (.finite false 1 0) where
  inRange := ⟨by decide, by decide⟩
  notNegative := by decide

/-- The one file and its package are read from the JSON and from the listing. -/
theorem aroundOne_reads_back :
    readReport? (written (.finite false 1 0) PackageSet.members (command aroundOne ["/", "--json"])) =
        some (1, resultOne.packages) ∧
      Report.readListing? (written (.finite false 1 0) PackageSet.members (command aroundOne ["/"])) =
        some (1, resultOne.packages) := by
  have claim := reports_read_back aroundOne "/" ⟨none, [], none⟩ .default resultOne
    completes_aroundOne (.finite false 1 0) isTime_second PackageSet.members fun _ => List.Perm.refl _
  rcases claim with ⟨_, _, _, reports⟩
  have json := reports ["/", "--json"] ⟨"/", some "/", false, true, none, [], none, false⟩ (by cbv)
    rfl rfl
  have listing := reports ["/"] ⟨"/", some "/", false, false, none, [], none, false⟩ (by cbv) rfl rfl
  exact ⟨(json.1 rfl).2, (listing.2 rfl).2⟩

end CommandLine
end ImportCensus

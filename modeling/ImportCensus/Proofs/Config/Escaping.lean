import ImportCensus.Proofs.Config.Schema
import ImportCensus.Proofs.Files.Stepping
import ImportCensus.Proofs.Yaml.Fields
import ImportCensus.Proofs.Yaml.Reading

namespace ImportCensus
namespace Config

open Files (Node Path Store)

/-!
# What escapes from a configuration file

A configuration file that is broken is meant to be told as an error of the configuration.
Most are: bytes that are no text, a text that is no document, a document that does not fit the
schema.  What escapes are values that cannot be made (`Escapes`), texts that are nested too deep to
be read and data that cannot be written where they are told (`Untellable`), and a path that is too
long to be asked for.  Nothing else does (`loadVerdict_load`).
-/

/-- A text has a value that cannot be made: one of the few that are made while it is read, or
one of those that its document holds. -/
inductive Escapes (text : List Char) : Yaml.ValueFault -> Prop
  | unreadable {fault : Yaml.ValueFault} (failed : Yaml.readNode text = .error (.value fault))
      (unspellable : Yaml.Unspellable fault) : Escapes text fault
  | unmakable {root : Yaml.Node} {isOld : Bool} {fault : Yaml.ValueFault}
      (isRoot : Yaml.readNode text = .ok (some root, isOld))
      (holds : Yaml.HoldsOffender isOld root fault) : Escapes text fault

/-- A text ends in an excess: the stack does not suffice to read it, or there are data in what is
told about it that cannot be written. -/
inductive Untellable (limits : Limits) (text : List Char) : Excess -> Prop
  | unread (deep : limits.reads text = false) : Untellable limits text (.stack "")
  /-- The problem of a document quotes the data. -/
  | document {fault : Yaml.Fault} {outline : Outline} {excess : Excess} (reads : limits.reads text = true)
      (failed : Yaml.read text = .error fault) (shown : outline ∈ fault.shows)
      (oversteps : limits.Oversteps quoting outline excess) : Untellable limits text excess
  /-- The first fault of a configuration quotes the data. -/
  | schema {raw : Datum} {fault : ConfigFault} {outline : Outline} {excess : Excess}
      (reads : limits.reads text = true) (read : Yaml.read text = .ok raw) (first : FirstFault raw fault)
      (shown : outline ∈ fault.shows) (oversteps : limits.Oversteps quoting outline excess) :
      Untellable limits text excess
  /-- The options are what they should be, but their number of workers is too long to be logged. -/
  | options {raw : Datum} {options : Options} {n : Int} {most : Nat} (reads : limits.reads text = true)
      (read : Yaml.read text = .ok raw) (fits : Fits raw options) (asked : options.workers = some n)
      (bound : limits.digits = some most) (long : 10 ^ most ≤ n.natAbs) :
      Untellable limits text (.digits most)

/-- The message of an error begins with the name of a source. -/
def ConfigError.Tells (source : String) (error : ConfigError) : Prop :=
  ∃ reason, error.message = source ++ ": " ++ reason

/-- What loading the configuration of a root comes to. -/
inductive LoadVerdict (limits : Limits) (store : Store) (root : Path) : Except LoadFault Options -> Prop
  | loaded {options : Options} (valid : options.Valid) : LoadVerdict limits store root (.ok options)
  /-- The error tells which file it is about. -/
  | config {error : ConfigError} (tells : error.Tells (root.child configFile).text) :
      LoadVerdict limits store root (.error (.config error))
  | value {content : List Nat} {decoded : List Char} {fault : Yaml.ValueFault}
      (opened : store.content (root.child configFile) = .ok content)
      (decodes : Text.decode content = .ok decoded)
      (escapes : Escapes (Text.foldNewlines decoded) fault) :
      LoadVerdict limits store root (.error (.value fault))
  | untold {content : List Nat} {decoded : List Char} {excess : Excess}
      (opened : store.content (root.child configFile) = .ok content)
      (decodes : Text.decode content = .ok decoded)
      (untellable : Untellable limits (Text.foldNewlines decoded) excess) :
      LoadVerdict limits store root (.error (.untold excess))
  | overlong (overlong : store.Overlong (root.child configFile)) :
      LoadVerdict limits store root (.error (.file ⟨.nameTooLong, root.child configFile⟩))

variable {limits : Limits} {store : Store} {root : Path} {text : List Char} {source : String}
  {content : List Nat} {decoded : List Char} {raw : Datum} {options : Options} {excess : Excess}

theorem escapes_of_read {fault : Yaml.ValueFault}
    (failed : Yaml.read text = .error (.value fault)) : Escapes text fault := by
  unfold Yaml.read at failed
  cases isRead : Yaml.readNode text with
  | error other =>
      rw [isRead] at failed
      cases failed
      exact .unreadable isRead (Yaml.readNode_confined text fault isRead)
  | ok found =>
      rw [isRead] at failed
      rcases found with ⟨_ | root, isOld⟩
      · cases failed
      · exact .unmakable isRead (Yaml.datum_confined _ root fault failed)

theorem tells_unreadable (source reason : String) :
    (ConfigError.unreadable source reason).Tells source := by
  refine ⟨"cannot read config: " ++ reason, ?_⟩
  have split : ": cannot read config: " = ": " ++ "cannot read config: " := by decide
  unfold ConfigError.message
  dsimp only
  rw [split, ← String.append_assoc, ← String.append_assoc]

/-! ## The text -/

/-- Options that have been read are handed out if their number of workers can be logged. -/
theorem ofDatum_of_parse (parsed : Options.parse limits source raw = .ok options) :
    ofDatum limits source raw = (limits.tell quoting options.shows options).mapError LoadFault.untold := by
  rw [ofDatum, parsed]

theorem ofDatum_of_refusal {refusal : Refusal} (refused : Options.parse limits source raw = .error refusal) :
    ofDatum limits source raw = .error (.ofRefusal refusal) := by
  rw [ofDatum, refused]

/-- What is wrong with a document that is read by and large is told, or ends in an excess. -/
theorem ofText_of_document {fault : Yaml.Fault} (failed : Yaml.read text = .error fault)
    (marked : ∀ other, fault ≠ .value other) : ofText limits source text =
      match limits.tell quoting fault.shows (ConfigError.unreadable source (fault.message text)) with
      | .ok error => .error (.config error)
      | .error excess => .error (.untold excess) := by
  unfold ofText
  rw [failed]
  cases fault with
  | value other => exact absurd rfl (marked other)
  | _ => rfl

theorem ofText_of_datum (read : Yaml.read text = .ok raw) :
    ofText limits source text = ofDatum limits source raw := by
  unfold ofText
  rw [read]

theorem ofText_of_value {fault : Yaml.ValueFault} (failed : Yaml.read text = .error (.value fault)) :
    ofText limits source text = .error (.value fault) := by
  unfold ofText
  rw [failed]

/-- Only a value that cannot be made ends as such. -/
theorem ofText_eq_value {fault : Yaml.ValueFault} :
    ofText limits source text = .error (.value fault) ↔ Yaml.read text = .error (.value fault) := by
  constructor
  · intro failed
    cases read : Yaml.read text with
    | ok raw =>
        rw [ofText_of_datum read] at failed
        cases parsed : Options.parse limits source raw with
        | ok options =>
            rw [ofDatum_of_parse parsed] at failed
            rcases mapError_eq_error.1 failed with ⟨_, _, same⟩
            cases same
        | error refusal =>
            rw [ofDatum_of_refusal parsed] at failed
            cases refusal <;> cases failed
    | error other =>
        by_cases marked : ∀ value, other ≠ .value value
        · rw [ofText_of_document read marked] at failed
          split at failed <;> cases failed
        · rcases not_forall_not.1 marked with ⟨value, rfl⟩
          rw [ofText_of_value read] at failed
          cases failed
          rfl
  · exact ofText_of_value

/-- What is shown of a value that cannot be made has no data in it. -/
theorem not_value_of_shows {fault : Yaml.Fault} {outline : Outline} (shown : outline ∈ fault.shows)
    (other : Yaml.ValueFault) : fault ≠ .value other := by
  rintro rfl
  cases shown

/-- A text that can be read ends in an excess where there is one. -/
theorem ofText_of_untellable (reads : limits.reads text = true) (untellable : Untellable limits text excess) :
    ∃ first, ofText limits source text = .error (.untold first) := by
  cases untellable with
  | unread deep => cases deep.symm.trans reads
  | document _ failed shown oversteps =>
      rw [ofText_of_document failed (not_value_of_shows shown)]
      rcases Limits.exists_tell_eq_error.2 ⟨_, shown, oversteps.not_allows⟩ with ⟨first, untold⟩
      rw [untold]
      exact ⟨first, rfl⟩
  | schema _ read first shown oversteps =>
      rw [ofText_of_datum read]
      cases parsed : Options.parse limits source _ with
      | ok options => exact absurd (parse_eq_ok.1 parsed) first.not_fits
      | error refusal =>
          rw [ofDatum_of_refusal parsed]
          cases refusal with
          | config error =>
              rcases parse_eq_config.1 parsed with ⟨_, _, again, allowed⟩
              rw [← first.unique again] at allowed
              exact absurd (allowed _ shown) oversteps.not_allows
          | untold excess => exact ⟨excess, rfl⟩
  | @options raw options n most _ read fits asked bound long =>
      rw [ofText_of_datum read, ofDatum_of_parse (parse_eq_ok.2 fits)]
      have shown : Outline.integer n ∈ options.shows := by
        rw [Options.shows, asked]
        exact List.mem_singleton.2 rfl
      have oversteps : limits.Oversteps quoting (.integer n) (.digits most) :=
        .digits bound (List.mem_singleton.2 rfl) long
      rcases Limits.exists_tell_eq_error.2 ⟨_, shown, oversteps.not_allows⟩ with ⟨first, untold⟩
      rw [untold]
      exact ⟨first, rfl⟩

/-! ## The file -/

theorem ofContent_of_decode (decodes : Text.decode content = .ok decoded) :
    ofContent limits source content = if limits.reads (Text.foldNewlines decoded) then
      ofText limits source (Text.foldNewlines decoded) else .error (.untold (.stack "")) := by
  unfold ofContent
  rw [decodes]

/-- What escapes from the content of a file is what escapes from its text. -/
theorem ofContent_eq_value {fault : Yaml.ValueFault} (decodes : Text.decode content = .ok decoded) :
    ofContent limits source content = .error (.value fault) ↔
      limits.reads (Text.foldNewlines decoded) = true ∧
        Yaml.read (Text.foldNewlines decoded) = .error (.value fault) := by
  rw [ofContent_of_decode decodes]
  split
  · next reads => rw [ofText_eq_value, and_iff_right reads]
  · next deep => exact iff_of_false nofun fun found => deep found.1

theorem ofContent_of_untellable (decodes : Text.decode content = .ok decoded)
    (untellable : Untellable limits (Text.foldNewlines decoded) excess) :
    ∃ first, ofContent limits source content = .error (.untold first) := by
  rw [ofContent_of_decode decodes]
  split
  · next reads => exact ofText_of_untellable reads untellable
  · exact ⟨_, rfl⟩

/-- What a text that can be read comes to. -/
theorem loadVerdict_ofText (opened : store.content (root.child configFile) = .ok content)
    (decodes : Text.decode content = .ok decoded) (reads : limits.reads (Text.foldNewlines decoded) = true) :
    LoadVerdict limits store root
      (ofText limits (root.child configFile).text (Text.foldNewlines decoded)) := by
  cases read : Yaml.read (Text.foldNewlines decoded) with
  | error fault =>
      by_cases marked : ∀ value, fault ≠ .value value
      · rw [ofText_of_document read marked]
        split
        · next told =>
          rw [(Limits.tell_eq_ok.1 told).2]
          exact .config (tells_unreadable _ _)
        · next untold =>
          rcases Limits.oversteps_of_tell untold with ⟨outline, shown, oversteps⟩
          exact .untold opened decodes (.document reads read shown oversteps)
      · rcases not_forall_not.1 marked with ⟨value, rfl⟩
        rw [ofText_of_value read]
        exact .value opened decodes (escapes_of_read read)
  | ok raw =>
      rw [ofText_of_datum read]
      cases parsed : Options.parse limits (root.child configFile).text raw with
      | ok options =>
          have fits := parse_eq_ok.1 parsed
          rw [ofDatum_of_parse parsed]
          cases logged : limits.tell quoting options.shows options with
          | ok told =>
              rw [(Limits.tell_eq_ok.1 logged).2]
              exact .loaded fits.valid
          | error excess =>
              rcases Limits.oversteps_of_tell logged with ⟨outline, shown, oversteps⟩
              rcases oversteps_of_shows shown oversteps with ⟨n, most, asked, bound, long, rfl⟩
              exact .untold opened decodes (.options reads read fits asked bound long)
      | error refusal =>
          rw [ofDatum_of_refusal parsed]
          cases refusal with
          | config error =>
              rcases parse_eq_config.1 parsed with ⟨fault, rfl, _⟩
              exact .config ⟨fault.message, rfl⟩
          | untold excess =>
              rcases of_parse_eq_untold parsed with ⟨fault, first, outline, shown, oversteps⟩
              exact .untold opened decodes (.schema reads read first shown oversteps)

/-- What the content of the file comes to. -/
theorem loadVerdict_ofContent (opened : store.content (root.child configFile) = .ok content) :
    LoadVerdict limits store root (ofContent limits (root.child configFile).text content) := by
  cases decodes : Text.decode content with
  | error fault =>
      unfold ofContent
      rw [decodes]
      exact .config (tells_unreadable _ _)
  | ok decoded =>
      rw [ofContent_of_decode decodes]
      split
      · next reads => exact loadVerdict_ofText opened decodes reads
      · next deep => exact .untold opened decodes (.unread (Bool.eq_false_iff.2 deep))

/-- A path that leads to no file at all has the options that are given by default. -/
theorem load_of_no_file (absent : store.test Node.isFile (root.child configFile) = .ok false) :
    load limits store root = .ok .default := by
  unfold load loadFile
  dsimp only
  rw [absent]
  rfl

theorem load_of_file (opened : store.content (root.child configFile) = .ok content) :
    load limits store root = ofContent limits (root.child configFile).text content := by
  rw [load_eq, loadFile_of_content (Store.isFile_of_content opened) opened]
  cases ofContent limits (root.child configFile).text content <;> rfl

theorem valid_default : Options.default.Valid := nofun

/-- Loading the configuration comes to one of five things, whatever the file is. -/
theorem loadVerdict_load (limits : Limits) (store : Store) (root : Path) :
    LoadVerdict limits store root (load limits store root) := by
  rcases store.node_cases (root.child configFile) with
    ⟨node, found, -⟩ | ⟨fault, failed, absence, -, -⟩ | ⟨failed, overlong⟩
  · cases node with
    | file content =>
        have opened : store.content (root.child configFile) = .ok content := by
          unfold Store.content
          rw [found]
          rfl
        rw [load_of_file opened]
        exact loadVerdict_ofContent opened
    | directory entries =>
        rw [load_of_no_file (Store.test_of_node found Node.isFile)]
        exact .loaded valid_default
    | link target =>
        rw [load_of_no_file (Store.test_of_node found Node.isFile)]
        exact .loaded valid_default
  · rw [load_of_no_file ((Store.test_of_node_error failed _).trans (if_pos absence))]
    exact .loaded valid_default
  · have unloaded : load limits store root = .error (.file ⟨.nameTooLong, root.child configFile⟩) := by
      unfold load loadFile
      dsimp only
      rw [Store.test_of_node_error failed]
      rfl
    rw [unloaded]
    exact .overlong overlong

/-- In a file of lines the first line without a value is what escapes, if it escapes. -/
theorem load_eq_value_of_fields {fields : List Yaml.Field} {start : Yaml.Mark} {isOld : Bool}
    {fault : Yaml.ValueFault} (opened : store.content (root.child configFile) = .ok content)
    (decodes : Text.decode content = .ok decoded)
    (isRoot : Yaml.readNode (Text.foldNewlines decoded) = .ok (some (Yaml.rootOf fields start), isOld))
    (areFields : Yaml.AreFields fields) :
    load limits store root = .error (.value fault) ↔
      limits.reads (Text.foldNewlines decoded) = true ∧ Yaml.FirstLacking isOld fields (.value fault) := by
  rw [load_of_file opened, ofContent_eq_value decodes, Yaml.read, isRoot]
  exact and_congr_right fun _ => Yaml.datum_rootOf_eq_error _ areFields

end Config
end ImportCensus

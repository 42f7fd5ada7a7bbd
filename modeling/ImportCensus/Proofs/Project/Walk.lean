import ImportCensus.Project.Walk
import ImportCensus.Proofs.Files.WellFormed

namespace ImportCensus
namespace Project

open Files (Node Path Store)

/-!
# Laws of a walk

A walk prunes directories while it goes down.  Nothing is lost by taking the walk
that leaves nothing out instead, and then removing files: those that are left out
themselves, and those below a directory that is left out (`walkNode_eq_filter`).
What the patterns of a project do to a walk can therefore be read off a predicate
on the places of files, and everything else off the walk without patterns.
-/

/-! ## Order by name -/

/-- Whether a thing may stand before another by its name. -/
def named {α : Type} (first second : String × α) : Bool := decide (first.1 ≤ second.1)

theorem named_trans {α : Type} (first second third : String × α)
    (one : named first second = true) (other : named second third = true) :
    named first third = true := by
  simp only [named, decide_eq_true_eq] at one other ⊢
  exact String.le_trans one other

theorem named_total {α : Type} (first second : String × α) :
    (named first second || named second first) = true := by
  simp only [named, Bool.or_eq_true, decide_eq_true_eq]
  exact String.le_total _ _

/-- A list is parted where a property ends that holds in front and nowhere behind. -/
theorem takeWhile_append_eq_left {α : Type} {property : α -> Bool} {front behind : List α}
    (holds : ∀ value ∈ front, property value = true)
    (fails : ∀ value ∈ behind, property value = false) :
    (front ++ behind).takeWhile property = front := by
  rw [List.takeWhile_append_of_pos holds]
  cases behind with
  | nil => simp
  | cons value rest => simp [fails value List.mem_cons_self]

/-- Where sorting puts one more thing: behind all that come before it by name, and in
front of all others. -/
theorem sortNamed_cons {α : Type} (entry : String × α) (rest : List (String × α)) :
    ∃ front behind, sortNamed (entry :: rest) = front ++ entry :: behind ∧
      sortNamed rest = front ++ behind ∧
      (∀ other ∈ front, named entry other = false) ∧
      (∀ other ∈ behind, named entry other = true) := by
  rcases List.mergeSort_cons named_trans named_total entry rest with
    ⟨front, behind, sorted, others, less⟩
  refine ⟨front, behind, sorted, others, fun other member => by simpa using less other member, ?_⟩
  have ordered := List.pairwise_mergeSort named_trans named_total (entry :: rest)
  rw [sorted, List.pairwise_append] at ordered
  exact (List.pairwise_cons.1 ordered.2.1).1

/-- Sorting keeps the order of what has equal names, so that it makes no difference
whether some of it is taken away before or afterwards. -/
theorem sortNamed_filter {α : Type} (keep : String × α -> Bool) (entries : List (String × α)) :
    sortNamed (entries.filter keep) = (sortNamed entries).filter keep := by
  induction entries with
  | nil => simp [sortNamed]
  | cons entry rest ih =>
      rcases sortNamed_cons entry rest with ⟨front, behind, sorted, others, less, more⟩
      by_cases kept : keep entry = true
      · rcases sortNamed_cons entry (rest.filter keep) with
          ⟨front', behind', sorted', others', less', more'⟩
        have same : front' ++ behind' = front.filter keep ++ behind.filter keep := by
          rw [← others', ih, others, List.filter_append]
        have lessKept : ∀ other ∈ front.filter keep, named entry other = false :=
          fun other member => less other ((List.mem_filter.1 member).1)
        have moreKept : ∀ other ∈ behind.filter keep, named entry other = true :=
          fun other member => more other ((List.mem_filter.1 member).1)
        have frontSame : front' = front.filter keep := by
          have parted := congrArg (List.takeWhile fun other => !named entry other) same
          rwa [takeWhile_append_eq_left (by simpa using less') (by simpa using more'),
            takeWhile_append_eq_left (by simpa using lessKept) (by simpa using moreKept)] at parted
        have behindSame : behind' = behind.filter keep := by
          rw [frontSame] at same
          exact List.append_cancel_left same
        rw [List.filter_cons_of_pos kept, sorted', sorted, List.filter_append,
          List.filter_cons_of_pos kept, frontSame, behindSame]
      · rw [List.filter_cons_of_neg kept, ih, others, sorted, List.filter_append,
          List.filter_append, List.filter_cons_of_neg kept]

theorem sortNamed_perm {α : Type} (entries : List (String × α)) :
    (sortNamed entries).Perm entries :=
  List.mergeSort_perm _ _

@[simp] theorem mem_sortNamed {α : Type} {entry : String × α} {entries : List (String × α)} :
    entry ∈ sortNamed entries ↔ entry ∈ entries :=
  List.mem_mergeSort

/-- Sorting looks at names only. -/
theorem sortNamed_map {α β : Type} (change : String × α -> β) (entries : List (String × α)) :
    sortNamed (entries.map fun entry => (entry.1, change entry)) =
      (sortNamed entries).map fun entry => (entry.1, change entry) :=
  (List.map_mergeSort (f := fun entry : String × α => (entry.1, change entry))
    fun _ _ _ _ => rfl).symm

/-! ## Places -/

variable {isDirectory : List String -> Bool} {ignore : Ignore} {found : List String}

/-- A directory that can be listed: its files, and what its subdirectories hold. -/
theorem walkNode_listed {place : List String} (entries : List (String × Node))
    (listed : isDirectory place = true) : walkNode isDirectory ignore place (.directory entries) =
      filesOf isDirectory ignore place entries ++
        (sortNamed (walkEntries isDirectory ignore place entries)).flatMap fun found => found.2 := by
  rw [walkNode, if_pos listed]

/-- A directory that cannot be listed holds nothing for a walk. -/
theorem walkNode_unlisted {place : List String} (entries : List (String × Node))
    (unlisted : isDirectory place = false) :
    walkNode isDirectory ignore place (.directory entries) = [] := by
  rw [walkNode, unlisted, if_neg Bool.false_ne_true]

/-- What holds of nothing holds of a directory that cannot be listed, so that only listed
directories have to be looked at. -/
theorem walkNode_directory {place : List String} {entries : List (String × Node)}
    {holds : List (List String) -> Prop} (nothing : holds [])
    (listed : isDirectory place = true -> holds (filesOf isDirectory ignore place entries ++
      (sortNamed (walkEntries isDirectory ignore place entries)).flatMap fun found => found.2)) :
    holds (walkNode isDirectory ignore place (.directory entries)) := by
  cases isListed : isDirectory place with
  | false => exact walkNode_unlisted entries isListed ▸ nothing
  | true => exact walkNode_listed entries isListed ▸ listed isListed

@[simp] theorem walkNode_file (place : List String) (content : List Nat) :
    walkNode isDirectory ignore place (.file content) = [] := by
  simp [walkNode]

@[simp] theorem walkNode_link (place : List String) (target : String) :
    walkNode isDirectory ignore place (.link target) = [] := by
  simp [walkNode]

mutual

/-- What a walk finds in a node lies below the place of the node. -/
theorem below_of_mem_walkNode : {node : Node} -> {place : List String} ->
    found ∈ walkNode isDirectory ignore place node -> ∃ name rest, found = place ++ name :: rest
  | .directory entries, place, member => by
      rw [walkNode] at member
      split at member
      · rcases List.mem_append.1 member with file | deeper
        · rcases List.mem_map.1 file with ⟨entry, _, same⟩
          exact ⟨entry.1, [], same.symm⟩
        · rcases List.mem_flatMap.1 deeper with ⟨entry, within, member⟩
          rcases below_of_mem_walkEntries (mem_sortNamed.1 within) member with ⟨name, rest, same⟩
          exact ⟨entry.1, name :: rest, same⟩
      · cases member
  | .file _, _, member => by
      rw [walkNode_file] at member
      cases member
  | .link _, _, member => by
      rw [walkNode_link] at member
      cases member

theorem below_of_mem_walkEntries : {entries : List (String × Node)} -> {place : List String} ->
    {entry : String × List (List String)} ->
    entry ∈ walkEntries isDirectory ignore place entries -> found ∈ entry.2 ->
    ∃ name rest, found = place ++ entry.1 :: name :: rest
  | [], _, _, within, _ => by
      rw [walkEntries] at within
      cases within
  | (name, node) :: others, place, entry, within, member => by
      have later : entry ∈ walkEntries isDirectory ignore place others ->
          ∃ name rest, found = place ++ entry.1 :: name :: rest :=
        fun within => below_of_mem_walkEntries within member
      rw [walkEntries] at within
      split at within
      · rcases List.mem_cons.1 within with rfl | within
        · rcases below_of_mem_walkNode member with ⟨next, rest, same⟩
          exact ⟨next, rest, by rw [same, List.append_assoc]; rfl⟩
        · exact later within
      · exact later within

end

/-! ## Pruning is filtering -/

namespace Ignore

/-- Nothing is left out. -/
def nothing : Ignore := ⟨[]⟩

@[simp] theorem file_nothing (names : List String) : nothing.file names = false := rfl

@[simp] theorem directory_nothing (names : List String) : nothing.directory names = false := rfl

/-- Whether a file at a row of names below a place is kept: none of the directories on
the way is left out, nor is the file itself. -/
def admits (ignore : Ignore) (above : List String) : List String -> Bool
  | [] => true
  | [name] => !ignore.file (above ++ [name])
  | name :: next :: rest =>
    !ignore.directory (above ++ [name]) && ignore.admits (above ++ [name]) (next :: rest)

/-- What is kept of the files that were found in a subdirectory of a place. -/
def keptOf (ignore : Ignore) (place : List String) (entry : String × List (List String)) :
    List (List String) :=
  entry.2.filter fun found =>
    ignore.admits (place ++ [entry.1]) (found.drop (place ++ [entry.1]).length)

end Ignore

/-- The files of a directory are those of the walk that leaves nothing out, filtered. -/
theorem filesOf_eq_filter (place : List String) (entries : List (String × Node)) :
    filesOf isDirectory ignore place entries =
      (filesOf isDirectory .nothing place entries).filter fun found =>
        ignore.admits place (found.drop place.length) := by
  have parted : isYielded isDirectory ignore place =
      fun entry => !ignore.file (place ++ [entry.1]) &&
        isYielded isDirectory .nothing place entry := by
    funext entry
    simp only [isYielded, Ignore.file_nothing, Bool.not_false, Bool.and_true]
    exact Bool.and_comm _ _
  unfold filesOf
  rw [parted, ← List.filter_filter, sortNamed_filter, List.filter_map]
  apply congrArg
  apply List.filter_congr
  intro entry _
  simp [Ignore.admits]

/-- What is admitted of the files in a subdirectory is kept, unless the subdirectory is
left out. -/
theorem admitted_below {place : List String} {entry : String × List (List String)}
    (below : ∀ found ∈ entry.2, ∃ name rest, found = place ++ entry.1 :: name :: rest) :
    (entry.2.filter fun found => ignore.admits place (found.drop place.length)) =
      if ignore.directory (place ++ [entry.1]) then [] else ignore.keptOf place entry := by
  have same : ∀ found ∈ entry.2, ignore.admits place (found.drop place.length) =
      (!ignore.directory (place ++ [entry.1]) &&
        ignore.admits (place ++ [entry.1]) (found.drop (place ++ [entry.1]).length)) := by
    intro found member
    rcases below found member with ⟨name, rest, rfl⟩
    have inside : place ++ entry.1 :: name :: rest = (place ++ [entry.1]) ++ name :: rest := by simp
    rw [List.drop_left, inside, List.drop_left]
    rfl
  rw [List.filter_congr same]
  cases ignore.directory (place ++ [entry.1]) with
  | true => simp
  | false => simp [Ignore.keptOf]

theorem flatMap_kept {entries : List (String × List (List String))} {place : List String}
    (below : ∀ entry ∈ entries, ∀ found ∈ entry.2,
      ∃ name rest, found = place ++ entry.1 :: name :: rest) :
    ((entries.filter fun entry => !ignore.directory (place ++ [entry.1])).flatMap
        (ignore.keptOf place)) =
      (entries.flatMap Prod.snd).filter fun found =>
        ignore.admits place (found.drop place.length) := by
  induction entries with
  | nil => rfl
  | cons entry rest ih =>
      rw [List.flatMap_cons, List.filter_append, admitted_below (below entry List.mem_cons_self),
        ← ih fun other member => below other (List.mem_cons_of_mem _ member)]
      cases out : ignore.directory (place ++ [entry.1]) with
      | true => simp [out]
      | false => simp [out]

mutual

/-- A walk finds what is admitted of the files that the walk which leaves nothing out
finds, in the same order. -/
theorem walkNode_eq_filter : (node : Node) -> (place : List String) ->
    walkNode isDirectory ignore place node =
      (walkNode isDirectory .nothing place node).filter fun found =>
        ignore.admits place (found.drop place.length)
  | .directory entries, place => by
      cases listed : isDirectory place with
      | false =>
          rw [walkNode_unlisted entries listed, walkNode_unlisted entries listed]
          rfl
      | true =>
          rw [walkNode_listed entries listed, walkNode_listed entries listed, List.filter_append,
            ← filesOf_eq_filter, walkEntries_eq_filter, sortNamed_map (ignore.keptOf place),
            sortNamed_filter, List.flatMap_map, ← flatMap_kept]
          intro entry within found member
          exact below_of_mem_walkEntries (mem_sortNamed.1 within) member
  | .file _, _ => by simp
  | .link _, _ => by simp

/-- The directories that are entered are those of the walk that leaves nothing out which
are not left out themselves, and what is found in them is filtered. -/
theorem walkEntries_eq_filter : (entries : List (String × Node)) -> (place : List String) ->
    walkEntries isDirectory ignore place entries =
      ((walkEntries isDirectory .nothing place entries).filter fun entry =>
        !ignore.directory (place ++ [entry.1])).map fun entry =>
          (entry.1, ignore.keptOf place entry)
  | [], _ => by simp [walkEntries]
  | (name, node) :: rest, place => by
      rw [walkEntries, walkEntries, walkEntries_eq_filter rest place, walkNode_eq_filter node]
      by_cases control : name = controlDirectory
      · simp [isEntered, control]
      · cases out : ignore.directory (place ++ [name]) with
        | true => simp [isEntered, control, out]
        | false => simp [isEntered, control, out, Ignore.keptOf]

end

/-- What is admitted: files that are not left out, below directories none of which is. -/
theorem Ignore.admits_iff {above place : List String} {name : String} :
    ignore.admits place (above ++ [name]) = true ↔
      ignore.file (place ++ above ++ [name]) = false ∧
        ∀ front, front ≠ [] -> front <+: above -> ignore.directory (place ++ front) = false := by
  induction above generalizing place with
  | nil =>
      rw [List.nil_append, Ignore.admits, Bool.not_eq_true', List.append_nil]
      refine ⟨fun kept => ⟨kept, ?_⟩, fun kept => kept.1⟩
      intro front notEmpty leads
      exact absurd (List.prefix_nil.1 leads) notEmpty
  | cons first rest ih =>
      have unfolded : ignore.admits place (first :: rest ++ [name]) =
          (!ignore.directory (place ++ [first]) &&
            ignore.admits (place ++ [first]) (rest ++ [name])) := by
        cases rest <;> rfl
      rw [unfolded, Bool.and_eq_true, Bool.not_eq_true', ih]
      constructor
      · rintro ⟨entered, kept, below⟩
        refine ⟨by simpa using kept, ?_⟩
        rintro (_ | ⟨second, front⟩) notEmpty leads
        · exact absurd rfl notEmpty
        · rcases List.cons_prefix_cons.1 leads with ⟨rfl, behind⟩
          cases front with
          | nil => exact entered
          | cons third front => simpa using below (third :: front) nofun behind
      · rintro ⟨kept, all⟩
        refine ⟨all [first] nofun ⟨rest, rfl⟩, by simpa using kept, ?_⟩
        intro front notEmpty leads
        simpa using all (first :: front) nofun (List.cons_prefix_cons.2 ⟨rfl, leads⟩)

/-! ## What is found where nothing is left out -/

/-- An entry that is reached from a node at a place through directories alone.  All of
them can be listed, and none is the directory of the version control. -/
structure Reaches (isDirectory : List String -> Bool) (place : List String) (node : Node)
    (above : List String) (name : String) (child : Node) : Prop where
  control : controlDirectory ∉ above
  listed : ∀ front, front <+: above -> isDirectory (place ++ front) = true
  entry : ∃ entries, node.at? above = some (.directory entries) ∧ (name, child) ∈ entries

variable {place above : List String} {name : String} {child : Node}
  {entries : List (String × Node)}

theorem reaches_nil : Reaches isDirectory place (.directory entries) [] name child ↔
    isDirectory place = true ∧ (name, child) ∈ entries := by
  constructor
  · rintro ⟨_, listed, _, same, member⟩
    cases same
    exact ⟨by simpa using listed [] List.prefix_rfl, member⟩
  · rintro ⟨listed, member⟩
    refine ⟨nofun, ?_, entries, rfl, member⟩
    intro front leads
    rw [List.prefix_nil.1 leads, List.append_nil]
    exact listed

theorem reaches_cons {first : String} (distinct : (entries.map Prod.fst).Nodup) :
    Reaches isDirectory place (.directory entries) (first :: above) name child ↔
      isDirectory place = true ∧ first ≠ controlDirectory ∧ ∃ next, (first, next) ∈ entries ∧
        Reaches isDirectory (place ++ [first]) next above name child := by
  have lookUp : (Node.directory entries).at? (first :: above) =
      (Node.named? first entries).bind fun child => child.at? above := rfl
  constructor
  · rintro ⟨control, listed, inner, found, member⟩
    rw [List.mem_cons, not_or] at control
    rw [lookUp] at found
    rcases Option.bind_eq_some_iff.1 found with ⟨next, stands, below⟩
    refine ⟨by simpa using listed [] (List.nil_prefix), Ne.symm control.1, next,
      Node.mem_of_named? stands, control.2, ?_, inner, below, member⟩
    intro front leads
    simpa using listed (first :: front) (List.cons_prefix_cons.2 ⟨rfl, leads⟩)
  · rintro ⟨here, other, next, stands, control, listed, inner, below, member⟩
    refine ⟨?_, ?_, inner, ?_, member⟩
    · rw [List.mem_cons, not_or]
      exact ⟨Ne.symm other, control⟩
    · intro front leads
      rcases List.prefix_cons_iff.1 leads with rfl | ⟨rest, rfl, behind⟩
      · simpa using here
      · simpa using listed rest behind
    · rw [lookUp, (Node.named?_eq_some distinct).2 stands]
      exact below

/-- Only directories are searched. -/
theorem not_reaches {node : Node} (other : node.isDirectory = false) :
    ¬Reaches isDirectory place node above name child := by
  rintro ⟨_, _, entries, found, _⟩
  cases node with
  | directory entries => cases other
  | file content => cases above <;> cases found
  | link target => cases above <;> cases found

theorem mem_filesOf : found ∈ filesOf isDirectory ignore place entries ↔
    ∃ name child, (name, child) ∈ entries ∧ isYielded isDirectory ignore place (name, child) = true ∧
      found = place ++ [name] := by
  simp only [filesOf, List.mem_map, mem_sortNamed, List.mem_filter, Prod.exists]
  constructor
  · rintro ⟨name, child, ⟨member, yielded⟩, same⟩
    exact ⟨name, child, member, yielded, same.symm⟩
  · rintro ⟨name, child, member, yielded, same⟩
    exact ⟨name, child, ⟨member, yielded⟩, same.symm⟩

theorem mem_walkEntries {entry : String × List (List String)} :
    entry ∈ walkEntries isDirectory ignore place entries ↔
      ∃ child, (entry.1, child) ∈ entries ∧ isEntered ignore place entry.1 = true ∧
        entry.2 = walkNode isDirectory ignore (place ++ [entry.1]) child := by
  induction entries with
  | nil => simp [walkEntries]
  | cons head rest ih =>
      rcases head with ⟨name, node⟩
      have split : entry ∈ walkEntries isDirectory ignore place ((name, node) :: rest) ↔
          isEntered ignore place name = true ∧
              entry = (name, walkNode isDirectory ignore (place ++ [name]) node) ∨
            entry ∈ walkEntries isDirectory ignore place rest := by
        rw [walkEntries]
        cases isEntered ignore place name <;> simp
      rw [split, ih]
      constructor
      · rintro (⟨entered, rfl⟩ | ⟨child, member, rest⟩)
        · exact ⟨node, List.mem_cons_self, entered, rfl⟩
        · exact ⟨child, List.mem_cons_of_mem _ member, rest⟩
      · rintro ⟨child, member, entered, same⟩
        rcases List.mem_cons.1 member with here | later
        · cases here
          exact .inl ⟨entered, Prod.ext rfl same⟩
        · exact .inr ⟨child, later, entered, same⟩

/-- What a walk finds in a directory: some of its files, and what it finds in some of
its subdirectories, if the directory can be listed. -/
theorem mem_walkNode_directory : found ∈ walkNode isDirectory ignore place (.directory entries) ↔
    isDirectory place = true ∧
      ((∃ name child, (name, child) ∈ entries ∧
          isYielded isDirectory ignore place (name, child) = true ∧ found = place ++ [name]) ∨
        ∃ name child, (name, child) ∈ entries ∧ isEntered ignore place name = true ∧
          found ∈ walkNode isDirectory ignore (place ++ [name]) child) := by
  cases listed : isDirectory place with
  | false =>
      rw [walkNode_unlisted entries listed]
      simp
  | true =>
      rw [walkNode_listed entries listed, List.mem_append, mem_filesOf, List.mem_flatMap]
      refine Iff.trans (or_congr Iff.rfl ?_) (and_iff_right rfl).symm
      constructor
      · rintro ⟨entry, within, member⟩
        rcases mem_walkEntries.1 (mem_sortNamed.1 within) with ⟨child, stands, entered, same⟩
        exact ⟨entry.1, child, stands, entered, same ▸ member⟩
      · rintro ⟨name, child, stands, entered, member⟩
        exact ⟨(name, _), mem_sortNamed.2 (mem_walkEntries.2 ⟨child, stands, entered, rfl⟩), member⟩

/-- The first name below a directory tells whether a file was found in the directory or
in which of its subdirectories. -/
theorem mem_walkNode_cons {first : String} {rest : List String} :
    place ++ first :: rest ∈ walkNode isDirectory ignore place (.directory entries) ↔
      isDirectory place = true ∧ ∃ child, (first, child) ∈ entries ∧
        (rest = [] ∧ isYielded isDirectory ignore place (first, child) = true ∨
          isEntered ignore place first = true ∧
            (place ++ [first]) ++ rest ∈ walkNode isDirectory ignore (place ++ [first]) child) := by
  have joined : place ++ first :: rest = (place ++ [first]) ++ rest := by simp
  rw [mem_walkNode_directory]
  apply and_congr_right
  intro _
  constructor
  · rintro (⟨name, child, member, yielded, same⟩ | ⟨name, child, member, entered, within⟩)
    · cases List.append_cancel_left same
      exact ⟨child, member, .inl ⟨rfl, yielded⟩⟩
    · have further := below_of_mem_walkNode within
      rcases further with ⟨second, others, same⟩
      have first_eq : first = name := by
        rw [List.append_assoc] at same
        exact (List.cons.inj (List.append_cancel_left same)).1
      subst first_eq
      exact ⟨child, member, .inr ⟨entered, joined ▸ within⟩⟩
  · rintro ⟨child, member, ⟨rfl, yielded⟩ | ⟨entered, within⟩⟩
    · exact .inl ⟨first, child, member, yielded, rfl⟩
    · exact .inr ⟨first, child, member, entered, joined ▸ within⟩

theorem isYielded_eq_true : isYielded isDirectory ignore place (name, child) = true ↔
    countsAsDirectory isDirectory (place ++ [name]) child = false ∧
      Files.isSourceName name = true ∧ ignore.file (place ++ [name]) = false := by
  rw [isYielded, Bool.and_eq_true, Bool.and_eq_true, Bool.not_eq_true', Bool.not_eq_true', and_assoc]

/-- Without patterns a walk finds the entries that are reached, are no directories and
have the suffix of a source. -/
theorem mem_walkNode_nothing {node : Node} (formed : node.WellFormed) {below : List String} :
    place ++ below ∈ walkNode isDirectory .nothing place node ↔
      ∃ above name child, below = above ++ [name] ∧
        Reaches isDirectory place node above name child ∧
        countsAsDirectory isDirectory (place ++ below) child = false ∧
        Files.isSourceName name = true := by
  induction below generalizing node place with
  | nil =>
      constructor
      · intro member
        rcases below_of_mem_walkNode member with ⟨name, rest, same⟩
        simp at same
      · rintro ⟨above, name, child, same, _⟩
        simp at same
  | cons first rest ih =>
      cases node with
      | file content =>
          rw [walkNode_file]
          refine ⟨nofun, ?_⟩
          rintro ⟨above, name, child, _, reached, _⟩
          exact absurd reached (not_reaches rfl)
      | link target =>
          rw [walkNode_link]
          refine ⟨nofun, ?_⟩
          rintro ⟨above, name, child, _, reached, _⟩
          exact absurd reached (not_reaches rfl)
      | directory entries =>
          have joined : (place ++ [first]) ++ rest = place ++ first :: rest := by simp
          rw [Node.WellFormed, Node.allWellFormed_iff] at formed
          rw [mem_walkNode_cons]
          constructor
          · rintro ⟨listed, child, member, ⟨rfl, yielded⟩ | ⟨entered, within⟩⟩
            · rw [isYielded_eq_true] at yielded
              exact ⟨[], first, child, rfl, reaches_nil.2 ⟨listed, member⟩, yielded.1, yielded.2.1⟩
            · rw [ih (formed.2 _ member).2, joined] at within
              rcases within with ⟨above, last, found, rfl, reached, facts⟩
              rw [isEntered, Bool.and_eq_true, bne_iff_ne] at entered
              exact ⟨first :: above, last, found, rfl,
                (reaches_cons formed.1).2 ⟨listed, entered.1, child, member, reached⟩, facts⟩
          · rintro ⟨above, last, found, parted, reached, plain, source⟩
            cases above with
            | nil =>
                cases parted
                rcases reaches_nil.1 reached with ⟨listed, member⟩
                exact ⟨listed, found, member, .inl ⟨rfl, isYielded_eq_true.2 ⟨plain, source, rfl⟩⟩⟩
            | cons second above =>
                cases parted
                rcases (reaches_cons formed.1).1 reached with ⟨listed, other, next, member, reached⟩
                refine ⟨listed, next, member, .inr ⟨?_, ?_⟩⟩
                · rw [isEntered, bne_iff_ne.2 other]
                  rfl
                · rw [← joined] at plain
                  exact (ih (formed.2 _ member).2).2 ⟨above, last, found, rfl, reached, plain, source⟩

/-! ## Nothing is found twice -/

theorem map_fst_sortNamed_nodup {α : Type} {entries : List (String × α)}
    (distinct : (entries.map Prod.fst).Nodup) : ((sortNamed entries).map Prod.fst).Nodup :=
  ((sortNamed_perm entries).map Prod.fst).nodup_iff.2 distinct

theorem nodup_filesOf (distinct : (entries.map Prod.fst).Nodup) :
    (filesOf isDirectory ignore place entries).Nodup := by
  have names : ((entries.filter (isYielded isDirectory ignore place)).map Prod.fst).Nodup :=
    distinct.sublist (List.filter_sublist.map _)
  have sorted := map_fst_sortNamed_nodup names
  rw [List.Nodup, List.pairwise_map] at sorted
  rw [filesOf, List.Nodup, List.pairwise_map]
  refine sorted.imp ?_
  intro first second other same
  exact other (List.cons.inj (List.append_cancel_left same)).1

/-- The names of the subdirectories that are searched are among those of the entries. -/
theorem map_fst_walkEntries (entries : List (String × Node)) :
    ((walkEntries isDirectory ignore place entries).map Prod.fst).Sublist
      (entries.map Prod.fst) := by
  induction entries with
  | nil => simp [walkEntries]
  | cons entry rest ih =>
      rw [walkEntries]
      split
      · exact ih.cons_cons _
      · exact ih.cons _

mutual

/-- No file is found twice. -/
theorem nodup_walkNode : (node : Node) -> (place : List String) -> node.WellFormed ->
    (walkNode isDirectory ignore place node).Nodup
  | .directory entries, place, formed => by
      rw [Node.WellFormed] at formed
      have listed : ((walkEntries isDirectory ignore place entries).map Prod.fst).Nodup :=
        formed.1.sublist (map_fst_walkEntries entries)
      have subdirectories := map_fst_sortNamed_nodup listed
      rw [List.Nodup, List.pairwise_map] at subdirectories
      refine walkNode_directory List.nodup_nil fun _ => ?_
      rw [List.nodup_append]
      refine ⟨nodup_filesOf formed.1, ?_, ?_⟩
      · rw [List.Nodup, List.pairwise_flatMap]
        refine ⟨fun entry within => nodup_walkEntries entries place formed.2 _ (mem_sortNamed.1 within),
          subdirectories.imp_of_mem ?_⟩
        intro first second firstIn secondIn other found inFirst found' inSecond same
        rcases below_of_mem_walkEntries (mem_sortNamed.1 firstIn) inFirst with ⟨name, rest, one⟩
        rcases below_of_mem_walkEntries (mem_sortNamed.1 secondIn) inSecond with ⟨name', rest', two⟩
        rw [one, two] at same
        exact other (List.cons.inj (List.append_cancel_left same)).1
      · intro found here found' deeper same
        rcases mem_filesOf.1 here with ⟨name, _, _, _, one⟩
        rcases List.mem_flatMap.1 deeper with ⟨entry, within, inEntry⟩
        rcases below_of_mem_walkEntries (mem_sortNamed.1 within) inEntry with ⟨name', rest', two⟩
        rw [one, two] at same
        cases List.append_cancel_left same
  | .file _, _, _ => by simp
  | .link _, _, _ => by simp

theorem nodup_walkEntries : (entries : List (String × Node)) -> (place : List String) ->
    Node.AllWellFormed entries ->
    ∀ entry ∈ walkEntries isDirectory ignore place entries, entry.2.Nodup
  | [], _, _ => by simp [walkEntries]
  | (name, node) :: rest, place, formed => by
      rw [Node.AllWellFormed] at formed
      rw [walkEntries]
      split
      · exact List.forall_mem_cons.2
          ⟨nodup_walkNode node _ formed.2.1, nodup_walkEntries rest place formed.2.2⟩
      · exact nodup_walkEntries rest place formed.2.2

end

end Project
end ImportCensus

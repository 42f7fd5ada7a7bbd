import ImportCensus.Proofs.Files.WellFormed

namespace ImportCensus
namespace Files

/-!
# Following names

To follow names, a store is asked one thing only: what kind of node stands at a place that
is given by its names from the root on (`Node.kindAt`).  Contents of files play no part.

`Leads` says which way names lead from a place, and through how many links.  The links
are counted as a tree and not as a budget that shrinks, so that a way can be taken apart
at any name and put together again; `follow_eq_ok` says that following names finds the
way if and only if the budget is large enough for it.  What look-ups say of a path can
then be told from the kind of what stands at the end of its way.
-/

/-! ## Kinds -/

/-- What a look-up sees of a node. -/
inductive Kind where
  | file
  | directory
  | link (target : String)
  deriving DecidableEq, Repr

namespace Node

def kind : Node -> Kind
  | .file _ => .file
  | .directory _ => .directory
  | .link target => .link target

/-- The kind of what stands at a row of names. -/
def kindAt (node : Node) (names : List String) : Option Kind := (node.at? names).map kind

/-- The content of the file at a row of names. -/
def contentAt (node : Node) (names : List String) : Option (List Nat) :=
  match node.at? names with
  | some (.file content) => some content
  | _ => none

variable {node child root : Node} {name : String} {names place : List String}
  {entries : List (String × Node)}

theorem isDirectory_iff : node.isDirectory = true ↔ node.kind = .directory := by
  cases node <;> simp [isDirectory, kind]

theorem isFile_iff : node.isFile = true ↔ node.kind = .file := by
  cases node <;> simp [isFile, kind]

theorem kindAt_eq_directory :
    node.kindAt names = some .directory ↔ ∃ entries, node.at? names = some (.directory entries) := by
  unfold kindAt
  cases node.at? names with
  | none => simp
  | some found => cases found <;> simp [kind]

theorem kindAt_eq_link {target : String} :
    node.kindAt names = some (.link target) ↔ node.at? names = some (.link target) := by
  unfold kindAt
  cases node.at? names with
  | none => simp
  | some found => cases found <;> simp [kind]

theorem kindAt_eq_none : node.kindAt names = none ↔ node.at? names = none := by
  simp [kindAt]

/-- What stands behind a name of a directory. -/
theorem at?_snoc (here : root.at? place = some (.directory entries)) :
    root.at? (place ++ [name]) = named? name entries := by
  rw [at?_append, here]
  show ((named? name entries).bind fun child => child.at? []) = named? name entries
  cases named? name entries with
  | none => rfl
  | some child => rfl

/-- Something stands only behind directories. -/
theorem kindAt_of_append {behind : List String} (filled : behind ≠ [])
    (stands : root.kindAt (place ++ behind) ≠ none) : root.kindAt place = some .directory := by
  rw [Ne, kindAt_eq_none, at?_append] at stands
  rw [kindAt_eq_directory]
  cases found : root.at? place with
  | none =>
      rw [found] at stands
      exact absurd rfl stands
  | some node =>
      rw [found] at stands
      cases behind with
      | nil => exact absurd rfl filled
      | cons name rest =>
          cases node with
          | directory entries => exact ⟨entries, rfl⟩
          | file content => exact absurd rfl stands
          | link target => exact absurd rfl stands

end Node

/-- Where a path begins that is met at a place. -/
def Path.start (path : Path) (place : List String) : List String :=
  if path.anchor = 0 then place else []

/-! ## Single steps -/

section

variable {root : Node} {links : Nat} {place rest : List String} {name : String}

theorem follow_nil : follow root links place [] = .ok place := by
  rw [follow]

/-- In a directory, what follows depends on the kind of the entry that is named. -/
theorem follow_cons (here : root.kindAt place = some .directory) :
    follow root links place (name :: rest) =
      if name = ".." then follow root links place.dropLast rest
      else if longestName < name.utf8ByteSize then .error .nameTooLong
      else match root.kindAt (place ++ [name]) with
        | none => .error .missing
        | some (.link target) =>
          match links with
          | 0 => .error .tooManyLinks
          | links + 1 =>
            follow root links ((Path.ofText target).start place)
              ((Path.ofText target).names ++ rest)
        | some _ => follow root links (place ++ [name]) rest := by
  rcases Node.kindAt_eq_directory.1 here with ⟨entries, found⟩
  rw [follow, found, Node.kindAt, Node.at?_snoc found]
  dsimp only
  split
  · rfl
  · split
    · rfl
    · cases stands : Node.named? name entries with
      | none => rfl
      | some node =>
          cases node with
          | file content => rfl
          | directory inner => rfl
          | link target => cases links <;> rfl

theorem follow_cons_of_ne (here : root.kindAt place ≠ some .directory) :
    follow root links place (name :: rest) = .error .notDirectory := by
  rw [follow]
  split
  · rename_i entries found
    exact absurd (Node.kindAt_eq_directory.2 ⟨entries, found⟩) here
  · rfl

end

/-- To show something of all names that are followed, it is enough to show it of a row of
names where it holds of the shorter rows with the same budget, and of all rows with less. -/
theorem follow_induction {motive : Nat -> List String -> List String -> Prop}
    (nil : ∀ links place, motive links place [])
    (cons : ∀ links place name rest, (∀ next, motive links next rest) ->
      (∀ fewer < links, ∀ next pending, motive fewer next pending) ->
      motive links place (name :: rest)) :
    ∀ links place pending, motive links place pending := by
  intro links
  induction links using Nat.strongRecOn with
  | ind links fewer =>
      intro place pending
      induction pending generalizing place with
      | nil => exact nil links place
      | cons name rest shorter => exact cons links place name rest shorter fewer

/-! ## Ways -/

/-- The way that names lead from a place, and the number of links on it.  What comes behind
a link is a way of its own. -/
inductive Leads (root : Node) : Nat -> List String -> List String -> List String -> Prop
  | here (place : List String) : Leads root 0 place [] place
  | up {count : Nat} {place rest last : List String}
      (within : root.kindAt place = some .directory)
      (onward : Leads root count place.dropLast rest last) :
      Leads root count place (".." :: rest) last
  | enter {count : Nat} {place rest last : List String} {name : String} {kind : Kind}
      (within : root.kindAt place = some .directory) (proper : name ≠ "..")
      (short : name.utf8ByteSize ≤ longestName)
      (stands : root.kindAt (place ++ [name]) = some kind)
      (plain : ∀ target, kind ≠ .link target)
      (onward : Leads root count (place ++ [name]) rest last) :
      Leads root count place (name :: rest) last
  | through {inner outer : Nat} {place rest next last : List String} {name target : String}
      (within : root.kindAt place = some .directory) (proper : name ≠ "..")
      (short : name.utf8ByteSize ≤ longestName)
      (stands : root.kindAt (place ++ [name]) = some (.link target))
      (inward : Leads root inner ((Path.ofText target).start place) (Path.ofText target).names next)
      (onward : Leads root outer next rest last) :
      Leads root (inner + outer + 1) place (name :: rest) last

namespace Leads

variable {root : Node} {count other : Nat} {place next last : List String} {name : String}

/-- A way is followed to its end, whatever comes behind it, and uses up as much of the
budget as there are links on it. -/
theorem follow {pending : List String} (leads : Leads root count place pending last)
    (extra : Nat) (more : List String) :
    Files.follow root (count + extra) place (pending ++ more) =
      Files.follow root extra last more := by
  induction leads generalizing extra more with
  | here place => rw [Nat.zero_add, List.nil_append]
  | up within onward ih =>
      rw [List.cons_append, follow_cons within, if_pos rfl]
      exact ih extra more
  | enter within proper short stands plain onward ih =>
      rw [List.cons_append, follow_cons within, if_neg proper, if_neg (Nat.not_lt.2 short), stands]
      split
      · rename_i absent
        cases absent
      · rename_i target same
        exact absurd (Option.some.inj same) (plain target)
      · exact ih extra more
  | @through inner outer place rest next last name target within proper short stands inward onward
      ihInward ihOnward =>
      have budget : inner + outer + 1 + extra = (inner + (outer + extra)) + 1 := by omega
      rw [List.cons_append, follow_cons within, if_neg proper, if_neg (Nat.not_lt.2 short), stands,
        budget]
      dsimp only
      rw [ihInward, ihOnward]

/-- A way can be taken apart behind any name. -/
theorem split {front behind : List String} (leads : Leads root count place (front ++ behind) last) :
    ∃ first second middle, Leads root first place front middle ∧
      Leads root second middle behind last ∧ first + second = count := by
  induction front generalizing count place with
  | nil => exact ⟨0, count, place, .here place, leads, Nat.zero_add count⟩
  | cons name front ih =>
      cases leads with
      | up within onward =>
          rcases ih onward with ⟨first, second, middle, one, two, sum⟩
          exact ⟨first, second, middle, .up within one, two, sum⟩
      | enter within proper short stands plain onward =>
          rcases ih onward with ⟨first, second, middle, one, two, sum⟩
          exact ⟨first, second, middle, .enter within proper short stands plain one, two, sum⟩
      | @through inner outer _ _ next _ _ _ within proper short stands inward onward =>
          rcases ih onward with ⟨first, second, middle, one, two, sum⟩
          exact ⟨inner + first + 1, second, middle, .through within proper short stands inward one,
            two, by omega⟩

/-- Names lead one way from a place, with one number of links on it. -/
theorem unique {pending again : List String} (leads : Leads root count place pending last)
    (alike : Leads root other place pending again) : count = other ∧ last = again := by
  induction leads generalizing other again with
  | here place =>
      cases alike
      exact ⟨rfl, rfl⟩
  | up within onward ih =>
      cases alike with
      | up _ onward => exact ih onward
      | enter _ proper => exact absurd rfl proper
      | through _ proper => exact absurd rfl proper
  | enter within proper short stands plain onward ih =>
      cases alike with
      | up => exact absurd rfl proper
      | enter _ _ _ _ _ onward => exact ih onward
      | through _ _ _ link =>
          rw [stands] at link
          exact absurd (Option.some.inj link) (plain _)
  | through within proper short stands inward onward ihInward ihOnward =>
      cases alike with
      | up => exact absurd rfl proper
      | enter _ _ _ link plain =>
          rw [stands] at link
          exact absurd (Option.some.inj link).symm (plain _)
      | through _ _ _ link inward onward =>
          rw [stands] at link
          cases link
          rcases ihInward inward with ⟨rfl, rfl⟩
          rcases ihOnward onward with ⟨rfl, rfl⟩
          exact ⟨rfl, rfl⟩

/-- A single name leads to its entry, or to where the link leads that the entry is. -/
theorem single (proper : name ≠ "..") (leads : Leads root count place [name] last) :
    last = place ++ [name] ∨ ∃ target, ∃ inner < count,
      root.kindAt (place ++ [name]) = some (.link target) ∧
        Leads root inner ((Path.ofText target).start place) (Path.ofText target).names last := by
  cases leads with
  | up => exact absurd rfl proper
  | enter _ _ _ _ _ onward =>
      cases onward
      exact .inl rfl
  | @through inner outer _ _ _ _ _ target _ _ _ stands inward onward =>
      cases onward
      exact .inr ⟨target, inner, by omega, stands, inward⟩

end Leads

/-- Names are followed if and only if they lead somewhere through so many links at most. -/
theorem follow_eq_ok {root : Node} {links : Nat} {place pending last : List String} :
    follow root links place pending = .ok last ↔
      ∃ count ≤ links, Leads root count place pending last := by
  constructor
  · revert last
    induction links, place, pending using follow_induction with
    | nil links place =>
        intro last found
        rw [follow_nil] at found
        cases found
        exact ⟨0, Nat.zero_le _, .here place⟩
    | cons links place name rest shorter fewer =>
        intro last found
        by_cases within : root.kindAt place = some .directory
        · rw [follow_cons within] at found
          split at found
          · rename_i above
            subst above
            rcases shorter _ found with ⟨count, enough, leads⟩
            exact ⟨count, enough, .up within leads⟩
          · rename_i proper
            split at found
            · cases found
            · rename_i notLong
              have short := Nat.not_lt.1 notLong
              split at found
              · cases found
              · rename_i target stands
                cases links with
                | zero => cases found
                | succ links =>
                    rcases fewer links (Nat.lt_succ_self links) _ _ found with
                      ⟨count, enough, leads⟩
                    rcases leads.split with ⟨inner, outer, next, inward, onward, sum⟩
                    exact ⟨inner + outer + 1, by omega,
                      .through within proper short stands inward onward⟩
              · rename_i kind other stands
                rcases shorter _ found with ⟨count, enough, leads⟩
                refine ⟨count, enough, .enter within proper short stands ?_ leads⟩
                rintro target rfl
                exact other target rfl
        · rw [follow_cons_of_ne within] at found
          cases found
  · rintro ⟨count, enough, leads⟩
    have followed := leads.follow (links - count) []
    rw [List.append_nil, follow_nil] at followed
    rwa [Nat.add_sub_cancel' enough] at followed

/-! ## Rows of directories -/

section

variable {root : Node} {links count : Nat} {place row rest last : List String} {name : String}

/-- Whether all names of a row are short enough to be looked up. -/
def shortNames (names : List String) : Bool :=
  names.all fun name => decide (name.utf8ByteSize ≤ longestName)

/-- Names of directories lead through these directories, if they are short enough. -/
theorem follow_row (proper : ∀ name ∈ row, name ≠ "..")
    (within : root.kindAt (place ++ row) = some .directory) :
    follow root links place (row ++ rest) =
      if shortNames row then follow root links (place ++ row) rest else .error .nameTooLong := by
  induction row generalizing place with
  | nil =>
      rw [List.append_nil]
      rfl
  | cons name row ih =>
      have stands : root.kindAt (place ++ name :: row) ≠ none := by
        rw [within]
        exact nofun
      have here : root.kindAt place = some .directory :=
        Node.kindAt_of_append (List.cons_ne_nil name row) stands
      have joined : place ++ name :: row = (place ++ [name]) ++ row := by simp
      rw [joined] at within ⊢
      have next : root.kindAt (place ++ [name]) = some .directory := by
        cases row with
        | nil => rwa [List.append_nil] at within
        | cons second row =>
            apply Node.kindAt_of_append (List.cons_ne_nil second row)
            rw [within]
            exact nofun
      have later := ih (fun other member => proper other (List.mem_cons_of_mem _ member)) within
      rw [List.cons_append, follow_cons here, if_neg (proper name List.mem_cons_self), next]
      dsimp only
      rw [later]
      unfold shortNames
      by_cases short : name.utf8ByteSize ≤ longestName
      · simp [short, Nat.not_lt.2 short]
      · simp [short, Nat.lt_of_not_le short]

/-- From the root on, names of directories lead to the last of these. -/
theorem follow_directory (links : Nat) (proper : ∀ name ∈ row, name ≠ "..")
    (within : root.kindAt row = some .directory) :
    follow root links [] row = if shortNames row then .ok row else .error .nameTooLong := by
  have walked : follow root links [] (row ++ []) = _ := follow_row proper within
  rwa [List.append_nil, List.nil_append, follow_nil] at walked

theorem Leads.eq_row (leads : Leads root count [] row last) (proper : ∀ name ∈ row, name ≠ "..")
    (within : root.kindAt row = some .directory) : last = row := by
  have found := leads.follow 0 []
  rw [List.append_nil, follow_nil, follow_directory _ proper within] at found
  split at found
  · exact (Except.ok.inj found).symm
  · cases found

/-- An entry of a directory that is no link is found if it is there. -/
theorem follow_entry (proper : ∀ other ∈ row ++ [name], other ≠ "..")
    (within : root.kindAt row = some .directory)
    (plain : ∀ target, root.kindAt (row ++ [name]) ≠ some (.link target)) :
    follow root links [] (row ++ [name]) =
      if shortNames (row ++ [name]) then
        if root.kindAt (row ++ [name]) = none then .error .missing else .ok (row ++ [name])
      else .error .nameTooLong := by
  have above : ∀ other ∈ row, other ≠ ".." := fun other member =>
    proper other (List.mem_append_left _ member)
  have last : name ≠ ".." := proper name (List.mem_append_right _ List.mem_cons_self)
  rw [follow_row above within, List.nil_append, follow_cons within, if_neg last]
  unfold shortNames
  rw [List.all_append]
  cases row.all fun name => decide (name.utf8ByteSize ≤ longestName) with
  | false => rfl
  | true =>
      by_cases short : name.utf8ByteSize ≤ longestName
      · rw [if_pos rfl, if_neg (Nat.not_lt.2 short)]
        cases stands : root.kindAt (row ++ [name]) with
        | none => simp [short]
        | some kind =>
            cases kind with
            | link target => exact absurd stands (plain target)
            | file => simp [short, follow_nil]
            | directory => simp [short, follow_nil]
      · simp [short, Nat.lt_of_not_le short]

end

/-! ## Look-ups by kinds -/

namespace Store

variable {store : Store} {path : Path} {names : List String}

theorem node_of_place (placed : store.place path = .ok names) :
    store.node path = match store.root.at? names with
      | some node => .ok node
      | none => .error .missing := by
  unfold node
  rw [placed]
  rfl

theorem node_of_error {fault : LookupFault} (failed : store.place path = .error fault) :
    store.node path = .error fault := by
  unfold node
  rw [failed]
  rfl

/-- A path leads to a node of some kind if its place is one of such a node. -/
theorem holds_iff {property : Node -> Bool} {kind : Kind}
    (isKind : ∀ node, property node = true ↔ node.kind = kind) :
    store.holds property path = true ↔
      ∃ names, store.place path = .ok names ∧ store.root.kindAt names = some kind := by
  unfold holds
  cases placed : store.place path with
  | error fault =>
      rw [node_of_error placed]
      simp
  | ok names =>
      rw [node_of_place placed]
      unfold Node.kindAt
      cases found : store.root.at? names with
      | none => simp [found]
      | some node => simp [found, isKind]

theorem holds_isDirectory : store.holds Node.isDirectory path = true ↔
    ∃ names, store.place path = .ok names ∧ store.root.kindAt names = some .directory :=
  holds_iff fun _ => Node.isDirectory_iff

theorem holds_isFile : store.holds Node.isFile path = true ↔
    ∃ names, store.place path = .ok names ∧ store.root.kindAt names = some .file :=
  holds_iff fun _ => Node.isFile_iff

theorem test_isFile (placed : store.place path = .ok names) :
    store.test Node.isFile path = .ok (decide (store.root.kindAt names = some .file)) := by
  unfold test
  rw [node_of_place placed]
  unfold Node.kindAt
  cases store.root.at? names with
  | none => rfl
  | some node => cases node <;> rfl

/-- What is read of a path depends on the kind and the content at its place. -/
theorem content_of_place (placed : store.place path = .ok names) :
    store.content path = match store.root.kindAt names, store.root.contentAt names with
      | none, _ => .error .missing
      | some _, some content => .ok content
      | some _, none => .error .isDirectory := by
  unfold content
  rw [node_of_place placed]
  unfold Node.kindAt Node.contentAt
  cases store.root.at? names with
  | none => rfl
  | some node => cases node <;> rfl

theorem content_of_error {fault : LookupFault} (failed : store.place path = .error fault) :
    store.content path = .error fault := by
  unfold content
  rw [node_of_error failed]
  rfl

/-- Only a file has a content. -/
theorem node_of_content {bytes : List Nat} (opened : store.content path = .ok bytes) :
    store.node path = .ok (.file bytes) := by
  unfold content at opened
  cases found : store.node path with
  | error fault =>
      rw [found] at opened
      cases opened
  | ok node =>
      rw [found] at opened
      cases node with
      | file other =>
          cases opened
          rfl
      | directory entries => cases opened
      | link target => cases opened

theorem isFile_of_content {bytes : List Nat} (opened : store.content path = .ok bytes) :
    store.test Node.isFile path = .ok true := by
  unfold test
  rw [node_of_content opened]
  rfl

end Store

end Files
end ImportCensus

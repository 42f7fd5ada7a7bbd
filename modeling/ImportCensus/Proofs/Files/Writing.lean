import ImportCensus.Files.Edit
import ImportCensus.Proofs.Files.Alike

namespace ImportCensus
namespace Files

/-!
# Writing a file

A file that is written at a place may be a new one, or take the place of a file that was
there.  All other places stay as they are (`Store.Writes`).  Look-ups go through directories
and links, and a file is neither; so what a path leads to is the same before and after,
unless nothing was there and the path now leads to the new file, or would have to go
through it (`Store.Writes.place_eq_or`).
-/

/-! ## What is written -/

/-- One store comes from another by writing a file at a place. -/
structure Store.Writes (store : Store) (place : List String) (content : List Nat)
    (written : Store) : Prop where
  working : written.working = store.working
  /-- Nothing was at the place but perhaps a file. -/
  before : store.root.kindAt place = none ∨ store.root.kindAt place = some .file
  after : written.root.at? place = some (.file content)
  kinds : ∀ names, names ≠ place -> written.root.kindAt names = store.root.kindAt names
  contents : ∀ names, names ≠ place -> written.root.contentAt names = store.root.contentAt names

namespace Store.Writes

variable {store written : Store} {place : List String} {content : List Nat} {path : Path}

theorem kindAt_after (writes : store.Writes place content written) :
    written.root.kindAt place = some .file := by
  rw [Node.kindAt, writes.after]
  rfl

/-- Directories and links are where they were. -/
theorem kindAt_iff (writes : store.Writes place content written) {names : List String} {kind : Kind}
    (other : kind ≠ .file) :
    written.root.kindAt names = some kind ↔ store.root.kindAt names = some kind := by
  by_cases here : names = place
  · rw [here, writes.kindAt_after]
    have notAfter : ¬(some Kind.file = some kind) := fun same => other (Option.some.inj same).symm
    have notBefore : ¬(store.root.kindAt place = some kind) := by
      rcases writes.before with none | file
      · rw [none]
        exact nofun
      · rw [file]
        exact notAfter
    exact iff_of_false notAfter notBefore
  · rw [writes.kinds names here]

/-- Names that are followed come to the same end, unless nothing was at the place and they
lead there now or through it. -/
theorem follow_eq_or (writes : store.Writes place content written) (links : Nat)
    (start pending : List String) :
    follow written.root links start pending = follow store.root links start pending ∨
      store.root.kindAt place = none ∧
        follow store.root links start pending = .error .missing ∧
        (follow written.root links start pending = .ok place ∨
          follow written.root links start pending = .error .notDirectory) := by
  induction links, start, pending using follow_induction with
  | nil links start =>
      rw [follow_nil, follow_nil]
      exact .inl rfl
  | cons links start name rest shorter fewer =>
      have directory : written.root.kindAt start = some .directory ↔
          store.root.kindAt start = some .directory := writes.kindAt_iff nofun
      by_cases within : store.root.kindAt start = some .directory
      · rw [follow_cons within, follow_cons (directory.2 within)]
        by_cases above : name = ".."
        · rw [if_pos above, if_pos above]
          exact shorter _
        · rw [if_neg above, if_neg above]
          by_cases long : longestName < name.utf8ByteSize
          · rw [if_pos long, if_pos long]
            exact .inl rfl
          · rw [if_neg long, if_neg long]
            by_cases here : start ++ [name] = place
            · rw [here, writes.kindAt_after]
              rcases writes.before with none | file
              · rw [none]
                refine .inr ⟨rfl, rfl, ?_⟩
                dsimp only
                -- The new file ends the way, or stands in it.
                cases rest with
                | nil =>
                    rw [follow_nil]
                    exact .inl rfl
                | cons next rest =>
                    rw [follow_cons_of_ne (by rw [writes.kindAt_after]; exact nofun)]
                    exact .inr rfl
              · have onward := shorter place
                rw [file] at onward ⊢
                exact onward
            · rw [writes.kinds _ here]
              cases stands : store.root.kindAt (start ++ [name]) with
              | none => exact .inl rfl
              | some kind =>
                  cases kind with
                  | file => exact shorter _
                  | directory => exact shorter _
                  | link target =>
                      cases links with
                      | zero => exact .inl rfl
                      | succ links => exact fewer links (Nat.lt_succ_self links) _ _
      · have without := mt directory.1 within
        rw [follow_cons_of_ne within, follow_cons_of_ne without]
        exact .inl rfl

/-- A path has the same place, unless nothing was there and it leads to the new file now or
through it. -/
theorem place_eq_or (writes : store.Writes place content written) (path : Path) :
    written.place path = store.place path ∨
      store.root.kindAt place = none ∧ store.place path = .error .missing ∧
        (written.place path = .ok place ∨ written.place path = .error .notDirectory) := by
  have origin : written.origin path = store.origin path := by
    unfold Store.origin
    rw [writes.working]
  unfold Store.place
  split
  · exact .inl rfl
  · split
    · exact .inl rfl
    · rw [origin]
      exact writes.follow_eq_or _ _ _

/-- Where a file is written over, only its content changes. -/
theorem alike_of_replaces (writes : store.Writes place content written)
    (replaces : store.root.kindAt place = some .file) : store.Alike written where
  working := writes.working
  kinds := by
    intro names
    by_cases here : names = place
    · rw [here, writes.kindAt_after, replaces]
    · exact writes.kinds names here

/-- The same paths lead to directories. -/
theorem holds_isDirectory (writes : store.Writes place content written) (path : Path) :
    written.holds Node.isDirectory path = store.holds Node.isDirectory path := by
  rw [Bool.eq_iff_iff, Store.holds_isDirectory, Store.holds_isDirectory]
  have directory : ∀ names, written.root.kindAt names = some .directory ↔
      store.root.kindAt names = some .directory := fun _ => writes.kindAt_iff nofun
  rcases writes.place_eq_or path with same | ⟨_, missing, placed | failed⟩
  · rw [same]
    simp only [directory]
  · rw [missing, placed]
    simp [writes.kindAt_after]
  · rw [missing, failed]
    simp

/-- The same paths lead to files, apart from those that lead to a new one. -/
theorem holds_isFile (writes : store.Writes place content written)
    (elsewhere : written.place path ≠ .ok place ∨ store.root.kindAt place = some .file) :
    written.holds Node.isFile path = store.holds Node.isFile path := by
  rw [Bool.eq_iff_iff, Store.holds_isFile, Store.holds_isFile]
  rcases writes.place_eq_or path with same | ⟨none, missing, placed | failed⟩
  · rw [← same]
    have kinds : ∀ names, written.place path = .ok names ->
        written.root.kindAt names = store.root.kindAt names := by
      intro names placed
      by_cases here : names = place
      · rcases elsewhere with other | file
        · rw [here] at placed
          exact absurd placed other
        · rw [here, writes.kindAt_after, file]
      · exact writes.kinds names here
    constructor
    · rintro ⟨names, placed, file⟩
      exact ⟨names, placed, (kinds names placed).symm.trans file⟩
    · rintro ⟨names, placed, file⟩
      exact ⟨names, placed, (kinds names placed).trans file⟩
  · rcases elsewhere with other | file
    · exact absurd placed other
    · rw [none] at file
      cases file
  · rw [missing, failed]
    simp

/-- Where a path leads to what is written, this is what is read. -/
theorem content_here (writes : store.Writes place content written)
    (placed : written.place path = .ok place) : written.content path = .ok content := by
  rw [Store.content_of_place placed, writes.kindAt_after, Node.contentAt, writes.after]

/-- What is read of a path is the same, if the path does not lead to what is written. -/
theorem content_eq (writes : store.Writes place content written)
    (same : written.place path = store.place path) (elsewhere : store.place path ≠ .ok place) :
    written.content path = store.content path := by
  cases placed : store.place path with
  | error fault =>
      rw [placed] at same
      rw [Store.content_of_error placed, Store.content_of_error same]
  | ok names =>
      rw [placed] at same
      have other : names ≠ place := by
        rintro rfl
        exact elsewhere placed
      rw [Store.content_of_place placed, Store.content_of_place same, writes.kinds names other,
        writes.contents names other]

/-- The same is read of a path, or nothing both times, if the path does not lead to what is
written. -/
theorem content_toOption (writes : store.Writes place content written)
    (elsewhere : written.place path ≠ .ok place) :
    (written.content path).toOption = (store.content path).toOption := by
  rcases writes.place_eq_or path with same | ⟨_, missing, placed | failed⟩
  · rw [writes.content_eq same fun placed => elsewhere (same.trans placed)]
  · exact absurd placed elsewhere
  · rw [Store.content_of_error missing, Store.content_of_error failed]
    rfl

/-- A path is tested for a file with the same answer, if it does not lead to what is written. -/
theorem test_isFile (writes : store.Writes place content written)
    (same : written.place path = store.place path) (elsewhere : store.place path ≠ .ok place) :
    written.test Node.isFile path = store.test Node.isFile path := by
  cases placed : store.place path with
  | error fault =>
      rw [placed] at same
      unfold Store.test
      rw [Store.node_of_error placed, Store.node_of_error same]
  | ok names =>
      rw [placed] at same
      have other : names ≠ place := by
        rintro rfl
        exact elsewhere placed
      rw [Store.test_isFile placed, Store.test_isFile same, writes.kinds names other]

end Store.Writes

/-! ## Putting a file at a path -/

theorem named?_setNamed {name other : String} {node : Node} {entries : List (String × Node)} :
    Node.named? other (setNamed name node entries) =
      if other = name then some node else Node.named? other entries := by
  induction entries with
  | nil => simp [setNamed, Node.named?, eq_comm]
  | cons entry rest ih =>
      rcases entry with ⟨key, inner⟩
      rw [setNamed]
      by_cases here : key = name
      · subst here
        rw [if_pos rfl, Node.named?, Node.named?]
        by_cases same : other = key
        · simp [same]
        · simp [same, Ne.symm same]
      · rw [if_neg here, Node.named?, Node.named?, ih]
        by_cases same : key = other
        · subst same
          simp [here]
        · simp [same]

namespace Node

variable {root : Node} {dir names : List String} {name : String} {content : List Nat}

/-- What stands in a directory stands in one of its entries. -/
theorem kindAt_cons {entries : List (String × Node)} {rest : List String} :
    (directory entries).kindAt (name :: rest) =
      (named? name entries).bind fun child => child.kindAt rest := by
  unfold kindAt
  rw [at?]
  cases named? name entries <;> rfl

theorem contentAt_of_directory (here : root.kindAt names = some .directory) :
    root.contentAt names = none := by
  rcases kindAt_eq_directory.1 here with ⟨entries, found⟩
  unfold contentAt
  rw [found]

theorem put_file_nil (found : Option Node) : (file content).put [] found = file content := by
  cases found with
  | none => rfl
  | some node => cases node <;> rfl

/-- Behind the name that was set stands what stands in its new node, and behind any other name
what stood there. -/
theorem at?_setNamed {node : Node} {entries : List (String × Node)} {first : String}
    {rest : List String} :
    (directory (setNamed name node entries)).at? (first :: rest) =
      if first = name then node.at? rest else (directory entries).at? (first :: rest) := by
  rw [at?, at?, named?_setNamed]
  split <;> rfl

/-- Nothing stands behind an entry that is a file, or that is not there. -/
theorem at?_behind_file {entries : List (String × Node)} {second : String} {rest : List String}
    (before : (directory entries).kindAt [name] = none ∨
      (directory entries).kindAt [name] = some .file) :
    (directory entries).at? (name :: second :: rest) = none := by
  rw [kindAt_cons] at before
  rw [at?]
  cases stands : named? name entries with
  | none => rfl
  | some child =>
      rw [stands] at before
      cases child with
      | file old => rfl
      | directory inner => rcases before with before | before <;> cases before
      | link target => rcases before with before | before <;> cases before

/-- A file that is put into a directory where nothing of its name is, or a file, is what
stands there; everything else stands where it did, but for the entries of the
directories above. -/
theorem at?_put_file (content : List Nat) (within : root.kindAt dir = some .directory)
    (before : root.kindAt (dir ++ [name]) = none ∨ root.kindAt (dir ++ [name]) = some .file) :
    ((file content).put (dir ++ [name]) (some root)).at? (dir ++ [name]) = some (.file content) ∧
      ∀ names, names ≠ dir ++ [name] ->
        ((file content).put (dir ++ [name]) (some root)).at? names = root.at? names ∨
          ((file content).put (dir ++ [name]) (some root)).kindAt names = some .directory ∧
            root.kindAt names = some .directory := by
  induction dir generalizing root with
  | nil =>
      rcases kindAt_eq_directory.1 within with ⟨entries, found⟩
      cases found
      rw [List.nil_append] at before ⊢
      have put : (file content).put [name] (some (directory entries)) =
          directory (setNamed name (file content) entries) := by
        rw [Node.put, put_file_nil]
      rw [put]
      constructor
      · rw [at?_setNamed, if_pos rfl]
        rfl
      · intro names other
        cases names with
        | nil => exact .inr ⟨rfl, rfl⟩
        | cons first rest =>
            refine .inl ?_
            rw [at?_setNamed]
            split
            · next same =>
              subst same
              cases rest with
              | nil => exact absurd rfl other
              | cons second rest => exact (at?_behind_file before).symm
            · rfl
  | cons first dir ih =>
      cases root with
      | file old => cases within
      | link target => cases within
      | directory entries =>
          rw [kindAt_cons] at within
          rcases Option.bind_eq_some_iff.1 within with ⟨child, stands, below⟩
          rw [List.cons_append, kindAt_cons, stands] at before
          rcases ih below before with ⟨here, elsewhere⟩
          have put : (file content).put (first :: (dir ++ [name])) (some (directory entries)) =
              directory (setNamed first ((file content).put (dir ++ [name]) (some child))
                entries) := by
            rw [Node.put, stands]
          rw [List.cons_append, put]
          constructor
          · rw [at?_setNamed, if_pos rfl]
            exact here
          · intro names other
            cases names with
            | nil => exact .inr ⟨rfl, rfl⟩
            | cons second rest =>
                rw [kindAt, kindAt, at?_setNamed]
                split
                · next same =>
                  subst same
                  rw [at?, stands]
                  exact elsewhere rest fun equal => other (equal ▸ rfl)
                · exact .inl rfl

/-! ## Well-formed nodes -/

theorem mem_setNamed {node : Node} {entry : String × Node} {entries : List (String × Node)}
    (member : entry ∈ setNamed name node entries) : entry = (name, node) ∨ entry ∈ entries := by
  induction entries with
  | nil => exact .inl (List.mem_singleton.1 member)
  | cons first rest ih =>
      rcases first with ⟨key, inner⟩
      rw [setNamed] at member
      split at member
      · rename_i same
        subst same
        rcases List.mem_cons.1 member with here | later
        · exact .inl here
        · exact .inr (List.mem_cons_of_mem _ later)
      · rcases List.mem_cons.1 member with here | later
        · exact .inr (here ▸ List.mem_cons_self)
        · exact (ih later).imp_right (List.mem_cons_of_mem _)

theorem wellFormed_setNamed {node : Node} {entries : List (String × Node)}
    (formed : (directory entries).WellFormed) (entry : IsEntryName name)
    (inner : node.WellFormed) : (directory (setNamed name node entries)).WellFormed := by
  rw [WellFormed, allWellFormed_iff] at formed ⊢
  constructor
  · induction entries with
    | nil => simp [setNamed]
    | cons first rest ih =>
        rcases first with ⟨key, other⟩
        have distinct := List.nodup_cons.1 formed.1
        rw [setNamed]
        split
        · exact formed.1
        · rename_i different
          have later := ih ⟨distinct.2, fun entry member => formed.2 entry (List.mem_cons_of_mem _ member)⟩
          refine List.nodup_cons.2 ⟨?_, later⟩
          intro member
          rcases List.mem_map.1 member with ⟨found, stands, same⟩
          rcases mem_setNamed stands with rfl | stands
          · exact different same.symm
          · exact distinct.1 (List.mem_map.2 ⟨found, stands, same⟩)
  · intro found member
    rcases mem_setNamed member with rfl | member
    · exact ⟨entry, inner⟩
    · exact formed.2 found member

theorem wellFormed_put_file (formed : root.WellFormed) (within : root.kindAt dir = some .directory)
    (entry : IsEntryName name) :
    ((file content).put (dir ++ [name]) (some root)).WellFormed := by
  induction dir generalizing root with
  | nil =>
      rcases kindAt_eq_directory.1 within with ⟨entries, found⟩
      cases found
      rw [List.nil_append, Node.put, put_file_nil]
      exact wellFormed_setNamed formed entry trivial
  | cons first dir ih =>
      cases root with
      | file old => cases within
      | link target => cases within
      | directory entries =>
          rw [kindAt_cons] at within
          rcases Option.bind_eq_some_iff.1 within with ⟨child, stands, below⟩
          have listed := mem_of_named? stands
          have inner := allWellFormed_iff.1 (by rw [WellFormed] at formed; exact formed.2) _ listed
          rw [List.cons_append, Node.put, stands]
          exact wellFormed_setNamed formed inner.1 (ih inner.2 below)

end Node

namespace Store

variable {store : Store} {path : Path} {dir : List String} {name : String} {content : List Nat}

/-- Putting a file at a path writes it at the entry that the path leads to. -/
theorem writes_put (content : List Nat) (entry : store.entryPlace path = dir ++ [name])
    (within : store.root.kindAt dir = some .directory)
    (before : store.root.kindAt (dir ++ [name]) = none ∨
      store.root.kindAt (dir ++ [name]) = some .file) :
    store.Writes (dir ++ [name]) content (store.put path (.file content)) := by
  have root : (store.put path (.file content)).root =
      (Node.file content).put (dir ++ [name]) (some store.root) := by
    rw [put, entry]
  rcases Node.at?_put_file content within before with ⟨here, elsewhere⟩
  refine ⟨rfl, before, by rw [root]; exact here, ?_, ?_⟩
  · intro names other
    rw [root]
    rcases elsewhere names other with same | ⟨after, was⟩
    · rw [Node.kindAt, Node.kindAt, same]
    · rw [after, was]
  · intro names other
    rw [root]
    rcases elsewhere names other with same | ⟨after, was⟩
    · rw [Node.contentAt, Node.contentAt, same]
    · rw [Node.contentAt_of_directory after, Node.contentAt_of_directory was]

theorem wellFormed_put (formed : store.root.WellFormed)
    (entry : store.entryPlace path = dir ++ [name])
    (within : store.root.kindAt dir = some .directory) (named : IsEntryName name) {written : Store}
    (put : written = store.put path (.file content)) : written.root.WellFormed := by
  have root : written.root = (Node.file content).put (dir ++ [name]) (some store.root) := by
    rw [put, Store.put, entry]
  rw [root]
  exact Node.wellFormed_put_file formed within named

end Store

end Files
end ImportCensus

import DebugIndex.FileSystem

/-!
# Writing files

A file that is written anew changes what its place holds and nothing else.  What a path goes
through on the way are directories, so the path leads to the same place as before, where the
new content is.
-/

namespace DebugIndex
namespace FileSystem

variable {files changed : FileSystem} {names : List String} {path : String}

/-! ## Places -/

theorem lookup_filter_of_ne {nodes : List (List String × Node)} {other : List String}
    (different : other ≠ names) :
    (nodes.filter fun entry => entry.1 ≠ names).lookup other = nodes.lookup other := by
  induction nodes with
  | nil => rfl
  | cons entry rest ih =>
      obtain ⟨known, node⟩ := entry
      by_cases same : known = names
      · subst same
        simpa [List.lookup_cons, beq_eq_false_iff_ne.mpr different] using ih
      · simp only [List.filter_cons, same, List.lookup_cons, ih, ne_eq, not_false_eq_true,
          decide_true, if_true]

/-- A node that is put at a place is there, and all other places hold what they held. -/
theorem node?_place (below : names ≠ []) (node : Node) (other : List String) :
    (files.place names node).node? other =
      if other = names then some node else files.node? other := by
  by_cases same : other = names
  · subst same
    simp [node?, place, below]
  · have unlike : (other == names) = false := beq_eq_false_iff_ne.mpr same
    simp only [node?, place, List.lookup_cons, unlike, lookup_filter_of_ne same, if_neg same]

theorem node?_place_self (below : names ≠ []) (node : Node) :
    (files.place names node).node? names = some node := by
  rw [node?_place below, if_pos rfl]

/-! ## Paths -/

/-- Whether a place holds something, and if so whether that is a directory. -/
def kind? (files : FileSystem) (place : List String) : Option Bool :=
  (files.node? place).map fun node => node matches .directory _

/-- A path leads to the same place in file systems with directories and files at the same
places. -/
theorem follow_congr (alike : ∀ place, files.kind? place = changed.kind? place)
    (place components : List String) :
    files.follow place components = changed.follow place components := by
  induction components generalizing place with
  | nil => rfl
  | cons component rest ih =>
      have here := alike place
      have below := alike (place ++ [component])
      rw [kind?, kind?] at here below
      rw [follow, follow]
      cases held : files.node? place <;> cases heldAfter : changed.node? place <;>
        simp only [held, heldAfter, Option.map_none, Option.map_some, reduceCtorEq] at here
      case none.none => rfl
      case some.some node nodeAfter =>
        cases node <;> cases nodeAfter <;> simp only [Option.some.injEq, reduceCtorEq] at here
        case file.file => rfl
        case directory.directory =>
          simp only [ih]
          cases next : files.node? (place ++ [component]) <;>
            cases nextAfter : changed.node? (place ++ [component]) <;>
            simp only [next, nextAfter, Option.map_none, Option.map_some, reduceCtorEq] at below
          case none.none => rfl
          case some.some => rfl

/-- A file that takes the place of another changes nothing about where paths lead to. -/
theorem follow_place_file {content held : List UInt8} {modified heldModified : Int}
    (there : files.node? names = some (.file held heldModified)) (place components : List String) :
    (files.place names (.file content modified)).follow place components =
      files.follow place components := by
  have below : names ≠ [] := by
    rintro rfl
    cases there
  refine (follow_congr (fun other => ?_) place components).symm
  rw [kind?, kind?, node?_place below]
  split
  case isTrue same => rw [same, there]; rfl
  case isFalse => rfl

@[simp]
theorem allow_eq_ok_iff {obstacle : Option SystemError} :
    allow obstacle = .ok () ↔ obstacle = none := by
  cases obstacle <;> simp [allow]

theorem inspect_eq_ok_iff {node : Node} :
    files.inspect path = .ok node ↔
      (accept path = .ok () ∧ files.obstacles.inspecting path = none) ∧ ∃ place,
        files.follow (files.origin path) (components path) = .ok place ∧
          files.node? place = some node := by
  rw [inspect, ← allow_eq_ok_iff]
  cases accept path with
  | error failure => simp [bind, Except.bind]
  | ok =>
      cases allow (files.obstacles.inspecting path) with
      | error failure => simp [bind, Except.bind]
      | ok =>
          cases files.follow (files.origin path) (components path) with
          | error failure => simp [bind, Except.bind]
          | ok place => cases held : files.node? place <;> simp [bind, Except.bind, held]

@[simp]
theorem openFile_eq_ok_iff {content : List UInt8} {modified : Int} :
    files.openFile path = .ok (content, modified) ↔
      files.inspect path = .ok (.file content modified) ∧ files.obstacles.opening path = none := by
  rw [openFile, ← allow_eq_ok_iff]
  rcases files.inspect path with failure | changed | ⟨held, changed⟩
  · simp [bind, Except.bind]
  · simp [bind, Except.bind]
  · cases allow (files.obstacles.opening path) <;> simp [bind, Except.bind]

/-- A file is read if it is there and nothing stands in the way of opening and reading it. -/
theorem read_eq_ok_iff {content : List UInt8} :
    files.read path = .ok content ↔
      (∃ modified, files.inspect path = .ok (.file content modified)) ∧
        files.obstacles.opening path = none ∧ files.obstacles.reading path = none := by
  have opened : files.read path = .ok content ↔
      (∃ modified, files.openFile path = .ok (content, modified)) ∧
        files.obstacles.reading path = none := by
    rw [read]
    rcases files.openFile path with failure | ⟨held, modified⟩
    · simp [bind, Except.bind]
    · cases files.obstacles.reading path <;> simp [bind, Except.bind]
  simp only [opened, openFile_eq_ok_iff, exists_and_right, and_assoc]

theorem has_of_read {content : List UInt8} (found : files.read path = .ok content) :
    files.has path = true := by
  obtain ⟨⟨modified, found⟩, -⟩ := read_eq_ok_iff.mp found
  rw [has, found]
  rfl

/-! ## Places of files -/

@[simp]
theorem obstacles_place (node : Node) : (files.place names node).obstacles = files.obstacles := rfl

/-- Whether a path leads to a file at a place. -/
structure LeadsTo (files : FileSystem) (path : String) (names : List String) : Prop where
  accepted : accept path = .ok ()
  unhindered : files.obstacles.inspecting path = none
  followed : files.follow (files.origin path) (components path) = .ok names
  held : ∃ content modified, files.node? names = some (.file content modified)

theorem exists_leadsTo {content : List UInt8} {modified : Int}
    (found : files.inspect path = .ok (.file content modified)) :
    ∃ names, files.LeadsTo path names := by
  obtain ⟨⟨accepted, unhindered⟩, names, followed, atPlace⟩ := inspect_eq_ok_iff.mp found
  exact ⟨names, accepted, unhindered, followed, _, _, atPlace⟩

namespace LeadsTo

theorem ne_nil (leads : files.LeadsTo path names) : names ≠ [] := by
  obtain ⟨content, modified, atPlace⟩ := leads.held
  rintro rfl
  cases atPlace

theorem inspect (leads : files.LeadsTo path names) {node : Node}
    (atPlace : files.node? names = some node) : files.inspect path = .ok node :=
  inspect_eq_ok_iff.mpr ⟨⟨leads.accepted, leads.unhindered⟩, names, leads.followed, atPlace⟩

/-- What a path leads to is opened for writing unless the system refuses that. -/
theorem placeToWrite (leads : files.LeadsTo path names) :
    files.placeToWrite path = (allow (files.obstacles.rewriting path)).map fun _ => names := by
  obtain ⟨held, modified, atPlace⟩ := leads.held
  rw [FileSystem.placeToWrite, leads.inspect atPlace, leads.followed]
  cases allow (files.obstacles.rewriting path) <;> rfl

theorem place (leads : files.LeadsTo path names) (content : List UInt8) (modified : Int) :
    (files.place names (.file content modified)).LeadsTo path names := by
  obtain ⟨held, heldModified, atPlace⟩ := leads.held
  refine ⟨leads.accepted, leads.unhindered, (follow_place_file atPlace _ _).trans leads.followed,
    content, modified, node?_place_self leads.ne_nil _⟩

theorem has (leads : files.LeadsTo path names) : files.has path = true := by
  obtain ⟨content, modified, atPlace⟩ := leads.held
  rw [FileSystem.has, leads.inspect atPlace]
  rfl

theorem placeToWrite_place (leads : files.LeadsTo path names) (content : List UInt8)
    (modified : Int) :
    (files.place names (.file content modified)).placeToWrite path = files.placeToWrite path := by
  rw [(leads.place content modified).placeToWrite, leads.placeToWrite, obstacles_place]

theorem read_place (leads : files.LeadsTo path names) {content : List UInt8} (modified : Int) :
    (files.place names (.file content modified)).read path = .ok content ↔
      files.obstacles.opening path = none ∧ files.obstacles.reading path = none := by
  have there := (leads.place content modified).inspect (node?_place_self leads.ne_nil _)
  simp [read_eq_ok_iff, there]

end LeadsTo

/-- What is put at a place takes the place of what has been put there before. -/
@[simp]
theorem place_place (first second : Node) :
    (files.place names first).place names second = files.place names second := by
  simp [FileSystem.place, List.filter_filter]

/-! ## Writing -/

/-- A path that leads to something and can be opened for writing leads to a file. -/
theorem leadsTo_of_placeToWrite (there : files.has path = true)
    (opened : files.placeToWrite path = .ok names) : files.LeadsTo path names := by
  rw [has] at there
  cases inspected : files.inspect path with
  | error failure => rw [inspected] at there; cases there
  | ok node =>
      cases node with
      | directory modified =>
          rw [placeToWrite, inspected] at opened
          cases opened
      | file content modified =>
          obtain ⟨known, leads⟩ := exists_leadsTo inspected
          rw [leads.placeToWrite] at opened
          cases allowed : allow (files.obstacles.rewriting path) with
          | error failure => rw [allowed] at opened; cases opened
          | ok =>
              rw [allowed] at opened
              cases opened
              exact leads

theorem write_of_placeToWrite_error {failure : FileError}
    (refused : files.placeToWrite path = .error failure) (content : List UInt8) (modified : Int) :
    files.write path content modified = (files, .error failure) := by
  rw [write, refused]

theorem fst_write (opened : files.placeToWrite path = .ok names) (content : List UInt8)
    (modified : Int) :
    (files.write path content modified).1 =
      files.place names (.file (files.kept path content) modified) := by
  rw [write, opened]

/-- A path that can be opened is written in full unless that is broken off. -/
theorem snd_write (opened : files.placeToWrite path = .ok names) (content : List UInt8)
    (modified : Int) : (files.write path content modified).2 = files.finish path content := by
  rw [write, opened]

theorem kept_of_finish {content : List UInt8} (done : files.finish path content = .ok ()) :
    files.kept path content = content := by
  rw [finish] at done
  rw [kept]
  cases hindered : files.obstacles.writing path content with
  | some obstacle => rw [hindered] at done; cases done
  | none => rfl

/-- What can be read of a file that has been written in full is what has been written. -/
theorem read_fst_write {held content : List UInt8} (found : files.read path = .ok held)
    {modified : Int} (done : (files.write path content modified).2 = .ok ()) :
    (files.write path content modified).1.read path = .ok content := by
  cases opened : files.placeToWrite path with
  | error failure =>
      rw [write_of_placeToWrite_error opened] at done
      cases done
  | ok names =>
      have leads := leadsTo_of_placeToWrite (has_of_read found) opened
      rw [snd_write opened] at done
      rw [fst_write opened, kept_of_finish done, leads.read_place]
      exact (read_eq_ok_iff.mp found).2

end FileSystem
end DebugIndex

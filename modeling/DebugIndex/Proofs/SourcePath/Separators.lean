import DebugIndex.Proofs.SourcePath.NormalForm

/-!
# Separators of the host

A path that is conformed has no separator of the other kind of host, and collapsing it brings
none back.  So the name and the full path of a source file have the separators of the host
alone.  The directory is another matter: it is conformed on the way to the full path, but it is
handed out as it was found, with the separators that it was given.
-/

namespace DebugIndex
namespace SourcePath

/-- The two kinds of hosts, told by their separators. -/
inductive Host
  | slash
  | backslash
  deriving DecidableEq

namespace Host

def native : Host → Char
  | slash => '/'
  | backslash => '\\'

/-- The separator of the other kind of host. -/
def foreign : Host → Char
  | slash => '\\'
  | backslash => '/'

def separator (host : Host) : List Char :=
  [host.native]

def conformed (host : Host) (character : Char) : Char :=
  if character = host.foreign then host.native else character

theorem native_ne_foreign (host : Host) : host.native ≠ host.foreign := by
  cases host <;> decide

theorem conformed_ne_foreign (host : Host) (character : Char) :
    host.conformed character ≠ host.foreign := by
  rw [conformed]
  split
  case isTrue => exact host.native_ne_foreign
  case isFalse other => exact other

theorem conformed_of_ne_foreign {host : Host} {character : Char}
    (other : character ≠ host.foreign) : host.conformed character = character :=
  if_neg other

end Host

/-! ## Conforming -/

theorem replaceAll_singleton (old new : Char) (path : List Char) :
    replaceAll old [new] path =
      path.map fun character => if character = old then new else character := by
  induction path with
  | nil => rfl
  | cons character rest ih =>
      rw [replaceAll, List.flatMap_cons, ← replaceAll, ih, List.map_cons]
      split <;> rfl

theorem conform_eq_map (host : Host) (path : List Char) :
    conform host.separator path = path.map host.conformed := by
  cases host <;> exact replaceAll_singleton _ _ path

theorem foreign_notMem_conform (host : Host) (path : List Char) :
    host.foreign ∉ conform host.separator path := by
  rw [conform_eq_map, List.mem_map]
  rintro ⟨character, -, same⟩
  exact host.conformed_ne_foreign character same

theorem conform_of_foreign_notMem {host : Host} {path : List Char} (native : host.foreign ∉ path) :
    conform host.separator path = path := by
  rw [conform_eq_map, List.map_congr_left fun character member =>
    Host.conformed_of_ne_foreign (ne_of_mem_of_not_mem member native), List.map_id']

/-! ## Collapsing -/

variable {separator path shorter mark : List Char} {character : Char}

theorem mem_of_fold? (folded : fold? mark path = some shorter) (member : character ∈ shorter) :
    character ∈ path ∨ character = '\\' := by
  obtain ⟨index, -, rfl⟩ := Option.map_eq_some_iff.mp folded
  rw [List.mem_append, List.mem_cons] at member
  rcases member with before | rfl | behind
  · exact Or.inl (List.mem_of_mem_take before)
  · exact Or.inr rfl
  · exact Or.inl (List.mem_of_mem_drop behind)

/-- A round takes characters out and puts none in, except for the separator of a `\` host. -/
theorem mem_of_collapseOnce? (round : collapseOnce? separator path = some shorter)
    (member : character ∈ shorter) :
    character ∈ path ∨ separator = ['\\'] ∧ character = '\\' := by
  rw [collapseOnce?] at round
  split at round
  case h_1 index found =>
    obtain rfl := Option.some.inj round
    rcases List.mem_append.mp member with before | behind
    · exact Or.inl (List.mem_of_mem_take before)
    · exact Or.inl (List.mem_of_mem_drop behind)
  case h_2 =>
    split at round
    case isTrue backward =>
      rcases Option.or_eq_some_iff.mp round with folded | ⟨-, folded⟩
      · exact (mem_of_fold? folded member).imp_right fun same => ⟨backward, same⟩
      · exact (mem_of_fold? folded member).imp_right fun same => ⟨backward, same⟩
    case isFalse => cases round

theorem mem_of_mem_collapse (member : character ∈ collapse separator path) :
    character ∈ path ∨ separator = ['\\'] ∧ character = '\\' := by
  induction path using collapse.induct separator with
  | case1 path shorter round ih =>
      rw [collapse_of_some round] at member
      rcases ih member with kept | added
      · exact mem_of_collapseOnce? round kept
      · exact Or.inr added
  | case2 path ended =>
      rw [collapse_of_none ended] at member
      exact Or.inl member

theorem foreign_notMem_collapse {host : Host} (native : host.foreign ∉ path) :
    host.foreign ∉ collapse host.separator path := by
  intro member
  rcases mem_of_mem_collapse member with inPath | ⟨backward, same⟩
  · exact native inPath
  · cases host
    · cases backward
    · cases same

theorem foreign_notMem_join (host : Host) (directory filename : List Char) :
    host.foreign ∉ join host.separator directory filename :=
  foreign_notMem_collapse (foreign_notMem_conform host _)

/-- It is all one for the full path whether the directory has been conformed before. -/
theorem join_conform (host : Host) (directory filename : List Char) :
    join host.separator (conform host.separator directory) filename =
      join host.separator directory filename := by
  have again (text : List Char) :
      conform host.separator (conform host.separator text) = conform host.separator text :=
    conform_of_foreign_notMem (foreign_notMem_conform host text)
  have append (front rest : List Char) :
      conform host.separator (front ++ rest) =
        conform host.separator front ++ conform host.separator rest := by
    simp only [conform_eq_map, List.map_append]
  simp only [join]
  split
  · rfl
  · simp only [append, again]

/-! ## Directories -/

/-- The directory that a source file is looked for in, as it is given: that of the unit or, if
it has none, a search path or else the current directory. -/
def givenDirectory (files : FileSystem) (separator : List Char) (filename : String)
    (directory : Option String) (searchPaths : List Value) : Value :=
  match directory with
  | some known => .text known
  | none => (probe? files separator filename searchPaths).getD (.text ".")

theorem foreign_mem_driveMark_append_iff (host : Host) (rest : List Char) :
    host.foreign ∈ driveMark ++ rest ↔ host.foreign ∈ '/' :: rest := by
  rw [List.mem_append, List.mem_cons, or_congr_left]
  cases host <;> decide

/-- A directory below the drive mark keeps its separators, whatever becomes of the drive. -/
theorem foreign_mem_withDriveLetter_iff (host : Host) (directory : List Char) :
    host.foreign ∈ withDriveLetter directory ↔ host.foreign ∈ directory := by
  have notColon : host.foreign ≠ ':' := by cases host <;> decide
  rw [withDriveLetter]
  split
  case isFalse => rfl
  case isTrue below =>
    obtain ⟨rest, rfl⟩ := List.isPrefixOf_iff_prefix.mp below
    have remaining : (driveMark ++ rest).drop (driveMark.length - 1) = '/' :: rest := rfl
    rw [foreign_mem_driveMark_append_iff, remaining]
    split
    case h_1 letter behind same =>
      obtain ⟨-, rfl⟩ := List.cons.inj same
      split
      case isTrue => simp [notColon, or_left_comm]
      case isFalse => rfl
    case h_2 => rfl

theorem foreign_mem_directoryOf_iff (host : Host) (files : FileSystem) (separator : List Char)
    (filename : String) (directory : Option String) (searchPaths : List Value) :
    host.foreign ∈ (directoryOf files separator filename directory searchPaths).plain.toList ↔
      host.foreign ∈
        (givenDirectory files separator filename directory searchPaths).plain.toList := by
  cases directory with
  | none => rfl
  | some known =>
      simp only [directoryOf, givenDirectory, Value.plain, String.toList_ofList]
      exact foreign_mem_withDriveLetter_iff host known.toList

/-! ## Locations -/

/-- Wherever a source file is looked for, its name is the given one, conformed, and its full
path is joined from the conformed directory; neither has a foreign separator.  The directory
itself is handed out with foreign separators exactly if it was given with some. -/
theorem locate_separators (files : FileSystem) (host : Host) (filename directory : Option String)
    (searchPaths : List Value) :
    ∃ location, locate files host.separator filename directory searchPaths = location ∧
      location.filename.toList = (filename.getD "").toList.map host.conformed ∧
      host.foreign ∉ location.filename.toList ∧
      location.fullPath.toList =
        join host.separator (location.directory.plain.toList.map host.conformed)
          location.filename.toList ∧
      host.foreign ∉ location.fullPath.toList ∧
      (host.foreign ∈ location.directory.plain.toList ↔
        host.foreign ∈ (givenDirectory files host.separator (filename.getD "") directory
          searchPaths).plain.toList) := by
  refine ⟨_, rfl, ?_, ?_, ?_, ?_, foreign_mem_directoryOf_iff host files _ _ _ _⟩
  · rw [locate, String.toList_ofList, conform_eq_map]
  · rw [locate, String.toList_ofList]
    exact foreign_notMem_conform host _
  · simp only [locate, String.toList_ofList]
    rw [← conform_eq_map host, join_conform]
  · rw [locate, String.toList_ofList]
    exact foreign_notMem_join host _ _

/-- A directory that is given with the separators of another host is handed out with them. -/
theorem locate_foreignDirectory :
    ∃ location, locate {} Host.slash.separator (some "main.c") (some "c:\\proj") [] = location ∧
      location.filename = "main.c" ∧ location.fullPath = "c:/proj/main.c" ∧
      location.directory.plain = "c:\\proj" ∧
      Host.slash.foreign ∈ location.directory.plain.toList := by
  refine ⟨_, rfl, ?_, ?_, ?_, ?_⟩ <;> decide +kernel

end SourcePath
end DebugIndex

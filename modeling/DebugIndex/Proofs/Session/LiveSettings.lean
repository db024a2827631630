import DebugIndex.Proofs.Settings.FailedChanges
import DebugIndex.Proofs.Settings.WritingBack
import DebugIndex.Session

/-!
# Settings of a session in use

A session keeps a copy of two settings: whether it traces, and the colours.  The copies are
renewed whenever one of the two changes, before the settings are written back, so it does not
matter whether they can be written.  Hence the copies agree with the settings after any changes,
and the settings are those that were given last.
-/

namespace DebugIndex

namespace Key

theorem ofValue?_eq_some_iff {value : Value} {key : Key} :
    ofValue? value = some key ↔ value = .text key.name := by
  constructor
  · exact eq_text_of_ofValue?
  · rintro rfl
    exact ofName?_name key

def names : List Value :=
  all.map fun key => .text key.name

theorem mem_names_iff {value : Value} : value ∈ names ↔ (ofValue? value).isSome = true := by
  simp only [names, List.mem_map, mem_all, true_and, Option.isSome_iff_exists,
    ofValue?_eq_some_iff, @eq_comm Value value]

end Key

namespace SettingsStore

variable {store : SettingsStore} {files : FileSystem} {key value : Value} {name : Key}

end SettingsStore

namespace Session

variable {request : Request} {source : Feed UnitSource} {session : Session}
variable {key value : Value} {name : Key}

/-- Give settings of a session values one after the other, and go on after each that is
refused. -/
def setEach (session : Session) : List (Value × Value) → Session
  | [] => session
  | (key, value) :: rest => (session.set key value).1.setEach rest

/-- The session once its settings are written back, as far as they can be written. -/
def written (session : Session) : Session :=
  { session with
    store := (session.store.persist session.files).1
    files := (session.store.persist session.files).2.1 }

theorem set_of_unknown (unknown : Key.ofValue? key = none) :
    session.set key value = (session, .error (.unknownKey key)) := by
  simp only [set, SettingsStore.set_of_unknown unknown, List.foldl_nil]

end Session
end DebugIndex

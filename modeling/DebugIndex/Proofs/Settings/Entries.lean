import DebugIndex.Proofs.Settings.Spelling
import DebugIndex.Settings.Store

/-!
# The entries of settings

Settings are known by the values of their keys.  A map that is laid over their entries gives each
key the value of its last entry with that key, and what it has besides goes behind them; so a
store makes settings out of it, and keeps the entries with an unknown key apart.
-/

namespace DebugIndex

namespace Settings

def listed (settings : Settings) : Settings :=
  { colors := settings.colors.listed
    formatVersion := settings.formatVersion.listed
    maxDepth := settings.maxDepth.listed
    maxSteps := settings.maxSteps.listed
    searchPaths := settings.searchPaths.listed
    encoding := settings.encoding.listed
    verbose := settings.verbose.listed }

@[simp]
theorem get_listed (settings : Settings) (key : Key) :
    settings.listed.get key = (settings.get key).listed := by
  cases key <;> rfl

theorem lookup_listed (settings : Settings) (key : Value) :
    settings.listed.lookup key = (settings.lookup key).map Value.listed := by
  rw [lookup, lookup]
  split
  · rw [get_listed]
    rfl
  · rfl

theorem eq_of_get_eq {first second : Settings} (same : ∀ key, first.get key = second.get key) :
    first = second := by
  cases first
  cases second
  simpa only [mk.injEq] using ⟨same .colors, same .formatVersion, same .maxDepth, same .maxSteps,
    same .searchPaths, same .encoding, same .verbose⟩

/-- What holds of all values of settings and of a new one still holds of all after the change. -/
theorem forall_get_set {settings : Settings} {value : Value} {holds : Value → Prop}
    (all : ∀ key, holds (settings.get key)) (new : holds value) (key other : Key) :
    holds ((settings.set key value).get other) := by
  rw [get_set]
  split
  · exact new
  · exact all other

/-- Settings over which the entries of a map are laid one after the other. -/
def overlaid (settings : Settings) (entries : List (Value × Value)) : Settings :=
  entries.foldl
    (fun overlaid entry =>
      match Key.ofValue? entry.1 with
      | some key => overlaid.set key entry.2
      | none => overlaid)
    settings

def lastOf? (entries : List (Value × Value)) (key : Key) : Option Value :=
  (entries.filter fun entry => Key.ofValue? entry.1 = some key).getLast?.map Prod.snd

theorem lastOf?_cons (entry : Value × Value) (rest : List (Value × Value)) (key : Key) :
    lastOf? (entry :: rest) key =
      (lastOf? rest key).or (if Key.ofValue? entry.1 = some key then some entry.2 else none) := by
  simp only [lastOf?, List.filter_cons]
  cases last : (rest.filter fun entry => Key.ofValue? entry.1 = some key).getLast? <;>
    by_cases same : Key.ofValue? entry.1 = some key <;> simp [same, List.getLast?_cons, last]

/-- A key has the value of the last entry that is laid over it, if there is one. -/
theorem get_overlaid (settings : Settings) (entries : List (Value × Value)) (key : Key) :
    (settings.overlaid entries).get key = (lastOf? entries key).getD (settings.get key) := by
  induction entries generalizing settings with
  | nil => rfl
  | cons entry rest ih =>
      rw [overlaid, List.foldl_cons]
      refine (ih _).trans ?_
      rw [lastOf?_cons]
      cases lastOf? rest key with
      | some value => rfl
      | none =>
          cases known : Key.ofValue? entry.1 with
          | none => rfl
          | some other =>
              simp only [get_set, Option.getD_none, Option.none_or, Option.some.injEq, eq_comm]
              split <;> rfl

@[simp]
theorem overlaid_entries (defaults settings : Settings) :
    defaults.overlaid settings.entries = settings := by
  refine eq_of_get_eq fun key => ?_
  rw [get_overlaid]
  cases key <;> rfl

theorem pairwise_entries (settings : Settings) :
    settings.entries.Pairwise fun first second => first.1.same second.1 = false := by
  have different : Key.all.Pairwise fun first second =>
      (Value.text first.name).same (.text second.name) = false := by decide
  exact List.pairwise_map.mpr different

end Settings

/-! ## Maps that are laid over settings -/

namespace Key

theorem eq_text_of_ofValue? {value : Value} {key : Key} (known : ofValue? value = some key) :
    value = .text key.name := by
  cases value with
  | text name =>
      have found := List.find?_some known
      rw [of_decide_eq_true found]
  | _ => cases known

end Key

namespace Value

variable {entries front behind : List (Value × Value)} {key value : Value}

theorem eq_of_same_text {characters : String} (same : (text characters).same value = true) :
    value = .text characters := by
  cases value with
  | text others => rw [of_decide_eq_true same]
  | _ => simp [Value.same, sameScalar, whole?] at same

theorem put_append :
    put (front ++ behind) key value =
      if front.any fun entry => entry.1.same key then put front key value ++ behind
      else front ++ put behind key value := by
  induction front with
  | nil => rfl
  | cons entry rest ih =>
      obtain ⟨known, old⟩ := entry
      cases same : known.same key with
      | true => simp [put, same]
      | false =>
          simp only [List.cons_append, put, same, Bool.false_eq_true, if_false, ih, List.any_cons,
            Bool.false_or]
          split <;> rfl

/-- What holds of the keys of a map and of a new one still holds of all after the change. -/
theorem forall_mem_put {holds : Value → Prop} (all : ∀ entry ∈ entries, holds entry.1)
    (new : holds key) : ∀ entry ∈ put entries key value, holds entry.1 := by
  induction entries with
  | nil => simpa [put] using new
  | cons entry rest ih =>
      obtain ⟨first, others⟩ := List.forall_mem_cons.mp all
      rw [put]
      split
      · exact List.forall_mem_cons.mpr ⟨first, others⟩
      · exact List.forall_mem_cons.mpr ⟨first, ih others⟩

end Value

namespace SettingsStore

variable {entries others : List (Value × Value)} {key value : Value} {name : Key}

def unknownEntries (entries : List (Value × Value)) : List (Value × Value) :=
  SettingsFile.overlay [] (entries.filter fun entry => (Key.ofValue? entry.1).isNone)

theorem put_of_known (settings : Settings) (known : Key.ofValue? key = some name) :
    Value.put (settings.entries ++ others) key value =
      (settings.set name value).entries ++ others := by
  have there : settings.entries.any (fun entry => entry.1.same key) = true := by
    rw [List.any_eq_true]
    refine ⟨(.text name.name, settings.get name), List.mem_map_of_mem name.mem_all, ?_⟩
    rw [Key.eq_text_of_ofValue? known]
    exact decide_eq_true rfl
  rw [Value.put_append, if_pos there, Key.eq_text_of_ofValue? known]
  cases name <;> rfl

theorem put_of_unknown (settings : Settings) (unknown : Key.ofValue? key = none) :
    Value.put (settings.entries ++ others) key value =
      settings.entries ++ Value.put others key value := by
  have missing : settings.entries.any (fun entry => entry.1.same key) = false := by
    rw [List.any_eq_false]
    intro entry member same
    obtain ⟨name, -, rfl⟩ := List.mem_map.mp member
    rw [Value.eq_of_same_text same] at unknown
    exact Option.some_ne_none _ (name.ofName?_name.symm.trans unknown)
  rw [Value.put_append, if_neg (Bool.eq_false_iff.mp missing)]

/-- A map that is laid over the entries of settings changes the settings, and what it has besides
goes behind them. -/
theorem overlay_append (settings : Settings) (entries : List (Value × Value)) :
    SettingsFile.overlay (settings.entries ++ others) entries =
      (settings.overlaid entries).entries ++
        SettingsFile.overlay others
          (entries.filter fun entry => (Key.ofValue? entry.1).isNone) := by
  induction entries generalizing settings others with
  | nil => rfl
  | cons entry rest ih =>
      obtain ⟨key, value⟩ := entry
      rw [SettingsFile.overlay, List.foldl_cons, Settings.overlaid, List.foldl_cons]
      cases known : Key.ofValue? key with
      | none =>
          rw [put_of_unknown settings known, List.filter_cons_of_pos (by simp [known])]
          exact ih settings
      | some name =>
          rw [put_of_known settings known, List.filter_cons_of_neg (by simp [known])]
          exact ih (settings.set name value)

/-- What holds of the keys of two maps holds of the keys of one laid over the other. -/
theorem forall_mem_overlay {holds : Value → Prop} (below : ∀ entry ∈ others, holds entry.1)
    (above : ∀ entry ∈ entries, holds entry.1) :
    ∀ entry ∈ SettingsFile.overlay others entries, holds entry.1 := by
  induction entries generalizing others with
  | nil => exact below
  | cons entry rest ih =>
      obtain ⟨first, more⟩ := List.forall_mem_cons.mp above
      refine ih ?_ more
      exact Value.forall_mem_put below first

theorem ofValue?_of_mem_unknownEntries :
    ∀ entry ∈ unknownEntries entries, Key.ofValue? entry.1 = none :=
  @forall_mem_overlay _ [] (Key.ofValue? · = none) nofun fun _ member =>
    Option.isNone_iff_eq_none.mp (List.mem_filter.mp member).2

theorem settingsOf_concat {entry : Value × Value} (unknown : Key.ofValue? entry.1 = none) :
    settingsOf (entries ++ [entry]) =
      ((settingsOf entries).1, (settingsOf entries).2 ++ [entry]) := by
  simp [settingsOf, List.foldl_append, unknown]

theorem settingsOf_append (entries : List (Value × Value))
    (unknown : ∀ entry ∈ others, Key.ofValue? entry.1 = none) :
    settingsOf (entries ++ others) =
      ((settingsOf entries).1, (settingsOf entries).2 ++ others) := by
  induction others generalizing entries with
  | nil => simp
  | cons entry rest ih =>
      obtain ⟨unknownFirst, unknownRest⟩ := List.forall_mem_cons.mp unknown
      rw [← List.singleton_append, ← List.append_assoc, ih _ unknownRest,
        settingsOf_concat unknownFirst, List.append_assoc]

theorem settingsOf_entries (settings : Settings) :
    settingsOf settings.entries = (settings, []) := by
  cases settings
  rfl

/-- A map that is laid over the defaults gives the settings, and the entries with an unknown key. -/
theorem settingsOf_overlay (entries : List (Value × Value)) :
    settingsOf (SettingsFile.overlay ({} : Settings).entries entries) =
      (({} : Settings).overlaid entries, unknownEntries entries) := by
  have laid := @overlay_append [] {} entries
  rw [List.append_nil] at laid
  rw [laid]
  refine (settingsOf_append _ ofValue?_of_mem_unknownEntries).trans ?_
  rw [settingsOf_entries, List.nil_append]

end SettingsStore
end DebugIndex

import DebugIndex.Proofs.Settings.Parsing

/-!
# Carrying out a settings file

The expression of a finite value is worked out as the value with lists in place of tuples, and
nothing but the next label changes on the way.  A map whose keys are different texts keeps its
entries in their order, so the two assignments of a settings file leave the map that has been
written, and the format version.  The name of a number that is not finite stands for nothing, so a
file with such a number in it makes no sense, whoever carries it out.
-/

namespace DebugIndex

namespace Datum

theorem put_of_fresh {entries : List (Value × Datum)} {key : Value} (content : Datum)
    (fresh : ∀ entry ∈ entries, entry.1.same key = false) :
    put entries key content = entries ++ [(key, content)] := by
  induction entries with
  | nil => rfl
  | cons entry rest ih =>
      obtain ⟨freshFirst, freshRest⟩ := List.forall_mem_cons.mp fresh
      simp [put, freshFirst, ih freshRest]

theorem entryValues_append (front behind : List (Value × Datum)) :
    entryValues (front ++ behind) = entryValues front ++ entryValues behind := by
  induction front with
  | nil => rfl
  | cons entry rest ih => simp [entryValues, ih]

end Datum

namespace Evaluation

variable {α β : Type} {assigned changed : Assigned}
variable (predefined : String → Option Value)

theorem bind_eq_of_eq_some {step : Step α} {next : α → Step β} {result : α}
    (taken : step assigned = some (result, changed)) :
    (step >>= next) assigned = next result changed := by
  change (step assigned).bind _ = _
  rw [taken]
  rfl

theorem bind_eq_none {step : Step α} {next : α → Step β} (failed : step assigned = none) :
    (step >>= next) assigned = none := by
  change (step assigned).bind _ = _
  rw [failed]
  rfl

/-- Whether a step gives a result, and changes nothing but the next label. -/
def Yields (step : Step α) (meets : α → Prop) : Prop :=
  ∀ assigned : Assigned, ∃ result label,
    step assigned = some (result, { assigned with nextLabel := label }) ∧ meets result

namespace Yields

theorem pure {result : α} {meets : α → Prop} (met : meets result) :
    Yields (Pure.pure result : Step α) meets :=
  fun assigned => ⟨result, assigned.nextLabel, rfl, met⟩

theorem newLabel : Yields newLabel fun _ => True :=
  fun assigned => ⟨assigned.nextLabel, assigned.nextLabel + 1, rfl, trivial⟩

theorem lift {option : Option α} {result : α} {meets : α → Prop} (present : option = some result)
    (met : meets result) : Yields (liftM option : Step α) meets :=
  fun assigned => ⟨result, assigned.nextLabel, by rw [present]; rfl, met⟩

theorem mono {step : Step α} {meets holds : α → Prop} (yields : Yields step meets)
    (weaker : ∀ result, meets result → holds result) : Yields step holds := by
  intro assigned
  obtain ⟨result, label, taken, met⟩ := yields assigned
  exact ⟨result, label, taken, weaker result met⟩

theorem bind {step : Step α} {next : α → Step β} {meets : α → Prop} {holds : β → Prop}
    (first : Yields step meets) (second : ∀ result, meets result → Yields (next result) holds) :
    Yields (step >>= next) holds := by
  intro assigned
  obtain ⟨result, label, taken, met⟩ := first assigned
  obtain ⟨last, finalLabel, takenNext, metLast⟩ := second result met _
  exact ⟨last, finalLabel, (bind_eq_of_eq_some taken).trans takenNext, metLast⟩

end Yields

/-! ## Values -/

attribute [local simp] evaluate evaluateItems

theorem evaluate_constant (value : Value) :
    Yields (evaluate predefined (.constant value)) fun datum => datum = .scalar value := by
  rw [evaluate]
  exact .pure rfl

/-- The number without its sign is worked out, and negated if it has a minus sign. -/
theorem evaluate_float {number : Binary64} (finite : (Value.float number).isFinite = true) :
    Yields (evaluate predefined (Value.float number).expression)
      fun datum => datum.value = .float number := by
  cases number with
  | nan | infinite => cases finite
  | finite negative significand exponent canonical =>
      have size := evaluate_constant predefined
        (.float (.finite false significand exponent canonical))
      rw [Value.expression, Value.hasMinus]
      cases negative with
      | false => exact size.mono fun datum same => same ▸ rfl
      | true =>
          rw [if_pos rfl, evaluate]
          refine size.bind ?_
          rintro _ rfl
          exact Yields.lift rfl rfl

theorem expression_ne_star (value : Value) (inner : Expression) :
    value.expression ≠ .star inner := by
  cases value with
  | int whole =>
      rw [Value.expression]
      split <;> simp
  | float number =>
      rw [Value.expression]
      split
      · simp
      · cases number <;> simp [Value.sizeExpression]
  | _ => simp [Value.expression]

theorem evaluateItems_cons (item : Value) (rest : List Value) :
    evaluateItems predefined (Value.itemsExpressions (item :: rest)) = (do
      let datum ← evaluate predefined item.expression
      return datum :: (← evaluateItems predefined (Value.itemsExpressions rest))) := by
  rw [Value.itemsExpressions, evaluateItems]
  exact expression_ne_star item

theorem evaluateItems_yields {items : List Value}
    (each : ∀ item ∈ items,
      Yields (evaluate predefined item.expression) fun datum => datum.value = item.listed) :
    Yields (evaluateItems predefined (Value.itemsExpressions items))
      fun data => Datum.values data = Value.listedItems items := by
  induction items with
  | nil => exact .pure rfl
  | cons item rest ih =>
      obtain ⟨first, others⟩ := List.forall_mem_cons.mp each
      rw [evaluateItems_cons]
      refine first.bind fun datum worth => (ih others).bind fun data worths => .pure ?_
      simp [Datum.values, Value.listedItems, worth, worths]

theorem evaluate_expression {value : Value} (spelled : value.IsSpelled)
    (finite : value.isFinite = true) :
    Yields (evaluate predefined value.expression) fun datum => datum.value = value.listed := by
  induction spelled with
  | null | bool truth | text characters | rawText raw =>
      exact (evaluate_constant predefined _).mono fun datum same => same ▸ rfl
  | @int whole short =>
      have number := evaluate_constant predefined (.int whole.natAbs)
      rw [Value.expression]
      split
      case isTrue negative =>
        rw [evaluate]
        refine number.bind ?_
        rintro _ rfl
        refine Yields.lift rfl ?_
        simp only [Datum.value, Value.listed, Value.int.injEq]
        omega
      case isFalse positive =>
        refine number.mono ?_
        rintro _ rfl
        simp only [Datum.value, Value.listed, Value.int.injEq]
        omega
  | float number => exact evaluate_float predefined finite
  | list spelled ih | tuple spelled ih =>
      rw [Value.isFinite, Value.areFinite_eq_true_iff] at finite
      have each := evaluateItems_yields predefined fun item member =>
        ih item member (finite item member)
      rw [Value.expression, evaluate]
      refine each.bind fun data worths => Yields.newLabel.bind fun label _ => .pure ?_
      simp [Datum.value, Value.listed, worths]

/-! ## Names that stand for nothing -/

/-- Whether the names of the numbers that are not finite stand for nothing. -/
def LacksNumbers (assigned : Assigned) : Prop :=
  ∀ name ∈ ["inf", "nan"], assigned.bindings.lookup name = none ∧ predefined name = none

variable {predefined}

theorem evaluate_name_eq_none (lacks : LacksNumbers predefined assigned) {name : String}
    (unbounded : name ∈ ["inf", "nan"]) : evaluate predefined (.name name) assigned = none := by
  obtain ⟨unassigned, unknown⟩ := lacks name unbounded
  have plain : name ≠ truthName := by
    rintro rfl
    revert unbounded
    decide
  simp [Evaluation.read, plain, unassigned, unknown]

theorem evaluate_float_eq_none (lacks : LacksNumbers predefined assigned) {number : Binary64}
    (infinite : (Value.float number).isFinite = false) :
    evaluate predefined (Value.float number).expression assigned = none := by
  cases number with
  | nan => exact evaluate_name_eq_none lacks (by simp)
  | infinite negative =>
      have size := @evaluate_name_eq_none assigned predefined lacks "inf" (by simp)
      cases negative with
      | false => exact size
      | true =>
          rw [Value.expression, Value.hasMinus, if_pos rfl, evaluate]
          exact bind_eq_none size
  | finite => cases infinite

theorem evaluateItems_eq_none {items : List Value} (spelled : ∀ item ∈ items, item.IsSpelled)
    (fails : ∀ item ∈ items, ∀ {assigned}, LacksNumbers predefined assigned →
      item.isFinite = false → evaluate predefined item.expression assigned = none)
    (lacks : LacksNumbers predefined assigned) (infinite : Value.areFinite items = false) :
    evaluateItems predefined (Value.itemsExpressions items) assigned = none := by
  induction items generalizing assigned with
  | nil => cases infinite
  | cons item rest ih =>
      obtain ⟨spelledFirst, spelledRest⟩ := List.forall_mem_cons.mp spelled
      obtain ⟨failsFirst, failsRest⟩ := List.forall_mem_cons.mp fails
      rw [evaluateItems_cons]
      cases finite : item.isFinite with
      | false => exact bind_eq_none (failsFirst lacks finite)
      | true =>
          obtain ⟨datum, label, taken, -⟩ :=
            evaluate_expression predefined spelledFirst finite assigned
          have infiniteRest : Value.areFinite rest = false := by
            rwa [Value.areFinite, finite, Bool.true_and] at infinite
          rw [bind_eq_of_eq_some taken]
          exact bind_eq_none (ih spelledRest failsRest lacks infiniteRest)

theorem evaluate_expression_eq_none {value : Value} (spelled : value.IsSpelled)
    (lacks : LacksNumbers predefined assigned) (infinite : value.isFinite = false) :
    evaluate predefined value.expression assigned = none := by
  induction spelled generalizing assigned with
  | null | bool truth | int short | text characters | rawText raw => cases infinite
  | float number => exact evaluate_float_eq_none lacks infinite
  | list spelled ih | tuple spelled ih =>
      rw [Value.expression, evaluate]
      exact bind_eq_none (evaluateItems_eq_none spelled ih lacks infinite)

variable (predefined)

/-! ## Maps -/

/-- What is left of the entries of a map is worked out once the first of them has been put. -/
theorem evaluateEntries_cons {name : String} (content : Value) {rest : List (Value × Value)}
    {known : List (Value × Datum)} (fresh : ∀ other ∈ known, other.1.same (.text name) = false)
    (assigned : Assigned) :
    evaluateEntries predefined known
        (((.text name, content) :: rest).map Grammar.entryExpression) assigned =
      (do
        let datum ← evaluate predefined content.expression
        evaluateEntries predefined (known ++ [(Value.text name, datum)])
          (rest.map Grammar.entryExpression)) assigned := by
  have named : evaluate predefined (Value.text name).expression assigned =
      some (.scalar (.text name), assigned) := by
    change evaluate predefined (.constant (.text name)) assigned = _
    rw [evaluate]
    rfl
  have asKey : (liftM (Datum.scalar (.text name)).key? : Step Value) assigned =
      some (.text name, assigned) := rfl
  rw [List.map_cons, Grammar.entryExpression, evaluateEntries, bind_eq_of_eq_some named,
    bind_eq_of_eq_some asKey]
  simp only [Datum.put_of_fresh _ fresh]

/-- A key that is fresh for some entries stays so once another has been put. -/
theorem fresh_append {rest : List (Value × Value)} {known : List (Value × Datum)} {name : Value}
    {datum : Datum} (fresh : ∀ entry ∈ rest, ∀ other ∈ known, other.1.same entry.1 = false)
    (different : ∀ entry ∈ rest, name.same entry.1 = false) :
    ∀ entry ∈ rest, ∀ other ∈ known ++ [(name, datum)], other.1.same entry.1 = false := by
  intro entry member other among
  rcases List.mem_append.mp among with before | last
  · exact fresh entry member other before
  · rw [List.mem_singleton.mp last]
    exact different entry member

/-- The entries of a map are worked out in their order if its keys are different texts and its
values are finite. -/
theorem evaluateEntries_yields {entries : List (Value × Value)} {known : List (Value × Datum)}
    (spelled : ∀ entry ∈ entries, Value.IsSpelledEntry entry)
    (finite : ∀ entry ∈ entries, entry.2.isFinite = true)
    (different : entries.Pairwise fun first second => first.1.same second.1 = false)
    (fresh : ∀ entry ∈ entries, ∀ other ∈ known, other.1.same entry.1 = false) :
    Yields (evaluateEntries predefined known (entries.map Grammar.entryExpression))
      fun data => Datum.entryValues data =
        Datum.entryValues known ++ entries.map fun entry => (entry.1, entry.2.listed) := by
  induction entries generalizing known with
  | nil =>
      rw [List.map_nil, evaluateEntries]
      exact .pure (by simp)
  | cons entry rest ih =>
      obtain ⟨key, content⟩ := entry
      obtain ⟨⟨⟨name, rfl⟩, spelledContent⟩, spelledRest⟩ := List.forall_mem_cons.mp spelled
      obtain ⟨finiteContent, finiteRest⟩ := List.forall_mem_cons.mp finite
      obtain ⟨freshFirst, freshRest⟩ := List.forall_mem_cons.mp fresh
      obtain ⟨differentFirst, differentRest⟩ := List.pairwise_cons.mp different
      rw [funext (evaluateEntries_cons predefined content freshFirst)]
      refine (evaluate_expression predefined spelledContent finiteContent).bind
        fun datum worth => ?_
      refine (ih spelledRest finiteRest differentRest
        (fresh_append freshRest differentFirst)).mono fun data worths => ?_
      simp [worths, Datum.entryValues_append, Datum.entryValues, worth]

theorem evaluateEntries_eq_none {entries : List (Value × Value)} {known : List (Value × Datum)}
    (spelled : ∀ entry ∈ entries, Value.IsSpelledEntry entry)
    (infinite : Value.areFinite (entries.map Prod.snd) = false)
    (different : entries.Pairwise fun first second => first.1.same second.1 = false)
    (fresh : ∀ entry ∈ entries, ∀ other ∈ known, other.1.same entry.1 = false)
    (lacks : LacksNumbers predefined assigned) :
    evaluateEntries predefined known (entries.map Grammar.entryExpression) assigned = none := by
  induction entries generalizing known assigned with
  | nil => cases infinite
  | cons entry rest ih =>
      obtain ⟨key, content⟩ := entry
      obtain ⟨⟨⟨name, rfl⟩, spelledContent⟩, spelledRest⟩ := List.forall_mem_cons.mp spelled
      obtain ⟨freshFirst, freshRest⟩ := List.forall_mem_cons.mp fresh
      obtain ⟨differentFirst, differentRest⟩ := List.pairwise_cons.mp different
      rw [evaluateEntries_cons predefined content freshFirst]
      cases finite : content.isFinite with
      | false => exact bind_eq_none (evaluate_expression_eq_none spelledContent lacks finite)
      | true =>
          obtain ⟨datum, label, taken, -⟩ :=
            evaluate_expression predefined spelledContent finite assigned
          have infiniteRest : Value.areFinite (rest.map Prod.snd) = false := by
            rwa [List.map_cons, Value.areFinite, finite, Bool.true_and] at infinite
          rw [bind_eq_of_eq_some taken]
          exact ih spelledRest infiniteRest differentRest
            (fresh_append freshRest differentFirst) lacks

/-! ## Statements -/

/-- A value that is assigned to a name is worked out, and the name stands for it from then on. -/
theorem perform_assign_name {name : String} {value : Expression} {datum : Datum}
    (evaluated : evaluate predefined value assigned = some (datum, changed)) :
    perform predefined (.assign [.name name] value) assigned =
      some ((), changed.bind name datum) := by
  rw [perform, bind_eq_of_eq_some evaluated]
  simp only [assignAll, assign]
  rfl

end Evaluation

namespace SettingsFile

open Evaluation

variable {entries : List (Value × Value)} {mapName : String}
variable (predefined : String → Option Value)

/-- There are no hints in a settings file, and it does not begin with a text. -/
theorem prepare_statements (assigned : Assigned) :
    prepare (statements mapName entries) assigned = some ((), assigned) := by
  simp [prepare, statements, assignment, Statement.hasHint, Statement.textPoints?]
  rfl

/-- What has been assigned when the map of a settings file is worked out. -/
def assignedAtMap (mapName : String) : Assigned :=
  Assigned.bind { bindings := [(mapName, .map 0 [])], nextLabel := 1 } versionName
    (.scalar (.int settingsVersion))

theorem run?_eq_perform :
    run? predefined mapName (statements mapName entries) =
      (perform predefined (assignment mapName entries) (assignedAtMap mapName)).map
        fun (_, assigned) => assigned.values := by
  have labelled : newLabel {} = some (0, { nextLabel := 1 }) := rfl
  have opened : Evaluation.bind mapName (.map 0 []) { nextLabel := 1 } =
      some ((), { bindings := [(mapName, .map 0 [])], nextLabel := 1 }) := rfl
  have version : perform predefined (.assign [.name versionName] (.constant (.int settingsVersion)))
      { bindings := [(mapName, .map 0 [])], nextLabel := 1 } =
        some ((), assignedAtMap mapName) := by
    refine perform_assign_name predefined ?_
    rw [evaluate]
    rfl
  rw [run?, StateT.run, bind_eq_of_eq_some labelled, bind_eq_of_eq_some opened,
    bind_eq_of_eq_some (prepare_statements _), statements, List.forM_eq_forM, List.forM_cons,
    bind_eq_of_eq_some version, List.forM_cons]
  cases performed : perform predefined (assignment mapName entries) (assignedAtMap mapName) with
  | none => rw [bind_eq_none performed]
  | some result => rw [bind_eq_of_eq_some performed]; rfl

theorem lacksNumbers_assignedAtMap (named : mapName ∉ ["inf", "nan"])
    (lacks : ∀ name ∈ ["inf", "nan"], predefined name = none) :
    LacksNumbers predefined (assignedAtMap mapName) := by
  intro name unbounded
  have notMap : (name == mapName) = false := beq_false_of_ne fun same => named (same ▸ unbounded)
  have notVersion : (name == versionName) = false := by
    refine beq_false_of_ne ?_
    rintro rfl
    revert unbounded
    decide
  refine ⟨?_, lacks name unbounded⟩
  simp only [assignedAtMap, Assigned.bind, Assigned.bindIn]
  split <;> simp [List.lookup_cons, notMap, notVersion]

/-- A settings file whose keys are different texts is carried out to the map that it holds, and
the format version, unless there is a number in it that is not finite. -/
theorem run?_statements (spelled : ∀ entry ∈ entries, Value.IsSpelledEntry entry)
    (different : entries.Pairwise fun first second => first.1.same second.1 = false)
    (named : mapName ∉ [versionName, "inf", "nan"])
    (lacks : ∀ name ∈ ["inf", "nan"], predefined name = none) :
    run? predefined mapName (statements mapName entries) =
      if Value.areFinite (entries.map Prod.snd) then
        some [(mapName, .map (entries.map fun entry => (entry.1, entry.2.listed))),
          (versionName, .int settingsVersion)]
      else none := by
  obtain ⟨notVersion, notNumber⟩ := List.ne_and_not_mem_of_not_mem_cons named
  rw [run?_eq_perform, assignment, mapExpression]
  split
  case isTrue finite =>
    rw [Value.areFinite_eq_true_iff, List.forall_mem_map] at finite
    obtain ⟨data, label, taken, worths⟩ := @evaluateEntries_yields predefined entries [] spelled
      finite different (by simp) (assignedAtMap mapName)
    have evaluated : evaluate predefined (.map (entries.map Grammar.entryExpression))
        (assignedAtMap mapName) = some (.map label data,
          { assignedAtMap mapName with nextLabel := label + 1 }) := by
      rw [evaluate, bind_eq_of_eq_some taken]
      rfl
    rw [perform_assign_name predefined evaluated]
    simp [assignedAtMap, Assigned.values, Assigned.bind, Assigned.bindIn, notVersion, Datum.value,
      worths, Datum.entryValues]
  case isFalse infinite =>
    have failed : evaluateEntries predefined [] (entries.map Grammar.entryExpression)
        (assignedAtMap mapName) = none :=
      evaluateEntries_eq_none predefined spelled (Bool.eq_false_iff.mpr infinite) different
        (by simp) (lacksNumbers_assignedAtMap predefined notNumber lacks)
    rw [perform, evaluate, bind_eq_none (bind_eq_none failed)]
    rfl

/-! ## Interpreters -/

/-- Whether a file with entries makes sense to an interpreter: the numbers in them are finite, few
enough brackets are open in it, and there is room for its map. -/
def isReadable (interpreter : Interpreter) (entries : List (Value × Value)) : Bool :=
  Value.areFinite (entries.map Prod.snd) &&
    1 + Value.entriesNesting entries ≤ interpreter.mostBrackets &&
    interpreter.takes (mapExpression entries)

theorem all_takes (interpreter : Interpreter) (entries : List (Value × Value)) :
    [.constant (.int settingsVersion), mapExpression entries].all interpreter.takes =
      interpreter.takes (mapExpression entries) := by
  have version := interpreter.takes_of_depth_le (.constant (.int settingsVersion)) rfl
    (Nat.zero_le _)
  simp [version]

/-- To every interpreter a settings file is the map that it holds, or makes no sense. -/
theorem run_spelling (interpreter : Interpreter)
    (spelled : ∀ entry ∈ entries, Value.IsSpelledEntry entry)
    (different : entries.Pairwise fun first second => first.1.same second.1 = false) :
    interpreter.run "config" (plainLines (spelling "config" entries)) =
      if isReadable interpreter entries then
        .bound [("config", .map (entries.map fun entry => (entry.1, entry.2.listed))),
          (versionName, .int settingsVersion)]
      else .failed := by
  have carriedOut := run?_statements (fun _ => none) spelled different
    (by decide : "config" ∉ [versionName, "inf", "nan"]) (fun _ _ => rfl)
  simp only [Interpreter.run, scan?_plainLines_spelling spelled, deepest_fileTokens spelled,
    statements_tokens (by decide : "config" ≠ truthName) spelled,
    mapM_literal?_statements spelled, Interpreter.runLiteral, all_takes, carriedOut, isReadable]
  by_cases room : 1 + Value.entriesNesting entries ≤ interpreter.mostBrackets
  · rw [if_neg (by simpa using room)]
    by_cases taken : interpreter.takes (mapExpression entries) = true <;>
      by_cases finite : Value.areFinite (entries.map Prod.snd) = true <;>
      simp [room, taken, finite]
  · rw [if_pos (by simpa using room)]
    simp [room]

/-- Entries that are finite make sense to every interpreter if they are nested less than a hundred
deep. -/
theorem isReadable_of_finite (interpreter : Interpreter)
    (spelled : ∀ entry ∈ entries, Value.IsSpelledEntry entry)
    (finite : ∀ entry ∈ entries, entry.2.isFinite = true)
    (shallow : ∀ entry ∈ entries, entry.2.nesting < 100) :
    isReadable interpreter entries = true := by
  have nesting : Value.entriesNesting entries ≤ 99 :=
    Value.itemsNesting_le_iff.mpr
      (List.forall_mem_map.mpr fun entry member => Nat.le_of_lt_succ (shallow entry member))
  have brackets : 1 + Value.entriesNesting entries ≤ interpreter.mostBrackets :=
    Nat.le_trans (by omega) interpreter.brackets_le
  have taken := interpreter.takes_of_depth_le _ (isLiteral_mapExpression spelled)
    (Nat.le_trans (depth_mapExpression_le spelled) (by omega))
  have allFinite : Value.areFinite (entries.map Prod.snd) = true :=
    Value.areFinite_eq_true_iff.mpr (List.forall_mem_map.mpr finite)
  simp [isReadable, allFinite, brackets, taken]

end SettingsFile
end DebugIndex

import DebugIndex.Proofs.Settings.FileText
import DebugIndex.Settings.Interpreter

/-!
# Parsing values

The tokens of a value, followed by a comma, a colon, an equals sign or the end of a line,
are read as the expression that spells the value.  A list or a map is read item by item, each
with a comma behind it; a reader with more levels than a value has tokens never runs out of them.
The whole of a settings file is two assignments to names.  What they assign is literal, and not
much deeper than the values are nested.
-/

namespace DebugIndex

namespace Token

/-- What follows the tokens of a value. -/
inductive Follows : List Token → Prop
  | comma {rest : List Token} : Follows (.mark ',' :: rest)
  | colon {rest : List Token} : Follows (.mark ':' :: rest)
  | equals {rest : List Token} : Follows (.mark '=' :: rest)
  | lineEnd {rest : List Token} : Follows (.lineEnd :: rest)

/-- What the tokens of a value begin with: a name is one in front of what follows a value. -/
inductive Begins : List Token → Prop
  | name {characters : String} {rest : List Token} (follows : Follows rest) :
      Begins (.name characters :: rest)
  | keyword {word : String} {rest : List Token} : Begins (.keyword word :: rest)
  | constant {value : Value} {rest : List Token} : Begins (.constant value :: rest)
  | text {points : List Nat} {rest : List Token} : Begins (.text points :: rest)
  | minus {rest : List Token} : Begins (.mark '-' :: rest)
  | bracket {rest : List Token} : Begins (.mark '[' :: rest)

end Token

namespace Value

theorem begins_tokens {value : Value} (spelled : value.IsSpelled) {rest : List Token}
    (follows : Token.Follows rest) : Token.Begins (value.tokens ++ rest) := by
  cases spelled with
  | null => exact .keyword
  | bool truth => exact .keyword
  | int short =>
      simp only [tokens]
      split
      · exact .minus
      · exact .constant
  | float number =>
      simp only [tokens]
      split
      · exact .minus
      · cases number with
        | nan | infinite => exact .name follows
        | finite => exact .constant
  | text characters => exact .text
  | rawText raw => exact .text
  | list spelled => exact .bracket
  | tuple spelled => exact .bracket

end Value

namespace Grammar

variable {levels : Nat} {rest : List Token}

/-! ## Items -/

/-- Things with a comma behind each are read one by one, up to where they end. -/
theorem items_flatMap {α β : Type} {item : Phrase α} {ended : List Token → Bool}
    {tokensOf : β → List Token} {meaning : β → α} {things : List β} {final : List Token}
    (stops : ended final = true)
    (begins : ∀ thing ∈ things, ∀ rest : List Token,
      ended (tokensOf thing ++ .mark ',' :: rest) = false)
    (reads : ∀ thing ∈ things, ∀ rest : List Token,
      item (tokensOf thing ++ .mark ',' :: rest) = some (meaning thing, .mark ',' :: rest)) :
    ∃ separated, items item ended
        ((things.flatMap fun thing => tokensOf thing ++ [Token.mark ',']) ++ final) =
      some (⟨things.map meaning, separated⟩, final) := by
  induction things with
  | nil =>
      refine ⟨false, ?_⟩
      rw [List.flatMap_nil, List.nil_append, items, if_pos stops]
      rfl
  | cons thing others ih =>
      obtain ⟨beginsFirst, beginsOthers⟩ := List.forall_mem_cons.mp begins
      obtain ⟨readsFirst, readsOthers⟩ := List.forall_mem_cons.mp reads
      obtain ⟨separated, readOthers⟩ := ih beginsOthers readsOthers
      refine ⟨true, ?_⟩
      rw [List.flatMap_cons, List.append_assoc, List.append_assoc, List.singleton_append, items,
        if_neg (by simp [beginsFirst]), readsFirst]
      simp [after?, readOthers, Items.cons]
      omega

/-- Things with a comma behind each are read up to the bracket that closes them. -/
theorem bracketed_flatMap {α β : Type} {item : Phrase α} {bracket : Char}
    {tokensOf : β → List Token} {meaning : β → α} {things : List β}
    (begins : ∀ thing ∈ things, ∀ rest : List Token,
      comesNext [bracket] (tokensOf thing ++ .mark ',' :: rest) = false)
    (reads : ∀ thing ∈ things, ∀ rest : List Token,
      item (tokensOf thing ++ .mark ',' :: rest) = some (meaning thing, .mark ',' :: rest))
    (rest : List Token) :
    ∃ separated, bracketed item bracket
        ((things.flatMap fun thing => tokensOf thing ++ [Token.mark ',']) ++
          .mark bracket :: rest) =
      some (⟨things.map meaning, separated⟩, rest) := by
  have stops : comesNext [bracket] (.mark bracket :: rest) = true := by simp [comesNext]
  obtain ⟨separated, read⟩ := items_flatMap stops begins reads
  exact ⟨separated, by simp [bracketed, read, after?]⟩

/-- Any one of some things has fewer tokens than all of them with their commas. -/
theorem length_lt_of_mem_flatMap {β : Type} (tokensOf : β → List Token) {things : List β}
    {thing : β} (member : thing ∈ things) :
    (tokensOf thing).length <
      (things.flatMap fun thing => tokensOf thing ++ [Token.mark ',']).length := by
  obtain ⟨before, behind, rfl⟩ := List.append_of_mem member
  simp only [List.flatMap_append, List.flatMap_cons, List.length_append, List.length_singleton]
  omega

/-! ## Values -/

theorem itemsOf_of_follows (value : Phrase Expression) (container : Expression)
    (follows : Token.Follows rest) : itemsOf value container rest = some (container, rest) := by
  rw [itemsOf]
  cases follows <;> rfl

theorem element_of_begins (value : Phrase Expression) {tokens : List Token}
    (begins : Token.Begins tokens) : element value tokens = value tokens := by
  cases begins with
  | name follows => cases follows <;> rfl
  | _ => rfl

theorem comesNext_of_begins {tokens : List Token} (begins : Token.Begins tokens) {bracket : Char}
    (closes : bracket = ']' ∨ bracket = '\x7d') : comesNext [bracket] tokens = false := by
  rcases closes with rfl | rfl <;> cases begins <;> rfl

/-- What has no sign in front and nothing that goes on with it behind is read at once. -/
theorem value_of_atom {tokens : List Token} {read : Expression}
    (unsigned : comesNext ['-', '+'] tokens = false)
    (atomic : atom (value levels) tokens = some (read, rest)) (follows : Token.Follows rest) :
    value (levels + 1) tokens = some (read, rest) := by
  rw [value]
  · rw [atomic]
    exact itemsOf_of_follows _ _ follows
  · rintro rest rfl
    cases unsigned
  · rintro rest rfl
    cases unsigned

theorem value_constant (given : Value) (follows : Token.Follows rest) :
    value (levels + 1) (.constant given :: rest) = some (.constant given, rest) :=
  value_of_atom rfl rfl follows

theorem value_sizeToken (number : Binary64) (follows : Token.Follows rest) :
    value (levels + 1) (Value.sizeToken number :: rest) =
      some (Value.sizeExpression number, rest) := by
  cases number <;> exact value_of_atom rfl rfl follows

theorem value_minus {read : Expression} {tokens : List Token}
    (operand : value levels tokens = some (read, rest)) :
    value (levels + 1) (.mark '-' :: tokens) = some (.sign true read, rest) := by
  simp [value, operand]

/-- A number is read with the sign that may stand in front of it. -/
theorem value_signed {token : Token} {size : Expression} {negative : Prop} [Decidable negative]
    (reads : ∀ {levels}, value (levels + 1) (token :: rest) = some (size, rest))
    (enough : (if negative then [Token.mark '-', token] else [token]).length < levels + 1) :
    value (levels + 1) ((if negative then [Token.mark '-', token] else [token]) ++ rest) =
      some (if negative then .sign true size else size, rest) := by
  split at enough
  case isTrue signed =>
    obtain ⟨levels, rfl⟩ : ∃ fewer, levels = fewer + 1 :=
      Nat.exists_eq_add_one.mpr (by simp only [List.length_cons] at enough; omega)
    rw [if_pos signed, if_pos signed]
    exact value_minus reads
  case isFalse unsigned =>
    rw [if_neg unsigned, if_neg unsigned]
    exact reads

theorem value_text (points : List Nat) (follows : Token.Follows rest) :
    value (levels + 1) (.text points :: rest) =
      some (.constant (Value.ofPoints points), rest) := by
  have alone : adjacentTexts points rest = (points, rest) := by cases follows <;> rfl
  exact value_of_atom rfl (by simp [atom, alone]) follows

theorem atom_list {items : List Value}
    (begins : ∀ item ∈ items, ∀ {rest}, Token.Follows rest → Token.Begins (item.tokens ++ rest))
    (reads : ∀ item ∈ items, ∀ rest,
      value levels (item.tokens ++ .mark ',' :: rest) = some (item.expression, .mark ',' :: rest))
    (rest : List Token) :
    atom (value levels) (.mark '[' :: Value.itemsTokens items ++ [Token.mark ']'] ++ rest) =
      some (.list (Value.itemsExpressions items), rest) := by
  have stops (item : Value) (member : item ∈ items) (rest : List Token) :
      comesNext [']'] (item.tokens ++ .mark ',' :: rest) = false :=
    comesNext_of_begins (begins item member .comma) (Or.inl rfl)
  obtain ⟨separated, read⟩ := bracketed_flatMap stops
    (fun item member rest =>
      (element_of_begins _ (begins item member .comma)).trans (reads item member rest)) rest
  rw [← Value.itemsTokens_eq_flatMap] at read
  rw [Value.itemsExpressions_eq_map]
  simp [atom, read]

end Grammar

namespace Value

theorem length_tokens_lt_of_mem {items : List Value} {item : Value} (member : item ∈ items) :
    item.tokens.length < (itemsTokens items).length := by
  rw [itemsTokens_eq_flatMap]
  exact Grammar.length_lt_of_mem_flatMap tokens member

end Value

namespace Grammar

variable {levels : Nat} {rest : List Token}

theorem value_tokens {given : Value} (spelled : given.IsSpelled)
    (enough : given.tokens.length < levels) (follows : Token.Follows rest) :
    value levels (given.tokens ++ rest) = some (given.expression, rest) := by
  -- a reader goes down one level for each token at most, so that many levels always do
  obtain ⟨levels, rfl⟩ : ∃ fewer, levels = fewer + 1 := ⟨levels - 1, by omega⟩
  induction spelled generalizing levels rest with
  | null => exact value_of_atom rfl rfl follows
  | bool truth => cases truth <;> exact value_of_atom rfl rfl follows
  | int short => exact value_signed (value_constant _ follows) enough
  | float number => exact value_signed (value_sizeToken number follows) enough
  | text characters =>
      have read := @value_text levels rest (Text.pointsOf characters) follows
      rwa [Value.ofPoints_pointsOf] at read
  | rawText raw =>
      have read := @value_text levels rest raw.points follows
      rwa [Value.ofPoints_points] at read
  | list spelled ih | tuple spelled ih =>
      simp only [Value.tokens, List.length_append, List.length_cons] at enough
      refine value_of_atom rfl ?_ follows
      refine atom_list (fun item member rest => Value.begins_tokens (spelled item member))
        (fun item member rest => ?_) rest
      have fewer := Value.length_tokens_lt_of_mem member
      obtain ⟨levels, rfl⟩ : ∃ fewer, levels = fewer + 1 := ⟨levels - 1, by omega⟩
      exact ih item member .comma levels (by omega)

/-! ## Maps -/

def entryExpression (given : Value × Value) : Option Expression × Expression :=
  (some given.1.expression, given.2.expression)

theorem entry_entryTokens {given : Value × Value} (spelled : Value.IsSpelledEntry given)
    (enough : (Value.entryTokens given).length < levels) (rest : List Token) :
    entry (value levels) (Value.entryTokens given ++ .mark ',' :: rest) =
      some (entryExpression given, .mark ',' :: rest) := by
  obtain ⟨key, content⟩ := given
  obtain ⟨⟨name, rfl⟩, spelledContent⟩ := spelled
  simp only [Value.entryTokens, List.length_append, List.length_cons] at enough
  obtain ⟨levels, rfl⟩ : ∃ fewer, levels = fewer + 1 := ⟨levels - 1, by omega⟩
  have readKey (rest : List Token) :
      value (levels + 1) ((Value.text name).tokens ++ .mark ':' :: rest) =
        some ((Value.text name).expression, .mark ':' :: rest) :=
    value_tokens (.text name) (by omega) .colon
  have readContent : value (levels + 1) (content.tokens ++ .mark ',' :: rest) =
      some (content.expression, .mark ',' :: rest) :=
    value_tokens spelledContent (by omega) .comma
  simp only [Value.entryTokens, List.append_assoc, List.cons_append]
  rw [entry]
  · simp [readKey, after?, readContent, entryExpression]
  · rintro rest same
    cases same

theorem value_map {entries : List (Value × Value)}
    (spelled : ∀ entry ∈ entries, Value.IsSpelledEntry entry)
    (enough : (Value.entriesTokens entries).length < levels) (follows : Token.Follows rest) :
    value (levels + 1)
        (.mark '\x7b' :: (Value.entriesTokens entries ++ .mark '\x7d' :: rest)) =
      some (.map (entries.map entryExpression), rest) := by
  have begins : ∀ entry ∈ entries, ∀ rest : List Token,
      comesNext ['\x7d'] (Value.entryTokens entry ++ .mark ',' :: rest) = false := by
    rintro ⟨key, content⟩ member rest
    obtain ⟨⟨name, rfl⟩, -⟩ := spelled _ member
    rfl
  have reads : ∀ given ∈ entries, ∀ rest,
      entry (value levels) (Value.entryTokens given ++ .mark ',' :: rest) =
        some (entryExpression given, .mark ',' :: rest) := by
    intro given member rest
    refine entry_entryTokens (spelled _ member) ?_ rest
    have fewer := length_lt_of_mem_flatMap Value.entryTokens member
    exact Nat.lt_trans fewer enough
  obtain ⟨separated, read⟩ := bracketed_flatMap begins reads rest
  refine value_of_atom rfl ?_ follows
  simp [atom, Value.entriesTokens, read]

/-! ## Statements -/

theorem chunk_of_anyValue {tokens behind : List Token} {read : Expression}
    (goesOn : chunkEnds tokens = false) (unstarred : comesNext ['*'] tokens = false)
    (reads : anyValue tokens = some (read, behind)) (alone : after? ',' behind = none) :
    chunk tokens = some (read, behind) := by
  have plainly : starred anyValue tokens = some (read, behind) := by
    rw [starred]
    · exact reads
    · rintro rest rfl
      cases unstarred
  rw [chunk, items, if_neg (by simp [goesOn]), plainly]
  simp [alone, bare?]

theorem statement_assignment {name : String} {read : Expression} {front : List Token}
    (assignable : name ≠ truthName)
    (goesOn : chunkEnds (front ++ .lineEnd :: rest) = false)
    (unstarred : comesNext ['*'] (front ++ .lineEnd :: rest) = false)
    (reads : anyValue (front ++ .lineEnd :: rest) = some (read, .lineEnd :: rest)) :
    statement (.name name :: .mark '=' :: (front ++ .lineEnd :: rest)) =
      some (.assign [.name name] read, .lineEnd :: rest) := by
  have target (rest : List Token) :
      chunk (.name name :: .mark '=' :: rest) = some (.name name, .mark '=' :: rest) :=
    chunk_of_anyValue rfl rfl (value_of_atom rfl rfl .equals) rfl
  have assigned := chunk_of_anyValue goesOn unstarred reads rfl
  have chained : chain (.mark '=' :: (front ++ .lineEnd :: rest)) =
      some ([read], .lineEnd :: rest) := by
    have last : chain (.lineEnd :: rest) = some ([], .lineEnd :: rest) := by simp [chain, after?]
    have shorter : (.lineEnd :: rest).length <
        (.mark '=' :: (front ++ .lineEnd :: rest)).length := by
      simp only [List.length_cons, List.length_append]
      omega
    rw [chain]
    simp only [after?, if_true, assigned, last, dif_pos shorter, Option.map_some]
  rw [statement]
  · simp [target, after?, chained, assignment?, Target.ofExpression?, assignable]
  · rintro rest same
    cases same

theorem statements_line {tokens : List Token} {read : Statement}
    (reads : statement tokens = some (read, .lineEnd :: rest))
    (shorter : rest.length < tokens.length) :
    statements tokens = (statements rest).map (read :: ·) := by
  have filled : tokens.isEmpty = false := by
    cases tokens with
    | nil => cases shorter
    | cons first others => rfl
  rw [statements, filled, reads]
  simp [ended?, shorter]

end Grammar

/-! ## Literals -/

namespace Expression

theorem areLiteral_of_each {items : List Expression}
    (each : ∀ item ∈ items, item.isLiteral = true) : areLiteral items = true := by
  induction items with
  | nil => rfl
  | cons item rest ih =>
      obtain ⟨first, others⟩ := List.forall_mem_cons.mp each
      simp [areLiteral, first, ih others]

theorem haveLiteral_of_each {entries : List (Value × Value)}
    (each : ∀ entry ∈ entries,
      entry.1.expression.isLiteral = true ∧ entry.2.expression.isLiteral = true) :
    haveLiteral (entries.map Grammar.entryExpression) = true := by
  induction entries with
  | nil => rfl
  | cons entry rest ih =>
      obtain ⟨first, others⟩ := List.forall_mem_cons.mp each
      simp [haveLiteral, Grammar.entryExpression, first, ih others]

theorem itemsDepth_le {items : List Expression} {most : Nat}
    (each : ∀ item ∈ items, item.depth ≤ most) : itemsDepth items ≤ most := by
  induction items with
  | nil => exact Nat.zero_le _
  | cons item rest ih =>
      obtain ⟨first, others⟩ := List.forall_mem_cons.mp each
      exact Nat.max_le.mpr ⟨first, ih others⟩

theorem entriesDepth_le {entries : List (Value × Value)} {most : Nat}
    (each : ∀ entry ∈ entries,
      entry.1.expression.depth ≤ most ∧ entry.2.expression.depth ≤ most) :
    entriesDepth (entries.map Grammar.entryExpression) ≤ most := by
  induction entries with
  | nil => exact Nat.zero_le _
  | cons entry rest ih =>
      obtain ⟨first, others⟩ := List.forall_mem_cons.mp each
      exact Nat.max_le.mpr ⟨Nat.max_le.mpr first, ih others⟩

end Expression

namespace Value

theorem nesting_le_itemsNesting {items : List Value} {item : Value} (member : item ∈ items) :
    item.nesting ≤ itemsNesting items :=
  itemsNesting_le_iff.mp (Nat.le_refl _) item member

theorem isLiteral_expression {value : Value} (spelled : value.IsSpelled) :
    value.expression.isLiteral = true := by
  induction spelled with
  | null | bool truth | text characters | rawText raw => rfl
  | int short =>
      simp only [expression]
      split <;> rfl
  | float number =>
      have size : (sizeExpression number).isLiteral = true := by
        cases number <;> simp [sizeExpression, Expression.isLiteral, Expression.numberNames]
      simp only [expression]
      split
      · exact size
      · exact size
  | list spelled ih | tuple spelled ih =>
      simp only [expression, Expression.isLiteral, itemsExpressions_eq_map]
      exact Expression.areLiteral_of_each (List.forall_mem_map.mpr ih)

theorem depth_expression_le {value : Value} (spelled : value.IsSpelled) :
    value.expression.depth ≤ value.nesting + 1 := by
  induction spelled with
  | null | bool truth | text characters | rawText raw => exact Nat.zero_le _
  | int short =>
      simp only [expression]
      split <;> simp [Expression.depth]
  | float number =>
      have size : (sizeExpression number).depth = 0 := by cases number <;> rfl
      simp only [expression]
      split <;> simp [Expression.depth, size]
  | @list items spelled ih | @tuple items spelled ih =>
      have each : ∀ item ∈ items, item.expression.depth ≤ itemsNesting items + 1 :=
        fun item member => Nat.le_trans (ih item member)
          (Nat.add_le_add_right (nesting_le_itemsNesting member) 1)
      have most := Expression.itemsDepth_le (List.forall_mem_map.mpr each)
      simp only [expression, Expression.depth, nesting, itemsExpressions_eq_map]
      omega

end Value

/-! ## The statements of a settings file -/

namespace SettingsFile

open Grammar

variable {entries : List (Value × Value)} {mapName : String}

def mapExpression (entries : List (Value × Value)) : Expression :=
  .map (entries.map entryExpression)

def assignment (mapName : String) (entries : List (Value × Value)) : Statement :=
  .assign [.name mapName] (mapExpression entries)

def statements (mapName : String) (entries : List (Value × Value)) : List Statement :=
  [.assign [.name versionName] (.constant (.int settingsVersion)), assignment mapName entries]

theorem isLiteral_mapExpression (spelled : ∀ entry ∈ entries, Value.IsSpelledEntry entry) :
    (mapExpression entries).isLiteral = true := by
  refine Expression.haveLiteral_of_each fun entry member => ?_
  obtain ⟨⟨name, key⟩, content⟩ := spelled entry member
  exact ⟨by rw [key]; rfl, Value.isLiteral_expression content⟩

/-- A map is deeper than the deepest of its values is nested, by itself and by a sign. -/
theorem depth_mapExpression_le (spelled : ∀ entry ∈ entries, Value.IsSpelledEntry entry) :
    (mapExpression entries).depth ≤ Value.entriesNesting entries + 2 := by
  have each := @Expression.entriesDepth_le entries (Value.entriesNesting entries + 1)
    fun entry member => by
      obtain ⟨⟨name, key⟩, content⟩ := spelled entry member
      have nested : entry.2.nesting ≤ Value.entriesNesting entries :=
        Value.nesting_le_itemsNesting (List.mem_map_of_mem member)
      have deep := Value.depth_expression_le content
      exact ⟨by rw [key]; exact Nat.zero_le _, Nat.le_trans deep (Nat.add_le_add_right nested 1)⟩
  simp only [mapExpression, Expression.depth]
  omega

theorem mapM_literal?_statements (spelled : ∀ entry ∈ entries, Value.IsSpelledEntry entry) :
    (statements mapName entries).mapM Statement.literal? =
      some [.constant (.int settingsVersion), mapExpression entries] := by
  have version : Statement.literal?
      (.assign [.name versionName] (.constant (.int settingsVersion))) =
        some (.constant (.int settingsVersion)) := rfl
  have map : (assignment mapName entries).literal? = some (mapExpression entries) := by
    simp [assignment, Statement.literal?, Target.isName, isLiteral_mapExpression spelled]
  simp [statements, version, map]

theorem statements_tokens (assignable : mapName ≠ truthName)
    (spelled : ∀ entry ∈ entries, Value.IsSpelledEntry entry) :
    Grammar.statements (tokens mapName entries) = some (statements mapName entries) := by
  have versionLine (rest : List Token) :
      statement (.name versionName :: .mark '=' ::
        ([Token.constant (.int settingsVersion)] ++ .lineEnd :: rest)) =
        some (.assign [.name versionName] (.constant (.int settingsVersion)), .lineEnd :: rest) :=
    statement_assignment (by decide) rfl rfl (value_constant _ .lineEnd)
  have mapLine : statement (.name mapName :: .mark '=' ::
        (.mark '\x7b' :: (Value.entriesTokens entries ++ [Token.mark '\x7d']) ++ [Token.lineEnd])) =
        some (assignment mapName entries, .lineEnd :: []) := by
    refine statement_assignment assignable rfl rfl ?_
    have read := @value_map ((Value.entriesTokens entries).length + 3) [.lineEnd] entries
      spelled (by omega) .lineEnd
    simp only [List.cons_append, List.append_assoc, List.nil_append]
    rw [anyValue]
    simpa [mapExpression] using read
  have shape : tokens mapName entries =
      .name versionName :: .mark '=' :: ([Token.constant (.int settingsVersion)] ++ .lineEnd ::
        (.name mapName :: .mark '=' ::
          (.mark '\x7b' :: (Value.entriesTokens entries ++ [Token.mark '\x7d']) ++
            [Token.lineEnd]))) := by
    simp [tokens, openingTokens]
  rw [shape, statements_line (versionLine _) (by simp), statements_line mapLine (by simp),
    Grammar.statements]
  rfl

end SettingsFile
end DebugIndex

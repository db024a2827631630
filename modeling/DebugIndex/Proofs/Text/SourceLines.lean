import DebugIndex.Proofs.FileSystem.Writing
import DebugIndex.Proofs.Text.LineEnds

/-!
# Lines of a source file

A character of seven bits is read from its own byte and from nothing else, whatever malformed
bytes are around it.  So a text has the newlines that its bytes have, and no carriage return once
those are dropped.  The lines of a text are what its newlines end: they make up the text, and
there are as many of them as newlines.  Whether a newline has a carriage return in front of it,
and whether the last line is ended, makes no difference to what is read from a file.
-/

namespace DebugIndex

namespace Text

/-! ## Characters of seven bits -/

section SevenBits

variable {mark byte : UInt8} {number : Nat} {state : Utf8.State}

/-- A number that is no character of seven bits is not read as one other than the null. -/
theorem ofNat_eq_ofNat_iff (ascii : mark < 0x80) (visible : mark ≠ 0) :
    Char.ofNat number = Char.ofNat mark.toNat ↔ number = mark.toNat := by
  refine ⟨fun same => ?_, congrArg Char.ofNat⟩
  have small : mark.toNat < 0x80 := UInt8.lt_iff_toNat_lt.mp ascii
  have filled : mark.toNat ≠ 0 := fun none => visible (UInt8.toNat_inj.mp none)
  have valid : mark.toNat.isValidChar := .inl (by omega)
  rw [Char.ofNat, Char.ofNat, dif_pos valid] at same
  by_cases shown : number.isValidChar
  · rw [dif_pos shown] at same
    exact congrArg Char.toNat same
  · rw [dif_neg shown] at same
    exact absurd (congrArg Char.toNat same).symm filled

theorem replacement_ne_ofNat (ascii : mark < 0x80) (visible : mark ≠ 0) :
    '\ufffd' ≠ Char.ofNat mark.toNat := by
  intro same
  have small : mark.toNat < 0x80 := UInt8.lt_iff_toNat_lt.mp ascii
  have number : 0xfffd = mark.toNat := (ofNat_eq_ofNat_iff ascii visible).mp same
  omega

namespace Utf8

/-- What is owed completes a character of more than seven bits. -/
def State.Exceeds : State → Prop
  | .boundary => True
  | .inside bits _ owed low _ => 2 ≤ bits ∨ 2 ≤ owed ∧ (1 ≤ bits ∨ 0x90 ≤ low)

/-- The first of the bytes that start a character of one length raises what may follow it, and
the others have bits to give. -/
theorem bits_or_raised {first raised low : UInt8} {least : Nat} (number : first.toNat = least)
    (started : first ≤ byte) (high : 0x90 ≤ raised) :
    1 ≤ byte.toNat - least ∨ 0x90 ≤ if byte = first then raised else low := by
  by_cases same : byte = first
  · rw [if_pos same]
    exact .inr high
  · have above : first.toNat ≤ byte.toNat := UInt8.le_iff_toNat_le.mp started
    have apart : byte.toNat ≠ first.toNat := mt UInt8.toNat_inj.mp same
    exact .inl (by omega)

theorem exceeds_start (byte : UInt8) : (start byte).2.Exceeds := by
  simp only [start]
  split
  case isTrue => trivial
  case isFalse =>
    split
    case isTrue => trivial
    case isFalse two =>
      split
      case isTrue =>
        have least : 0xc2 ≤ byte.toNat := UInt8.le_iff_toNat_le.mp (UInt8.not_lt.mp two)
        exact .inl (by omega)
      case isFalse three =>
        split
        case isTrue =>
          exact .inr ⟨by decide, bits_or_raised rfl (UInt8.not_lt.mp three) (by decide)⟩
        case isFalse four =>
          split
          case isTrue =>
            exact .inr ⟨by decide, bits_or_raised rfl (UInt8.not_lt.mp four) (by decide)⟩
          case isFalse => trivial

/-- A byte at a boundary is read as the character of its seven bits, or as none such. -/
theorem count_start (ascii : mark < 0x80) (visible : mark ≠ 0) (byte : UInt8) :
    ((start byte).1.map Piece.shown).count (Char.ofNat mark.toNat) = [byte].count mark := by
  have unlike := replacement_ne_ofNat ascii visible
  by_cases small : byte < 0x80
  · simp [start, small, Piece.shown, List.count_cons, ofNat_eq_ofNat_iff ascii visible,
      UInt8.toNat_inj]
  · have other : byte ≠ mark := by
      rintro rfl
      exact small ascii
    have none : [byte].count mark = 0 := by simp [other]
    simp only [start, if_neg small, none]
    split
    · simp [Piece.shown, unlike]
    · split
      · rfl
      · split
        · rfl
        · split
          · rfl
          · simp [Piece.shown, unlike]

theorem count_advance (ascii : mark < 0x80) (visible : mark ≠ 0) (continues : state.Continues)
    (exceeds : state.Exceeds) (byte : UInt8) :
    (advance state byte).2.Exceeds ∧
      ((advance state byte).1.map Piece.shown).count (Char.ofNat mark.toNat) =
        [byte].count mark := by
  cases state with
  | boundary => exact ⟨exceeds_start byte, count_start ascii visible byte⟩
  | inside bits taken owed low high =>
      simp only [advance]
      split
      case isFalse =>
        refine ⟨exceeds_start byte, ?_⟩
        rw [List.map_cons, Piece.shown, List.count_cons_of_ne (replacement_ne_ofNat ascii visible)]
        exact count_start ascii visible byte
      case isTrue within =>
        -- a byte that continues is no mark, and what it completes is too large to be one
        have other : byte ≠ mark := by
          rintro rfl
          exact UInt8.not_le.mpr ascii (UInt8.le_trans continues within.1)
        have none : [byte].count mark = 0 := by simp [other]
        have small : mark.toNat < 0x80 := UInt8.lt_iff_toNat_lt.mp ascii
        have lowest : 0x80 ≤ low.toNat := UInt8.le_iff_toNat_le.mp continues
        have higher : low.toNat ≤ byte.toNat := UInt8.le_iff_toNat_le.mp within.1
        rw [none]
        split
        case isTrue last =>
          refine ⟨trivial, ?_⟩
          have large : 2 ≤ bits := exceeds.resolve_right fun owes => by omega
          rw [List.map_singleton, List.count_singleton, if_neg]
          rw [beq_iff_eq, Piece.shown, ofNat_eq_ofNat_iff ascii visible]
          omega
        case isFalse =>
          refine ⟨.inl ?_, rfl⟩
          rcases exceeds with large | ⟨-, large | large⟩
          · omega
          · omega
          · have : 0x90 ≤ low.toNat := UInt8.le_iff_toNat_le.mp large
            omega

theorem count_piecesFrom (ascii : mark < 0x80) (visible : mark ≠ 0) (state : State)
    (continues : state.Continues) (exceeds : state.Exceeds) (bytes : List UInt8) :
    ((piecesFrom state bytes).map Piece.shown).count (Char.ofNat mark.toNat) =
      bytes.count mark := by
  induction bytes generalizing state with
  | nil =>
      cases state with
      | boundary => rfl
      | inside =>
          rw [piecesFrom, List.map_singleton, List.count_singleton, if_neg]
          · rfl
          · exact fun same => replacement_ne_ofNat ascii visible (beq_iff_eq.mp same)
  | cons byte rest ih =>
      obtain ⟨stillExceeds, counted⟩ := count_advance ascii visible continues exceeds byte
      rw [piecesFrom, List.map_append, List.count_append, counted,
        ih _ (continues_advance state byte) stillExceeds, ← List.count_append,
        List.singleton_append]

end Utf8

/-- A text has as many characters of seven bits of a kind as its bytes have bytes of it. -/
theorem Encoding.count_decode (encoding : Encoding) (mark : UInt8) (ascii : mark < 0x80)
    (visible : mark ≠ 0) (bytes : List UInt8) :
    (encoding.decode bytes).count (Char.ofNat mark.toNat) = bytes.count mark := by
  have each (shown : UInt8 → Char)
      (alike : ∀ byte, shown byte = Char.ofNat mark.toNat ↔ byte = mark) :
      (bytes.map shown).count (Char.ofNat mark.toNat) = bytes.count mark := by
    rw [List.count, List.countP_map]
    refine List.countP_congr fun byte _ => ?_
    simp [alike]
  cases encoding with
  | latin1 =>
      refine each _ fun byte => ?_
      rw [ofNat_eq_ofNat_iff ascii visible, UInt8.toNat_inj]
  | ascii =>
      refine each _ fun byte => ?_
      split
      case isTrue => rw [ofNat_eq_ofNat_iff ascii visible, UInt8.toNat_inj]
      case isFalse large =>
        refine iff_of_false (replacement_ne_ofNat ascii visible) ?_
        rintro rfl
        exact large ascii
  | utf8 =>
      rw [decode, Utf8.decodeLossy_eq]
      exact Utf8.count_piecesFrom ascii visible .boundary trivial trivial bytes

end SevenBits

/-! ## Cutting at a character -/

section Cutting

variable {separator : Char}

theorem flatMap_splitOn (separator : Char) (text : List Char) :
    (text.splitOn separator).flatMap (· ++ [separator]) = text ++ [separator] := by
  induction text with
  | nil => rfl
  | cons character rest ih =>
      obtain ⟨first, others, split⟩ :=
        List.exists_cons_of_ne_nil (List.splitOn_ne_nil separator rest)
      rw [split] at ih
      rw [List.splitOn_cons_eq_if_modifyHead, split]
      by_cases cut : character = separator
      · simpa [cut] using ih
      · simpa [cut] using ih

theorem separator_notMem_of_mem_splitOn {text piece : List Char}
    (listed : piece ∈ text.splitOn separator) : separator ∉ piece := by
  induction text generalizing piece with
  | nil =>
      obtain rfl : piece = [] := List.mem_singleton.mp listed
      exact List.not_mem_nil
  | cons character rest ih =>
      obtain ⟨first, others, split⟩ :=
        List.exists_cons_of_ne_nil (List.splitOn_ne_nil separator rest)
      rw [split] at ih
      rw [List.splitOn_cons_eq_if_modifyHead, split] at listed
      by_cases cut : character = separator
      · simp only [cut, beq_self_eq_true, if_true, List.mem_cons] at listed
        rcases listed with rfl | listed
        · exact List.not_mem_nil
        · exact ih (List.mem_cons.mpr listed)
      · simp only [beq_iff_eq, cut, if_false, List.modifyHead_cons, List.mem_cons] at listed
        rcases listed with rfl | listed
        · rw [List.mem_cons, not_or]
          exact ⟨Ne.symm cut, ih List.mem_cons_self⟩
        · exact ih (List.mem_cons_of_mem first listed)

end Cutting

end Text

namespace SourceText

/-! ## Files -/

/-- The bytes of a file with a carriage return in front of each newline. -/
def withCarriageReturns (content : List UInt8) : List UInt8 :=
  content.flatMap fun byte => if byte = 10 then [13, 10] else [byte]

/-- The bytes of a file that count for its text. -/
def withoutCarriageReturns (content : List UInt8) : List UInt8 :=
  content.filter (· ≠ 13)

section Files

variable {content : List UInt8} {encoding : Value} {known : Text.Encoding}

theorem withoutCarriageReturns_eq_nil_iff :
    withoutCarriageReturns content = [] ↔ ∀ byte ∈ content, byte = 13 := by
  simp [withoutCarriageReturns, List.filter_eq_nil_iff]

theorem withoutCarriageReturns_append (front rest : List UInt8) :
    withoutCarriageReturns (front ++ rest) =
      withoutCarriageReturns front ++ withoutCarriageReturns rest :=
  List.filter_append front rest

theorem withoutCarriageReturns_withCarriageReturns (content : List UInt8) :
    withoutCarriageReturns (withCarriageReturns content) = withoutCarriageReturns content := by
  induction content with
  | nil => rfl
  | cons byte rest ih =>
      have onward : withCarriageReturns (byte :: rest) =
          (if byte = 10 then [13, 10] else [byte]) ++ withCarriageReturns rest := rfl
      change _ = withoutCarriageReturns ([byte] ++ rest)
      rw [onward, withoutCarriageReturns_append, ih, withoutCarriageReturns_append]
      split
      case isTrue newline => rw [newline]; rfl
      case isFalse => rfl

theorem normalize_eq (content : List UInt8) :
    normalize content =
      if withoutCarriageReturns content = [] ∨
          (withoutCarriageReturns content).getLast? = some 10 then
        withoutCarriageReturns content
      else withoutCarriageReturns content ++ [10] := by
  simp [normalize, withoutCarriageReturns]

theorem normalize_withCarriageReturns (content : List UInt8) :
    normalize (withCarriageReturns content) = normalize content := by
  rw [normalize_eq, normalize_eq, withoutCarriageReturns_withCarriageReturns]

theorem normalize_append_newline (filled : withoutCarriageReturns content ≠ [])
    (unended : (withoutCarriageReturns content).getLast? ≠ some 10) :
    normalize (content ++ [10]) = normalize content := by
  have newline : withoutCarriageReturns [10] = [10] := rfl
  rw [normalize_eq, normalize_eq, withoutCarriageReturns_append, newline,
    if_pos (Or.inr List.getLast?_concat), if_neg (not_or.mpr ⟨filled, unended⟩)]

/-- A file in which anything counts ends in a newline then, has no carriage return, and has a
newline more than its bytes if the last line had none. -/
theorem exists_normalize_eq_append (filled : withoutCarriageReturns content ≠ []) :
    ∃ front, normalize content = front ++ [10] ∧ front.count 13 = 0 ∧
      front.count 10 + 1 = content.count 10 +
        if (withoutCarriageReturns content).getLast? = some 10 then 0 else 1 := by
  have dropped : (withoutCarriageReturns content).count 13 = 0 := by
    simp [withoutCarriageReturns, List.count_eq_zero]
  have newlines : (withoutCarriageReturns content).count 10 = content.count 10 :=
    List.count_filter (by decide)
  rw [normalize_eq]
  by_cases ended : (withoutCarriageReturns content).getLast? = some 10
  · obtain ⟨front, split⟩ := List.getLast?_eq_some_iff.mp ended
    rw [split, List.count_append] at dropped newlines
    refine ⟨front, by rw [if_pos (Or.inr ended), split], by omega, ?_⟩
    rw [if_pos ended, ← newlines]
    rfl
  · refine ⟨withoutCarriageReturns content, by rw [if_neg (not_or.mpr ⟨filled, ended⟩)], dropped,
      ?_⟩
    rw [if_neg ended, newlines]

end Files

section Loading

variable {files others : FileSystem} {codecs : Text.Codecs} {path place : String}
variable {content front : List UInt8} {encoding : Value} {known : Text.Encoding}

theorem load?_of_read (found : files.read path = .ok content) :
    load? codecs files path encoding = (ofBytes codecs content encoding).map fun loaded =>
      some ⟨String.ofList loaded.1, loaded.2.map String.ofList⟩ := by
  rw [load?, found]

theorem load?_congr {changed : List UInt8} (found : files.read path = .ok content)
    (there : others.read place = .ok changed) (same : normalize changed = normalize content) :
    load? codecs others place encoding = load? codecs files path encoding := by
  rw [load?_of_read found, load?_of_read there, ofBytes, same, ofBytes]

theorem load?_of_normalize_eq_nil (found : files.read path = .ok content)
    (empty : normalize content = []) :
    load? codecs files path encoding = .ok (some ⟨"", []⟩) := by
  rw [load?_of_read found, ofBytes_of_eq_nil empty]
  rfl

theorem load?_of_normalize_eq_append (found : files.read path = .ok content)
    (named : codecOf codecs encoding = .ok known.codec)
    (ended : normalize content = front ++ [10]) :
    load? codecs files path encoding = .ok (some
      ⟨String.ofList (known.decode front ++ ['\n']),
        ((known.decode front).splitOn '\n').map String.ofList⟩) := by
  rw [load?_of_read found, ofBytes_of_eq_append ended named]
  rfl

/-- The text that is decoded of bytes without a carriage return has none either, and its lines make
it up, have no newline in them and are as many as the newlines. -/
theorem lines_of_decode (known : Text.Encoding) (noReturn : front.count 13 = 0) :
    '\r' ∉ known.decode front ++ ['\n'] ∧
      known.decode front ++ ['\n'] = ((known.decode front).splitOn '\n').flatMap (· ++ ['\n']) ∧
      (∀ line ∈ (known.decode front).splitOn '\n', '\n' ∉ line) ∧
      ((known.decode front).splitOn '\n').length = front.count 10 + 1 := by
  have returns := known.count_decode 13 (by decide) (by decide) front
  rw [noReturn] at returns
  have inFront : '\r' ∉ known.decode front := List.count_eq_zero.mp returns
  refine ⟨by simp [inFront], (Text.flatMap_splitOn '\n' _).symm,
    fun line => Text.separator_notMem_of_mem_splitOn, ?_⟩
  rw [Text.length_splitOn]
  exact congrArg (· + 1) (known.count_decode 10 (by decide) (by decide) front)

/-- A file in which nothing but carriage returns are is loaded as nothing at all. -/
theorem load?_of_blank (found : files.read path = .ok content)
    (blank : ∀ byte ∈ content, byte = 13) :
    load? codecs files path encoding = .ok (some ⟨"", []⟩) := by
  have empty := withoutCarriageReturns_eq_nil_iff.mpr blank
  refine load?_of_normalize_eq_nil found ?_
  rw [normalize_eq, if_pos (Or.inl empty), empty]

/-- A file in which something counts is loaded as lines that make up its text. -/
theorem exists_load?_of_filled (found : files.read path = .ok content)
    (named : codecOf codecs encoding = .ok known.codec)
    (filled : withoutCarriageReturns content ≠ []) :
    ∃ loaded, load? codecs files path encoding = .ok (some loaded) ∧
      '\r' ∉ loaded.text.toList ∧
      loaded.text.toList = loaded.lines.flatMap (·.toList ++ ['\n']) ∧
      (∀ line ∈ loaded.lines, '\n' ∉ line.toList) ∧
      loaded.lines.length = content.count 10 +
        if (withoutCarriageReturns content).getLast? = some 10 then 0 else 1 := by
  obtain ⟨front, ended, noReturn, newlines⟩ := exists_normalize_eq_append filled
  obtain ⟨clean, made, cut, counted⟩ := lines_of_decode known noReturn
  refine ⟨_, load?_of_normalize_eq_append found named ended, ?_, ?_, ?_, ?_⟩
  · simpa using clean
  · simpa [List.flatMap_map] using made
  · intro line listed
    obtain ⟨piece, pieces, rfl⟩ := List.mem_map.mp listed
    simpa using cut piece pieces
  · rw [List.length_map, counted, newlines]

/-- The same is loaded of a file in which each newline has another carriage return in front of it,
or whose last line is ended as it was not. -/
theorem load?_of_altered (found : files.read path = .ok content)
    (altered : others.read place = .ok (withCarriageReturns content) ∨
      others.read place = .ok (content ++ [10]) ∧ withoutCarriageReturns content ≠ [] ∧
        (withoutCarriageReturns content).getLast? ≠ some 10) :
    load? codecs others place encoding = load? codecs files path encoding := by
  rcases altered with there | ⟨there, filled, unended⟩
  · exact load?_congr found there (normalize_withCarriageReturns content)
  · exact load?_congr found there (normalize_append_newline filled unended)

/-- A file that can be read is loaded, in any known encoding.  The text and its lines are empty
exactly if there are only carriage returns in the file.  Otherwise the text has no carriage return,
the lines have no newline and make up the text with one newline behind each, and there are as many
as newlines in the file, and one more if the last line is not ended.  The same is loaded if each
newline has another carriage return in front of it, and if the last line is ended that is not. -/
theorem exists_load?_of_read (found : files.read path = .ok content)
    (named : codecOf codecs encoding = .ok known.codec) :
    ∃ loaded, load? codecs files path encoding = .ok (some loaded) ∧
      (loaded = ⟨"", []⟩ ↔ ∀ byte ∈ content, byte = 13) ∧
      ((∃ byte ∈ content, byte ≠ 13) →
        '\r' ∉ loaded.text.toList ∧
          loaded.text.toList = loaded.lines.flatMap (·.toList ++ ['\n']) ∧
          (∀ line ∈ loaded.lines, '\n' ∉ line.toList) ∧
          loaded.lines.length = content.count 10 +
            if (withoutCarriageReturns content).getLast? = some 10 then 0 else 1) ∧
      ∀ (others : FileSystem) (place : String),
        others.read place = .ok (withCarriageReturns content) ∨
            others.read place = .ok (content ++ [10]) ∧ (∃ byte ∈ content, byte ≠ 13) ∧
              (withoutCarriageReturns content).getLast? ≠ some 10 →
          load? codecs others place encoding = .ok (some loaded) := by
  have counts : (∃ byte ∈ content, byte ≠ 13) ↔ withoutCarriageReturns content ≠ [] := by
    simp [withoutCarriageReturns_eq_nil_iff]
  simp only [counts]
  by_cases empty : withoutCarriageReturns content = []
  · have blank := withoutCarriageReturns_eq_nil_iff.mp empty
    have loaded := @load?_of_blank _ codecs _ _ encoding found blank
    exact ⟨_, loaded, iff_of_true rfl blank, absurd empty, fun others place altered =>
      (load?_of_altered found altered).trans loaded⟩
  · obtain ⟨loaded, read, lines⟩ := exists_load?_of_filled found named empty
    refine ⟨loaded, read, iff_of_false ?_ (mt withoutCarriageReturns_eq_nil_iff.mpr empty),
      fun _ => lines, fun others place altered => (load?_of_altered found altered).trans read⟩
    rintro rfl
    have count := lines.2.2.2
    have someNewline := (exists_normalize_eq_append empty).choose_spec.2.2
    simp only [List.length_nil] at count
    omega

end Loading

def filesWith (content : List UInt8) : FileSystem where
  nodes := [(["a.c"], .file content 0)]

theorem read_filesWith (content : List UInt8) : (filesWith content).read "a.c" = .ok content := by
  have relative : "a.c".startsWith "/" = false := by simp
  refine FileSystem.read_eq_ok_iff.mpr ⟨⟨0, ?_⟩, rfl, rfl⟩
  simp only [FileSystem.inspect, FileSystem.accept, FileSystem.origin, relative,
    String.contains_char_eq]
  rfl

theorem codecOf_utf8 {codecs : Text.Codecs} :
    codecOf codecs (.text "utf-8") = .ok (Text.Encoding.codec .utf8) :=
  codecOf_of_ofName? (by simp) (by decide +kernel)

/-- Three lines: one that a carriage return and a newline end, one that cuts a character short,
and one that is not ended. -/
theorem exists_load?_cutCharacter :
    (filesWith [97, 13, 10, 0xc3, 10, 98]).read "a.c" = .ok [97, 13, 10, 0xc3, 10, 98] ∧
      codecOf {} (.text "utf-8") = .ok (Text.Encoding.codec .utf8) ∧
      ∃ loaded,
        load? {} (filesWith [97, 13, 10, 0xc3, 10, 98]) "a.c" (.text "utf-8") = .ok (some loaded) ∧
        '\r' ∉ loaded.text.toList ∧ loaded.lines.length = 3 ∧
        load? {} (filesWith [97, 13, 13, 10, 0xc3, 13, 10, 98]) "a.c" (.text "utf-8") =
          .ok (some loaded) ∧
        load? {} (filesWith [97, 13, 10, 0xc3, 10, 98, 10]) "a.c" (.text "utf-8") =
          .ok (some loaded) := by
  obtain ⟨loaded, found, -, lines, altered⟩ :=
    exists_load?_of_read (read_filesWith [97, 13, 10, 0xc3, 10, 98]) codecOf_utf8
  have filled : ∃ byte ∈ [97, 13, 10, 0xc3, 10, 98], byte ≠ (13 : UInt8) := by decide
  obtain ⟨noReturn, -, -, count⟩ := lines filled
  refine ⟨read_filesWith _, codecOf_utf8, loaded, found, noReturn, count, ?_, ?_⟩
  · exact altered _ "a.c" (.inl (read_filesWith _))
  · exact altered _ "a.c" (.inr ⟨read_filesWith _, filled, by decide⟩)

/-- A carriage return behind the last newline hides that the line is ended, so that a further
newline ends a further line. -/
theorem load?_append_newline_ne :
    [97, 10, 13].getLast? ≠ some (10 : UInt8) ∧ (∃ byte ∈ [97, 10, 13], byte ≠ (13 : UInt8)) ∧
      load? {} (filesWith ([97, 10, 13] ++ [10])) "a.c" (.text "latin-1") ≠
        load? {} (filesWith [97, 10, 13]) "a.c" (.text "latin-1") := by
  refine ⟨by decide, by decide, ?_⟩
  rw [@load?_of_normalize_eq_append _ _ _ _ [97, 10] _ _ (read_filesWith _) codecOf_latin1 rfl,
    @load?_of_normalize_eq_append _ _ _ _ [97] _ _ (read_filesWith _) codecOf_latin1 rfl]
  intro same
  have lines := congrArg (fun loaded => loaded.toOption.map (Option.map (·.lines.length))) same
  cases lines

end SourceText
end DebugIndex

import KeyedSql.Proofs.Key.Values

/-!
# Dotted names

Type names and property paths are the same texts: words with single dots between them. A type name
is recognised in one pass over its characters, which remembers whether a word begins; a path is
split at its dots first, and each segment is read for itself. The two agree since a dot is the one
character at which a pass begins a new word.

They differ in what they report. A type name is searched for a delimiter as a whole, a path only as
far as its first segment that is no word.
-/

namespace KeyedSql

open Outcome

namespace Token

variable {c d : Char} {cs : List Char} {token : String} {e : GrammarError}

/-! ## Words -/

/-- The characters that a word begins with: `[A-Za-z_$]`. -/
def BeginsWord (c : Char) : Prop :=
  'A' ≤ c ∧ c ≤ 'Z' ∨ 'a' ≤ c ∧ c ≤ 'z' ∨ c = '_' ∨ c = '$'

/-- The characters that a word goes on with: `[A-Za-z0-9_$]`. -/
def ContinuesWord (c : Char) : Prop :=
  BeginsWord c ∨ '0' ≤ c ∧ c ≤ '9'

/-- The characters are a word: one that it begins with, then any number that it goes on with. -/
def IsWord (cs : List Char) : Prop :=
  ∃ first rest, cs = first :: rest ∧ BeginsWord first ∧ ∀ c ∈ rest, ContinuesWord c

/-- The text is one or more words with single dots between them. -/
def IsDotted (s : String) : Prop :=
  ∃ words : List String, words ≠ [] ∧ (∀ word ∈ words, IsWord word.toList) ∧
    s = Text.join '.' words

theorem isStart_iff : isStart c = true ↔ BeginsWord c := by
  have halpha : c.isAlpha = true ↔ c.isUpper = true ∨ c.isLower = true := Bool.or_eq_true_iff
  have hupper : c.isUpper = true ↔ 'A' ≤ c ∧ c ≤ 'Z' := decide_eq_true_iff
  have hlower : c.isLower = true ↔ 'a' ≤ c ∧ c ≤ 'z' :=
    Bool.and_eq_true_iff.trans (and_congr decide_eq_true_iff decide_eq_true_iff)
  simp only [isStart, BeginsWord, Bool.or_eq_true, beq_iff_eq, halpha, hupper, hlower, or_assoc]

theorem isPart_iff : isPart c = true ↔ ContinuesWord c := by
  simp [isPart, ContinuesWord, isStart_iff, Char.isDigit, Char.le_def]

theorem isIdentifier_iff : isIdentifier cs = true ↔ IsWord cs := by
  cases cs with
  | nil => simp [isIdentifier, IsWord]
  | cons c cs => simp [isIdentifier, IsWord, isStart_iff, isPart_iff]

/-! ## Recognising in one pass -/

/-- What a pass accepts up to the next dot: a word, or the rest of one that has begun. -/
def completesRun (atStart : Bool) (run : List Char) : Bool :=
  if atStart then isIdentifier run else run.all isPart

/-- A pass accepts each run of characters between dots; all but the first begin a word. -/
theorem completesDotted_iff {atStart : Bool} :
    completesDotted atStart cs = true ↔
      completesRun atStart (Text.splitChars '.' cs).1 = true ∧
        ∀ run ∈ (Text.splitChars '.' cs).2, isIdentifier run = true := by
  induction cs generalizing atStart with
  | nil => cases atStart <;> simp [completesDotted, completesRun, Text.splitChars, isIdentifier]
  | cons c cs ih =>
    by_cases hdot : c = '.'
    · subst hdot
      cases atStart with
      | true =>
        -- A word cannot begin with the dot, and neither can it be the empty run before it.
        have hstart : isStart '.' = false := by decide
        simp [completesDotted, completesRun, Text.splitChars, isIdentifier, hstart]
      | false => simp [completesDotted, completesRun, Text.splitChars, ih]
    · cases atStart with
      | true =>
        simp [completesDotted, completesRun, Text.splitChars, isIdentifier, hdot, ih, and_assoc]
      | false => simp [completesDotted, completesRun, Text.splitChars, hdot, ih, and_assoc]

theorem isTypeName_iff_split {s : String} :
    isTypeName s.toList = true ↔ ∀ part ∈ Text.split '.' s, IsWord part.toList := by
  have hruns := @completesDotted_iff s.toList true
  simpa [isTypeName, completesRun, Text.split, isIdentifier_iff] using hruns

theorem isDotted_iff_split {s : String} :
    IsDotted s ↔ ∀ part ∈ Text.split '.' s, IsWord part.toList := by
  constructor
  · rintro ⟨words, hne, hwords, rfl⟩
    rw [Text.split_join hne fun word hword hdot => ?_]
    · exact hwords
    · have hword := isIdentifier_iff.2 (hwords word hword)
      exact absurd (isPart_of_mem_of_isIdentifier hword _ hdot) (by decide)
  · intro h
    exact ⟨Text.split '.' s, Text.split_ne_nil '.' s, h, (Text.join_split '.' s).symm⟩

/-! ## Faults -/

/-- The delimiter is the first one in the text. -/
def HasFirstDelimiter (token : String) (d : Char) : Prop :=
  d ∈ delimiters ∧
    ∃ before after, token.toList = before ++ d :: after ∧ ∀ c ∈ before, c ∉ delimiters

/-- What is reported of a text that is no word: its first delimiter, or the text if it has none. -/
inductive WordFault (token : String) : GrammarError → Prop where
  | delimiter {d : Char} (hfirst : HasFirstDelimiter token d) :
      WordFault token (.reservedCharacter token d)
  | form (hnone : ∀ c ∈ token.toList, c ∉ delimiters) (hword : ¬ IsWord token.toList) :
      WordFault token (.invalidToken token)

theorem firstDelimiter_eq_some_iff : firstDelimiter token = some d ↔ HasFirstDelimiter token d := by
  simp [firstDelimiter, HasFirstDelimiter, List.find?_eq_some_iff_append]

theorem firstDelimiter_eq_none_iff :
    firstDelimiter token = none ↔ ∀ c ∈ token.toList, c ∉ delimiters := by
  simp [firstDelimiter]

theorem exists_hasFirstDelimiter (hd : d ∈ delimiters) (htoken : d ∈ token.toList) :
    ∃ first, HasFirstDelimiter token first := by
  cases hfirst : firstDelimiter token with
  | some first => exact ⟨first, firstDelimiter_eq_some_iff.1 hfirst⟩
  | none => exact absurd hd (firstDelimiter_eq_none_iff.1 hfirst d htoken)

theorem requireIdentifier_eq_error_iff :
    requireIdentifier token = .error e ↔ WordFault token e := by
  unfold requireIdentifier
  cases hfirst : firstDelimiter token with
  | some d =>
    have hd := firstDelimiter_eq_some_iff.1 hfirst
    constructor
    · rintro ⟨⟩
      exact .delimiter hd
    · rintro (@⟨d', hd'⟩ | ⟨hnone, -⟩)
      · cases hfirst.symm.trans (firstDelimiter_eq_some_iff.2 hd')
        rfl
      · cases hfirst.symm.trans (firstDelimiter_eq_none_iff.2 hnone)
  | none =>
    have hnone := firstDelimiter_eq_none_iff.1 hfirst
    constructor
    · intro h
      split_ifs at h with hword
      cases h
      exact .form hnone (mt isIdentifier_iff.2 hword)
    · rintro (@⟨d', hd'⟩ | ⟨-, hword⟩)
      · cases hfirst.symm.trans (firstDelimiter_eq_some_iff.2 hd')
      · exact if_neg (mt isIdentifier_iff.1 hword)

end Token

/-! ## Readers -/

open Token

section Readers

variable {s : String} {c : ComponentType} {p : PropertyPath}

theorem Identifier.exists_parse_eq_ok_iff : (∃ id, parse s = .ok id) ↔ IsWord s.toList := by
  simp only [parse_eq_ok_iff, ← isIdentifier_iff]
  exact ⟨fun ⟨id, hs⟩ => hs ▸ id.isIdentifier_text, fun hs => ⟨⟨s, hs⟩, rfl⟩⟩

theorem ComponentType.exists_parse_eq_ok_iff : (∃ c, parse s = .ok c) ↔ IsDotted s := by
  simp only [parse_eq_ok_iff, isDotted_iff_split, ← isTypeName_iff_split]
  exact ⟨fun ⟨c, hs⟩ => hs ▸ c.isTypeName_text, fun hs => ⟨⟨s, hs⟩, rfl⟩⟩

theorem ComponentType.parse_of_hasFirstDelimiter {d : Char} (h : HasFirstDelimiter s d) :
    parse s = .error (.reservedCharacter s d) := by
  rw [parse_eq_error_iff, requireTypeName, firstDelimiter_eq_some_iff.2 h]

/-- A path is read segment by segment. -/
theorem PropertyPath.parse_eq_error_iff_mapM {e : GrammarError} :
    parse s = .error e ↔ (Text.split '.' s).mapM Identifier.parse = .error e := by
  rw [Text.split, List.mapM_map, List.mapM_cons]
  simp [parse, bind_eq_error_iff, pure, Except.pure, Function.comp_def]

theorem PropertyPath.parse_eq_error_iff {e : GrammarError} :
    parse s = .error e ↔ ∃ before segment after, Text.split '.' s = before ++ segment :: after ∧
      (∀ word ∈ before, IsWord word.toList) ∧ WordFault segment e := by
  rw [parse_eq_error_iff_mapM, mapM_eq_error_iff]
  simp only [Identifier.exists_parse_eq_ok_iff, Identifier.parse_eq_error_iff,
    requireIdentifier_eq_error_iff]

theorem PropertyPath.exists_parse_eq_ok_iff : (∃ p, parse s = .ok p) ↔ IsDotted s := by
  rw [exists_eq_ok_iff]
  simp only [parse_eq_error_iff_mapM]
  rw [← exists_eq_ok_iff, exists_mapM_eq_ok_iff, isDotted_iff_split]
  simp only [Identifier.exists_parse_eq_ok_iff]

theorem PropertyPath.split_text (p : PropertyPath) :
    Text.split '.' p.text = p.segments.map (·.text) := by
  refine Text.split_join (by simp [segments]) fun part hpart => ?_
  obtain ⟨id, -, rfl⟩ := List.mem_map.1 hpart
  exact id.dot_notMem_text

theorem PropertyPath.leading_eq_take (p : PropertyPath) :
    p.leading = p.segments.take (p.segments.length - 1) :=
  List.dropLast_eq_take

theorem PropertyPath.getElem?_segments_last (p : PropertyPath) :
    p.segments[p.segments.length - 1]? = some p.last := by
  rw [← List.getLast?_eq_getElem?]
  exact List.getLast?_eq_some_getLast p.segments_ne_nil

/-- The short name of a type is the last segment of the path with its text. -/
theorem ComponentType.shortName_eq_last (h : c.text = p.text) : c.shortName = p.last.text := by
  simp only [shortName, h, p.split_text, List.getLast_map]
  rfl

end Readers

/-- Type names and paths are read from the same texts, words with single dots between them. -/
theorem Token.dottedReaders_agree (s : String) :
    ((∃ c, ComponentType.parse s = .ok c) ↔ ∃ p, PropertyPath.parse s = .ok p) ∧
    ((∃ p, PropertyPath.parse s = .ok p) ↔ IsDotted s) ∧
    (∀ c, ComponentType.parse s = .ok c → c.text = s) ∧
    (∀ p, PropertyPath.parse s = .ok p →
      p.text = s ∧ (p.leading ++ [p.last]).map (·.text) = Text.split '.' s ∧
        p.leading = p.segments.take (p.segments.length - 1) ∧
        p.segments[p.segments.length - 1]? = some p.last) ∧
    (∀ c p, ComponentType.parse s = .ok c → PropertyPath.parse s = .ok p →
      c.shortName = p.last.text) ∧
    (∀ d ∈ delimiters, d ∈ s.toList → ∃ first e, HasFirstDelimiter s first ∧
      ComponentType.parse s = .error (.reservedCharacter s first) ∧
        PropertyPath.parse s = .error e) ∧
    ∀ e, PropertyPath.parse s = .error e ↔
      ∃ before segment after, Text.split '.' s = before ++ segment :: after ∧
        (∀ word ∈ before, IsWord word.toList) ∧ WordFault segment e := by
  refine ⟨?_, PropertyPath.exists_parse_eq_ok_iff, ?_, ?_, ?_, ?_, ?_⟩
  · rw [ComponentType.exists_parse_eq_ok_iff, PropertyPath.exists_parse_eq_ok_iff]
  · intro c hc
    exact (ComponentType.parse_eq_ok_iff.1 hc).symm
  · intro p hp
    obtain rfl := PropertyPath.parse_eq_ok_iff.1 hp
    refine ⟨rfl, ?_, p.leading_eq_take, p.getElem?_segments_last⟩
    rw [p.leading_append_last, p.split_text]
  · intro c p hc hp
    refine ComponentType.shortName_eq_last ?_
    rw [← ComponentType.parse_eq_ok_iff.1 hc, ← PropertyPath.parse_eq_ok_iff.1 hp]
  · intro d hd hs
    obtain ⟨first, hfirst⟩ := exists_hasFirstDelimiter hd hs
    have htype := ComponentType.parse_of_hasFirstDelimiter hfirst
    have hpath : ¬ ∃ p, PropertyPath.parse s = .ok p := by
      rw [PropertyPath.exists_parse_eq_ok_iff, ← ComponentType.exists_parse_eq_ok_iff, htype]
      nofun
    obtain ⟨e, he⟩ := not_not.1 (mt exists_eq_ok_iff.2 hpath)
    exact ⟨first, e, hfirst, htype, he⟩
  · exact fun e => PropertyPath.parse_eq_error_iff

end KeyedSql

import KeyedSql.Key.GrammarError

/-!
# Tokens

The key grammar has no escapes: seven characters are delimiters and stand in no name. An identifier
is an ASCII letter, `_` or `$` followed by any number of letters, digits, `_` and `$`; a type name
is one or more identifiers with single dots between them.

`requireIdentifier` and `requireTypeName` tell a delimiter inside a token apart from any other
fault.
-/

namespace KeyedSql.Token

/-- The delimiters of the key grammar. -/
def delimiters : List Char := ['/', '?', '&', '=', ',', ';', '#']

/-- The first delimiter in a token. -/
def firstDelimiter (token : String) : Option Char :=
  token.toList.find? delimiters.contains

/-- The characters that begin an identifier. -/
def isStart (c : Char) : Bool :=
  c.isAlpha || c == '_' || c == '$'

/-- The characters that continue an identifier. -/
def isPart (c : Char) : Bool :=
  isStart c || c.isDigit

/-- Whether the characters are an identifier. -/
def isIdentifier : List Char → Bool
  | [] => false
  | c :: cs => isStart c && cs.all isPart

/-- Whether the characters complete a dotted name; `atStart` says that an identifier begins here. -/
def completesDotted (atStart : Bool) : List Char → Bool
  | [] => !atStart
  | c :: cs =>
    if atStart then isStart c && completesDotted false cs
    else if c = '.' then completesDotted true cs
    else isPart c && completesDotted false cs

/-- Whether the characters are identifiers with single dots between them. -/
def isTypeName (cs : List Char) : Bool :=
  completesDotted true cs

/-- Refuses a token that is not an identifier; a delimiter in it is reported first. -/
def requireIdentifier (token : String) : Except GrammarError Unit :=
  match firstDelimiter token with
  | some c => .error (.reservedCharacter token c)
  | none => if isIdentifier token.toList then .ok () else .error (.invalidToken token)

/-- Refuses a token that is not a type name; a delimiter in it is reported first. -/
def requireTypeName (token : String) : Except GrammarError Unit :=
  match firstDelimiter token with
  | some c => .error (.reservedCharacter token c)
  | none => if isTypeName token.toList then .ok () else .error (.invalidTypeName token)

/-! ## Characters of names -/

theorem isPart_of_isStart {c : Char} (h : isStart c = true) : isPart c = true := by
  simp [isPart, h]

theorem isPart_eq_false_of_mem_delimiters {c : Char} (h : c ∈ delimiters) : isPart c = false := by
  simp only [delimiters, List.mem_cons, List.not_mem_nil, or_false] at h
  rcases h with rfl | rfl | rfl | rfl | rfl | rfl | rfl <;> decide

theorem isPart_of_mem_of_isIdentifier {cs : List Char} (h : isIdentifier cs = true) :
    ∀ c ∈ cs, isPart c = true := by
  cases cs with
  | nil => simp
  | cons d ds =>
    simp only [isIdentifier, Bool.and_eq_true, List.all_eq_true] at h
    simpa using ⟨isPart_of_isStart h.1, h.2⟩

theorem isPart_or_dot_of_completesDotted {b : Bool} {cs : List Char}
    (h : completesDotted b cs = true) : ∀ c ∈ cs, isPart c = true ∨ c = '.' := by
  induction cs generalizing b with
  | nil => simp
  | cons d ds ih =>
    intro c hc
    unfold completesDotted at h
    rcases List.mem_cons.1 hc with rfl | hc
    · split at h
      · exact .inl (isPart_of_isStart (Bool.and_eq_true_iff.1 h).1)
      · split at h
        · exact .inr ‹_›
        · exact .inl (Bool.and_eq_true_iff.1 h).1
    · split at h
      · exact ih (Bool.and_eq_true_iff.1 h).2 c hc
      · split at h
        · exact ih h c hc
        · exact ih (Bool.and_eq_true_iff.1 h).2 c hc

theorem notMem_of_mem_delimiters_of_isIdentifier {c : Char} {cs : List Char} (hc : c ∈ delimiters)
    (h : isIdentifier cs = true) : c ∉ cs := fun hmem => by
  simpa [isPart_eq_false_of_mem_delimiters hc] using isPart_of_mem_of_isIdentifier h c hmem

theorem notMem_of_mem_delimiters_of_isTypeName {c : Char} {cs : List Char} (hc : c ∈ delimiters)
    (h : isTypeName cs = true) : c ∉ cs := fun hmem => by
  rcases isPart_or_dot_of_completesDotted h c hmem with h | rfl
  · simp [isPart_eq_false_of_mem_delimiters hc] at h
  · simp [delimiters] at hc

theorem firstDelimiter_eq_none {token : String} (h : ∀ c ∈ delimiters, c ∉ token.toList) :
    firstDelimiter token = none := by
  simp only [firstDelimiter, List.find?_eq_none, List.contains_iff_mem]
  exact fun c hc hr => h c hr hc

theorem requireIdentifier_eq_ok_iff {token : String} :
    requireIdentifier token = .ok () ↔ isIdentifier token.toList = true := by
  constructor
  · unfold requireIdentifier
    split
    · simp
    · split <;> simp_all
  · intro h
    simp [requireIdentifier, h,
      firstDelimiter_eq_none fun c hc => notMem_of_mem_delimiters_of_isIdentifier hc h]

theorem requireTypeName_eq_ok_iff {token : String} :
    requireTypeName token = .ok () ↔ isTypeName token.toList = true := by
  constructor
  · unfold requireTypeName
    split
    · simp
    · split <;> simp_all
  · intro h
    simp [requireTypeName, h,
      firstDelimiter_eq_none fun c hc => notMem_of_mem_delimiters_of_isTypeName hc h]

end KeyedSql.Token

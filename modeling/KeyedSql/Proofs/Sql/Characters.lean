import KeyedSql.Sql.Text

/-!
# The characters of a statement

The text of a statement is made of fixed words and signs, of placeholders and of the names that the
statement holds. So a class of characters that has the fixed ones and those of every name has every
character of the text, once the mark of a placeholder is added.
-/

namespace KeyedSql

/-! ## Texts within a class of characters -/

namespace Text

variable {P Q : Char → Prop} {s t : String}

/-- Every character of the text is in the class. -/
def Within (P : Char → Prop) (s : String) : Prop :=
  ∀ c ∈ s.toList, P c

theorem Within.mono (h : Within P s) (hPQ : ∀ c, P c → Q c) : Within Q s :=
  fun c hc => hPQ c (h c hc)

theorem within_append : Within P (s ++ t) ↔ Within P s ∧ Within P t := by
  simp only [Within, String.toList_append, List.forall_mem_append]

theorem within_intercalate {parts : List String} (hs : Within P s)
    (h : ∀ part ∈ parts, Within P part) : Within P (s.intercalate parts) := by
  induction parts with
  | nil => simp [Within]
  | cons first rest ih =>
    obtain ⟨hfirst, hrest⟩ := List.forall_mem_cons.1 h
    cases rest with
    | nil => simpa using hfirst
    | cons next rest =>
      rw [String.intercalate_cons_cons, within_append, within_append]
      exact ⟨⟨hfirst, hs⟩, ih hrest⟩

theorem within_intercalate_map {α : Type} {f : α → String} {xs : List α} (hs : Within P s)
    (h : ∀ x ∈ xs, Within P (f x)) : Within P (s.intercalate (xs.map f)) :=
  within_intercalate hs (List.forall_mem_map.2 h)

end Text

open Text

/-! ## The names in a statement -/

/-- The name of a column and the alias before it. -/
def ColumnName.names (column : ColumnName) : List String :=
  column.name :: column.qualifier.toList

/-- The names of a joined table: its own, its alias, and those of the columns that are equal. -/
def JoinedTable.names (joined : JoinedTable) : List String :=
  joined.table :: joined.qualifier :: joined.pairs.flatMap fun p => p.1.names ++ p.2.names

/-- The names of a source: those of its first table and of the joined ones. -/
def TableSource.names (source : TableSource) : List String :=
  source.table :: source.qualifier :: source.joins.flatMap (·.names)

/-- The names that stand in the text of a statement; a text that is given as it stands counts as a
name. -/
def Sql.names : Sql → List String
  | insert table values => table :: values.flatMap (·.column.names)
  | update table assigned version conditions =>
    table :: (assigned.flatMap (·.column.names) ++ version.toList ++
      conditions.flatMap (·.column.names))
  | delete table conditions => table :: conditions.flatMap (·.column.names)
  | select columns source conditions cancelled order =>
    columns.flatMap (·.names) ++ source.names ++ conditions.flatMap (·.column.names) ++
      cancelled.toList.flatMap (·.names) ++ order.flatMap (·.column.names)
  | verbatim text => [text]

/-! ## Fixed characters -/

/-- The characters of fixed words and signs: those of identifiers and some punctuation. -/
def isFixedChar (c : Char) : Bool :=
  Token.isPart c || [' ', '.', ',', '=', '(', ')', '+'].contains c

/-- The characters of statements: the fixed ones and the mark of a placeholder. -/
def isSqlChar (c : Char) : Bool :=
  isFixedChar c || c == '?'

theorem isFixedChar_of_isPart {c : Char} (h : Token.isPart c = true) : isFixedChar c = true := by
  simp [isFixedChar, h]

theorem isFixedChar_of_isDigit {c : Char} (h : c.isDigit = true) : isFixedChar c = true := by
  simp [isFixedChar, Token.isPart, h]

theorem ne_questionMark_of_isFixedChar {c : Char} (h : isFixedChar c = true) : c ≠ '?' := by
  rintro rfl
  exact absurd h (by decide)

theorem isSqlChar_of_isFixedChar {c : Char} (h : isFixedChar c = true) : isSqlChar c = true := by
  simp [isSqlChar, h]

/-- Characters that could end a name, a text or a statement, or begin a comment. -/
def sqlDelimiters : List Char :=
  "'\"\x60;-/*#\\".toList

theorem isSqlChar_eq_false_of_mem_sqlDelimiters {c : Char} (h : c ∈ sqlDelimiters) :
    isSqlChar c = false := by
  have hall : sqlDelimiters.all (fun c => !isSqlChar c) = true := by decide
  simpa using List.all_eq_true.1 hall c h

/-- The characters of statements are printable ones of ASCII. -/
theorem printable_of_isSqlChar {c : Char} (h : isSqlChar c = true) : ' ' ≤ c ∧ c ≤ '~' := by
  have hrange : ∀ a b : Char, a.val ≤ c.val ∧ c.val ≤ b.val → ' ' ≤ a ∧ b ≤ '~' →
      ' ' ≤ c ∧ c ≤ '~' :=
    fun a b hc hab => ⟨Char.le_trans hab.1 hc.1, Char.le_trans hc.2 hab.2⟩
  have hdecide : ∀ a b : Char, (decide (a.val ≤ c.val) && decide (c.val ≤ b.val)) = true →
      a.val ≤ c.val ∧ c.val ≤ b.val :=
    fun a b h => (Bool.and_eq_true_iff.1 h).imp of_decide_eq_true of_decide_eq_true
  have hletter : c.isAlpha = true → ' ' ≤ c ∧ c ≤ '~' := by
    intro h
    rcases Bool.or_eq_true_iff.1 h with h | h
    · exact hrange 'A' 'Z' (of_decide_eq_true h) (by decide)
    · exact hrange 'a' 'z' (hdecide 'a' 'z' h) (by decide)
  simp only [isSqlChar, isFixedChar, Token.isPart, Token.isStart, Bool.or_eq_true, beq_iff_eq,
    List.contains_iff_mem, List.mem_cons, List.not_mem_nil, or_false] at h
  rcases h with ((((h | rfl) | rfl) | h) | h) | rfl
  case inl.inl.inl.inl.inl => exact hletter h
  case inl.inl.inr => exact hrange '0' '9' (hdecide '0' '9' h) (by decide)
  case inl.inr => rcases h with rfl | rfl | rfl | rfl | rfl | rfl | rfl <;> decide
  all_goals decide

/-- The text of a number has digits alone. -/
theorem isDigit_of_mem_toString {n : Nat} {c : Char} (h : c ∈ (toString n).toList) :
    c.isDigit = true := by
  have hdigits : (toString n).toList = Nat.toDigits 10 n := String.toList_ofList
  rw [hdigits] at h
  exact Nat.isDigit_of_mem_toDigits (by decide) (by decide) h

section Fixed

variable {P : Char → Prop} (hP : ∀ c, isFixedChar c = true → P c)

include hP

theorem within_of_all_isFixedChar {s : String} (h : s.toList.all isFixedChar = true) :
    Within P s :=
  fun c hc => hP c (List.all_eq_true.1 h c hc)

theorem within_toString (n : Nat) : Within P (toString n) :=
  fun _ hc => hP _ (isFixedChar_of_isDigit (isDigit_of_mem_toString hc))

/-! ## Pieces without placeholders -/

theorem ColumnName.within_text {column : ColumnName} (h : ∀ name ∈ column.names, Within P name) :
    Within P column.text := by
  obtain ⟨_ | qualifier, name⟩ := column
  · exact h name (by simp [names])
  · have hqualifier : Within P qualifier := h qualifier (by simp [names])
    have hname : Within P name := h name (by simp [names])
    unfold text
    simp only [within_append]
    exact ⟨⟨hqualifier, within_of_all_isFixedChar hP (by decide)⟩, hname⟩

theorem ColumnName.within_notCancelled {column : ColumnName}
    (h : ∀ name ∈ column.names, Within P name) : Within P column.notCancelled := by
  have hcolumn : Within P column.text := within_text hP h
  simp only [notCancelled, within_append]
  refine ⟨⟨⟨⟨?_, hcolumn⟩, ?_⟩, hcolumn⟩, ?_⟩ <;> exact within_of_all_isFixedChar hP (by decide)

theorem OrderTerm.within_text {term : OrderTerm}
    (h : ∀ name ∈ term.column.names, Within P name) : Within P term.text := by
  simp only [text, within_append]
  refine ⟨⟨ColumnName.within_text hP h, within_of_all_isFixedChar hP (by decide)⟩, ?_⟩
  cases term.direction <;> exact within_of_all_isFixedChar hP (by decide)

theorem JoinedTable.within_text {joined : JoinedTable} (h : ∀ name ∈ joined.names, Within P name) :
    Within P joined.text := by
  simp only [names, List.forall_mem_cons, List.forall_mem_flatMap, List.forall_mem_append] at h
  obtain ⟨htable, hqualifier, hpairs⟩ := h
  have hpair : ∀ p ∈ joined.pairs, Within P (p.1.text ++ " = " ++ p.2.text) := by
    intro p hp
    rw [within_append, within_append]
    exact ⟨⟨ColumnName.within_text hP (hpairs p hp).1, within_of_all_isFixedChar hP (by decide)⟩,
      ColumnName.within_text hP (hpairs p hp).2⟩
  unfold text
  simp only [within_append]
  refine ⟨⟨⟨⟨⟨?_, htable⟩, ?_⟩, hqualifier⟩, ?_⟩, ?_⟩
  case refine_4 => exact within_intercalate_map (within_of_all_isFixedChar hP (by decide)) hpair
  all_goals exact within_of_all_isFixedChar hP (by decide)

theorem TableSource.within_text {source : TableSource} (h : ∀ name ∈ source.names, Within P name) :
    Within P source.text := by
  simp only [names, List.forall_mem_cons, List.forall_mem_flatMap] at h
  obtain ⟨htable, hqualifier, hjoins⟩ := h
  refine within_intercalate (within_of_all_isFixedChar hP (by decide)) ?_
  rw [List.forall_mem_cons, within_append, within_append, List.forall_mem_map]
  exact ⟨⟨⟨htable, within_of_all_isFixedChar hP (by decide)⟩, hqualifier⟩,
    fun joined hjoined => JoinedTable.within_text hP (hjoins joined hjoined)⟩

theorem ColumnName.within_selection {columns : List ColumnName}
    (h : ∀ column ∈ columns, ∀ name ∈ column.names, Within P name) :
    Within P ("SELECT " ++ ", ".intercalate (columns.map (·.text))) :=
  within_append.2 ⟨within_of_all_isFixedChar hP (by decide),
    within_intercalate_map (within_of_all_isFixedChar hP (by decide))
      fun column hcolumn => within_text hP (h column hcolumn)⟩

theorem TableSource.within_from {source : TableSource} (h : ∀ name ∈ source.names, Within P name) :
    Within P ("FROM " ++ source.text) :=
  within_append.2 ⟨within_of_all_isFixedChar hP (by decide), within_text hP h⟩

theorem Sql.within_increment {version : String} (h : Within P version) :
    Within P (increment version) := by
  simp only [increment, within_append]
  exact ⟨⟨⟨h, within_of_all_isFixedChar hP (by decide)⟩, h⟩,
    within_of_all_isFixedChar hP (by decide)⟩

/-! ## Clauses -/

theorem Sql.within_whereClause {conditions : List String} (h : ∀ s ∈ conditions, Within P s) :
    Within P (whereClause conditions) := by
  rw [whereClause, within_append]
  exact ⟨within_of_all_isFixedChar hP (by decide),
    within_intercalate (within_of_all_isFixedChar hP (by decide)) h⟩

theorem Sql.within_whereClause? {conditions : List String} (h : ∀ s ∈ conditions, Within P s) :
    ∀ s ∈ whereClause? conditions, Within P s := by
  unfold whereClause?
  split
  · simp
  · rintro s ⟨⟩
    exact within_whereClause hP h

theorem OrderTerm.within_clause? {order : List OrderTerm}
    (h : ∀ term ∈ order, ∀ name ∈ term.column.names, Within P name) :
    ∀ s ∈ clause? order, Within P s := by
  unfold clause?
  split
  · simp
  · rintro s ⟨⟩
    rw [within_append]
    exact ⟨within_of_all_isFixedChar hP (by decide),
      within_intercalate_map (within_of_all_isFixedChar hP (by decide))
        fun term hterm => within_text hP (h term hterm)⟩

/-! ## Statements -/

section Marked

variable (hmark : P '?')

include hmark

theorem within_placeholder (n : Nat) : Within P (placeholder n) := by
  rw [placeholder, within_append]
  exact ⟨by simpa [Within] using hmark, within_toString hP n⟩

theorem Slot.within_text {slot : Slot} (h : ∀ name ∈ slot.column.names, Within P name) (n : Nat) :
    Within P (slot.text n) := by
  simp only [text, within_append]
  exact ⟨⟨ColumnName.within_text hP h, within_of_all_isFixedChar hP (by decide)⟩,
    within_placeholder hP hmark n⟩

theorem Slot.within_of_mem_texts {slots : List Slot}
    (h : ∀ slot ∈ slots, ∀ name ∈ slot.column.names, Within P name) {start : Nat} {s : String}
    (hs : s ∈ texts start slots) : Within P s := by
  obtain ⟨⟨slot, n⟩, hslot, rfl⟩ := List.mem_map.1 hs
  exact within_text hP hmark (h slot (List.fst_mem_of_mem_zipIdx hslot)) n

/-- A class with the fixed characters and those of all names has those of the text. -/
theorem Sql.within_text {sql : Sql} (h : ∀ name ∈ sql.names, Within P name) :
    Within P sql.text := by
  have hfixed : ∀ s : String, s.toList.all isFixedChar = true → Within P s :=
    fun s => within_of_all_isFixedChar hP
  cases sql with
  | insert table values =>
    simp only [names, List.forall_mem_cons, List.forall_mem_flatMap] at h
    obtain ⟨htable, hvalues⟩ := h
    have hcolumns : Within P (", ".intercalate (values.map (·.column.text))) :=
      within_intercalate_map (hfixed _ (by decide))
        fun slot hslot => ColumnName.within_text hP (hvalues slot hslot)
    have hplaceholders :
        Within P (", ".intercalate ((values.zipIdx 1).map fun p => placeholder p.2)) :=
      within_intercalate_map (hfixed _ (by decide)) fun p _ => within_placeholder hP hmark p.2
    unfold text
    simp only [within_append]
    exact ⟨⟨⟨⟨⟨⟨hfixed _ (by decide), htable⟩, hfixed _ (by decide)⟩, hcolumns⟩,
      hfixed _ (by decide)⟩, hplaceholders⟩, hfixed _ (by decide)⟩
  | update table assigned version conditions =>
    simp only [names, List.forall_mem_cons, List.forall_mem_append, List.forall_mem_flatMap] at h
    obtain ⟨htable, ⟨hassigned, hversion⟩, hconditions⟩ := h
    have hassignments : Within P
        (", ".intercalate (Slot.texts 1 assigned ++ version.toList.map increment)) := by
      refine within_intercalate (hfixed _ (by decide)) ?_
      rw [List.forall_mem_append, List.forall_mem_map]
      exact ⟨fun s => Slot.within_of_mem_texts hP hmark hassigned,
        fun name hname => within_increment hP (hversion name hname)⟩
    have hwhere : Within P (whereClause (Slot.texts (1 + assigned.length) conditions)) :=
      within_whereClause hP fun s => Slot.within_of_mem_texts hP hmark hconditions
    unfold text
    simp only [within_append]
    exact ⟨⟨⟨⟨⟨hfixed _ (by decide), htable⟩, hfixed _ (by decide)⟩, hassignments⟩,
      hfixed _ (by decide)⟩, hwhere⟩
  | delete table conditions =>
    simp only [names, List.forall_mem_cons, List.forall_mem_flatMap] at h
    obtain ⟨htable, hconditions⟩ := h
    have hwhere : Within P (whereClause (Slot.texts 1 conditions)) :=
      within_whereClause hP fun s => Slot.within_of_mem_texts hP hmark hconditions
    unfold text
    simp only [within_append]
    exact ⟨⟨⟨hfixed _ (by decide), htable⟩, hfixed _ (by decide)⟩, hwhere⟩
  | select columns source conditions cancelled order =>
    simp only [names, List.forall_mem_append, List.forall_mem_flatMap] at h
    obtain ⟨⟨⟨⟨hcolumns, hsource⟩, hconditions⟩, hcancelled⟩, horder⟩ := h
    have hpredicates : ∀ s ∈ Slot.texts 1 conditions ++ cancelled.toList.map (·.notCancelled),
        Within P s := by
      rw [List.forall_mem_append, List.forall_mem_map]
      exact ⟨fun s => Slot.within_of_mem_texts hP hmark hconditions,
        fun column hcolumn => ColumnName.within_notCancelled hP (hcancelled column hcolumn)⟩
    refine within_intercalate (hfixed _ (by decide)) ?_
    simp only [List.forall_mem_append, List.forall_mem_cons, Option.mem_toList]
    exact ⟨⟨⟨ColumnName.within_selection hP hcolumns, TableSource.within_from hP hsource, by simp⟩,
      within_whereClause? hP hpredicates⟩, OrderTerm.within_clause? hP horder⟩
  | verbatim text => exact h text (List.mem_singleton_self text)

end Marked

end Fixed

end KeyedSql

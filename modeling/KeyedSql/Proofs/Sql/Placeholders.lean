import KeyedSql.Proofs.Sql.Characters
import KeyedSql.Proofs.Sql.Clauses
import Mathlib.Data.List.TakeWhile

/-!
# The placeholders of a statement

A placeholder in a text is a mark with the digits behind it. Where no name in a statement has the
mark in it, the placeholders of the text are numbered from one and follow each other, one for each
bound value. Each stands behind the column of its value, or in an insertion at the place of that
column.
-/

namespace KeyedSql

/-! ## Reading placeholders -/

namespace Text

/-- The placeholders among characters: each mark with the digits behind it. -/
def placeholderChars : List Char → List (List Char)
  | [] => []
  | c :: cs =>
    if c = '?' then (c :: cs.takeWhile Char.isDigit) :: placeholderChars cs
    else placeholderChars cs

/-- The placeholders in a text from left to right. -/
def placeholders (s : String) : List String :=
  (placeholderChars s.toList).map String.ofList

/-- Whether a number that stands before the text ends where the text begins. -/
def endsNumber (s : String) : Bool :=
  s.toList.head?.any fun c => !c.isDigit

theorem endsNumber_append {s : String} (h : endsNumber s = true) (t : String) :
    endsNumber (s ++ t) = true := by
  unfold endsNumber at h ⊢
  rw [String.toList_append]
  cases hs : s.toList with
  | nil => simp [hs] at h
  | cons c cs => simpa [hs] using h

theorem placeholderChars_append {as bs : List Char}
    (h : bs.head?.any (fun c => !c.isDigit) = true) :
    placeholderChars (as ++ bs) = placeholderChars as ++ placeholderChars bs := by
  have hbs : bs.takeWhile Char.isDigit = [] := by
    cases bs with
    | nil => rfl
    | cons b bs => exact List.takeWhile_cons_of_neg (by simpa using h)
  induction as with
  | nil => rfl
  | cons a as ih =>
    have htake : (as ++ bs).takeWhile Char.isDigit = as.takeWhile Char.isDigit := by
      rw [List.takeWhile_append, hbs, List.append_nil]
      split_ifs with hlength
      · exact ((List.takeWhile_prefix _).eq_of_length hlength).symm
      · rfl
    -- A number at the end of `as` does not go on in `bs`.
    by_cases ha : a = '?'
    · rw [List.cons_append, placeholderChars, placeholderChars, if_pos ha, if_pos ha, htake, ih,
        List.cons_append]
    · rw [List.cons_append, placeholderChars, placeholderChars, if_neg ha, if_neg ha, ih]

theorem placeholderChars_append_of_notMem {as : List Char} (h : '?' ∉ as) (bs : List Char) :
    placeholderChars (as ++ bs) = placeholderChars bs := by
  induction as with
  | nil => rfl
  | cons a as ih =>
    obtain ⟨ha, has⟩ := not_or.1 (mt List.mem_cons.2 h)
    rw [List.cons_append, placeholderChars, if_neg (Ne.symm ha), ih has]

theorem placeholders_append {t : String} (h : endsNumber t = true) (s : String) :
    placeholders (s ++ t) = placeholders s ++ placeholders t := by
  rw [placeholders, String.toList_append, placeholderChars_append h, List.map_append, placeholders,
    placeholders]

theorem placeholders_append_of_within {s : String} (h : Within (· ≠ '?') s) (t : String) :
    placeholders (s ++ t) = placeholders t := by
  rw [placeholders, String.toList_append,
    placeholderChars_append_of_notMem (fun hmem => h '?' hmem rfl), placeholders]

theorem placeholders_eq_nil {s : String} (h : Within (· ≠ '?') s) : placeholders s = [] := by
  have happend := placeholders_append_of_within h ""
  rwa [String.append_empty] at happend

theorem placeholders_placeholder (n : Nat) : placeholders (placeholder n) = [placeholder n] := by
  have hdigits : ∀ c ∈ (toString n).toList, c.isDigit = true := fun c => isDigit_of_mem_toString
  have hrest : placeholderChars (toString n).toList = [] := by
    have hmark : '?' ∉ (toString n).toList := fun h => absurd (hdigits '?' h) (by decide)
    simpa [placeholderChars] using placeholderChars_append_of_notMem hmark []
  have htake : (toString n).toList.takeWhile Char.isDigit = (toString n).toList :=
    List.takeWhile_eq_self_iff.2 hdigits
  have hchars : (placeholder n).toList = '?' :: (toString n).toList := String.toList_append
  rw [placeholders, hchars, placeholderChars, if_pos rfl, hrest, htake, ← hchars]
  simp

theorem placeholders_intercalate {sep : String} (hends : endsNumber sep = true)
    (hsep : Within (· ≠ '?') sep) (parts : List String) :
    placeholders (sep.intercalate parts) = parts.flatMap placeholders := by
  induction parts with
  | nil => rfl
  | cons first rest ih =>
    cases rest with
    | nil => simp
    | cons next rest =>
      rw [String.intercalate_cons_cons, String.append_assoc,
        placeholders_append (endsNumber_append hends _), placeholders_append_of_within hsep, ih]
      rfl

/-- A part of joined parts has a separator or an end of the text on either side. -/
theorem exists_intercalate_eq {sep : String} {parts : List String} {k : Nat} {part : String}
    (h : parts[k]? = some part) :
    ∃ before after, sep.intercalate parts = before ++ part ++ after ∧
      (before = "" ∨ ∃ s, before = s ++ sep) ∧ (after = "" ∨ ∃ s, after = sep ++ s) := by
  induction parts generalizing k with
  | nil => simp at h
  | cons first rest ih =>
    cases k with
    | zero =>
      obtain rfl : first = part := by simpa using h
      cases rest with
      | nil => exact ⟨"", "", by simp, .inl rfl, .inl rfl⟩
      | cons next rest =>
        refine ⟨"", sep ++ sep.intercalate (next :: rest), ?_, .inl rfl, .inr ⟨_, rfl⟩⟩
        rw [String.intercalate_cons_cons, String.empty_append, String.append_assoc]
    | succ k =>
      obtain ⟨before, after, heq, hbefore, hafter⟩ := ih (k := k) (by simpa using h)
      cases rest with
      | nil => simp at h
      | cons next rest =>
        refine ⟨first ++ sep ++ before, after, ?_, .inr ?_, hafter⟩
        · rw [String.intercalate_cons_cons, heq]
          simp only [String.append_assoc]
        · rcases hbefore with rfl | ⟨s, rfl⟩
          · exact ⟨first, by rw [String.append_empty]⟩
          · exact ⟨first ++ sep ++ s, by simp only [String.append_assoc]⟩

end Text

open Text

/-! ## The placeholders of a statement -/

/-- Fixed words and signs hold no mark. -/
theorem within_of_fixed {s : String} (h : s.toList.all isFixedChar = true) : Within (· ≠ '?') s :=
  within_of_all_isFixedChar (fun _ => ne_questionMark_of_isFixedChar) h

theorem placeholders_eq_nil_of_forall {parts : List String}
    (h : ∀ part ∈ parts, Within (· ≠ '?') part) : parts.flatMap placeholders = [] :=
  List.flatMap_eq_nil_iff.2 fun part hpart => placeholders_eq_nil (h part hpart)

namespace Slot

theorem placeholders_text {slot : Slot} (h : ∀ name ∈ slot.column.names, Within (· ≠ '?') name)
    (n : Nat) : placeholders (slot.text n) = [placeholder n] := by
  have hcolumn : Within (· ≠ '?') slot.column.text :=
    ColumnName.within_text (fun _ => ne_questionMark_of_isFixedChar) h
  have hsign : Within (· ≠ '?') " = " := within_of_fixed (by decide)
  rw [text, placeholders_append_of_within (within_append.2 ⟨hcolumn, hsign⟩),
    placeholders_placeholder]

theorem flatMap_placeholders_texts {slots : List Slot}
    (h : ∀ slot ∈ slots, ∀ name ∈ slot.column.names, Within (· ≠ '?') name) (start : Nat) :
    (texts start slots).flatMap placeholders =
      (List.range' start slots.length).map placeholder := by
  induction slots generalizing start with
  | nil => rfl
  | cons slot slots ih =>
    obtain ⟨hslot, hslots⟩ := List.forall_mem_cons.1 h
    have htexts : texts start (slot :: slots) = slot.text start :: texts (start + 1) slots := rfl
    rw [htexts, List.flatMap_cons, placeholders_text hslot, ih hslots, List.length_cons,
      List.range'_succ, List.map_cons, List.singleton_append]

theorem getElem?_texts {slots : List Slot} {k : Nat} {slot : Slot} (h : slots[k]? = some slot)
    (start : Nat) : (texts start slots)[k]? = some (slot.text (start + k)) := by
  rw [texts, List.getElem?_map, List.getElem?_zipIdx, h]
  rfl

end Slot

namespace Sql

theorem map_placeholder_zipIdx (values : List Slot) :
    ((values.zipIdx 1).map fun p => placeholder p.2) =
      (List.range' 1 values.length).map placeholder := by
  rw [← List.zipIdx_map_snd 1 values, List.map_map]
  rfl

theorem placeholders_whereClause (conditions : List String) :
    placeholders (whereClause conditions) = conditions.flatMap placeholders := by
  have hword : Within (· ≠ '?') "WHERE " := within_of_fixed (by decide)
  have hsep : Within (· ≠ '?') " AND " := within_of_fixed (by decide)
  rw [whereClause, placeholders_append_of_within hword, placeholders_intercalate rfl hsep]

theorem flatMap_placeholders_whereClause? (conditions : List String) :
    (whereClause? conditions).toList.flatMap placeholders = conditions.flatMap placeholders := by
  cases conditions with
  | nil => rfl
  | cons first rest =>
    have hclause : whereClause? (first :: rest) = some (whereClause (first :: rest)) := rfl
    rw [hclause, Option.toList_some, List.flatMap_cons, List.flatMap_nil, List.append_nil,
      placeholders_whereClause]

/-- Placeholders are numbered from one in the order of the text, one for each bound value. -/
theorem placeholders_text {sql : Sql} (h : ∀ name ∈ sql.names, Within (· ≠ '?') name) :
    placeholders sql.text = (List.range' 1 sql.slots.length).map placeholder := by
  have hP : ∀ c, isFixedChar c = true → c ≠ '?' := fun _ => ne_questionMark_of_isFixedChar
  have hcomma : Within (· ≠ '?') ", " := within_of_fixed (by decide)
  cases sql with
  | insert table values =>
    simp only [names, List.forall_mem_cons, List.forall_mem_flatMap] at h
    obtain ⟨htable, hvalues⟩ := h
    have hcolumns : Within (· ≠ '?') (", ".intercalate (values.map (·.column.text))) :=
      within_intercalate_map hcomma
        fun slot hslot => ColumnName.within_text hP (hvalues slot hslot)
    have hbefore : Within (· ≠ '?') ("INSERT INTO " ++ table ++ " (" ++
        ", ".intercalate (values.map (·.column.text)) ++ ") VALUES (") := by
      simp only [within_append]
      exact ⟨⟨⟨⟨within_of_fixed (by decide), htable⟩, within_of_fixed (by decide)⟩, hcolumns⟩,
        within_of_fixed (by decide)⟩
    have hafter : placeholders ")" = [] := placeholders_eq_nil (within_of_fixed (by decide))
    unfold text
    rw [placeholders_append rfl, placeholders_append_of_within hbefore, hafter, List.append_nil,
      placeholders_intercalate rfl hcomma, map_placeholder_zipIdx, List.flatMap_map]
    simp only [placeholders_placeholder]
    exact List.map_eq_flatMap.symm
  | update table assigned version conditions =>
    simp only [names, List.forall_mem_cons, List.forall_mem_append, List.forall_mem_flatMap] at h
    obtain ⟨htable, ⟨hassigned, hversion⟩, hconditions⟩ := h
    have hbefore : Within (· ≠ '?') ("UPDATE " ++ table ++ " SET ") := by
      simp only [within_append]
      exact ⟨⟨within_of_fixed (by decide), htable⟩, within_of_fixed (by decide)⟩
    have hspace : placeholders " " = [] := placeholders_eq_nil (within_of_fixed (by decide))
    have hincrement : (version.toList.map increment).flatMap placeholders = [] :=
      placeholders_eq_nil_of_forall (List.forall_mem_map.2
        fun name hname => within_increment hP (hversion name hname))
    -- The clauses can be read apart, because the second one begins behind the end of a number.
    have hends : endsNumber (whereClause (Slot.texts (1 + assigned.length) conditions)) = true :=
      endsNumber_append (by decide) _
    unfold text
    dsimp only
    rw [placeholders_append hends, placeholders_append rfl, hspace,
      List.append_nil, placeholders_append_of_within hbefore, placeholders_intercalate rfl hcomma,
      List.flatMap_append, hincrement, List.append_nil, placeholders_whereClause,
      Slot.flatMap_placeholders_texts hassigned, Slot.flatMap_placeholders_texts hconditions,
      ← List.map_append, List.range'_append_1, slots, List.length_append]
  | delete table conditions =>
    simp only [names, List.forall_mem_cons, List.forall_mem_flatMap] at h
    obtain ⟨htable, hconditions⟩ := h
    have hbefore : Within (· ≠ '?') ("DELETE FROM " ++ table ++ " ") := by
      simp only [within_append]
      exact ⟨⟨within_of_fixed (by decide), htable⟩, within_of_fixed (by decide)⟩
    unfold text
    rw [placeholders_append_of_within hbefore, placeholders_whereClause,
      Slot.flatMap_placeholders_texts hconditions]
    rfl
  | select columns source conditions cancelled order =>
    simp only [names, List.forall_mem_append, List.forall_mem_flatMap] at h
    obtain ⟨⟨⟨⟨hcolumns, hsource⟩, hconditions⟩, hcancelled⟩, horder⟩ := h
    have hspace : Within (· ≠ '?') " " := within_of_fixed (by decide)
    have hnotCancelled : (cancelled.toList.map (·.notCancelled)).flatMap placeholders = [] :=
      placeholders_eq_nil_of_forall (List.forall_mem_map.2
        fun column hcolumn => ColumnName.within_notCancelled hP (hcancelled column hcolumn))
    have hclause : (OrderTerm.clause? order).toList.flatMap placeholders = [] :=
      placeholders_eq_nil_of_forall fun s hs =>
        OrderTerm.within_clause? hP horder s (Option.mem_toList.1 hs)
    have hlead : ["SELECT " ++ ", ".intercalate (columns.map (·.text)),
        "FROM " ++ source.text].flatMap placeholders = [] := by
      refine placeholders_eq_nil_of_forall (List.forall_mem_cons.2 ⟨?_, ?_⟩)
      · exact ColumnName.within_selection hP hcolumns
      · exact List.forall_mem_singleton.2 (TableSource.within_from hP hsource)
    unfold text
    rw [placeholders_intercalate rfl hspace, List.flatMap_append, List.flatMap_append, hlead,
      hclause, flatMap_placeholders_whereClause?, List.flatMap_append, hnotCancelled,
      Slot.flatMap_placeholders_texts hconditions]
    simp [slots]
  | verbatim text =>
    have htext : Within (· ≠ '?') text := h text (List.mem_singleton_self text)
    exact placeholders_eq_nil htext

end Sql

/-! ## What a placeholder stands for -/

/-- The placeholder of bound value `k`, counted from zero, stands in the text for a value of the
column. -/
inductive Text.BindsAt (text : String) (k : Nat) (column : String) : Prop where
  /-- The column is compared with the placeholder or set to it. -/
  | equated (before after : String)
      (text_eq : text = before ++ " " ++ (column ++ " = " ++ placeholder (k + 1)) ++ after)
      (ends : after = "" ∨ endsNumber after = true)
  /-- The column and the placeholder have the same place in the two lists of an insertion. -/
  | listed (table : String) (columns : List String)
      (text_eq : text = "INSERT INTO " ++ table ++ " (" ++ ", ".intercalate columns ++
        ") VALUES (" ++ ", ".intercalate ((List.range' 1 columns.length).map placeholder) ++ ")")
      (column_eq : columns[k]? = some column)

/-- In a clause, each joined part stands behind a space and before the end of a number. -/
theorem Text.exists_eq_of_clause {text front word sep back part : String} {parts : List String}
    {k : Nat} (htext : text = front ++ word ++ sep.intercalate parts ++ back)
    (hword : ∃ s, word = s ++ " ") (hsep : ∃ s, sep = s ++ " ") (hends : endsNumber sep = true)
    (hback : back = "" ∨ endsNumber back = true) (hpart : parts[k]? = some part) :
    ∃ before after, text = before ++ " " ++ part ++ after ∧
      (after = "" ∨ endsNumber after = true) := by
  obtain ⟨before, after, hparts, hbefore, hafter⟩ := @exists_intercalate_eq sep parts k part hpart
  have hlast : after ++ back = "" ∨ endsNumber (after ++ back) = true := by
    rcases hafter with rfl | ⟨s, rfl⟩
    · rwa [String.empty_append]
    · rw [String.append_assoc]
      exact .inr (endsNumber_append hends _)
  have hfirst : ∃ s, front ++ word ++ before = s ++ " " := by
    obtain ⟨w, rfl⟩ := hword
    obtain ⟨p, rfl⟩ := hsep
    rcases hbefore with rfl | ⟨s, rfl⟩
    · exact ⟨front ++ w, by rw [String.append_empty, String.append_assoc]⟩
    · exact ⟨front ++ (w ++ " ") ++ (s ++ p), by simp only [String.append_assoc]⟩
  obtain ⟨s, hs⟩ := hfirst
  refine ⟨s, after ++ back, ?_, hlast⟩
  rw [htext, hparts, ← hs]
  simp only [String.append_assoc]

namespace Sql

variable {sql : Sql} {k : Nat} {slot : Slot}

theorem sorting_eq_empty_or_endsNumber (sql : Sql) :
    sql.sorting = "" ∨ endsNumber sql.sorting = true := by
  cases sql with
  | select columns source conditions cancelled order =>
    cases order with
    | nil => exact .inl rfl
    | cons term order => exact .inr (endsNumber_append (by decide) _)
  | insert | update | delete | verbatim => exact .inl rfl

theorem bindsAt_of_getElem?_conditions (h : sql.conditions[k]? = some slot) :
    BindsAt sql.text (sql.assigned.length + k) slot.column.text := by
  have hne : sql.conditions ≠ [] := by
    intro hnil
    simp [hnil] at h
  have hpart : (Slot.texts (1 + sql.assigned.length) sql.conditions ++ sql.unbound)[k]? =
      some (slot.text (1 + sql.assigned.length + k)) := by
    have htext := Slot.getElem?_texts h (1 + sql.assigned.length)
    rw [List.getElem?_append_left (List.getElem?_eq_some_iff.1 htext).1, htext]
  obtain ⟨before, after, htext, hafter⟩ :=
    exists_eq_of_clause (text_eq_of_conditions_ne_nil hne) ⟨" WHERE", rfl⟩ ⟨" AND", rfl⟩ (by decide)
      sql.sorting_eq_empty_or_endsNumber hpart
  have hnumber : 1 + sql.assigned.length + k = sql.assigned.length + k + 1 := by omega
  rw [hnumber] at htext
  exact .equated before after htext hafter

theorem bindsAt_of_getElem?_assigned (h : sql.assigned[k]? = some slot) :
    BindsAt sql.text k slot.column.text := by
  cases sql with
  | insert table values =>
    refine .listed table (values.map (·.column.text)) ?_ ?_
    · rw [List.length_map, ← map_placeholder_zipIdx]
      rfl
    · rw [List.getElem?_map, show values[k]? = some slot from h]
      rfl
  | update table assigned version conditions =>
    have hassigned : assigned[k]? = some slot := h
    have hpart : (Slot.texts 1 assigned ++ version.toList.map increment)[k]? =
        some (slot.text (1 + k)) := by
      have htext := Slot.getElem?_texts hassigned 1
      rw [List.getElem?_append_left (List.getElem?_eq_some_iff.1 htext).1, htext]
    have hclause : (update table assigned version conditions).text =
        "UPDATE " ++ table ++ " SET " ++
          ", ".intercalate (Slot.texts 1 assigned ++ version.toList.map increment) ++
            (" " ++ whereClause (Slot.texts (1 + assigned.length) conditions)) := by
      unfold text
      exact String.append_assoc
    obtain ⟨before, after, htext, hafter⟩ :=
      exists_eq_of_clause hclause ⟨" SET", rfl⟩ ⟨",", rfl⟩ (by decide)
        (.inr (endsNumber_append (by decide) _)) hpart
    rw [Nat.add_comm 1 k] at htext
    exact .equated before after htext hafter
  | delete | select | verbatim => simp [Sql.assigned] at h

/-- Each bound value has its placeholder where the column of the value stands in the text. -/
theorem bindsAt_text (h : sql.slots[k]? = some slot) : BindsAt sql.text k slot.column.text := by
  rw [slots_eq] at h
  rcases Nat.lt_or_ge k sql.assigned.length with hk | hk
  · rw [List.getElem?_append_left hk] at h
    exact bindsAt_of_getElem?_assigned h
  · rw [List.getElem?_append_right hk] at h
    have hbinds := bindsAt_of_getElem?_conditions h
    rwa [Nat.add_sub_cancel' hk] at hbinds

end Sql

end KeyedSql

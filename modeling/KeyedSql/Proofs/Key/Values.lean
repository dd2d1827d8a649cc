import KeyedSql.Key.Values
import KeyedSql.Proofs.Key.WellFormed

/-!
# Parameter values have one text each

Every reader of a value accepts exactly the text that is written for what it reads. Lists are
nested up to three deep, each level with a separator of its own: no name holds a delimiter, so the
texts of one level never hold the separator of a level above it, and splitting undoes joining.
-/

namespace KeyedSql

open Outcome

/-! ## Delimiters in texts -/

theorem Identifier.text_ne_empty (id : Identifier) : id.text ≠ "" := by
  intro h
  have hid := id.isIdentifier_text
  rw [h] at hid
  exact absurd hid (by decide)

theorem Identifier.dot_notMem_text (id : Identifier) : '.' ∉ id.text.toList := fun h =>
  absurd (Token.isPart_of_mem_of_isIdentifier id.isIdentifier_text _ h) (by decide)

theorem PropertyPath.notMem_text {c : Char} (hc : c ∈ Token.delimiters) (p : PropertyPath) :
    c ∉ p.text.toList := by
  refine Text.notMem_join ?_ fun part hpart => ?_
  · rintro rfl
    exact absurd hc (by decide)
  · obtain ⟨id, -, rfl⟩ := List.mem_map.1 hpart
    exact id.notMem_of_mem_delimiters hc

theorem PropertyPath.text_ne_empty (p : PropertyPath) : p.text ≠ "" :=
  Text.join_cons_ne_empty p.first.text_ne_empty

theorem Identifier.notMem_listText {c : Char} (hc : c ∈ Token.delimiters) (hcomma : c ≠ ',')
    (names : List Identifier) : c ∉ (listText names).toList := by
  refine Text.notMem_join hcomma fun part hpart => ?_
  obtain ⟨id, -, rfl⟩ := List.mem_map.1 hpart
  exact id.notMem_of_mem_delimiters hc

theorem PropertyPath.notMem_listText {c : Char} (hc : c ∈ Token.delimiters) (hcomma : c ≠ ',')
    (paths : List PropertyPath) : c ∉ (listText paths).toList := by
  refine Text.notMem_join hcomma fun part hpart => ?_
  obtain ⟨p, -, rfl⟩ := List.mem_map.1 hpart
  exact p.notMem_text hc

theorem SortDirection.notMem_name {c : Char} (hc : c ∈ Token.delimiters) (d : SortDirection) :
    c ∉ d.name.toList := by
  refine Token.notMem_of_mem_delimiters_of_isIdentifier hc ?_
  cases d <;> decide

theorem OrderEntry.notMem_text {c : Char} (hc : c ∈ Token.delimiters) (hsemi : c ≠ ';')
    (entry : OrderEntry) : c ∉ entry.text.toList := by
  refine Text.notMem_join hsemi fun part hpart => ?_
  simp only [List.mem_cons, List.not_mem_nil, or_false] at hpart
  obtain rfl | rfl := hpart
  · exact entry.property.notMem_text hc
  · exact entry.direction.notMem_name hc

theorem OrderEntry.notMem_listText {c : Char} (hc : c ∈ Token.delimiters) (hsemi : c ≠ ';')
    (hhash : c ≠ '#') (orderBy : List OrderEntry) : c ∉ (listText orderBy).toList := by
  refine Text.notMem_join hhash fun part hpart => ?_
  obtain ⟨entry, -, rfl⟩ := List.mem_map.1 hpart
  exact entry.notMem_text hc hsemi

theorem JoinStep.notMem_text {c : Char} (hc : c ∈ Token.delimiters) (hcomma : c ≠ ',')
    (hsemi : c ≠ ';') (step : JoinStep) : c ∉ step.text.toList := by
  refine Text.notMem_join hsemi fun part hpart => ?_
  simp only [List.mem_cons, List.not_mem_nil, or_false] at hpart
  obtain rfl | rfl | rfl := hpart
  · exact step.table.notMem_of_mem_delimiters hc
  · exact Identifier.notMem_listText hc hcomma _
  · exact Identifier.notMem_listText hc hcomma _

theorem JoinStep.notMem_listText {c : Char} (hc : c ∈ Token.delimiters) (hcomma : c ≠ ',')
    (hsemi : c ≠ ';') (hhash : c ≠ '#') (joins : List JoinStep) :
    c ∉ (listText joins).toList := by
  refine Text.notMem_join hhash fun part hpart => ?_
  obtain ⟨step, -, rfl⟩ := List.mem_map.1 hpart
  exact step.notMem_text hc hcomma hsemi

/-! ## Lists -/

section Lists

variable {α : Type} {sep : Char} {value : String} {parse : String → Except GrammarError α}
  {text : α → String} {P : α → Prop}

/-- A list reader accepts exactly the joined texts of one or more items. -/
theorem readItems_mapM_eq_ok_iff (hparse : ∀ s a, parse s = .ok a ↔ s = text a ∧ P a)
    (hne : ∀ a, text a ≠ "") (hsep : ∀ a, sep ∉ (text a).toList) {items : List α} :
    (readItems sep value >>= fun parts => parts.mapM parse) = .ok items ↔
      value = Text.join sep (items.map text) ∧ items ≠ [] ∧ ∀ a ∈ items, P a := by
  simp only [bind_eq_ok_iff, readItems_eq_ok_iff, mapM_eq_ok_iff_map hparse]
  constructor
  · rintro ⟨_, ⟨hitems, -, rfl⟩, rfl, hP⟩
    exact ⟨rfl, by simpa using hitems, hP⟩
  · rintro ⟨rfl, hitems, hP⟩
    refine ⟨items.map text, ⟨by simpa using hitems, fun item hitem => ?_, rfl⟩, rfl, hP⟩
    obtain ⟨a, -, rfl⟩ := List.mem_map.1 hitem
    exact ⟨hne a, hsep a⟩

/-- The empty value, which the reader of a parameter refuses first, is no list of items. -/
theorem readItems_nonempty_eq_ok_iff (hparse : ∀ s a, parse s = .ok a ↔ s = text a ∧ P a)
    (hne : ∀ a, text a ≠ "") (hsep : ∀ a, sep ∉ (text a).toList) {items : List α} :
    (value ≠ "" ∧ (readItems sep value >>= fun parts => parts.mapM parse) = .ok items) ↔
      value = Text.join sep (items.map text) ∧ items ≠ [] ∧ ∀ a ∈ items, P a := by
  rw [readItems_mapM_eq_ok_iff hparse hne hsep, and_iff_right_iff_imp]
  rintro ⟨rfl, hitems, -⟩
  obtain ⟨a, rest, rfl⟩ := List.exists_cons_of_ne_nil hitems
  exact Text.join_cons_ne_empty (hne a)

/-- A list reader that ends with a check of the items accepts those that pass it. -/
theorem readItems_check_eq_ok_iff (hparse : ∀ s a, parse s = .ok a ↔ s = text a ∧ P a)
    (hne : ∀ a, text a ≠ "") (hsep : ∀ a, sep ∉ (text a).toList) {Q : List α → Prop}
    {check : List α → Except GrammarError Unit} (hcheck : ∀ items, check items = .ok () ↔ Q items)
    {items : List α} :
    (value ≠ "" ∧ (do
      let parts ← readItems sep value
      let items ← parts.mapM parse
      check items
      return items) = .ok items) ↔
      value = Text.join sep (items.map text) ∧ items ≠ [] ∧ (∀ a ∈ items, P a) ∧ Q items := by
  rw [← bind_assoc, bind_eq_ok_iff]
  simp only [check_bind_eq_ok_iff, hcheck]
  constructor
  · rintro ⟨hvalue, read, hread, hQ, h⟩
    cases h
    obtain ⟨htext, hitems, hP⟩ := (readItems_nonempty_eq_ok_iff hparse hne hsep).1 ⟨hvalue, hread⟩
    exact ⟨htext, hitems, hP, hQ⟩
  · rintro ⟨htext, hitems, hP, hQ⟩
    obtain ⟨hvalue, hread⟩ :=
      (readItems_nonempty_eq_ok_iff hparse hne hsep).2 ⟨htext, hitems, hP⟩
    exact ⟨hvalue, items, hread, hQ, rfl⟩

end Lists

/-! ## Names and lists of names -/

theorem Identifier.parseList_eq_ok_iff {value : String} {names : List Identifier} :
    parseList value = .ok names ↔ value = listText names ∧ names ≠ [] := by
  have hlist := @readItems_mapM_eq_ok_iff _ ',' value parse text (fun _ => True)
    (by simp [parse_eq_ok_iff]) text_ne_empty (notMem_of_mem_delimiters (by decide)) names
  simpa [parseList, listText] using hlist

theorem Identifier.mapM_parse_eq_ok_iff {runs : List (List Char)} {names : List Identifier} :
    (runs.mapM fun run => parse (String.ofList run)) = .ok names ↔
      runs.map String.ofList = names.map (·.text) := by
  have hlist := @mapM_eq_ok_iff_map _ _ _ parse text (fun _ => True)
    (by simp [parse_eq_ok_iff]) (runs.map String.ofList) names
  rw [List.mapM_map] at hlist
  simpa [Function.comp_def] using hlist

theorem PropertyPath.parse_eq_ok_iff {token : String} {p : PropertyPath} :
    parse token = .ok p ↔ token = p.text := by
  have hread : parse token = .ok p ↔ Text.split '.' token = p.segments.map (·.text) := by
    simp only [parse, bind_eq_ok_iff, Identifier.parse_eq_ok_iff, Identifier.mapM_parse_eq_ok_iff,
      Text.split, segments, List.map_cons, List.cons.injEq]
    constructor
    · rintro ⟨first, hfirst, rest, hrest, h⟩
      cases h
      exact ⟨hfirst, hrest⟩
    · rintro ⟨hfirst, hrest⟩
      exact ⟨p.first, hfirst, p.rest, hrest, rfl⟩
  rw [hread, Text.split_eq_iff]
  refine ⟨fun h => h.2.2, fun h => ⟨by simp [segments], fun part hpart => ?_, h⟩⟩
  obtain ⟨id, -, rfl⟩ := List.mem_map.1 hpart
  exact id.dot_notMem_text

theorem PropertyPath.parseList_eq_ok_iff {parameter value : String} {paths : List PropertyPath} :
    parseList parameter value = .ok paths ↔
      value = listText paths ∧ paths ≠ [] ∧ paths.Nodup := by
  have hlist := @readItems_check_eq_ok_iff _ ',' value parse text (fun _ => True)
    (by simp [parse_eq_ok_iff]) text_ne_empty (notMem_text (by decide)) List.Nodup
    (checkDistinct parameter text) (fun _ => checkDistinct_eq_ok_iff) paths
  simp only [parseList, guard_eq_ok_iff]
  simpa [listText] using hlist

theorem Identifier.listText_eq_empty_iff {names : List Identifier} :
    listText names = "" ↔ names = [] := by
  constructor
  · intro h
    cases names with
    | nil => rfl
    | cons first rest => exact absurd h (Text.join_cons_ne_empty first.text_ne_empty)
  · rintro rfl
    rfl

/-! ## Sort orders -/

theorem SortDirection.parse_eq_ok_iff {token : String} {d : SortDirection} :
    parse token = .ok d ↔ token = d.name := by
  unfold parse
  constructor
  · intro h
    split_ifs at h <;> cases h <;> assumption
  · rintro rfl
    cases d <;> rfl

theorem OrderEntry.text_ne_empty (entry : OrderEntry) : entry.text ≠ "" :=
  Text.join_cons_ne_empty entry.property.text_ne_empty

theorem OrderEntry.split_eq_iff {entry : String} {e : OrderEntry} :
    Text.split ';' entry = [e.property.text, e.direction.name] ↔ entry = e.text := by
  rw [Text.split_eq_iff]
  refine ⟨fun h => h.2.2, fun h => ⟨List.cons_ne_nil _ _, fun part hpart => ?_, h⟩⟩
  simp only [List.mem_cons, List.not_mem_nil, or_false] at hpart
  obtain rfl | rfl := hpart
  · exact e.property.notMem_text (by decide)
  · exact e.direction.notMem_name (by decide)

theorem OrderEntry.parse_eq_ok_iff {entry : String} {e : OrderEntry} :
    parse entry = .ok e ↔ entry = e.text := by
  rw [← split_eq_iff]
  unfold parse
  split
  · rename_i property direction hsplit
    simp only [bind_eq_ok_iff, PropertyPath.parse_eq_ok_iff, SortDirection.parse_eq_ok_iff, hsplit]
    constructor
    · rintro ⟨p, rfl, d, rfl, h⟩
      cases h
      rfl
    · intro h
      simp only [List.cons.injEq, and_true] at h
      exact ⟨_, h.1, _, h.2, rfl⟩
  · rename_i hsplit
    exact iff_of_false (by simp) fun h => hsplit _ _ h

theorem OrderEntry.parseList_eq_ok_iff {value : String} {orderBy : List OrderEntry} :
    parseList value = .ok orderBy ↔
      value = listText orderBy ∧ orderBy ≠ [] ∧ (orderBy.map (·.property)).Nodup := by
  have hlist := @readItems_check_eq_ok_iff _ '#' value parse text (fun _ => True)
    (by simp [parse_eq_ok_iff]) text_ne_empty (notMem_text (by decide) (by decide))
    (fun orderBy => (orderBy.map (·.property)).Nodup) OrderEntry.checkDistinct
    (fun _ => OrderEntry.checkDistinct_eq_ok_iff) orderBy
  simp only [parseList, guard_eq_ok_iff]
  simpa [listText] using hlist

/-! ## Joins -/

theorem JoinStep.text_ne_empty (step : JoinStep) : step.text ≠ "" :=
  Text.join_cons_ne_empty step.table.text_ne_empty

theorem JoinStep.split_eq_iff {entry : String} {step : JoinStep} :
    Text.split ';' entry = [step.table.text, Identifier.listText step.sourceColumns,
      Identifier.listText step.targetColumns] ↔ entry = step.text := by
  rw [Text.split_eq_iff]
  refine ⟨fun h => h.2.2, fun h => ⟨List.cons_ne_nil _ _, fun part hpart => ?_, h⟩⟩
  simp only [List.mem_cons, List.not_mem_nil, or_false] at hpart
  obtain rfl | rfl | rfl := hpart
  · exact step.table.notMem_of_mem_delimiters (by decide)
  · exact Identifier.notMem_listText (by decide) (by decide) _
  · exact Identifier.notMem_listText (by decide) (by decide) _

theorem JoinStep.parse_eq_ok_iff {entry : String} {step : JoinStep} :
    parse entry = .ok step ↔ entry = step.text ∧ step.WellFormed := by
  rw [← split_eq_iff]
  unfold parse
  split
  · rename_i table source target hsplit
    split
    · rename_i hempty
      refine iff_of_false (by simp) ?_
      rintro ⟨h, hsource, htarget⟩
      simp only [hsplit, List.cons.injEq, and_true] at h
      obtain ⟨-, rfl, rfl⟩ := h
      rcases hempty with h | h
      · exact hsource (Identifier.listText_eq_empty_iff.1 h)
      · exact htarget (Identifier.listText_eq_empty_iff.1 h)
    · simp only [bind_eq_ok_iff, Identifier.parse_eq_ok_iff, Identifier.parseList_eq_ok_iff, hsplit]
      constructor
      · rintro ⟨table, rfl, sourceColumns, ⟨rfl, hsource⟩, targetColumns, ⟨rfl, htarget⟩, h⟩
        cases h
        exact ⟨rfl, hsource, htarget⟩
      · rintro ⟨h, hsource, htarget⟩
        simp only [List.cons.injEq, and_true] at h
        exact ⟨_, h.1, _, ⟨h.2.1, hsource⟩, _, ⟨h.2.2, htarget⟩, rfl⟩
  · rename_i hsplit
    exact iff_of_false (by simp) fun h => hsplit _ _ _ h.1

theorem JoinStep.parseList_eq_ok_iff {value : String} {joins : List JoinStep} :
    parseList value = .ok joins ↔
      value = listText joins ∧ joins ≠ [] ∧ ∀ step ∈ joins, step.WellFormed := by
  have hlist := @readItems_nonempty_eq_ok_iff _ '#' value parse text WellFormed
    (fun _ _ => parse_eq_ok_iff) text_ne_empty
    (notMem_text (by decide) (by decide) (by decide)) joins
  simp only [parseList, guard_eq_ok_iff]
  simpa [listText] using hlist

/-! ## Different values have different texts -/

/-- Joined texts tell the items, if each has a text of its own without the separator. -/
theorem listText_injective {α : Type} {sep : Char} {text : α → String}
    (htext : Function.Injective text) (hne : ∀ a, text a ≠ "") (hsep : ∀ a, sep ∉ (text a).toList) :
    Function.Injective fun items : List α => Text.join sep (items.map text) := by
  intro xs ys h
  refine List.map_injective_iff.2 htext (Text.eq_of_join_eq ?_ ?_ h)
  · exact List.forall_mem_map.2 fun a _ => ⟨hne a, hsep a⟩
  · exact List.forall_mem_map.2 fun a _ => ⟨hne a, hsep a⟩

theorem Identifier.text_injective : Function.Injective text := fun _ _ => ext

theorem Identifier.listText_injective : Function.Injective listText :=
  KeyedSql.listText_injective text_injective text_ne_empty
    (notMem_of_mem_delimiters (by decide))

theorem PropertyPath.text_injective : Function.Injective text := by
  intro p q h
  have hp := parse_eq_ok_iff.2 (rfl : p.text = p.text)
  exact Except.ok.inj (hp.symm.trans (parse_eq_ok_iff.2 h))

theorem PropertyPath.listText_injective : Function.Injective listText :=
  KeyedSql.listText_injective text_injective text_ne_empty (notMem_text (by decide))

theorem OrderEntry.text_injective : Function.Injective text := by
  intro a b h
  have ha := parse_eq_ok_iff.2 (rfl : a.text = a.text)
  exact Except.ok.inj (ha.symm.trans (parse_eq_ok_iff.2 h))

theorem OrderEntry.listText_injective : Function.Injective listText :=
  KeyedSql.listText_injective text_injective text_ne_empty (notMem_text (by decide) (by decide))

theorem JoinStep.text_injective : Function.Injective text := by
  intro a b h
  have ha := split_eq_iff.2 (rfl : a.text = a.text)
  rw [h, split_eq_iff.2 (rfl : b.text = b.text)] at ha
  simp only [List.cons.injEq, and_true] at ha
  obtain ⟨htable, hsource, htarget⟩ := ha
  cases a; cases b
  congr
  · exact (Identifier.ext htable).symm
  · exact (Identifier.listText_injective hsource).symm
  · exact (Identifier.listText_injective htarget).symm

theorem JoinStep.listText_injective : Function.Injective listText :=
  KeyedSql.listText_injective text_injective text_ne_empty
    (notMem_text (by decide) (by decide) (by decide))

end KeyedSql

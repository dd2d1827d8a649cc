import Mathlib.Data.List.DropRight
import KeyedSql.Proofs.Outcome
import KeyedSql.Schema.ValueType

/-!
# Value types and their texts

`ValueType.WellFormed` says which types have a text of their own: the name of an application type
must not be what the text of another type looks like. Reading a text gives a well-formed type, and a
well-formed type is read back from its text; so a type that was read once is written and read again
without a change.
-/

namespace KeyedSql

open Outcome

/-! ## White space at the ends -/

namespace Text

variable {cs : List Char}

theorem trimChars_eq (cs : List Char) :
    trimChars cs = (cs.dropWhile isSpace).rdropWhile isSpace :=
  rfl

/-- Characters that neither begin nor end with white space stay as they are. -/
theorem trimChars_eq_self (hfirst : ∀ c ∈ cs.head?, isSpace c = false)
    (hlast : ∀ c ∈ cs.getLast?, isSpace c = false) : trimChars cs = cs := by
  have hleft : cs.dropWhile isSpace = cs := by
    cases cs with
    | nil => rfl
    | cons c cs => simp [hfirst c rfl]
  rw [trimChars_eq, hleft, List.rdropWhile_eq_self_iff]
  intro hne
  rw [hlast _ (List.getLast_mem_getLast? hne)]
  exact Bool.false_ne_true

theorem trimChars_eq_self_of_forall (h : ∀ c ∈ cs, isSpace c = false) : trimChars cs = cs :=
  trimChars_eq_self (fun c hc => h c (List.mem_of_head? hc))
    fun c hc => h c (List.mem_of_getLast? hc)

theorem trimChars_trimChars (cs : List Char) : trimChars (trimChars cs) = trimChars cs := by
  refine trimChars_eq_self (fun c hc => ?_) fun c hc => ?_
  · -- What is left begins as it did before its end was dropped.
    obtain ⟨rest, hrest⟩ := List.rdropWhile_prefix isSpace (l := cs.dropWhile isSpace)
    rw [← trimChars_eq] at hrest
    have hhead : (cs.dropWhile isSpace).head? = some c := by
      rw [← hrest, List.head?_append, Option.mem_def.1 hc, Option.some_or]
    simpa [hhead] using List.head?_dropWhile_not isSpace cs
  · obtain ⟨hne, rfl⟩ := List.mem_getLast?_eq_getLast hc
    exact Bool.eq_false_iff.2 (List.rdropWhile_last_not isSpace (cs.dropWhile isSpace) hne)

theorem isSpace_eq_false_of_isPart {c : Char} (h : Token.isPart c = true) : isSpace c = false := by
  have hspace : ∀ lo hi : Char, lo.val ≤ c.val ∧ c.val ≤ hi.val → 0x21 ≤ lo.toNat →
      hi.toNat ≤ 0x7A → isSpace c = false := by
    intro lo hi hc hlo hhi
    have hlower : 0x21 ≤ c.toNat := Nat.le_trans hlo hc.1
    have hupper : c.toNat ≤ 0x7A := Nat.le_trans hc.2 hhi
    simp only [isSpace, Bool.or_eq_false_iff, Bool.and_eq_false_iff, decide_eq_false_iff_not,
      beq_eq_false_iff_ne]
    omega
  have hdecide : ∀ lo hi : Char, (decide (lo.val ≤ c.val) && decide (c.val ≤ hi.val)) = true →
      lo.val ≤ c.val ∧ c.val ≤ hi.val :=
    fun _ _ h => (Bool.and_eq_true_iff.1 h).imp of_decide_eq_true of_decide_eq_true
  have hletter : c.isAlpha = true → isSpace c = false := by
    intro h
    rcases Bool.or_eq_true_iff.1 h with h | h
    · exact hspace 'A' 'Z' (of_decide_eq_true h) (by decide) (by decide)
    · exact hspace 'a' 'z' (hdecide 'a' 'z' h) (by decide) (by decide)
  simp only [Token.isPart, Token.isStart, Bool.or_eq_true, beq_iff_eq] at h
  rcases h with ((h | rfl) | rfl) | h
  · exact hletter h
  · decide
  · decide
  · exact hspace '0' '9' (hdecide '0' '9' h) (by decide) (by decide)

end Text

/-! ## One step of reading -/

namespace CollectionKind

theorem inside?_eq_some_iff {kind : CollectionKind} {cs inner : List Char} :
    kind.inside? cs = some inner ↔ cs = kind.name.toList ++ '<' :: (inner ++ ['>']) := by
  unfold inside?
  simp only [Option.bind_eq_some_iff, Text.after?_eq_some_iff, Text.before?_eq_some_iff]
  constructor
  · rintro ⟨rest, rfl, rfl⟩
    rw [List.append_assoc, List.singleton_append]
  · rintro rfl
    exact ⟨inner ++ ['>'], by rw [List.append_assoc, List.singleton_append], rfl⟩

end CollectionKind

namespace ValueType

variable {cs : List Char} {t : ValueType}

theorem inside?_eq_some_iff {kind : CollectionKind} {inner : List Char} :
    inside? cs = some (kind, inner) ↔ cs = kind.name.toList ++ '<' :: (inner ++ ['>']) := by
  unfold inside?
  constructor
  · intro h
    split at h
    · rename_i hlist
      cases h
      exact CollectionKind.inside?_eq_some_iff.1 hlist
    · obtain ⟨_, hset, h⟩ := Option.map_eq_some_iff.1 h
      cases h
      exact CollectionKind.inside?_eq_some_iff.1 hset
  · intro h
    have hinside : kind.inside? cs = some inner := CollectionKind.inside?_eq_some_iff.2 h
    cases kind with
    | list => simp only [hinside]
    | set =>
      -- The two names begin with different characters.
      have hlist : CollectionKind.list.inside? cs = none := by
        rw [Option.eq_none_iff_forall_ne_some]
        intro other hother
        rw [CollectionKind.inside?_eq_some_iff, h] at hother
        have hfirst := congrArg List.head? hother
        simp [CollectionKind.name] at hfirst
      simp only [hlist, hinside, Option.map_some]

/-- The characters begin like the text of a component. -/
def NamesComponent (cs : List Char) : Prop :=
  "component:".toList <+: cs

instance (cs : List Char) : Decidable (NamesComponent cs) :=
  inferInstanceAs (Decidable (_ <+: cs))

theorem not_namesComponent_of_collection (kind : CollectionKind) (rest : List Char) :
    ¬ NamesComponent (kind.name.toList ++ rest) := by
  rintro ⟨name, hname⟩
  have hfirst := congrArg List.head? hname
  cases kind <;> simp [CollectionKind.name] at hfirst

theorem after?_eq_none_iff :
    Text.after? "component:".toList cs = none ↔ ¬ NamesComponent cs := by
  rw [Option.eq_none_iff_forall_ne_some]
  constructor
  · rintro h ⟨name, rfl⟩
    exact h name (Text.after?_eq_some_iff.2 rfl)
  · intro h name hname
    exact h ⟨name, (Text.after?_eq_some_iff.1 hname).symm⟩

theorem ofChars_eq_component {name : List Char}
    (h : Text.trimChars cs = "component:".toList ++ name) :
    ofChars cs = ((ComponentType.parse (String.ofList name)).mapError .grammar).map .component := by
  rw [ofChars, Text.after?_eq_some_iff.2 h]
  dsimp only
  cases ComponentType.parse (String.ofList name) <;> rfl

theorem ofChars_eq_collection {kind : CollectionKind} {inner : List Char}
    (hcomponent : ¬ NamesComponent (Text.trimChars cs))
    (h : inside? (Text.trimChars cs) = some (kind, inner)) :
    ofChars cs = (ofChars inner).map (.collection kind) := by
  rw [ofChars, after?_eq_none_iff.2 hcomponent]
  dsimp only
  split
  · rename_i kind' inner' h'
    obtain ⟨rfl, rfl⟩ := Prod.mk.inj (Option.some.inj (h'.symm.trans h))
    cases ofChars inner' <;> rfl
  · rename_i h'
    rw [h'] at h
    cases h

theorem ofChars_eq_ofWord (hcomponent : ¬ NamesComponent (Text.trimChars cs))
    (h : inside? (Text.trimChars cs) = none) :
    ofChars cs = (ofWord (String.ofList (Text.trimChars cs))).mapError .configuration := by
  rw [ofChars, after?_eq_none_iff.2 hcomponent]
  dsimp only
  split
  · rename_i h'
    rw [h'] at h
    cases h
  · cases ofWord (String.ofList (Text.trimChars cs)) <;> rfl

/-! ## Well-formed types -/

/-- No other type has this text, and no white space is dropped from it. -/
structure IsName (name : String) : Prop where
  ne_empty : name ≠ ""
  trimmed : Text.trimChars name.toList = name.toList
  unbroken : ∀ c ∈ name.toList, c ≠ '<' ∧ c ≠ '>' ∧ c ≠ ' '
  not_component : ¬ NamesComponent name.toList
  not_scalar : Scalar.ofName? name = none
  not_bare : CollectionKind.ofName? name = none

/-- The application types inside a type are known by names that nothing else is known by. -/
def WellFormed : ValueType → Prop
  | scalar _ | component _ | bare _ => True
  | collection _ element => element.WellFormed
  | named name => IsName name

theorem isBroken_eq_false_iff {word : String} :
    (word.toList.any fun c => c == '<' || c == '>' || c == ' ') = false ↔
      ∀ c ∈ word.toList, c ≠ '<' ∧ c ≠ '>' ∧ c ≠ ' ' := by
  simp only [List.any_eq_false, Bool.or_eq_true, beq_iff_eq, not_or, and_assoc, ne_eq]

theorem ofWord_named {name : String} (h : IsName name) : ofWord name = .ok (.named name) := by
  simp only [ofWord, h.not_scalar, h.not_bare, if_neg h.ne_empty,
    isBroken_eq_false_iff.2 h.unbroken, Bool.false_eq_true, if_false]

/-- A word is a scalar, a collection or, where it is neither, a name. -/
theorem cases_of_ofWord {word : String} (htrim : Text.trimChars word.toList = word.toList)
    (hcomponent : ¬ NamesComponent word.toList) (h : ofWord word = .ok t) :
    (∃ s, Scalar.ofName? word = some s ∧ t = .scalar s) ∨
      (∃ kind, CollectionKind.ofName? word = some kind ∧ t = .bare kind) ∨
        IsName word ∧ t = .named word := by
  unfold ofWord at h
  cases hscalar : Scalar.ofName? word with
  | some s =>
    simp only [hscalar] at h
    cases h
    exact .inl ⟨s, rfl, rfl⟩
  | none =>
    cases hbare : CollectionKind.ofName? word with
    | some kind =>
      simp only [hscalar, hbare] at h
      cases h
      exact .inr (.inl ⟨kind, rfl, rfl⟩)
    | none =>
      simp only [hscalar, hbare] at h
      split_ifs at h with hempty hbroken
      cases h
      rw [Bool.not_eq_true] at hbroken
      have hunbroken := isBroken_eq_false_iff.1 hbroken
      exact .inr (.inr ⟨⟨hempty, htrim, hunbroken, hcomponent, hscalar, hbare⟩, rfl⟩)

/-- Reading gives well-formed types, by induction on the brackets. -/
theorem wellFormed_of_ofChars (h : ofChars cs = .ok t) : t.WellFormed := by
  induction cs using ofChars.induct generalizing t with
  | case1 cs name hname =>
    rw [ofChars_eq_component (Text.after?_eq_some_iff.1 hname)] at h
    obtain ⟨c, -, rfl⟩ := map_eq_ok_iff.1 h
    trivial
  | case2 cs hname kind inner hinside ih =>
    rw [ofChars_eq_collection (after?_eq_none_iff.1 hname) hinside] at h
    obtain ⟨element, helement, rfl⟩ := map_eq_ok_iff.1 h
    have hwf : element.WellFormed := ih helement
    exact hwf
  | case3 cs hname hinside =>
    have hcomponent := after?_eq_none_iff.1 hname
    rw [ofChars_eq_ofWord hcomponent hinside, mapError_eq_ok_iff] at h
    have htrim : Text.trimChars (String.ofList (Text.trimChars cs)).toList =
        (String.ofList (Text.trimChars cs)).toList := by
      rw [String.toList_ofList, Text.trimChars_trimChars]
    rcases cases_of_ofWord htrim (by rwa [String.toList_ofList]) h with
      ⟨s, -, rfl⟩ | ⟨kind, -, rfl⟩ | ⟨hname, rfl⟩
    · trivial
    · trivial
    · exact hname

/-! ## Texts are read back -/

theorem inside?_eq_none {cs : List Char} (h : '<' ∉ cs) : inside? cs = none := by
  rw [Option.eq_none_iff_forall_ne_some]
  rintro ⟨kind, inner⟩ hinside
  apply h
  rw [inside?_eq_some_iff.1 hinside]
  exact List.mem_append_right _ List.mem_cons_self

/-- Characters without brackets that name no component are read as the word that they are. -/
theorem ofChars_of_trimChars_eq {word : String} (htrim : Text.trimChars cs = word.toList)
    (hcomponent : ¬ NamesComponent word.toList) (hbracket : '<' ∉ word.toList) :
    ofChars cs = (ofWord word).mapError .configuration := by
  rw [ofChars_eq_ofWord (by rwa [htrim]) (by rw [htrim]; exact inside?_eq_none hbracket), htrim,
    String.ofList_toList]

theorem ofChars_of_spelling {s : Scalar} {word : String} (hword : word ∈ s.name :: s.aliases)
    (htrim : Text.trimChars cs = word.toList) : ofChars cs = .ok (.scalar s) := by
  have hwords : ∀ word ∈ s.name :: s.aliases, ¬ NamesComponent word.toList ∧
      '<' ∉ word.toList ∧ ofWord word = .ok (.scalar s) := by
    cases s <;> decide
  obtain ⟨hcomponent, hbracket, hread⟩ := hwords word hword
  rw [ofChars_of_trimChars_eq htrim hcomponent hbracket, hread]
  rfl

theorem ofChars_of_bare {kind : CollectionKind} (htrim : Text.trimChars cs = kind.name.toList) :
    ofChars cs = .ok (.bare kind) := by
  have hname : ¬ NamesComponent kind.name.toList ∧ '<' ∉ kind.name.toList ∧
      ofWord kind.name = .ok (.bare kind) := by
    cases kind <;> decide
  obtain ⟨hcomponent, hbracket, hread⟩ := hname
  rw [ofChars_of_trimChars_eq htrim hcomponent hbracket, hread]
  rfl

theorem ofChars_of_component {c : ComponentType}
    (htrim : Text.trimChars cs = "component:".toList ++ c.text.toList) :
    ofChars cs = .ok (.component c) := by
  rw [ofChars_eq_component htrim, String.ofList_toList, ComponentType.parse_text]
  rfl

theorem ofChars_of_collection {kind : CollectionKind} {inner : List Char} {element : ValueType}
    (htrim : Text.trimChars cs = kind.name.toList ++ '<' :: (inner ++ ['>']))
    (h : ofChars inner = .ok element) : ofChars cs = .ok (.collection kind element) := by
  have hcomponent : ¬ NamesComponent (Text.trimChars cs) := by
    rw [htrim]
    exact not_namesComponent_of_collection kind _
  rw [ofChars_eq_collection hcomponent (inside?_eq_some_iff.2 htrim), h]
  rfl

theorem ofChars_of_name {name : String} (h : IsName name)
    (htrim : Text.trimChars cs = name.toList) : ofChars cs = .ok (.named name) := by
  have hbracket : '<' ∉ name.toList := fun hmem => (h.unbroken _ hmem).1 rfl
  rw [ofChars_of_trimChars_eq htrim h.not_component hbracket, ofWord_named h]
  rfl

theorem trimChars_text_component (c : ComponentType) :
    Text.trimChars (component c).text.toList = "component:".toList ++ c.text.toList := by
  have hprefix : "component:".toList.all (fun d => !Text.isSpace d) = true := by decide
  have hspace : ∀ d ∈ "component:".toList ++ c.text.toList, Text.isSpace d = false := by
    refine List.forall_mem_append.2 ⟨by simpa using hprefix, fun d hd => ?_⟩
    rcases Token.isPart_or_dot_of_completesDotted c.isTypeName_text d hd with h | rfl
    · exact Text.isSpace_eq_false_of_isPart h
    · decide
  have htext : (component c).text.toList = "component:".toList ++ c.text.toList :=
    String.toList_append
  rw [htext, Text.trimChars_eq_self_of_forall hspace]

theorem trimChars_text_collection (kind : CollectionKind) (element : ValueType) :
    Text.trimChars (collection kind element).text.toList =
      kind.name.toList ++ '<' :: (element.text.toList ++ ['>']) := by
  have htext : (collection kind element).text.toList =
      kind.name.toList ++ '<' :: (element.text.toList ++ ['>']) := by
    simp [text, String.toList_append]
  rw [htext]
  refine Text.trimChars_eq_self (fun c hc => ?_) fun c hc => ?_
  · have hfirst : c = 'l' ∨ c = 's' := by
      cases kind <;> simp [CollectionKind.name] at hc <;> simp [← hc]
    rcases hfirst with rfl | rfl <;> decide
  · rw [← List.cons_append, ← List.append_assoc, List.getLast?_concat] at hc
    cases hc
    decide

theorem ofChars_text (h : t.WellFormed) : ofChars t.text.toList = .ok t := by
  induction t with
  | scalar s => exact ofChars_of_spelling List.mem_cons_self (by cases s <;> decide)
  | component c => exact ofChars_of_component (trimChars_text_component c)
  | bare kind => exact ofChars_of_bare (by cases kind <;> decide)
  | collection kind element ih =>
    exact ofChars_of_collection (trimChars_text_collection kind element) (ih h)
  | named name => exact ofChars_of_name h h.trimmed

theorem parse_text (h : t.WellFormed) : parse t.text = .ok t :=
  ofChars_text h

/-- The types that texts are read as are the well-formed ones. -/
theorem exists_parse_eq_ok_iff : (∃ s, parse s = .ok t) ↔ t.WellFormed :=
  ⟨fun ⟨_, h⟩ => wellFormed_of_ofChars h, fun h => ⟨t.text, parse_text h⟩⟩

end ValueType

end KeyedSql

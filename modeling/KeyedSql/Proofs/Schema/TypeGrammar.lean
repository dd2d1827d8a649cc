import KeyedSql.Proofs.Schema.ValueType

/-!
# The grammar of value types

`ValueType.Spells` says by brackets around a type which characters spell which type. Reading does
not look for the bracket that belongs to another one; it takes a beginning and an end off a text and
reads what is left. It accepts the same texts nevertheless, since what is left has to be a type of
its own.

Every step inside a pair of brackets takes at least five characters off, so reading ends.
-/

namespace KeyedSql

open Outcome

theorem Scalar.mem_spellings_of_ofName? {word : String} {s : Scalar} (h : ofName? word = some s) :
    word ∈ s.name :: s.aliases := by
  simpa using List.find?_some h

theorem CollectionKind.eq_name_of_ofName? {word : String} {kind : CollectionKind}
    (h : ofName? word = some kind) : word = kind.name := by
  have hname := List.find?_some h
  exact (eq_of_beq hname).symm

namespace ValueType

variable {cs inner innermost : List Char} {kind : CollectionKind} {kinds : List CollectionKind}
  {t : ValueType}

/-! ## Texts of types -/

/-- The characters are the name of a kind of collections and, in brackets, what is inside. White
space around does not count. -/
def Encloses (cs : List Char) (kind : CollectionKind) (inner : List Char) : Prop :=
  Text.trimChars cs = kind.name.toList ++ '<' :: (inner ++ ['>'])

/-- The characters spell the type. White space around does not count, neither here nor around the
type of elements. -/
inductive Spells : List Char → ValueType → Prop where
  | scalar {cs : List Char} {s : Scalar} {word : String}
      (hcs : Text.trimChars cs = word.toList) (hword : word ∈ s.name :: s.aliases) :
      Spells cs (scalar s)
  | bare {cs : List Char} {kind : CollectionKind} (hcs : Text.trimChars cs = kind.name.toList) :
      Spells cs (bare kind)
  | component {cs : List Char} {c : ComponentType}
      (hcs : Text.trimChars cs = "component:".toList ++ c.text.toList) : Spells cs (component c)
  | collection {cs inner : List Char} {kind : CollectionKind} {element : ValueType}
      (hcs : Encloses cs kind inner) (helement : Spells inner element) :
      Spells cs (collection kind element)
  /-- Any other word without brackets and blanks is the name of an application type. -/
  | named {cs : List Char} {name : String} (hcs : Text.trimChars cs = name.toList)
      (hname : IsName name) : Spells cs (named name)

theorem ofChars_of_spells (h : Spells cs t) : ofChars cs = .ok t := by
  induction h with
  | scalar hcs hword => exact ofChars_of_spelling hword hcs
  | bare hcs => exact ofChars_of_bare hcs
  | component hcs => exact ofChars_of_component hcs
  | collection hcs _ ih => exact ofChars_of_collection hcs ih
  | named hcs hname => exact ofChars_of_name hname hcs

theorem spells_of_ofChars (h : ofChars cs = .ok t) : Spells cs t := by
  induction cs using ofChars.induct generalizing t with
  | case1 cs name hname =>
    have htrim := Text.after?_eq_some_iff.1 hname
    rw [ofChars_eq_component htrim] at h
    obtain ⟨c, hc, rfl⟩ := map_eq_ok_iff.1 h
    have htext : c.text.toList = name := by
      rw [← ComponentType.parse_eq_ok_iff.1 (mapError_eq_ok_iff.1 hc), String.toList_ofList]
    rw [← htext] at htrim
    exact .component htrim
  | case2 cs hname kind inner hinside ih =>
    rw [ofChars_eq_collection (after?_eq_none_iff.1 hname) hinside] at h
    obtain ⟨element, helement, rfl⟩ := map_eq_ok_iff.1 h
    exact .collection (inside?_eq_some_iff.1 hinside) (ih helement)
  | case3 cs hname hinside =>
    have hcomponent := after?_eq_none_iff.1 hname
    have hword : Text.trimChars cs = (String.ofList (Text.trimChars cs)).toList :=
      String.toList_ofList.symm
    rw [ofChars_eq_ofWord hcomponent hinside, mapError_eq_ok_iff] at h
    generalize String.ofList (Text.trimChars cs) = word at h hword
    have htrim : Text.trimChars word.toList = word.toList := by
      rw [← hword, Text.trimChars_trimChars]
    rcases cases_of_ofWord htrim (hword ▸ hcomponent) h with
      ⟨s, hs, rfl⟩ | ⟨kind, hkind, rfl⟩ | ⟨hname, rfl⟩
    · exact .scalar hword (Scalar.mem_spellings_of_ofName? hs)
    · exact .bare (hword.trans (congrArg String.toList (CollectionKind.eq_name_of_ofName? hkind)))
    · exact .named hword hname

theorem parse_eq_ok_iff {s : String} : parse s = .ok t ↔ Spells s.toList t :=
  ⟨spells_of_ofChars, ofChars_of_spells⟩

/-! ## Depth -/

/-- Reading comes from some characters to others through the brackets of collections, which are
listed from the outermost to the innermost one. -/
inductive Descends : List Char → List CollectionKind → List Char → Prop where
  | here (cs : List Char) : Descends cs [] cs
  | inside {cs inner innermost : List Char} {kind : CollectionKind} {kinds : List CollectionKind}
      (hcs : Encloses cs kind inner) (hrest : Descends inner kinds innermost) :
      Descends cs (kind :: kinds) innermost

theorem Encloses.length_le (h : Encloses cs kind inner) : inner.length + 5 ≤ cs.length := by
  have hname : 3 ≤ kind.name.toList.length := by cases kind <;> decide
  have htrim := Text.length_trimChars_le cs
  rw [h] at htrim
  simp only [List.length_append, List.length_cons, List.length_nil] at htrim
  omega

theorem Descends.length_le (h : Descends cs kinds innermost) :
    innermost.length + 5 * kinds.length ≤ cs.length := by
  induction h with
  | here => simp
  | inside hcs _ ih =>
    have hlength := hcs.length_le
    rw [List.length_cons]
    omega

/-- Reading comes to characters that are no collection in brackets. -/
theorem exists_descends (cs : List Char) :
    ∃ kinds innermost, Descends cs kinds innermost ∧
      (∀ kind inner, ¬ Encloses innermost kind inner) ∧
        ofChars cs = (ofChars innermost).map fun t => kinds.foldr .collection t := by
  have hhere : ∀ cs, (∀ kind inner, ¬ Encloses cs kind inner) → ∃ kinds innermost,
      Descends cs kinds innermost ∧ (∀ kind inner, ¬ Encloses innermost kind inner) ∧
        ofChars cs = (ofChars innermost).map fun t => kinds.foldr .collection t := by
    intro cs hcs
    refine ⟨[], cs, .here cs, hcs, ?_⟩
    cases ofChars cs <;> rfl
  induction cs using ofChars.induct with
  | case1 cs name hname =>
    refine hhere cs fun kind inner hencloses => ?_
    refine not_namesComponent_of_collection kind ('<' :: (inner ++ ['>'])) ?_
    rw [← hencloses]
    exact ⟨name, (Text.after?_eq_some_iff.1 hname).symm⟩
  | case2 cs hname kind inner hinside ih =>
    obtain ⟨kinds, innermost, hdescends, hnone, hread⟩ := ih
    refine ⟨kind :: kinds, innermost, .inside (inside?_eq_some_iff.1 hinside) hdescends, hnone, ?_⟩
    rw [ofChars_eq_collection (after?_eq_none_iff.1 hname) hinside, hread]
    cases ofChars innermost <;> rfl
  | case3 cs hname hinside =>
    refine hhere cs fun kind inner hencloses => ?_
    rw [inside?_eq_some_iff.2 hencloses] at hinside
    cases hinside

/-! ## Types and their own texts -/

/-- The names of application types inside a type. -/
def names : ValueType → List String
  | scalar _ | component _ | bare _ => []
  | collection _ element => element.names
  | named name => [name]

/-- The spellings of scalars and the names of collections. -/
def reserved : List String :=
  Scalar.all.flatMap (fun s => s.name :: s.aliases) ++
    [CollectionKind.list, CollectionKind.set].map CollectionKind.name

theorem not_mem_reserved_iff {name : String} :
    name ∉ reserved ↔ Scalar.ofName? name = none ∧ CollectionKind.ofName? name = none := by
  have hscalar : Scalar.ofName? name = none ↔
      name ∉ Scalar.all.flatMap fun s => s.name :: s.aliases := by
    simp only [Scalar.ofName?, List.find?_eq_none, List.mem_flatMap, List.mem_cons,
      Bool.or_eq_true, beq_iff_eq, List.contains_iff_mem, not_exists, not_and]
  have hkind : CollectionKind.ofName? name = none ↔
      name ∉ [CollectionKind.list, CollectionKind.set].map CollectionKind.name := by
    simp only [CollectionKind.ofName?, List.find?_eq_none, List.mem_map, beq_iff_eq, not_exists,
      not_and]
  rw [reserved, List.mem_append, not_or, hscalar, hkind]

theorem isName_iff {name : String} :
    IsName name ↔ name ≠ "" ∧ Text.trimChars name.toList = name.toList ∧
      (∀ c ∈ name.toList, c ≠ '<' ∧ c ≠ '>' ∧ c ≠ ' ') ∧ ¬ NamesComponent name.toList ∧
        name ∉ reserved := by
  rw [not_mem_reserved_iff]
  exact ⟨fun ⟨hne, htrim, hword, hcomponent, hscalar, hbare⟩ =>
      ⟨hne, htrim, hword, hcomponent, hscalar, hbare⟩,
    fun ⟨hne, htrim, hword, hcomponent, hscalar, hbare⟩ =>
      ⟨hne, htrim, hword, hcomponent, hscalar, hbare⟩⟩

theorem wellFormed_iff : t.WellFormed ↔ ∀ name ∈ t.names, IsName name := by
  induction t with
  | scalar | component | bare => simp [WellFormed, names]
  | collection kind element ih => exact ih
  | named name => simp [WellFormed, names]

theorem parse_text_eq_ok_iff : parse t.text = .ok t ↔ ∀ name ∈ t.names, IsName name := by
  rw [← wellFormed_iff]
  exact ⟨wellFormed_of_ofChars, parse_text⟩

/-- A text is read as a type exactly if it spells the type, and types are read back from their
texts. -/
theorem parse_exact :
    (∀ (s : String) kinds innermost,
        Descends s.toList kinds innermost → 5 * kinds.length ≤ s.length) ∧
      (∀ s : String, ∃ kinds innermost, Descends s.toList kinds innermost ∧
        (∀ kind inner, ¬ Encloses innermost kind inner) ∧
          parse s = (ofChars innermost).map fun t => kinds.foldr .collection t) ∧
      (∀ s t, parse s = .ok t ↔ Spells s.toList t) ∧
      (∀ t : ValueType, parse t.text = .ok t ↔ ∀ name ∈ t.names, IsName name) ∧
      (∀ s t, parse s = .ok t → (∀ name ∈ t.names, IsName name) ∧ parse t.text = .ok t) ∧
      ∀ name : String, IsName name ↔ name ≠ "" ∧ Text.trimChars name.toList = name.toList ∧
        (∀ c ∈ name.toList, c ≠ '<' ∧ c ≠ '>' ∧ c ≠ ' ') ∧ ¬ NamesComponent name.toList ∧
          name ∉ reserved := by
  refine ⟨fun s kinds innermost hdescends => ?_, fun s => exists_descends s.toList,
    fun _ _ => parse_eq_ok_iff, fun _ => parse_text_eq_ok_iff, fun s t hread => ?_,
    fun _ => isName_iff⟩
  · have hlength := hdescends.length_le
    rw [String.length_toList] at hlength
    omega
  · have hwf : t.WellFormed := wellFormed_of_ofChars hread
    exact ⟨wellFormed_iff.1 hwf, parse_text hwf⟩

/-- The last bracket does not belong to the first one, and what is between them is no type. -/
example : (parse "list<a>,b<c>").toOption = none := by decide +kernel

end ValueType

end KeyedSql

/-!
# Cutting text at a character

Keys and lists have no escapes, so their parts are found by looking for separator characters alone.
`cut` divides a text at the first separator, `split` at every one, and `join` puts parts together.

Splitting and joining undo each other: `join_split` holds of every text, and `split_join` of every
non-empty list of parts that do not hold the separator themselves.
-/

namespace KeyedSql.Text

/-! ## Characters -/

/-- The characters before and after the first `sep`, if there is one. -/
def cutChars (sep : Char) : List Char → Option (List Char × List Char)
  | [] => none
  | c :: cs => if c = sep then some ([], cs) else (cutChars sep cs).map fun p => (c :: p.1, p.2)

/-- The runs of characters between separators: the first run, then the further ones. -/
def splitChars (sep : Char) : List Char → List Char × List (List Char)
  | [] => ([], [])
  | c :: cs =>
    let rest := splitChars sep cs
    if c = sep then ([], rest.1 :: rest.2) else (c :: rest.1, rest.2)

/-- Puts a separator before each further run. -/
def joinChars (sep : Char) (runs : List Char × List (List Char)) : List Char :=
  runs.1 ++ runs.2.flatMap (sep :: ·)

theorem cutChars_eq_none_iff {sep : Char} {cs : List Char} : cutChars sep cs = none ↔ sep ∉ cs := by
  induction cs with
  | nil => simp [cutChars]
  | cons c cs ih =>
    by_cases h : c = sep
    · simp [cutChars, h]
    · simp [cutChars, h, ih, Ne.symm h]

theorem cutChars_eq_some_iff {sep : Char} {cs a b : List Char} :
    cutChars sep cs = some (a, b) ↔ sep ∉ a ∧ cs = a ++ sep :: b := by
  induction cs generalizing a with
  | nil => simp [cutChars]
  | cons c cs ih =>
    by_cases h : c = sep
    · subst h
      cases a with
      | nil => simp [cutChars, eq_comm]
      | cons d a =>
        simp only [cutChars, List.cons_append, List.cons.injEq, List.mem_cons, not_or]
        exact ⟨fun h => (by simp at h), fun ⟨h, h', _⟩ => (h.1 h').elim⟩
    · cases a with
      | nil => simp [cutChars, h]
      | cons d a =>
        simp only [cutChars, if_neg h, Option.map_eq_some_iff, Prod.mk.injEq, List.cons.injEq,
          List.cons_append, List.mem_cons, not_or, Prod.exists]
        constructor
        · rintro ⟨a', b', hcut, ⟨rfl, rfl⟩, rfl⟩
          obtain ⟨h₁, h₂⟩ := ih.1 hcut
          exact ⟨⟨fun e => h e.symm, h₁⟩, rfl, h₂⟩
        · rintro ⟨⟨_, h₁⟩, rfl, h₂⟩
          exact ⟨a, b, ih.2 ⟨h₁, h₂⟩, ⟨rfl, rfl⟩, rfl⟩

theorem joinChars_splitChars (sep : Char) (cs : List Char) :
    joinChars sep (splitChars sep cs) = cs := by
  induction cs with
  | nil => rfl
  | cons c cs ih =>
    by_cases h : c = sep <;> simp_all [splitChars, joinChars]

theorem splitChars_of_notMem {sep : Char} {cs : List Char} (h : sep ∉ cs) :
    splitChars sep cs = (cs, []) := by
  induction cs with
  | nil => rfl
  | cons c cs ih =>
    simp only [List.mem_cons, not_or] at h
    simp [splitChars, Ne.symm h.1, ih h.2]

theorem splitChars_append_cons {sep : Char} {cs : List Char} (h : sep ∉ cs) (ds : List Char) :
    splitChars sep (cs ++ sep :: ds) = (cs, (splitChars sep ds).1 :: (splitChars sep ds).2) := by
  induction cs with
  | nil => simp [splitChars]
  | cons c cs ih =>
    simp only [List.mem_cons, not_or] at h
    simp [splitChars, Ne.symm h.1, ih h.2]

theorem notMem_of_mem_splitChars {sep : Char} {cs run : List Char}
    (h : run ∈ (splitChars sep cs).1 :: (splitChars sep cs).2) : sep ∉ run := by
  induction cs generalizing run with
  | nil => simp_all [splitChars]
  | cons c cs ih =>
    by_cases hc : c = sep
    · simp only [splitChars, if_pos hc, List.mem_cons] at h
      rcases h with rfl | h
      · simp
      · exact ih (List.mem_cons.2 h)
    · simp only [splitChars, if_neg hc, List.mem_cons] at h
      rcases h with rfl | h
      · simp [Ne.symm hc, ih (List.mem_cons_self ..)]
      · exact ih (List.mem_cons_of_mem _ h)

theorem splitChars_joinChars {sep : Char} {first : List Char} {rest : List (List Char)}
    (h : ∀ run ∈ first :: rest, sep ∉ run) :
    splitChars sep (joinChars sep (first, rest)) = (first, rest) := by
  induction rest generalizing first with
  | nil => simpa [joinChars] using splitChars_of_notMem (h first (by simp))
  | cons next rest ih =>
    have hnext := @ih next fun run hrun => h run (List.mem_cons_of_mem _ hrun)
    have : joinChars sep (first, next :: rest) = first ++ sep :: joinChars sep (next, rest) := by
      simp [joinChars]
    rw [this, splitChars_append_cons (h first (by simp)), hnext]

/-! ## Text -/

/-- The text before and after the first `sep`, if there is one. -/
def cut (sep : Char) (s : String) : Option (String × String) :=
  (cutChars sep s.toList).map fun p => (String.ofList p.1, String.ofList p.2)

/-- The parts of a text between its separators; a text without one is its own only part. -/
def split (sep : Char) (s : String) : List String :=
  let runs := splitChars sep s.toList
  (runs.1 :: runs.2).map String.ofList

/-- The parts in order, one separator between neighbours. -/
def join (sep : Char) (parts : List String) : String :=
  (String.singleton sep).intercalate parts

theorem cut_eq_none_iff {sep : Char} {s : String} : cut sep s = none ↔ sep ∉ s.toList := by
  simp [cut, cutChars_eq_none_iff]

theorem cut_eq_some_iff {sep : Char} {s a b : String} :
    cut sep s = some (a, b) ↔ sep ∉ a.toList ∧ s = a ++ String.singleton sep ++ b := by
  simp only [cut, Option.map_eq_some_iff, Prod.mk.injEq, Prod.exists]
  constructor
  · rintro ⟨x, y, h, rfl, rfl⟩
    obtain ⟨h₁, h₂⟩ := cutChars_eq_some_iff.1 h
    exact ⟨by simpa using h₁, String.toList_inj.1 (by simp [h₂])⟩
  · rintro ⟨h, rfl⟩
    exact ⟨a.toList, b.toList, cutChars_eq_some_iff.2 ⟨h, by simp⟩, by simp, by simp⟩

theorem split_ne_nil (sep : Char) (s : String) : split sep s ≠ [] := by
  simp [split]

theorem toList_join_cons (sep : Char) (first : String) (rest : List String) :
    (join sep (first :: rest)).toList = joinChars sep (first.toList, rest.map String.toList) := by
  induction rest generalizing first with
  | nil => simp [join, joinChars]
  | cons next rest ih =>
    have h := ih next
    simp only [join, String.intercalate_cons_cons, String.toList_append,
      String.toList_singleton] at h ⊢
    simp [h, joinChars]

theorem join_split (sep : Char) (s : String) : join sep (split sep s) = s := by
  apply String.toList_inj.1
  rw [split, List.map_cons, toList_join_cons]
  simpa [Function.comp_def] using joinChars_splitChars sep s.toList

theorem notMem_of_mem_split {sep : Char} {s part : String} (h : part ∈ split sep s) :
    sep ∉ part.toList := by
  obtain ⟨run, hrun, rfl⟩ := List.mem_map.1 h
  simpa using notMem_of_mem_splitChars hrun

theorem split_join {sep : Char} {parts : List String} (hne : parts ≠ [])
    (h : ∀ part ∈ parts, sep ∉ part.toList) : split sep (join sep parts) = parts := by
  cases parts with
  | nil => exact absurd rfl hne
  | cons first rest =>
    have hruns : ∀ run ∈ first.toList :: rest.map String.toList, sep ∉ run := by
      rw [← List.map_cons]
      rintro run hrun
      obtain ⟨part, hpart, rfl⟩ := List.mem_map.1 hrun
      exact h part hpart
    rw [split, toList_join_cons, splitChars_joinChars hruns]
    simp [Function.comp_def]

theorem split_eq_iff {sep : Char} {s : String} {parts : List String} :
    split sep s = parts ↔
      parts ≠ [] ∧ (∀ part ∈ parts, sep ∉ part.toList) ∧ s = join sep parts := by
  constructor
  · rintro rfl
    exact ⟨split_ne_nil sep s, fun part => notMem_of_mem_split, (join_split sep s).symm⟩
  · rintro ⟨hne, h, rfl⟩
    exact split_join hne h

theorem notMem_join {c sep : Char} {parts : List String} (hc : c ≠ sep)
    (h : ∀ part ∈ parts, c ∉ part.toList) : c ∉ (join sep parts).toList := by
  cases parts with
  | nil => simp [join]
  | cons first rest =>
    obtain ⟨hfirst, hrest⟩ := List.forall_mem_cons.1 h
    simp only [toList_join_cons, joinChars, List.mem_append, List.mem_flatMap, List.mem_map,
      List.mem_cons, not_or]
    refine ⟨hfirst, ?_⟩
    rintro ⟨_, ⟨part, hpart, rfl⟩, hmem | hmem⟩
    · exact hc hmem
    · exact hrest part hpart hmem

theorem join_cons_ne_empty {sep : Char} {first : String} {rest : List String} (h : first ≠ "") :
    join sep (first :: rest) ≠ "" := by
  intro hjoin
  have hchars := toList_join_cons sep first rest
  rw [hjoin, joinChars, String.toList_empty, eq_comm, List.append_eq_nil_iff] at hchars
  exact h (String.toList_eq_nil_iff.1 hchars.1)

theorem eq_of_join_eq {sep : Char} {xs ys : List String} (hx : ∀ x ∈ xs, x ≠ "" ∧ sep ∉ x.toList)
    (hy : ∀ y ∈ ys, y ≠ "" ∧ sep ∉ y.toList) (h : join sep xs = join sep ys) : xs = ys := by
  cases xs with
  | nil =>
    cases ys with
    | nil => rfl
    | cons y ys => exact absurd h.symm (join_cons_ne_empty (hy y (List.mem_cons_self ..)).1)
  | cons x xs =>
    cases ys with
    | nil => exact absurd h (join_cons_ne_empty (hx x (List.mem_cons_self ..)).1)
    | cons y ys =>
      rw [← split_join (List.cons_ne_nil x xs) fun part hpart => (hx part hpart).2, h]
      exact split_join (List.cons_ne_nil y ys) fun part hpart => (hy part hpart).2

end KeyedSql.Text

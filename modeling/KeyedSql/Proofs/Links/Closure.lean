import KeyedSql.Links.Reachable
import KeyedSql.Proofs.Links.Relation

/-!
# The link closure

`reachable` is a walk with a stack. `Walk.Turn` is one turn of it, without the list of unreached
types that `followLinks` carries along, and `Walk.Inv` is what every turn keeps: whatever is reached
can be reached by links, and whatever is reached and no longer on the stack has been followed.

From the invariant at the end of a run, `reachable` gives exactly the types that can be reached by
one or more links, other than the root. It fails exactly when one of them, or the root, is not
registered or has a collection of the wrong type.
-/

namespace KeyedSql.Registry

open Relation Outcome

/-- What the walk holds between two turns: the types reached so far, and the types whose links are
still to be followed. -/
structure Walk where
  reached : List ComponentType
  stack : List ComponentType

namespace Walk

/-- The walk begins with the links of the root. -/
def start (root : ComponentType) : Walk :=
  ⟨[], [root]⟩

/-- Reaches a type and puts it on the stack, unless it is the root or has been reached before. -/
def reach (root : ComponentType) (w : Walk) (link : ComponentType) : Walk :=
  if link = root ∨ link ∈ w.reached then w else ⟨w.reached ++ [link], link :: w.stack⟩

/-- One turn takes a type off the stack and follows its links in their order. -/
inductive Turn (r : Registry) (root : ComponentType) : Walk → Walk → Prop where
  | follow {reached stack links : List ComponentType} {current : ComponentType}
      (hlinks : r.linksOf current = .ok links) :
      Turn r root ⟨reached, current :: stack⟩ (links.foldl (reach root) ⟨reached, stack⟩)

/-- What the walk holds after a number of turns. -/
inductive Run (r : Registry) (root : ComponentType) : Nat → Walk → Prop where
  | start : Run r root 0 (start root)
  | turn {n : Nat} {w w' : Walk} (hrun : Run r root n w) (hturn : Turn r root w w') :
      Run r root (n + 1) w'

/-- What a walk gives back when it can take no further turn. -/
inductive Answers (r : Registry) : Walk → Except ConfigError (List ComponentType) → Prop where
  | done {reached : List ComponentType} : Answers r ⟨reached, []⟩ (.ok reached)
  | failed {reached stack : List ComponentType} {current : ComponentType} {e : ConfigError}
      (herror : r.linksOf current = .error e) : Answers r ⟨reached, current :: stack⟩ (.error e)

/-- What every turn of the walk keeps. -/
structure Inv (r : Registry) (root : ComponentType) (w : Walk) : Prop where
  nodup_reached : w.reached.Nodup
  links : ∀ t ∈ w.reached, TransGen r.LinksTo root t ∧ t ≠ root
  stack_subset : ∀ t ∈ w.stack, t = root ∨ t ∈ w.reached
  followed : ∀ t, t = root ∨ t ∈ w.reached →
    t ∈ w.stack ∨ r.WellShapedAt t ∧ ∀ u, r.LinksTo t u → u = root ∨ u ∈ w.reached

end Walk

/-! ## New links -/

theorem mem_reachNew_fst_iff {unreached links : List ComponentType} {t : ComponentType} :
    t ∈ (reachNew unreached links).1 ↔ t ∈ links ∧ t ∈ unreached := by
  induction links generalizing unreached with
  | nil => simp [reachNew]
  | cons link links ih =>
    unfold reachNew
    split_ifs with hmem
    · simp only [List.mem_cons, ih, List.mem_filter, decide_eq_true_eq]
      constructor
      · rintro (rfl | ⟨hlinks, hun, -⟩)
        · exact ⟨.inl rfl, hmem⟩
        · exact ⟨.inr hlinks, hun⟩
      · rintro ⟨rfl | hlinks, hun⟩
        · exact .inl rfl
        · by_cases ht : t = link
          · exact .inl ht
          · exact .inr ⟨hlinks, hun, ht⟩
    · rw [ih, List.mem_cons]
      refine ⟨fun h => ⟨.inr h.1, h.2⟩, ?_⟩
      rintro ⟨rfl | hlinks, hun⟩
      · exact absurd hun hmem
      · exact ⟨hlinks, hun⟩

theorem mem_reachNew_snd_iff {unreached links : List ComponentType} {t : ComponentType} :
    t ∈ (reachNew unreached links).2 ↔ t ∈ unreached ∧ t ∉ links := by
  induction links generalizing unreached with
  | nil => simp [reachNew]
  | cons link links ih =>
    unfold reachNew
    split_ifs with hmem
    · simp only [ih, List.mem_filter, decide_eq_true_eq, List.mem_cons, not_or, and_assoc]
    · rw [ih, List.mem_cons, not_or]
      refine and_congr_right fun hun => ⟨fun h => ⟨?_, h⟩, fun h => h.2⟩
      rintro rfl
      exact hmem hun

theorem nodup_reachNew_fst (unreached links : List ComponentType) :
    (reachNew unreached links).1.Nodup := by
  induction links generalizing unreached with
  | nil => simp [reachNew]
  | cons link links ih =>
    unfold reachNew
    split_ifs
    · refine List.nodup_cons.2 ⟨fun h => ?_, ih _⟩
      simpa using (mem_reachNew_fst_iff.1 h).2
    · exact ih unreached

/-- Links followed one by one reach the same types in the same order. -/
theorem Walk.foldl_reach_eq {root : ComponentType} {unreached links : List ComponentType} (w : Walk)
    (hun : ∀ t ∈ links, t ∈ unreached ↔ t ≠ root ∧ t ∉ w.reached) :
    links.foldl (reach root) w =
      ⟨w.reached ++ (reachNew unreached links).1,
        (reachNew unreached links).1.reverse ++ w.stack⟩ := by
  induction links generalizing w unreached with
  | nil => simp [reachNew]
  | cons link links ih =>
    obtain ⟨hlink, hlinks⟩ := List.forall_mem_cons.1 hun
    rw [List.foldl_cons]
    by_cases hmem : link ∈ unreached
    · obtain ⟨hroot, hreached⟩ := hlink.1 hmem
      have hun' : ∀ t ∈ links, t ∈ unreached.filter (· ≠ link) ↔
          t ≠ root ∧ t ∉ w.reached ++ [link] := by
        intro t ht
        rw [List.mem_filter, hlinks t ht]
        simp [and_assoc]
      rw [reach, if_neg (not_or.2 ⟨hroot, hreached⟩), reachNew, if_pos hmem, ih _ hun']
      simp
    · have hold : link = root ∨ link ∈ w.reached := by
        by_contra h
        exact hmem (hlink.2 (not_or.1 h))
      rw [reach, if_pos hold, reachNew, if_neg hmem, ih w hlinks]

namespace Walk

variable {r : Registry} {root : ComponentType} {w w' : Walk} {n : Nat}

theorem exists_new_of_foldl_reach (root : ComponentType) (links : List ComponentType) (w : Walk) :
    ∃ new : List ComponentType,
      links.foldl (reach root) w = ⟨w.reached ++ new, new.reverse ++ w.stack⟩ ∧ new.Nodup ∧
        ∀ t, t ∈ new ↔ t ∈ links ∧ t ≠ root ∧ t ∉ w.reached := by
  have hun : ∀ t ∈ links, t ∈ links.filter (fun t => t ≠ root ∧ t ∉ w.reached) ↔
      t ≠ root ∧ t ∉ w.reached := by
    intro t ht
    simp [ht]
  refine ⟨_, foldl_reach_eq w hun, nodup_reachNew_fst _ _, fun t => ?_⟩
  rw [mem_reachNew_fst_iff]
  exact and_congr_right fun ht => hun t ht

/-! ## The invariant -/

theorem inv_start : Inv r root (start root) where
  nodup_reached := List.nodup_nil
  links := nofun
  stack_subset t ht := .inl (List.mem_singleton.1 ht)
  followed t ht := by
    obtain rfl | ht := ht
    · exact .inl (List.mem_singleton_self t)
    · cases ht

theorem Inv.reflTransGen_of_mem_stack (h : Inv r root w) {t : ComponentType} (ht : t ∈ w.stack) :
    ReflTransGen r.LinksTo root t := by
  rcases h.stack_subset t ht with rfl | hreached
  · exact .refl
  · exact (h.links t hreached).1.to_reflTransGen

theorem Turn.inv (hturn : Turn r root w w') (h : Inv r root w) : Inv r root w' := by
  obtain ⟨hlinks⟩ := hturn
  rename_i reached stack links current
  obtain ⟨new, hfold, hnodup, hnew⟩ := exists_new_of_foldl_reach root links ⟨reached, stack⟩
  rw [hfold]
  have hcurrent := h.reflTransGen_of_mem_stack (List.mem_cons_self ..)
  refine ⟨?_, fun t ht => ?_, fun t ht => ?_, fun t ht => ?_⟩
  · refine List.nodup_append.2 ⟨h.nodup_reached, hnodup, ?_⟩
    rintro t hold _ ht rfl
    exact ((hnew t).1 ht).2.2 hold
  · rcases List.mem_append.1 ht with hold | ht
    · exact h.links t hold
    · obtain ⟨hlink, hroot, -⟩ := (hnew t).1 ht
      exact ⟨.tail' hcurrent ((mem_linksOf_iff hlinks).1 hlink), hroot⟩
  · rcases List.mem_append.1 ht with ht | hold
    · exact .inr (List.mem_append_right _ (List.mem_reverse.1 ht))
    · exact (h.stack_subset t (List.mem_cons_of_mem _ hold)).imp_right (List.mem_append_left _)
  · by_cases htnew : t ∈ new
    · exact .inl (List.mem_append_left _ (List.mem_reverse.2 htnew))
    have hold : t = root ∨ t ∈ reached := ht.imp_right fun ht =>
      (List.mem_append.1 ht).resolve_right htnew
    rcases h.followed t hold with hstack | ⟨hshape, hfollowed⟩
    · rcases List.mem_cons.1 hstack with rfl | hstack
      -- the type that was on top of the stack has just been followed
      · refine .inr ⟨exists_linksOf_eq_ok_iff.1 ⟨links, hlinks⟩, fun u hu => ?_⟩
        by_cases hu' : u = root ∨ u ∈ reached
        · exact hu'.imp_right (List.mem_append_left _)
        · obtain ⟨hroot, hreached⟩ := not_or.1 hu'
          have hunew := (hnew u).2 ⟨(mem_linksOf_iff hlinks).2 hu, hroot, hreached⟩
          exact .inr (List.mem_append_right _ hunew)
      · exact .inl (List.mem_append_right _ hstack)
    · exact .inr ⟨hshape, fun u hu => (hfollowed u hu).imp_right (List.mem_append_left _)⟩

theorem Run.inv (hrun : Run r root n w) : Inv r root w := by
  induction hrun with
  | start => exact inv_start
  | turn _ hturn ih => exact hturn.inv ih

theorem Turn.length_stack (hturn : Turn r root w w') :
    w'.stack.length + w.reached.length + 1 = w.stack.length + w'.reached.length := by
  obtain ⟨hlinks⟩ := hturn
  rename_i reached stack links current
  obtain ⟨new, hfold, -, -⟩ := exists_new_of_foldl_reach root links ⟨reached, stack⟩
  rw [hfold]
  simp only [List.length_append, List.length_reverse, List.length_cons]
  omega

/-- Every turn takes one type off the stack, and each type is put there once. -/
theorem Run.turns_add_length_stack (hrun : Run r root n w) :
    n + w.stack.length = w.reached.length + 1 := by
  induction hrun with
  | start => rfl
  | turn _ hturn ih =>
    have := hturn.length_stack
    omega

end Walk

variable {r : Registry} {root : ComponentType}

theorem mem_linkable_of_linksTo {a b : ComponentType} (h : r.LinksTo a b) : b ∈ r.linkable := by
  rw [linkable, List.mem_flatMap]
  rcases h with ⟨c, hc, -, hcache⟩ | ⟨-, -, -, -, hcontains⟩
  · exact ⟨c, hc, List.mem_cons_of_mem _ hcache⟩
  · obtain ⟨c, hc, rfl⟩ := contains_iff_exists.1 hcontains
    exact ⟨c, hc, List.mem_cons_self ..⟩

/-- The walk makes at most one turn for every type that a link can lead to, and one for the root. -/
theorem Walk.Run.turns_le {n : Nat} {w : Walk} (hrun : Run r root n w) :
    n ≤ r.linkable.length + 1 := by
  have hinv := hrun.inv
  have hsub : w.reached ⊆ r.linkable := by
    intro t ht
    obtain ⟨u, -, hlink⟩ := TransGen.tail'_iff.1 (hinv.links t ht).1
    exact mem_linkable_of_linksTo hlink
  have hlength := List.Nodup.length_le_of_subset hinv.nodup_reached hsub
  have hturns := hrun.turns_add_length_stack
  omega

/-! ## The end of the walk -/

/-- The root and every type that links lead to are registered, and all their collections have the
type of one. -/
structure Followable (r : Registry) (root : ComponentType) : Prop where
  contains_root : r.contains root = true
  contains : ∀ t, TransGen r.LinksTo root t → r.contains t = true
  wellShaped : ∀ c ∈ r.components, ReflTransGen r.LinksTo root c.name → c.WellShaped

theorem followable_iff :
    r.Followable root ↔ ∀ t, ReflTransGen r.LinksTo root t → r.WellShapedAt t := by
  constructor
  · intro h t ht
    have hcontains : r.contains t = true := by
      rcases reflTransGen_iff_eq_or_transGen.1 ht with rfl | ht
      · exact h.contains_root
      · exact h.contains t ht
    obtain ⟨c, hc, rfl⟩ := contains_iff_exists.1 hcontains
    exact ⟨c, hc, rfl, h.wellShaped c hc ht⟩
  · intro h
    have hcontains : ∀ t, ReflTransGen r.LinksTo root t → r.contains t = true := by
      intro t ht
      obtain ⟨c, hc, hname, -⟩ := h t ht
      exact contains_iff_exists.2 ⟨c, hc, hname⟩
    refine ⟨hcontains root .refl, fun t ht => hcontains t ht.to_reflTransGen, fun c hc hlinks => ?_⟩
    obtain ⟨d, hd, hname, hshape⟩ := h c.name hlinks
    rwa [eq_of_mem_of_name_eq hc hd hname.symm]

namespace Walk

variable {w : Walk} {n : Nat}

theorem Inv.followed_of_stack_eq_nil (h : Inv r root w) (hstack : w.stack = []) {t : ComponentType}
    (ht : t = root ∨ t ∈ w.reached) :
    r.WellShapedAt t ∧ ∀ u, r.LinksTo t u → u = root ∨ u ∈ w.reached := by
  have hnotMem : t ∉ w.stack := hstack ▸ List.not_mem_nil
  exact (h.followed t ht).resolve_left hnotMem

theorem Inv.reached_of_stack_eq_nil (h : Inv r root w) (hstack : w.stack = []) {t : ComponentType}
    (ht : ReflTransGen r.LinksTo root t) : t = root ∨ t ∈ w.reached := by
  induction ht with
  | refl => exact .inl rfl
  | tail _ hlink ih => exact (h.followed_of_stack_eq_nil hstack ih).2 _ hlink

theorem Inv.mem_reached_iff_of_stack_eq_nil (h : Inv r root w) (hstack : w.stack = [])
    {t : ComponentType} : t ∈ w.reached ↔ TransGen r.LinksTo root t ∧ t ≠ root := by
  refine ⟨h.links t, fun ⟨ht, hroot⟩ => ?_⟩
  exact (h.reached_of_stack_eq_nil hstack ht.to_reflTransGen).resolve_left hroot

theorem Run.followable (hrun : Run r root n w) (hstack : w.stack = []) : r.Followable root := by
  refine followable_iff.2 fun t ht => ?_
  have hreached := hrun.inv.reached_of_stack_eq_nil hstack ht
  exact (hrun.inv.followed_of_stack_eq_nil hstack hreached).1

/-- A walk fails where the root is not followable. -/
theorem Run.not_followable {current : ComponentType} {e : ConfigError} (hrun : Run r root n w)
    (hmem : current ∈ w.stack) (herror : r.linksOf current = .error e) : ¬ r.Followable root := by
  intro h
  have hshape := followable_iff.1 h current (hrun.inv.reflTransGen_of_mem_stack hmem)
  exact exists_eq_ok_iff.1 (exists_linksOf_eq_ok_iff.2 hshape) ⟨e, herror⟩

theorem Run.sort_reached_eq_iff (hrun : Run r root n w) (hstack : w.stack = [])
    {types : List ComponentType} :
    ComponentType.sort w.reached = types ↔
      types.Pairwise (fun a b => a.text < b.text) ∧
        ∀ t, t ∈ types ↔ TransGen r.LinksTo root t ∧ t ≠ root := by
  have hsorted := ComponentType.sort_pairwise_lt hrun.inv.nodup_reached
  have hmem : ∀ t, t ∈ ComponentType.sort w.reached ↔ TransGen r.LinksTo root t ∧ t ≠ root :=
    fun t => ComponentType.mem_sort.trans (hrun.inv.mem_reached_iff_of_stack_eq_nil hstack)
  constructor
  · rintro rfl
    exact ⟨hsorted, hmem⟩
  · rintro ⟨hpairwise, htypes⟩
    exact ComponentType.eq_of_pairwise_lt hsorted hpairwise fun t => (hmem t).trans (htypes t).symm

/-- `followLinks` takes a run to its end. -/
theorem Run.exists_answers {unreached reached stack : List ComponentType}
    (hrun : Run r root n ⟨reached, stack⟩)
    (hun : ∀ t, t ∈ unreached ↔ t ∈ r.linkable ∧ t ≠ root ∧ t ∉ reached) :
    ∃ m w, Run r root m w ∧ w.Answers r (r.followLinks unreached reached stack) := by
  fun_induction followLinks r unreached reached stack generalizing n with
  | case1 unreached reached => exact ⟨n, _, hrun, .done⟩
  | case2 unreached reached current stack e herror => exact ⟨n, _, hrun, .failed herror⟩
  | case3 unreached reached current stack links hlinks next =>
    rename_i ih
    have hlinkable : ∀ t ∈ links, t ∈ unreached ↔ t ≠ root ∧ t ∉ reached := by
      intro t ht
      have hmem := mem_linkable_of_linksTo ((mem_linksOf_iff hlinks).1 ht)
      rw [hun, and_iff_right hmem]
    have hrun' := hrun.turn (.follow hlinks)
    rw [foldl_reach_eq ⟨reached, stack⟩ hlinkable] at hrun'
    refine ih hrun' fun t => ?_
    rw [mem_reachNew_snd_iff, hun, List.mem_append, mem_reachNew_fst_iff, hun]
    tauto

end Walk

/-! ## What is reachable -/

theorem exists_run_answers (r : Registry) (root : ComponentType) :
    ∃ n w answer, Walk.Run r root n w ∧ w.Answers r answer ∧
      r.reachable root = answer.map ComponentType.sort := by
  have hun : ∀ t, t ∈ r.linkable.filter (· ≠ root) ↔ t ∈ r.linkable ∧ t ≠ root ∧ t ∉ [] := by
    simp
  obtain ⟨n, w, hrun, hanswers⟩ := Walk.Run.start.exists_answers hun
  exact ⟨n, w, _, hrun, hanswers, rfl⟩

theorem reachable_eq_ok_iff {types : List ComponentType} :
    r.reachable root = .ok types ↔
      r.Followable root ∧ types.Pairwise (fun a b => a.text < b.text) ∧
        ∀ t, t ∈ types ↔ TransGen r.LinksTo root t ∧ t ≠ root := by
  obtain ⟨n, w, answer, hrun, hanswers, h⟩ := exists_run_answers r root
  rw [h]
  cases hanswers with
  | done =>
    rw [Except.map, Except.ok.injEq, ← hrun.sort_reached_eq_iff rfl,
      and_iff_right (hrun.followable rfl)]
  | failed herror =>
    have hnot := hrun.not_followable (List.mem_cons_self ..) herror
    exact iff_of_false nofun fun hok => hnot hok.1

theorem exists_reachable_eq_error_iff :
    (∃ e, r.reachable root = .error e) ↔ ¬ r.Followable root := by
  obtain ⟨n, w, answer, hrun, hanswers, h⟩ := exists_run_answers r root
  rw [h]
  cases hanswers with
  | done => exact iff_of_false nofun (not_not_intro (hrun.followable rfl))
  | failed herror =>
    exact iff_of_true ⟨_, rfl⟩ (hrun.not_followable (List.mem_cons_self ..) herror)

/-- The walk finds what one or more links lead to, other than the root, or fails where they cannot
be followed. -/
theorem reachable_exact (r : Registry) (root : ComponentType) :
    (∀ n w, Walk.Run r root n w → n ≤ r.linkable.length + 1) ∧
      (∃ n w answer, Walk.Run r root n w ∧ w.Answers r answer ∧
        r.reachable root = answer.map ComponentType.sort) ∧
      (∀ types, r.reachable root = .ok types ↔
        r.Followable root ∧ types.Pairwise (fun a b => a.text < b.text) ∧
          ∀ t, t ∈ types ↔ TransGen r.LinksTo root t ∧ t ≠ root) ∧
      ((∃ e, r.reachable root = .error e) ↔ ¬ r.Followable root) :=
  ⟨fun _ _ hrun => hrun.turns_le, exists_run_answers r root, fun _ => reachable_eq_ok_iff,
    exists_reachable_eq_error_iff⟩

end KeyedSql.Registry

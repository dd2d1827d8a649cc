import KeyedSql.Links.Localized
import KeyedSql.Proofs.Links.Relation
import Mathlib.Data.List.Flatten
import Mathlib.Data.List.Nodup
import Mathlib.Data.List.Perm.Basic

/-!
# The search for localized columns

`reachesLocalized` is a depth-first search: the components that have been met are shared by all of
its branches, and it stops early at a localized column or at a collection of the wrong type.
`Search.Turn` is one turn of it, and `Search.Inv` what every turn keeps: each property of a
component that has been met is still pending, or has been looked at and leads to nothing new.

So a search that comes to its end has met every component that can be reached. Its answer depends on
the order of properties and of components only where some collection has the wrong type.
-/

namespace KeyedSql.Registry

open Relation Outcome

/-- What the search holds between two turns: the components met so far, and the properties yet to be
looked at. -/
structure Search where
  met : List Component
  pending : List PendingProperty

namespace Search

/-- One turn looks at a property without a localized column. A component that the property leads to
is entered, unless it has been met before. -/
inductive Turn (r : Registry) : Search → Search → Prop where
  | skip {met : List Component} {next : PendingProperty} {pending : List PendingProperty}
      {target : Option ComponentType} (hlocalized : next.property.localizedColumn.isSome = false)
      (htarget : r.linkTarget next.owner next.property = .ok target)
      (hmet : ∀ t ∈ target, ∃ c ∈ met, c.name = t) :
      Turn r ⟨met, next :: pending⟩ ⟨met, pending⟩
  | enter {met : List Component} {next : PendingProperty} {pending : List PendingProperty}
      {c : Component} (hlocalized : next.property.localizedColumn.isSome = false)
      (htarget : r.linkTarget next.owner next.property = .ok (some c.name))
      (hc : c ∈ r.components) (hnew : c ∉ met) :
      Turn r ⟨met, next :: pending⟩ ⟨c :: met, pendingOf c ++ pending⟩

/-- What the search holds after a number of turns; it begins with the properties of the root. -/
inductive Run (r : Registry) (root : ComponentType) : Nat → Search → Prop where
  | start {c : Component} (hc : c ∈ r.components) (hname : c.name = root) :
      Run r root 0 ⟨[c], pendingOf c⟩
  | turn {n : Nat} {s s' : Search} (hrun : Run r root n s) (hturn : Turn r s s') :
      Run r root (n + 1) s'

/-- The answer of a search that can take no further turn. -/
inductive Answers (r : Registry) : Search → Except ConfigError Bool → Prop where
  | exhausted {met : List Component} : Answers r ⟨met, []⟩ (.ok false)
  | found {met : List Component} {next : PendingProperty} {pending : List PendingProperty}
      (hlocalized : next.property.localizedColumn.isSome = true) :
      Answers r ⟨met, next :: pending⟩ (.ok true)
  | failed {met : List Component} {next : PendingProperty} {pending : List PendingProperty}
      {e : ConfigError} (hlocalized : next.property.localizedColumn.isSome = false)
      (herror : r.linkTarget next.owner next.property = .error e) :
      Answers r ⟨met, next :: pending⟩ (.error e)

/-- Looking at the property has brought up no localized column and no wrong type, and what it leads
to has been met. -/
structure Done (r : Registry) (met : List Component) (next : PendingProperty) : Prop where
  localizedColumn : next.property.localizedColumn.isSome = false
  wellShaped : ¬ next.property.IllShaped
  targets : ∀ t, next.property.LeadsTo t → r.contains t = true → ∃ c ∈ met, c.name = t

/-- What every turn of the search keeps. -/
structure Inv (r : Registry) (root : ComponentType) (s : Search) : Prop where
  nodup_met : s.met.Nodup
  reached : ∀ c ∈ s.met, c ∈ r.components ∧ ReflTransGen r.LeadsTo root c.name
  root_met : ∃ c ∈ s.met, c.name = root
  owned : ∀ next ∈ s.pending, ∃ c ∈ s.met, next ∈ pendingOf c
  looked : ∀ c ∈ s.met, ∀ next ∈ pendingOf c, next ∈ s.pending ∨ Done r s.met next

variable {r : Registry} {root : ComponentType} {s s' : Search} {n : Nat}
  {met : List Component} {next : PendingProperty} {answer : Except ConfigError Bool}

theorem Done.mono {met' : List Component} (h : Done r met next) (hsub : met ⊆ met') :
    Done r met' next where
  localizedColumn := h.localizedColumn
  wellShaped := h.wellShaped
  targets t hleads hcontains := by
    obtain ⟨c, hc, hname⟩ := h.targets t hleads hcontains
    exact ⟨c, hsub hc, hname⟩

theorem done_of_linkTarget_eq_ok {target : Option ComponentType}
    (hlocalized : next.property.localizedColumn.isSome = false)
    (htarget : r.linkTarget next.owner next.property = .ok target)
    (hmet : ∀ t ∈ target, ∃ c ∈ met, c.name = t) : Done r met next where
  localizedColumn := hlocalized
  wellShaped hshape := by
    obtain ⟨e, herror⟩ := linkTarget_eq_error_iff.2 hshape
    rw [htarget] at herror
    cases herror
  targets t hleads hcontains := by
    have ht : r.linkTarget next.owner next.property = .ok (some t) :=
      linkTarget_eq_ok_some_iff.2 ⟨hleads, hcontains⟩
    rw [htarget, Except.ok.injEq] at ht
    exact hmet t ht

theorem mem_pendingOf_iff {c : Component} :
    next ∈ pendingOf c ↔ next.owner = c.name ∧ next.property ∈ c.properties := by
  obtain ⟨owner, p⟩ := next
  rw [pendingOf, List.mem_map]
  constructor
  · rintro ⟨_, hp, h⟩
    cases h
    exact ⟨rfl, hp⟩
  · rintro ⟨rfl, hp⟩
    exact ⟨p, hp, rfl⟩

/-! ## The invariant -/

theorem inv_start {c : Component} (hc : c ∈ r.components) : Inv r c.name ⟨[c], pendingOf c⟩ where
  nodup_met := List.nodup_singleton c
  reached d hd := by
    obtain rfl := List.mem_singleton.1 hd
    exact ⟨hc, .refl⟩
  root_met := ⟨c, List.mem_singleton_self c, rfl⟩
  owned next hnext := ⟨c, List.mem_singleton_self c, hnext⟩
  looked d hd next hnext := by
    obtain rfl := List.mem_singleton.1 hd
    exact .inl hnext

theorem Turn.inv (hturn : Turn r s s') (h : Inv r root s) : Inv r root s' := by
  cases hturn with
  | @skip met next pending target hlocalized htarget hmet =>
    refine ⟨h.nodup_met, h.reached, h.root_met, fun p hp => ?_, fun c hc p hp => ?_⟩
    · exact h.owned p (List.mem_cons_of_mem _ hp)
    · rcases h.looked c hc p hp with hpending | hdone
      · rcases List.mem_cons.1 hpending with rfl | hpending
        · exact .inr (done_of_linkTarget_eq_ok hlocalized htarget hmet)
        · exact .inl hpending
      · exact .inr hdone
  | @enter met next pending c hlocalized htarget hc hnew =>
    have hleads : ReflTransGen r.LeadsTo root c.name := by
      obtain ⟨d, hd, hnext⟩ := h.owned next (List.mem_cons_self ..)
      obtain ⟨-, hp⟩ := mem_pendingOf_iff.1 hnext
      obtain ⟨hmem, hreached⟩ := h.reached d hd
      obtain ⟨htarget, hcontains⟩ := linkTarget_eq_ok_some_iff.1 htarget
      exact hreached.tail ⟨d, hmem, rfl, ⟨_, hp, htarget⟩, hcontains⟩
    have hsub : met ⊆ c :: met := List.subset_cons_self c met
    refine ⟨List.nodup_cons.2 ⟨hnew, h.nodup_met⟩, fun d hd => ?_, ?_, fun p hp => ?_,
      fun d hd p hp => ?_⟩
    · rcases List.mem_cons.1 hd with rfl | hd
      · exact ⟨hc, hleads⟩
      · exact h.reached d hd
    · obtain ⟨d, hd, hname⟩ := h.root_met
      exact ⟨d, hsub hd, hname⟩
    · rcases List.mem_append.1 hp with hp | hp
      · exact ⟨c, List.mem_cons_self .., hp⟩
      · obtain ⟨d, hd, hp⟩ := h.owned p (List.mem_cons_of_mem _ hp)
        exact ⟨d, hsub hd, hp⟩
    · rcases List.mem_cons.1 hd with rfl | hd
      · exact .inl (List.mem_append_left _ hp)
      · rcases h.looked d hd p hp with hpending | hdone
        · rcases List.mem_cons.1 hpending with rfl | hpending
          -- the property that leads to the component entered here
          · refine .inr (done_of_linkTarget_eq_ok hlocalized htarget fun t ht => ?_)
            exact ⟨c, List.mem_cons_self .., Option.some.inj ht⟩
          · exact .inl (List.mem_append_right _ hpending)
        · exact .inr (hdone.mono hsub)

theorem Run.inv (hrun : Run r root n s) : Inv r root s := by
  induction hrun with
  | start hc hname =>
    subst hname
    exact inv_start hc
  | turn _ hturn ih => exact hturn.inv ih

/-! ## The number of turns -/

/-- Every turn takes one property off the list, and each is put there once. -/
theorem Run.turns_add_length_pending (hrun : Run r root n s) :
    n + s.pending.length = (s.met.flatMap (·.properties)).length := by
  induction hrun with
  | start => simp [pendingOf]
  | turn _ hturn ih =>
    cases hturn with
    | skip =>
      simp only [List.length_cons] at ih ⊢
      omega
    | enter =>
      simp only [List.length_cons, List.length_append, List.flatMap_cons, pendingOf,
        List.length_map] at ih ⊢
      omega

/-- The search ends on every registry: it looks at each property at most once. -/
theorem Run.turns_le (hrun : Run r root n s) :
    n ≤ (r.components.flatMap (·.properties)).length := by
  have hinv := hrun.inv
  have hsub : s.met ⊆ r.components := fun c hc => (hinv.reached c hc).1
  obtain ⟨cs, hperm, hsublist⟩ := List.subperm_of_subset hinv.nodup_met hsub
  have hle := (hsublist.flatMap (·.properties)).length_le
  rw [(hperm.flatMap_right (·.properties)).length_eq] at hle
  have hturns := hrun.turns_add_length_pending
  omega

/-! ## The end of the search -/

/-- `searchLocalized` takes a run to its end. -/
theorem Run.exists_answers {unmet : List Component} {pending : List PendingProperty}
    (hrun : Run r root n ⟨met, pending⟩)
    (hunmet : ∀ c, c ∈ unmet ↔ c ∈ r.components ∧ c ∉ met) :
    ∃ m s, Run r root m s ∧ s.Answers r (r.searchLocalized unmet pending) := by
  fun_induction searchLocalized r unmet pending generalizing n met with
  | case1 unmet => exact ⟨n, _, hrun, .exhausted⟩
  | case2 unmet next pending hlocalized => exact ⟨n, _, hrun, .found hlocalized⟩
  | case3 unmet next pending hlocalized e herror =>
    exact ⟨n, _, hrun, .failed (Bool.eq_false_iff.2 hlocalized) herror⟩
  | case4 unmet next pending hlocalized htarget ih =>
    exact ih (hrun.turn (.skip (Bool.eq_false_iff.2 hlocalized) htarget nofun)) hunmet
  | case5 unmet next pending hlocalized target htarget hnone ih =>
    have hmet : ∀ t ∈ some target, ∃ c ∈ met, c.name = t := by
      rintro _ ⟨⟩
      obtain ⟨-, hcontains⟩ := linkTarget_eq_ok_some_iff.1 htarget
      obtain ⟨c, hc, hname⟩ := contains_iff_exists.1 hcontains
      refine ⟨c, ?_, hname⟩
      by_contra hnew
      have hne := List.find?_eq_none.1 hnone c ((hunmet c).2 ⟨hc, hnew⟩)
      exact hne (beq_iff_eq.2 hname)
    exact ih (hrun.turn (.skip (Bool.eq_false_iff.2 hlocalized) htarget hmet)) hunmet
  | case6 unmet next pending hlocalized target htarget c hfound ih =>
    have hname : c.name = target := by simpa using List.find?_some hfound
    subst hname
    obtain ⟨hc, hnew⟩ := (hunmet c).1 (List.mem_of_find?_eq_some hfound)
    refine ih (hrun.turn (.enter (Bool.eq_false_iff.2 hlocalized) htarget hc hnew)) fun d => ?_
    rw [othersThan, List.mem_filter, hunmet, decide_eq_true_eq, List.mem_cons, not_or]
    constructor
    · rintro ⟨⟨hd, hdnew⟩, hne⟩
      exact ⟨hd, fun h => hne (congrArg _ h), hdnew⟩
    · rintro ⟨hd, hne, hdnew⟩
      exact ⟨⟨hd, hdnew⟩, fun hname => hne (eq_of_mem_of_name_eq hd hc hname)⟩

theorem Inv.done_of_mem_met (h : Inv r root s) (hpending : s.pending = []) {c : Component}
    (hc : c ∈ s.met) {p : Property} (hp : p ∈ c.properties) : Done r s.met ⟨c.name, p⟩ := by
  have hnotMem : ⟨c.name, p⟩ ∉ s.pending := hpending ▸ List.not_mem_nil
  exact (h.looked c hc _ (mem_pendingOf_iff.2 ⟨rfl, hp⟩)).resolve_left hnotMem

theorem Inv.exists_met_of_pending_eq_nil (h : Inv r root s) (hpending : s.pending = [])
    {t : ComponentType} (ht : ReflTransGen r.LeadsTo root t) : ∃ c ∈ s.met, c.name = t := by
  induction ht with
  | refl => exact h.root_met
  | tail _ hleads ih =>
    obtain ⟨c, hc, rfl⟩ := ih
    obtain ⟨d, hd, hname, ⟨p, hp, htarget⟩, hcontains⟩ := hleads
    obtain rfl := eq_of_mem_of_name_eq hd (h.reached c hc).1 hname
    exact (h.done_of_mem_met hpending hc hp).targets _ htarget hcontains

theorem Inv.done_of_pending_eq_nil (h : Inv r root s) (hpending : s.pending = []) {c : Component}
    (hc : c ∈ r.components) (hreached : ReflTransGen r.LeadsTo root c.name) {p : Property}
    (hp : p ∈ c.properties) : Done r s.met ⟨c.name, p⟩ := by
  obtain ⟨d, hd, hname⟩ := h.exists_met_of_pending_eq_nil hpending hreached
  obtain rfl := eq_of_mem_of_name_eq (h.reached d hd).1 hc hname
  exact h.done_of_mem_met hpending hd hp

end Search

/-! ## What the answer says -/

/-- The root, or a component that can be reached from it, declares a property of the kind. -/
def ReachesProperty (r : Registry) (root : ComponentType) (P : Property → Prop) : Prop :=
  ∃ c ∈ r.components, ReflTransGen r.LeadsTo root c.name ∧ ∃ p ∈ c.properties, P p

/-- A localized column can be reached from the root. -/
def LocalizedFrom (r : Registry) (root : ComponentType) : Prop :=
  r.ReachesProperty root fun p => p.localizedColumn.isSome = true

/-- A collection whose type is none can be reached from the root. -/
def IllShapedFrom (r : Registry) (root : ComponentType) : Prop :=
  r.ReachesProperty root Property.IllShaped

variable {r s : Registry} {root : ComponentType}

theorem Search.Inv.reachesProperty_of_mem_pending {s : Search} (h : Inv r root s)
    {next : PendingProperty} (hnext : next ∈ s.pending) {P : Property → Prop}
    (hP : P next.property) :
    r.ReachesProperty root P := by
  obtain ⟨c, hc, hmem⟩ := h.owned next hnext
  obtain ⟨hregistered, hreached⟩ := h.reached c hc
  exact ⟨c, hregistered, hreached, next.property, (mem_pendingOf_iff.1 hmem).2, hP⟩

theorem exists_search_answers (h : r.contains root = true) :
    ∃ n s, Search.Run r root n s ∧ s.Answers r (r.reachesLocalized root) := by
  obtain ⟨c, hc, rfl⟩ := contains_iff_exists.1 h
  have hcomponent : r.component c.name = .ok c :=
    component_eq_ok_iff.2 (find?_eq_some_iff.2 ⟨hc, rfl⟩)
  have hunmet : ∀ d, d ∈ othersThan c.name r.components ↔ d ∈ r.components ∧ d ∉ [c] := by
    intro d
    rw [othersThan, List.mem_filter, decide_eq_true_eq, List.mem_singleton]
    refine and_congr_right fun hd => not_congr ⟨eq_of_mem_of_name_eq hd hc, congrArg _⟩
  rw [reachesLocalized, hcomponent]
  exact (Search.Run.start hc rfl).exists_answers hunmet

theorem localizedFrom_of_reachesLocalized (h : r.contains root = true)
    (htrue : r.reachesLocalized root = .ok true) : r.LocalizedFrom root := by
  obtain ⟨n, s, hrun, hanswers⟩ := exists_search_answers h
  rw [htrue] at hanswers
  cases hanswers with
  | found hlocalized =>
    exact hrun.inv.reachesProperty_of_mem_pending (List.mem_cons_self ..) hlocalized

theorem illShapedFrom_of_reachesLocalized_eq_error (h : r.contains root = true)
    {e : ConfigError} (herror : r.reachesLocalized root = .error e) : r.IllShapedFrom root := by
  obtain ⟨n, s, hrun, hanswers⟩ := exists_search_answers h
  rw [herror] at hanswers
  cases hanswers with
  | failed hlocalized hfailed =>
    have hshape := linkTarget_eq_error_iff.1 ⟨e, hfailed⟩
    exact hrun.inv.reachesProperty_of_mem_pending (List.mem_cons_self ..) hshape

theorem not_reachesProperty_of_reachesLocalized_eq_ok_false (h : r.contains root = true)
    (hfalse : r.reachesLocalized root = .ok false) :
    ¬ r.LocalizedFrom root ∧ ¬ r.IllShapedFrom root := by
  obtain ⟨n, s, hrun, hanswers⟩ := exists_search_answers h
  rw [hfalse] at hanswers
  cases hanswers with
  | exhausted =>
    constructor
    · rintro ⟨c, hc, hreached, p, hp, hlocalized⟩
      have hdone := hrun.inv.done_of_pending_eq_nil rfl hc hreached hp
      rw [hdone.localizedColumn] at hlocalized
      cases hlocalized
    · rintro ⟨c, hc, hreached, p, hp, hshape⟩
      exact (hrun.inv.done_of_pending_eq_nil rfl hc hreached hp).wellShaped hshape

theorem exists_reachesLocalized_eq_ok (h : r.contains root = true)
    (hshape : ¬ r.IllShapedFrom root) :
    ∃ b, r.reachesLocalized root = .ok b ∧ (b = true ↔ r.LocalizedFrom root) := by
  cases hanswer : r.reachesLocalized root with
  | error e => exact absurd (illShapedFrom_of_reachesLocalized_eq_error h hanswer) hshape
  | ok b =>
    refine ⟨b, rfl, ?_⟩
    cases b with
    | true => exact iff_of_true rfl (localizedFrom_of_reachesLocalized h hanswer)
    | false =>
      have hnone := (not_reachesProperty_of_reachesLocalized_eq_ok_false h hanswer).1
      exact iff_of_false nofun hnone

/-! ## Other orders of the same declarations -/

/-- A component of the type is registered and declares the property. -/
def Declares (r : Registry) (type : ComponentType) (p : Property) : Prop :=
  ∃ c ∈ r.components, c.name = type ∧ p ∈ c.properties

/-- The registries hold components of the same types, with the same properties, in whatever order
the components are registered and the properties are declared. -/
structure SameDeclarations (r s : Registry) : Prop where
  contains : ∀ t, r.contains t = s.contains t
  declares : ∀ t p, r.Declares t p ↔ s.Declares t p

theorem leadsTo_iff {a b : ComponentType} :
    r.LeadsTo a b ↔ (∃ p, r.Declares a p ∧ p.LeadsTo b) ∧ r.contains b = true := by
  constructor
  · rintro ⟨c, hc, hname, ⟨p, hp, hleads⟩, hcontains⟩
    exact ⟨⟨p, ⟨c, hc, hname, hp⟩, hleads⟩, hcontains⟩
  · rintro ⟨⟨p, ⟨c, hc, hname, hp⟩, hleads⟩, hcontains⟩
    exact ⟨c, hc, hname, ⟨p, hp, hleads⟩, hcontains⟩

theorem reachesProperty_iff {P : Property → Prop} :
    r.ReachesProperty root P ↔ ∃ t p, ReflTransGen r.LeadsTo root t ∧ r.Declares t p ∧ P p := by
  constructor
  · rintro ⟨c, hc, hreached, p, hp, hP⟩
    exact ⟨c.name, p, hreached, ⟨c, hc, rfl, hp⟩, hP⟩
  · rintro ⟨_, p, hreached, ⟨c, hc, rfl, hp⟩, hP⟩
    exact ⟨c, hc, hreached, p, hp, hP⟩

namespace SameDeclarations

theorem leadsTo_eq (h : r.SameDeclarations s) : r.LeadsTo = s.LeadsTo := by
  funext a b
  rw [eq_iff_iff, leadsTo_iff, leadsTo_iff, h.contains b]
  simp only [h.declares]

theorem reachesProperty_iff (h : r.SameDeclarations s) {P : Property → Prop} :
    r.ReachesProperty root P ↔ s.ReachesProperty root P := by
  rw [Registry.reachesProperty_iff, Registry.reachesProperty_iff, h.leadsTo_eq]
  simp only [h.declares]

theorem reachesLocalized_eq (h : r.SameDeclarations s) (hroot : r.contains root = true)
    (hshape : ¬ r.IllShapedFrom root) : s.reachesLocalized root = r.reachesLocalized root := by
  have hroot' : s.contains root = true := h.contains root ▸ hroot
  have hshape' : ¬ s.IllShapedFrom root := mt h.reachesProperty_iff.2 hshape
  obtain ⟨b, hb, hr⟩ := exists_reachesLocalized_eq_ok hroot hshape
  obtain ⟨b', hb', hs⟩ := exists_reachesLocalized_eq_ok hroot' hshape'
  have hbb' : b' = b := Bool.eq_iff_iff.2 (hs.trans (h.reachesProperty_iff.symm.trans hr.symm))
  rw [hb, hb', hbb']

end SameDeclarations

/-- The search finds a localized column exactly where one can be reached, or fails at a wrong type.
-/
theorem reachesLocalized_exact (h : r.contains root = true) :
    (∀ n s, Search.Run r root n s → n ≤ (r.components.flatMap (·.properties)).length) ∧
      (∃ n s, Search.Run r root n s ∧ s.Answers r (r.reachesLocalized root)) ∧
      (r.reachesLocalized root = .ok true → r.LocalizedFrom root) ∧
      (r.reachesLocalized root = .ok false → ¬ r.LocalizedFrom root ∧ ¬ r.IllShapedFrom root) ∧
      (∀ e, r.reachesLocalized root = .error e → r.IllShapedFrom root) ∧
      (¬ r.IllShapedFrom root →
        (∃ b, r.reachesLocalized root = .ok b ∧ (b = true ↔ r.LocalizedFrom root)) ∧
          ∀ s, r.SameDeclarations s → s.reachesLocalized root = r.reachesLocalized root) :=
  ⟨fun _ _ hrun => hrun.turns_le, exists_search_answers h, localizedFrom_of_reachesLocalized h,
    not_reachesProperty_of_reachesLocalized_eq_ok_false h,
    fun _ => illShapedFrom_of_reachesLocalized_eq_error h,
    fun hshape =>
      ⟨exists_reachesLocalized_eq_ok h hshape, fun _ hs => hs.reachesLocalized_eq h hshape⟩⟩

/-- Two components that are associated with each other; the second has a localized column. -/
def twoCycle : Registry where
  components :=
    [{ Component.ofName ⟨"Country", by decide⟩ with
        properties :=
          [{ Property.ofType "capital" (.component ⟨"City", by decide⟩) with
              association := some ⟨none⟩ }] },
      { Component.ofName ⟨"City", by decide⟩ with
        properties :=
          [{ Property.ofType "country" (.component ⟨"Country", by decide⟩) with
              association := some ⟨none⟩ },
            { Property.ofType "name" (.scalar .text) with
              localizedColumn := some (.ofName "NAME") }] }]
  nodup_names := by decide

theorem reachesLocalized_twoCycle :
    twoCycle.contains ⟨"Country", by decide⟩ = true ∧
      twoCycle.reachesLocalized ⟨"Country", by decide⟩ = .ok true := by
  have hroot : twoCycle.contains ⟨"Country", by decide⟩ = true := by decide
  have hshape : ¬ twoCycle.IllShapedFrom ⟨"Country", by decide⟩ := by
    have hnone : ∀ c ∈ twoCycle.components, ∀ p ∈ c.properties, p.collection = none := by decide
    rintro ⟨c, hc, -, p, hp, -, collection, hcollection, -⟩
    rw [hnone c hc p hp] at hcollection
    cases hcollection
  have hlocalized : twoCycle.LocalizedFrom ⟨"Country", by decide⟩ := by
    refine ⟨twoCycle.components[1], List.getElem_mem _, .single ?_, _, .tail _ (.head _), rfl⟩
    exact ⟨_, List.mem_cons_self .., rfl, ⟨_, List.mem_cons_self .., .type rfl rfl⟩, by decide⟩
  obtain ⟨-, -, -, -, -, hanswer⟩ := reachesLocalized_exact hroot
  obtain ⟨b, hb, hiff⟩ := (hanswer hshape).1
  rw [hb, hiff.2 hlocalized]
  exact ⟨hroot, rfl⟩

end KeyedSql.Registry

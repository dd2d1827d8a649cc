import KeyedSql.Proofs.Links.Relation

/-!
# The list of direct links

`linksOf` gives the cache links of a component as they are declared, and behind them the registered
components that its properties lead to and that are no cache links, in the order in which they are
mentioned first. The test for repetitions is made where a property's target is appended only: a
cache link that is declared twice is listed twice.
-/

namespace KeyedSql

open Outcome

/-- A property of the component leads to `a`, and neither this one nor one before it leads to
`b`. -/
def Component.MentionsBefore (c : Component) (a b : ComponentType) : Prop :=
  ∃ before p after, c.properties = before ++ p :: after ∧ p.LeadsTo a ∧
    ∀ q ∈ p :: before, ¬ q.LeadsTo b

theorem Component.MentionsBefore.ne {c : Component} {a b : ComponentType}
    (h : c.MentionsBefore a b) : a ≠ b := by
  rintro rfl
  obtain ⟨before, p, after, -, hp, hnone⟩ := h
  exact hnone p (List.mem_cons_self ..) hp

namespace Registry

variable {r : Registry} {c : Component}

/-! ## Appending what is new -/

theorem appendNew_cons_of_mem {links targets : List ComponentType} {target : ComponentType}
    (h : target ∈ links) : appendNew links (target :: targets) = appendNew links targets := by
  rw [appendNew, List.foldl_cons, if_pos h, appendNew]

theorem appendNew_cons_of_notMem {links targets : List ComponentType} {target : ComponentType}
    (h : target ∉ links) :
    appendNew links (target :: targets) = appendNew (links ++ [target]) targets := by
  rw [appendNew, List.foldl_cons, if_neg h, appendNew]

/-- One of the items leads to `a`, and neither this one nor one before it leads to `b`. -/
def LeadsFirst {α : Type} (target? : α → Option ComponentType) (xs : List α)
    (a b : ComponentType) : Prop :=
  ∃ before x after, xs = before ++ x :: after ∧ target? x = some a ∧
    ∀ y ∈ x :: before, target? y ≠ some b

theorem LeadsFirst.cons {α : Type} {target? : α → Option ComponentType} {x : α} {xs : List α}
    {a b : ComponentType} (h : LeadsFirst target? xs a b) (hx : target? x ≠ some b) :
    LeadsFirst target? (x :: xs) a b := by
  obtain ⟨before, y, after, rfl, hy, hnone⟩ := h
  obtain ⟨hself, hbefore⟩ := List.forall_mem_cons.1 hnone
  refine ⟨x :: before, y, after, rfl, hy, ?_⟩
  simp only [List.forall_mem_cons]
  exact ⟨hself, hx, hbefore⟩

/-- The types that a list of items adds to the links: those that are new, each once, in the order of
the first items that lead to them. -/
structure Adds {α : Type} (target? : α → Option ComponentType) (links : List ComponentType)
    (xs : List α) (new : List ComponentType) : Prop where
  mem_iff : ∀ t, t ∈ new ↔ t ∉ links ∧ ∃ x ∈ xs, target? x = some t
  ordered : new.Pairwise (LeadsFirst target? xs)

namespace Adds

variable {α : Type} {target? : α → Option ComponentType} {links new : List ComponentType} {x : α}
  {xs : List α}

/-- An item that leads to nothing new adds nothing. -/
theorem skip (h : Adds target? links xs new) (hold : ∀ t, target? x = some t → t ∈ links) :
    Adds target? links (x :: xs) new := by
  refine ⟨fun t => ?_, h.ordered.imp_of_mem fun _ hb hfirst => hfirst.cons fun hx => ?_⟩
  · rw [h.mem_iff t, List.exists_mem_cons_iff]
    exact and_congr_right fun ht => (or_iff_right fun hx => ht (hold t hx)).symm
  · exact ((h.mem_iff _).1 hb).1 (hold _ hx)

/-- An item that leads to a new type adds it in front of what the others add. -/
theorem cons {target : ComponentType} (h : Adds target? (links ++ [target]) xs new)
    (hx : target? x = some target) (hold : target ∉ links) :
    Adds target? links (x :: xs) (target :: new) := by
  have hne : ∀ t ∈ new, target? x ≠ some t := by
    intro t ht heq
    rw [hx, Option.some.injEq] at heq
    exact ((h.mem_iff t).1 ht).1 (List.mem_append_right _ (List.mem_singleton.2 heq.symm))
  refine ⟨fun t => ?_, List.pairwise_cons.2 ⟨fun b hb => ?_, ?_⟩⟩
  · rw [List.mem_cons, h.mem_iff t, List.exists_mem_cons_iff, hx, Option.some.injEq]
    by_cases ht : t = target
    · simp [ht, hold]
    · simp [ht, Ne.symm ht]
  · exact ⟨[], x, xs, rfl, hx, List.forall_mem_singleton.2 (hne b hb)⟩
  · exact h.ordered.imp_of_mem fun _ hb hfirst => hfirst.cons (hne _ hb)

end Adds

theorem exists_appendNew_eq {α : Type} (target? : α → Option ComponentType)
    (links : List ComponentType) (xs : List α) :
    ∃ new, appendNew links (xs.filterMap target?) = links ++ new ∧ Adds target? links xs new := by
  induction xs generalizing links with
  | nil => exact ⟨[], (List.append_nil _).symm, by simp, .nil⟩
  | cons x xs ih =>
    cases hx : target? x with
    | none =>
      obtain ⟨new, hnew, hadds⟩ := ih links
      refine ⟨new, ?_, hadds.skip (by simp [hx])⟩
      rw [List.filterMap_cons_none hx, hnew]
    | some target =>
      rw [List.filterMap_cons_some hx]
      by_cases hold : target ∈ links
      · obtain ⟨new, hnew, hadds⟩ := ih links
        refine ⟨new, ?_, hadds.skip (by simpa [hx] using hold)⟩
        rw [appendNew_cons_of_mem hold, hnew]
      · obtain ⟨new, hnew, hadds⟩ := ih (links ++ [target])
        refine ⟨target :: new, ?_, hadds.cons hx hold⟩
        rw [appendNew_cons_of_notMem hold, hnew, List.append_assoc, List.singleton_append]

/-! ## The links of a component -/

/-- The registered component that a property leads to; a collection of a wrong type leads to
none. -/
def linkTarget? (r : Registry) (owner : ComponentType) (p : Property) : Option ComponentType :=
  (r.linkTarget owner p).toOption.join

theorem linkTarget?_eq_some_iff {owner t : ComponentType} {p : Property} :
    r.linkTarget? owner p = some t ↔ p.LeadsTo t ∧ r.contains t = true := by
  rw [← linkTarget_eq_ok_some_iff, linkTarget?, Option.join_eq_some_iff]
  cases r.linkTarget owner p <;> simp [Except.toOption]

theorem linkTargets_eq_ok {targets : List ComponentType} (h : r.linkTargets c = .ok targets) :
    targets = c.properties.filterMap (r.linkTarget? c.name) := by
  obtain ⟨found, hfound, rfl⟩ := map_eq_ok_iff.1 h
  have hmap : found.map id = c.properties.map (r.linkTarget? c.name) := by
    refine map_eq_map_of_mapM_eq_ok (fun p target hp => ?_) hfound
    rw [linkTarget?, hp]
    rfl
  rw [List.map_id] at hmap
  rw [hmap, List.filterMap_map]
  rfl

theorem linksOf_eq_ok {targets : List ComponentType} (hc : c ∈ r.components)
    (h : r.linkTargets c = .ok targets) :
    r.linksOf c.name = .ok (appendNew c.cacheLinks targets) := by
  have hcomponent : r.component c.name = .ok c :=
    component_eq_ok_iff.2 (find?_eq_some_iff.2 ⟨hc, rfl⟩)
  exact bind_eq_ok_iff.2 ⟨c, hcomponent, bind_eq_ok_iff.2 ⟨targets, h, rfl⟩⟩

theorem mentionsBefore_of_leadsFirst {a b : ComponentType} (hb : r.contains b = true)
    (h : LeadsFirst (r.linkTarget? c.name) c.properties a b) : c.MentionsBefore a b := by
  obtain ⟨before, p, after, hproperties, hp, hnone⟩ := h
  refine ⟨before, p, after, hproperties, (linkTarget?_eq_some_iff.1 hp).1, fun q hq hleads => ?_⟩
  exact hnone q hq (linkTarget?_eq_some_iff.2 ⟨hleads, hb⟩)

/-- The links of a component are its cache links as declared, then what its properties lead to
besides. -/
theorem linksOf_exact (hc : c ∈ r.components) (hshape : c.WellShaped) :
    ∃ targets, r.linksOf c.name = .ok (c.cacheLinks ++ targets) ∧
      (∀ t, t ∈ targets ↔ t ∉ c.cacheLinks ∧ (∃ p ∈ c.properties, p.LeadsTo t) ∧
        r.contains t = true) ∧
      targets.Pairwise c.MentionsBefore ∧ targets.Nodup ∧
      ((c.cacheLinks ++ targets).Nodup ↔ c.cacheLinks.Nodup) := by
  obtain ⟨found, hfound⟩ := exists_linkTargets_eq_ok_iff.2 hshape
  obtain ⟨targets, happend, hadds⟩ :=
    exists_appendNew_eq (r.linkTarget? c.name) c.cacheLinks c.properties
  have hlinks : r.linksOf c.name = .ok (c.cacheLinks ++ targets) := by
    rw [linksOf_eq_ok hc hfound, linkTargets_eq_ok hfound, happend]
  have hmem : ∀ t, t ∈ targets ↔ t ∉ c.cacheLinks ∧ (∃ p ∈ c.properties, p.LeadsTo t) ∧
      r.contains t = true := by
    intro t
    simp only [hadds.mem_iff, linkTarget?_eq_some_iff]
    tauto
  have horder : targets.Pairwise c.MentionsBefore := hadds.ordered.imp_of_mem fun _ hb hfirst =>
    mentionsBefore_of_leadsFirst ((hmem _).1 hb).2.2 hfirst
  have hnodup : targets.Nodup := horder.imp fun h => h.ne
  refine ⟨targets, hlinks, hmem, horder, hnodup, ?_⟩
  constructor
  · intro h
    exact (List.nodup_append.1 h).1
  · intro hcache
    refine List.nodup_append.2 ⟨hcache, hnodup, ?_⟩
    rintro t ht _ htargets rfl
    exact ((hmem t).1 htargets).1 ht

end Registry

/-! ## Links of ferries -/

/-- A ferry whose properties lead to ports twice, to a cache link, to itself and to an unregistered
component. -/
def Component.ferry : Component where
  name := ⟨"a.Ferry", by decide⟩
  table := some "FERRY"
  cacheLinks := [⟨"a.Weather", by decide⟩, ⟨"a.Company", by decide⟩]
  properties := [
    { Property.ofType "home" (.component ⟨"a.Port", by decide⟩) with association := some ⟨none⟩ },
    { Property.ofType "owner" (.component ⟨"a.Company", by decide⟩) with
      association := some ⟨none⟩ },
    { Property.ofType "skipper" (.component ⟨"a.Skipper", by decide⟩) with
      association := some ⟨none⟩ },
    { Property.ofType "sisters" (.collection .list (.component ⟨"a.Ferry", by decide⟩)) with
      collection := some ⟨none, none⟩ },
    { Property.ofType "calls" (.collection .list (.scalar .text)) with
      collection := some ⟨some ⟨"a.Port", by decide⟩, none⟩ }]

/-- A tug that declares its cache link twice. -/
def Component.tug : Component where
  name := ⟨"a.Tug", by decide⟩
  table := some "TUG"
  cacheLinks := [⟨"a.Port", by decide⟩, ⟨"a.Port", by decide⟩]
  properties := []

namespace Registry

/-- Ferries, tugs, ports and companies. -/
def harbour : Registry :=
  ⟨[.ferry, .tug, .ofName ⟨"a.Port", by decide⟩, .ofName ⟨"a.Company", by decide⟩], by decide⟩

theorem linksOf_exact_harbour :
    Component.ferry ∈ harbour.components ∧ Component.ferry.WellShaped ∧
      harbour.linksOf ⟨"a.Ferry", by decide⟩ =
        .ok [⟨"a.Weather", by decide⟩, ⟨"a.Company", by decide⟩, ⟨"a.Port", by decide⟩,
          ⟨"a.Ferry", by decide⟩] ∧
      Component.ferry.MentionsBefore ⟨"a.Port", by decide⟩ ⟨"a.Ferry", by decide⟩ := by
  have hferry : Component.ferry ∈ harbour.components := List.mem_cons_self ..
  have hshape : Component.ferry.WellShaped := by
    have htargets : ∃ targets, harbour.linkTargets .ferry = .ok targets := ⟨_, rfl⟩
    exact exists_linkTargets_eq_ok_iff.1 htargets
  have hlinks : harbour.linksOf ⟨"a.Ferry", by decide⟩ =
      .ok [⟨"a.Weather", by decide⟩, ⟨"a.Company", by decide⟩, ⟨"a.Port", by decide⟩,
        ⟨"a.Ferry", by decide⟩] := by
    decide +kernel
  refine ⟨hferry, hshape, hlinks, ?_⟩
  obtain ⟨targets, hexact, -, horder, -⟩ := linksOf_exact hferry hshape
  have happend : Component.ferry.cacheLinks ++ [⟨"a.Port", by decide⟩, ⟨"a.Ferry", by decide⟩] =
      Component.ferry.cacheLinks ++ targets :=
    Except.ok.inj (hlinks.symm.trans hexact)
  rw [← List.append_cancel_left happend] at horder
  exact List.pairwise_pair.1 horder

/-- The port, twice a cache link of the tug, is twice a direct link of it. -/
theorem not_nodup_linksOf_harbour :
    Component.tug ∈ harbour.components ∧ Component.tug.WellShaped ∧
      ∃ links, harbour.linksOf ⟨"a.Tug", by decide⟩ = .ok links ∧ ¬ links.Nodup :=
  ⟨List.mem_cons_of_mem _ (List.mem_cons_self ..), List.forall_mem_nil _,
    [⟨"a.Port", by decide⟩, ⟨"a.Port", by decide⟩], by decide +kernel, by decide⟩

end Registry

end KeyedSql

import KeyedSql.Proofs.Links.Closure
import KeyedSql.Proofs.Links.Localized

/-!
# The two walks side by side

The link closure follows cache links and properties, the search for localized columns follows
properties only. So the search meets nothing but the root and components of the closure: where there
is a closure, the search finds no collection of a wrong type, and a localized column that it finds
belongs to one of these components. Without cache links the two walks come to the same components.
-/

namespace KeyedSql.Registry

open Relation Outcome

variable {r : Registry} {root t : ComponentType} {types : List ComponentType}

/-- A component of one of the types declares a localized column. -/
def LocalizedAmong (r : Registry) (types : List ComponentType) : Prop :=
  ∃ c ∈ r.components, c.name ∈ types ∧ c.hasLocalizedColumn = true

/-- No component of the types declares a cache link. -/
def NoCacheLinksAmong (r : Registry) (types : List ComponentType) : Prop :=
  ∀ c ∈ r.components, c.name ∈ types → c.cacheLinks = []

theorem reflTransGen_linksTo (h : ReflTransGen r.LeadsTo root t) : ReflTransGen r.LinksTo root t :=
  ReflTransGen.mono (fun _ _ => Or.inr) _ _ h

theorem localizedFrom_iff :
    r.LocalizedFrom root ↔ ∃ c ∈ r.components, ReflTransGen r.LeadsTo root c.name ∧
      c.hasLocalizedColumn = true := by
  simp only [LocalizedFrom, ReachesProperty, Component.hasLocalizedColumn, List.any_eq_true]

/-- Where all links can be followed, no property leads to a collection of a wrong type. -/
theorem Followable.not_illShapedFrom (h : r.Followable root) : ¬ r.IllShapedFrom root := by
  rintro ⟨c, hc, hleads, p, hp, hill⟩
  exact h.wellShaped c hc (reflTransGen_linksTo hleads) p hp hill

/-- The root and its closure are what any number of links lead to. -/
theorem mem_root_cons_iff_of_reachable (h : r.reachable root = .ok types) :
    t ∈ root :: types ↔ ReflTransGen r.LinksTo root t := by
  rw [List.mem_cons, (reachable_eq_ok_iff.1 h).2.2 t, reflTransGen_iff_eq_or_transGen]
  by_cases ht : t = root <;> simp [ht]

/-- Where there are no cache links, properties lead to all that links lead to. -/
theorem reflTransGen_leadsTo_of_linksTo (h : r.reachable root = .ok types)
    (hnone : r.NoCacheLinksAmong (root :: types)) (ht : ReflTransGen r.LinksTo root t) :
    ReflTransGen r.LeadsTo root t := by
  induction ht with
  | refl => exact .refl
  | @tail a b hlinks hlink ih =>
    rcases hlink with ⟨c, hc, rfl, hcache⟩ | hleads
    · have hmem := (mem_root_cons_iff_of_reachable h).2 hlinks
      rw [hnone c hc hmem] at hcache
      cases hcache
    · exact ih.tail hleads

theorem localizedAmong_of_localizedFrom (h : r.reachable root = .ok types)
    (hlocalized : r.LocalizedFrom root) : r.LocalizedAmong (root :: types) := by
  obtain ⟨c, hc, hleads, hcolumn⟩ := localizedFrom_iff.1 hlocalized
  exact ⟨c, hc, (mem_root_cons_iff_of_reachable h).2 (reflTransGen_linksTo hleads), hcolumn⟩

theorem localizedFrom_of_localizedAmong (h : r.reachable root = .ok types)
    (hnone : r.NoCacheLinksAmong (root :: types)) (hlocalized : r.LocalizedAmong (root :: types)) :
    r.LocalizedFrom root := by
  obtain ⟨c, hc, hmem, hcolumn⟩ := hlocalized
  have hlinks := (mem_root_cons_iff_of_reachable h).1 hmem
  exact localizedFrom_iff.2 ⟨c, hc, reflTransGen_leadsTo_of_linksTo h hnone hlinks, hcolumn⟩

/-- Where there is a closure, the search has an answer, and this is right. -/
theorem exists_reachesLocalized_of_reachable (h : r.reachable root = .ok types) :
    ∃ localized, r.reachesLocalized root = .ok localized ∧
      (localized = true ↔ r.LocalizedFrom root) := by
  have hfollowable := (reachable_eq_ok_iff.1 h).1
  exact exists_reachesLocalized_eq_ok hfollowable.contains_root hfollowable.not_illShapedFrom

/-- The answer of the search in terms of the closure. -/
theorem reachesLocalized_of_reachable (h : r.reachable root = .ok types) :
    ∃ localized, r.reachesLocalized root = .ok localized ∧
      (localized = true → r.LocalizedAmong (root :: types)) ∧
      (r.NoCacheLinksAmong (root :: types) →
        (localized = true ↔ r.LocalizedAmong (root :: types))) := by
  obtain ⟨localized, hanswer, hiff⟩ := exists_reachesLocalized_of_reachable h
  have hamong : localized = true → r.LocalizedAmong (root :: types) :=
    fun htrue => localizedAmong_of_localizedFrom h (hiff.1 htrue)
  exact ⟨localized, hanswer, hamong, fun hnone =>
    ⟨hamong, fun hlocalized => hiff.2 (localizedFrom_of_localizedAmong h hnone hlocalized)⟩⟩

end KeyedSql.Registry

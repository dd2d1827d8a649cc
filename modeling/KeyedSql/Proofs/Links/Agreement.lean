import KeyedSql.Links.Localized
import KeyedSql.Proofs.Links.Closure
import KeyedSql.Proofs.Schema.Agreement

/-!
# Links in registries that agree

Two walks over registries that agree on `P`, side by side. What has not been reached, or not been
met, is not the same in both: the larger registry has types that the smaller one lacks. It is the
same as far as a walk from a type in `P` can ask, and each turn keeps it so.
-/

namespace KeyedSql.Registry.AgreeOn

open Outcome

variable {P : ComponentType → Prop} {r s : Registry} {type : ComponentType}

/-! ## Direct links -/

theorem linkTarget_eq (h : AgreeOn P r s) {owner : ComponentType} {p : Property}
    (hp : ∀ t ∈ p.mentions, P t) : s.linkTarget owner p = r.linkTarget owner p := by
  unfold linkTarget
  cases htarget : propertyTarget owner p with
  | error e => rfl
  | ok target =>
    cases target with
    | none => rfl
    | some t =>
      have hmentioned := (propertyTarget_eq_ok_some_iff.1 htarget).mem_mentions
      simp only [Except.map, Option.filter_some, h.contains_eq (hp t hmentioned)]

theorem linkTargets_eq (h : AgreeOn P r s) {c : Component} (hc : c ∈ r.components)
    (hname : P c.name) : s.linkTargets c = r.linkTargets c := by
  unfold linkTargets
  rw [mapM_congr fun p hp => h.linkTarget_eq (h.mentions_subset hc hname hp)]

theorem linksOf_eq (h : AgreeOn P r s) (htype : P type) : s.linksOf type = r.linksOf type := by
  unfold linksOf
  refine h.component_bind_congr htype fun c hc hname => ?_
  rw [h.linkTargets_eq hc hname]

/-- Links from a type in `P` stay in `P`. -/
theorem of_linksTo (h : AgreeOn P r s) {t : ComponentType} (htype : P type)
    (hlink : r.LinksTo type t) : P t := by
  rcases hlink with ⟨c, hc, rfl, hcache⟩ | ⟨c, hc, rfl, ⟨p, hp, hleads⟩, -⟩
  · exact h.closed c hc htype t (List.mem_append_left _ hcache)
  · exact h.mentions_subset hc htype hp t hleads.mem_mentions

theorem linksTo (h : AgreeOn P r s) {t : ComponentType} (htype : P type)
    (hlink : r.LinksTo type t) : s.LinksTo type t := by
  have ht := h.of_linksTo htype hlink
  rcases hlink with ⟨c, hc, rfl, hcache⟩ | ⟨c, hc, rfl, hleads, hcontains⟩
  · exact .inl ⟨c, h.mem_components hc htype, rfl, hcache⟩
  · exact .inr ⟨c, h.mem_components hc htype, rfl, hleads, (h.contains_eq ht).trans hcontains⟩

/-! ## The link closure -/

/-- Which links are new is a question about the links alone. -/
theorem reachNew_fst_congr {links u v : List ComponentType} (h : ∀ t ∈ links, t ∈ u ↔ t ∈ v) :
    (reachNew u links).1 = (reachNew v links).1 := by
  induction links generalizing u v with
  | nil => rfl
  | cons link links ih =>
    obtain ⟨hlink, hlinks⟩ := List.forall_mem_cons.1 h
    unfold reachNew
    by_cases hmem : link ∈ u
    · have hrest : ∀ t ∈ links, t ∈ u.filter (· ≠ link) ↔ t ∈ v.filter (· ≠ link) := by
        intro t ht
        rw [List.mem_filter, List.mem_filter, hlinks t ht]
      rw [if_pos hmem, if_pos (hlink.1 hmem)]
      exact congrArg (link :: ·) (ih hrest)
    · rw [if_neg hmem, if_neg (mt hlink.2 hmem), ih hlinks]

theorem followLinks_eq (h : AgreeOn P r s) {u v reached stack : List ComponentType}
    (hstack : ∀ t ∈ stack, P t) (hsame : ∀ a, P a → ∀ t, r.LinksTo a t → (t ∈ u ↔ t ∈ v)) :
    s.followLinks v reached stack = r.followLinks u reached stack := by
  -- A turn looks only at what the type on top of the stack links to, and takes those types off both
  -- lists, so that the lists go on agreeing about all links from `P`.
  fun_induction followLinks r u reached stack generalizing v with
  | case1 u reached => rw [followLinks]
  | case2 u reached current stack e herror =>
    obtain ⟨hcurrent, -⟩ := List.forall_mem_cons.1 hstack
    rw [followLinks, h.linksOf_eq hcurrent, herror]
  | case3 u reached current stack links hlinks next =>
    rename_i ih
    obtain ⟨hcurrent, hstack⟩ := List.forall_mem_cons.1 hstack
    have hlinked : ∀ t ∈ links, r.LinksTo current t := fun t ht => (mem_linksOf_iff hlinks).1 ht
    have hnew : (reachNew v links).1 = next.1 :=
      (reachNew_fst_congr fun t ht => hsame current hcurrent t (hlinked t ht)).symm
    rw [followLinks, h.linksOf_eq hcurrent, hlinks]
    simp only [hnew]
    refine ih (List.forall_mem_append.2 ⟨fun t ht => ?_, hstack⟩) fun a ha t hlink => ?_
    · have ht := (mem_reachNew_fst_iff.1 (List.mem_reverse.1 ht)).1
      exact h.of_linksTo hcurrent (hlinked t ht)
    · rw [mem_reachNew_snd_iff, mem_reachNew_snd_iff, hsame a ha t hlink]

theorem reachable_eq (h : AgreeOn P r s) (htype : P type) :
    s.reachable type = r.reachable type := by
  unfold reachable
  rw [h.followLinks_eq (List.forall_mem_singleton.2 htype) fun a ha t hlink => ?_]
  rw [List.mem_filter, List.mem_filter, iff_true_intro (mem_linkable_of_linksTo hlink),
    iff_true_intro (mem_linkable_of_linksTo (h.linksTo ha hlink))]

/-! ## Localized columns -/

theorem find?_othersThan (type : ComponentType) (cs : List Component) (t : ComponentType) :
    (othersThan type cs).find? (·.name == t) =
      if t = type then none else cs.find? (·.name == t) := by
  unfold othersThan
  rw [List.find?_filter]
  split_ifs with ht
  · rw [List.find?_eq_none]
    intro c _
    simp [ht]
  · congr 1
    funext c
    by_cases hc : c.name = t <;> simp [hc, ht]

theorem searchLocalized_eq (h : AgreeOn P r s) {u v : List Component}
    {pending : List PendingProperty} (hu : u ⊆ r.components)
    (hpending : ∀ next ∈ pending, ∀ t ∈ next.property.mentions, P t)
    (hsame : ∀ t, P t → v.find? (·.name == t) = u.find? (·.name == t)) :
    s.searchLocalized v pending = r.searchLocalized u pending := by
  -- A target has either been met in both searches or in none, and then it is one component.
  fun_induction searchLocalized r u pending generalizing v with
  | case1 u => rw [searchLocalized]
  | case2 u next pending hlocalized => rw [searchLocalized, if_pos hlocalized]
  | case3 u next pending hlocalized e herror =>
    obtain ⟨hnext, -⟩ := List.forall_mem_cons.1 hpending
    rw [searchLocalized, if_neg hlocalized, h.linkTarget_eq hnext, herror]
  | case4 u next pending hlocalized hnone ih =>
    obtain ⟨hnext, hpending⟩ := List.forall_mem_cons.1 hpending
    rw [searchLocalized, if_neg hlocalized, h.linkTarget_eq hnext, hnone]
    exact ih hu hpending hsame
  | case5 u next pending hlocalized target htarget hmet ih =>
    obtain ⟨hnext, hpending⟩ := List.forall_mem_cons.1 hpending
    have hP : P target := hnext target (linkTarget_eq_ok_some_iff.1 htarget).1.mem_mentions
    have hmet' : v.find? (·.name == target) = none := (hsame target hP).trans hmet
    rw [searchLocalized, if_neg hlocalized, h.linkTarget_eq hnext, htarget]
    dsimp only
    split
    · exact ih hu hpending hsame
    · rename_i c hc
      cases hmet'.symm.trans hc
  | case6 u next pending hlocalized target htarget c hc ih =>
    obtain ⟨hnext, hpending⟩ := List.forall_mem_cons.1 hpending
    have hP : P target := hnext target (linkTarget_eq_ok_some_iff.1 htarget).1.mem_mentions
    have hc' : v.find? (·.name == target) = some c := (hsame target hP).trans hc
    have hmem : c ∈ r.components := hu (List.mem_of_find?_eq_some hc)
    have hname : c.name = target := by simpa using List.find?_some hc
    rw [searchLocalized, if_neg hlocalized, h.linkTarget_eq hnext, htarget]
    dsimp only
    split
    · rename_i hnone
      cases hc'.symm.trans hnone
    · rename_i d hd
      obtain rfl := Option.some.inj (hc'.symm.trans hd)
      refine ih (fun d hd => hu (List.mem_of_mem_filter hd)) ?_ fun t ht => ?_
      · refine List.forall_mem_append.2 ⟨fun next hmem' => ?_, hpending⟩
        obtain ⟨p, hp, rfl⟩ := List.mem_map.1 hmem'
        exact h.mentions_subset hmem (hname ▸ hP) hp
      · rw [find?_othersThan, find?_othersThan, hsame t ht]

theorem reachesLocalized_eq (h : AgreeOn P r s) (htype : P type) :
    s.reachesLocalized type = r.reachesLocalized type := by
  unfold reachesLocalized
  refine h.component_bind_congr htype fun c hc hname => ?_
  refine h.searchLocalized_eq (fun _ => List.mem_of_mem_filter) (fun next hnext => ?_)
    fun t ht => ?_
  · obtain ⟨p, hp, rfl⟩ := List.mem_map.1 hnext
    exact h.mentions_subset hc hname hp
  · rw [find?_othersThan, find?_othersThan]
    exact congrArg (ite (t = type) none) (h.find?_eq t ht)

end KeyedSql.Registry.AgreeOn

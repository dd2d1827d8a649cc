import Mathlib.Data.List.Permutation
import KeyedSql.Proofs.Key.Faults
import KeyedSql.Proofs.Key.RoundTrip

/-!
# Parameters in another order

A key gives each of its parameters once, in the order of its operation. The same parameters in any
other order are refused, and the error says that one of them is out of order: a required parameter
is missed as soon as another one stands in its place, and an optional one when it is left over. The
values are the same as before, so nothing else can be wrong with the key and be reported first.

`QueryReader.Misplaces` is a rule for a reader and what it should find: the values that are read and
the readers for the rest follow the parameters one by one.
-/

namespace KeyedSql

open Outcome
open scoped List

/-! ## The order of a request -/

theorem OrderEntry.names_params_append_flag_sublist (order : List OrderEntry) (set : Bool) :
    KeyParam.names (params order ++ KeyParam.flag Parameter.ignoreCancel set) <+
      [Parameter.orderBy, Parameter.ignoreCancel] := by
  have horder : KeyParam.names (params order) <+ [Parameter.orderBy] := by
    unfold params
    split_ifs
    · exact List.nil_sublist _
    · exact List.Sublist.refl _
  have hset : KeyParam.names (KeyParam.flag Parameter.ignoreCancel set) <+
      [Parameter.ignoreCancel] := by
    cases set with
    | false => exact List.nil_sublist _
    | true => exact List.Sublist.refl _
  rw [KeyParam.names, List.map_append]
  exact horder.append hset

namespace Request

/-- The parameters of a request are some of those of its operation, in their order. -/
theorem names_params_sublist (request : Request) :
    KeyParam.names request.params <+ request.operation.parameters := by
  cases request with
  | findEntityById | insert | delete | deleteEntityById => exact List.nil_sublist _
  | findComponentsBy properties order set =>
    exact (OrderEntry.names_params_append_flag_sublist order set).cons_cons _
  | findComponentsByJoinTable search order set =>
    exact ((((OrderEntry.names_params_append_flag_sublist order set).cons_cons _).cons_cons
      _).cons_cons _).cons_cons _
  | update nls =>
    cases nls with
    | none => exact List.nil_sublist _
    | some names => exact List.Sublist.refl _
  | deleteComponentsBy | findNlsColumn => exact List.Sublist.refl _

theorem nodup_names_params (request : Request) : (KeyParam.names request.params).Nodup :=
  request.names_params_sublist.nodup request.operation.nodup_parameters

end Request

/-! ## Readers that miss a parameter -/

namespace QueryReader

open QueryCursor

variable {α β : Type} {params rest : List KeyParam}

/-- Where just these parameters are left, none of them taken before and all in another order, the
reader refuses one of them for its order. -/
def Misplaces (r : QueryReader α) (params : List KeyParam) : Prop :=
  ∀ c : QueryCursor, c.left ~ params → c.left ≠ params →
    (∀ name ∈ KeyParam.names params, name ∉ c.taken) →
      ∃ name ∈ KeyParam.names params, r.run c = .error (.parameterOutOfOrder name)

namespace Misplaces

/-- One parameter has no other order. -/
theorem of_length_le_one (r : QueryReader α) (h : params.length ≤ 1) : Misplaces r params := by
  intro c hperm hne
  match params, h with
  | [], _ => exact absurd (List.perm_nil.1 hperm) hne
  | [_], _ => exact absurd (List.perm_singleton.1 hperm) hne

theorem lift {x : Except GrammarError α} {f : α → QueryReader β} {a : α} (hx : x = .ok a)
    (hf : Misplaces (f a) params) : Misplaces (liftM x >>= f) params := by
  subst hx
  exact hf

/-- A parameter that must be given is taken, or it is not the next one. -/
theorem value {f : String → QueryReader β} {name v : String}
    (hnodup : (KeyParam.names (⟨name, some v⟩ :: rest)).Nodup) (hf : Misplaces (f v) rest) :
    Misplaces (value name >>= f) (⟨name, some v⟩ :: rest) := by
  intro c hperm hne hnew
  have hgiven : ∀ {given m}, c.Takes [⟨name, given⟩] m → given = some v := by
    intro given m htakes
    have hmem : ⟨name, given⟩ ∈ c.left := htakes.left_eq ▸ List.mem_cons_self ..
    have hsame := List.inj_on_of_nodup_map hnodup (hperm.mem_iff.1 hmem) (List.mem_cons_self ..) rfl
    exact congrArg KeyParam.value hsame
  rcases run_value_cases name c with ⟨w, m, htakes, hrun⟩ | ⟨m, htakes, -⟩ | ⟨-, hrun⟩
  · obtain rfl : w = v := Option.some.inj (hgiven htakes)
    have hleft : c.left = ⟨name, some w⟩ :: m.left := htakes.left_eq
    have htaken : m.taken = name :: c.taken := htakes.taken_eq
    rw [hleft] at hperm hne
    obtain ⟨hname, -⟩ := List.nodup_cons.1 hnodup
    have hnew' : ∀ other ∈ KeyParam.names rest, other ∉ m.taken := by
      intro other hother
      rw [htaken, List.mem_cons, not_or]
      exact ⟨fun h => hname (h ▸ hother), hnew other (List.mem_cons_of_mem _ hother)⟩
    obtain ⟨other, hother, herror⟩ :=
      hf m ((List.perm_cons _).1 hperm) (fun h => hne (h ▸ rfl)) hnew'
    exact ⟨other, List.mem_cons_of_mem _ hother, (run_bind_of_ok hrun).trans herror⟩
  · cases hgiven htakes
  · have hname : name ∈ KeyParam.names c.left :=
      (hperm.map (·.name)).mem_iff.2 (List.mem_cons_self ..)
    rw [if_pos hname] at hrun
    exact ⟨name, List.mem_cons_self .., run_bind_of_error hrun⟩

theorem paths {f : List PropertyPath → QueryReader β} {name : String} {ps : List PropertyPath}
    (hnodup : (KeyParam.names (⟨name, some (PropertyPath.listText ps)⟩ :: rest)).Nodup)
    (hps : ps ≠ [] ∧ ps.Nodup) (hf : Misplaces (f ps) rest) :
    Misplaces (paths name >>= f) (⟨name, some (PropertyPath.listText ps)⟩ :: rest) := by
  rw [QueryReader.paths, bind_assoc]
  exact value hnodup (lift (PropertyPath.parseList_eq_ok_iff.2 ⟨rfl, hps⟩) hf)

/-- Behind the flag, the sort order is left over. -/
theorem orderBy_flag {op : Operation} (hop : Parameter.orderBy ∈ op.parameters)
    (order : List OrderEntry) (set : Bool) :
    Misplaces (do let _ ← orderBy; let _ ← flag Parameter.ignoreCancel; expectEnd op)
      (OrderEntry.params order ++ KeyParam.flag Parameter.ignoreCancel set) := by
  by_cases hne : order = []
  · subst hne
    exact of_length_le_one _ (by cases set <;> decide)
  rw [OrderEntry.params_of_ne_nil hne]
  cases set with
  | false => exact of_length_le_one _ (Nat.le_refl 1)
  | true =>
    intro c hperm hne hnew
    have hleft : c.left = [⟨Parameter.ignoreCancel, none⟩, ⟨Parameter.orderBy, _⟩] :=
      (List.perm_pair.1 hperm).resolve_left hne
    have horder : orderBy.run c = .ok ([], c) := by
      refine run_orderBy_eq_ok_iff.2 ⟨takes_nil_iff.2 rfl, List.nodup_nil, fun _ => ?_⟩
      rintro ⟨param, hparam, hname⟩
      rw [hleft] at hparam
      cases hparam
      exact absurd hname (by decide)
    have hflag : (flag Parameter.ignoreCancel).run c =
        .ok (true, ⟨Parameter.ignoreCancel :: c.taken, [⟨Parameter.orderBy, _⟩]⟩) :=
      run_flag_eq_ok_iff.2 ⟨⟨hleft, rfl⟩, nofun⟩
    have hname : Parameter.orderBy ∉ Parameter.ignoreCancel :: c.taken :=
      List.not_mem_cons_of_ne_of_not_mem (by decide) (hnew _ (List.mem_cons_self ..))
    refine ⟨Parameter.orderBy, List.mem_cons_self .., ?_⟩
    rw [run_bind_of_ok horder, run_bind_of_ok hflag]
    exact (if_neg hname).trans (if_pos hop)

end Misplaces

end QueryReader

open QueryReader

namespace Request

theorem misplaces_reader {request : Request} (hwf : request.WellFormed) :
    Misplaces (reader request.operation >>= fun _ => expectEnd request.operation)
      request.params := by
  have hnodup := request.nodup_names_params
  cases request with
  | findEntityById | insert | delete | deleteEntityById => exact .of_length_le_one _ (Nat.zero_le 1)
  | deleteComponentsBy | findNlsColumn => exact .of_length_le_one _ (Nat.le_refl 1)
  | update nls =>
    refine .of_length_le_one _ ?_
    cases nls with
    | none => exact Nat.zero_le 1
    | some names => exact Nat.le_refl 1
  | findComponentsBy properties order set =>
    obtain ⟨hne, hproperties, -⟩ := hwf
    simp only [operation, reader, bind_assoc, pure_bind]
    exact .paths hnodup ⟨hne, hproperties⟩ (.orderBy_flag (by decide) order set)
  | findComponentsByJoinTable search order set =>
    obtain ⟨hsearch, -⟩ := hwf
    obtain ⟨-, hsources⟩ := List.nodup_cons.1 hnodup
    obtain ⟨-, htargets⟩ := List.nodup_cons.1 hsources
    obtain ⟨-, hjoin⟩ := List.nodup_cons.1 htargets
    simp only [operation, reader, bind_assoc, pure_bind]
    refine .value hnodup (.lift search.source.parse_text ?_)
    refine .paths hsources ⟨hsearch.sourceProperties_ne_nil, hsearch.nodup_sourceProperties⟩ ?_
    refine .paths htargets ⟨hsearch.targetProperties_ne_nil, hsearch.nodup_targetProperties⟩ ?_
    refine .value hjoin (.lift (a := search.joins) ?_ (.orderBy_flag (by decide) order set))
    exact JoinStep.parseList_eq_ok_iff.2 ⟨rfl, hsearch.joins_ne_nil, hsearch.joins_wellFormed⟩

/-- Read from its own parameters in another order, a request is refused for the order of one. -/
theorem ofParams_of_perm {request : Request} {params : List KeyParam} (hwf : request.WellFormed)
    (hperm : params ~ request.params) (hne : params ≠ request.params) :
    ∃ name ∈ KeyParam.names request.params,
      ofParams request.operation params = .error (.parameterOutOfOrder name) := by
  obtain ⟨name, hname, herror⟩ := misplaces_reader hwf ⟨[], params⟩ hperm hne fun _ _ => nofun
  exact ⟨name, hname, ofParams_eq_error_iff.2 herror⟩

end Request

namespace StatementKey

variable {op : Operation} {key : String} {k : StatementKey} {head : KeyHead}
  {params params' : List KeyParam}

/-- The head of a text that is read as a key is the head of the key. -/
theorem eq_head_of_parseAs (hread : parseAs op key = .ok k) (hhead : KeyHead.parse key = .ok head) :
    head = k.head := by
  obtain ⟨-, -, rfl⟩ := parseAs_eq_ok_iff.1 hread
  exact Except.ok.inj (hhead.symm.trans k.parse_text)

/-- With its parameters in another order a key is refused, and one of them is said to be out of
order. -/
theorem parseAs_of_perm (hread : parseAs op key = .ok k) (hhead : KeyHead.parse key = .ok head)
    (hparams : head.params = .ok params) (hperm : params' ~ params) (hne : params' ≠ params) :
    (KeyParam.names params).Nodup ∧ ∃ name ∈ KeyParam.names params,
      parseAs op (KeyHead.text { head with query := some (KeyParam.queryText params') }) =
        .error (.parameterOutOfOrder name) := by
  obtain rfl := eq_head_of_parseAs hread hhead
  obtain rfl : k.request.params = params := Except.ok.inj (k.params_head.symm.trans hparams)
  obtain ⟨rfl, hwf, -⟩ := parseAs_eq_ok_iff.1 hread
  refine ⟨k.request.nodup_names_params, ?_⟩
  obtain ⟨name, hname, herror⟩ := Request.ofParams_of_perm hwf hperm hne
  have hnil : params' ≠ [] := by
    rintro rfl
    exact hne (List.nil_perm.1 hperm).symm
  have hparams' : KeyHead.params { k.head with query := some (KeyParam.queryText params') } =
      .ok params' :=
    KeyHead.params_eq_ok_iff.2 ⟨fun param hparam =>
      Request.wellFormed_of_mem_params (hperm.mem_iff.1 hparam), (if_neg hnil).symm⟩
  refine ⟨name, hname, ?_⟩
  rw [parseAs_of_params (KeyHead.parse_eq_ok_iff.2 rfl) rfl hparams']
  exact map_eq_error_iff.2 herror

/-- The flag before the sort order is refused, whichever of its parameters the error names. -/
theorem parseAs_of_perm_trains :
    ∃ name ∈ ["properties", "orderBy", "ignoreCancel"],
      parseAs .findComponentsBy
          "a.Train/findComponentsBy?properties=code&ignoreCancel&orderBy=code;Asc" =
        .error (.parameterOutOfOrder name) := by
  let code : PropertyPath := .ofIdentifier ⟨"code", by decide⟩
  let k : StatementKey :=
    ⟨⟨"a.Train", by decide⟩, .findComponentsBy [code] [⟨code, .ascending⟩] true⟩
  let params' : List KeyParam :=
    [⟨"properties", some "code"⟩, ⟨"ignoreCancel", none⟩, ⟨"orderBy", some "code;Asc"⟩]
  have hread : parseAs .findComponentsBy k.text = .ok k :=
    parseAs_eq_ok_iff.2 ⟨rfl, ⟨by decide, by decide, by decide⟩, rfl⟩
  have hperm : params' ~ k.request.params := (List.Perm.swap _ _ _).cons _
  have htext : KeyHead.text { k.head with query := some (KeyParam.queryText params') } =
      "a.Train/findComponentsBy?properties=code&ignoreCancel&orderBy=code;Asc" := by
    decide +kernel
  rw [← htext]
  exact (parseAs_of_perm hread k.parse_text k.params_head hperm (by decide)).2

end StatementKey

end KeyedSql

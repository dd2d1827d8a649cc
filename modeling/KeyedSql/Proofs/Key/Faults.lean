import KeyedSql.Proofs.Key.Params
import KeyedSql.Proofs.Key.Parts

/-!
# What a refused key has wrong

An error about the parameters of a key names one of them and says what is wrong with it. The readers
tell the faults apart while they ask for one parameter after the other, and each of them sees only
what is still to come. `GrammarError.HoldsOf` says what an error claims of all the parameters, in
which nothing is left of the order of reading.

`QueryReader.Truthful` is a rule for readers: from cursors of one kind, a reader refuses with errors
that hold, or leaves a cursor of another kind. The cursors are `HasTaken`, behind parameters that
had to be there, and `HasAsked`, where some of those asked for were not given.
-/

namespace KeyedSql

open Outcome
open scoped List

theorem Operation.nodup_parameters (op : Operation) : op.parameters.Nodup := by
  cases op <;> decide

/-- The names of parameters, as often as they are given and in the order in which they are. -/
def KeyParam.names (params : List KeyParam) : List String :=
  params.map (·.name)

/-- Among the names, one stands behind another that comes after it in the order of the operation. -/
def Operation.IsBehindLater (op : Operation) (names : List String) (name : String) : Prop :=
  ∃ other, [other, name] <+ names ∧ [name, other] <+ op.parameters

/-- A name stands behind another that has no place before it: one of a later place, an unknown one
or a repeated one. -/
def Operation.IsOutOfOrder (op : Operation) (names : List String) (name : String) : Prop :=
  op.IsBehindLater names name ∨
    (∃ other, [other, name] <+ names ∧ other ∉ op.parameters) ∨
      ∃ other, [other, other, name] <+ names

namespace GrammarError

/-- What an error claims of the parameters of a key. Errors of other kinds, such as those of values,
claim nothing of them. -/
def HoldsOf (op : Operation) (params : List KeyParam) : GrammarError → Prop
  | missingParameter name => name ∉ KeyParam.names params
  | duplicateParameter name => [name, name] <+ KeyParam.names params
  | unexpectedParameter name => name ∈ KeyParam.names params ∧ name ∉ op.parameters
  | parameterOutOfOrder name => op.IsOutOfOrder (KeyParam.names params) name
  | missingValue name => ⟨name, none⟩ ∈ params
  | unexpectedValue name => ∃ value, ⟨name, some value⟩ ∈ params
  | _ => True

/-- The error is not about which parameters are given and how, but about a text in one of them. -/
def IsOfText : GrammarError → Prop
  | missingParameter _ | duplicateParameter _ | unexpectedParameter _ | parameterOutOfOrder _
  | missingValue _ | unexpectedValue _ => False
  | _ => True

theorem IsOfText.holdsOf {e : GrammarError} (h : e.IsOfText) (op : Operation)
    (params : List KeyParam) : e.HoldsOf op params := by
  cases e <;> trivial

end GrammarError

/-! ## Errors of values -/

section Values

variable {value token parameter : String}

theorem Token.failsOnly_requireIdentifier :
    FailsOnly GrammarError.IsOfText (Token.requireIdentifier token) := by
  unfold requireIdentifier
  split
  · exact .error trivial
  · split_ifs
    · exact .pure
    · exact .error trivial

theorem Token.failsOnly_requireTypeName :
    FailsOnly GrammarError.IsOfText (Token.requireTypeName token) := by
  unfold requireTypeName
  split
  · exact .error trivial
  · split_ifs
    · exact .pure
    · exact .error trivial

theorem Identifier.failsOnly_parse : FailsOnly GrammarError.IsOfText (parse token) :=
  fun _ h => Token.failsOnly_requireIdentifier _ (parse_eq_error_iff.1 h)

theorem ComponentType.failsOnly_parse : FailsOnly GrammarError.IsOfText (parse token) :=
  fun _ h => Token.failsOnly_requireTypeName _ (parse_eq_error_iff.1 h)

theorem SortDirection.failsOnly_parse : FailsOnly GrammarError.IsOfText (parse token) := by
  unfold parse
  split_ifs
  · exact .pure
  · exact .pure
  · exact .error trivial

theorem failsOnly_checkDistinct {α : Type} [DecidableEq α] {text : α → String} {items : List α} :
    FailsOnly GrammarError.IsOfText (checkDistinct parameter text items) := by
  unfold checkDistinct
  split
  · exact .error trivial
  · exact .pure

theorem failsOnly_readItems {sep : Char} :
    FailsOnly GrammarError.IsOfText (readItems sep value) := by
  unfold readItems
  split_ifs
  · exact .error trivial
  · exact .pure

theorem Identifier.failsOnly_parseList : FailsOnly GrammarError.IsOfText (parseList value) :=
  failsOnly_readItems.bind fun _ => .mapM fun _ _ => failsOnly_parse

theorem PropertyPath.failsOnly_parse : FailsOnly GrammarError.IsOfText (parse token) :=
  Identifier.failsOnly_parse.bind fun _ =>
    (FailsOnly.mapM fun _ _ => Identifier.failsOnly_parse).bind fun _ => .pure

theorem PropertyPath.failsOnly_parseList :
    FailsOnly GrammarError.IsOfText (parseList parameter value) :=
  .guard trivial <| failsOnly_readItems.bind fun _ =>
    (FailsOnly.mapM fun _ _ => failsOnly_parse).bind fun _ =>
      failsOnly_checkDistinct.bind fun _ => .pure

theorem OrderEntry.failsOnly_parse : FailsOnly GrammarError.IsOfText (parse token) := by
  unfold parse
  split
  · exact PropertyPath.failsOnly_parse.bind fun _ =>
      SortDirection.failsOnly_parse.bind fun _ => .pure
  · exact .error trivial

theorem OrderEntry.failsOnly_parseList : FailsOnly GrammarError.IsOfText (parseList value) :=
  .guard trivial <| failsOnly_readItems.bind fun _ =>
    (FailsOnly.mapM fun _ _ => failsOnly_parse).bind fun _ =>
      failsOnly_checkDistinct.bind fun _ => .pure

theorem JoinStep.failsOnly_parse : FailsOnly GrammarError.IsOfText (parse token) := by
  unfold parse
  split
  · split_ifs
    · exact .error trivial
    · exact Identifier.failsOnly_parse.bind fun _ => Identifier.failsOnly_parseList.bind fun _ =>
        Identifier.failsOnly_parseList.bind fun _ => .pure
  · exact .error trivial

theorem JoinStep.failsOnly_parseList : FailsOnly GrammarError.IsOfText (parseList value) :=
  .guard trivial <| failsOnly_readItems.bind fun _ => .mapM fun _ _ => failsOnly_parse

end Values

/-! ## Asking for one parameter -/

namespace QueryReader

open QueryCursor

variable {α β : Type} {name : String} {c : QueryCursor}

theorem run_bind_of_ok {r : QueryReader α} {f : α → QueryReader β} {a : α} {m : QueryCursor}
    (h : r.run c = .ok (a, m)) : (r >>= f).run c = (f a).run m := by
  rw [StateT.run_bind, h]
  rfl

theorem run_bind_of_error {r : QueryReader α} {f : α → QueryReader β} {e : GrammarError}
    (h : r.run c = .error e) : (r >>= f).run c = .error e := by
  rw [StateT.run_bind, h]
  rfl

theorem run_next?_cases (name : String) (c : QueryCursor) :
    (∃ given m, c.Takes [⟨name, given⟩] m ∧ (next? name).run c = .ok (some ⟨name, given⟩, m)) ∨
      ¬ c.IsNext name ∧ (next? name).run c = .ok (none, c) := by
  by_cases hnext : c.IsNext name
  · obtain ⟨⟨_, given⟩, hparam, rfl⟩ := hnext
    obtain ⟨left, hleft⟩ := List.head?_eq_some_iff.1 hparam
    have htakes : c.Takes [⟨_, given⟩] ⟨_ :: c.taken, left⟩ := ⟨hleft, rfl⟩
    exact .inl ⟨given, _, htakes, run_next?_eq_ok_some_iff.2 ⟨rfl, htakes⟩⟩
  · exact .inr ⟨hnext, run_next?_eq_ok_none_iff.2 ⟨hnext, rfl⟩⟩

theorem run_value_cases (name : String) (c : QueryCursor) :
    (∃ v m, c.Takes [⟨name, some v⟩] m ∧ (value name).run c = .ok (v, m)) ∨
      (∃ m, c.Takes [⟨name, none⟩] m ∧ (value name).run c = .error (.missingValue name)) ∨
        ¬ c.IsNext name ∧ (value name).run c = .error
          (if name ∈ KeyParam.names c.left then .parameterOutOfOrder name
            else .missingParameter name) := by
  rcases run_next?_cases name c with ⟨_ | v, m, htakes, hrun⟩ | ⟨hnext, hrun⟩
  · exact .inr (.inl ⟨m, htakes, run_bind_of_ok hrun⟩)
  · exact .inl ⟨v, m, htakes, run_bind_of_ok hrun⟩
  · refine .inr (.inr ⟨hnext, (run_bind_of_ok hrun).trans ?_⟩)
    have hmem : c.left.any (·.name = name) = true ↔ name ∈ KeyParam.names c.left := by
      simp [KeyParam.names]
    show (if c.left.any (·.name = name) = true then _ else _ : QueryReader String).run c = _
    split_ifs with hany hin hin
    · rfl
    · exact absurd (hmem.1 hany) hin
    · exact absurd (hmem.2 hin) hany
    · rfl

theorem run_value?_cases (name : String) (c : QueryCursor) :
    (∃ v m, c.Takes [⟨name, some v⟩] m ∧ (value? name).run c = .ok (some v, m)) ∨
      (∃ m, c.Takes [⟨name, none⟩] m ∧ (value? name).run c = .error (.missingValue name)) ∨
        ¬ c.IsNext name ∧ (value? name).run c = .ok (none, c) := by
  rcases run_next?_cases name c with ⟨_ | v, m, htakes, hrun⟩ | ⟨hnext, hrun⟩
  · exact .inr (.inl ⟨m, htakes, run_bind_of_ok hrun⟩)
  · exact .inl ⟨v, m, htakes, run_bind_of_ok hrun⟩
  · exact .inr (.inr ⟨hnext, run_bind_of_ok hrun⟩)

theorem run_flag_cases (name : String) (c : QueryCursor) :
    (∃ m, c.Takes [⟨name, none⟩] m ∧ (flag name).run c = .ok (true, m)) ∨
      (∃ v m, c.Takes [⟨name, some v⟩] m ∧ (flag name).run c = .error (.unexpectedValue name)) ∨
        ¬ c.IsNext name ∧ (flag name).run c = .ok (false, c) := by
  rcases run_next?_cases name c with ⟨_ | v, m, htakes, hrun⟩ | ⟨hnext, hrun⟩
  · exact .inl ⟨m, htakes, run_bind_of_ok hrun⟩
  · exact .inr (.inl ⟨v, m, htakes, run_bind_of_ok hrun⟩)
  · exact .inr (.inr ⟨hnext, run_bind_of_ok hrun⟩)

end QueryReader

/-! ## Asking in order -/

namespace QueryCursor

variable {params : List KeyParam} {names asked : List String} {c c' : QueryCursor}

/-- The cursor stands behind the first parameters, which have the given names. -/
def HasTaken (params : List KeyParam) (names : List String) (c : QueryCursor) : Prop :=
  ∃ front, Takes ⟨[], params⟩ front c ∧ KeyParam.names front = names

/-- Parameters of the given names have been asked for; one that comes next, but was not taken, was
asked for too early. -/
structure HasAsked (params : List KeyParam) (asked : List String) (c : QueryCursor) : Prop where
  hasTaken : ∃ names, c.HasTaken params names
  passed : ∀ name ∈ asked, name ∉ c.taken → c.IsNext name →
    ∃ other ∈ c.taken, [name, other] <+ asked

namespace HasTaken

theorem start (params : List KeyParam) : HasTaken params [] ⟨[], params⟩ :=
  ⟨[], takes_nil_iff.2 rfl, rfl⟩

theorem tail {param : KeyParam} (h : c.HasTaken params names) (htakes : c.Takes [param] c') :
    c'.HasTaken params (names ++ [param.name]) := by
  obtain ⟨front, hfront, rfl⟩ := h
  refine ⟨front ++ [param], takes_append_iff.2 ⟨c, hfront, htakes⟩, ?_⟩
  rw [KeyParam.names, List.map_append]
  rfl

theorem taken_eq (h : c.HasTaken params names) : c.taken = names.reverse := by
  obtain ⟨front, hfront, rfl⟩ := h
  rw [hfront.taken_eq, List.append_nil]
  rfl

theorem names_eq (h : c.HasTaken params names) :
    KeyParam.names params = names ++ KeyParam.names c.left := by
  obtain ⟨front, hfront, rfl⟩ := h
  rw [show params = front ++ c.left from hfront.left_eq, KeyParam.names, List.map_append]
  rfl

theorem mem_params {param : KeyParam} (h : c.HasTaken params names)
    (htakes : c.Takes [param] c') : param ∈ params := by
  obtain ⟨front, hfront, -⟩ := h
  rw [show params = front ++ c.left from hfront.left_eq, htakes.left_eq]
  simp

/-- What stands among the names taken stands before what is still to come. -/
theorem sublist_names (h : c.HasTaken params names) {before after : List String}
    (hbefore : before <+ names) (hafter : after <+ KeyParam.names c.left) :
    before ++ after <+ KeyParam.names params := by
  rw [h.names_eq]
  exact hbefore.append hafter

theorem hasAsked (h : c.HasTaken params names) : c.HasAsked params names where
  hasTaken := ⟨names, h⟩
  passed name hname hnew _ := by
    rw [h.taken_eq, List.mem_reverse] at hnew
    exact absurd hname hnew

end HasTaken

namespace HasAsked

variable {name : String}

theorem skip (h : c.HasAsked params asked) (hnext : ¬ c.IsNext name) :
    c.HasAsked params (asked ++ [name]) where
  hasTaken := h.hasTaken
  passed other hother hnew hotherNext := by
    rcases List.mem_append.1 hother with hother | hother
    · obtain ⟨later, hlater, hsublist⟩ := h.passed other hother hnew hotherNext
      exact ⟨later, hlater, hsublist.trans (List.sublist_append_left ..)⟩
    · obtain rfl := List.mem_singleton.1 hother
      exact absurd hotherNext hnext

theorem take {param : KeyParam} (h : c.HasAsked params asked) (htakes : c.Takes [param] c') :
    c'.HasAsked params (asked ++ [param.name]) where
  hasTaken := by
    obtain ⟨names, hnames⟩ := h.hasTaken
    exact ⟨_, hnames.tail htakes⟩
  passed other hother hnew _ := by
    have htaken : c'.taken = param.name :: c.taken := htakes.taken_eq
    have hne : other ≠ param.name := by
      rintro rfl
      exact hnew (htaken ▸ List.mem_cons_self ..)
    have hasked : other ∈ asked := (List.mem_append.1 hother).resolve_right fun hother =>
      hne (List.mem_singleton.1 hother)
    refine ⟨param.name, htaken ▸ List.mem_cons_self .., ?_⟩
    exact (List.singleton_sublist.2 hasked).append (List.Sublist.refl [param.name])

end HasAsked

end QueryCursor

namespace QueryReader

open QueryCursor

variable {α β : Type} {op : Operation} {params : List KeyParam} {P Q R : QueryCursor → Prop}

/-- From every cursor of the first kind, the reader refuses with an error that holds or leaves a
cursor of the second kind. -/
def Truthful (op : Operation) (params : List KeyParam) (P : QueryCursor → Prop)
    (r : QueryReader α) (Q : QueryCursor → Prop) : Prop :=
  ∀ c, P c → match r.run c with
    | .error e => e.HoldsOf op params
    | .ok (_, c') => Q c'

namespace Truthful

theorem pure {a : α} : Truthful op params P (Pure.pure a) P :=
  fun _ hc => hc

theorem bind {r : QueryReader α} {f : α → QueryReader β} (hr : Truthful op params P r Q)
    (hf : ∀ a, Truthful op params Q (f a) R) : Truthful op params P (r >>= f) R := by
  intro c hc
  have hc' := hr c hc
  cases hrun : r.run c with
  | error e =>
    rw [hrun] at hc'
    rw [run_bind_of_error hrun]
    exact hc'
  | ok result =>
    rw [hrun] at hc'
    rw [run_bind_of_ok (a := result.1) (m := result.2) hrun]
    exact hf result.1 result.2 hc'

theorem mono {r : QueryReader α} {P' : QueryCursor → Prop} (h : Truthful op params P r Q)
    (hP : ∀ c, P' c → P c) : Truthful op params P' r Q :=
  fun c hc => h c (hP c hc)

theorem lift {x : Except GrammarError α} (h : FailsOnly GrammarError.IsOfText x) :
    Truthful op params P (liftM x) P := by
  intro c hc
  cases x with
  | error e => exact (h e rfl).holdsOf op params
  | ok a => exact hc

end Truthful

/-! ## Readers refuse with errors that hold -/

variable {name : String} {names asked rest : List String}

/-- What stands in the place of a parameter that is still to come is out of order. -/
theorem isOutOfOrder_of_not_isNext {c : QueryCursor} (hop : op.parameters = names ++ name :: rest)
    (hc : c.HasTaken params names) (hnext : ¬ c.IsNext name)
    (hin : name ∈ KeyParam.names c.left) : op.IsOutOfOrder (KeyParam.names params) name := by
  obtain ⟨next, left, hleft⟩ := List.exists_cons_of_ne_nil fun h : c.left = [] => by
    rw [h] at hin
    cases hin
  have hne : name ≠ next.name := fun h => hnext ⟨next, by rw [hleft]; rfl, h.symm⟩
  have hlater : [next.name, name] <+ KeyParam.names c.left := by
    rw [hleft] at hin ⊢
    exact (List.singleton_sublist.2 ((List.mem_cons.1 hin).resolve_left hne)).cons_cons _
  have hbehind : [next.name, name] <+ KeyParam.names params :=
    hc.sublist_names (List.nil_sublist names) hlater
  by_cases hknown : next.name ∈ op.parameters
  · rw [hop, List.mem_append, List.mem_cons] at hknown
    rcases hknown with htaken | hsame | hrest
    · exact .inr (.inr ⟨_, hc.sublist_names (List.singleton_sublist.2 htaken) hlater⟩)
    · exact absurd hsame.symm hne
    · refine .inl ⟨_, hbehind, hop ▸ ?_⟩
      exact ((List.singleton_sublist.2 hrest).cons_cons name).trans (List.sublist_append_right ..)
  · exact .inr (.inl ⟨_, hbehind, hknown⟩)

theorem truthful_value (hop : op.parameters = names ++ name :: rest) :
    Truthful op params (HasTaken params names) (value name)
      (HasTaken params (names ++ [name])) := by
  intro c hc
  rcases run_value_cases name c with ⟨v, m, htakes, hrun⟩ | ⟨m, htakes, hrun⟩ | ⟨hnext, hrun⟩ <;>
    rw [hrun]
  · exact hc.tail htakes
  · exact hc.mem_params htakes
  · split_ifs with hin
    · exact isOutOfOrder_of_not_isNext hop hc hnext hin
    · have hnodup := hop ▸ op.nodup_parameters
      have hnew : name ∉ names := fun hmem =>
        (List.nodup_append.1 hnodup).2.2 name hmem name (List.mem_cons_self ..) rfl
      show name ∉ KeyParam.names params
      rw [hc.names_eq, List.mem_append]
      exact not_or.2 ⟨hnew, hin⟩

theorem truthful_value? :
    Truthful op params (HasAsked params asked) (value? name)
      (HasAsked params (asked ++ [name])) := by
  intro c hc
  rcases run_value?_cases name c with ⟨v, m, htakes, hrun⟩ | ⟨m, htakes, hrun⟩ | ⟨hnext, hrun⟩ <;>
    rw [hrun]
  · exact hc.take htakes
  · obtain ⟨names, hnames⟩ := hc.hasTaken
    exact hnames.mem_params htakes
  · exact hc.skip hnext

theorem truthful_flag :
    Truthful op params (HasAsked params asked) (flag name)
      (HasAsked params (asked ++ [name])) := by
  intro c hc
  rcases run_flag_cases name c with ⟨m, htakes, hrun⟩ | ⟨v, m, htakes, hrun⟩ | ⟨hnext, hrun⟩ <;>
    rw [hrun]
  · exact hc.take htakes
  · obtain ⟨names, hnames⟩ := hc.hasTaken
    exact ⟨v, hnames.mem_params htakes⟩
  · exact hc.skip hnext

/-- What is left over is given again, was asked for too early, or is unknown. -/
theorem truthful_expectEnd :
    Truthful op params (HasAsked params op.parameters) (expectEnd op) fun _ => True := by
  rintro ⟨taken, _ | ⟨next, left⟩⟩ hc
  · trivial
  obtain ⟨names, hnames⟩ := hc.hasTaken
  have htaken : ∀ name, name ∈ taken ↔ name ∈ names := by
    intro name
    rw [show taken = names.reverse from hnames.taken_eq, List.mem_reverse]
  have hnext : [next.name] <+ KeyParam.names (next :: left) :=
    List.singleton_sublist.2 (List.mem_cons_self ..)
  have hbehind : ∀ name ∈ names, [name, next.name] <+ KeyParam.names params := fun name hname =>
    hnames.sublist_names (List.singleton_sublist.2 hname) hnext
  simp only [StateT.run, expectEnd]
  split_ifs with hrepeated hknown
  · exact hbehind _ ((htaken _).1 hrepeated)
  · obtain ⟨other, hother, hlater⟩ := hc.passed _ hknown hrepeated ⟨next, rfl, rfl⟩
    exact .inl ⟨other, hbehind other ((htaken other).1 hother), hlater⟩
  · refine ⟨List.singleton_sublist.1 ?_, hknown⟩
    exact hnames.sublist_names (List.nil_sublist names) hnext

theorem truthful_paths (hop : op.parameters = names ++ name :: rest) :
    Truthful op params (HasTaken params names) (paths name) (HasTaken params (names ++ [name])) :=
  (truthful_value hop).bind fun _ => .lift PropertyPath.failsOnly_parseList

theorem truthful_orderBy :
    Truthful op params (HasAsked params asked) orderBy
      (HasAsked params (asked ++ [Parameter.orderBy])) := by
  refine truthful_value?.bind fun given => ?_
  cases given with
  | none => exact .pure
  | some v => exact .lift OrderEntry.failsOnly_parseList

theorem truthful_nlsProperties :
    Truthful op params (HasAsked params asked) nlsProperties
      (HasAsked params (asked ++ [Parameter.nlsProperties])) := by
  refine truthful_value?.bind fun given => ?_
  cases given with
  | none => exact .pure
  | some v =>
    show Truthful _ _ _ (if v = "" then _ else _) _
    split_ifs
    · exact .pure
    · exact (Truthful.lift Identifier.failsOnly_parseList).bind fun _ =>
        (Truthful.lift failsOnly_checkDistinct).bind fun _ => .pure

theorem truthful_property (hop : op.parameters = names ++ Parameter.property :: rest) :
    Truthful op params (HasTaken params names) property
      (HasTaken params (names ++ [Parameter.property])) := by
  refine (truthful_value hop).bind fun token => ?_
  show Truthful _ _ _ (if token = "" then _ else _) _
  split_ifs
  · intro c _
    trivial
  · exact .lift Identifier.failsOnly_parse

/-- The sort order and the flag that end the parameters of a finder. -/
theorem truthful_orderBy_flag {f : List OrderEntry → Bool → Request} :
    Truthful op params (HasAsked params asked)
      (do let order ← orderBy; return f order (← flag Parameter.ignoreCancel))
      (HasAsked params (asked ++ [Parameter.orderBy] ++ [Parameter.ignoreCancel])) :=
  truthful_orderBy.bind fun _ => truthful_flag.bind fun _ => .pure

end QueryReader

open QueryCursor QueryReader

namespace Request

variable {op : Operation} {params : List KeyParam}

theorem truthful_reader (op : Operation) (params : List KeyParam) :
    Truthful op params (HasTaken params []) (reader op) (HasAsked params op.parameters) := by
  have hasked : ∀ {names : List String} {c : QueryCursor}, c.HasTaken params names →
      c.HasAsked params names := HasTaken.hasAsked
  cases op with
  | findEntityById | insert | delete | deleteEntityById =>
    exact Truthful.pure.mono fun _ => hasked
  | findComponentsBy =>
    exact (truthful_paths rfl).bind fun _ => truthful_orderBy_flag.mono fun _ => hasked
  | findComponentsByJoinTable =>
    have hsource : Truthful .findComponentsByJoinTable params (HasTaken params [])
        (value Parameter.sourceComponent) (HasTaken params [Parameter.sourceComponent]) :=
      truthful_value rfl
    exact hsource.bind fun _ => (Truthful.lift ComponentType.failsOnly_parse).bind fun _ =>
      (truthful_paths rfl).bind fun _ => (truthful_paths rfl).bind fun _ =>
      (truthful_value rfl).bind fun _ => (Truthful.lift JoinStep.failsOnly_parseList).bind fun _ =>
      truthful_orderBy_flag.mono fun _ => hasked
  | update =>
    exact (truthful_nlsProperties.bind fun _ => .pure).mono fun _ => hasked
  | deleteComponentsBy =>
    exact (truthful_paths rfl).bind fun _ => Truthful.pure.mono fun _ => hasked
  | findNlsColumn =>
    exact (truthful_property rfl).bind fun _ => Truthful.pure.mono fun _ => hasked

theorem ofParams_eq_error_iff {e : GrammarError} :
    ofParams op params = .error e ↔
      (reader op >>= fun _ => expectEnd op).run ⟨[], params⟩ = .error e := by
  rw [ofParams, StateT.run_bind]
  cases (reader op).run ⟨[], params⟩ with
  | error e' => simp [bind, Except.bind]
  | ok result =>
    show ((expectEnd op).run result.2 >>= fun _ => pure result.1) = _ ↔
      (expectEnd op).run result.2 = _
    cases (expectEnd op).run result.2 with
    | error e' => simp [bind, Except.bind]
    | ok _ => exact iff_of_false (fun h => by cases h) fun h => by cases h

theorem holdsOf_of_ofParams {e : GrammarError} (h : ofParams op params = .error e) :
    e.HoldsOf op params := by
  have hread := (truthful_reader op params).bind (fun _ => truthful_expectEnd) _ (.start params)
  rw [ofParams_eq_error_iff.1 h] at hread
  exact hread

end Request

namespace StatementKey

variable {op : Operation} {key : String} {head : KeyHead} {params : List KeyParam}

/-- A key whose head names the operation is read from its component and its parameters. -/
theorem parseAs_of_params (hhead : KeyHead.parse key = .ok head)
    (hop : head.operation.text = op.name) (hparams : head.params = .ok params) :
    parseAs op key = (Request.ofParams op params).map (⟨head.component, ·⟩) := by
  rw [parseAs, hhead]
  show (if head.operation.text ≠ op.name then _ else _) = _
  rw [if_neg (not_not.2 hop), hparams]
  rfl

/-- What an error says of the parameters of a key is true of them. -/
theorem faults_of_parseAs (hhead : KeyHead.parse key = .ok head)
    (hop : head.operation.text = op.name) (hparams : head.params = .ok params) :
    (∀ name, parseAs op key = .error (.missingParameter name) → name ∉ KeyParam.names params) ∧
    (∀ name, parseAs op key = .error (.duplicateParameter name) →
      [name, name] <+ KeyParam.names params) ∧
    (∀ name, parseAs op key = .error (.unexpectedParameter name) →
      name ∈ KeyParam.names params ∧ name ∉ op.parameters) ∧
    (∀ name, parseAs op key = .error (.parameterOutOfOrder name) →
      op.IsOutOfOrder (KeyParam.names params) name) ∧
    (∀ name, parseAs op key = .error (.missingValue name) → ⟨name, none⟩ ∈ params) ∧
    ∀ name, parseAs op key = .error (.unexpectedValue name) →
      ∃ value, ⟨name, some value⟩ ∈ params := by
  have hholds : ∀ e, parseAs op key = .error e → e.HoldsOf op params := by
    intro e h
    rw [parseAs_of_params hhead hop hparams, map_eq_error_iff] at h
    exact Request.holdsOf_of_ofParams h
  exact ⟨fun _ => hholds _, fun _ => hholds _, fun _ => hholds _, fun _ => hholds _,
    fun _ => hholds _, fun _ => hholds _⟩

/-- A search with a limit, which is no parameter of searches, before its properties. -/
def limitedSearch : KeyHead where
  component := ⟨"a.Tram", by decide⟩
  operation := ⟨"findComponentsBy", by decide⟩
  query := some "limit=3&properties=code"

theorem parse_limitedSearch :
    KeyHead.parse "a.Tram/findComponentsBy?limit=3&properties=code" = .ok limitedSearch :=
  KeyHead.parse_eq_ok_iff.2 (by decide +kernel)

theorem params_limitedSearch :
    limitedSearch.params = .ok [⟨"limit", some "3"⟩, ⟨"properties", some "code"⟩] := by
  refine KeyHead.params_eq_ok_iff.2 ⟨?_, by decide +kernel⟩
  refine List.forall_mem_cons.2 ⟨KeyParam.wellFormed_valued (by decide) (by decide), ?_⟩
  exact List.forall_mem_singleton.2 (KeyParam.wellFormed_valued (by decide) (by decide))

theorem parseAs_limitedSearch :
    parseAs .findComponentsBy "a.Tram/findComponentsBy?limit=3&properties=code" =
      .error (.parameterOutOfOrder "properties") :=
  (parseAs_of_params parse_limitedSearch rfl params_limitedSearch).trans rfl

/-- The properties are said to be out of order behind a parameter that searches do not have. -/
theorem faults_of_parseAs_limit :
    KeyHead.parse "a.Tram/findComponentsBy?limit=3&properties=code" = .ok limitedSearch ∧
      limitedSearch.operation.text = Operation.findComponentsBy.name ∧
      limitedSearch.params = .ok [⟨"limit", some "3"⟩, ⟨"properties", some "code"⟩] ∧
      parseAs .findComponentsBy "a.Tram/findComponentsBy?limit=3&properties=code" =
        .error (.parameterOutOfOrder "properties") ∧
      Operation.findComponentsBy.IsOutOfOrder ["limit", "properties"] "properties" := by
  have hop : limitedSearch.operation.text = Operation.findComponentsBy.name := rfl
  obtain ⟨-, -, -, horder, -, -⟩ := faults_of_parseAs parse_limitedSearch hop params_limitedSearch
  exact ⟨parse_limitedSearch, hop, params_limitedSearch, parseAs_limitedSearch,
    horder "properties" parseAs_limitedSearch⟩

/-- The properties stand behind no parameter before which they have to stand. -/
theorem not_isBehindLater_limit :
    KeyHead.parse "a.Tram/findComponentsBy?limit=3&properties=code" = .ok limitedSearch ∧
      limitedSearch.params = .ok [⟨"limit", some "3"⟩, ⟨"properties", some "code"⟩] ∧
      parseAs .findComponentsBy "a.Tram/findComponentsBy?limit=3&properties=code" =
        .error (.parameterOutOfOrder "properties") ∧
      ¬ Operation.findComponentsBy.IsBehindLater ["limit", "properties"] "properties" := by
  refine ⟨parse_limitedSearch, params_limitedSearch, parseAs_limitedSearch, ?_⟩
  rintro ⟨other, hbehind, hlater⟩
  have hother : other ∈ ["limit", "properties"] := hbehind.subset (List.mem_cons_self ..)
  simp only [List.mem_cons, List.not_mem_nil, or_false] at hother
  rcases hother with rfl | rfl <;> revert hlater <;> decide

end StatementKey

end KeyedSql

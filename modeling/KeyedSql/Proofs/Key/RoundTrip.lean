import KeyedSql.Proofs.Key.Params
import KeyedSql.Proofs.Key.Parts

/-!
# Keys and their texts

A key is read back from its text if and only if it is well formed, and every text that is read is
the text of what was read. So the readers accept one spelling of each well-formed key and nothing
else.
-/

namespace KeyedSql

open Outcome

/-! ## The parameters of a request as a query -/

theorem OrderEntry.wellFormed_of_mem_params {order : List OrderEntry} {param : KeyParam}
    (h : param ∈ params order) : param.WellFormed := by
  unfold params at h
  split_ifs at h
  · cases h
  · obtain rfl := List.mem_singleton.1 h
    exact KeyParam.wellFormed_valued (by decide)
      (notMem_listText (by decide) (by decide) (by decide) order)

theorem KeyParam.wellFormed_of_mem_flag {set : Bool} {param : KeyParam}
    (h : param ∈ flag Parameter.ignoreCancel set) : param.WellFormed := by
  cases set with
  | false => cases h
  | true =>
    obtain rfl := List.mem_singleton.1 h
    exact wellFormed_bare (by decide)

theorem Request.wellFormed_of_mem_params {request : Request} {param : KeyParam}
    (h : param ∈ request.params) : param.WellFormed := by
  cases request with
  | findEntityById | insert | delete | deleteEntityById => cases h
  | findComponentsBy properties order set =>
    simp only [params, List.mem_cons, List.mem_append] at h
    rcases h with rfl | h | h
    · exact KeyParam.wellFormed_valued (by decide)
        (PropertyPath.notMem_listText (by decide) (by decide) properties)
    · exact OrderEntry.wellFormed_of_mem_params h
    · exact KeyParam.wellFormed_of_mem_flag h
  | findComponentsByJoinTable search order set =>
    simp only [params, List.mem_cons, List.mem_append] at h
    rcases h with rfl | rfl | rfl | rfl | h | h
    · exact KeyParam.wellFormed_valued (by decide)
        (search.source.notMem_of_mem_delimiters (by decide))
    · exact KeyParam.wellFormed_valued (by decide)
        (PropertyPath.notMem_listText (by decide) (by decide) search.sourceProperties)
    · exact KeyParam.wellFormed_valued (by decide)
        (PropertyPath.notMem_listText (by decide) (by decide) search.targetProperties)
    · exact KeyParam.wellFormed_valued (by decide)
        (JoinStep.notMem_listText (by decide) (by decide) (by decide) (by decide) search.joins)
    · exact OrderEntry.wellFormed_of_mem_params h
    · exact KeyParam.wellFormed_of_mem_flag h
  | update nls =>
    cases nls with
    | none => cases h
    | some names =>
      obtain rfl := List.mem_singleton.1 h
      exact KeyParam.wellFormed_valued (by decide)
        (Identifier.notMem_listText (by decide) (by decide) names)
  | deleteComponentsBy properties =>
    obtain rfl := List.mem_singleton.1 h
    exact KeyParam.wellFormed_valued (by decide)
      (PropertyPath.notMem_listText (by decide) (by decide) properties)
  | findNlsColumn id =>
    obtain rfl := List.mem_singleton.1 h
    exact KeyParam.wellFormed_valued (by decide) (id.notMem_of_mem_delimiters (by decide))

theorem OrderEntry.params_append_flag_injective {order order' : List OrderEntry} {set set' : Bool}
    (h : params order ++ KeyParam.flag Parameter.ignoreCancel set =
      params order' ++ KeyParam.flag Parameter.ignoreCancel set') :
    order = order' ∧ set = set' := by
  have horder : listText order = listText order' ∧ set = set' := by
    have hname : Parameter.orderBy ≠ Parameter.ignoreCancel := by decide
    rcases eq_or_ne order [] with rfl | hne <;> rcases eq_or_ne order' [] with rfl | hne' <;>
      cases set <;> cases set' <;> simp_all [params, KeyParam.flag]
  exact ⟨listText_injective horder.1, horder.2⟩

/-- The parameters of a request tell the request, once its operation is known. -/
theorem Request.eq_of_params_eq {a b : Request} (hop : a.operation = b.operation)
    (h : a.params = b.params) : a = b := by
  cases a <;> cases b <;> cases hop
  case findEntityById | insert | delete | deleteEntityById => rfl
  case findComponentsBy.findComponentsBy =>
    simp only [params, List.cons.injEq, KeyParam.mk.injEq, Option.some.injEq, true_and] at h
    obtain ⟨hproperties, hrest⟩ := h
    obtain ⟨rfl, rfl⟩ := OrderEntry.params_append_flag_injective hrest
    rw [PropertyPath.listText_injective hproperties]
  case findComponentsByJoinTable.findComponentsByJoinTable search _ _ search' _ _ =>
    simp only [params, List.cons.injEq, KeyParam.mk.injEq, Option.some.injEq, true_and] at h
    obtain ⟨hsource, hsources, htargets, hjoins, hrest⟩ := h
    obtain ⟨rfl, rfl⟩ := OrderEntry.params_append_flag_injective hrest
    have hsearch : search = search' := by
      cases search; cases search'
      congr
      · exact ComponentType.ext hsource
      · exact PropertyPath.listText_injective hsources
      · exact PropertyPath.listText_injective htargets
      · exact JoinStep.listText_injective hjoins
    rw [hsearch]
  case update.update nls nls' =>
    cases nls <;> cases nls' <;>
      simp only [params, List.cons.injEq, KeyParam.mk.injEq, Option.some.injEq, true_and,
        and_true, reduceCtorEq] at h
    · rfl
    · rw [Identifier.listText_injective h]
  case deleteComponentsBy.deleteComponentsBy =>
    simp only [params, List.cons.injEq, KeyParam.mk.injEq, Option.some.injEq, true_and,
      and_true] at h
    rw [PropertyPath.listText_injective h]
  case findNlsColumn.findNlsColumn =>
    simp only [params, List.cons.injEq, KeyParam.mk.injEq, Option.some.injEq, true_and,
      and_true] at h
    rw [Identifier.ext h]

/-! ## Keys -/

/-- The name of an operation as an identifier. -/
def Operation.identifier (op : Operation) : Identifier :=
  ⟨op.name, by cases op <;> decide⟩

namespace StatementKey

/-- The head of a key, with the parameters of its request as the query. -/
def head (key : StatementKey) : KeyHead where
  component := key.component
  operation := key.operation.identifier
  query := if key.request.params = [] then none else some (KeyParam.queryText key.request.params)

theorem text_head (key : StatementKey) : key.head.text = key.text := by
  unfold KeyHead.text text head
  cases key.request.params with
  | nil => rfl
  | cons first rest => rfl

theorem parse_text (key : StatementKey) : KeyHead.parse key.text = .ok key.head :=
  KeyHead.parse_eq_ok_iff.2 key.text_head.symm

theorem params_head (key : StatementKey) : key.head.params = .ok key.request.params :=
  KeyHead.params_eq_ok_iff.2 ⟨fun _ => Request.wellFormed_of_mem_params, rfl⟩

theorem head_injective {a b : StatementKey} (h : a.head = b.head) : a = b := by
  have hparams := a.params_head
  rw [h, b.params_head] at hparams
  have hop : a.operation = b.operation :=
    Operation.name_injective (congrArg (·.operation.text) h)
  obtain ⟨component, request⟩ := a
  obtain rfl : component = b.component := congrArg (·.component) h
  obtain rfl := Request.eq_of_params_eq hop (Except.ok.inj hparams).symm
  rfl

/-- Two keys with one text are the same key, well formed or not. -/
theorem text_injective : Function.Injective text := by
  intro a b h
  refine head_injective ?_
  have ha := a.parse_text
  rw [h, b.parse_text] at ha
  exact (Except.ok.inj ha).symm

/-- A head and the request that is read from its query belong to the key of the two. -/
theorem head_eq_of_read {head : KeyHead} {request : Request}
    (hop : head.operation.text = request.operation.name)
    (hparams : head.params = .ok request.params) :
    StatementKey.head ⟨head.component, request⟩ = head := by
  obtain ⟨component, operation, query⟩ := head
  obtain rfl : query = _ := (KeyHead.params_eq_ok_iff.1 hparams).2
  obtain rfl : request.operation.identifier = operation := Identifier.ext hop.symm
  rfl

/-- What is read is a well-formed key of the operation, from its own text. -/
theorem parseAs_eq_ok_iff {op : Operation} {s : String} {key : StatementKey} :
    parseAs op s = .ok key ↔ key.operation = op ∧ key.WellFormed ∧ key.text = s := by
  unfold parseAs
  rw [bind_eq_ok_iff]
  constructor
  · rintro ⟨head, hhead, h⟩
    obtain ⟨hop, h⟩ := guard_eq_ok_iff.1 h
    obtain ⟨params, hparams, h⟩ := bind_eq_ok_iff.1 h
    obtain ⟨request, hrequest, h⟩ := bind_eq_ok_iff.1 h
    cases h
    obtain ⟨rfl, hwf, rfl⟩ := Request.ofParams_eq_ok_iff.1 hrequest
    refine ⟨rfl, hwf, ?_⟩
    rw [← text_head, head_eq_of_read (not_not.1 hop) hparams, KeyHead.parse_eq_ok_iff.1 hhead]
  · rintro ⟨rfl, hwf, rfl⟩
    refine ⟨key.head, key.parse_text, ?_⟩
    refine guard_eq_ok_iff.2 ⟨not_not.2 rfl, ?_⟩
    refine bind_eq_ok_iff.2 ⟨key.request.params, key.params_head, ?_⟩
    exact bind_eq_ok_iff.2 ⟨key.request, Request.ofParams_eq_ok_iff.2 ⟨rfl, hwf, rfl⟩, rfl⟩

theorem exists_validated_eq_error_iff {key : StatementKey} :
    (∃ e, key.validated = .error e) ↔ ¬ key.WellFormed := by
  cases h : key.validated with
  | error e =>
    refine iff_of_true ⟨e, rfl⟩ fun hwf => ?_
    rw [validated_eq_ok_iff.2 ⟨hwf, rfl⟩] at h
    cases h
  | ok other => exact iff_of_false nofun (not_not.2 (validated_eq_ok_iff.1 h).1)

/-- The text of a key is refused exactly if the key is ill-formed. -/
theorem exists_parseAs_text_eq_error_iff {key : StatementKey} :
    (∃ e, parseAs key.operation key.text = .error e) ↔ ¬ key.WellFormed := by
  cases h : parseAs key.operation key.text with
  | error e =>
    refine iff_of_true ⟨e, rfl⟩ fun hwf => ?_
    rw [parseAs_eq_ok_iff.2 ⟨rfl, hwf, rfl⟩] at h
    cases h
  | ok other =>
    obtain ⟨-, hwf, htext⟩ := parseAs_eq_ok_iff.1 h
    obtain rfl := text_injective htext
    exact iff_of_false nofun (not_not.2 hwf)

/-! ## Main statements -/

/-- A key is read back from its text exactly if it is accepted as data. -/
theorem read_back_iff_validated (key : StatementKey) :
    (parseAs key.operation key.text = .ok key ↔ key.WellFormed) ∧
      ((∃ e, parseAs key.operation key.text = .error e) ↔ ¬ key.WellFormed) ∧
        (key.validated = .ok key ↔ key.WellFormed) ∧
          ((∃ e, key.validated = .error e) ↔ ¬ key.WellFormed) := by
  refine ⟨?_, exists_parseAs_text_eq_error_iff, ?_, exists_validated_eq_error_iff⟩
  · rw [parseAs_eq_ok_iff]
    exact ⟨fun h => h.2.1, fun hwf => ⟨rfl, hwf, rfl⟩⟩
  · rw [validated_eq_ok_iff]
    exact and_iff_left rfl

/-- The texts that are read are those of the well-formed keys, one for each. -/
theorem read_iff_canonical (op : Operation) (s : String) :
    (∀ key, parseAs op s = .ok key ↔ key.operation = op ∧ key.WellFormed ∧ key.text = s) ∧
      (isKeyOf op s = true ↔
        ∃ key : StatementKey, key.operation = op ∧ key.WellFormed ∧ key.text = s) ∧
        ∀ op' s' key, parseAs op s = .ok key → parseAs op' s' = .ok key → op = op' ∧ s = s' := by
  refine ⟨fun key => parseAs_eq_ok_iff, ?_, fun op' s' key h h' => ?_⟩
  · simp only [← parseAs_eq_ok_iff]
    unfold isKeyOf
    cases parseAs op s with
    | error e => exact iff_of_false Bool.noConfusion nofun
    | ok key => exact iff_of_true rfl ⟨key, rfl⟩
  · obtain ⟨rfl, -, rfl⟩ := parseAs_eq_ok_iff.1 h
    obtain ⟨rfl, -, rfl⟩ := parseAs_eq_ok_iff.1 h'
    exact ⟨rfl, rfl⟩

end StatementKey

end KeyedSql

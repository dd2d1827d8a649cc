import KeyedSql.Proofs.Schema.ValueType
import KeyedSql.Schema.Form

/-!
# Components are read back from their documents

A record is written as a table, one member after the other, and read as a draft that takes the
members in. `Reads` follows a draft through some members: each member that is written puts its own
declaration into the draft and leaves the others as they are, and a declaration that is absent
leaves the draft as it began. So a record is read back as it was written, and what is declared but
empty is not read as absent.
-/

namespace KeyedSql

open Outcome

/-! ## Members -/

namespace Document

section Members

variable {α δ : Type} {add : δ → String → Document → Except DocumentError δ} {a b c : δ}
  {xs ys : List (String × Document)} {name : String} {d : Document}

/-- Taking in the members turns one draft into another. -/
def Reads (add : δ → String → Document → Except DocumentError δ) (a : δ)
    (members : List (String × Document)) (b : δ) : Prop :=
  members.foldlM (fun draft m => add draft m.1 m.2) a = .ok b

theorem Reads.append (h₁ : Reads add a xs b) (h₂ : Reads add b ys c) :
    Reads add a (xs ++ ys) c := by
  unfold Reads at *
  rw [List.foldlM_append, h₁]
  exact h₂

theorem reads_member (h : add a name d = .ok b) : Reads add a (member name d) b := by
  unfold Reads member
  rw [List.foldlM_cons, h]
  rfl

/-- A member that may be absent puts its value into the draft, if it has one. -/
theorem reads_optionalMember {read : Document → Except DocumentError α} {write : α → Document}
    (draft : Option α → δ) {o : Option α} (hnone : draft none = a)
    (hadd : ∀ d, add a name d = d.toOptional read >>= fun x => pure (draft x))
    (hread : ∀ x ∈ o, (write x).toOptional read = .ok (some x)) :
    Reads add a (optionalMember name (o.map write)) (draft o) := by
  cases o with
  | none =>
    rw [hnone]
    rfl
  | some x =>
    refine reads_member ?_
    rw [hadd, hread x rfl]
    rfl

theorem toRecord_table {surplus : Surplus} {required : Nat} {names : List String}
    (h : Reads add a xs b) : (table xs).toRecord surplus required names add a = .ok b :=
  h

end Members

variable {α : Type} {read : Document → Except DocumentError α} {x : α}

theorem toOptional_text {s : String} (h : read (text s) = .ok x) :
    (text s).toOptional read = .ok (some x) :=
  map_eq_ok_iff.2 ⟨x, h, rfl⟩

theorem toOptional_table {members : List (String × Document)} (h : read (table members) = .ok x) :
    (table members).toOptional read = .ok (some x) :=
  map_eq_ok_iff.2 ⟨x, h, rfl⟩

theorem toListOf_map {write : α → Document} {xs : List α}
    (h : ∀ x ∈ xs, read (write x) = .ok x) : (list (xs.map write)).toListOf read = .ok xs := by
  have hall : List.Forall₂ (fun d x => read d = .ok x) (xs.map write) xs := by
    rw [List.forall₂_map_left_iff, List.forall₂_same]
    exact h
  exact mapM_eq_ok_iff.2 hall

theorem toComponentType_text (c : ComponentType) : (text c.text).toComponentType = .ok c := by
  refine bind_eq_ok_iff.2 ⟨c.text, rfl, ?_⟩
  rw [ComponentType.parse_text]
  rfl

theorem toValueType_text {t : ValueType} (h : t.WellFormed) :
    (text t.text).toValueType = .ok t := by
  refine bind_eq_ok_iff.2 ⟨t.text, rfl, ?_⟩
  rw [ValueType.parse_text h]
  rfl

end Document

open Document

/-! ## Columns -/

namespace Column

theorem ofDocument_document (surplus : Surplus) {column : Column}
    (h : ∀ t ∈ column.type, t.WellFormed) : ofDocument surplus column.document = .ok column := by
  obtain ⟨name, type, sqlType, typeHandler⟩ := column
  have hname : Reads Draft.add ⟨none, none, none, none⟩ (member "name" (.text name))
      ⟨some name, none, none, none⟩ :=
    reads_member rfl
  have htype : Reads Draft.add ⟨some name, none, none, none⟩
      (optionalMember "type" (type.map fun t => .text t.text)) ⟨some name, type, none, none⟩ :=
    reads_optionalMember (Draft.mk (some name) · none none) rfl (fun _ => rfl) fun t ht =>
      toOptional_text (toValueType_text (h t ht))
  have hsqlType : Reads Draft.add ⟨some name, type, none, none⟩
      (optionalMember "sql_type" (sqlType.map .text)) ⟨some name, type, sqlType, none⟩ :=
    reads_optionalMember (Draft.mk (some name) type · none) rfl (fun _ => rfl) fun _ _ => rfl
  have htypeHandler : Reads Draft.add ⟨some name, type, sqlType, none⟩
      (optionalMember "type_handler" (typeHandler.map .text))
      ⟨some name, type, sqlType, typeHandler⟩ :=
    reads_optionalMember (Draft.mk (some name) type sqlType) rfl (fun _ => rfl) fun _ _ => rfl
  have hmembers := ((hname.append htype).append hsqlType).append htypeHandler
  exact bind_eq_ok_iff.2 ⟨_, toRecord_table hmembers, rfl⟩

end Column

/-! ## Identities, associations, collections -/

theorem Identity.ofDocument_document (surplus : Surplus) (identity : Identity) :
    ofDocument surplus identity.document = .ok identity := by
  obtain ⟨generatorId, generatorClass⟩ := identity
  have hid : Reads add ⟨none, none⟩
      (optionalMember "generator_id" (generatorId.map .text)) ⟨generatorId, none⟩ :=
    reads_optionalMember (Identity.mk · none) rfl (fun _ => rfl) fun _ _ => rfl
  have hclass : Reads add ⟨generatorId, none⟩
      (optionalMember "generator_class" (generatorClass.map .text))
      ⟨generatorId, generatorClass⟩ :=
    reads_optionalMember (Identity.mk generatorId) rfl (fun _ => rfl) fun _ _ => rfl
  exact toRecord_table (hid.append hclass)

theorem Association.ofDocument_document (surplus : Surplus) (association : Association) :
    ofDocument surplus association.document = .ok association := by
  obtain ⟨target⟩ := association
  have htarget : Reads add ⟨none⟩ (optionalMember "target" (target.map fun c => .text c.text))
      ⟨target⟩ :=
    reads_optionalMember Association.mk rfl (fun _ => rfl) fun c _ =>
      toOptional_text (toComponentType_text c)
  exact toRecord_table htarget

theorem Collection.ofDocument_document (surplus : Surplus) {collection : Collection}
    (h : ∀ t ∈ collection.type, t.WellFormed) :
    ofDocument surplus collection.document = .ok collection := by
  obtain ⟨element, type⟩ := collection
  have helement : Reads add ⟨none, none⟩
      (optionalMember "element" (element.map fun e => .text e.text)) ⟨element, none⟩ :=
    reads_optionalMember (Collection.mk · none) rfl (fun _ => rfl) fun c _ =>
      toOptional_text (toComponentType_text c)
  have htype : Reads add ⟨element, none⟩
      (optionalMember "type" (type.map fun t => .text t.text)) ⟨element, type⟩ :=
    reads_optionalMember (Collection.mk element) rfl (fun _ => rfl) fun t ht =>
      toOptional_text (toValueType_text (h t ht))
  exact toRecord_table (helement.append htype)

/-! ## Properties -/

namespace Property

/-- The types that a property mentions: its own and those of its columns and of its collection. -/
def valueTypes (p : Property) : List ValueType :=
  p.type :: ((p.column.bind (·.type)).toList ++ (p.localizedColumn.bind (·.type)).toList ++
    (p.collection.bind (·.type)).toList)

theorem mem_valueTypes_iff {p : Property} {t : ValueType} :
    t ∈ p.valueTypes ↔ t = p.type ∨ (∃ column ∈ p.column, t ∈ column.type) ∨
      (∃ column ∈ p.localizedColumn, t ∈ column.type) ∨
        ∃ collection ∈ p.collection, t ∈ collection.type := by
  simp only [valueTypes, List.mem_cons, List.mem_append, Option.mem_toList, Option.mem_def,
    Option.bind_eq_some_iff, or_assoc]

section Members

variable {surplus : Surplus} {d : Draft}

theorem Draft.reads_column {column : Option Column} (hd : d.column = none)
    (h : ∀ c ∈ column, ∀ t ∈ c.type, t.WellFormed) :
    Reads (add surplus) d (optionalMember "column" (column.map (·.document)))
      { d with column } :=
  reads_optionalMember (fun column => { d with column }) (by rw [← hd]) (fun _ => rfl)
    fun c hc => toOptional_table (Column.ofDocument_document surplus (h c hc))

theorem Draft.reads_localizedColumn {localizedColumn : Option Column}
    (hd : d.localizedColumn = none) (h : ∀ c ∈ localizedColumn, ∀ t ∈ c.type, t.WellFormed) :
    Reads (add surplus) d (optionalMember "localized_column" (localizedColumn.map (·.document)))
      { d with localizedColumn } :=
  reads_optionalMember (fun localizedColumn => { d with localizedColumn }) (by rw [← hd])
    (fun _ => rfl) fun c hc => toOptional_table (Column.ofDocument_document surplus (h c hc))

theorem Draft.reads_identity (identity : Option Identity) (hd : d.identity = none) :
    Reads (add surplus) d (optionalMember "identity" (identity.map (·.document)))
      { d with identity } :=
  reads_optionalMember (fun identity => { d with identity }) (by rw [← hd]) (fun _ => rfl)
    fun i _ => toOptional_table (Identity.ofDocument_document surplus i)

theorem Draft.reads_association (association : Option Association) (hd : d.association = none) :
    Reads (add surplus) d (optionalMember "association" (association.map (·.document)))
      { d with association } :=
  reads_optionalMember (fun association => { d with association }) (by rw [← hd]) (fun _ => rfl)
    fun a _ => toOptional_table (Association.ofDocument_document surplus a)

theorem Draft.reads_collection {collection : Option Collection} (hd : d.collection = none)
    (h : ∀ c ∈ collection, ∀ t ∈ c.type, t.WellFormed) :
    Reads (add surplus) d (optionalMember "collection" (collection.map (·.document)))
      { d with collection } :=
  reads_optionalMember (fun collection => { d with collection }) (by rw [← hd]) (fun _ => rfl)
    fun c hc => toOptional_table (Collection.ofDocument_document surplus (h c hc))

theorem Draft.reads_version (version : Bool) :
    Reads (add surplus) d (member "version" (.bool version)) { d with version } :=
  reads_member rfl

theorem Draft.reads_cancelFlag (cancelFlag : Bool) :
    Reads (add surplus) d (member "cancel_flag" (.bool cancelFlag)) { d with cancelFlag } :=
  reads_member rfl

end Members

theorem ofDocument_document (surplus : Surplus) {p : Property}
    (h : ∀ t ∈ p.valueTypes, t.WellFormed) : ofDocument surplus p.document = .ok p := by
  have htypes := fun t => (mem_valueTypes_iff (p := p) (t := t)).2
  have hname : Reads (Draft.add surplus) Draft.empty (member "name" (.text p.name))
      { Draft.empty with name := some p.name } :=
    reads_member rfl
  have htype : Reads (Draft.add surplus) { Draft.empty with name := some p.name }
      (member "type" (.text p.type.text))
      { Draft.empty with name := some p.name, type := some p.type } :=
    reads_member (bind_eq_ok_iff.2 ⟨p.type, toValueType_text (h _ (htypes _ (.inl rfl))), rfl⟩)
  have hcolumn := (hname.append htype).append <| Draft.reads_column rfl fun c hc t ht =>
    h t (htypes t (.inr (.inl ⟨c, hc, ht⟩)))
  have hlocalized := hcolumn.append <| Draft.reads_localizedColumn rfl fun c hc t ht =>
    h t (htypes t (.inr (.inr (.inl ⟨c, hc, ht⟩))))
  have hversion := (hlocalized.append (Draft.reads_identity p.identity rfl)).append
    (Draft.reads_version p.version)
  have hassociation := hversion.append (Draft.reads_association p.association rfl)
  have hcollection := hassociation.append <| Draft.reads_collection rfl fun c hc t ht =>
    h t (htypes t (.inr (.inr (.inr ⟨c, hc, ht⟩))))
  have hmembers := hcollection.append (Draft.reads_cancelFlag p.cancelFlag)
  exact bind_eq_ok_iff.2 ⟨_, toRecord_table hmembers, rfl⟩

end Property

/-! ## Components -/

namespace Component

/-- The types that the properties of a component mention. -/
def valueTypes (c : Component) : List ValueType :=
  c.properties.flatMap (·.valueTypes)

theorem reads_cacheLinks {surplus : Surplus} (name : ComponentType) (table : Option String)
    (cacheLinks : List ComponentType) :
    Reads (Draft.add surplus) ⟨some name, table, [], []⟩
      (if cacheLinks.isEmpty then []
        else member "cache_links" (Document.texts (cacheLinks.map (·.text))))
      ⟨some name, table, cacheLinks, []⟩ := by
  cases cacheLinks with
  | nil => rfl
  | cons link links =>
    refine reads_member ?_
    have hread : (Document.texts ((link :: links).map (·.text))).toListOf toComponentType =
        .ok (link :: links) := by
      rw [Document.texts, List.map_map]
      exact toListOf_map fun c _ => toComponentType_text c
    exact bind_eq_ok_iff.2 ⟨_, hread, rfl⟩

theorem ofDocument_document (surplus : Surplus) {c : Component}
    (h : ∀ t ∈ c.valueTypes, t.WellFormed) : ofDocument surplus c.document = .ok c := by
  obtain ⟨name, table, cacheLinks, properties⟩ := c
  have hname : Reads (Draft.add surplus) ⟨none, none, [], []⟩ (member "name" (.text name.text))
      ⟨some name, none, [], []⟩ :=
    reads_member (bind_eq_ok_iff.2 ⟨name, toComponentType_text name, rfl⟩)
  have htable : Reads (Draft.add surplus) ⟨some name, none, [], []⟩
      (optionalMember "table" (table.map .text)) ⟨some name, table, [], []⟩ :=
    reads_optionalMember (Draft.mk (some name) · [] []) rfl (fun _ => rfl) fun _ _ => rfl
  have hproperties : Reads (Draft.add surplus) ⟨some name, table, cacheLinks, []⟩
      (member "property" (.list (properties.map (·.document))))
      ⟨some name, table, cacheLinks, properties⟩ := by
    have hread := toListOf_map fun p hp =>
      Property.ofDocument_document surplus fun t ht => h t (List.mem_flatMap.2 ⟨p, hp, ht⟩)
    exact reads_member (bind_eq_ok_iff.2 ⟨properties, hread, rfl⟩)
  have hmembers := ((hname.append htable).append (reads_cacheLinks name table cacheLinks)).append
    hproperties
  exact bind_eq_ok_iff.2 ⟨_, toRecord_table hmembers, rfl⟩

end Component

/-! ## Declared but empty -/

/-- The value of the first member of a name. -/
def Document.member? (name : String) : Document → Option Document
  | table members => members.lookup name
  | _ => none

theorem lookup_member (name other : String) (value : Document) :
    (member name value).lookup other = if other == name then some value else none := by
  unfold member
  rw [List.lookup_cons]
  cases other == name <;> rfl

theorem lookup_optionalMember (name other : String) (value : Option Document) :
    (optionalMember name value).lookup other = if other == name then value else none := by
  cases value with
  | none => simp [optionalMember]
  | some value => exact lookup_member name other value

/-- An optional part that is absent is told apart from one that is empty. -/
theorem map_document_iff {α : Type} {document : α → Document} {empty : α}
    (h : ∀ x, document x = .table [] ↔ x = empty) (o : Option α) :
    (o.map document = none ↔ o = none) ∧
      (o.map document = some (.table []) ↔ o = some empty) := by
  cases o with
  | none => simp
  | some x => simp [h]

theorem table_optionalMember_eq_iff {name : String} {value : Option Document} :
    optionalMember name value = [] ↔ value = none := by
  cases value <;> simp [optionalMember, member]

theorem Identity.document_eq_table_nil_iff (identity : Identity) :
    identity.document = .table [] ↔ identity = ⟨none, none⟩ := by
  obtain ⟨generatorId, generatorClass⟩ := identity
  simp [document, table_optionalMember_eq_iff]

theorem Association.document_eq_table_nil_iff (association : Association) :
    association.document = .table [] ↔ association = ⟨none⟩ := by
  obtain ⟨target⟩ := association
  simp [document, table_optionalMember_eq_iff]

theorem Collection.document_eq_table_nil_iff (collection : Collection) :
    collection.document = .table [] ↔ collection = ⟨none, none⟩ := by
  obtain ⟨element, type⟩ := collection
  simp [document, table_optionalMember_eq_iff]

namespace Property

theorem member?_identity (p : Property) :
    p.document.member? "identity" = p.identity.map (·.document) := by
  simp [document, Document.member?, List.lookup_append, lookup_member, lookup_optionalMember]

theorem member?_association (p : Property) :
    p.document.member? "association" = p.association.map (·.document) := by
  simp [document, Document.member?, List.lookup_append, lookup_member, lookup_optionalMember]

theorem member?_collection (p : Property) :
    p.document.member? "collection" = p.collection.map (·.document) := by
  simp [document, Document.member?, List.lookup_append, lookup_member, lookup_optionalMember]

end Property

namespace Component

theorem member?_property (c : Component) :
    c.document.member? "property" = some (.list (c.properties.map (·.document))) := by
  have hlinks : (if c.cacheLinks.isEmpty then []
      else member "cache_links" (Document.texts (c.cacheLinks.map (·.text)))).lookup "property" =
        none := by
    split <;> simp [lookup_member]
  simp only [document, Document.member?, List.lookup_append, lookup_member, lookup_optionalMember,
    hlinks]
  rfl

/-- A component is read back from its document, empty parts apart from absent ones. -/
theorem document_read_back {c : Component}
    (h : ∀ t ∈ c.valueTypes, ∃ s, ValueType.parse s = .ok t) (surplus : Surplus) :
    ofDocument surplus c.document = .ok c ∧
      (∀ again, ofDocument surplus c.document = .ok again → again.document = c.document) ∧
      (∀ other : Component, (∀ t ∈ other.valueTypes, ∃ s, ValueType.parse s = .ok t) →
        other.document = c.document → other = c) ∧
      c.document.member? "property" = some (.list (c.properties.map (·.document))) ∧
      ∀ p ∈ c.properties,
        ((p.document.member? "identity" = none ↔ p.identity = none) ∧
          (p.document.member? "identity" = some (.table []) ↔ p.identity = some ⟨none, none⟩)) ∧
        ((p.document.member? "association" = none ↔ p.association = none) ∧
          (p.document.member? "association" = some (.table []) ↔ p.association = some ⟨none⟩)) ∧
        ((p.document.member? "collection" = none ↔ p.collection = none) ∧
          (p.document.member? "collection" = some (.table []) ↔
            p.collection = some ⟨none, none⟩)) := by
  have hback : ∀ other : Component, (∀ t ∈ other.valueTypes, ∃ s, ValueType.parse s = .ok t) →
      ofDocument surplus other.document = .ok other := fun other hother =>
    ofDocument_document surplus fun t ht => ValueType.exists_parse_eq_ok_iff.1 (hother t ht)
  refine ⟨hback c h, fun again hagain => ?_, fun other hother heq => ?_, member?_property c,
    fun p _ => ⟨?_, ?_, ?_⟩⟩
  · rw [Except.ok.inj ((hback c h).symm.trans hagain)]
  · have hsame := hback other hother
    rw [heq] at hsame
    exact Except.ok.inj (hsame.symm.trans (hback c h))
  · rw [Property.member?_identity]
    exact map_document_iff Identity.document_eq_table_nil_iff p.identity
  · rw [Property.member?_association]
    exact map_document_iff Association.document_eq_table_nil_iff p.association
  · rw [Property.member?_collection]
    exact map_document_iff Collection.document_eq_table_nil_iff p.collection

/-- A depot whose tracks are a set with an element type of their own; nothing is said about its
identity and its association but that they are there. -/
def depot : Component where
  name := ⟨"a.Depot", by decide⟩
  table := some "DEPOT"
  cacheLinks := [⟨"a.Line", by decide⟩]
  properties := [
    { Property.ofType "id" (.named "a.DepotId") with
      column := some ⟨"ID", some (.scalar .int64), none, some "id"⟩
      identity := some ⟨none, none⟩ },
    { Property.ofType "line" (.component ⟨"a.Line", by decide⟩) with association := some ⟨none⟩ },
    { Property.ofType "tracks" (.bare .set) with
      collection := some ⟨none, some (.collection .set (.component ⟨"a.Track", by decide⟩))⟩ }]

theorem document_read_back_depot :
    (∀ t ∈ depot.valueTypes, ∃ s, ValueType.parse s = .ok t) ∧
      ofDocument .refused depot.document = .ok depot ∧
      ∃ p ∈ depot.properties, p.document.member? "identity" = some (.table []) := by
  have htypes : ∀ t ∈ depot.valueTypes, ∃ s, ValueType.parse s = .ok t := by
    intro t ht
    rw [ValueType.exists_parse_eq_ok_iff]
    have hname : ValueType.IsName "a.DepotId" := by
      refine ⟨by decide, by decide, ?_, by decide, by decide, by decide⟩
      exact ValueType.isBroken_eq_false_iff.1 (by decide)
    simp only [depot, valueTypes, Property.valueTypes, Property.ofType, List.flatMap_cons,
      List.flatMap_nil] at ht
    simp at ht
    rcases ht with rfl | rfl | rfl | rfl | rfl
    · exact hname
    all_goals trivial
  obtain ⟨hread, -, -, -, hparts⟩ := document_read_back htypes .refused
  refine ⟨htypes, hread, depot.properties[0], by decide, ?_⟩
  exact (hparts _ (by decide)).1.2.2 rfl

end Component

end KeyedSql

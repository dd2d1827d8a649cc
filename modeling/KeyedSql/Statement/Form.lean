import KeyedSql.Document
import KeyedSql.Statement.Basic

/-!
# Statements as documents

What a report in JSON shows of a statement. Parts that a statement does not have are left out.
-/

namespace KeyedSql

/-- The name of a command in a document. -/
def Command.name : Command → String
  | select => "select"
  | insert => "insert"
  | update => "update"
  | delete => "delete"

/-- A bound value. -/
def Parameter.document (p : Parameter) : Document :=
  .table <|
    member "index" (.int p.index) ++
    member "property" (.text p.binding.property) ++
    member "value_type" (.text p.binding.type.text) ++
    optionalMember "sql_type" (p.binding.sqlType.map .text) ++
    optionalMember "type_handler" (p.binding.typeHandler.map .text)

/-- A column of the rows. -/
def RowColumn.document (c : RowColumn) : Document :=
  .table <|
    member "column" (.text c.column) ++
    member "property" (.text c.property) ++
    member "localized" (.bool c.localized)

/-- The shape of the rows. -/
def RowShape.document (r : RowShape) : Document :=
  .table <|
    member "component" (.text r.component.text) ++
    member "columns" (.list (r.columns.map (·.document))) ++
    member "localized" (.bool r.localized)

/-- The generation of keys. -/
def GeneratedKey.document (g : GeneratedKey) : Document :=
  .table <|
    member "property" (.text g.property) ++
    optionalMember "column" (g.column.map .text) ++
    member "generator" (.text g.generator.generator.className) ++
    optionalMember "sequence" (g.sequence.map .text) ++
    optionalMember "select_key" (g.selectKey.map .text)

/-- The part in caching. -/
def CacheUse.document (c : CacheUse) : Document :=
  .table <|
    member "use_cache" (.bool c.used) ++
    member "flush_cache_required" (.bool c.flushed) ++
    member "cache" (match c.cache with
      | some cache => .text cache.text
      | none => .null) ++
    (if c.invalidatedBy.isEmpty then []
      else member "invalidated_by" (Document.texts (c.invalidatedBy.map (·.text))))

/-- The members of a statement. -/
def Statement.members (s : Statement) : List (String × Document) :=
  member "id" (.text s.id) ++
  member "command" (.text s.sql.command.name) ++
  member "sql" (.text s.text) ++
  member "parameters" (.list (s.parameters.map (·.document))) ++
  optionalMember "result" (s.rows.map (·.document)) ++
  optionalMember "key_generator" (s.generatedKey.map (·.document)) ++
  member "cache" s.cache.document

/-- A statement. -/
def Statement.document (s : Statement) : Document :=
  .table s.members

end KeyedSql

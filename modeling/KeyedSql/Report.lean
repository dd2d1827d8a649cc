import KeyedSql.Document
import KeyedSql.Statement.Form

/-!
# Reports

What the command line prints about statements, links and localized columns: as text for a reader,
with colours on a terminal, or as JSON for a program.
-/

namespace KeyedSql

/-- The form of a report. -/
inductive ReportForm where
  | text
  | json
  deriving DecidableEq, Repr

/-- The terminal sequences around the parts of a text; a part without one is left plain. -/
structure Palette where
  header : Option String
  sql : Option String
  muted : Option String

namespace Palette

/-- A palette without any colour. -/
def plain : Palette :=
  ⟨none, none, none⟩

/-- Headers in bold cyan, SQL in green, asides in grey. -/
def colored : Palette :=
  ⟨some "\x1b[36;1m", some "\x1b[32m", some "\x1b[90m"⟩

/-- A text in a style. -/
def color (style : Option String) (text : String) : String :=
  match style with
  | some opening => opening ++ text ++ "\x1b[0m"
  | none => text

end Palette

namespace Report

/-- The title of a command. -/
def commandTitle : Command → String
  | .select => "Select"
  | .insert => "Insert"
  | .update => "Update"
  | .delete => "Delete"

/-- A line that begins with a label. -/
def line (label text : String) : String :=
  label ++ text ++ "\n"

/-- The line of a bound value. -/
def parameterLine (p : Parameter) : String :=
  let b := p.binding
  "  " ++ placeholder p.index ++ " <- " ++ b.property ++ " (" ++ b.type.text ++ ")" ++
    (match b.sqlType with
      | some t => " sql_type=" ++ t
      | none => "") ++
    (match b.typeHandler with
      | some h => " handler=" ++ h
      | none => "") ++ "\n"

/-- The line of the shape of rows. -/
def rowsLine (r : RowShape) : String :=
  line "Result:    " <|
    r.component.text ++ " [" ++ ", ".intercalate (r.columns.map (·.column)) ++ "]" ++
      (if r.localized then " (localized)" else "")

/-- The lines of the generation of keys. -/
def generationLines (palette : Palette) (g : GeneratedKey) : String :=
  line "Key:       " (g.property ++ " via " ++ g.generator.generator.className) ++
    match g.selectKey with
    | some query => line "Select key: " (Palette.color palette.sql query)
    | none => ""

/-- The lines of the part in caching. -/
def cacheLines (palette : Palette) (c : CacheUse) : String :=
  let cache := (c.cache.map (·.text)).getD "-"
  line "Cache:     " s!"{cache} (use_cache={c.used}, flush_cache_required={c.flushed})" ++
    if c.invalidatedBy.isEmpty then ""
    else line "Invalidated by: " <|
      Palette.color palette.muted (", ".intercalate (c.invalidatedBy.map (·.text)))

/-- The report on a statement. -/
def statement (s : Statement) (palette : Palette) : ReportForm → String
  | .json => Json.text s.document
  | .text =>
    line "Statement: " (Palette.color palette.header s.id) ++
    line "Command:   " (commandTitle s.sql.command) ++
    line "SQL:       " (Palette.color palette.sql s.text) ++
    String.join (s.parameters.map parameterLine) ++
    (s.rows.map rowsLine).getD "" ++
    (s.generatedKey.map (generationLines palette)).getD "" ++
    cacheLines palette s.cache

/-- The lines of a list. -/
def bullets (items : List String) : String :=
  String.join (items.map fun item => line "- " item)

/-- The report on the components linked to one. -/
def links (c : ComponentType) (links : List ComponentType) (palette : Palette) : ReportForm → String
  | .json =>
    Json.text <| .table <|
      member "component" (.text c.text) ++
      member "links" (Document.texts (links.map (·.text)))
  | .text =>
    let header := Palette.color palette.header c.text
    if links.isEmpty then line header " has no linked components"
    else line header s!" links to {links.length} components:" ++ bullets (links.map (·.text))

/-- The report on the localized columns of a component. -/
def localized (c : ComponentType) (uses : Bool) (properties : List String) (palette : Palette) :
    ReportForm → String
  | .json =>
    Json.text <| .table <|
      member "component" (.text c.text) ++
      member "uses_localized_column" (.bool uses) ++
      member "localized_properties" (Document.texts properties)
  | .text =>
    line (Palette.color palette.header c.text)
      (if uses then " uses localized columns" else " does not use localized columns") ++
    bullets properties

end Report

end KeyedSql

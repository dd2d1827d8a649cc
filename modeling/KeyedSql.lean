import KeyedSql.Main
import KeyedSql.Session
import KeyedSql.Proofs.Key.RoundTrip
import KeyedSql.Proofs.Name.Dotted
import KeyedSql.Proofs.Key.Faults
import KeyedSql.Proofs.Key.Reordering
import KeyedSql.Proofs.Key.Lexical
import KeyedSql.Proofs.Links.Closure
import KeyedSql.Proofs.Links.Localized
import KeyedSql.Proofs.Links.Walks
import KeyedSql.Proofs.Links.Direct
import KeyedSql.Proofs.Sql.Characters
import KeyedSql.Proofs.Sql.Clauses
import KeyedSql.Proofs.Sql.Placeholders
import KeyedSql.Proofs.Schema.Columns
import KeyedSql.Proofs.Schema.ValueType
import KeyedSql.Proofs.Schema.TypeGrammar
import KeyedSql.Proofs.Schema.Form
import KeyedSql.Proofs.Schema.Paths
import KeyedSql.Proofs.Schema.Resolution
import KeyedSql.Proofs.Schema.Registration
import KeyedSql.Proofs.Compile.Statements
import KeyedSql.Proofs.Compile.Dispatch
import KeyedSql.Proofs.Compile.Recognition
import KeyedSql.Proofs.Compile.Names
import KeyedSql.Proofs.Compile.Bindings
import KeyedSql.Proofs.Compile.Conditions
import KeyedSql.Proofs.Compile.Rows
import KeyedSql.Proofs.Compile.Updates
import KeyedSql.Proofs.Compile.KeyColumns
import KeyedSql.Proofs.Compile.Addressing
import KeyedSql.Proofs.Compile.Finders
import KeyedSql.Proofs.Compile.Localization
import KeyedSql.Proofs.Compile.LocalizedReport
import KeyedSql.Proofs.Compile.Generation
import KeyedSql.Proofs.Compile.Joins
import KeyedSql.Proofs.Compile.Invalidation
import KeyedSql.Proofs.Compile.Growth
import KeyedSql.Proofs.Compile.Registration
import KeyedSql.Proofs.Compile.CacheOrder
import KeyedSql.Proofs.Session.Runs
import KeyedSql.Proofs.Session.Named
import KeyedSql.Proofs.Project.Setup

import Sift.Command.Arguments
import Sift.Json.Reader
import Sift.Json.Writer
import Sift.Page
import Sift.Report
import Sift.Sql.TableQuery

/-!
# Commands

The four commands of the program.  `tokens` and `tree` look at a filter alone; `compile` and `sql`
compile a filter and a sort text against a registry that is read from a file.

`Command.parse` reads a command from the arguments of the program.  `Command.run` is what it
writes, given the text of the registry file if the file could be read.  Reading that file is left
to the caller.
-/

namespace Sift

/-! ## Commands -/

/-- The registry file and the texts of a query. -/
structure QueryRequest where
  registry : String
  filter : Option String
  sort : Option String
  deriving DecidableEq, Repr

/-- What a statement is asked to look like. -/
structure StatementRequest where
  table : String
  asName : Option String
  dialect : String
  page : Option UInt64
  perPage : Option UInt64
  /-- Whether to count the rows. -/
  count : Bool
  deriving DecidableEq, Repr

/-- A command of the program. -/
inductive Command where
  /-- Show the tokens of a filter. -/
  | tokens (filter : String)
  /-- Show the tree of a filter. -/
  | tree (filter : String) (maxDepth : Option UInt64) (json : Bool)
  /-- Show a compiled query. -/
  | compile (query : QueryRequest) (json : Bool)
  /-- Show the statement of a query. -/
  | sql (query : QueryRequest) (statement : StatementRequest)
  deriving DecidableEq, Repr

/-- The query in a list of arguments. -/
def QueryRequest.ofArguments (a : Arguments) : Except UsageError QueryRequest := do
  .ok ⟨← a.get "registry", a.get? "filter", a.get? "sort"⟩

/-- The statement in a list of arguments; the dialect is that of Postgres if none is given. -/
def StatementRequest.ofArguments (a : Arguments) : Except UsageError StatementRequest := do
  .ok ⟨← a.get "table", a.get? "alias", (a.get? "dialect").getD "postgres",
    ← a.getWord? "page", ← a.getWord? "per-page", a.has "count"⟩

namespace Command

/-- The command in the arguments of the program. -/
def parse : List String → Except UsageError Command
  | [] => .error .missingCommand
  | "tokens" :: rest => do
    let a ← Arguments.read ⟨[], ["filter"]⟩ rest
    .ok (.tokens (← a.get "filter"))
  | "tree" :: rest => do
    let a ← Arguments.read ⟨["json"], ["filter", "max-depth"]⟩ rest
    .ok (.tree (← a.get "filter") (← a.getWord? "max-depth") (a.has "json"))
  | "compile" :: rest => do
    let a ← Arguments.read ⟨["json"], ["registry", "filter", "sort"]⟩ rest
    .ok (.compile (← QueryRequest.ofArguments a) (a.has "json"))
  | "sql" :: rest => do
    let a ← Arguments.read ⟨["count"], ["registry", "filter", "sort", "table", "alias", "dialect",
      "page", "per-page"]⟩ rest
    .ok (.sql (← QueryRequest.ofArguments a) (← StatementRequest.ofArguments a))
  | name :: _ => .error (.unknownCommand name)

/-- The path of the registry file that the command needs, if it needs one. -/
def registryPath? : Command → Option String
  | .compile query _ => some query.registry
  | .sql query _ => some query.registry
  | _ => none

end Command

/-! ## Failures -/

/-- Why a command gives no answer. -/
inductive Failure where
  /-- The registry file could not be read. -/
  | unreadableRegistry
  /-- The registry file holds no registry definition. -/
  | malformedRegistry
  /-- The filter of a tree is ill formed. -/
  | malformedFilter (error : Filter.StructureError) (filter : String)
  /-- The registry or the query is wrong. -/
  | query (error : QueryError)
  /-- There is no such dialect. -/
  | unknownDialect (name : String)
  deriving DecidableEq, Repr

namespace Failure

/-- The wording of a failure. -/
def message : Failure → String
  | .unreadableRegistry => "Failed to read the registry file"
  | .malformedRegistry => "Failed to deserialize the registry file as JSON"
  | .malformedFilter error _ => error.message
  | .query error => error.message
  | .unknownDialect name => Sql.Dialect.unknownMessage name

/-- What is shown of the input before the failure is. -/
def notice : Failure → String
  | .malformedFilter error filter => error.report filter ++ "\n"
  | _ => ""

end Failure

/-! ## Running commands -/

namespace Command

/-- The depth limit that is asked for, or the standard one. -/
def depthLimit (maxDepth : Option UInt64) : Filter.DepthLimit :=
  match maxDepth with
  | some n => Filter.DepthLimit.ofNat n.toNat
  | none => Filter.DepthLimit.standard

/-- The definition in the text of a registry file. -/
def definition (file : Option String) : Except Failure RegistryDefinition :=
  match file with
  | none => .error .unreadableRegistry
  | some text =>
    match (Json.parse? text).bind RegistryDefinition.ofJson? with
    | some d => .ok d
    | none => .error .malformedRegistry

/-- The compiled form of a query, given the text of its registry file. -/
def compileQuery (query : QueryRequest) (file : Option String) : Except Failure Query := do
  let d ← definition file
  let r ← d.build.mapError .query
  (r.compile d.settings.depthLimit query.filter query.sort).mapError .query

/-- The table in a text.  The first dot separates the schema from the table. -/
def table (s : String) : Sql.Table :=
  match Text.cut '.' s.toList with
  | some (schema, name) => ⟨some (String.ofList schema), String.ofList name⟩
  | none => ⟨none, s⟩

/-- The page that is asked for, if there is a number or a size. -/
def paging? (request : StatementRequest) : Option Paging :=
  if request.page.isSome || request.perPage.isSome then
    some (Paging.ofNumbers (request.page.getD Paging.standard.page)
      (request.perPage.getD Paging.standard.perPage))
  else
    none

/-- The query on a table that a compiled query makes, with the page that is asked for. -/
def tableQuery (request : StatementRequest) (query : Query) : Sql.TableQuery :=
  let q := query.addTo (Sql.TableQuery.ofSource ⟨table request.table, request.asName⟩ .all)
  match paging? request with
  | some paging => Backend.limit (Backend.skip q paging.offset) paging.limit
  | none => q

/-- A JSON value as lines of text. -/
def jsonLines (j : Json) : String :=
  joinLines [j.pretty]

/-- What a command writes, given the text of the registry file if the file could be read. -/
def run (file : Option String) : Command → Except Failure String
  | .tokens filter => .ok (joinLines ((Filter.Token.scan filter).map Filter.Token.line))
  | .tree filter maxDepth json =>
    match Filter.Tree.parse (depthLimit maxDepth) filter with
    | .error e => .error (.malformedFilter e filter)
    | .ok none => .ok ""
    | .ok (some t) => .ok (if json then jsonLines t.toJson else joinLines [t.render])
  | .compile query json => do
    let compiled ← compileQuery query file
    .ok (if json then jsonLines compiled.toJson else joinLines compiled.lines)
  | .sql query request =>
    match Sql.Dialect.parse? request.dialect with
    | none => .error (.unknownDialect request.dialect)
    | some d => do
      let q := tableQuery request (← compileQuery query file)
      .ok (jsonLines (if request.count then q.countStatement d else q.statement d).toJson)

end Command

end Sift

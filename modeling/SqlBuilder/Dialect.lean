import SqlBuilder.Statement.Keyword

/-!
# Dialects

The SQL dialects that a statement can be rendered for, with the code that names each of them in
configurations and documents.  `Dialect.ofText?` reads a code in any ASCII letter case, with blanks
around it.
-/

namespace SqlBuilder

/-- The dialects of SQL. -/
inductive Dialect where
  | generic
  | sqlServer
  | mySql
  | postgres
  | sqlite
  | oracle
  | firebird
deriving DecidableEq, Inhabited

namespace Dialect

/-- All dialects. -/
def all : List Dialect :=
  [generic, sqlServer, mySql, postgres, sqlite, oracle, firebird]

/-- The name of the dialect in configurations and documents. -/
def code : Dialect → String
  | generic => "generic"
  | sqlServer => "sqlserver"
  | mySql => "mysql"
  | postgres => "postgres"
  | sqlite => "sqlite"
  | oracle => "oracle"
  | firebird => "firebird"

instance : Vocabulary Dialect where
  members := all
  name := code

/-- Reads a code in any ASCII letter case, with blanks around it. -/
def ofText? (s : String) : Option Dialect :=
  Vocabulary.ofName? (Text.toLowerAscii (Text.trim s))

end Dialect

end SqlBuilder

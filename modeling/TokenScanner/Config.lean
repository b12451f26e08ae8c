/-
Configurations of a scan.

A configuration names the symbols of the two tables, the patterns in use and the recovery: how much of the input becomes
one `error` token where no rule applies. It is made from the standard one by setting some of these.
-/
import TokenScanner.PatternSet
import TokenScanner.SymbolTable

namespace TokenScanner

/-- how much unrecognized input becomes one token -/
inductive Recovery where
  /-- one character -/
  | singleChar
  /-- all that is left -/
  | remainder
  deriving DecidableEq, Repr

/-- the names and choices a lexer is made from -/
structure Config where
  twoChar : List String
  oneChar : List String
  patterns : PatternSet
  recovery : Recovery
  deriving DecidableEq, Repr

namespace Config

/-- the standard language -/
def standard : Config where
  twoChar := SymbolTable.standardTwo.names
  oneChar := SymbolTable.standardOne.names
  patterns := .full
  recovery := .singleChar

/-- the configuration with another recovery -/
def withRecovery (c : Config) (recovery : Recovery) : Config :=
  { c with recovery }

/-- the configuration with other patterns -/
def withPatterns (c : Config) (patterns : PatternSet) : Config :=
  { c with patterns }

/-- the configuration with other names for the table of one character -/
def withOneChar (c : Config) (names : List String) : Config :=
  { c with oneChar := names }

/-- the configuration with other names for the table of two characters -/
def withTwoChar (c : Config) (names : List String) : Config :=
  { c with twoChar := names }

end Config

end TokenScanner

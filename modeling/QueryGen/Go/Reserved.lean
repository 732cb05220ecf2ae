/-!
# Names that generated code declares

A generated method body declares a few variables of its own. Templates and signatures keep clear
of them.

- `sqlBuilder`, `bindings`, `execution`: the builder of the statement, the container of bound
  values, and the executed statement.
- `whereBuilder`, `setBuilder`, `loopIndex`: numbered families.
- `isReserved`: whether an identifier is one of them.
-/

namespace QueryGen.Reserved

def sqlBuilder : String := "generateSQL"

def bindings : String := "params"

def execution : String := "executeSQL"

/-- The name that stands for the table in a template. -/
def table : String := "table"

def wherePrefix : String := "whereSQL"

def setPrefix : String := "setSQL"

def loopPrefix : String := "forIndex"

/-- The builder of the `n`-th `where` block. -/
def whereBuilder (n : Nat) : String := wherePrefix ++ n.repr

/-- The builder of the `n`-th `set` block. -/
def setBuilder (n : Nat) : String := setPrefix ++ n.repr

/-- The `n`-th generated loop variable. -/
def loopIndex (n : Nat) : String := loopPrefix ++ n.repr

/-- Whether `ident` is a family name followed by digits alone. -/
def inFamily (family ident : String) : Bool :=
  match family.toList.isPrefixOf? ident.toList with
  | some digits => digits.all Char.isDigit
  | none => false

/-- Whether generated code may declare `ident`. -/
def isReserved (ident : String) : Bool :=
  ident == sqlBuilder || ident == bindings || ident == execution ||
    [wherePrefix, setPrefix, loopPrefix].any (inFamily · ident)

theorem isReserved_sqlBuilder : isReserved sqlBuilder = true := by
  simp [isReserved]

theorem isReserved_bindings : isReserved bindings = true := by
  simp [isReserved]

end QueryGen.Reserved

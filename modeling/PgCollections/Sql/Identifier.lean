/-!
# Quoted identifiers

An identifier stands between double quotes, and a double quote inside it is written twice, so that
any text is a name.
-/

namespace PgCollections

/-- Writes every double quote twice. -/
def doubleQuotes : List Char → List Char
  | [] => []
  | c :: rest => if c = '"' then '"' :: '"' :: doubleQuotes rest else c :: doubleQuotes rest

def quoteIdentifier (name : String) : String :=
  String.ofList ('"' :: doubleQuotes name.toList ++ ['"'])

def quoteIdentifiers (names : List String) : String :=
  ",".intercalate (names.map quoteIdentifier)

end PgCollections

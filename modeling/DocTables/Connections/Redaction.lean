/-
# Connection texts without their passwords

A connection text can hold a user and a password in front of its host.  What is shown of it has
asterisks in the place of the password.
-/
import DocTables.Text.Cut

namespace DocTables.Connections

/-- What stands in the place of a password. -/
def mask : List Char := "****".toList

/-- The characters of a connection text as they may be shown. -/
def redactChars (cs : List Char) : List Char :=
  let redacted? := do
    let (scheme, rest) ← Text.cut? "://".toList cs
    let (credentials, host) ← Text.cut? ['@'] rest
    let (user, _) ← Text.cut? [':'] credentials
    return scheme ++ "://".toList ++ user ++ ':' :: mask ++ '@' :: host
  redacted?.getD cs

/-- A connection text as it may be shown: of the form scheme, user, password and host, it loses the
password; any other is shown as it is. -/
def redact (connection : String) : String := String.ofList (redactChars connection.toList)

end DocTables.Connections

import TreeLint.Credential.Placeholder
import TreeLint.Text.Lowercase

/-!
# User info in addresses

An address of the form `scheme://login:password@` carries a credential. Only the first such
address of a text is looked at; its password counts unless it repeats the login, is a lone
separator, or is a placeholder.
-/

namespace TreeLint
namespace Credential

open Text

/-- The marks that may stand in the user info of an address, besides word characters. -/
def userInfoMarks : List Char :=
  ['-', '.', '_', '~', '%', '!', '$', '&', '\'', '(', ')', '*', '+', ',', ';', '=']

/-- A character of a login or of a password in an address. -/
def isUserInfoChar (c : Char) : Bool :=
  isWordChar c || userInfoMarks.contains c

/-- A login with its password. -/
structure UserInfo where
  login : List Char
  password : List Char
deriving DecidableEq, Repr

/-- The characters of a class at the front of a text, if there are any, with the rest. -/
def someOf?
    (p : Char → Bool)
    (cs : List Char) :
    Option (List Char × List Char) :=
  match cs.takeWhile p with
  | [] => none
  | run => some (run, cs.dropWhile p)

/-- The user info of an address that starts at the front of a text. -/
def userInfoAt? (cs : List Char) : Option UserInfo := do
  let (_, cs) ← someOf? isWordChar cs
  let cs ← afterPiece? [':', '/', '/'] cs
  let (login, cs) ← someOf? isUserInfoChar cs
  let cs ← afterPiece? [':'] cs
  let (password, cs) ← someOf? isUserInfoChar cs
  let _ ← afterPiece? ['@'] cs
  some ⟨login, password⟩

/-- The user info of the first address in a text that has one. -/
def firstUserInfo? : List Char → Option UserInfo
  | [] => none
  | c :: cs => (userInfoAt? (c :: cs)).or (firstUserInfo? cs)

/-- Whether a login and a password look like a real pair. -/
def UserInfo.isReal
    (u : UserInfo) :
    Bool :=
  lower u.login != lower u.password && u.password != [separator] && !isPlaceholder u.password

/-- Whether the first address with user info in a text holds a real password. -/
def hasUserInfo (cs : List Char) : Bool :=
  (firstUserInfo? cs).any UserInfo.isReal

end Credential
end TreeLint

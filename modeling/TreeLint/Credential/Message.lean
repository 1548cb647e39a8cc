import TreeLint.Credential.WordSet
import TreeLint.Credential.UserInfo

/-!
# Messages about credentials

What is said about a text assigned to a name: the words found, or else the address with user info.
-/

namespace TreeLint
namespace Credential

open Text

def userInfoMessage : String :=
  "Review this hard-coded URI, which may contain a credential."

/-- The message about a list of words. -/
def wordsMessage (words : List (List Char)) : String :=
  "\"" ++ String.intercalate ", " (words.map String.ofList) ++
    "\" detected here, make sure this is not a hard-coded credential."

/-- The message about a text assigned to a name, if it looks like a credential. -/
def message? (set : WordSet) (name value : String) : Option String :=
  if (trim value.toList).isEmpty then none
  else
    match set.find name.toList value.toList with
    | [] => if hasUserInfo value.toList then some userInfoMessage else none
    | words => some (wordsMessage words)

end Credential
end TreeLint

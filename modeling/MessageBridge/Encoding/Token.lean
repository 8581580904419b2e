import MessageBridge.Encoding.Reader

/-!
# Tokens of a type string

The object space stores the type strings of methods unchecked. To count arguments and to copy out
single types it only has to know where one type ends and the next begins, so it cuts a type string
into tokens without understanding them. A token keeps its qualifiers, and the stack offsets between
tokens are dropped.

## Main definitions

* `Token.Cut` : why a type string cannot be cut.
* `Token.skipType` : the characters after the type at the front.
* `Token.cut` : the tokens of a type string.
-/

namespace MessageBridge.Token

open Encoding

/-- Why a type string cannot be cut into tokens. -/
inductive Cut where
  /-- The string ends in the middle of a type. -/
  | truncated
  /-- A token of one byte would end inside a character of several bytes. -/
  | insideCharacter
deriving DecidableEq, Repr

/-- The result of closing a group, `none` where the string ends first. -/
def orTruncated : Option (List Char) → Except Cut (List Char)
  | some rest => .ok rest
  | none => .error .truncated

/-- The characters after the type at the front. Qualifiers and pointer signs belong to the type after
them, groups run to their closing bracket, and any other type is one byte long. -/
def skipType : List Char → Except Cut (List Char)
  | [] => .error .truncated
  | c :: rest =>
    if isQualifier c || c == '^' then skipType rest
    else if c = '\x7b' then orTruncated (closeGroup '\x7b' '\x7d' 0 false (c :: rest))
    else if c = '(' then orTruncated (closeGroup '(' ')' 0 false (c :: rest))
    else if c = '[' then orTruncated (closeGroup '[' ']' 0 false (c :: rest))
    else if c = 'b' then .ok (skipOffset rest)
    else if c = '@' then
      match rest with
      | '?' :: rest => .ok rest
      | '"' :: rest =>
        match rest.dropWhile (· != '"') with
        | _ :: rest => .ok rest
        | [] => .error .truncated
      | rest => .ok rest
    else if c.utf8Size = 1 then .ok rest
    else .error .insideCharacter

/-- Cuts the characters into tokens, at most `count` of them. -/
def cutAll : Nat → List Char → Except Cut (List String)
  | 0, _ => .ok []
  | count + 1, s =>
    match s with
    | [] => .ok []
    | _ :: _ => do
      let rest ← skipType s
      let tokens ← cutAll count (skipOffset rest)
      return textBetween s rest :: tokens

/-- The tokens of a type string, the return type first. -/
def cut (types : String) : Except Cut (List String) :=
  cutAll types.toList.length types.toList

end MessageBridge.Token

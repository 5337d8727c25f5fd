import Parley.Markup

/-!
What a person answers to a question, cleaned before it becomes a variable: no control characters,
bounded length, no markup, and no double braces that could act as a placeholder later.
-/

namespace Parley.Reply

open Parley.Text

/-- A text with a space between every two adjacent braces `brace`, scanned from the left in pairs. -/
def splitPairs (brace : Char) : List Char → List Char
  | a :: b :: rest =>
    if a = brace ∧ b = brace then a :: ' ' :: b :: splitPairs brace rest
    else a :: splitPairs brace (b :: rest)
  | rest => rest

def breakBraces (text : List Char) : List Char := splitPairs '}' (splitPairs '{' text)

def maxLength : Int := 2000

/-- Control characters are dropped except tab, line feed and carriage return. -/
def isKept (c : Char) : Bool := c = '\n' || c = '\t' || c = '\r' || 32 ≤ c.toNat

/-- The first `limit` characters; a negative limit counts from the end. -/
def cut (limit : Int) (text : List Char) : List Char :=
  if (text.length : Int) ≤ limit then text
  else if limit < 0 then text.take (text.length + limit).toNat
  else text.take limit.toNat

def cleanChars (limit : Int) (text : List Char) : List Char :=
  trim (breakBraces (Markup.strip (cut limit (text.filter isKept))))

def clean (reply : String) : String := String.ofList (cleanChars maxLength reply.toList)

end Parley.Reply

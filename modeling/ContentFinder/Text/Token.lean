import ContentFinder.Text.LowerCase
import ContentFinder.Text.Alphanumeric
import ContentFinder.Text.Blank

/-! Tokens are the units of full-text search: the runs of letters and numbers of the lower-case
text. A search text asks for terms, and a term is a token or the beginning of one. -/

namespace ContentFinder.Text

def tokens (text : String) : List String :=
  (pieces (! isAlphanumeric ·) (lower text.toList)).map String.ofList

structure Term where
  token : String
  /-- Whether a longer token that begins with this one will do. -/
  opens : Bool
deriving DecidableEq, Repr

def Term.accepts (term : Term) (token : String) : Bool :=
  if term.opens then term.token.toList.isPrefixOf token.toList else token == term.token

/-- The terms of one word. Stars at its end leave its last token open. -/
def wordTerms (word : List Char) : List Term :=
  let starred := word.getLast? == some '*'
  let bare := (word.reverse.dropWhile (· == '*')).reverse
  let parts := tokens (String.ofList bare)
  parts.dropLast.map (⟨·, false⟩) ++ parts.getLast?.toList.map (⟨·, starred⟩)

def terms (text : String) : List Term :=
  (words text.toList).flatMap wordTerms

end ContentFinder.Text

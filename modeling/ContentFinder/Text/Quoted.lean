import ContentFinder.Text.Unseen

/-! Texts between quotation marks, as messages show them. -/

namespace ContentFinder.Text

def quotedLetter? (c : Char) : Option Char :=
  match c with
  | '\x00' => some '0'
  | '\t' => some 't'
  | '\r' => some 'r'
  | '\n' => some 'n'
  | '\\' => some '\\'
  | '"' => some '"'
  | _ => none

def quotedChar (c : Char) : List Char :=
  match quotedLetter? c with
  | some letter => ['\\', letter]
  | none =>
    if isUnseen c then ['\\', 'u', '\x7b'] ++ Nat.toDigits 16 c.toNat ++ ['\x7d'] else [c]

def quoted (text : String) : String :=
  String.ofList ('"' :: text.toList.flatMap quotedChar ++ ['"'])

def quotedList (texts : List String) : String :=
  "[" ++ String.intercalate ", " (texts.map quoted) ++ "]"

end ContentFinder.Text

import ShardStore.Document.Cursor

/-!
# Tokens of a document

The pieces that a document is made of. Block structure has tokens of its own: a collection that is shown by indentation
alone starts and ends with a token, as a bracketed one does.
-/

namespace ShardStore

/-- How a scalar is written. -/
inductive ScalarStyle where
  | plain
  | singleQuoted
  | doubleQuoted
  | literal
  | folded
deriving DecidableEq

/-- What a token says. -/
inductive TokenKind where
  /-- The version that a document says it is written in. -/
  | version (major minor : Nat)
  /-- What a tag handle stands for. -/
  | handle (name text : String)
  | documentStart
  | documentEnd
  | blockSequence
  | blockMapping
  | blockEnd
  | openBracket
  | closeBracket
  | openBrace
  | closeBrace
  | entry
  | comma
  | key
  | value
  | alias (name : String)
  | anchor (name : String)
  | tag (handle suffix : String)
  | scalar (style : ScalarStyle) (text : String)
  | finish
deriving DecidableEq

/-- A token with the places where it starts and stops. -/
structure Token where
  kind : TokenKind
  start : Position
  stop : Position

end ShardStore

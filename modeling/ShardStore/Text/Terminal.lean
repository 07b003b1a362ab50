/-!
# Terminal controls

What is left of a text when the control sequences of terminals are taken out of it, as for an output that is no terminal.
-/

namespace ShardStore

/-- Where in a control sequence a text stands. -/
inductive ControlState where
  /-- Outside of sequences. -/
  | plain
  /-- Behind the escape character. -/
  | escape
  /-- Behind the escape character and the signs that ask for one more. -/
  | escapeMore
  /-- In a sequence with numbers. -/
  | numbers
  /-- In a command for the window system, which a bell ends. -/
  | command
  /-- In the numbers in front of a text for a device. -/
  | deviceNumbers
  /-- In a text that only the terminal reads. -/
  | hidden
deriving DecidableEq

namespace ControlState

/-- The controls that leave a blank. -/
def isBlankControl (c : Char) : Bool := c == '\t' || c == '\n' || c == '\x0c' || c == '\r'

/-- Whether a character is shown. Controls that leave a blank are carried out even within the simpler sequences. -/
def shows (s : ControlState) (c : Char) : Bool :=
  match s with
  | .plain => isBlankControl c || (' ' ≤ c && c ≠ '\x7f')
  | .escape | .escapeMore | .numbers => isBlankControl c
  | .command | .deviceNumbers | .hidden => false

/-- Whether one of the bytes of a character is the terminator of hidden texts. -/
def endsHidden (c : Char) : Bool := (String.singleton c).toUTF8.toList.contains 0x9c

/-- The state behind a character. -/
def next (s : ControlState) (c : Char) : ControlState :=
  if c == '\x1b' then .escape
  else if c == '\x18' || c == '\x1a' then .plain
  else
    let isFinal := '@' ≤ c && c ≤ '~'
    match s with
    | .plain => .plain
    | .escape =>
      if c == '[' then .numbers
      else if c == ']' then .command
      else if c == 'P' then .deviceNumbers
      else if c == 'X' || c == '^' || c == '_' then .hidden
      else if ' ' ≤ c && c ≤ '/' then .escapeMore
      else if '0' ≤ c && c ≤ '~' then .plain
      else .escape
    | .escapeMore => if '0' ≤ c && c ≤ '~' then .plain else .escapeMore
    | .numbers => if isFinal then .plain else .numbers
    | .command => if c == '\x07' then .plain else .command
    | .deviceNumbers => if isFinal then .hidden else .deviceNumbers
    | .hidden => if endsHidden c then .plain else .hidden

end ControlState

/-- Takes control sequences out of a text. `showing` says that the last character was shown: what follows is then shown as
it is outside of sequences, though a sequence that was going on goes on behind it. -/
def withoutControls (s : ControlState) (showing : Bool) : List Char → List Char
  | [] => []
  | c :: rest =>
    if (if showing then ControlState.plain else s).shows c then
      c :: withoutControls (if c ≤ '~' then s else .plain) true rest
    else withoutControls (s.next c) false rest

/-- What a text shows on an output that is no terminal. -/
def shownText (text : String) : String := String.ofList (withoutControls .plain false text.toList)

end ShardStore

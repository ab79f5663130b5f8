import ChatServer.Json.Tree

/-!
How a reader comes past a value. Where a value cannot be read, a reader may be told to do without
it, and then goes on from where it gave up. That helps only if it gave up at the very end of the
value: from the inside of a value nothing that follows makes sense. The main definition is
`Tree.passage`; a value is readable when it is read and nothing in it is refused.
-/

namespace ChatServer.Json

/-- How a reader comes past a value. -/
inductive Passage where
  /-- The value is read. -/
  | read
  /-- The value is refused, and the reader stands right behind it. -/
  | refused
  /-- The reader stands inside the value. -/
  | stuck
  deriving DecidableEq

/-! ## Strings -/

/-- Does a body end with the first half of a pair of surrogates, and is it in order up to there?
A reader that looks for the second half takes the closing quote for its beginning, and so gives
up right behind the string. -/
def endsInHalfPair (body : List UInt8) : Bool :=
  let size := body.length - 6
  match body.drop size with
  | [bar, u, a, b, c, d] =>
    bar == backslash && u == 0x75 && (hexFour? a b c d).any isHighSurrogate
      && (unescape (body.take size)).isSome
  | _ => false

/-- The passage of a string. Its bytes are put together first, and whether they are a text is
asked behind its end. -/
def bodyPassage (body : List UInt8) : Passage :=
  match unescape body with
  | some bytes => if (Text.ofUtf8? bytes).isSome then .read else .refused
  | none => if endsInHalfPair body then .refused else .stuck

/-! ## Numbers -/

/-- Does a reader give up before the last digit of the exponent? It does at a digit that takes a
positive exponent out of 32 bits, unless the number is zero whatever its exponent. -/
def Numeral.overrunsExponent (n : Numeral) : Bool :=
  match n.exponent with
  | some (false, run) =>
    n.kept.significand != 0 && Int32.maxValue.toInt < ofDigits run.dropLast
  | _ => false

/-- The passage of a number. -/
def Numeral.passage (n : Numeral) : Passage :=
  if n.overrunsExponent then .stuck else if n.isFinite then .read else .refused

/-! ## Values -/

/-- The passage of a container whose next part is passed like `first` and whose other parts like
`others`. What is refused can be passed only where the container ends behind it. -/
def Passage.then (first : Passage) (isLast : Bool) (others : Passage) : Passage :=
  match first with
  | .read => others
  | .refused => if isLast then .refused else .stuck
  | .stuck => .stuck

/-- A container is read when all its parts are. -/
theorem Passage.then_eq_read_iff {first others : Passage} {isLast : Bool}
    : first.then isLast others = .read ↔ first = .read ∧ others = .read := by
  cases first <;> cases isLast <;> simp [Passage.then]

namespace Tree

mutual

/-- The passage of a value by a reader that goes `depth` containers deep. -/
def passage (depth : Nat) : Tree → Passage
  | null => .read
  | bool _ => .read
  | number numeral => numeral.passage
  | string body => bodyPassage body
  | array items => if depth = 0 then .stuck else itemsPassage (depth - 1) items
  | object members => if depth = 0 then .stuck else membersPassage (depth - 1) members

/-- The passage of the items of an array. -/
def itemsPassage (depth : Nat) : List Tree → Passage
  | [] => .read
  | item :: items => (item.passage depth).then items.isEmpty (itemsPassage depth items)

/-- The passage of the members of an object. A reader that refuses a key stands before the
value. -/
def membersPassage (depth : Nat) : List (List UInt8 × Tree) → Passage
  | [] => .read
  | (key, value) :: members =>
    if (text? key).isSome then
      (value.passage depth).then members.isEmpty (membersPassage depth members)
    else
      .stuck

end

/-- The items of an array are read when each of them is. -/
theorem itemsPassage_eq_read_iff {depth : Nat} {items : List Tree}
    : itemsPassage depth items = .read ↔ ∀ item ∈ items, item.passage depth = .read := by
  induction items with
  | nil => simp [itemsPassage]
  | cons item items ih => simp [itemsPassage, Passage.then_eq_read_iff, ih]

/-- How deep containers may be nested in a value that is read whole. -/
def maxDepth : Nat := 127

/-- Can the value be read, so that its strings are texts, its numbers finite, and its containers
nested no deeper than `depth`? -/
def isReadable (depth : Nat) (tree : Tree) : Bool :=
  tree.passage depth = .read

end Tree

end ChatServer.Json

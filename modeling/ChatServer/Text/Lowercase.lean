import ChatServer.Text.CaseMapping
import ChatServer.Text.CaseClasses

/-!
Lower-casing of whole texts by Unicode's full mapping. Every character but two goes to its
simple lower-case form. The capital I with a dot goes to an i and a combining dot. A capital
sigma goes to the final form at the end of a word and to the common form elsewhere, so its
image depends on what stands around it.
-/

namespace ChatServer.Text

/-- The capital sigma, whose lower-case form depends on its place. -/
def capitalSigma : Char := 'Σ'

/-- The lower-case form of a character on its own. -/
def lowerAlone (c : Char) : List Char :=
  if c = 'İ' then ['i', '\u0307'] else [Char.ofNat (lowerCodePoint c.toNat)]

/-- Does the first character that casing does not look through have case? -/
def facesCased (cs : List Char) : Bool :=
  match cs.find? (!isCaseIgnorable ·) with
  | some c => isCased c
  | none => false

/-- A letter stands at the end of a word when a cased letter comes before it and none after it.
The text before is given backwards, nearest character first. -/
def endsWord (before after : List Char) : Bool :=
  facesCased before && !facesCased after

/-- The lower-case form of a character between the text before it, given backwards, and the
text after it. -/
def lowerBetween (before : List Char) (c : Char) (after : List Char) : List Char :=
  if c = capitalSigma then
    if endsWord before after then ['ς'] else ['σ']
  else
    lowerAlone c

/-- The lower-case form of a text that follows `before`, which is given backwards. -/
def lowercaseAfter (before : List Char) : List Char → List Char
  | [] => []
  | c :: after => lowerBetween before c after ++ lowercaseAfter (c :: before) after

def lowercase (cs : List Char) : List Char :=
  lowercaseAfter [] cs

/-- Without a capital sigma the mapping looks at one character at a time. -/
theorem lowercaseAfter_eq_flatMap {before cs : List Char} (h : capitalSigma ∉ cs)
    : lowercaseAfter before cs = cs.flatMap lowerAlone := by
  induction cs generalizing before with
  | nil => rfl
  | cons c cs ih =>
    have other : c ≠ capitalSigma := fun same => h (by simp [same])
    have rest : capitalSigma ∉ cs := fun mem => h (List.mem_cons_of_mem _ mem)
    simp [lowercaseAfter, lowerBetween, other, ih rest]

end ChatServer.Text

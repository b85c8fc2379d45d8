import CommandConsole.Text.Blank
import CommandConsole.Text.Decimal

/-!
# Captcha challenges

A challenge asks for the sum of two numbers. Its answer is judged by value: the text without the
blanks around it has to be a decimal integer equal to the sum, and the sum is exact. A text that is
no integer, or one outside the signed 64-bit range, is wrong.
-/

namespace CommandConsole

/-- A question for the sum of two numbers, under an identifier. -/
structure Challenge where
  id : String
  left : UInt32
  right : UInt32
  deriving DecidableEq, Repr

/-- What is shown of a challenge: never the sum. -/
structure ChallengeView where
  id : String
  question : String
  deriving DecidableEq, Repr

namespace Challenge

/-- The least and the greatest number a question asks about. -/
def operandRange : Nat × Nat := (1, 10)

/-- The exact sum. -/
def sum (c : Challenge) : Nat := c.left.toNat + c.right.toNat

/-- The question as it is put. -/
def question (c : Challenge) : String :=
  "What is " ++ toString c.left.toNat ++ " + " ++ toString c.right.toNat ++ "?"

/-- What is shown of the challenge. -/
def view (c : Challenge) : ChallengeView := { id := c.id, question := c.question }

/-- The answer is right. -/
def accepts (c : Challenge) (answer : String) : Bool :=
  Text.int64? (Text.trim answer.toList) == some (c.sum : Int)

/-- An answer can be submitted once something has been typed. -/
def canSubmit (answer : String) : Bool := !Text.allBlank answer

end Challenge

end CommandConsole

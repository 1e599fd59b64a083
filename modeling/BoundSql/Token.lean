/-!
# Tokens

A `Token` stands in SQL text for one value.  It is written as the sigil of the registry
that issued it, followed by its number.  A token also carries the `Lifetime` of that
registry, by which two tokens that are written alike are told apart.
-/

namespace BoundSql

/-- The time between two resets of one registry: which registry it is, and how often it
has been reset before. -/
structure Lifetime where
  origin : Nat
  epoch : Nat
deriving DecidableEq

/-- The lifetime that a reset begins. -/
def Lifetime.next (lifetime : Lifetime) : Lifetime :=
  { lifetime with epoch := lifetime.epoch + 1 }

/-- What stands in SQL text for one value. -/
structure Token where
  id : Nat
  sigil : String
  lifetime : Lifetime
deriving DecidableEq

/-- The text of the token with a sigil and a number. -/
def tokenName (sigil : String) (id : Nat) : String := sigil ++ toString id

/-- The text of a token. -/
def Token.name (token : Token) : String := tokenName token.sigil token.id

/-- The characters of a token are those of its sigil and the decimal digits of its
number. -/
theorem toList_tokenName (sigil : String) (id : Nat) :
  (tokenName sigil id).toList = sigil.toList ++ Nat.toDigits 10 id
  := by
  simp [tokenName, String.toList_append, toString, Nat.repr]

end BoundSql

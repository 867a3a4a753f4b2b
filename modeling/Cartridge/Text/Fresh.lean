/-!
Choosing a name that is not taken from an endless supply of candidates.
-/

namespace Cartridge.Text

/-- The first candidate from number `n` on that is not taken, looking no further than `tries`
candidates. Among more candidates than there are names taken, one is free. -/
def fresh (taken : String → Bool) (candidate : Nat → String) (n : Nat) : Nat → String
  | 0 => candidate n
  | tries + 1 => if taken (candidate n) then fresh taken candidate (n + 1) tries else candidate n

end Cartridge.Text
